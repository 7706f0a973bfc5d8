import Shading.Fault

/-!
Reading a blob. A blob starts with two 16-bit numbers, the offset of its first record and the
format version; then comes the string table, and after it the records. Numbers are little-endian. A
string is a reference to a place in the blob that holds a length byte and the bytes of the text.
-/

namespace Shading

/-- What is wrong with the header of a blob. -/
inductive HeaderFault where
  | truncated (length : Nat)
  | tableOutOfBounds (stop length : Nat)
  | version (found expected : UInt16)
  deriving DecidableEq, Repr

def HeaderFault.message : HeaderFault → String
  | truncated length => s!"blob is {length} bytes, too short for a header"
  | tableOutOfBounds stop length =>
    s!"string table ends at offset {stop}, outside the {length}-byte blob"
  | version found expected =>
    s!"blob format version {found} does not match decoder version {expected}"

/-- The number of bytes before the string table. -/
def headerLength : Nat := 4

/-- The number that bytes stand for, the least significant byte first. -/
def ofLittleEndian (bytes : List UInt8) : Nat :=
  bytes.foldr (fun byte rest => byte.toNat + 256 * rest) 0

/-- So many bytes of a number, the least significant byte first. -/
def toLittleEndian : Nat → Nat → List UInt8
  | 0, _ => []
  | count + 1, value => UInt8.ofNat value :: toLittleEndian count (value / 256)

/-- A blob and the offset of the next byte to read. -/
structure Reader where
  bytes : Array UInt8
  offset : Nat
  deriving DecidableEq, Repr

namespace Reader

/-- Checks the header of a blob and stands at its first record. -/
def start (bytes : Array UInt8) : Except HeaderFault Reader :=
  match bytes.toList with
  | stopLow :: stopHigh :: versionLow :: versionHigh :: _ =>
    let version := UInt16.ofNat (ofLittleEndian [versionLow, versionHigh])
    let stop := ofLittleEndian [stopLow, stopHigh]
    if version ≠ formatVersion then .error (.version version formatVersion)
    else if stop < headerLength ∨ bytes.size < stop then
      .error (.tableOutOfBounds stop bytes.size)
    else .ok { bytes, offset := stop }
  | _ => .error (.truncated bytes.size)

/-- The number of bytes from the offset to the end of the blob. -/
def remaining (reader : Reader) : Nat :=
  reader.bytes.size - reader.offset

end Reader

/-- A step of reading: it gives a value or a fault, and moves the reader on in both cases. -/
abbrev Read := ExceptT Fault (StateM Reader)

namespace Read

/-- The next bytes; nothing is read if there are not so many. -/
def bytes (count : Nat) : Read (List UInt8) := do
  let reader ← get
  if reader.offset + count ≤ reader.bytes.size then
    set { reader with offset := reader.offset + count }
    return (reader.bytes.extract reader.offset (reader.offset + count)).toList
  else throw (.truncated count reader.offset reader.bytes.size)

/-- The next so many bytes as a number. -/
def number (count : Nat) : Read Nat :=
  return ofLittleEndian (← bytes count)

def u8 : Read UInt8 := return UInt8.ofNat (← number 1)
def s8 : Read Int8 := return (← u8).toInt8
def u16 : Read UInt16 := return UInt16.ofNat (← number 2)
def s16 : Read Int16 := return (← u16).toInt16
def u32 : Read UInt32 := return UInt32.ofNat (← number 4)
def s32 : Read Int32 := return (← u32).toInt32

/-- Any byte but zero is true. -/
def bool : Read Bool := return (← u8) != 0

def command : Read Command := do
  let byte ← u8
  match Command.ofByte? byte with
  | some command => return command
  | none => throw (.unknownCommand byte ((← get).offset - 1))

def textAt (blob : Array UInt8) (offset : Nat) : Except Fault String :=
  match blob[offset]? with
  | none => .error (.stringOutside offset blob.size)
  | some length =>
    if offset + 1 + length.toNat ≤ blob.size then
      match Utf8.decode (blob.extract (offset + 1) (offset + 1 + length.toNat)).toList with
      | .ok text => .ok text
      | .error invalid => .error (.stringEncoding offset invalid)
    else .error (.stringOverrun offset)

/-- A text, which the records refer to by its offset. -/
def string : Read String := do
  let offset ← u16
  textAt (← get).bytes offset.toNat

end Read

end Shading
