import Shading.Blob.Reader
import Shading.Modifiers

/-!
Writing a blob. Strings and records are kept apart until the blob is finished; since the header has
a fixed length, the offset of a string is known as soon as it enters the string table, and a string
that is written again is found there.
-/

namespace Shading

/-- A blob in the making. -/
structure Writer where
  strings : Array UInt8 := #[]
  /-- The offsets of the strings in the table. -/
  offsets : List (String × UInt16) := []
  records : Array UInt8 := #[]
  deriving DecidableEq, Repr

namespace Writer

def put (writer : Writer) (bytes : List UInt8) : Writer :=
  { writer with records := writer.records ++ bytes }

def u8 (writer : Writer) (value : UInt8) : Writer := writer.put [value]

def s8 (writer : Writer) (value : Int8) : Writer := writer.u8 value.toUInt8

def u16 (writer : Writer) (value : UInt16) : Writer := writer.put (toLittleEndian 2 value.toNat)

def s16 (writer : Writer) (value : Int16) : Writer := writer.u16 value.toUInt16

def u32 (writer : Writer) (value : UInt32) : Writer := writer.put (toLittleEndian 4 value.toNat)

def s32 (writer : Writer) (value : Int32) : Writer := writer.u32 value.toUInt32

def bool (writer : Writer) (value : Bool) : Writer := writer.u8 (if value then 1 else 0)

def command (writer : Writer) (value : Command) : Writer := writer.u8 value.toByte

/-- The offset at which the next string would start, which is where the string table ends. -/
def tableEnd (writer : Writer) : Nat := headerLength + writer.strings.size

/-- The offset of a string, which enters the table unless it is there already. -/
def intern (writer : Writer) (text : String) : Except Fault (UInt16 × Writer) := do
  match writer.offsets.lookup text with
  | some offset => return (offset, writer)
  | none =>
    let bytes := Utf8.encode text
    ensure (bytes.length ≤ 255) (.stringTooLong text)
    ensure (writer.tableEnd ≤ 65535) .stringTableFull
    let offset := UInt16.ofNat writer.tableEnd
    return (offset, { writer with
      strings := writer.strings ++ (UInt8.ofNat bytes.length :: bytes)
      offsets := (text, offset) :: writer.offsets })

def string (writer : Writer) (text : String) : Except Fault Writer := do
  let (offset, writer) ← writer.intern text
  return writer.u16 offset

/-- Writes a layout in the shortest of its three forms. The wire has one byte for most numbers, and
a larger number is cut to its low byte. -/
def layout (writer : Writer) (value : Layout) : Except Fault Writer := do
  if value.isDefault then return writer.command .defaultLayout
  if value == Layout.ofBuiltin value.builtin then
    return (writer.command .builtinLayout).s16 value.builtin.toInt16
  let writer := (writer.command .fullLayout).u32 value.flags
  let writer := writer.s8 value.location.toInt8
  let writer := writer.s8 value.offset.toInt8
  let writer := writer.s8 value.binding.toInt8
  let writer := writer.s8 value.index.toInt8
  let writer := writer.s8 value.set.toInt8
  let writer := writer.s16 value.builtin.toInt16
  let writer := writer.s8 value.inputAttachmentIndex.toInt8
  let writer := writer.s8 value.primitive.toRaw
  let writer := writer.s8 value.maxVertices.toInt8
  let writer := writer.s8 value.invocations.toInt8
  let writer ← writer.string value.when
  return writer.s8 value.hostType.toRaw

/-- Writes modifiers in the shortest of their three forms. -/
def modifiers (writer : Writer) (value : Modifiers) : Except Fault Writer := do
  if value == {} then return writer.command .defaultModifiers
  if value.fitsInByte then
    let writer ← (writer.command .byteModifiers).layout value.layout
    return writer.u8 value.flags.toUInt8
  let writer ← (writer.command .fullModifiers).layout value.layout
  return writer.u32 value.flags

/-- The finished blob: header, string table and records. -/
def finish (writer : Writer) : Except Fault (Array UInt8) := do
  ensure (writer.tableEnd ≤ 65535) .stringTableFull
  return (toLittleEndian 2 writer.tableEnd).toArray
    ++ (toLittleEndian 2 formatVersion.toNat).toArray ++ writer.strings ++ writer.records

end Writer

end Shading
