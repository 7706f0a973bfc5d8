/-!
UTF-8 as a machine that reads one byte at a time. It knows how many continuation bytes the current
character still owes and the range the next of them may come from, so it refuses at the first byte
that no well-formed text can have there. `firstInvalid` says where a byte string stops being
UTF-8: after which offset, and how many bytes the ill-formed sequence has.
-/

namespace Shading.Utf8

/-- What the bytes read so far of a character still ask for: `owed` continuation bytes, the next
of them between `low` and `high`. -/
structure Expectation where
  owed : Nat
  low : UInt8
  high : UInt8
  deriving DecidableEq, Repr

/-- Nothing is owed between two characters. -/
def Expectation.start : Expectation := ⟨0, 0x80, 0xBF⟩

/-- What a lead byte asks for, if a character can start with it. The four narrow ranges keep out
overlong forms, surrogates and code points past U+10FFFF. -/
def afterLead (byte : UInt8) : Option Expectation :=
  if byte ≤ 0x7F then some .start
  else if 0xC2 ≤ byte ∧ byte ≤ 0xDF then some ⟨1, 0x80, 0xBF⟩
  else if byte = 0xE0 then some ⟨2, 0xA0, 0xBF⟩
  else if byte = 0xED then some ⟨2, 0x80, 0x9F⟩
  else if 0xE1 ≤ byte ∧ byte ≤ 0xEF then some ⟨2, 0x80, 0xBF⟩
  else if byte = 0xF0 then some ⟨3, 0x90, 0xBF⟩
  else if 0xF1 ≤ byte ∧ byte ≤ 0xF3 then some ⟨3, 0x80, 0xBF⟩
  else if byte = 0xF4 then some ⟨3, 0x80, 0x8F⟩
  else none

/-- One byte of input: the expectation after it, or none where the byte cannot stand. -/
def Expectation.step (expected : Expectation) (byte : UInt8) : Option Expectation :=
  match expected.owed with
  | 0 => afterLead byte
  | owed + 1 =>
    if expected.low ≤ byte ∧ byte ≤ expected.high then some ⟨owed, 0x80, 0xBF⟩ else none

/-- Where a byte string stops being UTF-8. `offset` is the length of the well-formed part before
it; `length` counts the bytes of the ill-formed sequence and is absent when the input ends inside a
character that could still have been completed. -/
structure Invalid where
  offset : Nat
  length : Option Nat
  deriving DecidableEq, Repr

/-- Reads on from inside a character that starts at `offset` and of which `seen` bytes are read. -/
def scan (offset seen : Nat) (expected : Expectation) : List UInt8 → Option Invalid
  | [] => if seen = 0 then none else some ⟨offset, none⟩
  | byte :: rest =>
    match expected.step byte with
    | none => some ⟨offset, some (max 1 seen)⟩
    | some next =>
      if next.owed = 0 then scan (offset + seen + 1) 0 next rest
      else scan offset (seen + 1) next rest

/-- The first place where the bytes are not UTF-8, if there is one. -/
def firstInvalid (bytes : List UInt8) : Option Invalid :=
  scan 0 0 .start bytes

def Invalid.message (invalid : Invalid) : String :=
  match invalid.length with
  | some length => s!"invalid utf-8 sequence of {length} bytes from index {invalid.offset}"
  | none => s!"incomplete utf-8 byte sequence from index {invalid.offset}"

/-- The text a byte string encodes, or where it stops being UTF-8. -/
def decode (bytes : List UInt8) : Except Invalid String :=
  match String.fromUTF8? ⟨bytes.toArray⟩ with
  | some text => .ok text
  | none => .error ((firstInvalid bytes).getD ⟨0, none⟩)

def encode (text : String) : List UInt8 :=
  text.toUTF8.data.toList

/-- Every text is read back from its bytes. -/
theorem decode_encode (text : String) : decode (encode text) = .ok text := by
  have valid : text.toByteArray.IsValidUTF8 := text.isValidUTF8
  simp [decode, encode, String.fromUTF8?, String.fromUTF8, valid]

end Shading.Utf8
