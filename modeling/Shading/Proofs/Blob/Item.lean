import Shading.Blob.Writer
import Shading.Proofs.Blob.LittleEndian
import Shading.Proofs.Stepping

/-!
The plain values of a blob, with one way to write each and one way to read it back. An item that is
read depends on the kind alone, never on the value that was written. Main statement:
`Read.Takes.items`, items in a row are read back as they are, wherever they stand.
-/

namespace Shading

/-- A plain value as it is written to a blob. -/
inductive Item where
  | u8 (value : UInt8)
  | s8 (value : Int8)
  | u16 (value : UInt16)
  | s16 (value : Int16)
  | u32 (value : UInt32)
  | s32 (value : Int32)
  | bool (value : Bool)
  | command (value : Command)
  | string (text : String)
  deriving DecidableEq, Repr

/-- What a reader has to know of an item before it reads it. -/
inductive Item.Kind where
  | u8 | s8 | u16 | s16 | u32 | s32 | bool | command | string
  deriving DecidableEq, Repr

namespace Item

def kind : Item → Kind
  | u8 _ => .u8
  | s8 _ => .s8
  | u16 _ => .u16
  | s16 _ => .s16
  | u32 _ => .u32
  | s32 _ => .s32
  | bool _ => .bool
  | command _ => .command
  | string _ => .string

/-- Writes an item after what was written before. -/
def write (writer : Writer) : Item → Except Fault Writer
  | u8 value => .ok (writer.u8 value)
  | s8 value => .ok (writer.s8 value)
  | u16 value => .ok (writer.u16 value)
  | s16 value => .ok (writer.s16 value)
  | u32 value => .ok (writer.u32 value)
  | s32 value => .ok (writer.s32 value)
  | bool value => .ok (writer.bool value)
  | command value => .ok (writer.command value)
  | string text => writer.string text

/-- Writes items one after the other, up to the first that cannot be written. -/
def writeAll (writer : Writer) (items : List Item) : Except Fault Writer :=
  items.foldlM write writer

/-- Reads the next item, of which only the kind is known. -/
def Kind.read : Kind → Read Item
  | .u8 => return .u8 (← Read.u8)
  | .s8 => return .s8 (← Read.s8)
  | .u16 => return .u16 (← Read.u16)
  | .s16 => return .s16 (← Read.s16)
  | .u32 => return .u32 (← Read.u32)
  | .s32 => return .s32 (← Read.s32)
  | .bool => return .bool (← Read.bool)
  | .command => return .command (← Read.command)
  | .string => return .string (← Read.string)

def readAll (kinds : List Kind) : Read (List Item) :=
  kinds.mapM Kind.read

/-- The text that an item brings into the string table, if it brings one. -/
def text? : Item → Option String
  | string text => some text
  | _ => none

/-- The bytes of an item among the records, where a text stands for its offset. -/
def bytes (offsets : List (String × UInt16)) : Item → List UInt8
  | u8 value => [value]
  | s8 value => [value.toUInt8]
  | u16 value => toLittleEndian 2 value.toNat
  | s16 value => toLittleEndian 2 value.toUInt16.toNat
  | u32 value => toLittleEndian 4 value.toNat
  | s32 value => toLittleEndian 4 value.toUInt32.toNat
  | bool value => [if value then 1 else 0]
  | command value => [value.toByte]
  | string text => toLittleEndian 2 ((offsets.lookup text).getD 0).toNat

end Item

/-- A reader stands before certain bytes of its blob. -/
def Reader.Before (reader : Reader) (chunk : List UInt8) : Prop :=
  ∃ front back, reader.bytes.toList = front ++ chunk ++ back ∧ reader.offset = front.length

/-- A reader after so many more bytes. -/
def Reader.skip (reader : Reader) (count : Nat) : Reader :=
  { reader with offset := reader.offset + count }

namespace Read

open Stepping

theorem bytes_before {reader : Reader} {chunk : List UInt8} (stands : reader.Before chunk) :
    Read.bytes chunk.length reader = (.ok chunk, reader.skip chunk.length) := by
  obtain ⟨front, back, split, offset⟩ := stands
  have size : reader.bytes.size = front.length + chunk.length + back.length := by
    rw [← Array.length_toList, split, List.length_append, List.length_append]
  have enough : reader.offset + chunk.length ≤ reader.bytes.size := by omega
  have taken : (reader.bytes.extract reader.offset (reader.offset + chunk.length)).toList =
      chunk := by
    rw [Array.toList_extract, split, List.extract_eq_take_drop, offset, Nat.add_sub_cancel_left,
      List.append_assoc, List.drop_left, List.take_left]
  rw [Read.bytes, bind_ok (get_apply reader), if_pos enough, bind_ok (set_apply _ reader)]
  rw [pure_apply, taken, Reader.skip]

theorem number_before {reader : Reader} {chunk : List UInt8} (count : Nat)
    (length : chunk.length = count) (stands : reader.Before chunk) :
    Read.number count reader = (.ok (ofLittleEndian chunk), reader.skip count) := by
  subst length
  rw [Read.number, bind_ok (bytes_before stands), pure_apply]

theorem u8_before {reader : Reader} {value : UInt8} (stands : reader.Before [value]) :
    Read.u8 reader = (.ok value, reader.skip 1) := by
  rw [Read.u8, bind_ok (number_before 1 rfl stands), pure_apply]
  simp [ofLittleEndian]

theorem s8_before {reader : Reader} {value : Int8} (stands : reader.Before [value.toUInt8]) :
    Read.s8 reader = (.ok value, reader.skip 1) := by
  rw [Read.s8, bind_ok (u8_before stands), pure_apply, Int8.toInt8_toUInt8]

theorem bool_before {reader : Reader} {value : Bool}
    (stands : reader.Before [if value then 1 else 0]) :
    Read.bool reader = (.ok value, reader.skip 1) := by
  rw [Read.bool, bind_ok (u8_before stands), pure_apply]
  cases value <;> rfl

theorem u16_before {reader : Reader} {value : UInt16}
    (stands : reader.Before (toLittleEndian 2 value.toNat)) :
    Read.u16 reader = (.ok value, reader.skip 2) := by
  rw [Read.u16, bind_ok (number_before 2 rfl stands), pure_apply, ofLittleEndian_toNat_u16,
    UInt16.ofNat_toNat]

theorem s16_before {reader : Reader} {value : Int16}
    (stands : reader.Before (toLittleEndian 2 value.toUInt16.toNat)) :
    Read.s16 reader = (.ok value, reader.skip 2) := by
  rw [Read.s16, bind_ok (u16_before stands), pure_apply, Int16.toInt16_toUInt16]

theorem u32_before {reader : Reader} {value : UInt32}
    (stands : reader.Before (toLittleEndian 4 value.toNat)) :
    Read.u32 reader = (.ok value, reader.skip 4) := by
  rw [Read.u32, bind_ok (number_before 4 rfl stands), pure_apply, ofLittleEndian_toNat_u32,
    UInt32.ofNat_toNat]

theorem s32_before {reader : Reader} {value : Int32}
    (stands : reader.Before (toLittleEndian 4 value.toUInt32.toNat)) :
    Read.s32 reader = (.ok value, reader.skip 4) := by
  rw [Read.s32, bind_ok (u32_before stands), pure_apply, Int32.toInt32_toUInt32]

theorem command_before {reader : Reader} {command : Command}
    (stands : reader.Before [command.toByte]) :
    Read.command reader = (.ok command, reader.skip 1) := by
  rw [Read.command, bind_ok (u8_before stands), Command.ofByte?_toByte]
  rfl

/-- A reference to a text is read as the text that stands at its offset. -/
theorem string_before {reader : Reader} {text : String} {offset : UInt16}
    (stands : reader.Before (toLittleEndian 2 offset.toNat))
    (found : textAt reader.bytes offset.toNat = .ok text) :
    Read.string reader = (.ok text, reader.skip 2) := by
  rw [Read.string, bind_ok (u16_before stands), bind_ok (get_apply _)]
  show (textAt reader.bytes offset.toNat, reader.skip 2) = _
  rw [found]

end Read

/-- A reader stands before items, and their texts are where the offsets say. -/
structure Reader.Holds (reader : Reader) (offsets : List (String × UInt16)) (items : List Item) :
    Prop where
  stands : reader.Before (items.flatMap (Item.bytes offsets))
  found : ∀ text ∈ items.filterMap Item.text?,
    Read.textAt reader.bytes ((offsets.lookup text).getD 0).toNat = .ok text

/-- What holds of items in a row holds of the first ones, and of the others after them. -/
theorem Reader.Holds.append {reader : Reader} {offsets : List (String × UInt16)}
    {first second : List Item} (holds : reader.Holds offsets (first ++ second)) :
    reader.Holds offsets first ∧
      (reader.skip (first.flatMap (Item.bytes offsets)).length).Holds offsets second := by
  obtain ⟨⟨front, back, split, offset⟩, found⟩ := holds
  rw [List.flatMap_append] at split
  constructor
  · refine ⟨⟨front, second.flatMap (Item.bytes offsets) ++ back, ?_, offset⟩, ?_⟩
    · rw [split]
      simp
    · intro text member
      exact found text (by simp [member])
  · refine ⟨⟨front ++ first.flatMap (Item.bytes offsets), back, ?_, ?_⟩, ?_⟩
    · rw [Reader.skip, split]
      simp
    · rw [Reader.skip, List.length_append, offset]
    · intro text member
      exact found text (by simp [member])

/-- A way of reading takes certain items, wherever they stand, and makes a value of them. -/
def Read.Takes {α : Type} (offsets : List (String × UInt16)) (read : Read α) (items : List Item)
    (value : α) : Prop :=
  ∀ reader : Reader, reader.Holds offsets items →
    read reader = (.ok value, reader.skip (items.flatMap (Item.bytes offsets)).length)

namespace Read.Takes

open Stepping

variable {α β : Type} {offsets : List (String × UInt16)}

theorem pure (value : α) : Takes offsets (Pure.pure value) [] value :=
  fun _ _ => rfl

theorem bind {read : Read α} {next : α → Read β} {first second : List Item} {value : α}
    {result : β} (earlier : Takes offsets read first value)
    (later : Takes offsets (next value) second result) :
    Takes offsets (read >>= next) (first ++ second) result := by
  intro reader holds
  have parts := holds.append
  rw [bind_ok (earlier reader parts.1), later _ parts.2]
  simp [Reader.skip, Nat.add_assoc]

theorem mapped {read : Read α} {items : List Item} {value : α}
    (taken : Takes offsets read items value) (change : α → β) :
    Takes offsets (do return change (← read)) items (change value) := by
  intro reader holds
  rw [bind_ok (taken reader holds), pure_apply]

/-- An item that brings no text is known by its bytes alone. -/
theorem of_before {read : Read α} {item : Item} {value : α} (count : Nat)
    (length : (item.bytes offsets).length = count)
    (reads : ∀ reader : Reader, reader.Before (item.bytes offsets) →
      read reader = (.ok value, reader.skip count)) :
    Takes offsets read [item] value := by
  intro reader holds
  have stands : reader.Before (item.bytes offsets) := by simpa using holds.stands
  rw [reads reader stands]
  simp [length]

theorem u8 (value : UInt8) : Takes offsets Read.u8 [.u8 value] value :=
  of_before 1 rfl fun _ => u8_before

theorem s8 (value : Int8) : Takes offsets Read.s8 [.s8 value] value :=
  of_before 1 rfl fun _ => s8_before

theorem u16 (value : UInt16) : Takes offsets Read.u16 [.u16 value] value :=
  of_before 2 rfl fun _ => u16_before

theorem s16 (value : Int16) : Takes offsets Read.s16 [.s16 value] value :=
  of_before 2 rfl fun _ => s16_before

theorem u32 (value : UInt32) : Takes offsets Read.u32 [.u32 value] value :=
  of_before 4 rfl fun _ => u32_before

theorem s32 (value : Int32) : Takes offsets Read.s32 [.s32 value] value :=
  of_before 4 rfl fun _ => s32_before

theorem bool (value : Bool) : Takes offsets Read.bool [.bool value] value :=
  of_before 1 rfl fun _ => bool_before

theorem command (value : Command) : Takes offsets Read.command [.command value] value :=
  of_before 1 rfl fun _ => command_before

theorem string (text : String) : Takes offsets Read.string [.string text] text := by
  intro reader holds
  have stands : reader.Before (Item.bytes offsets (.string text)) := by simpa using holds.stands
  exact string_before stands (holds.found text (by simp [Item.text?]))

/-- Each item is taken by the reading that goes with its kind. -/
theorem item (item : Item) : Takes offsets item.kind.read [item] item := by
  cases item with
  | u8 value => exact (u8 value).mapped Item.u8
  | s8 value => exact (s8 value).mapped Item.s8
  | u16 value => exact (u16 value).mapped Item.u16
  | s16 value => exact (s16 value).mapped Item.s16
  | u32 value => exact (u32 value).mapped Item.u32
  | s32 value => exact (s32 value).mapped Item.s32
  | bool value => exact (bool value).mapped Item.bool
  | command value => exact (command value).mapped Item.command
  | string text => exact (string text).mapped Item.string

/-- Items that stand one after the other are read back in that order. -/
theorem items (items : List Item) :
    Takes offsets (Item.readAll (items.map Item.kind)) items items := by
  induction items with
  | nil => exact .pure []
  | cons first rest inductionHypothesis =>
    rw [List.map_cons, Item.readAll, List.mapM_cons]
    exact (item first).bind (inductionHypothesis.mapped (first :: ·))

end Read.Takes

end Shading
