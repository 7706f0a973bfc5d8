import Shading.Decode.Basic
import Shading.Proofs.Blob.Wire

/-!
Plain items, layouts and modifiers, written in any order and decoded again. A blob gives back every
entry, in its place, as the wire keeps it, and that is the entry itself exactly if its numbers fit.
Main statement: `written_entries_decoded`; `wide_location_lost` shows a number that does not fit.
-/

namespace Shading

open Stepping

/-- Something that is written to a blob in one piece. -/
inductive Entry where
  | item (value : Item)
  | layout (value : Layout)
  | modifiers (value : Modifiers)
  deriving DecidableEq, Repr

/-- What a decoder has to know of an entry before it decodes it. -/
inductive Entry.Kind where
  | item (kind : Item.Kind)
  | layout
  | modifiers
  deriving DecidableEq, Repr

namespace Entry

def kind : Entry → Kind
  | item value => .item value.kind
  | layout _ => .layout
  | modifiers _ => .modifiers

def write (writer : Writer) : Entry → Except Fault Writer
  | item value => value.write writer
  | layout value => writer.layout value
  | modifiers value => writer.modifiers value

/-- Writes entries one after the other, up to the first that cannot be written. -/
def writeAll (writer : Writer) (entries : List Entry) : Except Fault Writer :=
  entries.foldlM write writer

def Kind.read : Kind → Read Entry
  | .item kind => return .item (← kind.read)
  | .layout => return .layout (← Read.layout)
  | .modifiers => return .modifiers (← Read.modifiers)

/-- Decodes entries of which only the kinds are known. -/
def decodeAll (kinds : List Kind) : Decode (List Entry) :=
  kinds.mapM fun kind => Decode.next kind.read

/-- What the wire keeps of an entry. -/
def onWire : Entry → Entry
  | item value => .item value
  | layout value => .layout value.onWire
  | modifiers value => .modifiers value.onWire

/-- Whether the wire has room for every number of an entry. -/
def Fits : Entry → Prop
  | item _ => True
  | layout value => value.Fits
  | modifiers value => value.Fits

theorem onWire_eq_iff_fits (entry : Entry) : entry.onWire = entry ↔ entry.Fits := by
  cases entry with
  | item value => simp [onWire, Fits]
  | layout value => simpa [onWire, Fits] using value.onWire_eq_iff_fits
  | modifiers value => simpa [onWire, Fits] using value.onWire_eq_iff_fits

/-- The plain items that an entry is written as. -/
def items : Entry → List Item
  | item value => [value]
  | layout value => value.items
  | modifiers value => value.items

theorem write_eq_writeAll (entry : Entry) (writer : Writer) :
    entry.write writer = Item.writeAll writer entry.items := by
  cases entry with
  | item value =>
    rw [write, items, Item.writeAll_cons]
    cases value.write writer <;> rfl
  | layout value => exact writer.layout_eq_writeAll value
  | modifiers value => exact writer.modifiers_eq_writeAll value

/-- Writing entries is writing their items. -/
theorem writeAll_eq_writeAll_items (entries : List Entry) (writer : Writer) :
    writeAll writer entries = Item.writeAll writer (entries.flatMap items) := by
  induction entries generalizing writer with
  | nil => rfl
  | cons entry rest inductionHypothesis =>
    rw [writeAll, List.foldlM_cons, List.flatMap_cons, Item.writeAll_append, write_eq_writeAll]
    cases Item.writeAll writer entry.items with
    | error fault => rfl
    | ok middle => exact inductionHypothesis middle

theorem takes (entry : Entry) (offsets : List (String × UInt16)) :
    Read.Takes offsets entry.kind.read entry.items entry.onWire := by
  cases entry with
  | item value => exact (Read.Takes.item value).mapped Entry.item
  | layout value => exact (Read.Takes.layout value).mapped Entry.layout
  | modifiers value => exact (Read.Takes.modifiers value).mapped Entry.modifiers

/-- A session that stands before the items of entries decodes what the wire kept of them. -/
theorem decodeAll_items (offsets : List (String × UInt16)) (entries : List Entry)
    (decoder : Decoder) (holds : decoder.reader.Holds offsets (entries.flatMap items)) :
    decodeAll (entries.map kind) decoder =
      (.ok (entries.map onWire), { decoder with
        reader := decoder.reader.skip ((entries.flatMap items).flatMap (Item.bytes offsets)).length })
      := by
  induction entries generalizing decoder with
  | nil => rfl
  | cons entry rest inductionHypothesis =>
    have parts := holds.append
    have first : Decode.next entry.kind.read decoder =
        (.ok entry.onWire, { decoder with
          reader := decoder.reader.skip (entry.items.flatMap (Item.bytes offsets)).length }) := by
      rw [Decode.next, entry.takes offsets decoder.reader parts.1]
    have others := inductionHypothesis { decoder with
      reader := decoder.reader.skip (entry.items.flatMap (Item.bytes offsets)).length } parts.2
    rw [decodeAll] at others
    rw [List.map_cons, decodeAll, List.mapM_cons, bind_ok first, bind_ok others, pure_apply]
    simp [Reader.skip, Nat.add_assoc]

/-- Layouts and modifiers among other values, written and decoded. If neither a write nor the end
faults, a session over the blob decodes each entry at its place as the wire kept it, and ends where
the blob ends. That is the entry itself exactly if its numbers fit. -/
theorem written_entries_decoded (entries : List Entry) (writer : Writer) (blob : Array UInt8)
    (written : writeAll {} entries = .ok writer) (finished : writer.finish = .ok blob)
    (store : Store) (active : TableId) (builtin : store.isBuiltin active = true) :
    (∃ decoder, Decoder.start store active blob = .ok (.ok decoder) ∧
      decodeAll (entries.map kind) decoder =
        (.ok (entries.map onWire),
          { decoder with reader := { decoder.reader with offset := blob.size } })) ∧
      ∀ entry ∈ entries, entry.onWire = entry ↔ entry.Fits := by
  refine ⟨?_, fun entry _ => entry.onWire_eq_iff_fits⟩
  rw [writeAll_eq_writeAll_items] at written
  have whole := Item.Written.of_writeAll Writer.StringTable.empty written
  rcases Writer.finish_cases writer with ⟨_, full⟩ | ⟨fits, other, done, content⟩
  · rw [full] at finished
    cases finished
  · rw [done] at finished
    cases finished
    obtain ⟨reader, started, _, holds, ending⟩ := whole.holds fits content
    refine ⟨{ reader, store, active }, ?_, ?_⟩
    · rw [Decoder.start, ensure, if_pos builtin, started]
      rfl
    · rw [decodeAll_items writer.offsets entries _ holds, ending]

/-- A layout and modifiers whose numbers fit, and a layout with a number that does not. -/
def samples : List Entry :=
  [.layout (Layout.ofBuiltin (-300)), .item (.string "half4"),
    .modifiers { layout := { location := 127, primitive := .triangles, when := "caps" }, flags := 5 },
    .layout { binding := 128 }]

theorem written_samples_decoded :
    ∃ writer blob decoder, writeAll {} samples = .ok writer ∧ writer.finish = .ok blob ∧
      (Store.newRoot {}).2.isBuiltin 0 = true ∧
      Decoder.start (Store.newRoot {}).2 0 blob = .ok (.ok decoder) ∧
      decodeAll (samples.map kind) decoder =
        (.ok (samples.map onWire),
          { decoder with reader := { decoder.reader with offset := blob.size } }) ∧
      ∀ entry ∈ samples, entry.onWire = entry ↔ entry.Fits := by
  have builtin : (Store.newRoot {}).2.isBuiltin 0 = true := rfl
  obtain ⟨⟨decoder, started, decoded⟩, same⟩ :=
    written_entries_decoded samples _ _ rfl rfl (Store.newRoot {}).2 0 builtin
  exact ⟨_, _, decoder, rfl, rfl, builtin, started, decoded, same⟩

/-- A blob that holds one layout in full form, written for a location of 300. -/
def wideBlob : Array UInt8 :=
  #[5, 0, 1, 0, 0, 2, 0, 0, 0, 0, 44, 255, 255, 255, 255, 255, 255, 255, 255, 255, 255, 4, 0, 0]

/-- Nothing faults for a location of 300, but it comes back as 44. -/
theorem wide_location_lost :
    (∃ writer, Writer.layout {} { location := 300 } = .ok writer ∧
      writer.finish = .ok wideBlob) ∧
      (∃ decoder, Decoder.start (Store.newRoot {}).2 0 wideBlob = .ok (.ok decoder) ∧
        (Decode.next .layout decoder).1 = .ok { location := 44 }) ∧
      ({ location := 44 } : Layout) ≠ { location := 300 } := by
  have read : (Read.layout ⟨wideBlob, 5⟩).1 = .ok { location := 44 } := by decide +kernel
  refine ⟨⟨_, rfl, rfl⟩, ⟨{ reader := ⟨wideBlob, 5⟩, store := (Store.newRoot {}).2, active := 0 },
    rfl, read⟩, by decide⟩

end Entry

end Shading
