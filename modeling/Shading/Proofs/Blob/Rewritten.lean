import Shading.Proofs.Blob.Entry
import Shading.Proofs.Blob.Forward

/-!
Layouts and modifiers that were decoded, written again. `Read.Gives` tells what a way of reading can
answer, given how many bytes it took: a layout that was read has numbers that fit the wire and a
text that fits the string table, and none of its forms is shorter than the one it is written in.
Main statement: `Read.decoded_rewritten`.
-/

namespace Shading

open Stepping Writer

/-- A text has the bytes that it was read from. -/
theorem Utf8.encode_of_decode {bytes : List UInt8} {text : String}
    (decoded : decode bytes = .ok text) : encode text = bytes := by
  rw [decode, String.fromUTF8?] at decoded
  by_cases valid : (⟨bytes.toArray⟩ : ByteArray).IsValidUTF8
  · rw [dif_pos valid] at decoded
    cases decoded
    rfl
  · rw [dif_neg valid] at decoded
    cases decoded

/-! ## How many bytes are written -/

theorem Writer.tableEnd_withText (writer : Writer) (text : String) :
    (writer.withText text).tableEnd = writer.tableEnd + (1 + (Utf8.encode text).length) := by
  rw [tableEnd, tableEnd, ← Array.length_toList, ← Array.length_toList]
  simp [Writer.withText, Nat.add_assoc]

namespace Item

/-- The number of bytes of an item among the records. -/
def width : Item → Nat
  | u8 _ | s8 _ | bool _ | command _ => 1
  | u16 _ | s16 _ | string _ => 2
  | u32 _ | s32 _ => 4

@[simp]
theorem length_bytes (offsets : List (String × UInt16)) (item : Item) :
    (item.bytes offsets).length = item.width := by
  cases item <;> simp [bytes, width]

/-- The number of bytes of items in a row. -/
def widths (items : List Item) : Nat := (items.map width).sum

theorem length_flatMap_bytes (offsets : List (String × UInt16)) (items : List Item) :
    (items.flatMap (bytes offsets)).length = widths items := by
  rw [List.length_flatMap, widths]
  simp only [length_bytes]

/-- Items can be written if their texts are short and the table has room for all of them. -/
theorem exists_writeAll {items : List Item} {writer : Writer}
    (short : ∀ text ∈ texts items, (Utf8.encode text).length ≤ 255)
    (room : writer.tableEnd + 256 * (texts items).length ≤ 65535) :
    ∃ after, writeAll writer items = .ok after ∧
      after.tableEnd ≤ writer.tableEnd + 256 * (texts items).length := by
  induction items generalizing writer with
  | nil => exact ⟨writer, rfl, Nat.le_add_right _ _⟩
  | cons item rest inductionHypothesis =>
    -- An item brings at most one text, which takes at most 256 bytes of the table.
    have one : ∃ middle, item.write writer = .ok middle ∧
        middle.tableEnd + 256 * (texts rest).length ≤
          writer.tableEnd + 256 * (texts (item :: rest)).length := by
      cases item with
      | string text =>
        have fits : (Utf8.encode text).length ≤ 255 := short text List.mem_cons_self
        have count : (texts (string text :: rest)).length = (texts rest).length + 1 := rfl
        rcases intern_cases writer text with ⟨offset, _, interned⟩ | ⟨_, long, _⟩ |
          ⟨_, _, full, _⟩ | ⟨_, _, interned⟩
        · exact ⟨writer.u16 offset, by rw [write, Writer.string, interned]; rfl,
            Nat.add_le_add_left (by omega) _⟩
        · omega
        · omega
        · refine ⟨(writer.withText text).u16 (UInt16.ofNat writer.tableEnd),
            by rw [write, Writer.string, interned]; rfl, ?_⟩
          have grown : ((writer.withText text).u16 (UInt16.ofNat writer.tableEnd)).tableEnd =
              writer.tableEnd + (1 + (Utf8.encode text).length) := tableEnd_withText writer text
          omega
      | u8 | s8 | u16 | s16 | u32 | s32 | bool | command => exact ⟨_, rfl, Nat.le_refl _⟩
    obtain ⟨middle, written, bound⟩ := one
    have shorter : ∀ text ∈ texts rest, (Utf8.encode text).length ≤ 255 := by
      intro text member
      refine short text ?_
      rw [texts, List.filterMap_cons]
      cases item.text? with
      | none => exact member
      | some first => exact List.mem_cons_of_mem first member
    obtain ⟨after, more, ending⟩ := inductionHypothesis shorter (Nat.le_trans bound room)
    exact ⟨after, by rw [writeAll_cons, written]; exact more, Nat.le_trans ending bound⟩

end Item

namespace Layout

/-- The number of bytes of a layout in the form in which it is written. -/
def width (layout : Layout) : Nat := Item.widths layout.items

theorem width_default : default.width = 1 := by
  rfl

theorem width_ofBuiltin_le (builtin : Int32) : (ofBuiltin builtin).width ≤ 3 := by
  rw [width, items]
  split
  · exact Nat.le_of_ble_eq_true rfl
  · have form : ofBuiltin builtin == ofBuiltin (ofBuiltin builtin).builtin := beq_iff_eq.mpr rfl
    rw [if_pos form]
    exact Nat.le_refl 3

theorem width_le (layout : Layout) : layout.width ≤ 19 := by
  rw [width, items]
  split
  · exact Nat.le_of_ble_eq_true rfl
  · split
    · exact Nat.le_of_ble_eq_true rfl
    · exact Nat.le_refl 19

/-- A layout brings no text but the one it has. -/
theorem texts_items (layout : Layout) :
    Item.texts layout.items = [] ∨ Item.texts layout.items = [layout.when] := by
  rw [items]
  split
  · exact Or.inl rfl
  · split
    · exact Or.inl rfl
    · exact Or.inr rfl

end Layout

namespace Modifiers

/-- The number of bytes of modifiers in the form in which they are written. -/
def width (modifiers : Modifiers) : Nat := Item.widths modifiers.items

theorem width_default : ({} : Modifiers).width = 1 := by
  rfl

theorem widths_framed (first last : Item) (layout : Layout) :
    Item.widths (first :: (layout.items ++ [last])) = first.width + layout.width + last.width := by
  simp [Item.widths, Layout.width, Nat.add_assoc]

theorem width_le (modifiers : Modifiers) : modifiers.width ≤ 1 + modifiers.layout.width + 4 := by
  rw [width, items]
  split
  · exact Nat.le_trans (by decide : 1 ≤ 1 + 0 + 4) (by omega)
  · split <;> rw [widths_framed] <;> simp only [Item.width] <;> omega

theorem width_le_of_fitsInByte {modifiers : Modifiers} (fits : modifiers.fitsInByte = true) :
    modifiers.width ≤ 1 + modifiers.layout.width + 1 := by
  rw [width, items]
  split
  · exact Nat.le_trans (by decide : 1 ≤ 1 + 0 + 1) (by omega)
  · rw [widths_framed]
    exact Nat.le_refl _

theorem texts_items (modifiers : Modifiers) :
    Item.texts modifiers.items = [] ∨ Item.texts modifiers.items = [modifiers.layout.when] := by
  have framed (first last : Item) (plain : first.text? = none ∧ last.text? = none) :
      Item.texts (first :: (modifiers.layout.items ++ [last])) =
        Item.texts modifiers.layout.items := by
    simp [Item.texts, plain]
  rw [items]
  split
  · exact Or.inl rfl
  · split <;> rw [framed _ _ ⟨rfl, rfl⟩] <;> exact modifiers.layout.texts_items

end Modifiers

/-! ## What can be read -/

/-- Whatever a way of reading answers is of a kind, which may depend on how many bytes it took. -/
def Read.Gives {α : Type} (read : Read α) (kind : Nat → α → Prop) : Prop :=
  ∀ (reader after : Reader) (value : α), read reader = (.ok value, after) →
    ∃ taken, after.offset = reader.offset + taken ∧ kind taken value

namespace Read

namespace Gives

variable {α β : Type}

theorem pure {kind : Nat → α → Prop} {value : α} (here : kind 0 value) :
    Gives (Pure.pure value) kind := by
  intro reader after result ran
  cases ran
  exact ⟨0, rfl, here⟩

theorem throw {kind : Nat → α → Prop} (fault : Fault) : Gives (throw fault) kind := by
  intro reader after result ran
  cases ran

theorem bind {first : Read α} {next : α → Read β} {kind : Nat → α → Prop} {whole : Nat → β → Prop}
    (gives : Gives first kind)
    (later : ∀ taken value, kind taken value →
      Gives (next value) fun more result => whole (taken + more) result) :
    Gives (first >>= next) whole := by
  intro reader after result ran
  obtain ⟨value, middle, began, ended⟩ := exists_of_bind_run ran
  obtain ⟨taken, place, known⟩ := gives reader middle value began
  obtain ⟨more, place', whole⟩ := later taken value known middle after result ended
  exact ⟨taken + more, by omega, whole⟩

end Gives

theorem bytes_gives (count : Nat) : Gives (bytes count) fun taken _ => taken = count := by
  intro reader after value ran
  rw [bytes, bind_ok (get_apply reader)] at ran
  split at ran
  · rw [bind_ok (set_apply _ reader)] at ran
    cases ran
    exact ⟨count, rfl, rfl⟩
  · cases ran

theorem number_gives (count : Nat) : Gives (number count) fun taken _ => taken = count := by
  refine (bytes_gives count).bind ?_
  rintro _ chunk rfl
  exact .pure rfl

theorem u8_gives : Gives u8 fun taken _ => taken = 1 := by
  refine (number_gives 1).bind ?_
  rintro _ number rfl
  exact .pure rfl

theorem s8_gives : Gives s8 fun taken _ => taken = 1 := by
  refine u8_gives.bind ?_
  rintro _ byte rfl
  exact .pure rfl

theorem u16_gives : Gives u16 fun taken _ => taken = 2 := by
  refine (number_gives 2).bind ?_
  rintro _ number rfl
  exact .pure rfl

theorem s16_gives : Gives s16 fun taken _ => taken = 2 := by
  refine u16_gives.bind ?_
  rintro _ word rfl
  exact .pure rfl

theorem u32_gives : Gives u32 fun taken _ => taken = 4 := by
  refine (number_gives 4).bind ?_
  rintro _ number rfl
  exact .pure rfl

theorem command_gives : Gives command fun taken _ => taken = 1 := by
  intro reader after tag ran
  exact ⟨1, offset_of_command_ok ran, rfl⟩

/-- A text in a blob is as short as its length byte says. -/
theorem length_encode_of_textAt {blob : Array UInt8} {offset : Nat} {text : String}
    (found : textAt blob offset = .ok text) : (Utf8.encode text).length ≤ 255 := by
  rw [textAt] at found
  split at found
  · cases found
  · rename_i length _
    split at found
    · split at found
      · rename_i decoded
        cases found
        have small := length.toNat_lt
        rw [Utf8.encode_of_decode decoded, Array.length_toList, Array.size_extract]
        omega
      · cases found
    · cases found

theorem string_gives :
    Gives string fun taken text => taken = 2 ∧ (Utf8.encode text).length ≤ 255 := by
  intro reader after text ran
  obtain ⟨offset, middle, began, ended⟩ := exists_of_bind_run ran
  rw [bind_ok (get_apply middle)] at ended
  obtain ⟨found, rfl⟩ := lift_run ended
  obtain ⟨number, _, read, converted⟩ := exists_of_bind_run began
  cases converted
  obtain ⟨taken, place, rfl⟩ := number_gives 2 reader _ number read
  exact ⟨2, place, rfl, length_encode_of_textAt found⟩

/-- A number that was read from one byte has room in one byte. -/
theorem small_gives :
    Gives small fun taken value => taken = 1 ∧ -128 ≤ value ∧ value ≤ 127 := by
  refine s8_gives.bind ?_
  rintro _ byte rfl
  exact .pure ⟨rfl, (lowByte_eq_iff _).mp (congrArg Int8.toInt32 byte.toInt8_toInt32)⟩

theorem primitive_gives : Gives primitive fun taken _ => taken = 1 := by
  refine s8_gives.bind ?_
  rintro _ raw rfl
  split
  · exact .pure rfl
  · exact .throw _

theorem hostType_gives : Gives hostType fun taken _ => taken = 1 := by
  refine s8_gives.bind ?_
  rintro _ raw rfl
  split
  · exact .pure rfl
  · exact .throw _

end Read

theorem word_range (word : Int16) : -32768 ≤ word.toInt32 ∧ word.toInt32 ≤ 32767 :=
  (lowWord_eq_iff _).mp (congrArg Int16.toInt32 word.toInt16_toInt32)

/-- A layout that a blob can hold: its numbers have room, and so has its text. -/
def Layout.Storable (layout : Layout) : Prop :=
  layout.Fits ∧ (Utf8.encode layout.when).length ≤ 255

theorem Layout.Storable.ofBuiltin (builtin : Int16) :
    (Layout.ofBuiltin builtin.toInt32).Storable := by
  have same : default.byteNumbers = List.replicate 8 (-1) := by rfl
  have unset : ∀ value ∈ default.byteNumbers, -128 ≤ value ∧ value ≤ 127 := by
    intro value member
    rw [same] at member
    rw [List.eq_of_mem_replicate member]
    decide
  have empty : (Utf8.encode default.when).length ≤ 255 := by decide
  exact ⟨⟨unset, word_range builtin⟩, empty⟩

namespace Read

theorem fullLayout_gives :
    Gives fullLayout fun taken layout => taken = 18 ∧ layout.Storable := by
  refine u32_gives.bind ?_
  rintro _ flags rfl
  refine small_gives.bind ?_
  rintro _ location ⟨rfl, locationFits⟩
  refine small_gives.bind ?_
  rintro _ offset ⟨rfl, offsetFits⟩
  refine small_gives.bind ?_
  rintro _ binding ⟨rfl, bindingFits⟩
  refine small_gives.bind ?_
  rintro _ index ⟨rfl, indexFits⟩
  refine small_gives.bind ?_
  rintro _ set ⟨rfl, setFits⟩
  refine s16_gives.bind ?_
  rintro _ builtin rfl
  refine small_gives.bind ?_
  rintro _ attachment ⟨rfl, attachmentFits⟩
  refine primitive_gives.bind ?_
  rintro _ primitive rfl
  refine small_gives.bind ?_
  rintro _ vertices ⟨rfl, verticesFit⟩
  refine small_gives.bind ?_
  rintro _ invocations ⟨rfl, invocationsFit⟩
  refine string_gives.bind ?_
  rintro _ when ⟨rfl, short⟩
  refine hostType_gives.bind ?_
  rintro _ hostType rfl
  refine .pure ⟨rfl, ⟨?_, word_range builtin⟩, short⟩
  simp only [Layout.byteNumbers, List.forall_mem_cons]
  exact ⟨locationFits, offsetFits, bindingFits, indexFits, setFits, attachmentFits, verticesFit,
    invocationsFit, List.forall_mem_nil _⟩

/-- A layout that was read can be stored, and it is written in no more bytes than it was read from,
whichever form it was read in. -/
theorem layout_gives :
    Gives layout fun taken layout => layout.Storable ∧ layout.width ≤ taken := by
  refine command_gives.bind ?_
  rintro _ tag rfl
  split
  · refine s16_gives.bind ?_
    rintro _ builtin rfl
    exact .pure ⟨.ofBuiltin builtin, Layout.width_ofBuiltin_le _⟩
  · exact .pure ⟨.ofBuiltin (-1), Nat.le_of_eq Layout.width_default⟩
  · intro reader after layout ran
    obtain ⟨taken, place, rfl, storable⟩ := fullLayout_gives reader after layout ran
    exact ⟨18, place, storable, layout.width_le⟩
  · exact .throw _

theorem modifiers_gives :
    Gives modifiers fun taken modifiers =>
      modifiers.layout.Storable ∧ modifiers.width ≤ taken := by
  refine command_gives.bind ?_
  rintro _ tag rfl
  split
  · exact .pure ⟨.ofBuiltin (-1), Nat.le_of_eq Modifiers.width_default⟩
  · refine layout_gives.bind ?_
    rintro taken layout ⟨storable, width⟩
    refine u8_gives.bind ?_
    rintro _ flags rfl
    have fits : ({ layout, flags := flags.toUInt32 } : Modifiers).fitsInByte = true := by
      have small := flags.toNat_lt
      simp only [Modifiers.fitsInByte, decide_eq_true_eq, UInt32.le_iff_toNat_le,
        UInt8.toNat_toUInt32]
      exact Nat.le_of_lt_succ small
    have bound := Modifiers.width_le_of_fitsInByte fits
    refine .pure ⟨storable, ?_⟩
    dsimp only at bound
    omega
  · refine layout_gives.bind ?_
    rintro taken layout ⟨storable, width⟩
    refine u32_gives.bind ?_
    rintro _ flags rfl
    have bound := ({ layout, flags } : Modifiers).width_le
    refine .pure ⟨storable, ?_⟩
    dsimp only at bound
    omega
  · exact .throw _

end Read

/-! ## Writing what was read -/

/-- What was written to a fresh blob is kept: nothing faults, the records have at most so many
bytes, and a session over the blob reads the value back and ends where the blob ends. -/
def Writer.Keeps {α : Type} (written : Except Fault Writer) (read : Read α) (value : α)
    (limit : Nat) : Prop :=
  ∃ writer blob, written = .ok writer ∧ writer.finish = .ok blob ∧ writer.records.size ≤ limit ∧
    ∀ (store : Store) (active : TableId), store.isBuiltin active = true →
      ∃ decoder, Decoder.start store active blob = .ok (.ok decoder) ∧
        Decode.next read decoder =
          (.ok value, { decoder with reader := { decoder.reader with offset := blob.size } })

/-- Items with at most one text, and that a short one, are kept by a fresh blob. -/
theorem Item.keeps {α : Type} {read : Read α} {items : List Item} {value : α} {text : String}
    {limit : Nat} (taken : ∀ offsets, Read.Takes offsets read items value)
    (few : texts items = [] ∨ texts items = [text]) (short : (Utf8.encode text).length ≤ 255)
    (bound : widths items ≤ limit) : Writer.Keeps (writeAll {} items) read value limit := by
  have count : (texts items).length ≤ 1 := by
    rcases few with none | one
    · rw [none]
      exact Nat.zero_le 1
    · rw [one]
      exact Nat.le_refl 1
  have shorts : ∀ found ∈ texts items, (Utf8.encode found).length ≤ 255 := by
    intro found member
    rcases few with none | one
    · rw [none] at member
      cases member
    · rw [one] at member
      rwa [List.mem_singleton.mp member]
  have start : ({} : Writer).tableEnd = 4 := by rfl
  have room : ({} : Writer).tableEnd + 256 * (texts items).length ≤ 65535 := by omega
  obtain ⟨writer, written, ending⟩ := exists_writeAll shorts room
  have whole := Written.of_writeAll Writer.StringTable.empty written
  have records : writer.records.size = widths items := by
    rw [← Array.length_toList, whole.records, ← length_flatMap_bytes writer.offsets]
    rfl
  rcases Writer.finish_cases writer with ⟨full, _⟩ | ⟨fits, blob, finished, content⟩
  · omega
  · refine ⟨writer, blob, written, finished, records ▸ bound, fun store active builtin => ?_⟩
    obtain ⟨reader, started, _, holds, last⟩ := whole.holds fits content
    refine ⟨{ reader, store, active }, ?_, ?_⟩
    · rw [Decoder.start, ensure, if_pos builtin, started]
      rfl
    · rw [Decode.next, taken writer.offsets reader holds, last]

namespace Read

/-- Layouts and modifiers that a session decodes, at any place of any blob, are kept when they are
written to a fresh blob, in at most as many bytes as they were decoded from. -/
theorem decoded_rewritten :
    (∀ (decoder after : Decoder) (value : Layout),
      Decode.next Read.layout decoder = (.ok value, after) →
      ∃ taken, after.reader.offset = decoder.reader.offset + taken ∧
        Writer.Keeps (Writer.layout {} value) Read.layout value taken) ∧
      ∀ (decoder after : Decoder) (value : Modifiers),
        Decode.next Read.modifiers decoder = (.ok value, after) →
        ∃ taken, after.reader.offset = decoder.reader.offset + taken ∧
          Writer.Keeps (Writer.modifiers {} value) Read.modifiers value taken := by
  refine ⟨fun decoder after value decoded => ?_, fun decoder after value decoded => ?_⟩
  · obtain ⟨result, place⟩ := Prod.mk.inj decoded
    obtain ⟨taken, offset, ⟨fits, short⟩, width⟩ :=
      layout_gives decoder.reader _ value (Prod.ext result rfl)
    refine ⟨taken, by rw [← place]; exact offset, ?_⟩
    have takes : ∀ offsets, Takes offsets Read.layout value.items value := by
      intro offsets
      have cut : Takes offsets Read.layout value.items value.onWire := .layout value
      rwa [value.onWire_eq_iff_fits.mpr fits] at cut
    rw [Writer.layout_eq_writeAll]
    exact Item.keeps takes value.texts_items short width
  · obtain ⟨result, place⟩ := Prod.mk.inj decoded
    obtain ⟨taken, offset, ⟨fits, short⟩, width⟩ :=
      modifiers_gives decoder.reader _ value (Prod.ext result rfl)
    refine ⟨taken, by rw [← place]; exact offset, ?_⟩
    have takes : ∀ offsets, Takes offsets Read.modifiers value.items value := by
      intro offsets
      have cut : Takes offsets Read.modifiers value.items value.onWire := .modifiers value
      rwa [value.onWire_eq_iff_fits.mpr fits] at cut
    rw [Writer.modifiers_eq_writeAll]
    exact Item.keeps takes value.texts_items short width

/-- A layout in full form that only has defaults, and after it modifiers with four bytes of flags
around a layout for the builtin variable -1. -/
def paddedBlob : Array UInt8 :=
  #[5, 0, 1, 0, 0, 2, 0, 0, 0, 0, 255, 255, 255, 255, 255, 255, 255, 255, 255, 255, 255, 4, 0, 0,
    5, 0, 255, 255, 5, 0, 0, 0]

/-- A session over the blob at some offset, with a root table. -/
def paddedDecoder (offset : Nat) : Decoder :=
  { reader := ⟨paddedBlob, offset⟩, store := (Store.newRoot {}).2, active := 0 }

/-- The layout is kept in 1 byte of its 19, and the modifiers in 3 of their 8. -/
theorem paddedBlob_rewritten :
    Decoder.start (Store.newRoot {}).2 0 paddedBlob = .ok (.ok (paddedDecoder 5)) ∧
      Decode.next Read.layout (paddedDecoder 5) = (.ok Layout.default, paddedDecoder 24) ∧
      Writer.Keeps (Writer.layout {} Layout.default) Read.layout Layout.default 19 ∧
      Layout.default.width = 1 ∧
      Decode.next Read.modifiers (paddedDecoder 24) =
        (.ok { flags := 5 }, paddedDecoder 32) ∧
      Writer.Keeps (Writer.modifiers {} { flags := 5 }) Read.modifiers { flags := 5 } 8 ∧
      ({ flags := 5 } : Modifiers).width = 3 := by
  have layoutRead : Read.layout ⟨paddedBlob, 5⟩ = (.ok Layout.default, ⟨paddedBlob, 24⟩) :=
    Prod.ext (by decide +kernel) (by decide +kernel)
  have modifiersRead : Read.modifiers ⟨paddedBlob, 24⟩ =
      (.ok { flags := 5 }, ⟨paddedBlob, 32⟩) :=
    Prod.ext (by decide +kernel) (by decide +kernel)
  have first : Decode.next Read.layout (paddedDecoder 5) =
      (.ok Layout.default, paddedDecoder 24) := by
    rw [Decode.next, paddedDecoder, layoutRead]
    rfl
  have second : Decode.next Read.modifiers (paddedDecoder 24) =
      (.ok { flags := 5 }, paddedDecoder 32) := by
    rw [Decode.next, paddedDecoder, modifiersRead]
    rfl
  obtain ⟨taken, offset, layoutKept⟩ := decoded_rewritten.1 _ _ _ first
  obtain ⟨more, offset', modifiersKept⟩ := decoded_rewritten.2 _ _ _ second
  change 24 = 5 + taken at offset
  change 32 = 24 + more at offset'
  obtain rfl : taken = 19 := by omega
  obtain rfl : more = 8 := by omega
  exact ⟨rfl, first, layoutKept, by rfl, second, modifiersKept, by rfl⟩

end Read

end Shading
