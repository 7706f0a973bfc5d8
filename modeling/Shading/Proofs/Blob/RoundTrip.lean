import Mathlib.Data.List.Dedup
import Shading.Proofs.Blob.Item
import Shading.Proofs.Blob.StringTable

/-!
Writing items and reading them back. `Written` is what a sequence of writes leaves behind; it holds
of every sequence that can be written. Main statements: `Written.of_writeAll` and
`Written.read_back`, which the contract of writing and reading is made of.
-/

namespace Shading

open Stepping Writer

namespace Item

/-- The texts that items bring, as often as they bring them. -/
def texts (items : List Item) : List String :=
  items.filterMap text?

/-- What writing items leaves behind, from an earlier writer to a later one. -/
structure Written (items : List Item) (earlier later : Writer) : Prop where
  table : StringTable later
  /-- A text that has an offset keeps it. -/
  kept : ∀ text offset, earlier.offsets.lookup text = some offset →
    later.offsets.lookup text = some offset
  mem_texts : ∀ text, text ∈ later.texts ↔ text ∈ earlier.texts ∨ text ∈ texts items
  records : later.records.toList = earlier.records.toList ++ items.flatMap (bytes later.offsets)

/-- An item that brings no text only adds its bytes. -/
theorem Written.of_put {item : Item} {writer : Writer} (table : StringTable writer)
    (plain : item.text? = none) :
    Written [item] writer (writer.put (item.bytes writer.offsets)) where
  table := table.of_eq rfl rfl
  kept := fun text offset found => found
  mem_texts := by
    intro text
    simp [Item.texts, plain, put, Writer.texts]
  records := by
    simp [put]

/-- A text that has an offset is written as that offset. -/
theorem Written.of_known {writer : Writer} {text : String} {offset : UInt16}
    (table : StringTable writer) (known : writer.offsets.lookup text = some offset) :
    Written [.string text] writer (writer.u16 offset) where
  table := table.of_eq rfl rfl
  kept := fun text offset found => found
  mem_texts := by
    intro candidate
    have member : text ∈ writer.texts := by
      by_contra absent
      rw [(lookup_eq_none_iff_notMem writer text).mpr absent] at known
      cases known
    simp only [Item.texts, text?, List.filterMap_cons, List.filterMap_nil, List.mem_singleton]
    constructor
    · exact Or.inl
    · rintro (old | rfl)
      · exact old
      · exact member
  records := by
    simp [Writer.u16, put, bytes, known]

/-- A new text enters the table and is written as the offset it gets there. -/
theorem Written.of_new {writer : Writer} {text : String} (table : StringTable writer)
    (absent : text ∉ writer.texts) (room : writer.hasRoom text) :
    Written [.string text] writer
      ((writer.withText text).u16 (UInt16.ofNat writer.tableEnd)) where
  table := (table.withText absent room).of_eq rfl rfl
  kept := by
    intro candidate offset found
    have different : candidate ≠ text := by
      rintro rfl
      rw [(lookup_eq_none_iff_notMem writer candidate).mpr absent] at found
      cases found
    have other : (candidate == text) = false := by simpa using different
    simpa [Writer.u16, put, Writer.withText, List.lookup_cons, other] using found
  mem_texts := by
    intro candidate
    have texts : ((writer.withText text).u16 (UInt16.ofNat writer.tableEnd)).texts =
        writer.texts ++ [text] := texts_withText writer text
    rw [texts]
    simp [Item.texts, text?]
  records := by
    simp [Writer.u16, put, Writer.withText, bytes]

/-- One item, whatever it is. -/
theorem Written.of_write {item : Item} {writer after : Writer} (table : StringTable writer)
    (written : item.write writer = .ok after) : Written [item] writer after := by
  cases item with
  | string text =>
    rw [write, Writer.string] at written
    rcases intern_cases writer text with ⟨offset, known, interned⟩ | ⟨_, _, interned⟩ |
      ⟨_, _, _, interned⟩ | ⟨absent, room, interned⟩
    · rw [interned] at written
      cases written
      exact .of_known table known
    · rw [interned] at written
      cases written
    · rw [interned] at written
      cases written
    · rw [interned] at written
      cases written
      exact .of_new table absent room
  | u8 | s8 | u16 | s16 | u32 | s32 | bool | command =>
    cases written
    exact .of_put table rfl

/-- The bytes of an item stay the same while its text keeps its offset. -/
theorem bytes_eq_of_kept {item : Item} {earlier later : Writer}
    (known : ∀ text, item.text? = some text → text ∈ earlier.texts)
    (kept : ∀ text offset, earlier.offsets.lookup text = some offset →
      later.offsets.lookup text = some offset) :
    item.bytes later.offsets = item.bytes earlier.offsets := by
  cases item with
  | string text =>
    cases found : earlier.offsets.lookup text with
    | none =>
      exact absurd (known text rfl) ((lookup_eq_none_iff_notMem earlier text).mp found)
    | some offset => rw [bytes, bytes, found, kept text offset found]
  | u8 | s8 | u16 | s16 | u32 | s32 | bool | command => rfl

/-- Every sequence of items that can be written leaves behind what it should. -/
theorem Written.of_writeAll {items : List Item} {writer after : Writer}
    (table : StringTable writer) (written : writeAll writer items = .ok after) :
    Written items writer after := by
  induction items generalizing writer with
  | nil =>
    cases written
    exact ⟨table, fun _ _ found => found, by simp [Item.texts], by simp⟩
  | cons item rest inductionHypothesis =>
    rw [writeAll, List.foldlM_cons] at written
    cases first : item.write writer with
    | error fault =>
      rw [first] at written
      cases written
    | ok middle =>
      rw [first] at written
      have one := Written.of_write table first
      have others := inductionHypothesis one.table written
      have brought : ∀ text, item.text? = some text → text ∈ middle.texts := by
        intro text brings
        rw [one.mem_texts]
        exact Or.inr (by simp [Item.texts, brings])
      have sameBytes := bytes_eq_of_kept brought others.kept
      refine ⟨others.table, ?_, ?_, ?_⟩
      · intro text offset found
        exact others.kept text offset (one.kept text offset found)
      · intro text
        rw [others.mem_texts, one.mem_texts, or_assoc]
        simp only [Item.texts, List.filterMap_cons, List.filterMap_nil]
        cases item.text? <;> simp
      · rw [others.records, one.records, List.flatMap_cons, List.flatMap_cons, List.flatMap_nil,
          List.append_nil, sameBytes, List.append_assoc]

end Item

/-- A text that stands in the table of a blob is read at its offset. -/
theorem Read.textAt_entry {blob : Array UInt8} {text : String} {front back : List UInt8}
    (split : blob.toList = front ++ entry text ++ back)
    (short : (Utf8.encode text).length ≤ 255) :
    Read.textAt blob front.length = .ok text := by
  have size : blob.size = front.length + (1 + (Utf8.encode text).length) + back.length := by
    rw [← Array.length_toList, split, List.length_append, List.length_append, length_entry]
  have first : blob[front.length]? = some (UInt8.ofNat (Utf8.encode text).length) := by
    rw [← Array.getElem?_toList, split, List.append_assoc,
      List.getElem?_append_right (Nat.le_refl _), Nat.sub_self]
    rfl
  have count : (UInt8.ofNat (Utf8.encode text).length).toNat = (Utf8.encode text).length :=
    UInt8.toNat_ofNat_of_lt' (Nat.lt_succ_of_le short)
  have content :
      (blob.extract (front.length + 1) (front.length + 1 + (Utf8.encode text).length)).toList =
        Utf8.encode text := by
    rw [Array.toList_extract, List.extract_eq_take_drop, Nat.add_sub_cancel_left, split,
      List.append_assoc, ← List.drop_drop, List.drop_left, entry, List.cons_append,
      List.drop_succ_cons, List.drop_zero, List.take_left]
  simp only [Read.textAt, first, count]
  rw [if_pos (by omega), content, Utf8.decode_encode]

namespace Writer

/-- The two numbers at the start of a blob. -/
def header (writer : Writer) : List UInt8 :=
  toLittleEndian 2 writer.tableEnd ++ toLittleEndian 2 formatVersion.toNat

@[simp]
theorem length_header (writer : Writer) : writer.header.length = headerLength := by
  rw [header, List.length_append, length_toLittleEndian, length_toLittleEndian]
  rfl

/-- The bytes of a finished blob. -/
def finished (writer : Writer) : List UInt8 :=
  writer.header ++ writer.strings.toList ++ writer.records.toList

/-- The records of a finished blob start where the string table ends. -/
theorem tableEnd_eq_length (writer : Writer) :
    writer.tableEnd = (writer.header ++ writer.strings.toList).length := by
  rw [List.length_append, length_header, Array.length_toList, tableEnd]

/-- All that can happen at the end: the table is full, or the blob is put together. -/
theorem finish_cases (writer : Writer) :
    (65535 < writer.tableEnd ∧ writer.finish = .error .stringTableFull) ∨
    (writer.tableEnd ≤ 65535 ∧
      ∃ blob, writer.finish = .ok blob ∧ blob.toList = writer.finished) := by
  by_cases fits : writer.tableEnd ≤ 65535
  · refine Or.inr ⟨fits, writer.finished.toArray, ?_, rfl⟩
    simp [finish, finished, header, ensure, fits, bind, Except.bind, pure, Except.pure]
  · refine Or.inl ⟨by omega, ?_⟩
    simp [finish, ensure, fits, bind, Except.bind]

end Writer

/-- A finished blob has a good header, and its first record comes after the string table. -/
theorem Reader.start_finished {writer : Writer} {blob : Array UInt8}
    (fits : writer.tableEnd ≤ 65535) (content : blob.toList = writer.finished) :
    Reader.start blob = .ok { bytes := blob, offset := writer.tableEnd } := by
  have stop : ofLittleEndian
      [UInt8.ofNat writer.tableEnd, UInt8.ofNat (writer.tableEnd / 256)] = writer.tableEnd := by
    change ofLittleEndian (toLittleEndian 2 writer.tableEnd) = writer.tableEnd
    exact ofLittleEndian_toLittleEndian_of_lt (Nat.lt_succ_of_le fits)
  have large : headerLength ≤ writer.tableEnd := Nat.le_add_right _ _
  have inside : writer.tableEnd ≤ blob.size := by
    rw [← Array.length_toList, content, finished, List.length_append, ← tableEnd_eq_length]
    exact Nat.le_add_right _ _
  have head : blob.toList =
      UInt8.ofNat writer.tableEnd :: UInt8.ofNat (writer.tableEnd / 256) :: 1 :: 0 ::
        (writer.strings.toList ++ writer.records.toList) := by
    rw [content]
    rfl
  have version : UInt16.ofNat (ofLittleEndian [1, 0]) = formatVersion := rfl
  have bounds : ¬ (writer.tableEnd < headerLength ∨ blob.size < writer.tableEnd) := by omega
  simp only [start, head, stop]
  rw [if_neg (not_not_intro version), if_neg bounds]

namespace Item

/-- Every text that has an offset is read at that offset of the finished blob. -/
theorem textAt_finished {writer : Writer} {blob : Array UInt8} (table : StringTable writer)
    (content : blob.toList = writer.finished) {text : String} (member : text ∈ writer.texts) :
    Read.textAt blob ((writer.offsets.lookup text).getD 0).toNat = .ok text := by
  cases found : writer.offsets.lookup text with
  | none => exact absurd member ((lookup_eq_none_iff_notMem writer text).mp found)
  | some offset =>
    obtain ⟨before, after, split, place⟩ := table.placed text offset found
    have whole : blob.toList =
        writer.header ++ before ++ entry text ++ (after ++ writer.records.toList) := by
      rw [content, finished, split]
      simp
    rw [Option.getD_some, place, ← length_header writer, ← List.length_append]
    exact Read.textAt_entry whole (table.short text member)

/-- A finished blob is accepted, and its first record is the first of the written items. -/
theorem Written.holds {items : List Item} {writer : Writer} {blob : Array UInt8}
    (written : Written items {} writer) (fits : writer.tableEnd ≤ 65535)
    (content : blob.toList = writer.finished) :
    ∃ reader, Reader.start blob = .ok reader ∧ reader.offset = writer.tableEnd ∧
      reader.Holds writer.offsets items ∧
      reader.skip (items.flatMap (bytes writer.offsets)).length =
        { reader with offset := blob.size } := by
  have records : writer.records.toList = items.flatMap (bytes writer.offsets) := by
    simpa using written.records
  have size : blob.size = writer.tableEnd + (items.flatMap (bytes writer.offsets)).length := by
    rw [← Array.length_toList, content, finished, List.length_append, ← tableEnd_eq_length,
      records]
  refine ⟨_, Reader.start_finished fits content, rfl, ⟨?_, ?_⟩, ?_⟩
  · refine ⟨_, [], ?_, writer.tableEnd_eq_length⟩
    rw [← records, content, finished, List.append_nil]
  · intro text member
    exact textAt_finished written.table content ((written.mem_texts text).mpr (Or.inr member))
  · rw [size]
    rfl

/-- A finished blob gives back what was written, up to its end. -/
theorem Written.read_back {items : List Item} {writer : Writer} {blob : Array UInt8}
    (written : Written items {} writer) (fits : writer.tableEnd ≤ 65535)
    (content : blob.toList = writer.finished) :
    ∃ reader, Reader.start blob = .ok reader ∧ reader.offset = writer.tableEnd ∧
      readAll (items.map kind) reader = (.ok items, { reader with offset := blob.size }) := by
  obtain ⟨reader, started, offset, holds, ending⟩ := written.holds fits content
  refine ⟨reader, started, offset, ?_⟩
  rw [Read.Takes.items items reader holds, ending]

/-- Writing a text fails exactly if it is new and either too long or too late in the table. -/
theorem Written.string_eq_error_iff {items : List Item} {writer : Writer}
    (written : Written items {} writer) (text : String) (fault : Fault) :
    writer.string text = .error fault ↔
      text ∉ texts items ∧
        (255 < (Utf8.encode text).length ∧ fault = .stringTooLong text ∨
          (Utf8.encode text).length ≤ 255 ∧ 65535 < writer.tableEnd ∧
            fault = .stringTableFull) := by
  have known : text ∈ writer.texts ↔ text ∈ texts items := by
    simpa [Writer.texts] using written.mem_texts text
  rw [← known, Writer.string]
  rcases intern_cases writer text with ⟨offset, found, interned⟩ | ⟨absent, long, interned⟩ |
    ⟨absent, short, full, interned⟩ | ⟨absent, ⟨short, fits⟩, interned⟩
  · have member : text ∈ writer.texts := by
      by_contra absent
      rw [(lookup_eq_none_iff_notMem writer text).mpr absent] at found
      cases found
    simp [interned, member, bind, Except.bind, pure, Except.pure]
  · have notShort : ¬ (Utf8.encode text).length ≤ 255 := by omega
    simp [interned, absent, long, notShort, bind, Except.bind, eq_comm]
  · have notLong : ¬ 255 < (Utf8.encode text).length := by omega
    simp [interned, absent, short, full, notLong, bind, Except.bind, eq_comm]
  · have notLong : ¬ 255 < (Utf8.encode text).length := by omega
    have notFull : ¬ 65535 < writer.tableEnd := by omega
    simp [interned, notLong, notFull, bind, Except.bind, pure, Except.pure]

/-- The string table of a finished blob holds each text once, so its end is known from the texts. -/
theorem Written.tableEnd_eq {items : List Item} {writer : Writer}
    (written : Written items {} writer) :
    writer.tableEnd =
      headerLength + ((texts items).dedup.map fun text => 1 + (Utf8.encode text).length).sum := by
  have same : writer.texts.Perm (texts items).dedup := by
    rw [List.perm_ext_iff_of_nodup written.table.nodup (List.nodup_dedup _)]
    intro text
    rw [List.mem_dedup]
    simpa [Writer.texts] using written.mem_texts text
  rw [written.table.tableEnd_eq, (same.map _).sum_nat]

/-- Writing and reading plain values. After writing any items, one after the other and without a
fault, the string table holds each text once; a further text faults exactly if it is new and is
longer than a length byte can say or starts past the last 16-bit offset; finishing faults exactly
if the table ends past that offset; and a finished blob is accepted, holds the table right after
its header, and gives back the very items, read in order by their kinds, up to its end. -/
theorem written_items_read_back (items : List Item) (writer : Writer)
    (written : writeAll {} items = .ok writer) :
    writer.tableEnd =
      headerLength + ((texts items).dedup.map fun text => 1 + (Utf8.encode text).length).sum ∧
    (∀ text fault, writer.string text = .error fault ↔
      text ∉ texts items ∧
        (255 < (Utf8.encode text).length ∧ fault = .stringTooLong text ∨
          (Utf8.encode text).length ≤ 255 ∧ 65535 < writer.tableEnd ∧
            fault = .stringTableFull)) ∧
    (∀ fault, writer.finish = .error fault ↔
      65535 < writer.tableEnd ∧ fault = .stringTableFull) ∧
    ∀ blob, writer.finish = .ok blob →
      (∃ table : List String, table.Nodup ∧ (∀ text, text ∈ table ↔ text ∈ texts items) ∧
        (blob.toList.take writer.tableEnd).drop headerLength = table.flatMap entry) ∧
      ∃ reader, Reader.start blob = .ok reader ∧ reader.offset = writer.tableEnd ∧
        readAll (items.map kind) reader = (.ok items, { reader with offset := blob.size }) := by
  have holds := Written.of_writeAll StringTable.empty written
  refine ⟨holds.tableEnd_eq, holds.string_eq_error_iff, ?_, ?_⟩
  · intro fault
    rcases finish_cases writer with ⟨full, finished⟩ | ⟨fits, blob, finished, _⟩
    · simp [finished, full, eq_comm]
    · have notFull : ¬ 65535 < writer.tableEnd := by omega
      simp [finished, notFull]
  · intro blob finishedBlob
    rcases finish_cases writer with ⟨_, finished⟩ | ⟨fits, other, finished, content⟩
    · rw [finished] at finishedBlob
      cases finishedBlob
    · rw [finished] at finishedBlob
      cases finishedBlob
      refine ⟨⟨writer.texts, holds.table.nodup, ?_, ?_⟩, holds.read_back fits content⟩
      · intro text
        simpa [Writer.texts] using holds.mem_texts text
      · rw [content, Writer.finished, tableEnd_eq_length, List.take_left, ← length_header writer,
          List.drop_left, holds.table.strings_eq]

/-- Two different texts, one of them twice, between numbers of several widths. -/
def samples : List Item :=
  [.string "half4", .s16 (-2), .string "color", .u8 200, .string "half4", .bool true,
    .command .symbolTable, .u32 0xDEADBEEF]

theorem written_samples_read_back :
    ∃ writer blob reader, writeAll {} samples = .ok writer ∧ writer.finish = .ok blob ∧
      Reader.start blob = .ok reader ∧ reader.offset = 16 ∧
      readAll (samples.map kind) reader = (.ok samples, { reader with offset := blob.size }) := by
  have holds := written_items_read_back samples _ rfl
  obtain ⟨reader, started, offset, read⟩ := (holds.2.2.2 _ rfl).2
  exact ⟨_, _, reader, rfl, rfl, started, offset, read⟩

end Item

end Shading
