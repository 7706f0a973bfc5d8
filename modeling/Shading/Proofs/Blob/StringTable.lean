import Mathlib.Algebra.GroupWithZero.Nat
import Shading.Blob.Writer

/-!
The string table of a blob in the making. `StringTable` says how the table and the offsets belong
together: each text of the table stands at the offset that is known for it. Main statements:
`intern_cases`, all that can happen to a text, and `StringTable.intern`, the table stays so.
-/

namespace Shading

namespace Writer

/-- A text as the table holds it: a length byte and then the text. -/
def entry (text : String) : List UInt8 :=
  UInt8.ofNat (Utf8.encode text).length :: Utf8.encode text

@[simp]
theorem length_entry (text : String) :
    (entry text).length = 1 + (Utf8.encode text).length := by
  rw [entry, List.length_cons, Nat.add_comm]

/-- The texts in the table, in the order in which they entered it. -/
def texts (writer : Writer) : List String :=
  (writer.offsets.map Prod.fst).reverse

/-- The writer after a new text entered the table. -/
def withText (writer : Writer) (text : String) : Writer :=
  { writer with
    strings := writer.strings ++ entry text
    offsets := (text, UInt16.ofNat writer.tableEnd) :: writer.offsets }

@[simp]
theorem texts_withText (writer : Writer) (text : String) :
    (writer.withText text).texts = writer.texts ++ [text] := by
  simp [texts, withText]

theorem lookup_eq_none_iff_notMem (writer : Writer) (text : String) :
    writer.offsets.lookup text = none ↔ text ∉ writer.texts := by
  rw [List.lookup_eq_none_iff, texts, List.mem_reverse, List.mem_map]
  constructor
  · rintro absent ⟨found, member, rfl⟩
    exact absurd (absent found member) (by simp)
  · intro absent found member
    have different : text ≠ found.1 := fun same => absent ⟨found, member, same.symm⟩
    simpa using different

/-- Whether a text can enter the table as it stands. -/
def hasRoom (writer : Writer) (text : String) : Prop :=
  (Utf8.encode text).length ≤ 255 ∧ writer.tableEnd ≤ 65535

/-- All that can happen to a text: it is known, it is too long, the table is full, or it enters. -/
theorem intern_cases (writer : Writer) (text : String) :
    (∃ offset, writer.offsets.lookup text = some offset ∧
      writer.intern text = .ok (offset, writer)) ∨
    (text ∉ writer.texts ∧ 255 < (Utf8.encode text).length ∧
      writer.intern text = .error (.stringTooLong text)) ∨
    (text ∉ writer.texts ∧ (Utf8.encode text).length ≤ 255 ∧ 65535 < writer.tableEnd ∧
      writer.intern text = .error .stringTableFull) ∨
    (text ∉ writer.texts ∧ writer.hasRoom text ∧
      writer.intern text = .ok (UInt16.ofNat writer.tableEnd, writer.withText text)) := by
  cases known : writer.offsets.lookup text with
  | some offset =>
    refine Or.inl ⟨offset, rfl, ?_⟩
    simp [intern, known, pure, Except.pure]
  | none =>
    have absent := (lookup_eq_none_iff_notMem writer text).mp known
    refine Or.inr ?_
    by_cases short : (Utf8.encode text).length ≤ 255
    · by_cases fits : writer.tableEnd ≤ 65535
      · refine Or.inr (Or.inr ⟨absent, ⟨short, fits⟩, ?_⟩)
        simp [intern, known, ensure, short, fits, withText, entry, bind, Except.bind, pure,
          Except.pure]
      · refine Or.inr (Or.inl ⟨absent, short, by omega, ?_⟩)
        simp [intern, known, ensure, short, fits, bind, Except.bind]
    · refine Or.inl ⟨absent, by omega, ?_⟩
      simp [intern, known, ensure, short, bind, Except.bind]

/-- The table and the offsets of a writer belong together. -/
structure StringTable (writer : Writer) : Prop where
  strings_eq : writer.strings.toList = writer.texts.flatMap entry
  nodup : writer.texts.Nodup
  short : ∀ text ∈ writer.texts, (Utf8.encode text).length ≤ 255
  /-- Each text stands at its offset, which counts from the start of the finished blob. -/
  placed : ∀ text offset, writer.offsets.lookup text = some offset →
    ∃ before after, writer.strings.toList = before ++ entry text ++ after ∧
      offset.toNat = headerLength + before.length

namespace StringTable

theorem empty : StringTable {} where
  strings_eq := rfl
  nodup := List.nodup_nil
  short := by
    intro text member
    cases member
  placed := by
    intro text offset found
    cases found

/-- The table ends after a length byte and the bytes of each of its texts. -/
theorem tableEnd_eq {writer : Writer} (table : StringTable writer) :
    writer.tableEnd =
      headerLength + (writer.texts.map fun text => 1 + (Utf8.encode text).length).sum := by
  have size : writer.strings.size = (writer.texts.flatMap entry).length := by
    rw [← table.strings_eq, Array.length_toList]
  rw [tableEnd, size, List.length_flatMap]
  simp only [length_entry]

/-- Only the string table matters; records can be added freely. -/
theorem of_eq {writer other : Writer} (table : StringTable writer)
    (strings : other.strings = writer.strings) (offsets : other.offsets = writer.offsets) :
    StringTable other := by
  have texts : other.texts = writer.texts := by rw [Writer.texts, offsets, Writer.texts]
  constructor
  · rw [strings, texts]
    exact table.strings_eq
  · rw [texts]
    exact table.nodup
  · rw [texts]
    exact table.short
  · rw [strings, offsets]
    exact table.placed

/-- A new text leaves every text before it in its place. -/
theorem withText {writer : Writer} (table : StringTable writer) {text : String}
    (absent : text ∉ writer.texts) (room : writer.hasRoom text) :
    StringTable (writer.withText text) := by
  have strings : (writer.withText text).strings.toList = writer.strings.toList ++ entry text := by
    simp [Writer.withText]
  constructor
  · rw [strings, texts_withText, table.strings_eq]
    simp
  · rw [texts_withText]
    refine List.nodup_append.mpr ⟨table.nodup, by simp, ?_⟩
    intro old member new last same
    rw [List.mem_singleton.mp last] at same
    exact absent (same ▸ member)
  · intro candidate member
    rw [texts_withText, List.mem_append, List.mem_singleton] at member
    rcases member with old | rfl
    · exact table.short candidate old
    · exact room.1
  · intro candidate offset found
    rw [strings]
    by_cases same : candidate = text
    · subst candidate
      have offsetEq : UInt16.ofNat writer.tableEnd = offset := by
        simpa [Writer.withText] using found
      refine ⟨writer.strings.toList, [], by simp, ?_⟩
      rw [← offsetEq, UInt16.toNat_ofNat_of_lt' (Nat.lt_succ_of_le room.2), tableEnd,
        Array.length_toList]
    · have earlier : writer.offsets.lookup candidate = some offset := by
        have other : (candidate == text) = false := by simpa using same
        simpa [Writer.withText, List.lookup_cons, other] using found
      obtain ⟨before, after, split, offsetEq⟩ := table.placed candidate offset earlier
      exact ⟨before, after ++ entry text, by simp [split], offsetEq⟩

end StringTable

end Writer

end Shading
