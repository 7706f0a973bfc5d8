import Mathlib.Data.List.Dedup
import Mathlib.Data.List.Perm.Subperm
import Shading.Proofs.Diagnostic.Runs

/-!
Reports in another order. A queue that drops repetitions keeps one diagnostic for each key until its
limit is reached. Which one it keeps depends on the order of the reports, but how many it keeps does
not, nor do their keys and places as long as the limit leaves room for all keys. Main statement:
`DiagnosticQueue.collected_perm`.
-/

namespace Shading

/-- The number of different keys among some diagnostics. -/
def Diagnostic.keyCount (reports : List Diagnostic) : Nat :=
  (reports.map key).dedup.length

/-- A number cut off at a limit, where zero is no limit. -/
def QueueConfig.capped (limit number : Nat) : Nat :=
  if limit = 0 then number else min number limit

namespace DiagnosticQueue

/-- What a new queue without repetitions hands out after some reports. -/
def collected (limit : Nat) (reports : List Diagnostic) : List Diagnostic :=
  (reports.foldl add { config := ⟨limit, true⟩ }).flush.1

/-! ## What a queue keeps of its reports -/

variable {limit : Nat} {queue : DiagnosticQueue} {waiting reports others : List Diagnostic}

/-- A queue that was told some reports and keeps one of each key as long as there is room. -/
structure Collects (queue : DiagnosticQueue) (limit : Nat) (waiting reports : List Diagnostic) :
    Prop where
  holds : queue.Holds ⟨limit, true⟩ waiting
  reported : ∀ kept ∈ waiting, kept ∈ reports
  complete : limit = 0 ∨ waiting.length < limit →
    ∀ report ∈ reports, ∃ kept ∈ waiting, kept.key = report.key

namespace Collects

theorem fresh (limit : Nat) : Collects { config := ⟨limit, true⟩ } limit [] [] where
  holds := Holds.fresh _
  reported := by simp
  complete := by simp

theorem add (collects : queue.Collects limit waiting reports) (report : Diagnostic) :
    ∃ after, (queue.add report).Collects limit after (reports ++ [report]) := by
  by_cases room : HasRoom ⟨limit, true⟩ waiting report
  · refine ⟨waiting ++ [report], ⟨(collects.holds.offer_of_room room).2, ?_, ?_⟩⟩
    · intro kept member
      rcases List.mem_append.mp member with before | new
      · exact List.mem_append_left _ (collects.reported kept before)
      · exact List.mem_append_right _ new
    · intro below told member
      have stillBelow : limit = 0 ∨ waiting.length < limit := room.1
      rcases List.mem_append.mp member with before | new
      · obtain ⟨kept, here, same⟩ := collects.complete stillBelow told before
        exact ⟨kept, List.mem_append_left _ here, same⟩
      · exact ⟨told, List.mem_append_right _ new, rfl⟩
  · refine ⟨waiting, ⟨?_, ?_, ?_⟩⟩
    · rw [DiagnosticQueue.add, collects.holds.offer_of_noRoom room]
      exact collects.holds
    · intro kept member
      exact List.mem_append_left _ (collects.reported kept member)
    · intro below told member
      rcases List.mem_append.mp member with before | new
      · exact collects.complete below told before
      · -- There is room by the limit, so that a report was refused for a repetition.
        rw [List.mem_singleton.mp new]
        by_cases found : ∃ kept ∈ waiting, kept.key = report.key
        · exact found
        · exact absurd ⟨below, fun _ kept here same => found ⟨kept, here, same⟩⟩ room

theorem addAll (collects : queue.Collects limit waiting reports) (more : List Diagnostic) :
    ∃ after, (more.foldl DiagnosticQueue.add queue).Collects limit after (reports ++ more) := by
  induction more generalizing queue waiting reports with
  | nil =>
    rw [List.append_nil]
    exact ⟨waiting, collects⟩
  | cons report rest inductionHypothesis =>
    obtain ⟨after, next⟩ := collects.add report
    obtain ⟨last, done⟩ := inductionHypothesis next
    rw [List.append_assoc] at done
    exact ⟨last, done⟩

/-! ## Keys -/

variable (collects : queue.Collects limit waiting reports)
include collects

/-- What is kept has keys of the reports, none of them twice. -/
theorem subperm_keys :
    (waiting.map Diagnostic.key).Subperm (reports.map Diagnostic.key).dedup := by
  have distinct : (waiting.map Diagnostic.key).Nodup :=
    List.pairwise_map.mpr (collects.holds.distinct rfl)
  refine distinct.subperm fun key member => List.mem_dedup.mpr ?_
  obtain ⟨kept, here, rfl⟩ := List.mem_map.mp member
  exact List.mem_map_of_mem (collects.reported kept here)

theorem length_le_keyCount : waiting.length ≤ Diagnostic.keyCount reports := by
  have short := collects.subperm_keys.length_le
  rw [List.length_map] at short
  exact short

theorem keyCount_le (below : limit = 0 ∨ waiting.length < limit) :
    Diagnostic.keyCount reports ≤ waiting.length := by
  have covered : (reports.map Diagnostic.key).dedup ⊆ waiting.map Diagnostic.key := by
    intro key member
    obtain ⟨report, here, rfl⟩ := List.mem_map.mp (List.mem_dedup.mp member)
    obtain ⟨kept, there, same⟩ := collects.complete below report here
    exact same ▸ List.mem_map_of_mem there
  have short := ((List.nodup_dedup (reports.map Diagnostic.key)).subperm covered).length_le
  rw [List.length_map] at short
  exact short

theorem length_eq : waiting.length = QueueConfig.capped limit (Diagnostic.keyCount reports) := by
  have upper := collects.length_le_keyCount
  have counted := collects.holds.count_eq
  have bounded := collects.holds.count_le
  rw [QueueConfig.capped]
  by_cases unlimited : limit = 0
  · rw [if_pos unlimited]
    have lower := collects.keyCount_le (Or.inl unlimited)
    omega
  · rw [if_neg unlimited]
    have within : queue.count ≤ limit := bounded unlimited
    by_cases below : waiting.length < limit
    · have lower := collects.keyCount_le (Or.inr below)
      omega
    · omega

/-- With room for all keys, each is kept. -/
theorem perm_keys (room : limit = 0 ∨ Diagnostic.keyCount reports ≤ limit) :
    (waiting.map Diagnostic.key).Perm (reports.map Diagnostic.key).dedup := by
  have kept := collects.length_eq
  have whole : QueueConfig.capped limit (Diagnostic.keyCount reports) =
      Diagnostic.keyCount reports := by
    rw [QueueConfig.capped]
    split <;> omega
  refine collects.subperm_keys.perm_of_length_le ?_
  rw [List.length_map, kept, whole]
  exact Nat.le_refl _

/-- What was reported once is not taken again. -/
theorem add_again {report : Diagnostic} (told : report ∈ reports) : queue.add report = queue := by
  have full : ¬HasRoom ⟨limit, true⟩ waiting report := by
    rintro ⟨below, new⟩
    obtain ⟨kept, here, same⟩ := collects.complete below report told
    exact new rfl kept here same
  rw [DiagnosticQueue.add, collects.holds.offer_of_noRoom full]

theorem addAll_again {more : List Diagnostic} (told : more ⊆ reports) :
    more.foldl DiagnosticQueue.add queue = queue := by
  induction more with
  | nil => rfl
  | cons report rest inductionHypothesis =>
    rw [List.foldl_cons, collects.add_again (told List.mem_cons_self)]
    exact inductionHypothesis fun other member => told (List.mem_cons_of_mem report member)

theorem sortedFrom_flush : SortedFrom queue.flush.1 waiting := by
  rw [flush, collects.holds.sorted_eq]
  exact sortedFrom_mergeSort waiting

end Collects

theorem exists_collects (limit : Nat) (reports : List Diagnostic) : ∃ waiting queue,
    Collects queue limit waiting reports ∧ collected limit reports = queue.flush.1 := by
  obtain ⟨waiting, collects⟩ := (Collects.fresh limit).addAll reports
  exact ⟨waiting, _, collects, rfl⟩

theorem length_collected (limit : Nat) (reports : List Diagnostic) :
    (collected limit reports).length =
      QueueConfig.capped limit (Diagnostic.keyCount reports) := by
  obtain ⟨waiting, queue, collects, same⟩ := exists_collects limit reports
  rw [same, collects.sortedFrom_flush.perm.length_eq, collects.length_eq]

theorem keys_collected (room : limit = 0 ∨ Diagnostic.keyCount reports ≤ limit) :
    ((collected limit reports).map Diagnostic.key).Perm (reports.map Diagnostic.key).dedup := by
  obtain ⟨waiting, queue, collects, same⟩ := exists_collects limit reports
  rw [same]
  exact (collects.sortedFrom_flush.perm.map _).trans (collects.perm_keys room)

theorem ordered_collected (limit : Nat) (reports : List Diagnostic) :
    ((collected limit reports).map Diagnostic.offset).Pairwise (· ≤ ·) := by
  obtain ⟨waiting, queue, collects, same⟩ := exists_collects limit reports
  rw [same]
  exact List.pairwise_map.mpr collects.sortedFrom_flush.ordered

/-! ## Another order -/

theorem keyCount_perm (perm : reports.Perm others) :
    Diagnostic.keyCount reports = Diagnostic.keyCount others :=
  (perm.map Diagnostic.key).dedup.length_eq

/-- What is the same of two collections of one limit from the same reports in two orders. -/
structure SameCollection (limit : Nat) (reports others : List Diagnostic) : Prop where
  length_eq : (collected limit reports).length =
    QueueConfig.capped limit (Diagnostic.keyCount reports)
  length_same : (collected limit others).length = (collected limit reports).length
  keys_same : limit = 0 ∨ Diagnostic.keyCount reports ≤ limit →
    ((collected limit reports).map Diagnostic.key).Perm
      ((collected limit others).map Diagnostic.key)
  offsets_same : limit = 0 ∨ Diagnostic.keyCount reports ≤ limit →
    (collected limit reports).map Diagnostic.offset = (collected limit others).map Diagnostic.offset

/-- The order of the reports does not matter for how many diagnostics are collected, nor for their
keys and places when there is room for all keys. -/
theorem collected_perm (limit : Nat) (perm : reports.Perm others) :
    SameCollection limit reports others := by
  have counts := keyCount_perm perm
  have keys : limit = 0 ∨ Diagnostic.keyCount reports ≤ limit →
      ((collected limit reports).map Diagnostic.key).Perm
        ((collected limit others).map Diagnostic.key) := by
    intro room
    have left := keys_collected room
    have right := keys_collected (counts ▸ room)
    exact left.trans ((perm.map Diagnostic.key).dedup.trans right.symm)
  refine ⟨length_collected limit reports, ?_, keys, fun room => ?_⟩
  · rw [length_collected, length_collected, counts]
  · have offsets : ((collected limit reports).map Diagnostic.offset).Perm
        ((collected limit others).map Diagnostic.offset) := by
      have places := (keys room).map Prod.fst
      rw [List.map_map, List.map_map] at places
      exact places
    exact offsets.eq_of_pairwise (fun _ _ _ _ => UInt32.le_antisymm)
      (ordered_collected limit reports) (ordered_collected limit others)

def lateReport : Diagnostic := .placed ⟨9, 12⟩ .typeMismatch "late"

def earlyReport : Diagnostic := .placed ⟨3, 5⟩ .typeMismatch "early"

/-- A repetition of the early report under another code. -/
def repeatedReport : Diagnostic := .placed ⟨3, 4⟩ .outOfRange "early"

/-- Of a report and its repetition the one that comes first is kept. -/
theorem repeated_collected :
    [lateReport, earlyReport, repeatedReport].Perm [repeatedReport, lateReport, earlyReport] ∧
      SameCollection 2 [lateReport, earlyReport, repeatedReport]
        [repeatedReport, lateReport, earlyReport] ∧
      collected 2 [lateReport, earlyReport, repeatedReport] = [earlyReport, lateReport] ∧
      collected 2 [repeatedReport, lateReport, earlyReport] = [repeatedReport, lateReport] := by
  have perm : [lateReport, earlyReport, repeatedReport].Perm
      [repeatedReport, lateReport, earlyReport] := by decide
  have queued : ([lateReport, earlyReport, repeatedReport].foldl add
      { config := ⟨2, true⟩ }).queued = [⟨lateReport, 9⟩, ⟨earlyReport, 3⟩] := by decide
  have otherwise : ([repeatedReport, lateReport, earlyReport].foldl add
      { config := ⟨2, true⟩ }).queued = [⟨repeatedReport, 3⟩, ⟨lateReport, 9⟩] := by decide
  refine ⟨perm, collected_perm 2 perm, ?_, ?_⟩
  · rw [collected, flush, sorted, queued]
    simp [List.mergeSort]
  · rw [collected, flush, sorted, otherwise]
    simp [List.mergeSort]

end DiagnosticQueue

end Shading
