import Mathlib.Data.List.Perm.Basic
import Shading.Span

/-!
Merged spans. A span without position adds nothing to a merge, and positioned spans never merge to
one without a position, although that is coded as a pair of offsets like any other. So neither the
order of some spans nor the way they are taken together matters. Main statement:
`Span.merge_lawful`.
-/

namespace Shading.Span

variable {span left right : Span} {spans : List Span}

theorem isNowhere_iff : span.isNowhere = true ↔ span = nowhere :=
  beq_iff_eq

theorem eq_iff_toNat :
    left = right ↔ left.start.toNat = right.start.toNat ∧ left.stop.toNat = right.stop.toNat := by
  cases left
  cases right
  rw [Span.mk.injEq, UInt32.toNat_inj, UInt32.toNat_inj]

/-! ## Two spans -/

@[simp]
theorem nowhere_merge (span : Span) : nowhere.merge span = span := by
  rfl

theorem merge_of_placed (leftPlaced : left ≠ nowhere) (rightPlaced : right ≠ nowhere) :
    left.merge right = ⟨min left.start right.start, max left.stop right.stop⟩ := by
  rw [merge, if_neg (mt isNowhere_iff.mp leftPlaced), if_neg (mt isNowhere_iff.mp rightPlaced)]

@[simp]
theorem merge_nowhere (span : Span) : span.merge nowhere = span := by
  by_cases absent : span = nowhere
  · rw [absent, nowhere_merge]
  · rw [merge, if_neg (mt isNowhere_iff.mp absent)]
    rfl

theorem toNat_start_merge (leftPlaced : left ≠ nowhere) (rightPlaced : right ≠ nowhere) :
    (left.merge right).start.toNat = min left.start.toNat right.start.toNat := by
  rw [merge_of_placed leftPlaced rightPlaced, UInt32.toNat_min]

theorem toNat_stop_merge (leftPlaced : left ≠ nowhere) (rightPlaced : right ≠ nowhere) :
    (left.merge right).stop.toNat = max left.stop.toNat right.stop.toNat := by
  rw [merge_of_placed leftPlaced rightPlaced, UInt32.toNat_max]

/-- Both ends of a merge lie at the last offset only if those of one of the two spans do: then both
spans start there, and one of them stops there. -/
theorem merge_ne_nowhere (leftPlaced : left ≠ nowhere) (rightPlaced : right ≠ nowhere) :
    left.merge right ≠ nowhere := by
  intro absent
  have ends := eq_iff_toNat.mp absent
  rw [toNat_start_merge leftPlaced rightPlaced, toNat_stop_merge leftPlaced rightPlaced] at ends
  rw [Ne, eq_iff_toNat] at leftPlaced rightPlaced
  have last : nowhere.start.toNat = 0xFFFFFFFF ∧ nowhere.stop.toNat = 0xFFFFFFFF := ⟨rfl, rfl⟩
  have leftStart := left.start.toNat_lt
  have rightStart := right.start.toNat_lt
  omega

theorem merge_self (span : Span) : span.merge span = span := by
  by_cases absent : span = nowhere
  · rw [absent, nowhere_merge]
  · rw [eq_iff_toNat, toNat_start_merge absent absent, toNat_stop_merge absent absent]
    exact ⟨Nat.min_self _, Nat.max_self _⟩

theorem merge_comm (left right : Span) : left.merge right = right.merge left := by
  by_cases leftAbsent : left = nowhere
  · rw [leftAbsent, nowhere_merge, merge_nowhere]
  by_cases rightAbsent : right = nowhere
  · rw [rightAbsent, nowhere_merge, merge_nowhere]
  rw [eq_iff_toNat, toNat_start_merge leftAbsent rightAbsent,
    toNat_start_merge rightAbsent leftAbsent, toNat_stop_merge leftAbsent rightAbsent,
    toNat_stop_merge rightAbsent leftAbsent]
  exact ⟨Nat.min_comm _ _, Nat.max_comm _ _⟩

theorem merge_assoc (left middle right : Span) :
    (left.merge middle).merge right = left.merge (middle.merge right) := by
  by_cases leftAbsent : left = nowhere
  · rw [leftAbsent, nowhere_merge, nowhere_merge]
  by_cases middleAbsent : middle = nowhere
  · rw [middleAbsent, nowhere_merge, merge_nowhere]
  by_cases rightAbsent : right = nowhere
  · rw [rightAbsent, merge_nowhere, merge_nowhere]
  -- Two positioned spans merge to one that is positioned, so that the third one is compared with it.
  have leftMerge := merge_ne_nowhere leftAbsent middleAbsent
  have rightMerge := merge_ne_nowhere middleAbsent rightAbsent
  rw [eq_iff_toNat, toNat_start_merge leftMerge rightAbsent,
    toNat_start_merge leftAbsent middleAbsent, toNat_start_merge leftAbsent rightMerge,
    toNat_start_merge middleAbsent rightAbsent, toNat_stop_merge leftMerge rightAbsent,
    toNat_stop_merge leftAbsent middleAbsent, toNat_stop_merge leftAbsent rightMerge,
    toNat_stop_merge middleAbsent rightAbsent]
  exact ⟨Nat.min_assoc _ _ _, Nat.max_assoc _ _ _⟩

instance : Std.Commutative merge := ⟨merge_comm⟩

instance : Std.Associative merge := ⟨merge_assoc⟩

/-- A span that does not end before it starts. -/
def Ordered (span : Span) : Prop := span.start ≤ span.stop

theorem Ordered.merge (leftOrdered : left.Ordered) (rightOrdered : right.Ordered) :
    (left.merge right).Ordered := by
  by_cases leftAbsent : left = nowhere
  · rwa [leftAbsent, nowhere_merge]
  by_cases rightAbsent : right = nowhere
  · rwa [rightAbsent, merge_nowhere]
  rw [Ordered, UInt32.le_iff_toNat_le] at leftOrdered rightOrdered ⊢
  rw [toNat_start_merge leftAbsent rightAbsent, toNat_stop_merge leftAbsent rightAbsent]
  omega

/-- The length of an ordered span is how far its end lies after its start. -/
theorem Ordered.length_eq (ordered : span.Ordered) :
    span.length = .ok (span.stop - span.start) ∧
      (span.stop - span.start).toNat = span.stop.toNat - span.start.toNat := by
  refine ⟨?_, UInt32.toNat_sub_of_le _ _ ordered⟩
  by_cases absent : span = nowhere
  · rw [absent]
    rfl
  · rw [length, if_neg (mt isNowhere_iff.mp absent), if_neg (UInt32.not_lt.mpr ordered)]

/-! ## Many spans -/

/-- The smallest span over all of some spans. -/
def mergeAll (spans : List Span) : Span :=
  spans.foldl merge nowhere

@[simp]
theorem mergeAll_cons (span : Span) (rest : List Span) :
    mergeAll (span :: rest) = span.merge (mergeAll rest) := by
  have assoc : rest.foldl merge (span.merge nowhere) = span.merge (mergeAll rest) :=
    List.foldl_assoc
  rwa [merge_nowhere] at assoc

theorem mergeAll_append (first second : List Span) :
    mergeAll (first ++ second) = (mergeAll first).merge (mergeAll second) := by
  have assoc : second.foldl merge ((mergeAll first).merge nowhere) =
      (mergeAll first).merge (mergeAll second) := List.foldl_assoc
  rwa [merge_nowhere, mergeAll, ← List.foldl_append] at assoc

theorem mergeAll_eq_nowhere_iff : mergeAll spans = nowhere ↔ ∀ span ∈ spans, span = nowhere := by
  induction spans with
  | nil => exact ⟨fun _ => nofun, fun _ => rfl⟩
  | cons span rest inductionHypothesis =>
    rw [mergeAll_cons, List.forall_mem_cons, ← inductionHypothesis]
    constructor
    · intro absent
      by_cases first : span = nowhere
      · exact ⟨first, by rwa [first, nowhere_merge] at absent⟩
      by_cases others : mergeAll rest = nowhere
      · exact ⟨by rwa [others, merge_nowhere] at absent, others⟩
      · exact absurd absent (merge_ne_nowhere first others)
    · rintro ⟨first, others⟩
      rw [first, others, nowhere_merge]

/-- The ends of the positioned spans, each read off by `offset`. -/
def ends (offset : Span → UInt32) (spans : List Span) : List Nat :=
  (spans.filter fun span => !span.isNowhere).map fun span => (offset span).toNat

theorem ends_cons_of_placed (offset : Span → UInt32) (placed : span ≠ nowhere) :
    ends offset (span :: spans) = (offset span).toNat :: ends offset spans := by
  have kept : span.isNowhere = false := Bool.eq_false_iff.mpr (mt isNowhere_iff.mp placed)
  simp [ends, kept]

theorem ends_eq_nil (offset : Span → UInt32) (absent : ∀ span ∈ spans, span = nowhere) :
    ends offset spans = [] := by
  rw [ends, List.map_eq_nil_iff, List.filter_eq_nil_iff]
  intro span member
  rw [absent span member]
  decide

/-- A merge reaches from the smallest start to the greatest stop. -/
theorem ends_mergeAll (placed : mergeAll spans ≠ nowhere) :
    (ends start spans).min? = some (mergeAll spans).start.toNat ∧
      (ends stop spans).max? = some (mergeAll spans).stop.toNat := by
  induction spans with
  | nil => exact absurd rfl placed
  | cons span rest inductionHypothesis =>
    rw [mergeAll_cons] at placed ⊢
    by_cases first : span = nowhere
    · rw [first, nowhere_merge] at placed ⊢
      exact inductionHypothesis placed
    rw [ends_cons_of_placed start first, ends_cons_of_placed stop first, List.min?_cons,
      List.max?_cons]
    by_cases others : mergeAll rest = nowhere
    · have absent := mergeAll_eq_nowhere_iff.mp others
      rw [others, merge_nowhere, ends_eq_nil start absent, ends_eq_nil stop absent]
      exact ⟨rfl, rfl⟩
    · obtain ⟨least, greatest⟩ := inductionHypothesis others
      rw [least, greatest, toNat_start_merge first others, toNat_stop_merge first others]
      exact ⟨rfl, rfl⟩

theorem ordered_mergeAll (ordered : ∀ span ∈ spans, span.Ordered) : (mergeAll spans).Ordered := by
  induction spans with
  | nil => exact UInt32.le_refl _
  | cons span rest inductionHypothesis =>
    rw [List.forall_mem_cons] at ordered
    rw [mergeAll_cons]
    exact ordered.1.merge (inductionHypothesis ordered.2)

/-! ## Any way to merge -/

/-- A way to merge some spans, two of them or two merges at a time. -/
inductive Merging where
  | single (span : Span)
  | both (left right : Merging)

namespace Merging

/-- The spans that are merged, from left to right. -/
def members : Merging → List Span
  | single span => [span]
  | both left right => left.members ++ right.members

def merged : Merging → Span
  | single span => span
  | both left right => left.merged.merge right.merged

theorem merged_eq (merging : Merging) : merging.merged = mergeAll merging.members := by
  induction merging with
  | single span => rfl
  | both left right leftMerged rightMerged =>
    rw [merged, members, mergeAll_append, leftMerged, rightMerged]

end Merging

/-- What holds of the merge of some spans. -/
structure MergeLaws (spans : List Span) : Prop where
  perm : ∀ other : List Span, other.Perm spans → mergeAll other = mergeAll spans
  grouped : ∀ merging : Merging, merging.members.Perm spans → merging.merged = mergeAll spans
  nowhere_iff : mergeAll spans = nowhere ↔ ∀ span ∈ spans, span = nowhere
  ends_eq : mergeAll spans ≠ nowhere →
    (ends start spans).min? = some (mergeAll spans).start.toNat ∧
      (ends stop spans).max? = some (mergeAll spans).stop.toNat
  ordered : (∀ span ∈ spans, span.Ordered) → (mergeAll spans).Ordered
  /-- The length is never a difference below zero. -/
  length_eq : (∀ span ∈ spans, span.Ordered) → ∃ bytes, (mergeAll spans).length = .ok bytes ∧
    bytes.toNat = (mergeAll spans).stop.toNat - (mergeAll spans).start.toNat

/-- Spans form a semilattice under merging, with the span without position at its bottom, which is
no merge of positioned spans; and the merge of any spans depends only on which they are. -/
theorem merge_lawful :
    (∀ left right : Span, left.merge right = right.merge left) ∧
    (∀ left middle right : Span,
      (left.merge middle).merge right = left.merge (middle.merge right)) ∧
    (∀ span : Span, span.merge span = span ∧ nowhere.merge span = span) ∧
    (∀ left right : Span, left ≠ nowhere → right ≠ nowhere → left.merge right ≠ nowhere) ∧
    ∀ spans : List Span, MergeLaws spans := by
  refine ⟨merge_comm, merge_assoc, fun span => ⟨merge_self span, nowhere_merge span⟩,
    fun _ _ => merge_ne_nowhere, fun spans => ?_⟩
  have perm (other : List Span) (same : other.Perm spans) : mergeAll other = mergeAll spans :=
    same.foldl_op_eq
  exact
    { perm
      grouped := fun merging same => merging.merged_eq.trans (perm _ same)
      nowhere_iff := mergeAll_eq_nowhere_iff
      ends_eq := ends_mergeAll
      ordered := ordered_mergeAll
      length_eq := fun ordered => ⟨_, (ordered_mergeAll ordered).length_eq⟩ }

example : mergeAll [⟨7, 0xFFFFFFFF⟩, nowhere, ⟨3, 5⟩] = ⟨3, 0xFFFFFFFF⟩ := by
  decide

end Shading.Span
