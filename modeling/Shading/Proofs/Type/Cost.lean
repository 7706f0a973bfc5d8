import Mathlib.Algebra.GroupWithZero.Nat
import Shading.Type.Cost

/-!
Sums of costs. The worst kind among some costs is the kind of their sum, and the steps of that kind
add up, to at most the greatest number that steps can have. So neither the order of the costs nor
the way they are taken together matters, and a sum grows with its members. Main statement:
`Cost.sum_lawful`.
-/

namespace Shading.Cost

variable {left middle right cost larger : Cost} {costs : List Cost} {allowNarrowing : Bool}

/-! ## Steps -/

/-- The greatest number of steps. -/
def mostSteps : Nat := 0xFFFFFFFF

theorem toNat_addSteps (left right : UInt32) :
    (addSteps left right).toNat = min (left.toNat + right.toNat) mostSteps := by
  rw [addSteps, mostSteps]
  split
  · rename_i small
    rw [UInt32.toNat_add, Nat.mod_eq_of_lt small]
    omega
  · rename_i large
    have most : UInt32.toNat 0xFFFFFFFF = 0xFFFFFFFF := rfl
    rw [most]
    omega

theorem toNat_le_mostSteps (steps : UInt32) : steps.toNat ≤ mostSteps := by
  have below := steps.toNat_lt
  rw [mostSteps]
  omega

theorem addSteps_comm (left right : UInt32) : addSteps left right = addSteps right left := by
  rw [← UInt32.toNat_inj, toNat_addSteps, toNat_addSteps, Nat.add_comm]

theorem addSteps_assoc (left middle right : UInt32) :
    addSteps (addSteps left middle) right = addSteps left (addSteps middle right) := by
  simp only [← UInt32.toNat_inj, toNat_addSteps]
  omega

/-! ## Order -/

theorem lt_iff : left.lt right = true ↔ left.rank < right.rank ∨
    left.rank = right.rank ∧ left.steps.toNat < right.steps.toNat := by
  simp only [lt, Bool.or_eq_true, Bool.and_eq_true, decide_eq_true_eq, beq_iff_eq,
    UInt32.lt_iff_toNat_lt]

theorem le_iff : left.le right = true ↔ left.rank < right.rank ∨
    left.rank = right.rank ∧ left.steps.toNat ≤ right.steps.toNat := by
  rw [le, Bool.not_eq_eq_eq_not, Bool.not_true, ← Bool.not_eq_true, lt_iff]
  omega

theorem le_refl (cost : Cost) : cost.le cost = true := by
  rw [le_iff]
  omega

/-- The kinds of cost that are allowed come before those that are not. -/
theorem isPossible_iff_rank_le :
    cost.isPossible allowNarrowing = true ↔ cost.rank ≤ if allowNarrowing then 2 else 1 := by
  cases cost <;> cases allowNarrowing <;> simp [isPossible, rank]

theorem lt_of_isPossible (possible : left.isPossible allowNarrowing = true)
    (impossible : right.isPossible allowNarrowing = false) : left.lt right = true := by
  rw [isPossible_iff_rank_le] at possible
  rw [← Bool.not_eq_true, isPossible_iff_rank_le] at impossible
  rw [lt_iff]
  omega

theorem le_of_lt (less : left.lt right = true) : left.le right = true := by
  rw [lt_iff] at less
  rw [le_iff]
  omega

theorem lt_of_lt_of_le (less : left.lt middle = true) (atMost : middle.le right = true) :
    left.lt right = true := by
  rw [lt_iff] at less
  rw [le_iff] at atMost
  rw [lt_iff]
  omega

theorem not_lt_of_le (atMost : left.le right = true) : ¬right.lt left = true := by
  rw [le_iff] at atMost
  rw [lt_iff]
  omega

/-! ## Two costs -/

theorem add_comm (left right : Cost) : left.add right = right.add left := by
  cases left <;> cases right <;> simp [add, addSteps_comm]

theorem add_assoc (left middle right : Cost) :
    (left.add middle).add right = left.add (middle.add right) := by
  cases left <;> cases middle <;> cases right <;> simp [add, addSteps_assoc]

theorem free_add (cost : Cost) : free.add cost = cost := by
  cases cost <;> rfl

theorem add_free (cost : Cost) : cost.add free = cost := by
  rw [add_comm, free_add]

theorem isPossible_add : (left.add right).isPossible allowNarrowing =
    (left.isPossible allowNarrowing && right.isPossible allowNarrowing) := by
  cases left <;> cases right <;> simp [add, isPossible]

theorem rank_add : (left.add right).rank = max left.rank right.rank := by
  cases left <;> cases right <;> rfl

theorem add_of_rank_lt (worse : left.rank < right.rank) : left.add right = right := by
  cases left <;> cases right <;> simp [rank, add] at worse ⊢

theorem toNat_steps_add_of_rank_eq (same : left.rank = right.rank) :
    (left.add right).steps.toNat = min (left.steps.toNat + right.steps.toNat) mostSteps := by
  cases left <;> cases right <;> simp [rank, add, steps, toNat_addSteps] at same ⊢

theorem le_add (left right : Cost) : right.le (left.add right) = true := by
  rcases Nat.lt_trichotomy left.rank right.rank with worse | same | better
  · rw [add_of_rank_lt worse]
    exact le_refl right
  · have few := toNat_le_mostSteps right.steps
    rw [le_iff, rank_add, toNat_steps_add_of_rank_eq same]
    omega
  · rw [add_comm, add_of_rank_lt better]
    exact le_iff.mpr (Or.inl better)

/-- With a larger cost the sum is no smaller. -/
theorem add_le_add (grows : left.le larger = true) (right : Cost) :
    (left.add right).le (larger.add right) = true := by
  have kinds : left.rank ≤ larger.rank := by
    rw [le_iff] at grows
    omega
  rcases Nat.lt_trichotomy left.rank right.rank with worse | same | better
  · rw [add_of_rank_lt worse]
    exact le_add larger right
  · rcases Nat.lt_or_eq_of_le kinds with above | alike
    · have worse : right.rank < larger.rank := by omega
      rw [add_comm larger, add_of_rank_lt worse, le_iff, rank_add]
      omega
    · rw [le_iff, rank_add, rank_add, toNat_steps_add_of_rank_eq same,
        toNat_steps_add_of_rank_eq (alike ▸ same)]
      rw [le_iff] at grows
      omega
  · have still : right.rank < larger.rank := Nat.lt_of_lt_of_le better kinds
    rw [add_comm left, add_of_rank_lt better, add_comm larger, add_of_rank_lt still]
    exact grows

/-- The steps of some costs of one kind, without a bound. -/
def stepsOf (rank : Nat) (costs : List Cost) : Nat :=
  ((costs.filter fun cost => cost.rank = rank).map fun cost => cost.steps.toNat).sum

theorem stepsOf_cons (rank : Nat) (cost : Cost) (costs : List Cost) :
    stepsOf rank (cost :: costs) =
      (if cost.rank = rank then cost.steps.toNat else 0) + stepsOf rank costs := by
  by_cases same : cost.rank = rank <;> simp [stepsOf, same]

/-! ## Many costs -/

theorem foldl_add (total : Cost) (costs : List Cost) :
    costs.foldl add total = total.add (sum costs) := by
  induction costs generalizing total with
  | nil => exact (add_free total).symm
  | cons cost rest inductionHypothesis =>
    rw [sum, List.foldl_cons, List.foldl_cons, inductionHypothesis,
      inductionHypothesis (free.add cost), free_add, add_assoc]

@[simp]
theorem sum_cons (cost : Cost) (rest : List Cost) : sum (cost :: rest) = cost.add (sum rest) := by
  rw [sum, List.foldl_cons, foldl_add, free_add]

@[simp]
theorem sum_append (left right : List Cost) : sum (left ++ right) = (sum left).add (sum right) := by
  rw [sum, List.foldl_append, foldl_add]
  rfl

theorem sum_perm {other : List Cost} (perm : other.Perm costs) : sum other = sum costs := by
  induction perm with
  | nil => rfl
  | cons cost _ inductionHypothesis => rw [sum_cons, sum_cons, inductionHypothesis]
  | swap first second rest =>
    rw [sum_cons, sum_cons, sum_cons, sum_cons, ← add_assoc, ← add_assoc, add_comm second]
  | trans _ _ first second => rw [first, second]

theorem sum_middle (before : List Cost) (cost : Cost) (after : List Cost) :
    sum (before ++ cost :: after) = cost.add (sum (before ++ after)) := by
  rw [sum_perm List.perm_middle, sum_cons]

theorem isPossible_sum : (sum costs).isPossible allowNarrowing =
    costs.all (·.isPossible allowNarrowing) := by
  induction costs with
  | nil => rfl
  | cons cost rest inductionHypothesis =>
    rw [sum_cons, isPossible_add, inductionHypothesis, List.all_cons]

theorem le_sum (member : cost ∈ costs) : cost.le (sum costs) = true := by
  obtain ⟨before, after, rfl⟩ := List.append_of_mem member
  rw [sum_middle, add_comm]
  exact le_add _ cost

theorem rank_sum : (sum costs).rank = (costs.map rank).foldr max 0 := by
  induction costs with
  | nil => rfl
  | cons cost rest inductionHypothesis =>
    rw [sum_cons, rank_add, inductionHypothesis, List.map_cons, List.foldr_cons]

/-- No cost is of a worse kind than the sum, so that there are no steps of one. -/
theorem stepsOf_eq_zero {rank : Nat} (worse : (sum costs).rank < rank) :
    stepsOf rank costs = 0 := by
  induction costs with
  | nil => rfl
  | cons cost rest inductionHypothesis =>
    rw [sum_cons, rank_add] at worse
    rw [stepsOf_cons, if_neg (by omega), inductionHypothesis (by omega)]

/-- The steps of the kind that decides add up, and stay at the greatest number from there on. -/
theorem toNat_steps_sum :
    (sum costs).steps.toNat = min (stepsOf (sum costs).rank costs) mostSteps := by
  induction costs with
  | nil => rfl
  | cons cost rest inductionHypothesis =>
    rw [sum_cons]
    rcases Nat.lt_trichotomy cost.rank (sum rest).rank with worse | same | better
    · rw [add_of_rank_lt worse, stepsOf_cons, if_neg (Nat.ne_of_lt worse), Nat.zero_add]
      exact inductionHypothesis
    · rw [toNat_steps_add_of_rank_eq same, rank_add, same, Nat.max_self, stepsOf_cons, if_pos same]
      omega
    · have few := toNat_le_mostSteps cost.steps
      rw [add_comm, add_of_rank_lt better, stepsOf_cons, if_pos rfl, stepsOf_eq_zero better]
      omega

/-! ## Any way to add up -/

/-- A way to add some costs up, two sums at a time. -/
inductive Grouping where
  | single (cost : Cost)
  | both (left right : Grouping)

namespace Grouping

/-- The costs that are added up, from left to right. -/
def members : Grouping → List Cost
  | single cost => [cost]
  | both left right => left.members ++ right.members

def total : Grouping → Cost
  | single cost => cost
  | both left right => left.total.add right.total

theorem total_eq (grouping : Grouping) : grouping.total = sum grouping.members := by
  induction grouping with
  | single cost => exact (free_add cost).symm
  | both left right leftTotal rightTotal => rw [total, members, sum_append, leftTotal, rightTotal]

end Grouping

/-- What holds of the sum of some costs. -/
structure SumLaws (costs : List Cost) : Prop where
  perm : ∀ other : List Cost, other.Perm costs → sum other = sum costs
  grouped : ∀ grouping : Grouping, grouping.members.Perm costs → grouping.total = sum costs
  isPossible_iff : ∀ allowNarrowing, (sum costs).isPossible allowNarrowing = true ↔
    ∀ cost ∈ costs, cost.isPossible allowNarrowing = true
  member_le : ∀ cost ∈ costs, cost.le (sum costs) = true
  replaced_le : ∀ before cost larger after, costs = before ++ cost :: after →
    cost.le larger = true → (sum costs).le (sum (before ++ larger :: after)) = true
  /-- The kind of the sum is the worst one among the costs. -/
  rank_eq : (sum costs).rank = (costs.map rank).foldr max 0
  /-- The steps of that kind are all counted, and no sum of them wraps. -/
  steps_eq : (sum costs).steps.toNat = min (stepsOf (sum costs).rank costs) mostSteps

/-- Neither the order of costs nor the way they are taken together matters to their sum, which is
allowed if all of them are, and grows with each of them. -/
theorem sum_lawful (costs : List Cost) : SumLaws costs where
  perm _ perm := sum_perm perm
  grouped grouping perm := grouping.total_eq.trans (sum_perm perm)
  isPossible_iff allowNarrowing := by rw [isPossible_sum, List.all_eq_true]
  member_le _ member := le_sum member
  replaced_le := by
    rintro before cost larger after rfl grows
    rw [sum_middle, sum_middle]
    exact add_le_add grows _
  rank_eq := rank_sum
  steps_eq := toNat_steps_sum

example : sum [normal 7, narrowing 0xFFFFFFFE, free, narrowing 3] = narrowing 0xFFFFFFFF := by
  decide

end Shading.Cost
