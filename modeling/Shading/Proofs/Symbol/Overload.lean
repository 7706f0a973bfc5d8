import Shading.Proofs.Store.Calls
import Shading.Proofs.Type.Cost
import Shading.Proofs.Type.Narrowing

/-!
The function that a call means. A walk over an overload set keeps the earliest of the cheapest
functions that it has seen, among those that the call is allowed for. So the choice is settled by
the costs and their order alone, and a longer set is a reason to choose otherwise only where it adds
a function that is cheaper than all before. Main statement: `OverloadSet.resolves`.
-/

namespace Shading

variable {arguments : List Ty} {allowNarrowing : Bool} {functions seen rest : List Function}
  {best? : Option Function} {chosen other : Function}

/-- The earliest of the cheapest functions of a list: a call of it is allowed and costs less than
one of any function before it, and no more than one of any function after it. -/
structure EarliestCheapest (arguments : List Ty) (allowNarrowing : Bool) (functions : List Function)
    (chosen : Function) : Prop where
  possible : (chosen.callCost arguments).isPossible allowNarrowing = true
  placed : ∃ before after, functions = before ++ chosen :: after ∧
    (∀ f ∈ before, (chosen.callCost arguments).lt (f.callCost arguments) = true) ∧
    ∀ f ∈ after, (chosen.callCost arguments).le (f.callCost arguments) = true

namespace EarliestCheapest

theorem mem (earliest : EarliestCheapest arguments allowNarrowing functions chosen) :
    chosen ∈ functions := by
  obtain ⟨before, after, rfl, -, -⟩ := earliest.placed
  exact List.mem_append_right before List.mem_cons_self

theorem le (earliest : EarliestCheapest arguments allowNarrowing functions chosen) :
    ∀ f ∈ functions, (chosen.callCost arguments).le (f.callCost arguments) = true := by
  obtain ⟨before, after, rfl, less, atMost⟩ := earliest.placed
  intro f member
  rcases List.mem_append.mp member with earlier | here
  · exact Cost.le_of_lt (less f earlier)
  · rcases List.mem_cons.mp here with rfl | later
    · exact Cost.le_refl _
    · exact atMost f later

/-- A function that is no cheaper changes nothing at the end of a list. -/
theorem append (earliest : EarliestCheapest arguments allowNarrowing functions chosen)
    (atMost : (chosen.callCost arguments).le (other.callCost arguments) = true) :
    EarliestCheapest arguments allowNarrowing (functions ++ [other]) chosen := by
  obtain ⟨before, after, rfl, less, others⟩ := earliest.placed
  refine ⟨earliest.possible, before, after ++ [other], by simp, less, ?_⟩
  intro f member
  rcases List.mem_append.mp member with inside | last
  · exact others f inside
  · rw [List.mem_singleton.mp last]
    exact atMost

/-- A function that is cheaper than all before it is the one to choose. -/
theorem last (possible : (other.callCost arguments).isPossible allowNarrowing = true)
    (less : ∀ f ∈ functions, (other.callCost arguments).lt (f.callCost arguments) = true) :
    EarliestCheapest arguments allowNarrowing (functions ++ [other]) other :=
  ⟨possible, functions, [], rfl, less, List.forall_mem_nil _⟩

/-- There is one function to choose at most. -/
theorem unique (earliest : EarliestCheapest arguments allowNarrowing functions chosen)
    (same : EarliestCheapest arguments allowNarrowing functions other) : chosen = other := by
  obtain ⟨before, after, parts, less, atMost⟩ := earliest.placed
  obtain ⟨before', after', parts', less', atMost'⟩ := same.placed
  rcases List.append_eq_append_iff.mp (parts.symm.trans parts') with
    ⟨between, longer, tail⟩ | ⟨between, longer, tail⟩
  · cases between with
    | nil => exact (List.cons.inj tail).1
    | cons first more =>
      obtain ⟨rfl, -⟩ := List.cons.inj tail
      have cheaper := less' chosen (by simp [longer])
      exact absurd cheaper (Cost.not_lt_of_le (earliest.le other same.mem))
  · cases between with
    | nil => exact (List.cons.inj tail).1.symm
    | cons first more =>
      obtain ⟨rfl, -⟩ := List.cons.inj tail
      have cheaper := less other (by simp [longer])
      exact absurd cheaper (Cost.not_lt_of_le (same.le chosen earliest.mem))

/-- The function to choose from a longer list is chosen from the shorter one as well, or it is one
of those added, and then cheaper than all before. -/
theorem of_append
    (earliest : EarliestCheapest arguments allowNarrowing (functions ++ rest) chosen) :
    EarliestCheapest arguments allowNarrowing functions chosen ∨ chosen ∈ rest ∧
      ∀ f ∈ functions, (chosen.callCost arguments).lt (f.callCost arguments) = true := by
  obtain ⟨before, after, parts, less, atMost⟩ := earliest.placed
  rcases List.append_eq_append_iff.mp parts with ⟨between, rfl, rfl⟩ | ⟨between, rfl, tail⟩
  · refine Or.inr ⟨by simp, ?_⟩
    intro f member
    exact less f (List.mem_append_left _ member)
  · cases between with
    | nil =>
      obtain rfl : chosen :: after = rest := tail
      refine Or.inr ⟨List.mem_cons_self, ?_⟩
      simpa using less
    | cons first more =>
      obtain ⟨rfl, rfl⟩ := List.cons.inj tail
      refine Or.inl ⟨earliest.possible, before, more, rfl, less, ?_⟩
      intro f member
      exact atMost f (List.mem_append_left _ member)

end EarliestCheapest

/-! ## The walk -/

/-- What is the best of the functions seen so far. -/
def Settled (arguments : List Ty) (allowNarrowing : Bool) (seen : List Function) :
    Option Function → Prop
  | some best => EarliestCheapest arguments allowNarrowing seen best
  | none => ∀ f ∈ seen, (f.callCost arguments).isPossible allowNarrowing = false

theorem Settled.step (settled : Settled arguments allowNarrowing seen best?) (other : Function) :
    Settled arguments allowNarrowing (seen ++ [other])
      (better? arguments allowNarrowing best? other) := by
  rw [better?.eq_def]
  by_cases possible : (other.callCost arguments).isPossible allowNarrowing = true
  · rw [if_pos possible]
    cases best? with
    | none =>
      exact .last possible fun f member => Cost.lt_of_isPossible possible (settled f member)
    | some best =>
      dsimp only
      rw [cheaperCall]
      split
      · rename_i cheaper
        exact .last possible fun f member => Cost.lt_of_lt_of_le cheaper (settled.le f member)
      · rename_i noCheaper
        refine EarliestCheapest.append settled ?_
        rw [Cost.le, Bool.not_eq_true _ |>.mp noCheaper, Bool.not_false]
  · rw [if_neg possible]
    have impossible : (other.callCost arguments).isPossible allowNarrowing = false := by
      simpa using possible
    cases best? with
    | none =>
      intro f member
      rcases List.mem_append.mp member with inside | last
      · exact settled f inside
      · rw [List.mem_singleton.mp last]
        exact impossible
    | some best =>
      exact EarliestCheapest.append settled
        (Cost.le_of_lt (Cost.lt_of_isPossible settled.possible impossible))

theorem Settled.foldl (settled : Settled arguments allowNarrowing seen best?)
    (rest : List Function) : Settled arguments allowNarrowing (seen ++ rest)
      (rest.foldl (better? arguments allowNarrowing) best?) := by
  induction rest generalizing seen best? with
  | nil => simpa using settled
  | cons other rest inductionHypothesis =>
    have onward := inductionHypothesis (settled.step other)
    simpa using onward

namespace OverloadSet

theorem bestMatch?_settled (set : OverloadSet) (arguments : List Ty) (allowNarrowing : Bool) :
    Settled arguments allowNarrowing set.functions (set.bestMatch? arguments allowNarrowing) := by
  have start : Settled arguments allowNarrowing [] none := List.forall_mem_nil _
  rw [bestMatch?_eq_foldl]
  exact start.foldl set.functions

variable {set longer : OverloadSet}

theorem bestMatch?_eq_none_iff : set.bestMatch? arguments allowNarrowing = none ↔
    ∀ f ∈ set.functions, (f.callCost arguments).isPossible allowNarrowing = false := by
  have settled := set.bestMatch?_settled arguments allowNarrowing
  cases found : set.bestMatch? arguments allowNarrowing with
  | none =>
    rw [found] at settled
    exact ⟨fun _ => settled, fun _ => rfl⟩
  | some best =>
    rw [found] at settled
    refine ⟨by simp, fun impossible => ?_⟩
    have closed := impossible best settled.mem
    rw [settled.possible] at closed
    cases closed

theorem bestMatch?_eq_some_iff : set.bestMatch? arguments allowNarrowing = some chosen ↔
    EarliestCheapest arguments allowNarrowing set.functions chosen := by
  have settled := set.bestMatch?_settled arguments allowNarrowing
  constructor
  · intro found
    rwa [found] at settled
  · intro earliest
    cases found : set.bestMatch? arguments allowNarrowing with
    | none =>
      have closed := bestMatch?_eq_none_iff.mp found chosen earliest.mem
      rw [earliest.possible] at closed
      cases closed
    | some best =>
      rw [found] at settled
      rw [EarliestCheapest.unique settled earliest]

/-- A longer set gives the same function, or one that it adds. -/
theorem bestMatch?_append (same : longer.functions = set.functions ++ rest) :
    longer.bestMatch? arguments allowNarrowing = set.bestMatch? arguments allowNarrowing ∨
      ∃ chosen ∈ rest, longer.bestMatch? arguments allowNarrowing = some chosen ∧
        ∀ f ∈ set.functions, (chosen.callCost arguments).lt (f.callCost arguments) = true := by
  cases found : longer.bestMatch? arguments allowNarrowing with
  | none =>
    refine Or.inl (bestMatch?_eq_none_iff.mpr ?_).symm
    intro f member
    exact bestMatch?_eq_none_iff.mp found f (same ▸ List.mem_append_left rest member)
  | some chosen =>
    have earliest := bestMatch?_eq_some_iff.mp found
    rw [same] at earliest
    rcases earliest.of_append with kept | ⟨added, less⟩
    · exact Or.inl (bestMatch?_eq_some_iff.mpr kept).symm
    · exact Or.inr ⟨chosen, added, rfl, less⟩

/-- A function that a call is allowed for has as many parameters as the call has arguments. -/
theorem length_parameters_of_isPossible
    (possible : (chosen.callCost arguments).isPossible allowNarrowing = true) :
    chosen.parameters.length = arguments.length := by
  by_cases same : arguments.length = chosen.parameters.length
  · exact same.symm
  · rw [Function.callCost, if_neg same] at possible
    cases possible

/-- A function that is added to a table under the name of an overload set goes to the end of it. -/
theorem exists_longer_of_add {store : Store} {table : TableId} {added : Function}
    (named : store.Named) (bound : store.findLocal? table added.name = some (.overloads set)) :
    ∃ longer : OverloadSet,
      (store.called (.add table (.function added))).findLocal? table added.name =
          some (.overloads longer) ∧
        longer.functions = set.functions ++ [{ added with id := store.nextId }] := by
  have inside : table < store.tables.size := by
    rcases Nat.lt_or_ge table store.tables.size with inside | outside
    · exact inside
    · rw [Store.findLocal?_of_size_le _ _ _ outside] at bound
      cases bound
  have found := named.findLocal?_add (.function added) inside
  have stands := store.standing_function table { added with id := store.nextId }
  have before : store.functions table added.name = set.functions := by
    rw [Store.functions, bound]
    rfl
  dsimp only at stands
  rw [before] at stands
  generalize all : set.functions ++ [_] = listed at stands ⊢
  generalize standing : store.standing table _ = symbol at stands
  cases stands with
  | single f => simp [functions] at all
  | several longer => exact ⟨longer, found.trans (congrArg some standing), rfl⟩

/-- What a call means, for some arguments and under a policy. -/
structure Resolution (set : OverloadSet) (arguments : List Ty) (allowNarrowing : Bool) : Prop where
  none_iff : set.bestMatch? arguments allowNarrowing = none ↔
    ∀ f ∈ set.functions, (f.callCost arguments).isPossible allowNarrowing = false
  some_iff : ∀ chosen, set.bestMatch? arguments allowNarrowing = some chosen ↔
    EarliestCheapest arguments allowNarrowing set.functions chosen
  length_eq : ∀ chosen, set.bestMatch? arguments allowNarrowing = some chosen →
    chosen.parameters.length = arguments.length
  /-- More functions change the choice to one of them only, which is cheaper than all before. -/
  appended : ∀ (longer : OverloadSet) (rest : List Function),
    longer.functions = set.functions ++ rest →
      longer.bestMatch? arguments allowNarrowing = set.bestMatch? arguments allowNarrowing ∨
        ∃ chosen ∈ rest, longer.bestMatch? arguments allowNarrowing = some chosen ∧
          ∀ f ∈ set.functions, (chosen.callCost arguments).lt (f.callCost arguments) = true
  /-- A table appends a function that is added under the name of the set. -/
  added : ∀ (store : Store) (table : TableId) (function : Function), store.Named →
    store.findLocal? table function.name = some (.overloads set) →
      ∃ longer : OverloadSet,
        (store.called (.add table (.function function))).findLocal? table function.name =
            some (.overloads longer) ∧
          longer.functions = set.functions ++ [{ function with id := store.nextId }]

theorem resolves (set : OverloadSet) (arguments : List Ty) (allowNarrowing : Bool) :
    set.Resolution arguments allowNarrowing where
  none_iff := bestMatch?_eq_none_iff
  some_iff _ := bestMatch?_eq_some_iff
  length_eq _ found := length_parameters_of_isPossible (bestMatch?_eq_some_iff.mp found).possible
  appended _ _ same := bestMatch?_append same
  added _ _ _ named bound := exists_longer_of_add named bound

/-- Of two functions that cost the same, the earlier one is meant. -/
example : bestMatch? ⟨76, Store.plainFunction 74, [Store.plainFunction 75]⟩ [] true =
    some (Store.plainFunction 74) := by
  rfl

end OverloadSet

end Shading
