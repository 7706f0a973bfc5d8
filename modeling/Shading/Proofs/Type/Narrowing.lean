import Shading.Expr.Coerce
import Shading.Symbol.Overload

/-!
What becomes of a choice when narrowing conversions are allowed as well. A conversion that narrows
costs more than every conversion that was possible before, so that it never wins against one of
those, and whatever was chosen without it is still chosen.
-/

namespace Shading

namespace Cost

variable {cost other : Cost}

theorem possible_of_strict (possible : cost.isPossible false = true) :
    cost.isPossible true = true := by
  cases cost with
  | free => rfl
  | normal steps => rfl
  | narrowing steps => cases possible
  | impossible => cases possible

/-- What is possible without narrowing costs less than what is not. -/
theorem lt_of_strict (possible : cost.isPossible false = true)
    (impossible : other.isPossible false = false) :
    cost.lt other = true ∧ other.lt cost = false := by
  have small : cost.rank ≤ 1 := by
    cases cost <;> simp [isPossible, rank] at possible ⊢
  have large : 2 ≤ other.rank := by
    cases other <;> simp [isPossible, rank] at impossible ⊢
  have above : cost.rank < other.rank := by omega
  have notBelow : ¬other.rank < cost.rank := by omega
  have different : ¬other.rank = cost.rank := by omega
  constructor
  · simp [lt, above]
  · simp [lt, notBelow, different]

end Cost

/-! ## Types of operations -/

theorem Ty.convertsTo_of_strict {source target : Ty}
    (converts : source.convertsTo target false = true) :
    source.convertsTo target true = true :=
  Cost.possible_of_strict converts

/-- The side that wins without narrowing wins with it. -/
theorem cheaperSide?_of_strict {left right type : Ty}
    (chosen : cheaperSide? left right false = some type) :
    cheaperSide? left right true = some type := by
  rw [cheaperSide?] at chosen ⊢
  by_cases toLeft : (right.costTo left).isPossible false = true
  · rw [if_pos toLeft] at chosen
    rw [if_pos (Cost.possible_of_strict toLeft)]
    by_cases toRight : (left.costTo right).isPossible false = true
    · rw [toRight, Bool.true_and] at chosen
      rw [Cost.possible_of_strict toRight, Bool.true_and]
      exact chosen
    · have closed : (left.costTo right).isPossible false = false := by simpa using toRight
      have loses := (Cost.lt_of_strict toLeft closed).2
      rw [closed, Bool.false_and] at chosen
      rw [loses, Bool.and_false]
      exact chosen
  · have closed : (right.costTo left).isPossible false = false := by simpa using toLeft
    rw [if_neg toLeft] at chosen
    by_cases toRight : (left.costTo right).isPossible false = true
    · have wins := (Cost.lt_of_strict toRight closed).1
      have stillOpen := Cost.possible_of_strict toRight
      rw [if_pos toRight] at chosen
      rw [stillOpen, wins, Bool.and_self, if_pos rfl, if_pos rfl]
      split <;> exact chosen
    · rw [if_neg toRight] at chosen
      cases chosen

theorem productType?_of_strict {left right type : Ty} {columns rows : Nat}
    (chosen : productType? left right columns rows false = .ok (some type)) :
    productType? left right columns rows true = .ok (some type) := by
  rw [productType?] at chosen ⊢
  cases side : cheaperSide? left.component right.component false with
  | none =>
    rw [side] at chosen
    cases chosen
  | some component =>
    rw [side] at chosen
    rw [cheaperSide?_of_strict side]
    exact chosen

/-- What is chosen under a condition is chosen under a weaker one. -/
theorem chosen_of_weaker {α : Type} {strict lenient : Prop} [Decidable strict]
    [Decidable lenient] {value result : α} (weaker : strict → lenient)
    (chosen : (if strict then some value else none) = some result) :
    (if lenient then some value else none) = some result := by
  by_cases holds : strict
  · rw [if_pos holds] at chosen
    rw [if_pos (weaker holds), chosen]
  · rw [if_neg holds] at chosen
    cases chosen

theorem componentwiseType?_of_strict {left right type : Ty}
    (chosen : componentwiseType? left right false = some type) :
    componentwiseType? left right true = some type := by
  rw [componentwiseType?] at chosen ⊢
  split at chosen
  · rename_i spread
    rw [if_pos spread]
    exact chosen_of_weaker Ty.convertsTo_of_strict chosen
  · rename_i noSpread
    rw [if_neg noSpread]
    split at chosen
    · rename_i spread
      rw [if_pos spread]
      exact chosen_of_weaker Ty.convertsTo_of_strict chosen
    · rename_i noSpread
      rw [if_neg noSpread]
      split at chosen
      · cases chosen
      · rename_i sameShape
        rw [if_neg sameShape]
        exact cheaperSide?_of_strict chosen

namespace Operator

variable {op : Operator} {left right type : Ty}

theorem arithmeticType?_of_strict
    (chosen : op.arithmeticType? left right false = .ok (some type)) :
    op.arithmeticType? left right true = .ok (some type) := by
  rw [arithmeticType?] at chosen ⊢
  split at chosen
  · cases chosen
  · rename_i taken
    rw [if_neg taken]
    cases shape : (if op = star then productShape? left right else none) with
    | none =>
      rw [shape] at chosen
      exact congrArg Except.ok (componentwiseType?_of_strict (Except.ok.inj chosen))
    | some found =>
      obtain ⟨columns, rows, fits⟩ := found
      rw [shape] at chosen
      cases fits with
      | false => cases chosen
      | true => exact productType?_of_strict chosen

theorem valueType?_of_strict
    (chosen : op.valueType? left right false = .ok (some type)) :
    op.valueType? left right true = .ok (some type) := by
  have comparable : (left.convertsTo right false || right.convertsTo left false) = true →
      (left.convertsTo right true || right.convertsTo left true) = true := by
    intro either
    rcases Bool.or_eq_true_iff.mp either with converts | converts
    · rw [Ty.convertsTo_of_strict converts, Bool.true_or]
    · rw [Ty.convertsTo_of_strict converts, Bool.or_true]
  rw [valueType?] at chosen ⊢
  dsimp only at chosen ⊢
  by_cases logical : op.isLogical = true
  · rw [if_pos logical] at chosen ⊢
    refine congrArg Except.ok (chosen_of_weaker ?_ (Except.ok.inj chosen))
    intro conditions
    have both := Bool.and_eq_true_iff.mp conditions
    exact Bool.and_eq_true_iff.mpr
      ⟨Ty.convertsTo_of_strict both.1, Ty.convertsTo_of_strict both.2⟩
  · rw [if_neg logical] at chosen ⊢
    by_cases equality : op.isEquality = true
    · rw [if_pos equality] at chosen ⊢
      exact congrArg Except.ok (chosen_of_weaker comparable (Except.ok.inj chosen))
    · rw [if_neg equality] at chosen ⊢
      by_cases relational : op.isRelational = true
      · rw [if_pos relational] at chosen ⊢
        refine congrArg Except.ok (chosen_of_weaker ?_ (Except.ok.inj chosen))
        intro all
        have parts := Bool.and_eq_true_iff.mp all
        exact Bool.and_eq_true_iff.mpr ⟨parts.1, comparable parts.2⟩
      · rw [if_neg relational] at chosen ⊢
        by_cases arithmetic : op.isArithmetic = true
        · rw [if_pos arithmetic] at chosen ⊢
          exact arithmeticType?_of_strict chosen
        · rw [if_neg arithmetic] at chosen
          cases chosen

/-- The type of an operation is the same when narrowing is allowed as well. -/
theorem resultType?_of_strict (chosen : op.resultType? left right false = .ok (some type)) :
    op.resultType? left right true = .ok (some type) := by
  unfold resultType? at chosen ⊢
  cases applies : op.applied? with
  | some applied =>
    rw [applies] at chosen
    dsimp only at chosen ⊢
    cases inner : applied.valueType? left right false with
    | error fault =>
      rw [inner] at chosen
      cases chosen
    | ok result? =>
      rw [inner] at chosen
      cases result? with
      | none => cases chosen
      | some result =>
        rw [valueType?_of_strict inner]
        have kept := chosen_of_weaker (@Ty.convertsTo_of_strict result left)
          (Except.ok.inj chosen)
        exact congrArg Except.ok kept
  | none =>
    rw [applies] at chosen
    dsimp only at chosen ⊢
    split at chosen
    · exact chosen
    · have kept := chosen_of_weaker (@Ty.convertsTo_of_strict right left)
        (Except.ok.inj chosen)
      exact congrArg Except.ok kept
    · rename_i notComma notAssign
      exact valueType?_of_strict chosen

end Operator

/-! ## Overloads -/

/-- The function that is the best so far after one more was looked at. -/
def better? (arguments : List Ty) (allowNarrowing : Bool) (best? : Option Function)
    (other : Function) : Option Function :=
  if (other.callCost arguments).isPossible allowNarrowing then
    some (match best? with
      | some best => cheaperCall arguments best other
      | none => other)
  else best?

theorem foldl_better?_some (arguments : List Ty) (allowNarrowing : Bool) (best : Function)
    (functions : List Function) :
    functions.foldl (better? arguments allowNarrowing) (some best) =
      some ((functions.filter fun f => (f.callCost arguments).isPossible allowNarrowing).foldl
        (cheaperCall arguments) best) := by
  induction functions generalizing best with
  | nil => rfl
  | cons function rest inductionHypothesis =>
    rw [List.foldl_cons, better?, List.filter_cons]
    split
    · exact inductionHypothesis _
    · exact inductionHypothesis best

/-- Overload resolution as one walk over the functions. -/
theorem bestMatch?_eq_foldl (set : OverloadSet) (arguments : List Ty) (allowNarrowing : Bool) :
    set.bestMatch? arguments allowNarrowing =
      set.functions.foldl (better? arguments allowNarrowing) none := by
  rw [OverloadSet.bestMatch?]
  induction set.functions with
  | nil => rfl
  | cons function rest inductionHypothesis =>
    rw [List.foldl_cons, better?, List.filter_cons]
    by_cases possible : (function.callCost arguments).isPossible allowNarrowing = true
    · rw [if_pos possible, if_pos possible]
      exact (foldl_better?_some arguments allowNarrowing function rest).symm
    · rw [if_neg possible, if_neg possible]
      exact inductionHypothesis

/-- How far a walk with narrowing has come, compared with the walk without it: either both have the
same best function, or there is none without narrowing and at most one that narrows with it. -/
def KeepsUp (arguments : List Ty) (strict? lenient? : Option Function) : Prop :=
  match strict? with
  | some best =>
    lenient? = some best ∧ (best.callCost arguments).isPossible false = true
  | none => ∀ best ∈ lenient?, (best.callCost arguments).isPossible false = false

theorem KeepsUp.step {arguments : List Ty} {strict? lenient? : Option Function}
    (keepsUp : KeepsUp arguments strict? lenient?) (other : Function) :
    KeepsUp arguments (better? arguments false strict? other) (better? arguments true lenient? other) := by
  by_cases possible : (other.callCost arguments).isPossible false = true
  · -- A function that needs no narrowing wins against one that does.
    rw [better?.eq_def, if_pos possible, better?.eq_def, if_pos (Cost.possible_of_strict possible)]
    cases strict? with
    | some best =>
      obtain ⟨rfl, bestPossible⟩ := keepsUp
      refine ⟨rfl, ?_⟩
      dsimp only
      rw [cheaperCall]
      split
      · exact possible
      · exact bestPossible
    | none =>
      cases lenient? with
      | none => exact ⟨rfl, possible⟩
      | some narrowing =>
        have narrows := keepsUp narrowing rfl
        have wins := (Cost.lt_of_strict possible narrows).1
        refine ⟨?_, possible⟩
        dsimp only
        rw [cheaperCall, if_pos wins]
  · have impossible : (other.callCost arguments).isPossible false = false := by simpa using possible
    rw [better?.eq_def, if_neg possible]
    by_cases narrows : (other.callCost arguments).isPossible true = true
    · rw [better?.eq_def, if_pos narrows]
      cases strict? with
      | some best =>
        obtain ⟨rfl, bestPossible⟩ := keepsUp
        have loses := (Cost.lt_of_strict bestPossible impossible).2
        refine ⟨?_, bestPossible⟩
        dsimp only
        rw [cheaperCall, loses]
        rfl
      | none =>
        intro best same
        cases same
        cases lenient? with
        | none => exact impossible
        | some narrowing =>
          dsimp only
          rw [cheaperCall]
          split
          · exact impossible
          · exact keepsUp narrowing rfl
    · rw [better?.eq_def, if_neg narrows]
      exact keepsUp

theorem KeepsUp.foldl {arguments : List Ty} (functions : List Function)
    {strict? lenient? : Option Function} (keepsUp : KeepsUp arguments strict? lenient?) :
    KeepsUp arguments (functions.foldl (better? arguments false) strict?)
      (functions.foldl (better? arguments true) lenient?) := by
  induction functions generalizing strict? lenient? with
  | nil => exact keepsUp
  | cons function rest inductionHypothesis => exact inductionHypothesis (keepsUp.step function)

/-- The function that a call means is the same when narrowing is allowed as well. -/
theorem bestMatch?_of_strict {set : OverloadSet} {arguments : List Ty} {function : Function}
    (chosen : set.bestMatch? arguments false = some function) :
    set.bestMatch? arguments true = some function := by
  have start : KeepsUp arguments none none := fun best absent => by cases absent
  have keepsUp := start.foldl set.functions
  rw [← bestMatch?_eq_foldl, ← bestMatch?_eq_foldl, chosen] at keepsUp
  exact keepsUp.1

/-! ## Expressions -/

/-- A context that allows at least as much as another and knows the same of the target. -/
structure Context.Widens (wide narrow : Context) : Prop where
  capabilities_eq : wide.capabilities = narrow.capabilities
  allowed : narrow.allowNarrowing = true → wide.allowNarrowing = true

theorem Context.Widens.refl (context : Context) : context.Widens context := ⟨rfl, id⟩

theorem Context.Widens.lenient (capabilities : List (String × Capability)) :
    Context.Widens { allowNarrowing := true, capabilities }
      { allowNarrowing := false, capabilities } := ⟨rfl, fun _ => rfl⟩

/-- Of two policies, the wider one is the same or allows narrowing where the other does not. -/
theorem Context.Widens.cases {wide narrow : Context} (widens : wide.Widens narrow) :
    wide.allowNarrowing = narrow.allowNarrowing ∨
      (wide.allowNarrowing = true ∧ narrow.allowNarrowing = false) := by
  cases narrows : narrow.allowNarrowing with
  | true => exact Or.inl (widens.allowed narrows)
  | false =>
    cases wide.allowNarrowing with
    | true => exact Or.inr ⟨rfl, rfl⟩
    | false => exact Or.inl rfl

namespace Expr

variable {wide narrow : Context}

theorem binaryOf_of_widens (widens : wide.Widens narrow) {left right expr : Expr} {op : Operator}
    (made : binaryOf narrow left op right = .ok expr) :
    binaryOf wide left op right = .ok expr := by
  rw [binaryOf] at made ⊢
  rcases widens.cases with same | ⟨allows, strict⟩
  · rw [same]
    exact made
  · rw [strict] at made
    rw [allows]
    cases chosen : op.resultType? left.type right.type false with
    | error fault =>
      rw [chosen] at made
      cases made
    | ok type? =>
      cases type? with
      | none =>
        rw [chosen] at made
        cases made
      | some type =>
        rw [chosen] at made
        rw [Operator.resultType?_of_strict chosen]
        exact made

theorem ofSetting_of_widens (widens : wide.Widens narrow) (span : Span) (name : String) :
    ofSetting wide span name = ofSetting narrow span name := by
  rw [ofSetting, Context.capability?, widens.capabilities_eq]
  rfl

end Expr

namespace Ty

variable {wide narrow : Context} {target : Ty} {expr converted : Expr}

theorem convertsTo_of_widens (widens : wide.Widens narrow) {source : Ty}
    (converts : source.convertsTo target narrow.allowNarrowing = true) :
    source.convertsTo target wide.allowNarrowing = true := by
  rcases widens.cases with same | ⟨allows, strict⟩
  · rw [same, converts]
  · rw [strict] at converts
    rw [allows, convertsTo_of_strict converts]

theorem coerced_of_widens (widens : wide.Widens narrow)
    (made : target.coerced narrow expr = .ok (.ok converted)) :
    target.coerced wide expr = .ok (.ok converted) := by
  unfold coerced at made ⊢
  split at made
  · cases made
  · cases made
  · by_cases same : (expr.type == target) = true
    · rw [if_pos same] at made ⊢
      exact made
    · rw [if_neg same] at made ⊢
      by_cases converts : expr.type.convertsTo target narrow.allowNarrowing = true
      · rw [converts] at made
        rw [convertsTo_of_widens widens converts]
        exact made
      · have closed : expr.type.convertsTo target narrow.allowNarrowing = false := by
          simpa using converts
        rw [closed] at made
        cases made

/-- An expression that is converted to a type is converted in the same way when narrowing is allowed
as well, and nothing is reported. -/
theorem coerce_of_widens (widens : wide.Widens narrow) {queue after : DiagnosticQueue}
    (made : target.coerce narrow expr queue = .ok (some converted, after)) :
    target.coerce wide expr queue = .ok (some converted, after) := by
  rw [coerce] at made ⊢
  cases outcome : target.coerced narrow expr with
  | error fault =>
    rw [outcome] at made
    cases made
  | ok result =>
    rw [outcome] at made
    cases result with
    | error diagnostic => cases made
    | ok value =>
      rw [coerced_of_widens widens outcome]
      exact made

end Ty

end Shading
