import Shading.Expr.Coerce
import Shading.Proofs.Expr.WellTyped
import Shading.Symbol.Overload

/-!
Implicit conversion, asked in three ways: an expression is converted to a type, a value is assigned
to a variable of the type, and an argument is passed to a parameter of it. All three go by the cost
of the conversion, and where that allows it the shapes of both types are ones that a cast takes.
Main statement: `Ty.conversions_agree`.
-/

namespace Shading

theorem Builtin.columns_of_isMatrix :
    (all.filter (·.isMatrix)).all (fun type => 2 ≤ type.columns && 2 ≤ type.rows) = true := by
  rfl

namespace Ty

variable {source target : Ty} {allowNarrowing : Bool}

theorem beq_self (type : Ty) : (type == type) = true := by
  change type.equal type = true
  simp only [equal, beq_self_eq_true, Bool.and_self]

/-! ## What converts -/

/-- Equal types convert to each other for free. -/
theorem convertsTo_of_beq (same : (source == target) = true) (allowNarrowing : Bool) :
    source.convertsTo target allowNarrowing = true := by
  have free : source.costTo target = .free := by
    cases source with
    | vector | matrix => rw [costTo, if_pos same]
    | _ =>
      rw [costTo_plain target rfl rfl, if_pos same]
  rw [convertsTo, free]
  rfl

theorem isScalar_of_isNumber (number : source.isNumber = true) : source.isScalar = true := by
  refine Expr.isScalar_of_numberKind fun none => ?_
  rw [isNumber, none] at number
  cases number

/-- Two types that a cast goes between. -/
inductive Castable (source target : Ty) : Prop where
  | scalar (sourceScalar : source.isScalar = true) (targetScalar : target.isScalar = true)
  | compound (targetCompound : (target.isVector || target.isMatrix) = true)
      (columns_eq : source.columns = target.columns) (rows_eq : source.rows = target.rows)

/-- Of the types without components only numbers convert to others, and to numbers only. -/
theorem castable_of_plain (noVector : source.isVector = false) (noMatrix : source.isMatrix = false)
    (noChoices : source.choices = []) (different : (source == target) = false)
    (converts : source.convertsTo target allowNarrowing = true) : source.Castable target := by
  rw [convertsTo, costTo_plain target noVector noMatrix, different, noChoices] at converts
  by_cases numbers : (source.isNumber && target.isNumber) = true
  · have both := Bool.and_eq_true_iff.mp numbers
    exact .scalar (isScalar_of_isNumber both.1) (isScalar_of_isNumber both.2)
  · rw [if_neg Bool.false_ne_true, if_neg numbers] at converts
    cases converts

theorem castable_of_vector {head : Head} {component : Ty} {columns : Nat}
    (different : (vector head component columns == target) = false)
    (converts : (vector head component columns).convertsTo target allowNarrowing = true) :
    (vector head component columns).Castable target := by
  rw [convertsTo, costTo, different, if_neg Bool.false_ne_true] at converts
  by_cases compound : target.isVector = true
  · rw [if_pos compound] at converts
    by_cases sameColumns : columns = target.columns
    · refine .compound (by rw [compound, Bool.true_or]) sameColumns ?_
      cases target with
      | vector => rfl
      | _ => cases compound
    · rw [if_neg sameColumns] at converts
      cases converts
  · rw [if_neg compound] at converts
    cases converts

/-- A type with several columns and several rows is a matrix. -/
theorem isMatrix_of_shape (columns : 2 ≤ source.columns) (rows : 2 ≤ source.rows) :
    source.isMatrix = true := by
  cases source with
  | matrix => rfl
  | scalar | literal | vector =>
    change 2 ≤ 1 at rows
    omega
  | _ =>
    change 2 ≤ 0 at columns
    omega

theorem castable_of_matrix {head : Head} {component : Ty} {columns rows : Nat}
    (standard : (matrix head component columns rows).Standard)
    (different : (matrix head component columns rows == target) = false)
    (converts : (matrix head component columns rows).convertsTo target allowNarrowing = true) :
    (matrix head component columns rows).Castable target := by
  have shape : 2 ≤ columns ∧ 2 ≤ rows := by
    cases standard with
    | builtin member =>
      have kept := List.all_eq_true.mp Builtin.columns_of_isMatrix _
        (List.mem_filter.mpr ⟨member, rfl⟩)
      simp only [Bool.and_eq_true, decide_eq_true_eq] at kept
      exact kept
  rw [convertsTo, costTo, different, if_neg Bool.false_ne_true] at converts
  by_cases sameShape : columns = target.columns ∧ rows = target.rows
  · have matrixTarget := isMatrix_of_shape (sameShape.1 ▸ shape.1) (sameShape.2 ▸ shape.2)
    exact .compound (by rw [matrixTarget, Bool.or_true]) sameShape.1 sameShape.2
  · rw [if_neg sameShape] at converts
    cases converts

/-- Wherever a conversion between different types is allowed, a cast goes. -/
theorem castable_of_convertsTo (standard : source.isMatrix = true → source.Standard)
    (plain : source.isGeneric = false) (different : (source == target) = false)
    (converts : source.convertsTo target allowNarrowing = true) : source.Castable target := by
  cases source with
  | vector => exact castable_of_vector different converts
  | matrix => exact castable_of_matrix (standard rfl) different converts
  | generic => cases plain
  | _ => exact castable_of_plain rfl rfl rfl different converts

end Ty

/-! ## What a cast gives -/

namespace Expr

variable {span : Span} {type : Ty} {argument literal expr : Expr}

theorem type_of_castLiteral? (made : castLiteral? span type literal = some expr) :
    expr.type = type := by
  rw [castLiteral?] at made
  split at made
  · cases made
  · split at made
    · cases made
      rfl
    · split at made
      · cases made
        rfl
      · split at made
        · cases made
          rfl
        · cases made

theorem exists_scalarCast (source : argument.type.isScalar = true) (target : type.isScalar = true)
    (different : (argument.type == type) = false) :
    ∃ converted, scalarCast span type argument = .ok converted ∧ converted.type = type := by
  rw [scalarCast, source, target, different]
  cases folded : castLiteral? span type argument with
  | some literal => exact ⟨literal, rfl, type_of_castLiteral? folded⟩
  | none => exact ⟨_, rfl, rfl⟩

theorem exists_compoundCast (target : (type.isVector || type.isMatrix) = true)
    (columns : argument.type.columns = type.columns) (rows : argument.type.rows = type.rows)
    (different : (argument.type == type) = false) :
    ∃ converted, compoundCast span type argument = .ok converted ∧ converted.type = type := by
  have passes : ((type.isVector || type.isMatrix) && argument.type.columns == type.columns
      && argument.type.rows == type.rows) = true := by
    rw [target, columns, rows]
    simp only [beq_self_eq_true, Bool.and_self]
  rw [compoundCast, passes, different]
  dsimp only
  cases argument.splatScalar?.bind fun scalar => castLiteral? scalar.span type.component scalar with
  | some folded => exact ⟨_, rfl, rfl⟩
  | none => exact ⟨_, rfl, rfl⟩

/-- A function or a type that is named and nothing else. -/
def isBareName (expr : Expr) : Bool := expr matches functionName .. | typeName ..

end Expr

/-! ## The three ways -/

namespace Ty

variable {target : Ty} {expr : Expr} {context : Context}

theorem coerced_of_value (value : expr.isBareName = false) :
    target.coerced context expr =
      if expr.type == target then .ok (.ok expr)
      else if !expr.type.convertsTo target context.allowNarrowing then
        .ok (.error (.typeMismatch expr.span target.displayName expr.type.displayName))
      else if target.isScalar then .ok <$> Expr.scalarCast expr.span target expr
      else if target.isVector || target.isMatrix then
        .ok <$> Expr.compoundCast expr.span target expr
      else
        .ok (.error
          (.placed expr.span .noConstructor s!"cannot construct '{target.displayName}'")) := by
  cases expr with
  | functionName | typeName => cases value
  | _ => rfl

theorem exists_coerced_of_castable (value : expr.isBareName = false)
    (different : (expr.type == target) = false)
    (converts : expr.type.convertsTo target context.allowNarrowing = true)
    (castable : expr.type.Castable target) :
    ∃ converted, target.coerced context expr = .ok (.ok converted) ∧
      (converted.type == target) = true := by
  rw [coerced_of_value value, converts, different]
  cases castable with
  | scalar sourceScalar targetScalar =>
    obtain ⟨converted, made, typed⟩ :
        ∃ converted, Expr.scalarCast expr.span target expr = .ok converted ∧
          converted.type = target :=
      Expr.exists_scalarCast sourceScalar targetScalar different
    rw [targetScalar, made]
    exact ⟨converted, rfl, typed ▸ beq_self _⟩
  | compound targetCompound columns_eq rows_eq =>
    obtain ⟨converted, made, typed⟩ :
        ∃ converted, Expr.compoundCast expr.span target expr = .ok converted ∧
          converted.type = target :=
      Expr.exists_compoundCast targetCompound columns_eq rows_eq different
    have noScalar : target.isScalar = false := by
      cases target with
      | scalar | literal => cases targetCompound
      | _ => rfl
    rw [noScalar, targetCompound, made]
    exact ⟨converted, rfl, typed ▸ beq_self _⟩

theorem coerced_of_beq (value : expr.isBareName = false) (same : (expr.type == target) = true) :
    target.coerced context expr = .ok (.ok expr) := by
  rw [coerced_of_value value, same]
  rfl

theorem exists_coerced (standard : expr.type.Standard) (value : expr.isBareName = false)
    (plain : expr.type.isGeneric = false)
    (converts : expr.type.convertsTo target context.allowNarrowing = true) :
    ∃ converted, target.coerced context expr = .ok (.ok converted) ∧
      (converted.type == target) = true := by
  cases same : expr.type == target with
  | true => exact ⟨expr, coerced_of_beq value same, same⟩
  | false =>
    exact exists_coerced_of_castable value same converts
      (castable_of_convertsTo (fun _ => standard) plain same converts)

theorem coerced_of_not_convertsTo (value : expr.isBareName = false)
    (closed : expr.type.convertsTo target context.allowNarrowing = false) :
    target.coerced context expr =
      .ok (.error (.typeMismatch expr.span target.displayName expr.type.displayName)) := by
  have different : (expr.type == target) = false := by
    cases same : expr.type == target with
    | false => rfl
    | true =>
      rw [convertsTo_of_beq same] at closed
      cases closed
  rw [coerced_of_value value, different, closed]
  rfl

end Ty

/-- One parameter is matched by what converts to its type. -/
theorem OverloadSet.bestMatch?_single {set : OverloadSet} {function : Function}
    {parameter : Variable} (only : set.functions = [function])
    (single : function.parameters = [parameter]) (plain : parameter.type.isGeneric = false)
    (argument : Ty) (allowNarrowing : Bool) :
    set.bestMatch? [argument] allowNarrowing =
      if argument.convertsTo parameter.type allowNarrowing then some function else none := by
  have cost : function.callCost [argument] = argument.costTo parameter.type := by
    rw [Function.callCost, single]
    simp only [List.length_singleton, ↓reduceIte, List.zipWith_cons_cons, List.zipWith_nil_left,
      argumentCost, plain, Cost.sum, List.foldl_cons, List.foldl_nil, Bool.false_eq_true]
    cases argument.costTo parameter.type <;> rfl
  rw [bestMatch?, only, List.filter_cons, cost, Ty.convertsTo]
  cases (argument.costTo parameter.type).isPossible allowNarrowing <;> rfl

/-- An expression is converted to a type exactly if it can be assigned to a variable of the type,
and exactly if it can be passed to a parameter of the type. What it is converted to has the type,
and nothing is reported. -/
theorem Ty.conversions_agree {target : Ty} {expr : Expr} {set : OverloadSet} {function : Function}
    {parameter : Variable} (standard : expr.type.Standard) (value : expr.isBareName = false)
    (plain : expr.type.isGeneric = false) (plainTarget : target.isGeneric = false)
    (only : set.functions = [function]) (single : function.parameters = [parameter])
    (typed : parameter.type = target) (context : Context) (queue : DiagnosticQueue) :
    ∃ converted? after assigned?,
      target.coerce context expr queue = .ok (converted?, after) ∧
      Operator.assign.resultType? target expr.type context.allowNarrowing = .ok assigned? ∧
      converted?.isSome = assigned?.isSome ∧
      converted?.isSome = (set.bestMatch? [expr.type] context.allowNarrowing).isSome ∧
      ∀ converted ∈ converted?, (converted.type == target) = true ∧ after = queue := by
  have passed := OverloadSet.bestMatch?_single only single (typed ▸ plainTarget) expr.type
    context.allowNarrowing
  rw [typed] at passed
  rw [passed, coerce]
  cases converts : expr.type.convertsTo target context.allowNarrowing with
  | true =>
    obtain ⟨converted, made, same⟩ := exists_coerced standard value plain converts
    have assigned : Operator.assign.resultType? target expr.type context.allowNarrowing =
        .ok (some target) := by
      change Except.ok (if expr.type.convertsTo target context.allowNarrowing then some target
        else none) = _
      rw [converts]
      rfl
    rw [made]
    refine ⟨some converted, queue, some target, rfl, assigned, rfl, rfl, ?_⟩
    intro other here
    rw [← Option.some.inj here]
    exact ⟨same, rfl⟩
  | false =>
    have assigned : Operator.assign.resultType? target expr.type context.allowNarrowing =
        .ok none := by
      change Except.ok (if expr.type.convertsTo target context.allowNarrowing then some target
        else none) = _
      rw [converts]
      rfl
    rw [coerced_of_not_convertsTo value converts]
    refine ⟨none, _, none, rfl, assigned, rfl, rfl, ?_⟩
    intro other here
    cases here

def intPair : Ty := Builtin.vectorOf Builtin.int 2 19

def shortPair : Ty := Builtin.vectorOf Builtin.short 2 25

/-- `int2(3)`, as a value that is spread. -/
def threes : Expr := .construct ⟨.nowhere, intPair⟩ .splat [.ofPlainInt .nowhere 3]

def pairParameter : Variable :=
  { id := 74, modifiers := {}, name := "pair", type := shortPair, builtin := false,
    storage := .parameter }

def pairFunction : Function :=
  { id := 75, modifiers := {}, name := "take", parameters := [pairParameter],
    returnType := Builtin.void, builtin := false }

/-- The conversion to `short2` narrows, and goes on to the spread literal. -/
theorem threes_converted :
    threes.type.Standard ∧ threes.isBareName = false ∧ threes.type.isGeneric = false ∧
      shortPair.isGeneric = false ∧
      (∃ converted? after assigned?,
        shortPair.coerce { allowNarrowing := true } threes {} = .ok (converted?, after) ∧
        Operator.assign.resultType? shortPair threes.type true = .ok assigned? ∧
        converted?.isSome = assigned?.isSome ∧
        converted?.isSome =
          (OverloadSet.bestMatch? ⟨76, pairFunction, []⟩ [threes.type] true).isSome ∧
        ∀ converted ∈ converted?, (converted.type == shortPair) = true ∧ after = {}) ∧
      (OverloadSet.bestMatch? ⟨76, pairFunction, []⟩ [threes.type] true).isSome = true ∧
      (OverloadSet.bestMatch? ⟨76, pairFunction, []⟩ [threes.type] false).isSome = false := by
  have standard : threes.type.Standard := .builtin (List.mem_of_getElem? (i := 19) rfl)
  refine ⟨standard, rfl, rfl, rfl, ?_, by decide, by decide⟩
  have only : OverloadSet.functions ⟨76, pairFunction, []⟩ = [pairFunction] := rfl
  exact Ty.conversions_agree standard rfl rfl rfl only rfl rfl { allowNarrowing := true } {}

end Shading
