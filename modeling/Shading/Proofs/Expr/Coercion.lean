import Shading.Proofs.Expr.Conversion
import Shading.Proofs.Type.Arithmetic
import Shading.Proofs.Type.Slots

/-!
What becomes of an implicit conversion. It gives an expression of the type and reports nothing, or
it makes one report, which tells what the mistake is. The one way in which it faults is that an
expression of a generic type is cast to a type in its list, since casts go from scalars, vectors and
matrices only. Main statement: `Ty.coerce_settles`.
-/

namespace Shading

namespace Ty

variable {source target : Ty} {expr : Expr} {context : Context}

/-- What is reported about a mistake in an expression. -/
structure Blames (report : Diagnostic) (code : String) (expr : Expr) : Prop where
  code_eq : report.code.text = code
  primary_eq : report.primary? = some expr.span

/-- How the conversion of an expression to a type comes out, for each kind of expression and of
type. -/
inductive Coerces (context : Context) (target : Ty) (expr : Expr) (queue : DiagnosticQueue) :
    Except Fault (Option Expr × DiagnosticQueue) → Prop where
  | same (value : expr.isBareName = false) (equal : (expr.type == target) = true) :
      Coerces context target expr queue (.ok (some expr, queue))
  | cast {converted : Expr} (value : expr.isBareName = false)
      (different : (expr.type == target) = false)
      (possible : expr.type.convertsTo target context.allowNarrowing = true)
      (shaped : target.isShaped = true) (plain : expr.type.isGeneric = false)
      (typed : (converted.type == target) = true) :
      Coerces context target expr queue (.ok (some converted, queue))
  | uncalled {report : Diagnostic} (function : expr matches .functionName ..)
      (blames : Blames report "E2002" expr) :
      Coerces context target expr queue (.ok (none, queue.add report))
  | unconstructed {report : Diagnostic} (type : expr matches .typeName ..)
      (blames : Blames report "E2003" expr) :
      Coerces context target expr queue (.ok (none, queue.add report))
  | mismatched {report : Diagnostic} (value : expr.isBareName = false)
      (different : (expr.type == target) = false)
      (impossible : expr.type.convertsTo target context.allowNarrowing = false)
      (blames : Blames report "E2001" expr) :
      Coerces context target expr queue (.ok (none, queue.add report))
  | unbuildable {report : Diagnostic} (value : expr.isBareName = false)
      (different : (expr.type == target) = false)
      (possible : expr.type.convertsTo target context.allowNarrowing = true)
      (shapeless : target.isShaped = false) (blames : Blames report "E2004" expr) :
      Coerces context target expr queue (.ok (none, queue.add report))
  | uncast (value : expr.isBareName = false) (different : (expr.type == target) = false)
      (possible : expr.type.convertsTo target context.allowNarrowing = true)
      (shaped : target.isShaped = true) (generic : expr.type.isGeneric = true) :
      Coerces context target expr queue (.error (.cast expr.type.name target.name))

theorem Castable.isShaped (castable : source.Castable target) : target.isShaped = true := by
  cases castable with
  | scalar _ targetScalar => rw [Ty.isShaped, targetScalar, Bool.true_or, Bool.true_or]
  | compound targetCompound => exact isShaped_of_compound targetCompound

/-! ## Casts of generic types -/

theorem shape_of_isGeneric (generic : source.isGeneric = true) :
    source.isScalar = false ∧ source.rows = 0 := by
  cases source with
  | generic => exact ⟨rfl, rfl⟩
  | _ => cases generic

theorem scalarCast_of_isGeneric {span : Span} (generic : expr.type.isGeneric = true) :
    Expr.scalarCast span target expr = .error (.cast expr.type.name target.name) := by
  rw [Expr.scalarCast, (shape_of_isGeneric generic).1, Bool.and_false]
  rfl

/-- A generic type has no rows, as opposed to vectors and matrices. -/
theorem compoundCast_of_isGeneric {span : Span} (generic : expr.type.isGeneric = true)
    (rows : target.rows ≠ 0) :
    Expr.compoundCast span target expr = .error (.cast expr.type.name target.name) := by
  have different : (expr.type.rows == target.rows) = false := by
    rw [(shape_of_isGeneric generic).2]
    exact beq_eq_false_iff_ne.mpr rows.symm
  rw [Expr.compoundCast, different, Bool.and_false]
  rfl

theorem rows_ne_zero (standard : target.isMatrix = true → target.Standard)
    (compound : (target.isVector || target.isMatrix) = true) : target.rows ≠ 0 := by
  cases target with
  | vector => exact Nat.one_ne_zero
  | matrix =>
    have rows := ((standard rfl).shape_of_compound rfl).2
    intro none
    rw [none] at rows
    exact absurd rows (by decide)
  | _ => cases compound

/-- An expression of a generic type has no conversion but to the type itself. -/
theorem coerces_of_isGeneric {queue : DiagnosticQueue}
    (targetMatrix : target.isMatrix = true → target.Standard) (value : expr.isBareName = false)
    (different : (expr.type == target) = false)
    (possible : expr.type.convertsTo target context.allowNarrowing = true)
    (generic : expr.type.isGeneric = true) :
    Coerces context target expr queue (target.coerce context expr queue) := by
  rw [coerce, coerced_of_value value, possible, different]
  cases scalar : target.isScalar with
  | true =>
    rw [scalarCast_of_isGeneric generic]
    exact .uncast value different possible (by rw [isShaped, scalar]; rfl) generic
  | false =>
    cases compound : target.isVector || target.isMatrix with
    | true =>
      rw [compoundCast_of_isGeneric generic (rows_ne_zero targetMatrix compound)]
      exact .uncast value different possible (isShaped_of_compound compound) generic
    | false =>
      have shapeless : target.isShaped = false := by
        rw [isShaped, Bool.or_assoc, compound, scalar, Bool.or_false]
      exact .unbuildable value different possible shapeless ⟨rfl, rfl⟩

/-! ## All expressions -/

/-- The conversion of an expression to a type gives an expression of the type and leaves the queue
alone, or makes the one report for the kind of mistake, or faults in the cast of an expression of a
generic type. The types are any; of matrix types there are the builtin ones. -/
theorem coerce_settles (sourceMatrix : expr.type.isMatrix = true → expr.type.Standard)
    (targetMatrix : target.isMatrix = true → target.Standard) (context : Context)
    (queue : DiagnosticQueue) :
    Coerces context target expr queue (target.coerce context expr queue) := by
  cases value : expr.isBareName with
  | true =>
    cases expr with
    | functionName => exact .uncalled rfl ⟨rfl, rfl⟩
    | typeName => exact .unconstructed rfl ⟨rfl, rfl⟩
    | _ => cases value
  | false =>
    cases same : expr.type == target with
    | true =>
      rw [coerce, coerced_of_beq value same]
      exact .same value same
    | false =>
      cases possible : expr.type.convertsTo target context.allowNarrowing with
      | false =>
        rw [coerce, coerced_of_not_convertsTo value possible]
        exact .mismatched value same possible ⟨rfl, rfl⟩
      | true =>
        cases generic : expr.type.isGeneric with
        | true => exact coerces_of_isGeneric targetMatrix value same possible generic
        | false =>
          have castable := castable_of_convertsTo sourceMatrix generic same possible
          obtain ⟨converted, made, typed⟩ :=
            exists_coerced_of_castable value same possible castable
          rw [coerce, made]
          exact .cast value same possible castable.isShaped generic typed

def halfSquare : Ty := Builtin.matrixOf Builtin.half 2 2 49

def floatSquare : Ty := Builtin.matrixOf Builtin.float 2 2 40

/-- `turn`, a parameter of type `half2x2`. -/
def turn : Expr :=
  .ofVariable .nowhere { pairParameter with name := "turn", type := halfSquare } .read

/-- Matrices convert like their components. -/
theorem turn_settles :
    (turn.type.isMatrix = true → turn.type.Standard) ∧
      (floatSquare.isMatrix = true → floatSquare.Standard) ∧
      Coerces {} floatSquare turn {} (floatSquare.coerce {} turn {}) ∧
      floatSquare.coerce {} turn {} =
        .ok (some (.construct ⟨.nowhere, floatSquare⟩ .compoundCast [turn]), {}) := by
  have source : turn.type.isMatrix = true → turn.type.Standard :=
    fun _ => .builtin (List.mem_of_getElem? (i := 49) rfl)
  have target : floatSquare.isMatrix = true → floatSquare.Standard :=
    fun _ => .builtin (List.mem_of_getElem? (i := 40) rfl)
  exact ⟨source, target, coerce_settles source target {} {}, by rfl⟩

/-- `any`, a parameter of the generic type for floats. -/
def genericParameter : Expr :=
  .ofVariable .nowhere
    { pairParameter with
      name := "any"
      type := Builtin.genericOf "$genType" ["float", "float2", "float3", "float4"] 58 } .read

/-- What converts to `float` at a cost faults in the cast, and nothing is reported. -/
theorem genericParameter_uncast :
    genericParameter.type ∈ Builtin.all ∧ genericParameter.isBareName = false ∧
      (genericParameter.type == Builtin.float) = false ∧
      genericParameter.type.convertsTo Builtin.float false = true ∧
      Builtin.float.coerce {} genericParameter {} = .error (.cast "$genType" "float") := by
  exact ⟨List.mem_of_getElem? (i := 58) rfl, rfl, by decide, by decide, by rfl⟩

end Ty

end Shading
