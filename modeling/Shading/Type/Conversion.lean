import Shading.Type.Basic
import Shading.Type.Cost

/-!
Implicit conversions between types, and what each costs.
-/

namespace Shading.Ty

/-- The cost between two scalars: an integer literal becomes any number for free; otherwise the
family has to agree, and the priorities tell how far up or down the conversion goes. -/
def numberCost (source target : Ty) : Cost :=
  if source.isLiteral && source.isInteger then .free
  else if source.numberKind != target.numberKind then .impossible
  else if source.priority ≤ target.priority then
    .normal (UInt32.ofNat (target.priority - source.priority))
  else .narrowing (UInt32.ofNat (source.priority - target.priority))

/-- The cost of converting a value of the first type implicitly to the second. Vectors and matrices
of one shape convert like their components; a generic type converts to the types in its list, the
earlier ones preferred. -/
def costTo : Ty → Ty → Cost
  | source@(vector _ component columns), target =>
    if source == target then .free
    else if target.isVector then
      if columns = target.columns then component.costTo target.component else .impossible
    else .impossible
  | source@(matrix _ component columns rows), target =>
    if source == target then .free
    else if columns = target.columns ∧ rows = target.rows then
      component.costTo target.component
    else .impossible
  | source, target =>
    if source == target then .free
    else if source.isNumber && target.isNumber then source.numberCost target
    else
      match source.choices.findIdx? (· == target) with
      | some index => .normal (UInt32.ofNat index + 1)
      | none => .impossible

/-- What a type that is neither a vector nor a matrix converts to. -/
theorem costTo_plain {source : Ty} (target : Ty) (noVector : source.isVector = false)
    (noMatrix : source.isMatrix = false) :
    source.costTo target =
      if source == target then .free
      else if source.isNumber && target.isNumber then source.numberCost target
      else
        match source.choices.findIdx? (· == target) with
        | some index => .normal (UInt32.ofNat index + 1)
        | none => .impossible := by
  refine costTo.eq_3 source target ?_ ?_
  · rintro head component columns rfl
    cases noVector
  · rintro head component columns rows rfl
    cases noMatrix

/-- Whether an implicit conversion is allowed. -/
def convertsTo (source target : Ty) (allowNarrowing : Bool) : Bool :=
  (source.costTo target).isPossible allowNarrowing

end Shading.Ty
