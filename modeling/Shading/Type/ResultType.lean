import Shading.Operator
import Shading.Type.Builtin
import Shading.Type.Conversion

/-!
The types of binary operations. Comparisons and logical operators give `bool`, an assignment gives
the type of its target and a comma that of its right side. In arithmetic a scalar is spread over a
vector or matrix, `*` on matrices follows their shapes, and between two operands of one shape the
side wins that the other converts to more cheaply.
-/

namespace Shading

/-- The one of two types that the other converts to more cheaply; the left one if both conversions
cost the same. -/
def cheaperSide? (left right : Ty) (allowNarrowing : Bool) : Option Ty :=
  let toLeft := right.costTo left
  let toRight := left.costTo right
  if toLeft.isPossible allowNarrowing then
    if toRight.isPossible allowNarrowing && toRight.lt toLeft then some right else some left
  else if toRight.isPossible allowNarrowing then some right
  else none

/-- The shape of a product of linear algebra, with whether the inner dimensions agree; none for
operands that are no such product. -/
def productShape? (left right : Ty) : Option (Nat × Nat × Bool) :=
  if left.isMatrix && right.isMatrix then
    some (right.columns, left.rows, left.columns == right.rows)
  else if left.isMatrix && right.isVector then
    some (left.rows, 1, left.columns == right.columns)
  else if left.isVector && right.isMatrix then
    some (right.columns, 1, left.columns == right.rows)
  else none

/-- The type of a product of the given shape over the components of its operands. -/
def productType? (left right : Ty) (columns rows : Nat) (allowNarrowing : Bool) :
    Except Fault (Option Ty) :=
  match cheaperSide? left.component right.component allowNarrowing with
  | some component => some <$> Builtin.compound component columns rows
  | none => .ok none

/-- Whether a type is one that arithmetic works on at all. -/
def Ty.isShaped (type : Ty) : Bool := type.isScalar || type.isVector || type.isMatrix

/-- Whether arithmetic takes an operand of a type; some operators take integers only. -/
def Operator.takes (op : Operator) (type : Ty) : Bool :=
  type.isShaped
    && (if op.isBitwise then type.component.isInteger else type.component.isNumber)

/-- The type of arithmetic component by component. -/
def componentwiseType? (left right : Ty) (allowNarrowing : Bool) : Option Ty :=
  if left.isScalar && !right.isScalar then
    if left.convertsTo right.component allowNarrowing then some right else none
  else if !left.isScalar && right.isScalar then
    if right.convertsTo left.component allowNarrowing then some left else none
  else if left.columns != right.columns || left.rows != right.rows then none
  else cheaperSide? left right allowNarrowing

namespace Operator

/-- The type of an arithmetic operation, if its operands allow it. -/
def arithmeticType? (op : Operator) (left right : Ty) (allowNarrowing : Bool) :
    Except Fault (Option Ty) :=
  if !op.takes left || !op.takes right then .ok none
  else
    match (if op = star then productShape? left right else none) with
    | some (columns, rows, true) => productType? left right columns rows allowNarrowing
    | some (_, _, false) => .ok none
    | none => .ok (componentwiseType? left right allowNarrowing)

/-- Whether an operator is one of `+ - * / % << >> & | ^`. -/
def isArithmetic (op : Operator) : Bool :=
  op.isBitwise || op matches plus | minus | star | slash

/-- The type of an operation that is no assignment and no comma. -/
def valueType? (op : Operator) (left right : Ty) (allowNarrowing : Bool) :
    Except Fault (Option Ty) :=
  let comparable := left.convertsTo right allowNarrowing || right.convertsTo left allowNarrowing
  let isCondition (type : Ty) := type.convertsTo Builtin.bool allowNarrowing
  if op.isLogical then
    .ok (if isCondition left && isCondition right then some Builtin.bool else none)
  else if op.isEquality then .ok (if comparable then some Builtin.bool else none)
  else if op.isRelational then
    .ok (if left.isNumber && right.isNumber && comparable then some Builtin.bool else none)
  else if op.isArithmetic then op.arithmeticType? left right allowNarrowing
  else .ok none

/-- The type of `left op right`, or none if the operands do not fit the operator. -/
def resultType? (op : Operator) (left right : Ty) (allowNarrowing : Bool) :
    Except Fault (Option Ty) :=
  match op.applied? with
  | some applied => do
    match ← applied.valueType? left right allowNarrowing with
    | some result => .ok (if result.convertsTo left allowNarrowing then some left else none)
    | none => .ok none
  | none =>
    match op with
    | comma => .ok (some right)
    | assign => .ok (if right.convertsTo left allowNarrowing then some left else none)
    | op => op.valueType? left right allowNarrowing

end Operator

end Shading
