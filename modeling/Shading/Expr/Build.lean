import Shading.Context
import Shading.Expr.Basic
import Shading.Type.ResultType

/-!
Building expressions. Each function computes the type of its node from the operands and faults on
operands that cannot stand there; so every expression built here is well typed.
-/

namespace Shading.Expr

/-- A `bool` literal. -/
def ofBool (span : Span) (value : Bool) : Expr :=
  .boolLiteral ⟨span, Builtin.bool⟩ value

/-- An integer literal of an integer type. -/
def ofInt (span : Span) (value : Int64) (type : Ty) : Except Fault Expr := do
  ensure type.isInteger (.intLiteralType type.name)
  return .intLiteral ⟨span, type⟩ value

/-- An `int` literal. -/
def ofPlainInt (span : Span) (value : Int64) : Expr :=
  .intLiteral ⟨span, Builtin.int⟩ value

/-- A floating-point literal of a floating-point type. -/
def ofDouble (span : Span) (value : Double) (type : Ty) : Except Fault Expr := do
  ensure type.isFloat (.floatLiteralType type.name)
  return .floatLiteral ⟨span, type⟩ value

def binaryOf (context : Context) (left : Expr) (op : Operator) (right : Expr) :
    Except Fault Expr := do
  match ← op.resultType? left.type right.type context.allowNarrowing with
  | some type => return .binary ⟨left.span.merge right.span, type⟩ left op right
  | none => .error (.operandTypes left.type.displayName op right.type.displayName)

def memberOf (base : Expr) (position : Nat) (owner : MemberOwner) : Except Fault Expr :=
  match base.type.members[position]? with
  | some found => .ok (.member ⟨base.span, found.type⟩ base position owner)
  | none => .error (.noMember base.type.name position)

/-- A call with one argument for each parameter. -/
def callOf (span : Span) (type : Ty) (function : Function) (arguments : List Expr) :
    Except Fault Expr := do
  ensure (arguments.length == function.parameters.length)
    (.argumentCount arguments.length function.parameters.length function.name)
  return .call ⟨span, type⟩ function arguments

/-- A function that is named but not called; it has no type. -/
def ofFunctions (span : Span) (functions : List Function) : Expr :=
  .functionName ⟨span, Builtin.invalid⟩ functions

/-- The type of an element of an array, a component of a vector or a column of a matrix. -/
def elementType (type : Ty) : Except Fault Ty :=
  match type with
  | .array _ component _ => .ok component
  | .vector _ component _ => .ok component
  | .matrix _ component _ rows => Builtin.compound component rows 1
  | _ => .error (.notIndexable type.name)

def indexOf (base position : Expr) : Except Fault Expr := do
  ensure position.type.isInteger (.indexType position.type.name)
  let type ← elementType base.type
  return .index ⟨base.span.merge position.span, type⟩ base position

/-- `++` or `--` after a numeric operand. -/
def postfixedOf (operand : Expr) (op : Operator) : Except Fault Expr := do
  ensure (op matches .increment | .decrement) (.notPostfix op)
  ensure operand.type.component.isNumber (.postfixOperand op operand.type.name)
  return .postfixed ⟨operand.span, operand.type⟩ operand op

/-- Whether an operator can stand before an operand of a type. -/
def prefixTakes (op : Operator) (type : Ty) : Bool :=
  match op with
  | .logicalNot => type.isBoolean
  | .bitNot => type.component.isInteger
  | .plus | .minus | .increment | .decrement => type.component.isNumber
  | _ => false

def prefixedOf (op : Operator) (operand : Expr) : Except Fault Expr := do
  ensure (prefixTakes op operand.type) (.prefixOperand op operand.type.name)
  return .prefixed ⟨operand.span, operand.type⟩ op operand

/-- A query of a capability, which is a literal if the capability is known. -/
def ofSetting (context : Context) (span : Span) (name : String) : Expr :=
  match context.capability? name with
  | some (.bool value) => ofBool span value
  | some (.int value) => ofPlainInt span value.toInt64
  | none => .setting ⟨span, Builtin.bool⟩ name

/-- One to four components of a scalar or vector. -/
def swizzleOf (base : Expr) (lanes : List Lane) : Except Fault Expr := do
  ensure (base.type.isScalar || base.type.isVector) (.notSwizzlable base.type.name)
  ensure (1 ≤ lanes.length && lanes.length ≤ 4) (.swizzleLength lanes.length)
  let type ← Builtin.compound base.type.component lanes.length 1
  return .swizzle ⟨base.span, type⟩ base lanes

def ternaryOf (test whenTrue whenFalse : Expr) : Except Fault Expr := do
  ensure test.type.isBoolean (.ternaryTest test.type.name)
  ensure (whenTrue.type == whenFalse.type)
    (.ternaryArms whenTrue.type.name whenFalse.type.name)
  return .ternary ⟨test.span.merge whenFalse.span, whenTrue.type⟩ test whenTrue whenFalse

/-- A type that is named as if it were a value; it has no type of its own. -/
def ofType (span : Span) (value : Ty) : Expr :=
  .typeName ⟨span, Builtin.invalid⟩ value

def ofVariable (span : Span) (target : Variable) (use : RefKind) : Expr :=
  .reference ⟨span, target.type⟩ target use

end Shading.Expr
