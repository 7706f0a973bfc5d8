import Shading.Expr.Basic
import Shading.Outline.Basic
import Shading.Text.Hex

/-!
Outlines of expressions.
-/

namespace Shading

/-- The bits of a number in hexadecimal digits; all that is not a number looks alike. -/
def Double.bitText (value : Double) : String :=
  if value.isNaN then "nan" else Hex.padded 16 value.bits.toNat

namespace Expr

/-- The kind of an expression's own row. -/
def kind : Expr → String
  | binary .. => "Binary"
  | boolLiteral .. => "BoolLiteral"
  | intLiteral .. => "IntLiteral"
  | floatLiteral .. => "FloatLiteral"
  | construct .. => "Constructor"
  | member .. => "FieldAccess"
  | call .. => "FunctionCall"
  | functionName .. => "FunctionReference"
  | index .. => "Index"
  | postfixed .. => "Postfix"
  | prefixed .. => "Prefix"
  | setting .. => "Setting"
  | swizzle .. => "Swizzle"
  | ternary .. => "Ternary"
  | typeName .. => "TypeReference"
  | reference .. => "VariableReference"

/-- The detail of an expression's own row. -/
def detail : Expr → String
  | binary _ _ op _ | postfixed _ _ op | prefixed _ op _ => op.symbol
  | boolLiteral _ value => toString value
  | intLiteral _ value => toString value
  | floatLiteral _ value => value.bitText
  | construct _ flavour _ => flavour.name
  | member _ _ position owner => s!"{position} {owner.name}"
  | call _ function _ => function.text
  | functionName _ functions => "; ".intercalate (functions.map Function.text)
  | swizzle _ _ lanes => String.ofList (lanes.map Lane.letter)
  | setting _ name => name
  | typeName _ value => value.name
  | reference _ target use => s!"{target.name} {use.name}"
  | index .. | ternary .. => ""

/-- The row of an expression itself. -/
def row (depth : Nat) (expr : Expr) : OutlineRow :=
  { depth, kind := expr.kind, detail := expr.detail, type? := expr.type.name, span? := expr.span }

mutual

/-- The rows of an expression and of everything below it. -/
def outline (depth : Nat) (expr : Expr) : List OutlineRow :=
  expr.row depth ::
    match expr with
    | .binary _ left _ right => left.outline (depth + 1) ++ right.outline (depth + 1)
    | .construct _ _ arguments | .call _ _ arguments => outlines (depth + 1) arguments
    | .member _ base _ _ | .swizzle _ base _ => base.outline (depth + 1)
    | .index _ base position => base.outline (depth + 1) ++ position.outline (depth + 1)
    | .postfixed _ operand _ | .prefixed _ _ operand => operand.outline (depth + 1)
    | .ternary _ test whenTrue whenFalse =>
      test.outline (depth + 1) ++ whenTrue.outline (depth + 1) ++ whenFalse.outline (depth + 1)
    | .boolLiteral .. | .intLiteral .. | .floatLiteral .. | .functionName .. | .setting ..
    | .typeName .. | .reference .. => []

/-- The rows of expressions side by side. -/
def outlines (depth : Nat) : List Expr → List OutlineRow
  | [] => []
  | expr :: rest => expr.outline depth ++ outlines depth rest

end

/-- The rows of an expression, or of its absence. -/
def outlineOrAbsent (depth : Nat) : Option Expr → List OutlineRow
  | some expr => expr.outline depth
  | none => [.absent depth]

end Expr

end Shading
