import Shading.Expr.Basic
import Shading.Number.FloatText

/-!
Expressions in source form.
-/

namespace Shading.Expr

mutual

/-- An expression in source form, with brackets around every binary and ternary operation. -/
def text : Expr → String
  | .binary _ left op right => s!"({left.text} {op} {right.text})"
  | .boolLiteral _ value => toString value
  | .intLiteral _ value => toString value
  | .floatLiteral _ value => value.text
  | .construct i _ arguments =>
    i.type.displayName ++ "(" ++ ", ".intercalate (texts arguments) ++ ")"
  | .member _ base position owner =>
    let name := (base.type.members[position]?.map MemberOf.name).getD "<field>"
    match owner with
    | .named => s!"{base.text}.{name}"
    | .anonymousBlock => name
  | .call _ function arguments =>
    function.name ++ "(" ++ ", ".intercalate (texts arguments) ++ ")"
  | .functionName _ functions =>
    "<function> " ++ (functions.head?.map Function.name).getD ""
  | .index _ base position => s!"{base.text}[{position.text}]"
  | .postfixed _ operand op => s!"{operand.text}{op}"
  | .prefixed _ op operand => s!"{op}{operand.text}"
  | .setting _ name => s!"caps.{name}"
  | .swizzle _ base lanes => base.text ++ "." ++ String.ofList (lanes.map Lane.letter)
  | .ternary _ test whenTrue whenFalse =>
    s!"({test.text} ? {whenTrue.text} : {whenFalse.text})"
  | .typeName _ value => value.displayName
  | .reference _ target _ => target.name

def texts : List Expr → List String
  | [] => []
  | expr :: rest => expr.text :: texts rest

end

end Shading.Expr
