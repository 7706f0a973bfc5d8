import Shading.Expr.Text
import Shading.Stmt.Basic

/-!
Statements in source form.
-/

namespace Shading

/-- The size of a declared array in brackets, or nothing for what is no array. -/
def bracketed (size : Int32) : String :=
  if 0 < size then s!"[{size}]" else ""

def Declaration.text (declaration : Declaration) : String :=
  let value :=
    match declaration.value? with
    | some value => s!" = {value.text}"
    | none => ""
  declaration.target.modifiers.lead
    ++ s!"{declaration.baseType.displayName} {declaration.target.name}"
    ++ bracketed declaration.arraySize ++ value ++ ";"

namespace Stmt

/-- An optional expression with a blank before it. -/
def spacedValue : Option Expr → String
  | some value => s!" {value.text}"
  | none => ""

/-- The mark of a statement that is resolved at compile time. -/
def mark (isStatic : Bool) : String :=
  if isStatic then "@" else ""

def caseHead : Option Expr → String
  | some value => s!"case {value.text}:\n"
  | none => "default:\n"

mutual

def text : Stmt → String
  | .block statements _ braces =>
    (if braces then "\x7b\n" else "") ++ textLines statements ++ (if braces then "\x7d" else "")
  | .breakLoop => "break;"
  | .continueLoop => "continue;"
  | .discard => "discard;"
  | .doLoop body test => s!"do {body.text} while ({test.text});"
  | .evaluate value => s!"{value.text};"
  | .forLoop initializer test next body _ =>
    let start :=
      match initializer with
      | some statement => statement.text
      | none => ";"
    "for (" ++ start ++ spacedValue test ++ ";" ++ spacedValue next ++ ") " ++ body.text
  | .ifElse isStatic test whenTrue whenFalse =>
    let otherwise :=
      match whenFalse with
      | some statement => " else " ++ statement.text
      | none => ""
    mark isStatic ++ s!"if ({test.text}) {whenTrue.text}" ++ otherwise
  | .inlined function => s!"/* inlined: {function.name} */"
  | .nothing => ";"
  | .returnValue value => "return" ++ spacedValue value ++ ";"
  | .switch isStatic value cases _ =>
    mark isStatic ++ s!"switch ({value.text}) \x7b\n" ++ caseLines cases ++ "\x7d"
  | .declare declaration => declaration.text

/-- Statements, each on lines of its own. -/
def textLines : List Stmt → String
  | [] => ""
  | statement :: rest => statement.text ++ "\n" ++ textLines rest

/-- Cases, each with its head line before its statement. -/
def caseLines : List (CaseOf Stmt) → String
  | [] => ""
  | ⟨value, body⟩ :: rest => caseHead value ++ body.text ++ "\n" ++ caseLines rest

end

end Stmt

end Shading
