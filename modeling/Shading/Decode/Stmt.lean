import Shading.Decode.Expr
import Shading.Stmt.Basic

/-!
Decoding statements. The table of a block or switch is decoded before what it holds and is active
there; the table of a `for` comes last and holds nothing.
-/

namespace Shading.Decode

/-- A declaration after its tag. -/
def declaration (context : Context) : Decode Declaration := do
  let target ← targetVariable
  let baseType ← type
  let arraySize := (← next .s8).toInt32
  let value? ← expr context
  let (declaration, store) ← Declaration.make (← get).store target baseType arraySize value?
  changeStore fun _ => store
  return declaration

def switchCase (context : Context) (nested : Decode (Option Stmt)) : Decode SwitchCase := do
  let value? ← expr context
  let body ← present "switch case" nested
  return { value?, body }

/-- A statement after its tag, where `nested` decodes the statements within. -/
def stmtRecord (context : Context) (nested : Decode (Option Stmt)) : Command → Decode Stmt
  | .blockStmt => do
    let table? ← table true
    within table? do
      let count ← next .u8
      let statements ← times count.toNat (present "block entry" nested)
      let braces ← next .bool
      return .block statements table? braces
  | .breakStmt => return .breakLoop
  | .continueStmt => return .continueLoop
  | .discardStmt => return .discard
  | .doStmt => do
    let body ← present "do body" nested
    let test ← present "do test" (expr context)
    Stmt.doLoopOf body test
  | .exprStmt => return .evaluate (← present "expression statement" (expr context))
  | .forStmt => do
    let initializer ← nested
    let test ← expr context
    let next ← expr context
    let body ← present "for body" nested
    let table? ← table true
    Stmt.forLoopOf initializer test next body table?
  | .ifStmt => do
    let isStatic ← next .bool
    let test ← present "if test" (expr context)
    let whenTrue ← present "if branch" nested
    let whenFalse ← nested
    Stmt.ifElseOf isStatic test whenTrue whenFalse
  | .inlineMarker => return .inlined (← function)
  | .returnStmt => return .returnValue (← expr context)
  | .switchStmt => do
    let isStatic ← next .bool
    let table? ← table true
    within table? do
      let value ← present "switch value" (expr context)
      let count ← next .u8
      let cases ← times count.toNat (switchCase context nested)
      Stmt.switchOf isStatic value cases table?
  | .declaration => return .declare (← declaration context)
  | other => throw (.unexpected "a statement" other)

/-- A statement with fewer than `bound` statements nested in each other, or the mark of an absent
one. -/
def stmtWithin (context : Context) : Nat → Decode (Option Stmt)
  | 0 => throw .nestingBound
  | bound + 1 => do
    match ← next .command with
    | .absent => return none
    | command => return some (← stmtRecord context (stmtWithin context bound) command)

/-- The next statement, or the mark of an absent one. -/
def stmt (context : Context) : Decode (Option Stmt) := do
  stmtWithin context (← nesting)

end Shading.Decode
