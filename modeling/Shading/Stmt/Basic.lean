import Shading.Store

/-!
Statements, and how they are built. A statement that opens a scope refers to its symbol table by
number.
-/

namespace Shading

/-- The declaration of one variable. -/
structure Declaration where
  target : Variable
  baseType : Ty
  /-- The size of an array; zero for what is no array. -/
  arraySize : Int32
  value? : Option Expr
  deriving Repr

/-- A case of a switch, over the statements it holds; without a value it is the default. -/
structure CaseOf (σ : Type) where
  value? : Option Expr
  body : σ
  deriving Repr

/-- A statement. -/
inductive Stmt where
  /-- Statements in a row. Without braces the block only groups them. -/
  | block (statements : List Stmt) (table? : Option TableId) (braces : Bool)
  | breakLoop
  | continueLoop
  | discard
  | doLoop (body : Stmt) (test : Expr)
  | evaluate (value : Expr)
  | forLoop (initializer : Option Stmt) (test next : Option Expr) (body : Stmt)
      (table? : Option TableId)
  /-- A choice between two statements, at compile time if it is static. -/
  | ifElse (isStatic : Bool) (test : Expr) (whenTrue : Stmt) (whenFalse : Option Stmt)
  /-- Where the body of an inlined call starts. -/
  | inlined (function : Function)
  | nothing
  | returnValue (value : Option Expr)
  | switch (isStatic : Bool) (value : Expr) (cases : List (CaseOf Stmt)) (table? : Option TableId)
  | declare (declaration : Declaration)
  deriving Repr

abbrev SwitchCase := CaseOf Stmt

namespace Declaration

/-- Declares a variable, whose initial value is the value given here. -/
def make (store : Store) (target : Variable) (baseType : Ty) (arraySize : Int32)
    (value? : Option Expr) : Except Fault (Declaration × Store) := do
  let declaration : Declaration := { target, baseType, arraySize, value? }
  match value? with
  | some value => return (declaration, ← store.attachInitial target value)
  | none => return (declaration, store)

end Declaration

namespace Stmt

/-- Faults unless a test is boolean. -/
def ensureTest (context : String) (test : Expr) : Except Fault Unit :=
  ensure test.type.isBoolean (.testType context test.type.name)

/-- A loop that tests after its body. -/
def doLoopOf (body : Stmt) (test : Expr) : Except Fault Stmt := do
  ensureTest "do" test
  return .doLoop body test

/-- A loop of which every part but the body can be left out. -/
def forLoopOf (initializer : Option Stmt) (test next : Option Expr) (body : Stmt)
    (table? : Option TableId) : Except Fault Stmt := do
  match test with
  | some test => ensureTest "for" test
  | none => pure ()
  return .forLoop initializer test next body table?

/-- A choice between two statements, of which the second can be left out. -/
def ifElseOf (isStatic : Bool) (test : Expr) (whenTrue : Stmt) (whenFalse : Option Stmt) :
    Except Fault Stmt := do
  ensureTest "if" test
  return .ifElse isStatic test whenTrue whenFalse

/-- A choice by the value of an integer or of an enum. -/
def switchOf (isStatic : Bool) (value : Expr) (cases : List SwitchCase)
    (table? : Option TableId) : Except Fault Stmt := do
  ensure (value.type.isInteger || value.type.isEnum) (.switchType value.type.name)
  return .switch isStatic value cases table?

mutual

/-- Whether a statement does nothing: it is empty, or a block of such statements. -/
def isEmpty : Stmt → Bool
  | .nothing => true
  | .block statements _ _ => allEmpty statements
  | _ => false

/-- Whether all statements of a list do nothing. -/
def allEmpty : List Stmt → Bool
  | [] => true
  | statement :: rest => statement.isEmpty && allEmpty rest

end

end Stmt

end Shading
