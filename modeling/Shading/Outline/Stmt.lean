import Shading.Element
import Shading.Outline.Expr

/-!
Outlines of statements and of program elements. Statements have neither type nor span.
-/

namespace Shading

/-- The rows of a declaration and of its value. -/
def Declaration.outline (depth : Nat) (declaration : Declaration) : List OutlineRow :=
  { depth
    kind := "VarDeclaration"
    detail := s!"{declaration.target.name} {declaration.arraySize}"
    type? := declaration.baseType.name } ::
    (declaration.value?.map (Expr.outline (depth + 1))).getD []

namespace Stmt

mutual

/-- The rows of a statement and of everything below it. -/
def outline (store : Store) (depth : Nat) : Stmt → List OutlineRow
  | .block statements table? braces =>
    { depth, kind := "Block", detail := s!"{braces} {store.digest table?}" } ::
      outlines store (depth + 1) statements
  | .breakLoop => [{ depth, kind := "Break" }]
  | .continueLoop => [{ depth, kind := "Continue" }]
  | .discard => [{ depth, kind := "Discard" }]
  | .doLoop body test =>
    { depth, kind := "Do" } :: body.outline store (depth + 1) ++ test.outline (depth + 1)
  | .evaluate value => { depth, kind := "Expression" } :: value.outline (depth + 1)
  | .forLoop initializer test next body table? =>
    let start :=
      match initializer with
      | some statement => statement.outline store (depth + 1)
      | none => [.absent (depth + 1)]
    { depth, kind := "For", detail := store.digest table? } ::
      start ++ Expr.outlineOrAbsent (depth + 1) test ++ Expr.outlineOrAbsent (depth + 1) next
        ++ body.outline store (depth + 1)
  | .ifElse isStatic test whenTrue whenFalse =>
    let otherwise :=
      match whenFalse with
      | some statement => statement.outline store (depth + 1)
      | none => []
    { depth, kind := "If", detail := toString isStatic } ::
      test.outline (depth + 1) ++ whenTrue.outline store (depth + 1) ++ otherwise
  | .inlined function => [{ depth, kind := "InlineMarker", detail := function.text }]
  | .nothing => [{ depth, kind := "Nop" }]
  | .returnValue value =>
    { depth, kind := "Return" } :: (value.map (Expr.outline (depth + 1))).getD []
  | .switch isStatic value cases table? =>
    { depth, kind := "Switch", detail := s!"{isStatic} {store.digest table?}" } ::
      value.outline (depth + 1) ++ caseOutlines store (depth + 1) cases
  | .declare declaration => declaration.outline depth

/-- The rows of statements in a row. -/
def outlines (store : Store) (depth : Nat) : List Stmt → List OutlineRow
  | [] => []
  | statement :: rest => statement.outline store depth ++ outlines store depth rest

/-- The rows of cases, each with its value before its statement. -/
def caseOutlines (store : Store) (depth : Nat) : List (CaseOf Stmt) → List OutlineRow
  | [] => []
  | ⟨value, body⟩ :: rest =>
    Expr.outlineOrAbsent depth value ++ body.outline store depth ++ caseOutlines store depth rest

end

end Stmt

namespace Element

/-- The word for the kind of an element in listings. -/
def kind : Element → String
  | .enum _ => "Enum"
  | .function _ => "Function"
  | .interfaceBlock _ => "InterfaceBlock"
  | .global _ => "GlobalVar"
  | .struct _ => "StructDefinition"

/-- The rows of what an element holds. -/
def outline (store : Store) : Element → List OutlineRow
  | .enum definition => definition.declarations.flatMap (Declaration.outline 0)
  | .function definition => definition.body.outline store 0
  | .global declaration => declaration.outline 0
  | .interfaceBlock _ | .struct _ => []

end Element

end Shading
