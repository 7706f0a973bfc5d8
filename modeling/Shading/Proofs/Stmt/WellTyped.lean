import Shading.Proofs.Expr.WellTyped

/-!
Well-typed statements and elements: every expression in them is well typed, tests are boolean, and
a switch is on an integer or an enum.
-/

namespace Shading

def Declaration.WellTyped (context : Context) (declaration : Declaration) : Prop :=
  ∀ value ∈ declaration.value?, value.WellTyped context

/-- A statement that is well typed, with every statement and expression in it. -/
inductive Stmt.WellTyped (context : Context) : Stmt → Prop where
  | block {statements : List Stmt} {table? : Option TableId} {braces : Bool}
      (statementsTyped : ∀ statement ∈ statements, WellTyped context statement) :
      WellTyped context (.block statements table? braces)
  | breakLoop : WellTyped context .breakLoop
  | continueLoop : WellTyped context .continueLoop
  | discard : WellTyped context .discard
  | doLoop {body : Stmt} {test : Expr} (bodyTyped : WellTyped context body)
      (testTyped : test.WellTyped context) (boolean : test.type.isBoolean = true) :
      WellTyped context (.doLoop body test)
  | evaluate {value : Expr} (valueTyped : value.WellTyped context) :
      WellTyped context (.evaluate value)
  | forLoop {initializer : Option Stmt} {test? next? : Option Expr} {body : Stmt}
      {table? : Option TableId}
      (initializerTyped : ∀ first ∈ initializer, WellTyped context first)
      (testTyped : ∀ test ∈ test?, test.WellTyped context)
      (boolean : ∀ test ∈ test?, test.type.isBoolean = true)
      (nextTyped : ∀ next ∈ next?, next.WellTyped context) (bodyTyped : WellTyped context body) :
      WellTyped context (.forLoop initializer test? next? body table?)
  | ifElse {isStatic : Bool} {test : Expr} {whenTrue : Stmt} {whenFalse? : Option Stmt}
      (testTyped : test.WellTyped context) (boolean : test.type.isBoolean = true)
      (trueTyped : WellTyped context whenTrue)
      (falseTyped : ∀ whenFalse ∈ whenFalse?, WellTyped context whenFalse) :
      WellTyped context (.ifElse isStatic test whenTrue whenFalse?)
  | inlined (function : Function) : WellTyped context (.inlined function)
  | returnValue {value? : Option Expr} (valueTyped : ∀ value ∈ value?, value.WellTyped context) :
      WellTyped context (.returnValue value?)
  | switch {isStatic : Bool} {value : Expr} {cases : List SwitchCase} {table? : Option TableId}
      (valueTyped : value.WellTyped context)
      (selector : value.type.isInteger = true ∨ value.type.isEnum = true)
      (labelsTyped : ∀ entry ∈ cases, ∀ label ∈ entry.value?, label.WellTyped context)
      (bodiesTyped : ∀ entry ∈ cases, WellTyped context entry.body) :
      WellTyped context (.switch isStatic value cases table?)
  | declare {declaration : Declaration} (declarationTyped : declaration.WellTyped context) :
      WellTyped context (.declare declaration)

/-- An element of well-typed declarations and statements. -/
def Element.WellTyped (context : Context) : Element → Prop
  | .enum definition =>
    ∀ declaration ∈ definition.declarations, declaration.WellTyped context
  | .function definition => definition.body.WellTyped context
  | .global declaration => declaration.WellTyped context
  | .interfaceBlock _ | .struct _ => True

variable {context : Context}

theorem Declaration.Built.wellTyped {declaration : Declaration}
    (built : declaration.Built context Ty.Standard) : declaration.WellTyped context :=
  fun value present => (built value present).wellTyped

theorem Stmt.passed_of_test {name : String} {test : Expr} {passed : Unit}
    (checked : ensureTest name test = .ok passed) : test.type.isBoolean = true := by
  rw [ensureTest, ensure] at checked
  split at checked
  · assumption
  · cases checked

theorem Stmt.Built.wellTyped {statement : Stmt} (built : statement.Built context Ty.Standard) :
    statement.WellTyped context := by
  induction built with
  | block _ statementsTyped => exact .block statementsTyped
  | breakLoop => exact .breakLoop
  | continueLoop => exact .continueLoop
  | discard => exact .discard
  | doLoopOf _ testBuilt made bodyTyped =>
    obtain ⟨_, checked, same⟩ := Stepping.exists_of_bind_ok made
    cases same
    exact .doLoop bodyTyped testBuilt.wellTyped (passed_of_test checked)
  | evaluate valueBuilt => exact .evaluate valueBuilt.wellTyped
  | @forLoopOf initializer test? next? body table? statement _ testBuilt nextBuilt _ made
      initializerTyped bodyTyped =>
    have testTyped : ∀ test ∈ test?, test.WellTyped context :=
      fun test present => (testBuilt test present).wellTyped
    have nextTyped : ∀ next ∈ next?, next.WellTyped context :=
      fun next present => (nextBuilt next present).wellTyped
    cases test? with
    | none =>
      cases made
      exact .forLoop initializerTyped testTyped nofun nextTyped bodyTyped
    | some test =>
      obtain ⟨_, checked, same⟩ := Stepping.exists_of_bind_ok made
      cases same
      refine .forLoop initializerTyped testTyped ?_ nextTyped bodyTyped
      intro other present
      cases present
      exact passed_of_test checked
  | ifElseOf testBuilt _ _ made trueTyped falseTyped =>
    obtain ⟨_, checked, same⟩ := Stepping.exists_of_bind_ok made
    cases same
    exact .ifElse testBuilt.wellTyped (passed_of_test checked) trueTyped falseTyped
  | inlined function => exact .inlined function
  | returnValue valueBuilt =>
    exact .returnValue fun value present => (valueBuilt value present).wellTyped
  | switchOf valueBuilt labelsBuilt _ made bodiesTyped =>
    obtain ⟨selector, same⟩ := passed_of_ensure made
    cases same
    rw [Bool.or_eq_true] at selector
    refine .switch valueBuilt.wellTyped selector ?_ bodiesTyped
    intro entry member label present
    exact (labelsBuilt entry member label present).wellTyped
  | declare declarationBuilt => exact .declare declarationBuilt.wellTyped

theorem Element.Built.wellTyped {element : Element} (built : element.Built context Ty.Standard) :
    element.WellTyped context := by
  cases built with
  | enum declarationsBuilt =>
    intro declaration member
    exact (declarationsBuilt declaration member).wellTyped
  | function bodyBuilt => exact bodyBuilt.wellTyped
  | global declarationBuilt => exact declarationBuilt.wellTyped
  | interfaceBlock | struct => trivial

end Shading
