import Shading.Proofs.Decode.ParallelExpr

/-!
Statements of two parallel sessions. A table that a statement opens is active in both of them while
the statements within are decoded.
-/

namespace Shading.Decode

open Parallel
open Renamable (rename)

variable {parallel : Parallel} {bound : Nat} {nested nested' : Decode (Option Stmt)}

/-- A variable is declared in both sessions, or has an initial value in both of them already. -/
theorem declare_follows {target target' : Variable}
    (targets : parallel.Variables bound target target') {baseType baseType' : Ty}
    (alikeTypes : Alike parallel.first parallel.second baseType baseType') (arraySize : Int32)
    {value? value?' : Option Expr}
    (alikeValues : Alike parallel.first parallel.second value? value?') :
    parallel.Follows bound
      (do
        let (declaration, store) ←
          Declaration.make (← get).store target baseType arraySize value?
        changeStore fun _ => store
        return declaration)
      (do
        let (declaration, store) ←
          Declaration.make (← get).store target' baseType' arraySize value?'
        changeStore fun _ => store
        return declaration)
      parallel.Values := by
  have alike : Alike parallel.first parallel.second
      { target, baseType, arraySize, value? : Declaration }
      { target := target', baseType := baseType', arraySize, value? := value?' } := by
    show Declaration.mk (rename _ target) (rename _ baseType) arraySize (rename _ value?) =
      .mk (rename _ target') (rename _ baseType') arraySize (rename _ value?')
    rw [targets.1, alikeTypes, alikeValues]
  refine Follows.exchange (Declaration.make · target baseType arraySize value?)
    (Declaration.make · target' baseType' arraySize value?') ?_
  intro decoder decoder' le related
  cases value? with
  | none =>
    cases value?' with
    | none => exact .ok ⟨alike, Nat.le_refl _, related⟩
    | some value' => cases alikeValues
  | some value =>
    cases value?' with
    | none => cases alikeValues
    | some value' =>
      have drawn := parallel.drawn_mono le targets.2
      have attached := parallel.attach related targets.1 drawn (Option.some.inj alikeValues)
      refine attached.returned fun store store' still => ?_
      exact ⟨alike, Nat.le_of_eq still.1.symm, still.2⟩

theorem declaration_follows :
    parallel.Follows bound (declaration parallel.context) (declaration parallel.context')
      parallel.Values := by
  apply targetVariable_follows.bind
  intro _ _ target target' targets
  apply type_follows.bind
  intro _ le baseType baseType' alikeTypes
  apply Follows.nextThen Read.s8_local
  intro arraySize
  apply expr_follows.bind
  intro _ above value? value?' alikeValues
  have drawn := parallel.drawn_mono (Nat.le_trans le above) targets.2
  exact declare_follows ⟨targets.1, drawn⟩ alikeTypes arraySize.toInt32 alikeValues

theorem switchCase_follows
    (follows : parallel.Follows bound nested nested' parallel.Values) :
    parallel.Follows bound (switchCase parallel.context nested)
      (switchCase parallel.context' nested') parallel.Values := by
  apply expr_follows.bind
  intro _ le value? value?' alikeValues
  apply (follows.present.mono le).bind
  intro _ _ body body' alikeBodies
  refine .pure fun _ _ => ?_
  show CaseOf.mk (rename _ value?) (rename _ body) = .mk (rename _ value?') (rename _ body')
  rw [alikeValues, alikeBodies]

theorem stmtRecord_follows
    (follows : parallel.Follows bound nested nested' parallel.Values) (tag : Command) :
    parallel.Follows bound (stmtRecord parallel.context nested tag)
      (stmtRecord parallel.context' nested' tag) parallel.Values := by
  cases tag with
  | blockStmt =>
    apply (table_follows true).bind
    intro _ le table? table?' tables
    apply Follows.within tables.1
    apply Follows.nextThen Read.u8_local
    intro count
    apply ((follows.present.timesAlike count.toNat).mono le).bind
    intro _ _ statements statements' alike
    apply Follows.nextThen Read.bool_local
    intro braces
    refine .pure fun _ _ => ?_
    rw [Values, Alike, Stmt.rename_block, Stmt.rename_block, alike, tables.1]
  | breakStmt => exact .pure fun _ _ => rfl
  | continueStmt => exact .pure fun _ _ => rfl
  | discardStmt => exact .pure fun _ _ => rfl
  | doStmt =>
    apply follows.present.bind
    intro _ _ body body' alikeBodies
    apply expr_follows.present.bind
    intro _ _ test test' alikeTests
    apply Follows.liftAlike
    rw [Alike, ← Stmt.rename_doLoopOf, ← Stmt.rename_doLoopOf, alikeBodies, alikeTests]
  | exprStmt =>
    apply expr_follows.present.bind
    intro _ _ value value' alike
    exact .pure fun _ _ => congrArg Stmt.evaluate alike
  | forStmt =>
    apply follows.bind
    intro _ le initializer initializer' alikeInitializers
    apply expr_follows.bind
    intro _ above test test' alikeTests
    apply expr_follows.bind
    intro _ higher step step' alikeSteps
    apply (follows.present.mono (Nat.le_trans le (Nat.le_trans above higher))).bind
    intro _ _ body body' alikeBodies
    apply (table_follows true).bind
    intro _ _ table? table?' tables
    apply Follows.liftAlike
    rw [Alike, ← Stmt.rename_forLoopOf, ← Stmt.rename_forLoopOf, alikeInitializers, alikeTests,
      alikeSteps, alikeBodies, tables.1]
  | ifStmt =>
    apply Follows.nextThen Read.bool_local
    intro isStatic
    apply expr_follows.present.bind
    intro _ le test test' alikeTests
    apply (follows.present.mono le).bind
    intro _ above whenTrue whenTrue' alikeTrue
    apply (follows.mono (Nat.le_trans le above)).bind
    intro _ _ whenFalse whenFalse' alikeFalse
    apply Follows.liftAlike
    rw [Alike, ← Stmt.rename_ifElseOf, ← Stmt.rename_ifElseOf, alikeTests, alikeTrue, alikeFalse]
  | inlineMarker =>
    apply function_follows.bind
    intro _ _ function function' functions
    exact .pure fun _ _ => congrArg Stmt.inlined functions.1
  | returnStmt =>
    apply expr_follows.bind
    intro _ _ value? value?' alike
    exact .pure fun _ _ => congrArg Stmt.returnValue alike
  | switchStmt =>
    apply Follows.nextThen Read.bool_local
    intro isStatic
    apply (table_follows true).bind
    intro _ le table? table?' tables
    apply Follows.within tables.1
    apply expr_follows.present.bind
    intro _ above value value' alikeValues
    have entries := (switchCase_follows follows).timesAlike
    apply Follows.nextThen Read.u8_local
    intro count
    apply ((entries count.toNat).mono (Nat.le_trans le above)).bind
    intro _ _ cases cases' alikeCases
    apply Follows.liftAlike
    rw [Alike, ← Stmt.rename_switchOf, ← Stmt.rename_switchOf, alikeValues, alikeCases, tables.1]
  | declaration =>
    apply declaration_follows.bind
    intro _ _ declaration declaration' alike
    exact .pure fun _ _ => congrArg Stmt.declare alike
  | _ => exact .throw _

theorem stmt_follows :
    parallel.Follows bound (stmt parallel.context) (stmt parallel.context') parallel.Values := by
  apply Follows.nested rfl rfl
  intro depth depth' follows
  apply Follows.nextThen Read.command_local
  intro tag
  have record := (stmtRecord_follows follows tag).given?
  cases tag with
  | absent => exact .pure fun _ _ => rfl
  | _ => exact record

end Shading.Decode
