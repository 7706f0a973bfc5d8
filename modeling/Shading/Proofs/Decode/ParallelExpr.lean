import Shading.Proofs.Decode.ParallelSymbol

/-!
Expressions of two parallel sessions. Each builder makes alike expressions of alike operands. Only
two of them look at the context: an operator, which may mean something in the wider context only,
and a setting of the target, which both contexts know alike.
-/

namespace Shading.Decode

open Parallel
open Renamable (rename)

variable {parallel : Parallel} {bound : Nat} {nested nested' : Decode (Option Expr)}

theorem arguments_follows
    (follows : parallel.Follows bound nested nested' parallel.Values) :
    parallel.Follows bound (arguments nested) (arguments nested') parallel.Values :=
  .nextThen Read.u8_local fun count => follows.present.timesAlike count.toNat

theorem constructor_follows
    (follows : parallel.Follows bound nested nested' parallel.Values) (flavour : Flavour) :
    parallel.Follows bound (constructor nested flavour) (constructor nested' flavour)
      parallel.Values := by
  apply type_follows.bind
  intro _ le type type' alikeTypes
  apply ((arguments_follows follows).mono le).bind
  intro _ _ values values' alikeValues
  apply Follows.liftAlike
  rw [Alike, ← Expr.rename_constructOf, ← Expr.rename_constructOf, alikeTypes, alikeValues]

/-- An operator that means something in the first context means the same in the wider one. -/
theorem binaryOf_agrees {left left' right right' : Expr}
    (alikeLeft : Alike parallel.first parallel.second left left') (op : Operator)
    (alikeRight : Alike parallel.first parallel.second right right') :
    Agrees parallel.strict (Alike parallel.first parallel.second)
      (Expr.binaryOf parallel.context left op right)
      (Expr.binaryOf parallel.context' left' op right') := by
  have agree (context : Context) :
      Agrees parallel.strict (Alike parallel.first parallel.second)
        (Expr.binaryOf context left op right) (Expr.binaryOf context left' op right') := by
    apply Agrees.of_alike
    rw [Alike, ← Expr.rename_binaryOf, ← Expr.rename_binaryOf, alikeLeft, alikeRight]
  constructor
  -- What was made in the narrow context is first made of the same operands in the wide one.
  · intro expr made
    exact (agree parallel.context').answered expr (Expr.binaryOf_of_widens parallel.widens made)
  · intro strict
    rw [parallel.sameContext strict]
    exact (agree parallel.context).faulted strict

theorem exprRecord_follows
    (follows : parallel.Follows bound nested nested' parallel.Values) (tag : Command) :
    parallel.Follows bound (exprRecord parallel.context nested tag)
      (exprRecord parallel.context' nested' tag) parallel.Values := by
  cases tag with
  | binary =>
    apply follows.present.bind
    intro _ le left left' alikeLeft
    apply Follows.nextThen Read.operator_local
    intro op
    apply (follows.present.mono le).bind
    intro _ _ right right' alikeRight
    exact .lift ((binaryOf_agrees alikeLeft op alikeRight).mono fun _ _ _ alike _ _ => alike)
  | boolLiteral => exact .nextThen Read.bool_local fun value => .pure fun _ _ => rfl
  | constructorArray => exact constructor_follows follows .array
  | constructorCompound => exact constructor_follows follows .compound
  | constructorCompoundCast => exact constructor_follows follows .compoundCast
  | constructorDiagonalMatrix => exact constructor_follows follows .diagonalMatrix
  | constructorMatrixResize => exact constructor_follows follows .matrixResize
  | constructorScalarCast => exact constructor_follows follows .scalarCast
  | constructorSplat => exact constructor_follows follows .splat
  | constructorStruct => exact constructor_follows follows .struct
  | fieldAccess =>
    apply follows.present.bind
    intro _ _ base base' alike
    apply Follows.nextThen Read.u8_local
    intro index
    apply Follows.nextThen Read.memberOwner_local
    intro owner
    apply Follows.liftAlike
    rw [Alike, ← Expr.rename_memberOf, ← Expr.rename_memberOf, alike]
  | floatLiteral =>
    apply type_follows.bind
    intro _ _ type type' alike
    apply Follows.nextThen Read.u32_local
    intro bits
    apply Follows.liftAlike
    rw [Alike, ← Expr.rename_ofDouble, ← Expr.rename_ofDouble, alike]
  | callExpr =>
    apply type_follows.bind
    intro _ le type type' alikeTypes
    apply function_follows.bind
    intro _ above function function' functions
    apply ((arguments_follows follows).mono (Nat.le_trans le above)).bind
    intro _ _ values values' alikeValues
    apply Follows.liftAlike
    rw [Alike, ← Expr.rename_callOf, ← Expr.rename_callOf, alikeTypes, functions.1, alikeValues]
  | indexExpr =>
    apply follows.present.bind
    intro _ le base base' alikeBase
    apply (follows.present.mono le).bind
    intro _ _ position position' alikePosition
    apply Follows.liftAlike
    rw [Alike, ← Expr.rename_indexOf, ← Expr.rename_indexOf, alikeBase, alikePosition]
  | intLiteral =>
    apply type_follows.bind
    intro _ _ type type' alike
    apply Follows.nextThen Read.s32_local
    intro value
    apply Follows.liftAlike
    rw [Alike, ← Expr.rename_ofInt, ← Expr.rename_ofInt, alike]
  | postfixExpr =>
    apply Follows.nextThen Read.operator_local
    intro op
    apply follows.present.bind
    intro _ _ operand operand' alike
    apply Follows.liftAlike
    rw [Alike, ← Expr.rename_postfixedOf, ← Expr.rename_postfixedOf, alike]
  | prefixExpr =>
    apply Follows.nextThen Read.operator_local
    intro op
    apply follows.present.bind
    intro _ _ operand operand' alike
    apply Follows.liftAlike
    rw [Alike, ← Expr.rename_prefixedOf, ← Expr.rename_prefixedOf, alike]
  | setting =>
    apply Follows.nextThen Read.string_local
    intro name
    rw [Expr.ofSetting_of_widens parallel.widens]
    refine .pure fun _ _ => ?_
    rw [Values, Alike, Expr.rename_ofSetting, Expr.rename_ofSetting]
  | swizzle =>
    apply follows.present.bind
    intro _ _ base base' alike
    apply Follows.nextThen Read.u8_local
    intro count
    apply (Follows.next Read.lane_local).timesSame count.toNat |>.bind
    intro _ _ lanes lanes' same
    apply Follows.liftAlike
    rw [Alike, same, ← Expr.rename_swizzleOf, ← Expr.rename_swizzleOf, alike]
  | ternary =>
    apply follows.present.bind
    intro _ le test test' alikeTest
    apply (follows.present.mono le).bind
    intro _ above whenTrue whenTrue' alikeTrue
    apply (follows.present.mono (Nat.le_trans le above)).bind
    intro _ _ whenFalse whenFalse' alikeFalse
    apply Follows.liftAlike
    rw [Alike, ← Expr.rename_ternaryOf, ← Expr.rename_ternaryOf, alikeTest, alikeTrue, alikeFalse]
  | varReference =>
    apply targetVariable_follows.bind
    intro _ _ target target' targets
    apply Follows.nextThen Read.refKind_local
    intro use
    refine .pure fun _ _ => ?_
    rw [Values, Alike, ← Expr.rename_ofVariable, ← Expr.rename_ofVariable, targets.1]
  | _ => exact .throw _

theorem expr_follows :
    parallel.Follows bound (expr parallel.context) (expr parallel.context') parallel.Values := by
  apply Follows.nested rfl rfl
  intro depth depth' follows
  apply Follows.nextThen Read.command_local
  intro tag
  have record := (exprRecord_follows follows tag).given?
  cases tag with
  | absent => exact .pure fun _ _ => rfl
  | _ => exact record

end Shading.Decode
