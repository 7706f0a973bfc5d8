import Shading.Proofs.Decode.Table
import Shading.Proofs.Expr.Built

/-!
The accounts of expressions. Every decoded expression is one that the builders made.
-/

namespace Shading.Decode

variable {origin : Origin} {bound : Nat} {context : Context} {nested : Decode (Option Expr)}

theorem arguments_accounts
    (account : Accounts origin .node bound anywhere nested
      fun expr? _ => ∀ expr ∈ expr?, expr.Built context origin.types) :
    Accounts origin .node bound anywhere (arguments nested)
      fun values _ => ∀ value ∈ values, value.Built context origin.types :=
  .nextThen Read.u8_forward fun count => account.present.timesKnown count.toNat

theorem constructor_accounts
    (account : Accounts origin .node bound anywhere nested
      fun expr? _ => ∀ expr ∈ expr?, expr.Built context origin.types) (flavour : Flavour) :
    Accounts origin .node bound anywhere (constructor nested flavour)
      fun expr _ => expr.Built context origin.types := by
  apply type_consumes.accounts.thenKnown
  intro type known
  apply (arguments_accounts account).thenKnown
  intro values built
  apply Accounts.lift (Expr.constructOf_proper _ flavour type values)
  intro expr made _ _
  exact .constructOf known built made

theorem exprRecord_accounts
    (account : Accounts origin .node bound anywhere nested
      fun expr? _ => ∀ expr ∈ expr?, expr.Built context origin.types) (tag : Command) :
    Accounts origin .node bound anywhere (exprRecord context nested tag)
      fun expr _ => expr.Built context origin.types := by
  cases tag with
  | binary =>
    apply account.present.thenKnown
    intro left leftBuilt
    apply Accounts.nextThen Read.operator_forward
    intro op
    apply account.present.thenKnown
    intro right rightBuilt
    apply Accounts.lift (Expr.binaryOf_proper context left op right)
    intro expr made _ _
    exact .binaryOf leftBuilt rightBuilt made
  | boolLiteral => exact .nextThen Read.bool_forward fun value => .pure fun _ _ => .ofBool _ value
  | constructorArray => exact constructor_accounts account .array
  | constructorCompound => exact constructor_accounts account .compound
  | constructorCompoundCast => exact constructor_accounts account .compoundCast
  | constructorDiagonalMatrix => exact constructor_accounts account .diagonalMatrix
  | constructorMatrixResize => exact constructor_accounts account .matrixResize
  | constructorScalarCast => exact constructor_accounts account .scalarCast
  | constructorSplat => exact constructor_accounts account .splat
  | constructorStruct => exact constructor_accounts account .struct
  | fieldAccess =>
    apply account.present.thenKnown
    intro base baseBuilt
    apply Accounts.nextThen Read.u8_forward
    intro index
    apply Accounts.nextThen Read.memberOwner_forward
    intro owner
    apply Accounts.lift (Expr.memberOf_proper base index.toNat owner)
    intro expr made _ _
    exact .memberOf baseBuilt made
  | floatLiteral =>
    apply type_consumes.accounts.thenKnown
    intro type known
    apply Accounts.nextThen Read.u32_forward
    intro bits
    apply Accounts.lift (Expr.ofDouble_proper _ (.ofSingleBits bits) type)
    intro expr made _ _
    exact .ofDouble known made
  | callExpr =>
    apply type_consumes.accounts.thenKnown
    intro type known
    apply function_accounts.thenKnown
    intro function _
    apply (arguments_accounts account).thenKnown
    intro values built
    apply Accounts.lift (Expr.callOf_proper _ type function values)
    intro expr made _ _
    exact .callOf known built made
  | indexExpr =>
    apply account.present.thenKnown
    intro base baseBuilt
    apply account.present.thenKnown
    intro position positionBuilt
    apply Accounts.lift (Expr.indexOf_proper base position)
    intro expr made _ _
    exact .indexOf baseBuilt positionBuilt made
  | intLiteral =>
    apply type_consumes.accounts.thenKnown
    intro type known
    apply Accounts.nextThen Read.s32_forward
    intro value
    apply Accounts.lift (Expr.ofInt_proper _ value.toInt64 type)
    intro expr made _ _
    exact .ofInt known made
  | postfixExpr =>
    apply Accounts.nextThen Read.operator_forward
    intro op
    apply account.present.thenKnown
    intro operand operandBuilt
    apply Accounts.lift (Expr.postfixedOf_proper operand op)
    intro expr made _ _
    exact .postfixedOf operandBuilt made
  | prefixExpr =>
    apply Accounts.nextThen Read.operator_forward
    intro op
    apply account.present.thenKnown
    intro operand operandBuilt
    apply Accounts.lift (Expr.prefixedOf_proper op operand)
    intro expr made _ _
    exact .prefixedOf operandBuilt made
  | setting =>
    exact .nextThen Read.string_forward fun name => .pure fun _ _ => .ofSetting _ name
  | swizzle =>
    apply account.present.thenKnown
    intro base baseBuilt
    apply Accounts.nextThen Read.u8_forward
    intro count
    have lane : Accounts origin .node bound anywhere (next lane) fun _ _ => True :=
      .next Read.lane_forward
    apply (lane.timesKnown count.toNat).thenKnown
    intro lanes _
    apply Accounts.lift (Expr.swizzleOf_proper base lanes)
    intro expr made _ _
    exact .swizzleOf baseBuilt made
  | ternary =>
    apply account.present.thenKnown
    intro test testBuilt
    apply account.present.thenKnown
    intro whenTrue trueBuilt
    apply account.present.thenKnown
    intro whenFalse falseBuilt
    apply Accounts.lift (Expr.ternaryOf_proper test whenTrue whenFalse)
    intro expr made _ _
    exact .ternaryOf testBuilt trueBuilt falseBuilt made
  | varReference =>
    apply targetVariable_accounts.thenKnown
    intro target _
    apply Accounts.nextThen Read.refKind_forward
    intro use
    exact .pure fun _ _ => .ofVariable _ target use
  | _ => exact .throw rfl

theorem exprWithin_consumes (context : Context) (depth : Nat) :
    Consumes origin .node depth (exprWithin context depth)
      fun expr? _ => ∀ expr ∈ expr?, expr.Built context origin.types := by
  induction depth with
  | zero => exact fun _ => .noRoom
  | succ depth inductionHypothesis =>
    apply Consumes.tagged
    intro tag
    split
    · exact .pure fun _ _ => nofun
    · exact (exprRecord_accounts inductionHypothesis.accounts tag).given?

theorem expr_consumes (context : Context) :
    Consumes origin .node bound (expr context)
      fun expr? _ => ∀ expr ∈ expr?, expr.Built context origin.types :=
  .nested (exprWithin_consumes context)

end Shading.Decode
