import Shading.Proofs.Decode.Expr

/-!
The accounts of statements. Every decoded statement is one that the builders made, and a declared
variable that gets its initial value is newer than the origin.
-/

namespace Shading.Decode

open Stepping

variable {origin : Origin} {bound : Nat} {context : Context} {nested : Decode (Option Stmt)}

/-- What a declaration does: nothing without a value, and else it attaches the value. -/
theorem make_cases {store after : Store} {target : Variable} {baseType : Ty} {arraySize : Int32}
    {value? : Option Expr} {declaration : Declaration}
    (made : Declaration.make store target baseType arraySize value? = .ok (declaration, after)) :
    declaration.value? = value? ∧
      (after = store ∨ ∃ value, store.attachInitial target value = .ok after) := by
  cases value? with
  | none =>
    cases made
    exact ⟨rfl, Or.inl rfl⟩
  | some value =>
    obtain ⟨larger, attached, same⟩ := exists_of_bind_ok made
    cases same
    exact ⟨rfl, Or.inr ⟨value, attached⟩⟩

theorem make_of_vacant {store : Store} {target : Variable}
    (vacant : store.initials.lookup target.id = none) (baseType : Ty) (arraySize : Int32)
    (value : Expr) :
    ∃ made, Declaration.make store target baseType arraySize (some value) = .ok made := by
  rw [Declaration.make, Store.attachInitial_of_vacant vacant]
  exact ⟨_, rfl⟩

/-- A variable that is newer than the origin is declared. -/
theorem declare_accounts {target : Variable} (recent : origin.ids ≤ target.id) (baseType : Ty)
    (arraySize : Int32) {value? : Option Expr}
    (built : ∀ value ∈ value?, value.Built context origin.types) :
    Accounts origin .node bound anywhere
      (do
        let (declaration, store) ←
          Declaration.make (← get).store target baseType arraySize value?
        changeStore fun _ => store
        return declaration)
      fun declaration _ => declaration.Built context origin.types := by
  refine .exchange (Declaration.make_proper · target baseType arraySize value?) ?_
  intro decoder declaration store made
  obtain ⟨same, changed⟩ := make_cases made
  constructor
  · rw [Declaration.Built, same]
    exact built
  · rcases changed with unchanged | ⟨value, attached⟩
    · subst unchanged
      exact .nothing _ decoder
    · exact .change (.attach recent attached)

theorem declaration_accounts (context : Context) :
    Accounts origin .node bound anywhere (declaration context)
      fun declaration _ => declaration.Built context origin.types := by
  apply targetVariable_accounts.thenKnown
  intro target recent
  apply type_consumes.accounts.thenKnown
  intro baseType _
  apply Accounts.nextThen Read.s8_forward
  intro arraySize
  apply (expr_consumes context).accounts.thenKnown
  intro value? built
  exact declare_accounts recent baseType arraySize.toInt32 built

/-- A case of a switch of which every part is built. -/
def CaseBuilt (context : Context) (types : Ty → Prop) (entry : SwitchCase) : Prop :=
  (∀ label ∈ entry.value?, label.Built context types) ∧ entry.body.Built context types

theorem switchCase_accounts
    (account : Accounts origin .node bound anywhere nested
      fun statement? _ => ∀ statement ∈ statement?, statement.Built context origin.types) :
    Accounts origin .node bound anywhere (switchCase context nested)
      fun entry _ => CaseBuilt context origin.types entry := by
  apply (expr_consumes context).accounts.thenKnown
  intro value? valueBuilt
  apply account.present.thenKnown
  intro body bodyBuilt
  exact .pure fun _ _ => ⟨valueBuilt, bodyBuilt⟩

theorem stmtRecord_accounts
    (account : Accounts origin .node bound anywhere nested
      fun statement? _ => ∀ statement ∈ statement?, statement.Built context origin.types)
    (tag : Command) :
    Accounts origin .node bound anywhere (stmtRecord context nested tag)
      fun statement _ => statement.Built context origin.types := by
  cases tag with
  | blockStmt =>
    apply (table_consumes true).accounts.bind
    intro table?
    apply within_accounts
    apply Accounts.nextThen Read.u8_forward
    intro count
    apply (account.present.timesKnown count.toNat).thenKnown
    intro statements built
    apply Accounts.nextThen Read.bool_forward
    intro braces
    exact .pure fun _ _ => .block built
  | breakStmt => exact .pure fun _ _ => .breakLoop
  | continueStmt => exact .pure fun _ _ => .continueLoop
  | discardStmt => exact .pure fun _ _ => .discard
  | doStmt =>
    apply account.present.thenKnown
    intro body bodyBuilt
    apply (expr_consumes context).accounts.present.thenKnown
    intro test testBuilt
    apply Accounts.lift (Stmt.doLoopOf_proper body test)
    intro statement made _ _
    exact .doLoopOf bodyBuilt testBuilt made
  | exprStmt =>
    apply (expr_consumes context).accounts.present.thenKnown
    intro value built
    exact .pure fun _ _ => .evaluate built
  | forStmt =>
    apply account.thenKnown
    intro initializer initializerBuilt
    apply (expr_consumes context).accounts.thenKnown
    intro test testBuilt
    apply (expr_consumes context).accounts.thenKnown
    intro step stepBuilt
    apply account.present.thenKnown
    intro body bodyBuilt
    apply (table_consumes true).accounts.bind
    intro table?
    apply Accounts.lift (Stmt.forLoopOf_proper initializer test step body table?)
    intro statement made _ _
    exact .forLoopOf initializerBuilt testBuilt stepBuilt bodyBuilt made
  | ifStmt =>
    apply Accounts.nextThen Read.bool_forward
    intro isStatic
    apply (expr_consumes context).accounts.present.thenKnown
    intro test testBuilt
    apply account.present.thenKnown
    intro whenTrue trueBuilt
    apply account.thenKnown
    intro whenFalse falseBuilt
    apply Accounts.lift (Stmt.ifElseOf_proper isStatic test whenTrue whenFalse)
    intro statement made _ _
    exact .ifElseOf testBuilt trueBuilt falseBuilt made
  | inlineMarker =>
    apply function_accounts.thenKnown
    intro function _
    exact .pure fun _ _ => .inlined function
  | returnStmt =>
    apply (expr_consumes context).accounts.thenKnown
    intro value? built
    exact .pure fun _ _ => .returnValue built
  | switchStmt =>
    apply Accounts.nextThen Read.bool_forward
    intro isStatic
    apply (table_consumes true).accounts.bind
    intro table?
    apply within_accounts
    apply (expr_consumes context).accounts.present.thenKnown
    intro value valueBuilt
    apply Accounts.nextThen Read.u8_forward
    intro count
    apply ((switchCase_accounts account).timesKnown count.toNat).thenKnown
    intro cases built
    apply Accounts.lift (Stmt.switchOf_proper isStatic value cases table?)
    intro statement made _ _
    exact .switchOf valueBuilt (fun entry member => (built entry member).1)
      (fun entry member => (built entry member).2) made
  | declaration =>
    apply (declaration_accounts context).thenKnown
    intro declaration built
    exact .pure fun _ _ => .declare built
  | _ => exact .throw rfl

theorem stmtWithin_consumes (context : Context) (depth : Nat) :
    Consumes origin .node depth (stmtWithin context depth)
      fun statement? _ => ∀ statement ∈ statement?, statement.Built context origin.types := by
  induction depth with
  | zero => exact fun _ => .noRoom
  | succ depth inductionHypothesis =>
    apply Consumes.tagged
    intro tag
    split
    · exact .pure fun _ _ => nofun
    · exact (stmtRecord_accounts inductionHypothesis.accounts tag).given?

theorem stmt_consumes (context : Context) :
    Consumes origin .node bound (stmt context)
      fun statement? _ => ∀ statement ∈ statement?, statement.Built context origin.types :=
  .nested (stmtWithin_consumes context)

end Shading.Decode
