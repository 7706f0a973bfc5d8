import Shading.Proofs.Decode.Symbol

/-!
The accounts of symbol tables and of the stretches in which a decoded table is active.
-/

namespace Shading.Decode

open Stepping

variable {origin : Origin} {bound : Nat} {α : Type}

theorem openTable_accounts (inherit : Bool) :
    Accounts origin .node bound anywhere (openTable inherit)
      fun id after => origin.tables ≤ id ∧ id < after.store.tables.size := by
  intro decoder ready _
  rw [openTable, bind_ok (get_apply decoder)]
  refine .value (.change (.openTable _)) ⟨ready.sound.tables_le, ?_⟩
  show decoder.store.tables.size < (decoder.store.newTable _ true).2.tables.size
  rw [Store.size_newTable]
  exact Nat.lt_succ_self _

/-- What references need: the table is there, and its decoded symbols are known. -/
def Referable (origin : Origin) (table : TableId) (decoded : List Symbol) (decoder : Decoder) :
    Prop :=
  table < decoder.store.tables.size ∧ ∀ symbol ∈ decoded, origin.Knows decoder.store symbol

theorem stable_referable (table : TableId) (decoded : List Symbol) :
    Stable origin (Referable origin table decoded) :=
  (stable_inside table).and (.all decoded stable_knows)

theorem bindReference_accounts {table : TableId} (recent : origin.tables ≤ table)
    (decoded : List Symbol) :
    Accounts origin .node bound (Referable origin table decoded) (bindReference table decoded)
      fun _ _ => True := by
  apply (Accounts.nextKeeps Read.u16_forward (stable_referable table decoded)).bind
  intro index decoder ready referable
  cases found : decoded[index.toNat]? with
  | none => exact .fault (.nothing _ decoder) rfl
  | some symbol =>
    have known := referable.2 symbol (List.mem_of_getElem? found)
    exact .value (.change (.bind recent referable.1 known)) trivial

/-- The symbols of a table and its references, while the table is active. -/
theorem tableContent_accounts {table : TableId} (recent : origin.tables ≤ table) (count : Nat) :
    Accounts origin .node bound (fun decoder => table < decoder.store.tables.size)
      (do
        let decoded ← times count symbol
        let references ← next .u16
        discard <| times references.toNat (bindReference table decoded))
      fun _ _ => True := by
  have symbols : Accounts origin .node bound anywhere (times count symbol)
      fun decoded after => ∀ symbol ∈ decoded, origin.Knows after.store symbol :=
    symbol_consumes.accounts.times (stable_pure True) stable_knows count
  have decoding : Accounts origin .node bound (fun decoder => table < decoder.store.tables.size)
      (times count symbol) fun decoded after => Referable origin table decoded after :=
    ((symbols.keep (stable_inside table)).before fun _ inside => ⟨trivial, inside⟩).after
      fun _ _ holds => ⟨holds.2, holds.1⟩
  apply decoding.bind
  intro decoded
  apply (Accounts.nextKeeps Read.u16_forward (stable_referable table decoded)).bind
  intro references
  have reference : Accounts origin .node bound (Referable origin table decoded)
      (bindReference table decoded) fun _ _ => True := bindReference_accounts recent decoded
  exact (reference.times (stable_referable table decoded) (fun _ => stable_pure True)
    references.toNat).discard

/-- A decoded table is newer than the origin. -/
theorem table_consumes (inherit : Bool) :
    Consumes origin .node bound (table inherit) fun table? after =>
      ∀ id ∈ table?, origin.tables ≤ id ∧ id < after.store.tables.size := by
  apply Consumes.shallower
  apply Consumes.tagged
  intro tag
  cases tag with
  | absent => exact .pure fun _ _ => nofun
  | symbolTable =>
    apply Accounts.nextThen Read.u16_forward
    intro count
    apply (openTable_accounts inherit).bind
    intro id
    apply Accounts.givenAnd
    intro recent
    apply ((tableContent_accounts recent count.toNat).withActive recent).bind
    intro _
    apply Accounts.pure
    intro decoder opened other same
    cases same
    exact ⟨recent, opened.2⟩
  | _ => exact .throw rfl

/-- A stretch with a table active, if there is one. -/
theorem within_accounts {table? : Option TableId} {step : Decode α} {fact : α → Prop}
    (account : Accounts origin .node bound anywhere step fun value _ => fact value) :
    Accounts origin .node bound
      (fun decoder => ∀ id ∈ table?, origin.tables ≤ id ∧ id < decoder.store.tables.size)
      (within table? step) fun value _ => fact value := by
  cases table? with
  | none => exact account.fromAnywhere
  | some id =>
    have here : Accounts origin .node bound (fun decoder => origin.tables ≤ id ∧
        id < decoder.store.tables.size) (withActive id step) fun value _ => fact value :=
      .givenAnd fun recent =>
        (account.fromAnywhere.withActive recent).after fun _ _ holds => holds.1
    exact here.before fun _ opened => opened id rfl

end Shading.Decode
