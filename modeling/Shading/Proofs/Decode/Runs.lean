import Shading.Decode.Element
import Shading.Proofs.Stepping

/-!
Decoders that gave an answer, opened up: what the steps in them gave. Each lemma undoes one way of
putting decoders together.
-/

namespace Shading

/-! ## Symbols that were made -/

theorem BlockMember.id_of_ofIndex {id index : Nat} {owner : Variable} {field : BlockMember}
    (made : ofIndex id .nowhere owner index = .ok field) : field.id = id := by
  rw [ofIndex] at made
  split at made
  · cases made
    rfl
  · cases made

theorem OverloadSet.id_of_ofFunctions {id : Nat} {functions : List Function} {set : OverloadSet}
    (made : ofFunctions id functions = .ok set) : set.id = id := by
  cases functions with
  | nil => cases made
  | cons first others =>
    cases made
    rfl

/-! ## Steps that were run -/

namespace Decode

open Stepping

variable {α : Type} {before after : Decoder} {value : α}

theorem next_cases {read : Read α} {outcome : Except Fault α}
    (ran : next read before = (outcome, after)) :
    ∃ reader, read before.reader = (outcome, reader) ∧ after = { before with reader } := by
  have same : (read before.reader).1 = outcome := congrArg Prod.fst ran
  exact ⟨(read before.reader).2, Prod.ext same rfl, (congrArg Prod.snd ran).symm⟩

theorem withActive_run {table : TableId} {step : Decode α}
    (ran : withActive table step before = (.ok value, after)) :
    ∃ inner, step { before with active := table } = (.ok value, inner) ∧
      after = { inner with active := before.active } := by
  have same : (step { before with active := table }).1 = .ok value := congrArg Prod.fst ran
  exact ⟨_, Prod.ext same rfl, (congrArg Prod.snd ran).symm⟩

theorem discard_run {step : Decode α}
    (ran : discard step before = (.ok (), after)) : ∃ value, step before = (.ok value, after) := by
  have mapped : ((Function.const α PUnit.unit) <$> step) before = (.ok (), after) := ran
  rw [map_apply] at mapped
  cases stepped : step before with
  | mk outcome last =>
    rw [stepped] at mapped
    cases outcome with
    | error fault => cases mapped
    | ok value =>
      cases mapped
      exact ⟨value, rfl⟩

theorem exchange_run (make : Store → Except Fault (α × Store))
    (ran : (do
      let (value, store) ← make (← get).store
      changeStore fun _ => store
      return value : Decode α) before = (.ok value, after)) :
    ∃ store, make before.store = .ok (value, store) ∧ after = { before with store } := by
  rw [bind_ok (get_apply before), bind_apply, lift_apply] at ran
  cases made : make before.store with
  | error fault =>
    rw [made] at ran
    cases ran
  | ok result =>
    rw [made] at ran
    cases ran
    exact ⟨_, rfl, rfl⟩

theorem holding_run {element : Element} {step : Decode α}
    (ran : holding element step before = (.ok value, after)) :
    step before = (.ok value, after) := by
  rw [holding] at ran
  split at ran
  · rename_i stepped
    rw [stepped, ran]
  · cases ran

end Decode

end Shading
