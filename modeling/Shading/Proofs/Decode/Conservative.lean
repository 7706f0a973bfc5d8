import Shading.Proofs.Decode.Creation

/-!
Decoding is a conservative extension of the tables it starts from, also where it faults. Whatever a
blob holds and whatever a session is asked for, a call puts the active table back, touches no other
table that was there before, and adds to that one at its end only. Main statement:
`Decoder.call_conserves`.
-/

namespace Shading

/-- The tables that a session finds can stand in for those that its origin found. -/
theorem Decoder.Sound.withTables {store : Store} {tables : Nat} {decoder : Decoder}
    (sound : decoder.Sound (.ofStore store tables)) :
    decoder.Sound (.ofStore store decoder.store.tables.size) where
  inside := sound.inside
  active_lt := sound.active_lt
  ids_le := sound.ids_le
  tables_le := Nat.le_refl _
  registered id symbol found := by
    have known := sound.registered id symbol found
    exact ⟨known.housed, known.typed⟩
  bound table name type found := by
    have known := sound.bound table name type found
    exact ⟨known.housed, known.typed⟩
  recent table young symbol member := by
    rw [Store.owned_of_size_le decoder.store table young] at member
    cases member

/-- A symbol has its place: it is newer than the start of the session and some table owns it, or it
is a type that a name stood for at the start. -/
def Symbol.Housed (start now : Store) (symbol : Symbol) : Prop :=
  (start.nextId ≤ symbol.id ∧ ∃ table, symbol ∈ now.owned table) ∨
    ∃ type table name, symbol = .type type ∧ start.findLocal? table name = some symbol

theorem Origin.Knows.toHoused {start now : Store} {tables : Nat} {symbol : Symbol}
    (known : (Origin.ofStore start tables).Knows now symbol) : symbol.Housed start now := by
  rcases known.housed with owned | ⟨type, isType, table, name, bound⟩
  · exact Or.inl owned
  · refine Or.inr ⟨type, table, name, isType, ?_⟩
    rw [isType]
    exact bound

/-- What a call leaves as it was, in a session that started from a store. -/
structure Decoder.Conserves (start : Store) (before after : Decoder) : Prop where
  active_eq : after.active = before.active
  /-- No table but the active one changes, of those that were there. -/
  unchanged : ∀ table < before.store.tables.size, table ≠ before.active →
    after.store.tables[table]? = before.store.tables[table]?
  header_eq : after.store.header? before.active = before.store.header? before.active
  owned_prefix : before.store.owned before.active <+: after.store.owned before.active
  binding_kept : ∀ name symbol, before.store.findLocal? before.active name = some symbol →
    after.store.findLocal? before.active name = some symbol
  registered_housed : ∀ (id : Nat) (symbol : Symbol), after.registry[id]?.join = some symbol →
    symbol.Housed start after.store
  /-- No older variable got an initial value, and no older function a definition. -/
  initial_eq : ∀ target : Variable, target.id < start.nextId →
    after.store.initial? target = start.initial? target
  definition_eq : ∀ function : Function, function.id < start.nextId →
    (after.store.definitions.lookup function.id).map DefinitionLink.definition =
      (start.definitions.lookup function.id).map DefinitionLink.definition

/-- What a call does with the symbols that it creates. There is one list of them, each with the
table that was active at the tag of its record; all traces of the run agree on it. -/
structure Decoder.CreatesOnce (context : Context) (before : Decoder) (call : Call) : Prop where
  traced : ∃ created, Decode.Creates none (call.run context) before created
  unique : ∀ created other, Decode.Creates none (call.run context) before created →
    Decode.Creates none (call.run context) before other → created = other
  /-- Each of these symbols is new and was added once, to the end of what that table owns. No table
  came to own another symbol. -/
  takes : ∀ created, Decode.Creates none (call.run context) before created →
    before.store.Takes created (before.afterCall context call).store

namespace Decoder

variable {store : Store} {active : TableId} {bytes : Array UInt8} {decoder : Decoder}

theorem createsOnce_of_lt {before : Decoder} (inside : before.active < before.store.tables.size)
    (context : Context) (call : Call) : before.CreatesOnce context call := by
  have takes : ∀ created, Decode.Creates none (call.run context) before created →
      before.store.Takes created (before.afterCall context call).store :=
    fun created creates => (creates.takes inside nofun).2
  exact
    { traced := Decode.call_creates context call before
      unique := fun created other creates createsOther =>
        (takes created creates).created_unique (takes other createsOther)
      takes }

/-- After any calls, every further call is conservative, with or without an answer. Every symbol
that it creates goes once to one table, the one that is active when its record is decoded, and a
symbol that it answers with has its place. -/
theorem call_conserves (started : start store active bytes = .ok (.ok decoder))
    (context : Context) (calls : List Call) (call : Call) :
    Conserves store (decoder.afterCalls context calls)
        ((decoder.afterCalls context calls).afterCall context call) ∧
      (decoder.afterCalls context calls).CreatesOnce context call ∧
      ∀ symbol, (Decode.symbol (decoder.afterCalls context calls)).1 = .ok symbol →
        symbol.Housed store (Decode.symbol (decoder.afterCalls context calls)).2.store := by
  let origin := Origin.ofStore store store.tables.size
  have sound : decoder.Sound origin := (Origin.ofStore_starts store).sound started
  have same : decoder.store = store := by
    obtain ⟨_, reader, _, equal⟩ := start_cases started
    rw [equal]
  obtain ⟨earlier, histories⟩ := sound.histories context calls
  have whole := histories.sound_extended sound
  generalize decoder.afterCalls context calls = before at histories whole ⊢
  -- Within the call, the tables made by earlier calls count as old too.
  have reached : before.Sound (.ofStore store before.store.tables.size) := whole.1.withTables
  obtain ⟨events, history⟩ := reached.history context call
  have laws := history.sound_extended reached
  have grows := laws.2.store
  have inside := reached.active_lt
  refine ⟨?_, createsOnce_of_lt inside context call, ?_⟩
  · refine
      { active_eq := laws.2.active_eq
        unchanged := grows.unchanged
        header_eq := grows.header_eq before.active inside
        owned_prefix := ⟨_, (grows.owned_eq before.active).symm⟩
        binding_kept := grows.binding_kept before.active inside
        registered_housed := ?_
        initial_eq := ?_
        definition_eq := ?_ }
    · intro id symbol found
      exact (laws.1.registered id symbol found).toHoused
    · intro target old
      have first := whole.2.store.initial_eq target old
      rw [grows.initial_eq target old, first, same]
    · intro function old
      have first := whole.2.store.definition_eq function old
      rw [grows.definition_eq function old, first, same]
  · intro symbol answered
    have right := (reached.outcome context .symbol).answer symbol answered
    exact right.1.toHoused

/-- The first call fills the table that the session starts with. The second one leaves it alone and
opens two others, one for each block, and each takes what is decoded while it is active. -/
theorem nested_call_conserves :
    start emptyStore 0 nestedBlob = .ok (.ok nestedSession) ∧
      Conserves emptyStore (nestedSession.afterCalls {} [.symbol])
        ((nestedSession.afterCalls {} [.symbol]).afterCall {} .stmt) ∧
      (nestedSession.afterCalls {} [.symbol]).CreatesOnce {} .stmt ∧
      ([0, 1, 2].map fun table =>
          (((nestedSession.afterCalls {} [.symbol]).afterCall {} .stmt).store.owned table).map
            fun symbol => symbol.id - emptyStore.nextId) = [[0, 1], [2], [3, 4]] := by
  have started : start emptyStore 0 nestedBlob = .ok (.ok nestedSession) := rfl
  obtain ⟨conserves, once, _⟩ := call_conserves started {} [.symbol] .stmt
  exact ⟨started, conserves, once, by decide +kernel⟩

end Decoder

end Shading
