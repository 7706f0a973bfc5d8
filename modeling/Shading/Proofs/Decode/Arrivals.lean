import Shading.Proofs.Decode.Resolution
import Shading.Proofs.Decode.Session

/-!
What decoding a program leaves in the tables that were there before. The symbol table of the program
leaves nothing, since it is active itself while its symbols are decoded. The elements are decoded
with the starting table active, so that the symbols which they define on the spot arrive there: at
the end of what the table owns, and under those of their names that are vacant.
-/

namespace Shading

variable {origin : Origin} {level : Level} {before after : Decoder} {events : List Event}

/-- Some symbols arrived in a table. -/
structure Store.Receives (table : TableId) (before : Store) (arrived : List Symbol)
    (after : Store) : Prop where
  owned_eq : after.owned table = before.owned table ++ arrived
  findLocal?_eq : ∀ name, after.findLocal? table name =
    (before.findLocal? table name).or (arrived.find? fun symbol => symbol.name == name)

namespace Store.Receives

variable {table : TableId} {store middle last : Store} {earlier later : List Symbol}

theorem trans (first : Receives table store earlier middle)
    (second : Receives table middle later last) :
    Receives table store (earlier ++ later) last where
  owned_eq := by rw [second.owned_eq, first.owned_eq, List.append_assoc]
  findLocal?_eq name := by
    rw [second.findLocal?_eq, first.findLocal?_eq, List.find?_append, Option.or_assoc]

/-- Nothing arrives in a table that stays as it is. -/
theorem of_unchanged (same : last.tables[table]? = store.tables[table]?) :
    Receives table store [] last where
  owned_eq := by rw [owned_eq_of_tables table same, List.append_nil]
  findLocal?_eq name := by
    rw [findLocal?_eq_of_tables same, List.find?_nil, Option.or_none]

/-- A name that was bound before, or that no arrived symbol has, means what it meant. -/
theorem findLocal?_kept (receives : Receives table store earlier last) {name : String}
    (kept : ∀ symbol ∈ earlier, symbol.name = name → store.findLocal? table name ≠ none) :
    last.findLocal? table name = store.findLocal? table name := by
  rw [receives.findLocal?_eq]
  cases bound : store.findLocal? table name with
  | some symbol => exact Option.some_or
  | none =>
    rw [Option.none_or, List.find?_eq_none]
    intro symbol arrived named
    exact kept symbol arrived (eq_of_beq named) bound

end Store.Receives

theorem Change.receives (changed : Change origin level before events after)
    (sound : before.Sound origin) {table : TableId} (old : table < origin.tables) :
    before.store.Receives table (arrivals table (Event.createdSymbols events)) after.store := by
  have grows := (changed.extended sound).store
  refine ⟨grows.owned_eq table, ?_⟩
  intro name
  cases changed with
  | @create _ symbol new typed =>
    have inside : before.active < before.store.fresh.2.tables.size := sound.active_lt
    rw [Store.findLocal?_adopt _ _ _ _ _ inside]
    have vacancy : (if before.active = table ∧ name = symbol.name then some symbol else none) =
        (arrivals table [(symbol, before.active)]).find? fun symbol => symbol.name == name := by
      by_cases here : before.active = table
      · by_cases named : name = symbol.name
        · simp [arrivals, here, named]
        · simp [arrivals, here, named, Ne.symm named]
      · simp [arrivals, here]
    rw [vacancy]
    rfl
  | openTable parent? =>
    rw [Store.findLocal?_newTable]
    exact (Option.or_none).symm
  | @bind _ _ other symbol recent opened known =>
    have different : ¬(other = table ∧ name = symbol.name) := by
      intro same
      exact Nat.ne_of_gt (Nat.lt_of_lt_of_le old recent) same.1
    rw [Store.findLocal?_bind _ _ _ _ _ opened, if_neg different]
    exact (Option.or_none).symm
  | attach recent attached =>
    rw [Store.findLocal?, Store.tables_of_attachInitial attached]
    exact (Option.or_none).symm
  | define recent defined =>
    rw [Store.findLocal?, Store.tables_of_define defined]
    exact (Option.or_none).symm
  | _ => exact (Option.or_none).symm

/-- An old table takes the symbols that were created while it was active. -/
theorem History.receives (history : History origin level before events after)
    (sound : before.Sound origin) {table : TableId} (old : table < origin.tables) :
    before.store.Receives table (arrivals table (Event.createdSymbols events)) after.store := by
  induction history with
  | nothing level decoder => exact .of_unchanged rfl
  | change changed => exact changed.receives sound old
  | andThen first second firstHypothesis secondHypothesis =>
    rw [Event.createdSymbols_append, arrivals_append]
    exact (firstHypothesis sound).trans (secondHypothesis (first.sound_extended sound).1)
  | record whole inductionHypothesis => exact inductionHypothesis sound
  | inside recent opened inner inductionHypothesis =>
    exact inductionHypothesis { sound with active_lt := opened }

/-! ## Tables -/

theorem Closing.unchanged {tag : Command} {id? : Option UInt16} {symbol : Symbol}
    (closing : Closing tag id? symbol before after) {other : TableId}
    (rests : other ≠ before.active) : after.store.tables[other]? = before.store.tables[other]? := by
  cases closing with
  | create kind new vacant =>
    rw [Store.tables_adopt, if_neg rests.symm]
    rfl
  | createMember new =>
    rw [Store.tables_adopt, if_neg rests.symm]
    rfl
  | refer bound => rfl
  | find found vacant => rfl

/-- While records of symbols are decoded, all tables but the active one are at rest. -/
theorem Chronicle.unchanged {log : List Record} (chronicle : Chronicle .symbol before log after)
    {other : TableId} (rests : other ≠ before.active) :
    after.store.tables[other]? = before.store.tables[other]? := by
  generalize within : Level.symbol = level at chronicle
  induction chronicle with
  | nothing level decoder => rfl
  | read moved => rfl
  | andThen first second firstHypothesis secondHypothesis =>
    have same := firstHypothesis rests within
    rw [← first.active_eq] at rests
    rw [secondHypothesis rests within, same]
  | record decoded tagged numbered nested closing inductionHypothesis =>
    have same := inductionHypothesis rests rfl
    have active_eq := nested.active_eq
    dsimp only at active_eq same
    rw [← active_eq] at rests
    rw [closing.unchanged rests, same]
  | _ => cases within

theorem Store.tables_bindAll {store : Store} {table other : TableId} (references : List Symbol)
    (rests : other ≠ table) :
    (store.bindAll table references).tables[other]? = store.tables[other]? := by
  induction references generalizing store with
  | nil => rfl
  | cons symbol rest inductionHypothesis =>
    have same : (store.bind table symbol).tables[other]? = store.tables[other]? := by
      rw [tables_bind, if_neg rests.symm]
    exact inductionHypothesis.trans same

/-- A table that is decoded leaves all older ones alone, also the one that is active before. -/
theorem Decode.table_unchanged {inherit : Bool} {table? : Option TableId}
    (ran : Decode.table inherit before = (.ok table?, after)) {old : TableId}
    (isOld : old < before.store.tables.size) :
    after.store.tables[old]? = before.store.tables[old]? := by
  cases table? with
  | none =>
    obtain ⟨tag, tagged, tagRan, rest⟩ := Stepping.exists_of_bind_run ran
    obtain ⟨reader, _, same⟩ := next_cases tagRan
    subst same
    cases tag with
    | absent =>
      cases rest
      rfl
    | symbolTable =>
      obtain ⟨count, counted, _, rest⟩ := Stepping.exists_of_bind_run rest
      obtain ⟨id, opened, _, rest⟩ := Stepping.exists_of_bind_run rest
      obtain ⟨_, closed, _, rest⟩ := Stepping.exists_of_bind_run rest
      cases rest
    | _ => cases rest
  | some id =>
    obtain ⟨run⟩ := exists_tableRun ran
    obtain ⟨_, _, whole⟩ := symbols_run run.decoded_run
    have different : old ≠ id := by
      rw [run.id_eq]
      exact Nat.ne_of_lt isOld
    have rests : old ≠ run.opened.active := by
      rw [run.opened_eq]
      exact different
    have bound : after.store = run.middle.store.bindAll id run.references :=
      congrArg Decoder.store run.after_eq
    rw [bound, Store.tables_bindAll _ different, whole.unchanged rests,
      run.opened_eq, Store.tables_newTable, ← run.id_eq, if_neg different]

end Shading
