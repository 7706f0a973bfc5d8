import Shading.Proofs.Decode.Plain
import Shading.Proofs.Decode.Registry
import Shading.Proofs.Decode.Resolution

/-!
Initial values are only attached to symbols that were made. So no id that is still to be drawn has
one, whatever calls a session was asked for and whether they gave an answer. Main statement:
`Decoder.filed_afterCalls`.
-/

namespace Shading

/-- What is made in a session, in tables from `oldest` on, has an id that was drawn. -/
structure Decoder.Drawn (oldest : TableId) (decoder : Decoder) : Prop where
  tables_le : oldest ≤ decoder.store.tables.size
  owned : ∀ table, oldest ≤ table → ∀ symbol ∈ decoder.store.owned table,
    symbol.id < decoder.store.nextId
  registered : ∀ (place : Nat) symbol, decoder.registry[place]?.join = some symbol →
    (∃ type, symbol = .type type) ∨ symbol.id < decoder.store.nextId

namespace Decoder.Drawn

variable {oldest : TableId} {decoder : Decoder}

/-- More ids are drawn, and tables and registry stay. -/
theorem mono (drawn : decoder.Drawn oldest) {after : Decoder}
    (tables : after.store.tables = decoder.store.tables)
    (registry : after.registry = decoder.registry)
    (more : decoder.store.nextId ≤ after.store.nextId) : after.Drawn oldest where
  tables_le := by
    rw [tables]
    exact drawn.tables_le
  owned table young symbol member := by
    rw [Store.owned_eq_of_tables table (congrArg (·[table]?) tables)] at member
    exact Nat.lt_of_lt_of_le (drawn.owned table young symbol member) more
  registered place symbol found := by
    rw [registry] at found
    exact (drawn.registered place symbol found).imp_right fun below => Nat.lt_of_lt_of_le below more

/-- A new symbol is made in the active table. -/
theorem adopt (drawn : decoder.Drawn oldest) {symbol : Symbol}
    (new : symbol.id = decoder.store.nextId) :
    Drawn oldest { decoder with store := decoder.store.fresh.2.adopt decoder.active symbol } where
  tables_le := by
    rw [Store.size_adopt]
    exact drawn.tables_le
  owned table young other member := by
    have fresh : symbol.id < decoder.store.fresh.2.nextId := Nat.lt_succ_of_le (Nat.le_of_eq new)
    by_cases inside : decoder.active < decoder.store.fresh.2.tables.size
    · rw [Store.owned_adopt _ _ _ _ inside] at member
      split at member
      · rcases List.mem_append.mp member with old | same
        · exact Nat.lt_succ_of_lt (drawn.owned table young other old)
        · rw [List.mem_singleton.mp same]
          exact fresh
      · rw [List.append_nil] at member
        exact Nat.lt_succ_of_lt (drawn.owned table young other member)
    · rw [Store.adopt, Store.update_of_size_le (Nat.le_of_not_lt inside)] at member
      exact Nat.lt_succ_of_lt (drawn.owned table young other member)
  registered place other found :=
    (drawn.registered place other found).imp_right Nat.lt_succ_of_lt

theorem enter (drawn : decoder.Drawn oldest) (id : UInt16) {symbol : Symbol}
    (known : (∃ type, symbol = .type type) ∨ symbol.id < decoder.store.nextId) :
    Drawn oldest { decoder with registry := Decode.entered decoder.registry id symbol } where
  tables_le := drawn.tables_le
  owned := drawn.owned
  registered place other found := by
    rw [Registry.lookup_entered] at found
    split at found
    · cases found
      exact known
    · exact drawn.registered place other found

end Decoder.Drawn

section

variable {oldest : TableId} {level : Level} {before ready after : Decoder} {log : List Record}

theorem Closing.drawn {tag : Command} {id? : Option UInt16} {symbol : Symbol}
    (closing : Closing tag id? symbol ready after) (drawn : ready.Drawn oldest) :
    after.Drawn oldest ∧ ((∃ type, symbol = .type type) ∨ symbol.id < after.store.nextId) := by
  cases closing with
  | create kind new vacant =>
    have below : symbol.id < ready.store.nextId + 1 := Nat.lt_succ_of_le (Nat.le_of_eq new)
    exact ⟨(drawn.adopt new).enter _ (.inr below), .inr below⟩
  | createMember new => exact ⟨drawn.adopt new, .inr (Nat.lt_succ_of_le (Nat.le_of_eq new))⟩
  | refer bound => exact ⟨drawn, drawn.registered _ symbol bound⟩
  | find found vacant => exact ⟨drawn.enter _ (.inl ⟨_, rfl⟩), .inl ⟨_, rfl⟩⟩

/-- Whatever is decoded, what is made has an id that was drawn. -/
theorem Chronicle.drawn (chronicle : Chronicle level before log after)
    (drawn : before.Drawn oldest) : after.Drawn oldest := by
  induction chronicle with
  | nothing level decoder => exact drawn
  | read moved => exact drawn.mono rfl rfl (Nat.le_refl _)
  | andThen first second firstHypothesis secondHypothesis =>
    exact secondHypothesis (firstHypothesis drawn)
  | record decoded tagged numbered within closing inductionHypothesis =>
    have read := inductionHypothesis (drawn.mono rfl rfl (Nat.le_refl _))
    exact (closing.drawn read).1
  | waste decoder => exact drawn.mono rfl rfl (Nat.le_succ _)
  | orphan decoder symbol new => exact drawn.adopt new
  | openTable decoder parent? =>
    refine ⟨?_, fun table young symbol member => ?_, drawn.registered⟩
    · rw [Store.size_newTable]
      exact Nat.le_succ_of_le drawn.tables_le
    · rw [Store.owned_newTable] at member
      exact drawn.owned table young symbol member
  | bind decoder table symbol =>
    refine ⟨?_, fun other young known member => ?_, drawn.registered⟩
    · rw [Store.size_bind]
      exact drawn.tables_le
    · rw [Store.owned_bind] at member
      exact drawn.owned other young known member
  | attach decoder initials definitions => exact drawn.mono rfl rfl (Nat.le_refl _)
  | inside inner inductionHypothesis =>
    have entered := inductionHypothesis (drawn.mono rfl rfl (Nat.le_refl _))
    exact entered.mono rfl rfl (Nat.le_refl _)

end

/-! ## Values of symbols that were made -/

/-- A session in which no id that is still to be drawn has an initial value. -/
structure Decoder.Filed (oldest : TableId) (decoder : Decoder) : Prop where
  drawn : decoder.Drawn oldest
  initials : ∀ id, decoder.store.nextId ≤ id → decoder.store.initials.lookup id = none

theorem Decoder.Filed.withReader {oldest : TableId} {decoder : Decoder}
    (filed : decoder.Filed oldest) (reader : Reader) : Filed oldest { decoder with reader } where
  drawn := filed.drawn.mono rfl rfl (Nat.le_refl _)
  initials := filed.initials

namespace Decode

open Stepping

variable {α : Type} {context : Context} {oldest : TableId} {least : Nat}

/-- A session stays filed and draws no fewer ids, if it has drawn so many before. -/
def Files (oldest : TableId) (least : Nat) (before after : Decoder) : Prop :=
  least ≤ before.store.nextId → before.Filed oldest →
    after.Filed oldest ∧ before.store.nextId ≤ after.store.nextId

theorem Files.of_chronicle {level : Level} {before after : Decoder} {log : List Record}
    (chronicle : Chronicle level before log after)
    (same : after.store.initials = before.store.initials) : Files oldest least before after := by
  intro _ filed
  refine ⟨⟨chronicle.drawn filed.drawn, fun id new => ?_⟩, chronicle.nextId_le⟩
  rw [same]
  exact filed.initials id (Nat.le_trans chronicle.nextId_le new)

theorem files (oldest : TableId) (least : Nat) : Passage (Files oldest least) where
  refl _ _ filed := ⟨filed, Nat.le_refl _⟩
  trans first second enough filed := by
    have middle := first enough filed
    have last := second (Nat.le_trans enough middle.2) middle.1
    exact ⟨last.1, Nat.le_trans middle.2 last.2⟩
  read decoder reader moved :=
    have read : Chronicle .node decoder [] { decoder with reader } := .read moved
    .of_chronicle read rfl
  inside inner enough filed := by
    have entered := inner enough ⟨filed.drawn.mono rfl rfl (Nat.le_refl _), filed.initials⟩
    exact ⟨⟨entered.1.drawn.mono rfl rfl (Nat.le_refl _), entered.1.initials⟩, entered.2⟩
  waste decoder := .of_chronicle (.waste decoder) rfl
  openTable decoder parent? := .of_chronicle (.openTable decoder parent?) rfl
  bind decoder table symbol := .of_chronicle (.bind decoder table symbol) rfl
  define decoder definitions :=
    .of_chronicle (.attach decoder decoder.store.initials definitions) rfl

theorem symbol_files : Leads (Files oldest least) symbol := by
  intro decoder
  obtain ⟨log, chronicle⟩ := symbol_prepares.chronicled decoder
  exact .of_chronicle chronicle (symbol_plain.initials_eq decoder)

/-- A decoded symbol that is no type has an id that was drawn. -/
theorem symbol_drawn {decoder after : Decoder} {found : Symbol} (drawn : decoder.Drawn oldest)
    (ran : symbol decoder = (.ok found, after)) :
    (∃ type, found = .type type) ∨ found.id < after.store.nextId := by
  have within : symbolWithin (decoder.reader.remaining + 1) decoder = (.ok found, after) := ran
  obtain ⟨tag, reader, id?, nested, ready, _, _, holds, closing⟩ :=
    exists_record (symbolWithin_prepares decoder.reader.remaining) within
  have read : Decoder.Drawn oldest { decoder with reader } := drawn.mono rfl rfl (Nat.le_refl _)
  exact (closing.drawn (holds.drawn read)).2

theorem targetVariable_drawn {decoder after : Decoder} {target : Variable}
    (drawn : decoder.Drawn oldest) (ran : targetVariable decoder = (.ok target, after)) :
    target.id < after.store.nextId := by
  obtain ⟨found, middle, symbolRan, kindRan⟩ := exists_of_bind_run ran
  obtain ⟨isVariable, same⟩ := lift_run kindRan
  subst same
  rcases symbol_drawn drawn symbolRan with ⟨type, isType⟩ | below
  · rw [isType] at isVariable
    cases isVariable
  · cases found with
    | var _ =>
      cases isVariable
      exact below
    | _ => cases isVariable

/-- A variable that was made gets an initial value. -/
theorem declare_files {target : Variable} (below : target.id < least) (baseType : Ty)
    (arraySize : Int32) (value? : Option Expr) :
    Leads (Files oldest least) (do
      let (declaration, store) ← Declaration.make (← get).store target baseType arraySize value?
      changeStore fun _ => store
      return declaration) := by
  refine (files oldest least).exchange (Declaration.make · target baseType arraySize value?) ?_
  intro decoder declaration store made
  rcases (make_cases made).2 with unchanged | ⟨value, attached⟩
  · subst unchanged
    exact (files oldest least).refl decoder
  · rw [(Store.attachInitial_cases attached).2]
    intro enough filed
    refine ⟨⟨filed.drawn.mono rfl rfl (Nat.le_refl _), ?_⟩, Nat.le_refl _⟩
    exact Store.lookup_cons_of_lt filed.initials (Nat.lt_of_lt_of_le below enough) value

/-- What follows a step may rely on the ids that were drawn in it. -/
theorem Files.after {β : Type} {first : Decode α} {next : α → Decode β} {decoder : Decoder}
    (filed : decoder.Filed oldest) (earlier : Leads (Files oldest 0) first)
    (later : ∀ value middle, first decoder = (.ok value, middle) → middle.Filed oldest →
      Files oldest middle.store.nextId middle (next value middle).2) :
    ((first >>= next) decoder).2.Filed oldest ∧
      decoder.store.nextId ≤ ((first >>= next) decoder).2.store.nextId := by
  have led := earlier decoder (Nat.zero_le _) filed
  rw [bind_apply]
  cases ran : first decoder with
  | mk outcome middle =>
    rw [ran] at led
    cases outcome with
    | error fault => exact led
    | ok value =>
      have rest := later value middle ran led.1 (Nat.le_refl _) led.1
      exact ⟨rest.1, Nat.le_trans led.2 rest.2⟩

theorem declaration_files : Leads (Files oldest 0) (declaration context) := by
  intro decoder _ filed
  refine Files.after filed ((files oldest 0).walk.targetVariable symbol_files) ?_
  intro target middle ran _
  have below := targetVariable_drawn filed.drawn ran
  have walk := (files oldest middle.store.nextId).walk
  refine walk.after (walk.type symbol_files) (fun baseType => ?_) middle
  refine walk.after (walk.next Read.s8_forward) fun arraySize => ?_
  exact walk.after (walk.expr symbol_files) fun value? =>
    declare_files below baseType arraySize.toInt32 value?

theorem enumerator_files (enumName : String) {symbol : Symbol} (below : symbol.id < least) :
    Leads (Files oldest least) (enumerator enumName symbol) := by
  have walk := (files oldest least).walk
  cases symbol with
  | var target =>
    refine walk.after (walk.next Read.s32_forward) fun value => ?_
    exact declare_files below target.type 0 _
  | _ => exact walk.throw _

theorem enumElement_files : Leads (Files oldest 0) enumElement := by
  refine (files oldest 0).walk.after ((files oldest 0).walk.next Read.string_forward) fun name => ?_
  intro decoder _ filed
  refine Files.after filed ((files oldest 0).walk.table symbol_files false) ?_
  intro table? middle ran reached
  have walk := (files oldest middle.store.nextId).walk
  cases table? with
  | none => exact walk.throw _ middle
  | some id =>
    obtain ⟨run⟩ := exists_tableRun ran
    have young : oldest ≤ id := by
      rw [run.id_eq]
      exact filed.drawn.tables_le
    dsimp only
    rw [bind_ok (get_apply middle)]
    have enumerators := walk.mapM (middle.store.owned id) fun symbol member =>
      enumerator_files name (reached.drawn.owned id young symbol member)
    exact walk.after enumerators (fun _ => walk.pure _) middle

end Decode

/-- Whatever a session was asked for, no id that is still to be drawn has an initial value, if none
had one at the start. -/
theorem Decoder.filed_afterCalls {context : Context} {store : Store} {active : TableId}
    {bytes : Array UInt8} {decoder : Decoder}
    (sealed : ∀ id, store.nextId ≤ id → store.initials.lookup id = none)
    (started : Decoder.start store active bytes = .ok (.ok decoder)) (calls : List Call) :
    (decoder.afterCalls context calls).Filed store.tables.size := by
  obtain ⟨_, reader, _, same⟩ := start_cases started
  subst same
  have drawn : Drawn store.tables.size { reader, store, active } := by
    refine ⟨Nat.le_refl _, fun table young symbol member => ?_, fun place symbol found => ?_⟩
    · rw [Store.owned_of_size_le _ _ young] at member
      cases member
    · simp at found
  have filed : Decode.Files store.tables.size 0 { reader, store, active }
      (Decoder.afterCalls context { reader, store, active } calls) :=
    (Decode.files store.tables.size 0).calls Decode.symbol_files Decode.declaration_files
      Decode.enumElement_files _ calls
  exact (filed (Nat.zero_le _) ⟨drawn, sealed⟩).1

end Shading
