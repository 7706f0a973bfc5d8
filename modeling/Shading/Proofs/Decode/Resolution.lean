import Shading.Proofs.Decode.Chronicled

/-!
What the names in a decoded table stand for. Two rules meet in a table: of the symbols that it owns
the first one of a name is bound, and a reference binds its name anew, so that the last one wins.
References count the decoded records, not the owned symbols. Main statement:
`Decode.table_resolved`.
-/

namespace Shading

/-! ## What a table comes to own -/

/-- The symbols that some records created, in the order in which the records ended. -/
def Record.created (log : List Record) : List Symbol :=
  (log.filter creates).map symbol

@[simp]
theorem Record.created_append (earlier later : List Record) :
    created (earlier ++ later) = created earlier ++ created later := by
  rw [created, List.filter_append, List.map_append]
  rfl

/-- A table came to own some symbols, and their names are bound where they were vacant. -/
structure Store.Fills (table : TableId) (before : Store) (created : List Symbol) (after : Store) :
    Prop where
  size_eq : after.tables.size = before.tables.size
  header_eq : after.header? table = before.header? table
  owned_eq : after.owned table = before.owned table ++ created
  findLocal?_eq : ∀ name, after.findLocal? table name =
    (before.findLocal? table name).or (created.find? fun symbol => symbol.name == name)

namespace Store.Fills

variable {table : TableId} {before middle after : Store} {earlier later : List Symbol}

theorem refl (table : TableId) (store : Store) : Fills table store [] store where
  size_eq := rfl
  header_eq := rfl
  owned_eq := (List.append_nil _).symm
  findLocal?_eq _ := (Option.or_none).symm

theorem trans (first : Fills table before earlier middle) (second : Fills table middle later after) :
    Fills table before (earlier ++ later) after where
  size_eq := second.size_eq.trans first.size_eq
  header_eq := second.header_eq.trans first.header_eq
  owned_eq := by rw [second.owned_eq, first.owned_eq, List.append_assoc]
  findLocal?_eq name := by
    rw [second.findLocal?_eq, first.findLocal?_eq, List.find?_append, Option.or_assoc]

theorem adopt {store : Store} (symbol : Symbol) (inside : table < store.tables.size) :
    Fills table store [symbol] (store.fresh.2.adopt table symbol) where
  size_eq := size_adopt _ table symbol
  header_eq := header?_adopt _ table table symbol
  owned_eq := by
    have room : table < store.fresh.2.tables.size := inside
    rw [owned_adopt _ table table symbol room, if_pos rfl]
    rfl
  findLocal?_eq name := by
    have room : table < store.fresh.2.tables.size := inside
    rw [findLocal?_adopt _ table table symbol name room]
    have vacancy : (if table = table ∧ name = symbol.name then some symbol else none) =
        [symbol].find? fun symbol => symbol.name == name := by
      by_cases same : name = symbol.name
      · simp [same]
      · simp [same, Ne.symm same]
    rw [vacancy]
    rfl

end Store.Fills

theorem Closing.fills {tag : Command} {id? : Option UInt16} {symbol : Symbol}
    {ready after : Decoder} (closing : Closing tag id? symbol ready after) (start : Decoder)
    (inside : ready.active < ready.store.tables.size) :
    Store.Fills ready.active ready.store
      (Record.created [{ start, tag, id?, symbol, ready, stop := after }]) after.store := by
  cases closing with
  | @create tag id symbol ready kind new vacant =>
    have creates (stop : Decoder) :
        Record.created [{ start, tag, id? := some id, symbol, ready, stop }] = [symbol] := by
      have isCreated : Record.creates { start, tag, id? := some id, symbol, ready, stop } := by
        simp [Record.creates, kind]
      rw [Record.created, List.filter_cons_of_pos isCreated]
      rfl
    rw [creates]
    exact .adopt symbol inside
  | createMember new => exact .adopt symbol inside
  | refer bound => exact .refl _ _
  | find found vacant => exact .refl _ _

/-- The table that is active while records are decoded owns what they create. -/
theorem Chronicle.fills {before after : Decoder} {log : List Record}
    (chronicle : Chronicle .symbol before log after)
    (inside : before.active < before.store.tables.size) :
    Store.Fills before.active before.store (Record.created log) after.store := by
  -- Within a record no table is opened or entered, so that one table takes all that is created.
  generalize within : Level.symbol = level at chronicle
  induction chronicle with
  | nothing level decoder => exact .refl _ _
  | read moved => exact .refl _ _
  | andThen first second firstHypothesis secondHypothesis =>
    have filled := firstHypothesis inside within
    rw [Record.created_append]
    refine filled.trans ?_
    rw [← first.active_eq] at filled inside ⊢
    rw [← filled.size_eq] at inside
    exact secondHypothesis inside within
  | record decoded tagged numbered nested closing inductionHypothesis =>
    have filled := inductionHypothesis inside rfl
    rw [Record.created_append]
    refine filled.trans ?_
    have active_eq := nested.active_eq
    dsimp only at active_eq filled
    rw [← active_eq] at filled inside ⊢
    rw [← filled.size_eq] at inside
    exact closing.fills _ inside
  | _ => cases within

/-! ## References -/

namespace Store

def bindAll (store : Store) (table : TableId) (references : List Symbol) : Store :=
  references.foldl (fun store symbol => store.bind table symbol) store

variable (store : Store) (table other : TableId) (references : List Symbol)

theorem header?_bindAll : (store.bindAll table references).header? other = store.header? other := by
  induction references generalizing store with
  | nil => rfl
  | cons symbol rest inductionHypothesis =>
    exact (inductionHypothesis (store.bind table symbol)).trans (header?_bind store table other symbol)

theorem owned_bindAll : (store.bindAll table references).owned other = store.owned other := by
  induction references generalizing store with
  | nil => rfl
  | cons symbol rest inductionHypothesis =>
    exact (inductionHypothesis (store.bind table symbol)).trans (owned_bind store table other symbol)

/-- Of the references to one name the last one counts. -/
theorem findLocal?_bindAll (name : String) (inside : table < store.tables.size) :
    (store.bindAll table references).findLocal? table name =
      (references.reverse.find? fun symbol => symbol.name == name).or
        (store.findLocal? table name) := by
  induction references generalizing store with
  | nil => rfl
  | cons symbol rest inductionHypothesis =>
    have room : table < (store.bind table symbol).tables.size := by
      rw [size_bind]
      exact inside
    have later := inductionHypothesis (store.bind table symbol) room
    rw [findLocal?_bind store table table symbol name inside] at later
    rw [List.reverse_cons, List.find?_append, Option.or_assoc]
    refine later.trans (congrArg _ ?_)
    by_cases same : name = symbol.name
    · simp [same]
    · simp [same, Ne.symm same]

end Store

/-- Numbers that are read one after the other. -/
def Reader.Reads (before : Reader) : List UInt16 → Reader → Prop
  | [], after => after = before
  | first :: rest, after =>
    ∃ middle, Read.u16 before = (.ok first, middle) ∧ Reads middle rest after

namespace Decode

open Stepping

theorem bindReference_run {table : TableId} {decoded : List Symbol} {before after : Decoder}
    (ran : bindReference table decoded before = (.ok (), after)) :
    ∃ index symbol reader, Read.u16 before.reader = (.ok index, reader) ∧
      decoded[index.toNat]? = some symbol ∧
      after = { before with reader, store := before.store.bind table symbol } := by
  obtain ⟨index, middle, indexRan, rest⟩ := exists_of_bind_run ran
  obtain ⟨reader, read, same⟩ := next_cases indexRan
  subst same
  cases found : decoded[index.toNat]? with
  | none =>
    rw [found] at rest
    cases rest
  | some symbol =>
    rw [found] at rest
    cases rest
    exact ⟨index, symbol, reader, read, found, rfl⟩

theorem references_run {table : TableId} {decoded : List Symbol} {count : Nat} {units : List Unit}
    {before after : Decoder}
    (ran : times count (bindReference table decoded) before = (.ok units, after)) :
    ∃ indices references reader, indices.length = count ∧ before.reader.Reads indices reader ∧
      indices.map (fun index => decoded[index.toNat]?) = references.map some ∧
      after = { before with reader, store := before.store.bindAll table references } := by
  induction count generalizing before units with
  | zero =>
    cases ran
    exact ⟨[], [], _, rfl, rfl, rfl, rfl⟩
  | succ count inductionHypothesis =>
    obtain ⟨_, middle, firstRan, restRan⟩ := exists_of_bind_run ran
    obtain ⟨rest, last, timesRan, ended⟩ := exists_of_bind_run restRan
    cases ended
    obtain ⟨index, symbol, next, read, found, same⟩ := bindReference_run firstRan
    subst same
    obtain ⟨indices, references, reader, length, reads, resolved, same⟩ :=
      inductionHypothesis timesRan
    refine ⟨index :: indices, symbol :: references, reader, ?_, ⟨next, read, reads⟩, ?_, same⟩
    · rw [List.length_cons, length]
    · rw [List.map_cons, List.map_cons, found, resolved]

/-! ## Tables -/

/-- A symbol table that was decoded to its end. -/
structure TableRun (inherit : Bool) (before : Decoder) (id : TableId) (after : Decoder) where
  {tagged counted listed last : Reader}
  tag_read : Read.command before.reader = (.ok .symbolTable, tagged)
  count : UInt16
  count_read : Read.u16 tagged = (.ok count, counted)
  /-- The session when the new table is open and active. -/
  opened : Decoder
  id_eq : id = before.store.tables.size
  opened_eq : opened =
    { before with
      reader := counted
      store := (before.store.newTable (if inherit then some before.active else none) true).2
      active := id }
  /-- The symbols of the records, and the session after them. -/
  decoded : List Symbol
  middle : Decoder
  decoded_run : times count.toNat symbol opened = (.ok decoded, middle)
  number : UInt16
  number_read : Read.u16 middle.reader = (.ok number, listed)
  /-- The references, as numbers of records and as the symbols of those. -/
  indices : List UInt16
  indices_length : indices.length = number.toNat
  indices_read : listed.Reads indices last
  references : List Symbol
  references_eq : indices.map (fun index => decoded[index.toNat]?) = references.map some
  after_eq : after =
    { middle with
      reader := last
      store := middle.store.bindAll id references
      active := before.active }

theorem exists_tableRun {inherit : Bool} {before after : Decoder} {id : TableId}
    (ran : table inherit before = (.ok (some id), after)) :
    Nonempty (TableRun inherit before id after) := by
  obtain ⟨tag, middle, tagRan, rest⟩ := exists_of_bind_run ran
  obtain ⟨tagged, tag_read, same⟩ := next_cases tagRan
  subst same
  cases tag with
  | absent => cases rest
  | symbolTable =>
    obtain ⟨count, middle, countRan, rest⟩ := exists_of_bind_run rest
    obtain ⟨counted, count_read, same⟩ := next_cases countRan
    subst same
    obtain ⟨found, opened, openRan, rest⟩ := exists_of_bind_run rest
    cases openRan
    obtain ⟨_, closed, contentRan, ended⟩ := exists_of_bind_run rest
    cases ended
    obtain ⟨inner, innerRan, same⟩ := withActive_run contentRan
    subst same
    obtain ⟨decoded, middle, decoded_run, rest⟩ := exists_of_bind_run innerRan
    obtain ⟨number, numbered, numberRan, rest⟩ := exists_of_bind_run rest
    obtain ⟨listed, number_read, same⟩ := next_cases numberRan
    subst same
    obtain ⟨units, timesRan⟩ := discard_run rest
    obtain ⟨indices, references, last, indices_length, indices_read, references_eq, same⟩ :=
      references_run timesRan
    subst same
    exact ⟨
      { tag_read, count, count_read, opened := _, id_eq := rfl, opened_eq := rfl, decoded, middle,
        decoded_run, number, number_read, indices, indices_length, indices_read, references,
        references_eq, after_eq := rfl }⟩
  | _ => cases rest

/-- Symbols that are decoded one after the other make blocks: each symbol is that of the last record
of its block, and the records before that one are those it holds. -/
theorem symbols_run {count : Nat} {before after : Decoder} {decoded : List Symbol}
    (ran : times count symbol before = (.ok decoded, after)) :
    ∃ blocks : List (List Record × Record), decoded = blocks.map (fun block => block.2.symbol) ∧
      Chronicle .symbol before (blocks.flatMap fun block => block.1 ++ [block.2]) after := by
  induction count generalizing before decoded with
  | zero =>
    cases ran
    exact ⟨[], rfl, .nothing _ _⟩
  | succ count inductionHypothesis =>
    obtain ⟨first, middle, firstRan, restRan⟩ := exists_of_bind_run ran
    obtain ⟨others, last, timesRan, ended⟩ := exists_of_bind_run restRan
    cases ended
    have bounded : symbolWithin (before.reader.remaining + 1) before = (.ok first, middle) :=
      firstRan
    obtain ⟨nested, record, same, chronicle⟩ := symbolWithin_chronicle bounded
    obtain ⟨blocks, symbols, further⟩ := inductionHypothesis timesRan
    refine ⟨(nested, record) :: blocks, ?_, chronicle.andThen further⟩
    rw [List.map_cons, same, symbols]

namespace TableRun

variable {inherit : Bool} {before after : Decoder} {id : TableId}

/-- What the decoded records make of the new table. -/
theorem fills (run : TableRun inherit before id after) {log : List Record}
    (chronicle : Chronicle .symbol run.opened log run.middle) :
    id < run.middle.store.tables.size ∧
      run.middle.store.header? id = some (if inherit then some before.active else none, true) ∧
      run.middle.store.owned id = Record.created log ∧
      ∀ name, run.middle.store.findLocal? id name =
        (Record.created log).find? fun symbol => symbol.name == name := by
  let parent? := if inherit then some before.active else none
  have isActive : run.opened.active = id := by rw [run.opened_eq]
  have sameStore : run.opened.store = (before.store.newTable parent? true).2 := by
    rw [run.opened_eq]
  have size : run.opened.store.tables.size = id + 1 := by
    rw [sameStore, Store.size_newTable, run.id_eq]
  have header : run.opened.store.header? id = some (parent?, true) := by
    rw [sameStore, run.id_eq, Store.header?_newTable_self]
  have unowned : run.opened.store.owned id = [] := by
    rw [sameStore, Store.owned_newTable, run.id_eq, Store.owned_of_size_le _ _ (Nat.le_refl _)]
  have unbound (name : String) : run.opened.store.findLocal? id name = none := by
    rw [sameStore, Store.findLocal?_newTable, run.id_eq,
      Store.findLocal?_of_size_le _ _ _ (Nat.le_refl _)]
  have inside : run.opened.active < run.opened.store.tables.size := by
    rw [isActive, size]
    exact Nat.lt_succ_self id
  have filled := chronicle.fills inside
  rw [isActive] at filled
  refine ⟨?_, ?_, ?_, fun name => ?_⟩
  · rw [filled.size_eq, size]
    exact Nat.lt_succ_self id
  · rw [filled.header_eq, header]
  · rw [filled.owned_eq, unowned, List.nil_append]
  · rw [filled.findLocal?_eq, unbound, Option.none_or]

theorem header_eq (run : TableRun inherit before id after) :
    after.store.header? id = some (if inherit then some before.active else none, true) := by
  obtain ⟨_, _, whole⟩ := symbols_run run.decoded_run
  obtain ⟨_, header, _⟩ := run.fills whole
  have bound : after.store = run.middle.store.bindAll id run.references :=
    congrArg Decoder.store run.after_eq
  rw [bound, Store.header?_bindAll, header]

end TableRun

/-- The names of a decoded table. It owns what the records decoded for it created, those that a
record holds before that record; a name stands for the last reference of that name, or else for the
first owned symbol. -/
theorem table_resolved {inherit : Bool} {before after : Decoder} {id : TableId}
    (ran : table inherit before = (.ok (some id), after)) :
    ∃ run : TableRun inherit before id after,
      after.store.header? id = some (if inherit then some before.active else none, true) ∧
      (∃ blocks : List (List Record × Record),
        run.decoded = blocks.map (fun block => block.2.symbol) ∧
        Chronicle .symbol run.opened (blocks.flatMap fun block => block.1 ++ [block.2])
          run.middle) ∧
      (∀ log, Chronicle .symbol run.opened log run.middle →
        after.store.owned id = Record.created log ∧
        ∀ earlier record later, log = earlier ++ record :: later →
          record.Follows .symbol run.opened earlier) ∧
      ∀ name, after.store.findLocal? id name =
        (run.references.reverse.find? fun symbol => symbol.name == name).or
          ((after.store.owned id).find? fun symbol => symbol.name == name) := by
  obtain ⟨run⟩ := exists_tableRun ran
  obtain ⟨blocks, symbols, whole⟩ := symbols_run run.decoded_run
  have bound : after.store = run.middle.store.bindAll id run.references :=
    congrArg Decoder.store run.after_eq
  obtain ⟨inside, _, owned, found⟩ := run.fills whole
  refine ⟨run, run.header_eq, ⟨blocks, symbols, whole⟩, ?_, ?_⟩
  · intro log chronicle
    obtain ⟨_, _, owns, _⟩ := run.fills chronicle
    refine ⟨?_, fun earlier record later split => chronicle.follows split⟩
    rw [bound, Store.owned_bindAll, owns]
  · intro name
    rw [bound, Store.findLocal?_bindAll _ _ _ _ inside, Store.owned_bindAll, found, owned]

/-- A blob that holds a table of two enums of one name, with a reference to the second of them. -/
def doubleBlob : Array UInt8 :=
  #[6, 0, 1, 0, 1, 69, 16, 2, 0, 7, 0, 0, 4, 0, 7, 1, 0, 4, 0, 1, 0, 1, 0]

def doubleSession : Decoder :=
  { reader := ⟨doubleBlob, 6⟩, store := Decoder.emptyStore, active := 0 }

/-- The name stands for the second enum, which comes one id after the first. -/
theorem double_table_resolved :
    ∃ after, table true doubleSession = (.ok (some 1), after) ∧
      after.store.header? 1 = some (some 0, true) ∧
      (after.store.findLocal? 1 "E").map Symbol.id = some (doubleSession.store.nextId + 1) := by
  have answered : (table true doubleSession).1.toOption = some (some 1) := by decide +kernel
  have bound : ((table true doubleSession).2.store.findLocal? 1 "E").map Symbol.id =
      some (doubleSession.store.nextId + 1) := by decide +kernel
  cases ran : table true doubleSession with
  | mk outcome after =>
    rw [ran] at answered bound
    match outcome, answered with
    | .ok (some 1), _ =>
      obtain ⟨_, header, _⟩ := table_resolved ran
      exact ⟨after, rfl, header, bound⟩

end Decode

end Shading
