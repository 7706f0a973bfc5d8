import Shading.Proofs.Decode.Filed

/-!
Enums as they come out of a blob. The numbers that follow the table of an enum are not counted in
the blob: there is one for each symbol that the table owns, however many records made those. So no
enumerator is lost, and none of them had a value before. Main statement: `Decoder.enums_complete`.
-/

namespace Shading

/-- A constant of an enum, with the number that a blob holds for it. -/
structure Enumerator where
  target : Variable
  number : Int32

namespace Enumerator

variable (enumerator : Enumerator)

def literal : Expr :=
  .ofPlainInt .nowhere enumerator.number.toInt64

def declaration : Declaration where
  target := enumerator.target
  baseType := enumerator.target.type
  arraySize := 0
  value? := some enumerator.literal

end Enumerator

/-- An enum of declared enumerators has a value for each of them. -/
theorem EnumDefinition.values_eq_map {definition : EnumDefinition} {enumerators : List Enumerator}
    (declared : definition.declarations = enumerators.map Enumerator.declaration) :
    definition.values =
      enumerators.map fun enumerator => (enumerator.target.name, enumerator.number.toInt64) := by
  rw [values, declared, List.filterMap_map]
  exact congrFun List.filterMap_eq_map enumerators

/-! ## Reading on -/

/-- The reader so many bytes further on. -/
def Reader.ahead (reader : Reader) (count : Nat) : Reader :=
  { reader with offset := reader.offset + count }

theorem Reader.ahead_ahead (reader : Reader) (first second : Nat) :
    (reader.ahead first).ahead second = reader.ahead (first + second) := by
  rw [ahead, ahead, ahead, Nat.add_assoc]

namespace Read

open Stepping

variable {before after : Reader}

theorem number_run {count number : Nat} (ran : Read.number count before = (.ok number, after)) :
    after = before.ahead count := by
  obtain ⟨chunk, middle, chunkRan, ended⟩ := exists_of_bind_run ran
  cases ended
  rw [bytes, bind_ok (get_apply before)] at chunkRan
  split at chunkRan
  · cases chunkRan
    rfl
  · cases chunkRan

theorem s32_run {number : Int32} (ran : s32 before = (.ok number, after)) :
    after = before.ahead 4 := by
  obtain ⟨word, middle, wordRan, ended⟩ := exists_of_bind_run ran
  cases ended
  obtain ⟨raw, middle, rawRan, ended⟩ := exists_of_bind_run wordRan
  cases ended
  exact number_run rawRan

theorem s32_of_room (room : before.offset + 4 ≤ before.bytes.size) :
    ∃ number, s32 before = (.ok number, before.ahead 4) := by
  let chunk := (before.bytes.extract before.offset (before.offset + 4)).toList
  have taken : bytes 4 before = (.ok chunk, before.ahead 4) := by
    rw [bytes, bind_ok (get_apply before), if_pos room]
    rfl
  have raw : number 4 before = (.ok (ofLittleEndian chunk), before.ahead 4) := bind_ok taken
  have word : u32 before = (.ok (UInt32.ofNat (ofLittleEndian chunk)), before.ahead 4) :=
    bind_ok raw
  exact ⟨_, bind_ok word⟩

end Read

namespace Decode

open Stepping

variable {context : Context} {enumName : String} {before after : Decoder}

/-! ## Enumerators -/

/-- An enumerator takes a number from the blob, and its variable gets the number as its value. -/
theorem enumerator_run {symbol : Symbol} {declaration : Declaration}
    (ran : enumerator enumName symbol before = (.ok declaration, after)) :
    ∃ found : Enumerator, symbol = .var found.target ∧ declaration = found.declaration ∧
      (Read.s32 before.reader).1 = .ok found.number ∧
      ∃ store, before.store.attachInitial found.target found.literal = .ok store ∧
        after = { before with reader := before.reader.ahead 4, store } := by
  cases symbol with
  | var target =>
    obtain ⟨number, middle, numberRan, declareRan⟩ := exists_of_bind_run ran
    obtain ⟨reader, read, same⟩ := next_cases numberRan
    subst same
    obtain ⟨store, made, ended⟩ := exchange_run
      (Declaration.make · target target.type 0 (some (.ofPlainInt .nowhere number.toInt64)))
      declareRan
    obtain ⟨larger, attached, same⟩ := exists_of_bind_ok made
    cases same
    rw [Read.s32_run read] at ended
    exact ⟨⟨target, number⟩, rfl, rfl, congrArg Prod.fst read, store, attached, ended⟩
  | _ => cases ran

/-- What has happened to a session when some enumerators were decoded one after the other. -/
structure Enumerated (before : Decoder) (enumerators : List Enumerator) (after : Decoder) :
    Prop where
  numbers : ∀ (place : Nat) found, enumerators[place]? = some found →
    (Read.s32 (before.reader.ahead (4 * place))).1 = .ok found.number
  reader_eq : after.reader = before.reader.ahead (4 * enumerators.length)
  tables_eq : after.store.tables = before.store.tables
  attached : ∀ found ∈ enumerators, after.store.initial? found.target = some found.literal
  kept : ∀ id earlier, before.store.initials.lookup id = some earlier →
    after.store.initials.lookup id = some earlier

theorem Enumerated.nil (decoder : Decoder) : Enumerated decoder [] decoder where
  numbers _ _ := nofun
  reader_eq := rfl
  tables_eq := rfl
  attached _ := nofun
  kept _ _ := id

theorem Enumerated.cons {found : Enumerator} {rest : List Enumerator} {store : Store}
    (number : (Read.s32 before.reader).1 = .ok found.number)
    (attached : before.store.attachInitial found.target found.literal = .ok store)
    (others : Enumerated { before with reader := before.reader.ahead 4, store } rest after) :
    Enumerated before (found :: rest) after where
  numbers place other here := by
    cases place with
    | zero =>
      cases here
      exact number
    | succ place =>
      have later := others.numbers place other here
      rwa [Reader.ahead_ahead, Nat.add_comm, ← Nat.mul_succ] at later
  reader_eq := by
    rw [others.reader_eq, Reader.ahead_ahead, List.length_cons, Nat.mul_succ, Nat.add_comm]
  tables_eq := others.tables_eq.trans (Store.tables_of_attachInitial attached)
  attached other member := by
    rcases List.mem_cons.mp member with same | inRest
    · rw [same]
      exact others.kept found.target.id found.literal (Store.lookup_attached attached)
    · exact others.attached other inRest
  kept id earlier known :=
    others.kept id earlier (Store.lookup_kept attached id earlier known)

/-- Symbols that were all taken for enumerators are variables, and each of them was declared. -/
theorem enumerators_run {symbols : List Symbol} {declarations : List Declaration}
    (ran : symbols.mapM (enumerator enumName) before = (.ok declarations, after)) :
    ∃ enumerators, symbols = enumerators.map (fun found => .var found.target) ∧
      declarations = enumerators.map Enumerator.declaration ∧
      Enumerated before enumerators after := by
  induction symbols generalizing before declarations with
  | nil =>
    rw [List.mapM_nil] at ran
    cases ran
    exact ⟨[], rfl, rfl, .nil _⟩
  | cons symbol rest inductionHypothesis =>
    rw [List.mapM_cons] at ran
    obtain ⟨declaration, middle, firstRan, restRan⟩ := exists_of_bind_run ran
    obtain ⟨others, last, othersRan, ended⟩ := exists_of_bind_run restRan
    cases ended
    obtain ⟨found, isVariable, declared, number, store, attached, same⟩ := enumerator_run firstRan
    subst same
    obtain ⟨enumerators, areVariables, declarations, enumerated⟩ := inductionHypothesis othersRan
    refine ⟨found :: enumerators, ?_, ?_, .cons number attached enumerated⟩
    · rw [List.map_cons, isVariable, areVariables]
    · rw [List.map_cons, declared, declarations]

end Decode

/-! ## Room for values -/

/-- A store in which symbols wait for their initial values: no two are the same one, and none has a
value. -/
structure Store.Awaits (store : Store) (symbols : List Symbol) : Prop where
  increasing : symbols.Pairwise fun first second => first.id < second.id
  vacant : ∀ symbol ∈ symbols, store.initials.lookup symbol.id = none

/-- When the first one has its value, the others still wait. -/
theorem Store.Awaits.tail {store after : Store} {target : Variable} {value : Expr}
    {rest : List Symbol} (awaits : store.Awaits (.var target :: rest))
    (attached : store.attachInitial target value = .ok after) : after.Awaits rest := by
  obtain ⟨later, increasing⟩ := List.pairwise_cons.mp awaits.increasing
  refine ⟨increasing, fun other inRest => ?_⟩
  have different : other.id ≠ target.id := Nat.ne_of_gt (later other inRest)
  rw [lookup_attached_of_ne attached different]
  exact awaits.vacant other (List.mem_cons_of_mem _ inRest)

namespace Decode

open Stepping

variable {context : Context} {enumName : String} {before after : Decoder}

theorem enumerator_attachesOnce {symbol : Symbol}
    (vacant : before.store.initials.lookup symbol.id = none) :
    AttachesOnce (enumerator enumName symbol) before := by
  cases symbol with
  | var target =>
    refine ((Plain.next Read.s32_forward).once before).after fun number middle numberRan => ?_
    obtain ⟨reader, _, same⟩ := next_cases numberRan
    subst same
    let value := Expr.ofPlainInt .nowhere number.toInt64
    obtain ⟨_, makes⟩ := make_of_vacant vacant target.type 0 value
    exact .exchange (Declaration.make · target target.type 0 (some value)) makes
  | _ => exact .faulted rfl rfl

theorem enumerators_attachOnce {symbols : List Symbol} (awaits : before.store.Awaits symbols) :
    AttachesOnce (symbols.mapM (enumerator enumName)) before := by
  induction symbols generalizing before with
  | nil => exact .answered rfl
  | cons symbol rest inductionHypothesis =>
    rw [List.mapM_cons]
    refine (enumerator_attachesOnce (awaits.vacant symbol List.mem_cons_self)).after
      fun declaration middle firstRan => ?_
    obtain ⟨found, isVariable, _, _, store, attached, same⟩ := enumerator_run firstRan
    subst isVariable same
    refine AttachesOnce.after (inductionHypothesis (awaits.tail attached)) ?_
    exact fun _ _ _ => (Plain.pure _).once _

/-- A variable without a value and a number make an enumerator. -/
theorem enumerator_answers (enumName : String) {target : Variable}
    (vacant : before.store.initials.lookup target.id = none)
    (room : before.reader.offset + 4 ≤ before.reader.bytes.size) :
    ∃ declaration after, enumerator enumName (.var target) before = (.ok declaration, after) := by
  obtain ⟨number, read⟩ := Read.s32_of_room room
  have numberRan : next .s32 before =
      (.ok number, { before with reader := before.reader.ahead 4 }) := by
    rw [next, read]
  let value := Expr.ofPlainInt .nowhere number.toInt64
  obtain ⟨made, makes⟩ := make_of_vacant vacant target.type 0 value
  refine ⟨made.1, { before with reader := before.reader.ahead 4, store := made.2 }, ?_⟩
  rw [enumerator, bind_ok numberRan, bind_ok (get_apply _), bind_apply, lift_apply, makes]
  rfl

theorem enumerators_answer (enumName : String) {targets : List Variable}
    (awaits : before.store.Awaits (targets.map .var))
    (room : before.reader.offset + 4 * targets.length ≤ before.reader.bytes.size) :
    ∃ declarations after,
      (targets.map .var).mapM (enumerator enumName) before = (.ok declarations, after) := by
  induction targets generalizing before with
  | nil => exact ⟨[], before, rfl⟩
  | cons target rest inductionHypothesis =>
    rw [List.length_cons, Nat.mul_succ] at room
    have vacant := awaits.vacant (.var target) List.mem_cons_self
    obtain ⟨declaration, middle, firstRan⟩ := enumerator_answers enumName vacant (by omega)
    obtain ⟨found, isVariable, _, _, store, attached, same⟩ := enumerator_run firstRan
    cases isVariable
    subst same
    have roomRest : before.reader.offset + 4 + 4 * rest.length ≤ before.reader.bytes.size := by
      omega
    have awaitsRest : store.Awaits (rest.map .var) := awaits.tail attached
    obtain ⟨others, last, othersRan⟩ := @inductionHypothesis
      { before with reader := before.reader.ahead 4, store } awaitsRest roomRest
    refine ⟨declaration :: others, last, ?_⟩
    rw [List.map_cons, List.mapM_cons, bind_ok firstRan, bind_ok othersRan]
    rfl

/-! ## The table -/

/-- What a decoded table owns was made for it, symbol after symbol. -/
theorem table_owned_new {origin : Origin} {inherit : Bool} {id : TableId} (context : Context)
    (sound : before.Sound origin) (ran : table inherit before = (.ok (some id), after)) :
    (after.store.owned id).Pairwise (fun first second => first.id < second.id) ∧
      ∀ symbol ∈ after.store.owned id, before.store.nextId ≤ symbol.id := by
  obtain ⟨run⟩ := exists_tableRun ran
  obtain ⟨events, history⟩ := sound.history context (.table inherit)
  have grows := (history.sound_extended sound).2.store
  have same : before.afterCall context (.table inherit) = after := congrArg Prod.snd ran
  have owned := grows.owned_eq id
  rw [same, run.id_eq, Store.owned_of_size_le _ _ (Nat.le_refl _), List.nil_append,
    ← run.id_eq] at owned
  rw [owned]
  exact ⟨grows.arrivals_increasing id, grows.arrivals_new⟩

/-- If nothing is attached to symbols that are still to come, those of a decoded table wait. -/
theorem table_awaits {origin : Origin} {oldest : TableId} {inherit : Bool} {id : TableId}
    (context : Context) (sound : before.Sound origin) (filed : before.Filed oldest)
    (ran : table inherit before = (.ok (some id), after)) :
    after.store.Awaits (after.store.owned id) := by
  obtain ⟨increasing, new⟩ := table_owned_new context sound ran
  have kept := (table_plain inherit).initials_eq before
  rw [ran] at kept
  refine ⟨increasing, fun symbol member => ?_⟩
  rw [kept]
  exact filed.initials symbol.id (new symbol member)

theorem enumElement_attachesOnce {origin : Origin} {oldest : TableId} (context : Context)
    (sound : before.Sound origin) (filed : before.Filed oldest) :
    AttachesOnce enumElement before := by
  refine ((Plain.next Read.string_forward).once before).after fun name named nameRan => ?_
  obtain ⟨reader, read, same⟩ := next_cases nameRan
  subst same
  refine ((table_plain false).once _).after fun table? tabled tableRan => ?_
  cases table? with
  | none => exact .faulted rfl rfl
  | some id =>
    have awaits := table_awaits context (sound.withReader (Read.string_forward.moved read))
      (filed.withReader reader) tableRan
    exact (enumerators_attachOnce awaits).after fun _ _ _ => (Plain.pure _).once _

/-- At the tag of an enum, an element attaches values as the enum does. -/
theorem element_attachesOnce {tagged : Reader}
    (tagRead : Read.command before.reader = (.ok .enumElement, tagged))
    (enum : AttachesOnce enumElement { before with reader := tagged }) :
    AttachesOnce (element context) before := by
  refine ((Plain.next Read.command_forward).once before).after fun tag middle tagRan => ?_
  obtain ⟨reader, read, same⟩ := next_cases tagRan
  subst same
  rw [tagRead] at read
  cases read
  exact enum.after fun _ _ _ => (Plain.pure _).once _

/-! ## Whole enums -/

/-- The tag, the name and the table of an enum are decoded one after the other. -/
def EnumHead (before : Decoder) (name : String) (id : TableId) (tabled : Decoder) : Prop :=
  ∃ tagged named, Read.command before.reader = (.ok .enumElement, tagged) ∧
    Read.string tagged = (.ok name, named) ∧
    table false { before with reader := named } = (.ok (some id), tabled)

theorem EnumHead.moved {name : String} {id : TableId} {tabled : Decoder}
    (head : EnumHead before name id tabled) :
    ∃ reader, before.reader.Advances reader ∧
      table false { before with reader } = (.ok (some id), tabled) := by
  obtain ⟨tagged, named, tagRead, nameRead, tableRan⟩ := head
  exact ⟨named,
    (Read.command_forward.moved tagRead).trans (Read.string_forward.moved nameRead), tableRan⟩

theorem functionElement_run {element : Element}
    (ran : functionElement context before = (.ok element, after)) :
    ∃ definition, element = .function definition := by
  obtain ⟨declaration, declared, _, ran⟩ := exists_of_bind_run ran
  obtain ⟨body, finished, _, ran⟩ := exists_of_bind_run ran
  obtain ⟨count, counted, _, ran⟩ := exists_of_bind_run ran
  obtain ⟨referenced, listed, _, ran⟩ := exists_of_bind_run ran
  obtain ⟨_, made, _⟩ := exchange_run (Element.defineFunction · declaration true body referenced) ran
  obtain ⟨_, _, same⟩ := exists_of_bind_ok made
  cases same
  exact ⟨_, rfl⟩

theorem interfaceElement_run {element : Element}
    (ran : interfaceElement before = (.ok element, after)) :
    ∃ block, element = .interfaceBlock block := by
  obtain ⟨target, _, _, ran⟩ := exists_of_bind_run ran
  obtain ⟨name, _, _, ran⟩ := exists_of_bind_run ran
  obtain ⟨instanceName, _, _, ran⟩ := exists_of_bind_run ran
  obtain ⟨arraySize, _, _, ended⟩ := exists_of_bind_run ran
  cases ended
  exact ⟨_, rfl⟩

theorem globalElement_run {element : Element}
    (ran : globalElement context before = (.ok element, after)) :
    ∃ declaration, element = .global declaration := by
  obtain ⟨statement?, _, _, ran⟩ := exists_of_bind_run ran
  split at ran
  · cases ran
    exact ⟨_, rfl⟩
  · cases ran
  · cases ran

/-- An enum has a head, and then an enumerator for each symbol that its table owns. -/
theorem element_enum_run {definition : EnumDefinition}
    (ran : element context before = (.ok (some (.enum definition)), after)) :
    ∃ tabled, EnumHead before definition.name definition.table tabled ∧
      (tabled.store.owned definition.table).mapM (enumerator definition.name) tabled =
        (.ok definition.declarations, after) := by
  obtain ⟨tag, middle, tagRan, ran⟩ := exists_of_bind_run ran
  obtain ⟨tagged, tagRead, same⟩ := next_cases tagRan
  subst same
  split at ran
  · obtain ⟨found, last, enumRan, ended⟩ := exists_of_bind_run ran
    cases ended
    obtain ⟨name, middle, nameRan, ran⟩ := exists_of_bind_run enumRan
    obtain ⟨named, nameRead, same⟩ := next_cases nameRan
    subst same
    obtain ⟨table?, tabled, tableRan, ran⟩ := exists_of_bind_run ran
    cases table? with
    | none => cases ran
    | some id =>
      obtain ⟨current, _, getRan, ran⟩ := exists_of_bind_run ran
      cases getRan
      obtain ⟨declarations, last, declarationsRan, ended⟩ := exists_of_bind_run ran
      cases ended
      exact ⟨tabled, ⟨tagged, named, tagRead, nameRead, tableRan⟩, declarationsRan⟩
  -- No other tag makes an enum.
  · obtain ⟨found, last, functionRan, ended⟩ := exists_of_bind_run ran
    cases ended
    obtain ⟨_, same⟩ := functionElement_run functionRan
    cases same
  · obtain ⟨found, last, interfaceRan, ended⟩ := exists_of_bind_run ran
    cases ended
    obtain ⟨_, same⟩ := interfaceElement_run interfaceRan
    cases same
  · obtain ⟨found, last, globalRan, ended⟩ := exists_of_bind_run ran
    cases ended
    obtain ⟨_, same⟩ := globalElement_run globalRan
    cases same
  · obtain ⟨type, last, typeRan, ended⟩ := exists_of_bind_run ran
    cases ended
  · cases ran
  · cases ran

theorem EnumHead.element {name : String} {id : TableId} {tabled : Decoder}
    {declarations : List Declaration} (head : EnumHead before name id tabled)
    (ran : (tabled.store.owned id).mapM (enumerator name) tabled = (.ok declarations, after)) :
    Decode.element context before =
      (.ok (some (.enum { name, table := id, declarations, builtin := true })), after) := by
  obtain ⟨tagged, named, tagRead, nameRead, tableRan⟩ := head
  have tagRan : next .command before = (.ok .enumElement, { before with reader := tagged }) := by
    rw [next, tagRead]
  have nameRan : next .string { before with reader := tagged } =
      (.ok name, { before with reader := named }) := by
    rw [next, nameRead]
  have enumRan : enumElement { before with reader := tagged } =
      (.ok (.enum { name, table := id, declarations, builtin := true }), after) := by
    rw [enumElement, bind_ok nameRan, bind_ok tableRan]
    dsimp only
    rw [bind_ok (get_apply tabled), bind_ok ran]
    rfl
  rw [Decode.element, bind_ok tagRan]
  exact bind_ok enumRan

end Decode

namespace Decoder

open Decode

/-- An enum that a session decodes, whatever it was asked for before, has lost no enumerator: all
that its table owns are variables, there is a declaration and a value for each of them in their
order, and the values are the numbers that follow the table, one after the other. Each variable gets
its number as initial value. It never had another one, unless the session started from a store with
values for symbols that were still to come; so there is an enum whenever there are numbers enough. -/
theorem enums_complete {store : Store} {active : TableId} {bytes : Array UInt8} {initial : Decoder}
    (started : start store active bytes = .ok (.ok initial)) (context : Context)
    (earlier : List Call) :
    let before := initial.afterCalls context earlier
    (∀ definition after, element context before = (.ok (some (.enum definition)), after) →
      ∃ tabled enumerators, EnumHead before definition.name definition.table tabled ∧
        Enumerated tabled enumerators after ∧
        after.store.owned definition.table =
          enumerators.map (fun enumerator => .var enumerator.target) ∧
        (enumerators.map fun enumerator => enumerator.target.id).Pairwise (· < ·) ∧
        definition.declarations = enumerators.map Enumerator.declaration ∧
        definition.values = enumerators.map fun enumerator =>
          (enumerator.target.name, enumerator.number.toInt64)) ∧
    ((∀ id, store.nextId ≤ id → store.initials.lookup id = none) →
      (∀ tagged name, Read.command before.reader = (.ok .enumElement, tagged) →
        (element context before).1 ≠ .error (.initialValueTwice name)) ∧
      ∀ name id tabled (targets : List Variable), EnumHead before name id tabled →
        tabled.store.owned id = targets.map .var →
        tabled.reader.offset + 4 * targets.length ≤ tabled.reader.bytes.size →
        ∃ definition after, element context before = (.ok (some (.enum definition)), after) ∧
          definition.name = name ∧ definition.table = id) := by
  intro before
  have sound : before.Sound (Origin.ofStore store store.tables.size) :=
    ((Origin.ofStore_starts store).sound started).afterCalls context earlier
  refine ⟨fun definition after ran => ?_, fun vacant => ?_⟩
  · obtain ⟨tabled, head, declarationsRan⟩ := element_enum_run ran
    obtain ⟨enumerators, areVariables, declared, enumerated⟩ := enumerators_run declarationsRan
    obtain ⟨reader, moved, tableRan⟩ := head.moved
    obtain ⟨increasing, _⟩ := table_owned_new context (sound.withReader moved) tableRan
    have owned := Store.owned_eq_of_tables definition.table
      (congrArg (·[definition.table]?) enumerated.tables_eq)
    rw [areVariables, List.pairwise_map] at increasing
    exact ⟨tabled, enumerators, head, enumerated, owned.trans areVariables,
      List.pairwise_map.mpr increasing, declared, EnumDefinition.values_eq_map declared⟩
  · have filed : before.Filed store.tables.size := filed_afterCalls vacant started earlier
    constructor
    · intro tagged name tagRead failed
      have moved := Read.command_forward.moved tagRead
      have once := enumElement_attachesOnce context (sound.withReader moved) (filed.withReader tagged)
      cases element_attachesOnce tagRead once _ failed
    · intro name id tabled targets head areVariables room
      obtain ⟨reader, moved, tableRan⟩ := head.moved
      have awaits := table_awaits context (sound.withReader moved) (filed.withReader reader) tableRan
      rw [areVariables] at awaits
      obtain ⟨declarations, after, declarationsRan⟩ := enumerators_answer name awaits room
      rw [← areVariables] at declarationsRan
      exact ⟨_, after, head.element declarationsRan, rfl, rfl⟩

/-- A blob that holds the type `int` and an enum. The table of the enum has three records and one
reference, but the second record only refers to the first one. -/
def enumeratorsBlob : Array UInt8 :=
  #[14, 0, 1, 0, 1, 69, 1, 65, 1, 66, 3, 105, 110, 116, 13, 0, 0, 10, 0, 18, 4, 0, 16, 3, 0,
    15, 1, 0, 3, 6, 0, 11, 0, 0, 0, 11, 1, 0, 15, 2, 0, 3, 8, 0, 11, 0, 0, 0, 1, 0, 0, 0,
    255, 255, 255, 255, 7, 0, 0, 0]

/-- The session over that blob, below a root table. -/
def enumeratorsSession : Decoder :=
  { reader := ⟨enumeratorsBlob, 14⟩, store := (Store.newRoot {}).2, active := 0 }

/-- Whether a call gave an enum that passes a test. -/
def isEnumWith (test : EnumDefinition → Bool) : Except Fault (Option Element) → Bool
  | .ok (some (.enum definition)) => test definition
  | _ => false

theorem exists_of_isEnumWith {test : EnumDefinition → Bool}
    {outcome : Except Fault (Option Element)} (holds : isEnumWith test outcome = true) :
    ∃ definition, outcome = .ok (some (.enum definition)) ∧ test definition = true := by
  unfold isEnumWith at holds
  split at holds
  · exact ⟨_, rfl, holds⟩
  · cases holds

/-- So the table owns two variables, and two numbers follow it. -/
theorem two_enumerators_complete :
    start (Store.newRoot {}).2 0 enumeratorsBlob = .ok (.ok enumeratorsSession) ∧
      (∃ definition after, element {} (enumeratorsSession.afterCalls {} [.type]) =
          (.ok (some (.enum definition)), after) ∧
        definition.values = [("A", -1), ("B", 7)] ∧
        (after.store.owned definition.table).length = 2) ∧
      ∀ name, (element {} (enumeratorsSession.afterCalls {} [.type])).1 ≠
        .error (.initialValueTwice name) := by
  have started : start (Store.newRoot {}).2 0 enumeratorsBlob = .ok (.ok enumeratorsSession) := rfl
  have evidence : isEnumWith (fun definition => definition.values == [("A", -1), ("B", 7)])
      (element {} (enumeratorsSession.afterCalls {} [.type])).1 = true := by decide +kernel
  obtain ⟨complete, others⟩ := enums_complete started {} [.type]
  obtain ⟨definition, answered, listed⟩ := exists_of_isEnumWith evidence
  have values : definition.values = [("A", -1), ("B", 7)] := eq_of_beq listed
  obtain ⟨_, enumerators, ⟨tagged, _, tagRead, _, _⟩, _, owned, _, _, valued⟩ :=
    complete definition _ (Prod.ext answered rfl)
  refine ⟨started, ⟨definition, _, Prod.ext answered rfl, values, ?_⟩, ?_⟩
  · rw [owned, List.length_map]
    rw [valued] at values
    have length := congrArg List.length values
    rwa [List.length_map] at length
  · exact fun name => (others fun _ _ => rfl).1 tagged name tagRead

end Decoder

end Shading
