import Shading.Proofs.Decode.Chronicled

/-!
The registry of symbols along a chronicle. A registry binds exactly what the records before entered
in it, each id once; a reference finds what an earlier record entered. Main statement:
`Decoder.registry_lawful`.
-/

namespace Shading

abbrev Registry := Array (Option Symbol)

namespace Registry

variable {before middle after : Registry}

/-! ## One entry -/

/-- A registry that does not end in a vacant place. -/
def Tight (registry : Registry) : Prop :=
  ∀ last, registry.size = last + 1 → ∃ symbol, registry[last]?.join = some symbol

theorem size_entered (registry : Registry) (id : UInt16) (symbol : Symbol) :
    (Decode.entered registry id symbol).size =
      registry.size + (id.toNat + 1 - registry.size) := by
  rw [Decode.entered, Array.size_setIfInBounds, Decode.grown, Array.size_append,
    Array.size_replicate]

theorem lookup_entered (registry : Registry) (id : UInt16) (symbol : Symbol) (place : Nat) :
    (Decode.entered registry id symbol)[place]?.join =
      if place = id.toNat then some symbol else registry[place]?.join := by
  by_cases same : place = id.toNat
  · have room : id.toNat < (Decode.grown registry id.toNat).size := by
      rw [Decode.grown, Array.size_append, Array.size_replicate]
      omega
    rw [same, if_pos rfl, Decode.entered, Array.getElem?_setIfInBounds_self, if_pos room]
    rfl
  · rw [if_neg same, Decode.entered, Array.getElem?_setIfInBounds_ne (Ne.symm same)]
    exact Decode.lookup_grown registry id.toNat place

theorem Tight.entered {registry : Registry} (tight : registry.Tight) (id : UInt16)
    (symbol : Symbol) : Tight (Decode.entered registry id symbol) := by
  intro last size
  rw [lookup_entered]
  by_cases same : last = id.toNat
  · exact ⟨symbol, if_pos same⟩
  · rw [if_neg same]
    apply tight
    rw [size_entered] at size
    omega

/-- The number of registered ids is zero, or the greatest bound id and one. -/
theorem Tight.size_cases {registry : Registry} (tight : registry.Tight) :
    (registry.size = 0 ∧ ∀ place : Nat, registry[place]?.join = none) ∨
      ∃ greatest symbol, registry.size = greatest + 1 ∧
        registry[greatest]?.join = some symbol ∧
        ∀ (place : Nat) other, registry[place]?.join = some other → place ≤ greatest := by
  cases size : registry.size with
  | zero =>
    refine Or.inl ⟨rfl, fun place => ?_⟩
    rw [Array.getElem?_eq_none (by omega)]
    rfl
  | succ greatest =>
    obtain ⟨symbol, bound⟩ := tight greatest size
    refine Or.inr ⟨greatest, symbol, rfl, bound, ?_⟩
    intro place other found
    have inside := Decode.lt_size_of_bound found
    omega

/-! ## Entries after each other -/

/-- How a registry came from another one by some entries: each took a place that was vacant. -/
structure Enters (before : Registry) (entries : List (Nat × Symbol)) (after : Registry) : Prop where
  bound_iff : ∀ (place : Nat) symbol, after[place]?.join = some symbol ↔
    before[place]?.join = some symbol ∨ (place, symbol) ∈ entries
  vacant : ∀ entry ∈ entries, before[entry.1]?.join = none
  once : (entries.map Prod.fst).Nodup
  tight : before.Tight → after.Tight

namespace Enters

theorem refl (registry : Registry) : Enters registry [] registry where
  bound_iff place symbol := by simp
  vacant _ absent := by cases absent
  once := List.nodup_nil
  tight := id

theorem trans {earlier later : List (Nat × Symbol)} (first : Enters before earlier middle)
    (second : Enters middle later after) : Enters before (earlier ++ later) after where
  bound_iff place symbol := by
    rw [second.bound_iff, first.bound_iff, List.mem_append, or_assoc]
  vacant entry member := by
    rcases List.mem_append.mp member with inEarlier | inLater
    · exact first.vacant entry inEarlier
    · have stillVacant := second.vacant entry inLater
      -- A place that was taken before would be taken in the middle as well.
      cases taken : before[entry.1]?.join with
      | none => rfl
      | some symbol =>
        have kept := (first.bound_iff entry.1 symbol).mpr (Or.inl taken)
        cases stillVacant.symm.trans kept
  once := by
    rw [List.map_append, List.nodup_append]
    refine ⟨first.once, second.once, ?_⟩
    -- What the earlier entries took is not vacant for the later ones.
    intro place inEarlier other inLater same
    obtain ⟨⟨_, symbol⟩, entered, rfl⟩ := List.mem_map.mp inEarlier
    obtain ⟨entry, reentered, rfl⟩ := List.mem_map.mp inLater
    have taken := (first.bound_iff _ symbol).mpr (Or.inr entered)
    have stillVacant := second.vacant entry reentered
    rw [← same] at stillVacant
    cases stillVacant.symm.trans taken
  tight := second.tight ∘ first.tight

theorem single {registry : Registry} {id : UInt16} (symbol : Symbol)
    (vacant : registry[id.toNat]?.join = none) :
    Enters registry [(id.toNat, symbol)] (Decode.entered registry id symbol) where
  bound_iff place found := by
    rw [lookup_entered]
    by_cases same : place = id.toNat
    · subst same
      simp [vacant, eq_comm]
    · simp [same]
  vacant entry member := by
    rw [List.mem_singleton.mp member]
    exact vacant
  once := by simp
  tight before := before.entered id symbol

theorem kept {entries : List (Nat × Symbol)} (enters : Enters before entries after) {place : Nat}
    {symbol : Symbol} (bound : before[place]?.join = some symbol) :
    after[place]?.join = some symbol :=
  (enters.bound_iff place symbol).mpr (Or.inl bound)

end Enters

end Registry

/-! ## Records -/

namespace Record

/-- The place in the registry and the symbol that a record enters there. A reference enters
nothing. -/
def entry? (record : Record) : Option (Nat × Symbol) :=
  if record.tag = .symbolRef then none
  else record.id?.map fun id => (id.toNat, record.symbol)

def entries (log : List Record) : List (Nat × Symbol) :=
  log.filterMap entry?

@[simp]
theorem entries_append (earlier later : List Record) :
    entries (earlier ++ later) = entries earlier ++ entries later := by
  exact List.filterMap_append

end Record

/-- The end of a record changes the registry by its entry. -/
theorem Closing.enters {tag : Command} {id? : Option UInt16} {symbol : Symbol}
    {ready after : Decoder} (closing : Closing tag id? symbol ready after) (start : Decoder) :
    Registry.Enters ready.registry
      (Record.entries [{ start, tag, id?, symbol, ready, stop := after }]) after.registry := by
  cases closing with
  | @create tag id symbol ready kind new vacant =>
    have entry (stop : Decoder) :
        Record.entries [{ start, tag, id? := some id, symbol, ready, stop }] =
          [(id.toNat, symbol)] := by
      simp [Record.entries, Record.entry?, kind.2.1]
    rw [entry]
    exact .single symbol vacant
  | createMember new => exact .refl _
  | refer bound => exact .refl _
  | find found vacant => exact .single _ vacant

/-- A record that carries an id ends with that id bound to its symbol. -/
theorem Closing.bound {tag : Command} {id? : Option UInt16} {symbol : Symbol}
    {ready after : Decoder} (closing : Closing tag id? symbol ready after) {id : UInt16}
    (carried : id? = some id) : after.registry[id.toNat]?.join = some symbol := by
  cases closing with
  | create kind new vacant =>
    cases carried
    rw [Registry.lookup_entered, if_pos rfl]
  | createMember new => cases carried
  | refer bound =>
    cases carried
    exact bound
  | find found vacant =>
    cases carried
    rw [Registry.lookup_entered, if_pos rfl]

/-- Only a member of an interface block has no id. -/
theorem Closing.carries {tag : Command} {id? : Option UInt16} {symbol : Symbol}
    {ready after : Decoder} (closing : Closing tag id? symbol ready after) (notField : tag ≠ .field) :
    ∃ id, id? = some id := by
  cases closing with
  | createMember new => exact absurd rfl notField
  | _ => exact ⟨_, rfl⟩

theorem Closing.referred {id? : Option UInt16} {symbol : Symbol} {ready after : Decoder}
    (closing : Closing .symbolRef id? symbol ready after) :
    ∃ id, id? = some id ∧ ready.registry[id.toNat]?.join = some symbol := by
  generalize reference : Command.symbolRef = tag at closing
  cases closing with
  | create kind new vacant => exact absurd reference.symm kind.2.1
  | createMember new => cases reference
  | refer bound => exact ⟨_, rfl, bound⟩
  | find found vacant => cases reference

theorem Chronicle.enters {level : Level} {before after : Decoder} {log : List Record}
    (chronicle : Chronicle level before log after) :
    Registry.Enters before.registry (Record.entries log) after.registry := by
  induction chronicle with
  | andThen first second firstHypothesis secondHypothesis =>
    rw [Record.entries_append]
    exact firstHypothesis.trans secondHypothesis
  | record decoded tagged numbered within closing inductionHypothesis =>
    rw [Record.entries_append]
    exact inductionHypothesis.trans (closing.enters _)
  | inside inner inductionHypothesis => exact inductionHypothesis
  | _ => exact .refl _

namespace Record.Follows

variable {record : Record} {level : Level} {before : Decoder} {earlier : List Record}

theorem enters (follows : record.Follows level before earlier) :
    Registry.Enters before.registry (entries earlier) record.ready.registry := by
  obtain ⟨reader, outer, nested, parts, upTo, _, _, within⟩ := follows.holds
  rw [parts, entries_append]
  exact upTo.enters.trans within.enters

theorem entersAll (follows : record.Follows level before earlier) :
    Registry.Enters before.registry (entries (earlier ++ [record])) record.stop.registry := by
  rw [entries_append]
  exact follows.enters.trans (follows.closing.enters record.start)

theorem nextId_le (follows : record.Follows level before earlier) :
    before.store.nextId ≤ record.ready.store.nextId := by
  obtain ⟨reader, outer, nested, _, upTo, _, _, within⟩ := follows.holds
  exact Nat.le_trans upTo.nextId_le within.nextId_le

end Record.Follows

/-! ## Sessions -/

/-- Where a registered symbol comes from: its record created it, in a session that drew its first
id at `start`, or found it as the type that a name stood for. -/
def Record.Grounded (start : Nat) (record : Record) : Prop :=
  (start ≤ record.symbol.id ∧ record.symbol.id = record.ready.store.nextId ∧
    record.stop.store =
      record.ready.store.fresh.2.adopt record.ready.active record.symbol) ∨
  (record.tag = .systemType ∧ ∃ name type, record.symbol = .type type ∧
    record.ready.store.find? record.ready.active name = some (.type type))

theorem Record.grounded_of_entry {record : Record} {start : Nat}
    (closing : Closing record.tag record.id? record.symbol record.ready record.stop)
    (later : start ≤ record.ready.store.nextId) {entry : Nat × Symbol}
    (entered : record.entry? = some entry) : record.Grounded start := by
  obtain ⟨_, tag, id?, symbol, ready, stop⟩ := record
  dsimp only at closing later
  cases closing with
  | create kind new vacant => exact Or.inl ⟨Nat.le_trans later (Nat.le_of_eq new.symm), new, rfl⟩
  | createMember new => exact Or.inl ⟨Nat.le_trans later (Nat.le_of_eq new.symm), new, rfl⟩
  | refer bound => cases entered
  | find found vacant => exact Or.inr ⟨rfl, _, _, rfl, found⟩

/-- The registry of a session, against the records that were decoded since it started. -/
structure Decoder.Registers (start : Decoder) (log : List Record) (now : Decoder) : Prop where
  bound_iff : ∀ (place : Nat) symbol,
    now.registry[place]?.join = some symbol ↔ (place, symbol) ∈ Record.entries log
  once : ((Record.entries log).map Prod.fst).Nodup
  registeredIds_cases :
    (now.registeredIds = 0 ∧ ∀ place : Nat, now.registry[place]?.join = none) ∨
    ∃ greatest symbol, now.registeredIds = greatest + 1 ∧
      now.registry[greatest]?.join = some symbol ∧
      ∀ (place : Nat) other, now.registry[place]?.join = some other → place ≤ greatest
  record_bound : ∀ record ∈ log, ∀ id, record.id? = some id →
    record.stop.registry[id.toNat]?.join = some record.symbol ∧
      now.registry[id.toNat]?.join = some record.symbol
  /-- What a reference answers was entered by a record that ended before. -/
  reference_bound : ∀ earlier record later, log = earlier ++ record :: later →
    record.tag = .symbolRef →
    ∃ id, record.id? = some id ∧ (id.toNat, record.symbol) ∈ Record.entries earlier
  grounded : ∀ record ∈ log, ∀ entry, record.entry? = some entry →
    record.Grounded start.store.nextId

namespace Decoder

variable {initial now : Decoder} {log : List Record}

theorem registers_of_chronicle (empty : initial.registry = #[])
    (chronicle : Chronicle .node initial log now) : initial.Registers log now := by
  have enters := chronicle.enters
  have bound_iff (place : Nat) (symbol : Symbol) :
      now.registry[place]?.join = some symbol ↔ (place, symbol) ∈ Record.entries log := by
    rw [enters.bound_iff, empty]
    simp
  have tight : Registry.Tight initial.registry := by
    rw [empty]
    intro last size
    cases size
  refine
    { bound_iff
      once := enters.once
      registeredIds_cases := (enters.tight tight).size_cases
      record_bound := ?_
      reference_bound := ?_
      grounded := ?_ }
  · intro record member id carried
    obtain ⟨earlier, later, split⟩ := List.append_of_mem member
    have follows := chronicle.follows split
    have atStop := follows.closing.bound carried
    have entered := (follows.entersAll.bound_iff _ _).mp atStop
    rw [empty] at entered
    refine ⟨atStop, (bound_iff _ _).mpr ?_⟩
    rw [split, List.append_cons, Record.entries_append]
    exact List.mem_append_left _ (by simpa using entered)
  · intro earlier record later split isReference
    have follows := chronicle.follows split
    have closing := follows.closing
    rw [isReference] at closing
    obtain ⟨id, carried, bound⟩ := closing.referred
    refine ⟨id, carried, ?_⟩
    have entered := (follows.enters.bound_iff _ _).mp bound
    rw [empty] at entered
    simpa using entered
  · intro record member entry entered
    obtain ⟨earlier, later, split⟩ := List.append_of_mem member
    have follows := chronicle.follows split
    exact record.grounded_of_entry follows.closing follows.nextId_le entered

theorem bound_of_decoded {bound : Nat} {decoder after : Decoder} {symbol : Symbol} {tag : Command}
    {tagged : Reader} {id : UInt16} (ran : Decode.symbolWithin bound decoder = (.ok symbol, after))
    (read : Read.command decoder.reader = (.ok tag, tagged)) (notField : tag ≠ .field)
    (carried : (Read.u16 tagged).1 = .ok id) :
    after.registry[id.toNat]?.join = some symbol := by
  cases bound with
  | zero => cases ran
  | succ bound =>
    obtain ⟨tag', reader, id?, nested, ready, read', numbered, _, closing⟩ :=
      Decode.exists_record (Decode.symbolWithin_prepares bound) ran
    cases read.symm.trans read'
    obtain ⟨found, same⟩ := closing.carries notField
    have equal := carried.symm.trans (numbered found same)
    cases equal
    exact closing.bound same

/-- A reference answers what its id is bound to, or faults. -/
theorem reference_apply {bound : Nat} {decoder : Decoder} {tagged after : Reader} {id : UInt16}
    (tag : Read.command decoder.reader = (.ok .symbolRef, tagged))
    (carried : Read.u16 tagged = (.ok id, after)) :
    Decode.symbolWithin (bound + 1) decoder =
      Decode.registered id { decoder with reader := after } := by
  have tagRan : Decode.next Read.command decoder =
      (.ok .symbolRef, { decoder with reader := tagged }) := by
    rw [Decode.next, tag]
  have idRan : Decode.next Read.u16 { decoder with reader := tagged } =
      (.ok id, { decoder with reader := after }) := by
    rw [Decode.next, carried]
  rw [Decode.symbolWithin, Stepping.bind_ok tagRan, Decode.symbolRecord, Stepping.bind_ok idRan]

/-- In every session, the registry binds what the records before entered, each id once and for good.
A record with an id that is decoded leaves that id bound to its symbol, and a reference answers
what an earlier record entered or faults. -/
theorem registry_lawful {store : Store} {active : TableId} {bytes : Array UInt8}
    (started : start store active bytes = .ok (.ok initial)) (context : Context) :
    (∀ before calls, ∃ log, Chronicle .node before log (before.afterCalls context calls)) ∧
    ∀ log now, Chronicle .node initial log now →
      initial.Registers log now ∧
      (∀ more later, Chronicle .node now more later → ∀ (place : Nat) symbol,
        now.registry[place]?.join = some symbol → later.registry[place]?.join = some symbol) ∧
      (∀ bound symbol after tag tagged id,
        Decode.symbolWithin bound now = (.ok symbol, after) →
        Read.command now.reader = (.ok tag, tagged) → tag ≠ .field →
        (Read.u16 tagged).1 = .ok id → after.registry[id.toNat]?.join = some symbol) ∧
      ∀ bound tagged after id, Read.command now.reader = (.ok .symbolRef, tagged) →
        Read.u16 tagged = (.ok id, after) →
        (∀ symbol, (id.toNat, symbol) ∈ Record.entries log →
          Decode.symbolWithin (bound + 1) now = (.ok symbol, { now with reader := after })) ∧
        ((∀ symbol, (id.toNat, symbol) ∉ Record.entries log) →
          Decode.symbolWithin (bound + 1) now =
            (.error (.notRegistered id.toNat), { now with reader := after })) := by
  refine ⟨chronicle_afterCalls context, fun log now chronicle => ?_⟩
  have empty : initial.registry = #[] := by
    obtain ⟨_, reader, _, same⟩ := start_cases started
    rw [same]
  have registers := registers_of_chronicle empty chronicle
  refine ⟨registers, ?_, ?_, ?_⟩
  · intro more later further place symbol bound
    exact further.enters.kept bound
  · intro bound symbol after tag tagged id ran read notField carried
    exact bound_of_decoded ran read notField carried
  · intro bound tagged after id read carried
    rw [reference_apply read carried, Decode.registered, Stepping.bind_ok (Stepping.get_apply _)]
    constructor
    · intro symbol entered
      rw [(registers.bound_iff _ _).mpr entered]
      rfl
    · intro missing
      have vacant : now.registry[id.toNat]?.join = none := by
        cases taken : now.registry[id.toNat]?.join with
        | none => rfl
        | some symbol => exact absurd ((registers.bound_iff _ _).mp taken) (missing symbol)
      rw [vacant]
      rfl

/-- These calls decode records within each other and in tables within each other. An id is entered
when its record ends, and the references find the enums that ended before. -/
theorem nested_registry_lawful :
    start emptyStore 0 nestedBlob = .ok (.ok nestedSession) ∧
      ((nestedSession.afterCalls {} [.symbol, .stmt]).registry.toList.map fun symbol? =>
          symbol?.map fun symbol => symbol.id - emptyStore.nextId) =
        [some 1, some 0, some 2, some 3, some 4] ∧
      ∃ log, nestedSession.Registers log (nestedSession.afterCalls {} [.symbol, .stmt]) := by
  have started : start emptyStore 0 nestedBlob = .ok (.ok nestedSession) := rfl
  have lawful := registry_lawful started {}
  obtain ⟨log, chronicle⟩ := lawful.1 nestedSession [.symbol, .stmt]
  exact ⟨started, by decide +kernel, log, (lawful.2 log _ chronicle).1⟩

end Decoder

end Shading
