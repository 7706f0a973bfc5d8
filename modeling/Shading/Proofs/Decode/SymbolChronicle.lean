import Shading.Proofs.Decode.Chronicle
import Shading.Proofs.Decode.Runs

/-!
Symbols are decoded along chronicles, whatever the blob holds and whatever the session before. What
comes before the end of a record reads plain values and further records, so that an answer leaves a
chronicle of one level; a fault can come after an id was drawn or a symbol adopted. Main statement:
`Decode.symbolWithin_prepares`.
-/

namespace Shading

namespace Decode

open Stepping

variable {α β : Type}

/-! ## Steps within a record -/

/-- What a step does before it faults has a chronicle. -/
def Recorded (step : Decode α) : Prop :=
  ∀ decoder fault after, step decoder = (.error fault, after) →
    ∃ log, Chronicle .node decoder log after

/-- A step within the record of a symbol. It reads plain values and further records, unless it
faults. -/
structure Prepares (step : Decode α) : Prop where
  answered : ∀ decoder value after, step decoder = (.ok value, after) →
    ∃ log, Chronicle .symbol decoder log after
  faulted : Recorded step

/-- The last part of the record of a symbol. -/
structure Concludes (tag : Command) (id? : Option UInt16) (step : Decode Symbol) : Prop where
  answered : ∀ decoder symbol after, step decoder = (.ok symbol, after) →
    ∃ log ready, Chronicle .symbol decoder log ready ∧ Closing tag id? symbol ready after
  faulted : Recorded step

namespace Prepares

theorem pure (value : α) : Prepares (Pure.pure value) where
  answered decoder _ _ ran := by
    cases ran
    exact ⟨[], .nothing _ decoder⟩
  faulted _ _ _ ran := by cases ran

theorem throw (fault : Fault) : Prepares (throw fault : Decode α) where
  answered _ _ _ ran := by cases ran
  faulted decoder _ _ ran := by
    cases ran
    exact ⟨[], .nothing _ decoder⟩

theorem lift (outcome : Except Fault α) : Prepares (liftM outcome) := by
  cases outcome with
  | ok value => exact .pure value
  | error fault => exact .throw fault

theorem next {read : Read α} (forward : read.Forward) : Prepares (Decode.next read) where
  answered decoder _ _ ran := by
    obtain ⟨reader, read, same⟩ := next_cases ran
    rw [same]
    exact ⟨[], .read (forward.moved read)⟩
  faulted decoder _ _ ran := by
    obtain ⟨reader, read, same⟩ := next_cases ran
    rw [same]
    exact ⟨[], .read (forward.moved read)⟩

/-- A fault after a step that only reads. -/
theorem thenRecorded {first : Decode α} {next : α → Decode β} (earlier : Prepares first)
    (later : ∀ value, Recorded (next value)) : Recorded (first >>= next) := by
  intro decoder fault after ran
  rcases fault_of_bind_run ran with firstRan | ⟨value, middle, firstRan, nextRan⟩
  · exact earlier.faulted _ _ _ firstRan
  · obtain ⟨log, chronicle⟩ := earlier.answered _ _ _ firstRan
    obtain ⟨more, further⟩ := later value _ _ _ nextRan
    exact ⟨_, chronicle.between.andThen further⟩

theorem bind {first : Decode α} {next : α → Decode β} (earlier : Prepares first)
    (later : ∀ value, Prepares (next value)) : Prepares (first >>= next) where
  answered decoder result after ran := by
    obtain ⟨value, middle, firstRan, nextRan⟩ := exists_of_bind_run ran
    obtain ⟨log, chronicle⟩ := earlier.answered _ _ _ firstRan
    obtain ⟨more, further⟩ := (later value).answered _ _ _ nextRan
    exact ⟨_, chronicle.andThen further⟩
  faulted := earlier.thenRecorded fun value => (later value).faulted

theorem times {step : Decode α} (prepares : Prepares step) (count : Nat) :
    Prepares (times count step) := by
  induction count with
  | zero => exact .pure []
  | succ count inductionHypothesis =>
    refine prepares.bind fun value => ?_
    exact inductionHypothesis.bind fun values => .pure (value :: values)

end Prepares

/-- The record of a symbol after its tag. -/
structure Records (tag : Command) (step : Decode Symbol) : Prop where
  answered : ∀ decoder symbol after, step decoder = (.ok symbol, after) →
    ∃ id? log ready, (∀ id ∈ id?, (Read.u16 decoder.reader).1 = .ok id) ∧
      Chronicle .symbol decoder log ready ∧ Closing tag id? symbol ready after
  faulted : Recorded step

theorem freshId_apply (decoder : Decoder) :
    freshId decoder =
      (.ok decoder.store.nextId, { decoder with store := decoder.store.fresh.2 }) := by
  rfl

theorem lt_size_of_bound {registry : Array (Option Symbol)} {place : Nat} {symbol : Symbol}
    (bound : registry[place]?.join = some symbol) : place < registry.size := by
  refine Nat.lt_of_not_le fun outside => ?_
  rw [Array.getElem?_eq_none outside] at bound
  cases bound

theorem grown_of_bound {registry : Array (Option Symbol)} {id : Nat} {symbol : Symbol}
    (bound : registry[id]?.join = some symbol) : grown registry id = registry := by
  have inside := lt_size_of_bound bound
  have noRoom : id + 1 - registry.size = 0 := by omega
  rw [grown, noRoom]
  simp

/-- All that can happen at a registration. A fault leaves the session as it was. -/
theorem register_cases (id : UInt16) (symbol : Symbol) (decoder : Decoder) :
    (decoder.registry[id.toNat]?.join = none ∧
      register id symbol decoder =
        (.ok symbol, { decoder with registry := entered decoder.registry id symbol })) ∨
    ((∃ other, decoder.registry[id.toNat]?.join = some other) ∧
      register id symbol decoder = (.error (.registeredTwice id.toNat), decoder)) := by
  have lookup := lookup_grown decoder.registry id.toNat id.toNat
  rw [register, bind_ok (modify_apply _ decoder), bind_ok (get_apply _)]
  dsimp only
  cases taken : decoder.registry[id.toNat]?.join with
  | none =>
    rw [taken] at lookup
    rw [lookup]
    exact Or.inl ⟨rfl, rfl⟩
  | some other =>
    rw [taken] at lookup
    rw [lookup]
    refine Or.inr ⟨⟨other, rfl⟩, ?_⟩
    rw [grown_of_bound taken]
    rfl

namespace Concludes

variable {tag : Command} {id? : Option UInt16} {id : UInt16}

theorem after {first : Decode α} {next : α → Decode Symbol} (earlier : Prepares first)
    (later : ∀ value, Concludes tag id? (next value)) : Concludes tag id? (first >>= next) where
  answered decoder symbol after ran := by
    obtain ⟨value, middle, firstRan, nextRan⟩ := exists_of_bind_run ran
    obtain ⟨log, chronicle⟩ := earlier.answered _ _ _ firstRan
    obtain ⟨more, ready, further, closing⟩ := (later value).answered _ _ _ nextRan
    exact ⟨_, ready, chronicle.andThen further, closing⟩
  faulted := earlier.thenRecorded fun value => (later value).faulted


theorem of_cases {step : Decode Symbol}
    (cases : ∀ decoder,
      (∃ symbol after, step decoder = (.ok symbol, after) ∧
        Closing tag id? symbol decoder after) ∨
      ∃ fault after, step decoder = (.error fault, after) ∧
        Chronicle .node decoder [] after) : Concludes tag id? step where
  answered decoder symbol after ran := by
    rcases cases decoder with ⟨_, _, answered, closing⟩ | ⟨_, _, faulted, _⟩
    · cases answered.symm.trans ran
      exact ⟨[], decoder, .nothing _ decoder, closing⟩
    · cases faulted.symm.trans ran
  faulted decoder fault after ran := by
    rcases cases decoder with ⟨_, _, answered, _⟩ | ⟨_, _, faulted, chronicle⟩
    · cases answered.symm.trans ran
    · cases faulted.symm.trans ran
      exact ⟨[], chronicle⟩

/-- A new symbol is made, adopted and registered. -/
theorem create {γ : Type} {make : Nat → Except Fault γ} {symbolOf : γ → Symbol}
    (kind : tag ≠ .field ∧ tag ≠ .symbolRef ∧ tag ≠ .systemType)
    (labelled : ∀ new value, make new = .ok value → (symbolOf value).id = new) :
    Concludes tag (some id)
      (freshId >>= fun new => liftM (make new) >>= fun value => enter id (symbolOf value)) := by
  refine of_cases fun decoder => ?_
  rw [bind_ok (freshId_apply decoder), bind_apply, lift_apply]
  cases made : make decoder.store.nextId with
  | error fault => exact Or.inr ⟨fault, _, rfl, .waste decoder⟩
  | ok value =>
    have new := labelled decoder.store.nextId value made
    dsimp only
    rw [enter, adopt, bind_ok (modify_apply _ _)]
    rcases register_cases id (symbolOf value)
        { decoder with store := decoder.store.fresh.2.adopt decoder.active (symbolOf value) } with
      ⟨vacant, ran⟩ | ⟨_, ran⟩
    · exact Or.inl ⟨_, _, ran, .create kind new vacant⟩
    -- The registration comes last: if it faults, the table owns the symbol all the same.
    · exact Or.inr ⟨_, _, ran, .orphan decoder (symbolOf value) new⟩

/-- The same for a symbol that can always be made. -/
theorem createNew {symbolOf : Nat → Symbol}
    (kind : tag ≠ .field ∧ tag ≠ .symbolRef ∧ tag ≠ .systemType)
    (labelled : ∀ new, (symbolOf new).id = new) :
    Concludes tag (some id) (freshId >>= fun new => enter id (symbolOf new)) := by
  refine @create tag id Nat Except.ok symbolOf kind ?_
  intro new value made
  cases made
  exact labelled new

theorem createMember {make : Nat → Except Fault BlockMember}
    (labelled : ∀ new field, make new = .ok field → field.id = new) :
    Concludes .field none
      (freshId >>= fun new => liftM (make new) >>= fun field =>
        adopt (.member field) >>= fun _ => Pure.pure (.member field)) := by
  refine of_cases fun decoder => ?_
  rw [bind_ok (freshId_apply decoder), bind_apply, lift_apply]
  cases made : make decoder.store.nextId with
  | error fault => exact Or.inr ⟨fault, _, rfl, .waste decoder⟩
  | ok field =>
    have new : (Symbol.member field).id = decoder.store.nextId := labelled _ _ made
    exact Or.inl ⟨_, _, rfl, .createMember new⟩

theorem refer : Concludes .symbolRef (some id) (registered id) := by
  refine of_cases fun decoder => ?_
  rw [registered, bind_ok (get_apply decoder)]
  cases bound : decoder.registry[id.toNat]?.join with
  | none => exact Or.inr ⟨_, _, rfl, .nothing _ decoder⟩
  | some symbol => exact Or.inl ⟨_, _, rfl, .refer bound⟩

theorem find (name : String) :
    Concludes .systemType (some id)
      (systemType name >>= fun type => register id (.type type)) := by
  refine of_cases fun decoder => ?_
  have quiet : Chronicle .node decoder [] decoder := .nothing _ decoder
  rw [bind_apply, systemType, bind_ok (get_apply decoder)]
  cases found : decoder.store.find? decoder.active name with
  | none => exact Or.inr ⟨_, _, rfl, quiet⟩
  | some symbol =>
    cases symbol with
    | type type =>
      rcases register_cases id (.type type) decoder with ⟨vacant, ran⟩ | ⟨_, ran⟩
      · exact Or.inl ⟨_, _, ran, .find found vacant⟩
      · exact Or.inr ⟨_, _, ran, quiet⟩
    | _ => exact Or.inr ⟨_, _, rfl, quiet⟩

end Concludes

/-! ## Records -/

namespace Records

variable {tag : Command}

/-- A record with an id, which comes first. -/
theorem numbered {rest : UInt16 → Decode Symbol}
    (concludes : ∀ id, Concludes tag (some id) (rest id)) :
    Records tag (Decode.next Read.u16 >>= rest) where
  answered decoder symbol after ran := by
    obtain ⟨id, middle, idRan, restRan⟩ := exists_of_bind_run ran
    obtain ⟨log, chronicle⟩ := (Prepares.next Read.u16_forward).answered _ _ _ idRan
    obtain ⟨more, ready, further, closing⟩ := (concludes id).answered _ _ _ restRan
    refine ⟨some id, _, ready, ?_, chronicle.andThen further, closing⟩
    intro other same
    cases same
    exact congrArg Prod.fst idRan
  faulted := (Prepares.next Read.u16_forward).thenRecorded fun id => (concludes id).faulted

theorem throw (fault : Fault) : Records tag (throw fault) where
  answered _ _ _ ran := by cases ran
  faulted decoder _ _ ran := by
    cases ran
    exact ⟨[], .nothing _ decoder⟩

theorem unnumbered {step : Decode Symbol} (concludes : Concludes tag none step) :
    Records tag step where
  answered decoder symbol after ran := by
    obtain ⟨log, ready, chronicle, closing⟩ := concludes.answered _ _ _ ran
    exact ⟨none, log, ready, fun _ absent => absurd absent (Option.not_mem_none _), chronicle,
      closing⟩
  faulted := concludes.faulted

end Records

theorem structMember_prepares {nested : Decode Symbol} (prepares : Prepares nested) :
    Prepares (structMember nested) := by
  apply (Prepares.next Read.modifiers_forward).bind
  intro modifiers
  apply (Prepares.next Read.string_forward).bind
  intro name
  apply prepares.bind
  intro symbol
  apply (Prepares.lift _).bind
  intro type
  exact .pure _

theorem symbolRecord_records {nested : Decode Symbol} (prepares : Prepares nested)
    (tag : Command) : Records tag (symbolRecord nested tag) := by
  -- Each case follows the text of its record down to the creation, reference or look-up at its end.
  cases tag with
  | arrayType =>
    apply Records.numbered
    intro id
    apply Concludes.after prepares
    intro symbol
    apply Concludes.after (.lift _)
    intro component
    apply Concludes.after (.next Read.s8_forward)
    intro size
    exact .createNew (by decide) fun _ => rfl
  | enumType =>
    apply Records.numbered
    intro id
    apply Concludes.after (.next Read.string_forward)
    intro name
    exact .createNew (by decide) fun _ => rfl
  | functionSymbol =>
    apply Records.numbered
    intro id
    apply Concludes.after (.next Read.modifiers_forward)
    intro modifiers
    apply Concludes.after (.next Read.string_forward)
    intro name
    apply Concludes.after (.next Read.u8_forward)
    intro count
    have parameter := prepares.bind fun symbol => Prepares.lift symbol.asVariable
    apply Concludes.after (parameter.times count.toNat)
    intro parameters
    apply Concludes.after prepares
    intro symbol
    apply Concludes.after (.lift _)
    intro returnType
    exact .createNew (by decide) fun _ => rfl
  | field =>
    apply Records.unnumbered
    apply Concludes.after prepares
    intro symbol
    apply Concludes.after (.lift _)
    intro owner
    apply Concludes.after (.next Read.u8_forward)
    intro index
    exact .createMember fun _ _ => BlockMember.id_of_ofIndex
  | structType =>
    apply Records.numbered
    intro id
    apply Concludes.after (.next Read.string_forward)
    intro name
    apply Concludes.after (.next Read.u8_forward)
    intro count
    apply Concludes.after ((structMember_prepares prepares).times count.toNat)
    intro members
    exact .createNew (by decide) fun _ => rfl
  | symbolRef => exact .numbered fun _ => .refer
  | synonym =>
    apply Records.numbered
    intro id
    apply Concludes.after (.next Read.string_forward)
    intro name
    apply Concludes.after prepares
    intro target
    have labelled (new : Nat) : (Symbol.synonym new .nowhere name target).id = new := rfl
    exact .createNew (by decide) labelled
  | systemType =>
    apply Records.numbered
    intro id
    apply Concludes.after (.next Read.string_forward)
    intro name
    exact .find name
  | overloadSet =>
    apply Records.numbered
    intro id
    apply Concludes.after (.next Read.u8_forward)
    intro count
    have member := prepares.bind fun symbol => Prepares.lift symbol.asFunction
    apply Concludes.after (member.times count.toNat)
    intro functions
    have labelled : ∀ new set, OverloadSet.ofFunctions new functions = .ok set →
        (Symbol.overloads set).id = new := fun _ _ => OverloadSet.id_of_ofFunctions
    exact .create (by decide) labelled
  | varSymbol =>
    apply Records.numbered
    intro id
    apply Concludes.after (.next Read.modifiers_forward)
    intro modifiers
    apply Concludes.after (.next Read.string_forward)
    intro name
    apply Concludes.after prepares
    intro symbol
    apply Concludes.after (.lift _)
    intro type
    apply Concludes.after (.next Read.storage_forward)
    intro storage
    exact .createNew (by decide) fun _ => rfl
  | _ => exact .throw _

/-- The run of a record, opened up. -/
theorem exists_record {bound : Nat} (prepares : Prepares (symbolWithin bound))
    {decoder after : Decoder} {symbol : Symbol}
    (ran : symbolWithin (bound + 1) decoder = (.ok symbol, after)) :
    ∃ tag reader id? nested ready, Read.command decoder.reader = (.ok tag, reader) ∧
      (∀ id ∈ id?, (Read.u16 reader).1 = .ok id) ∧
      Chronicle .symbol { decoder with reader } nested ready ∧
      Closing tag id? symbol ready after := by
  obtain ⟨tag, middle, tagRan, recordRan⟩ := exists_of_bind_run ran
  obtain ⟨reader, tagged, same⟩ := next_cases tagRan
  subst same
  obtain ⟨id?, nested, ready, numbered, within, closing⟩ :=
    (symbolRecord_records prepares tag).answered _ _ _ recordRan
  exact ⟨tag, reader, id?, nested, ready, tagged, numbered, within, closing⟩

/-- Every symbol is decoded along a chronicle, whatever the session before. -/
theorem symbolWithin_prepares (bound : Nat) : Prepares (symbolWithin bound) := by
  induction bound with
  | zero => exact .throw _
  | succ bound inductionHypothesis =>
    have readTag : Prepares (Decode.next Read.command) := .next Read.command_forward
    have records := symbolRecord_records inductionHypothesis
    refine ⟨?_, readTag.thenRecorded fun tag => (records tag).faulted⟩
    intro decoder symbol after ran
    obtain ⟨tag, reader, id?, nested, ready, tagged, numbered, within, closing⟩ :=
      exists_record inductionHypothesis ran
    exact ⟨_, .record ran tagged numbered within closing⟩

/-- A decoded symbol is that of the record which ends last. -/
theorem symbolWithin_chronicle {bound : Nat} {decoder after : Decoder} {symbol : Symbol}
    (ran : symbolWithin bound decoder = (.ok symbol, after)) :
    ∃ nested record, record.symbol = symbol ∧
      Chronicle .symbol decoder (nested ++ [record]) after := by
  cases bound with
  | zero => cases ran
  | succ bound =>
    obtain ⟨tag, reader, id?, nested, ready, tagged, numbered, within, closing⟩ :=
      exists_record (symbolWithin_prepares bound) ran
    exact ⟨nested, _, rfl, .record ran tagged numbered within closing⟩

end Decode

end Shading
