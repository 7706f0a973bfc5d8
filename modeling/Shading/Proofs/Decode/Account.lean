import Shading.Proofs.Decode.Extends

/-!
Accounts of decoding steps. `Accounts` says of a step, from every sound session that has room below
a bound: a history leads from the session before to the one after, the step does not run into the
bound on nested records, and if it gives a value, that value is as claimed. The rules follow the
ways in which decoders are put together, so that the account of a decoder reads like its text.
-/

namespace Shading

/-- A sound session with fewer bytes left than a bound. -/
structure Decoder.Ready (origin : Origin) (bound : Nat) (decoder : Decoder) : Prop where
  sound : decoder.Sound origin
  room : decoder.reader.remaining < bound

namespace Decode

/-- What a step gave, compared with the session it started from. -/
structure Outcome {α : Type} (origin : Origin) (level : Level) (before : Decoder)
    (post : α → Decoder → Prop) (result : Except Fault α × Decoder) : Prop where
  history : ∃ events, History origin level before events result.2
  proper : Proper result.1
  answer : ∀ value, result.1 = .ok value → post value result.2

/-- The account of a step. -/
def Accounts {α : Type} (origin : Origin) (level : Level) (bound : Nat) (pre : Decoder → Prop)
    (step : Decode α) (post : α → Decoder → Prop) : Prop :=
  ∀ decoder : Decoder, decoder.Ready origin bound → pre decoder →
    Outcome origin level decoder post (step decoder)

/-- What stays true in every session that decoding reaches. -/
def Stable (origin : Origin) (fact : Decoder → Prop) : Prop :=
  ∀ level before events after, before.Sound origin → History origin level before events after →
    fact before → fact after

/-- The account of a step that takes at least one byte for every value it gives. -/
def Consumes {α : Type} (origin : Origin) (level : Level) (bound : Nat) (step : Decode α)
    (post : α → Decoder → Prop) : Prop :=
  ∀ start : Nat, Accounts origin level bound (fun decoder => decoder.reader.offset = start) step
    fun value after => post value after ∧ start < after.reader.offset

end Decode

variable {origin : Origin} {level : Level} {bound : Nat}

theorem History.ready {before after : Decoder} {events : List Event}
    (history : History origin level before events after) (ready : before.Ready origin bound) :
    after.Ready origin bound := by
  have laws := history.sound_extended ready.sound
  have fewer := laws.2.advances.remaining_le
  exact ⟨laws.1, Nat.lt_of_le_of_lt fewer ready.room⟩

namespace Decode

open Stepping

variable {α β : Type} {pre : Decoder → Prop} {step : Decode α} {post : α → Decoder → Prop}

theorem stable_pure (fact : Prop) : Stable origin fun _ => fact :=
  fun _ _ _ _ _ _ holds => holds

theorem stable_knows (symbol : Symbol) :
    Stable origin fun decoder => origin.Knows decoder.store symbol := by
  intro level before events after sound history known
  exact known.mono (history.sound_extended sound).2.store

theorem stable_inside (table : TableId) :
    Stable origin fun decoder => table < decoder.store.tables.size := by
  intro level before events after sound history inside
  exact Nat.lt_of_lt_of_le inside (history.sound_extended sound).2.store.size_le

theorem stable_past (start : Nat) :
    Stable origin fun decoder => start < decoder.reader.offset := by
  intro level before events after sound history passed
  exact Nat.lt_of_lt_of_le passed (history.sound_extended sound).2.advances.offset_le

theorem Stable.and {first second : Decoder → Prop} (firstStable : Stable origin first)
    (secondStable : Stable origin second) :
    Stable origin fun decoder => first decoder ∧ second decoder := by
  intro level before events after sound history holds
  exact ⟨firstStable level before events after sound history holds.1,
    secondStable level before events after sound history holds.2⟩

theorem Stable.all {γ : Type} {fact : γ → Decoder → Prop} (members : List γ)
    (stable : ∀ member, Stable origin (fact member)) :
    Stable origin fun decoder => ∀ member ∈ members, fact member decoder := by
  intro level before events after sound history holds member isMember
  exact stable member level before events after sound history (holds member isMember)

theorem Outcome.fault {before after : Decoder} {events : List Event} {fault : Fault}
    (history : History origin level before events after) (ends : fault.isEndless = false) :
    Outcome origin level before post (.error fault, after) where
  history := ⟨events, history⟩
  proper := .error ends
  answer _ same := by cases same

theorem Outcome.value {before after : Decoder} {events : List Event} {value : α}
    (history : History origin level before events after) (holds : post value after) :
    Outcome origin level before post (.ok value, after) where
  history := ⟨events, history⟩
  proper := .ok value
  answer other same := by
    cases same
    exact holds

namespace Accounts

/-! ## Facts before and after -/

theorem before {stronger : Decoder → Prop} (account : Accounts origin level bound pre step post)
    (enough : ∀ decoder, stronger decoder → pre decoder) :
    Accounts origin level bound stronger step post := by
  intro decoder ready holds
  exact account decoder ready (enough decoder holds)

theorem after {weaker : α → Decoder → Prop} (account : Accounts origin level bound pre step post)
    (gives : ∀ value decoder, post value decoder → weaker value decoder) :
    Accounts origin level bound pre step weaker := by
  intro decoder ready holds
  have outcome := account decoder ready holds
  refine ⟨outcome.history, outcome.proper, ?_⟩
  intro value same
  exact gives value _ (outcome.answer value same)

theorem fromAnywhere (account : Accounts origin level bound (fun _ => True) step post) :
    Accounts origin level bound pre step post :=
  account.before fun _ _ => trivial

/-- A fact that has nothing to do with the session can be taken out of the account. -/
theorem given {fact : Prop}
    (account : fact → Accounts origin level bound (fun _ => True) step post) :
    Accounts origin level bound (fun _ => fact) step post := by
  intro decoder ready holds
  exact account holds decoder ready trivial

theorem givenAnd {fact : Prop} (account : fact → Accounts origin level bound pre step post) :
    Accounts origin level bound (fun decoder => fact ∧ pre decoder) step post := by
  intro decoder ready holds
  exact account holds.1 decoder ready holds.2

/-- A stable fact is still there after the step. -/
theorem keep {fact : Decoder → Prop} (account : Accounts origin level bound pre step post)
    (stable : Stable origin fact) :
    Accounts origin level bound (fun decoder => pre decoder ∧ fact decoder) step
      fun value after => post value after ∧ fact after := by
  intro decoder ready holds
  have outcome := account decoder ready holds.1
  obtain ⟨events, history⟩ := outcome.history
  refine ⟨⟨events, history⟩, outcome.proper, fun value same => ⟨outcome.answer value same, ?_⟩⟩
  exact stable level decoder events _ ready.sound history holds.2

/-- No session has less room than none. -/
theorem noRoom : Accounts origin level 0 pre step post := by
  intro decoder ready _
  exact absurd ready.room (Nat.not_lt_zero _)

/-! ## Putting steps together -/

theorem pure {value : α} (holds : ∀ decoder, pre decoder → post value decoder) :
    Accounts origin level bound pre (Pure.pure value) post := by
  intro decoder _ before
  exact .value (.nothing level decoder) (holds decoder before)

theorem throw {fault : Fault} (ends : fault.isEndless = false) :
    Accounts origin level bound pre (throw fault : Decode α) post := by
  intro decoder _ _
  exact .fault (.nothing level decoder) ends

theorem bind {next : α → Decode β} {last : β → Decoder → Prop}
    (first : Accounts origin level bound pre step post)
    (later : ∀ value, Accounts origin level bound (post value) (next value) last) :
    Accounts origin level bound pre (step >>= next) last := by
  intro decoder ready holds
  have outcome := first decoder ready holds
  rw [bind_apply]
  cases ran : step decoder with
  | mk result middle =>
    rw [ran] at outcome
    obtain ⟨events, history⟩ := outcome.history
    cases result with
    | error fault =>
      exact .fault history (outcome.proper fault rfl)
    | ok value =>
      have rest := later value middle (history.ready ready) (outcome.answer value rfl)
      obtain ⟨moreEvents, moreHistory⟩ := rest.history
      exact ⟨⟨_, history.andThen moreHistory⟩, rest.proper, rest.answer⟩

/-- After a step of whose value something is known, whatever the session is. -/
theorem thenKnown {next : α → Decode β} {fact : α → Prop} {last : β → Decoder → Prop}
    (first : Accounts origin level bound pre step fun value _ => fact value)
    (later : ∀ value, fact value → Accounts origin level bound (fun _ => True) (next value) last) :
    Accounts origin level bound pre (step >>= next) last :=
  first.bind fun value => given (later value)

theorem lift {outcome : Except Fault α} (proper : Proper outcome)
    (holds : ∀ value, outcome = .ok value → ∀ decoder, pre decoder → post value decoder) :
    Accounts origin level bound pre (liftM outcome) post := by
  intro decoder _ before
  rw [lift_apply]
  cases outcome with
  | ok value => exact .value (.nothing level decoder) (holds value rfl decoder before)
  | error fault =>
    exact .fault (.nothing level decoder) (proper fault rfl)

theorem next {read : Read α} (forward : read.Forward) :
    Accounts origin level bound pre (next read) fun _ _ => True := by
  intro decoder _ _
  have moved := forward.advances decoder.reader
  exact ⟨⟨[], .change (.read moved)⟩, forward.proper decoder.reader, fun _ _ => trivial⟩

/-- After something was read that can have any value. -/
theorem nextThen {read : Read α} {more : α → Decode β} {last : β → Decoder → Prop}
    (forward : read.Forward)
    (later : ∀ value, Accounts origin level bound (fun _ => True) (more value) last) :
    Accounts origin level bound pre (Decode.next read >>= more) last :=
  (next forward).bind later

theorem nextKeeps {read : Read α} {fact : Decoder → Prop} (forward : read.Forward)
    (stable : Stable origin fact) :
    Accounts origin level bound fact (Decode.next read) fun _ after => fact after := by
  intro decoder ready holds
  have moved := forward.advances decoder.reader
  have history : History origin level decoder [] (Decode.next read decoder).2 :=
    .change (.read moved)
  exact ⟨⟨[], history⟩, forward.proper decoder.reader,
    fun _ _ => stable level decoder [] _ ready.sound history holds⟩

theorem discard (account : Accounts origin level bound pre step post) :
    Accounts origin level bound pre (discard step) fun _ _ => True := by
  intro decoder ready holds
  have outcome := account decoder ready holds
  show Outcome origin level decoder _ ((Function.const α PUnit.unit <$> step) decoder)
  rw [map_apply]
  exact ⟨outcome.history, outcome.proper.map _, fun _ _ => trivial⟩

/-! ## Repetition and options -/

theorem times {always : Decoder → Prop} {fact : α → Decoder → Prop}
    (account : Accounts origin level bound always step fact) (kept : Stable origin always)
    (stable : ∀ value, Stable origin (fact value)) (count : Nat) :
    Accounts origin level bound always (times count step)
      fun values after => ∀ value ∈ values, fact value after := by
  induction count with
  | zero => exact .pure fun _ _ => nofun
  | succ count inductionHypothesis =>
    -- What is known of the first value has to outlast the steps for the others.
    have first := (account.keep kept).before fun _ holds => ⟨holds, holds⟩
    apply first.bind
    intro value
    have rest : Accounts origin level bound (fun decoder => fact value decoder ∧ always decoder)
        (Decode.times count step)
        fun values after => (∀ other ∈ values, fact other after) ∧ fact value after :=
      (inductionHypothesis.keep (stable value)).before fun _ holds => ⟨holds.2, holds.1⟩
    refine rest.bind fun values => .pure ?_
    intro decoder holds other member
    rcases List.mem_cons.mp member with same | later
    · subst same
      exact holds.2
    · exact holds.1 other later

/-- Repetition of a step of whose values something is known, whatever the session is. -/
theorem timesKnown {fact : α → Prop}
    (account : Accounts origin level bound (fun _ => True) step fun value _ => fact value)
    (count : Nat) :
    Accounts origin level bound (fun _ => True) (Decode.times count step)
      fun values _ => ∀ value ∈ values, fact value :=
  account.times (stable_pure True) (fun value => stable_pure (fact value)) count

theorem present {what : String} {fact : α → Prop} {step : Decode (Option α)}
    (account : Accounts origin level bound pre step fun value? _ => ∀ value ∈ value?, fact value) :
    Accounts origin level bound pre (present what step) fun value _ => fact value := by
  apply account.thenKnown
  intro value? holds
  cases value? with
  | none => exact .throw rfl
  | some value => exact .pure fun _ _ => holds value rfl

/-- A value that could have been left out. -/
theorem given? {fact : α → Prop}
    (account : Accounts origin level bound pre step fun value _ => fact value) :
    Accounts origin level bound pre (do return some (← step))
      fun value? _ => ∀ value ∈ value?, fact value := by
  refine account.thenKnown fun value holds => .pure ?_
  intro _ _ other same
  cases same
  exact holds

theorem mapM {γ : Type} {each : γ → Decode α} {fact : α → Prop} (members : List γ)
    (account : ∀ member ∈ members,
      Accounts origin level bound (fun _ => True) (each member) fun value _ => fact value) :
    Accounts origin level bound (fun _ => True) (members.mapM each)
      fun values _ => ∀ value ∈ values, fact value := by
  induction members with
  | nil =>
    rw [List.mapM_nil]
    exact .pure fun _ _ => nofun
  | cons member rest inductionHypothesis =>
    rw [List.mapM_cons]
    apply (account member List.mem_cons_self).thenKnown
    intro value holds
    have others := inductionHypothesis fun other inRest =>
      account other (List.mem_cons_of_mem member inRest)
    refine others.thenKnown fun values allHold => .pure ?_
    intro _ _ other inAll
    rcases List.mem_cons.mp inAll with same | inValues
    · subst same
      exact holds
    · exact allHold other inValues

/-! ## Levels -/

theorem record (account : Accounts origin .symbol bound pre step post) :
    Accounts origin .node bound pre step post := by
  intro decoder ready holds
  have outcome := account decoder ready holds
  obtain ⟨events, history⟩ := outcome.history
  exact ⟨⟨events, .record history⟩, outcome.proper, outcome.answer⟩

/-- A stretch with a newer table active. -/
theorem withActive {table : TableId} {fact : α → Prop}
    (account : Accounts origin .node bound (fun decoder => table < decoder.store.tables.size) step
      fun value _ => fact value)
    (recent : origin.tables ≤ table) :
    Accounts origin .node bound (fun decoder => table < decoder.store.tables.size)
      (withActive table step)
      fun value after => fact value ∧ table < after.store.tables.size := by
  intro decoder ready opened
  have entered : Decoder.Ready origin bound { decoder with active := table } :=
    ⟨{ ready.sound with active_lt := opened }, ready.room⟩
  have outcome := account { decoder with active := table } entered opened
  obtain ⟨events, inner⟩ := outcome.history
  have history : History origin .node decoder events (Decode.withActive table step decoder).2 :=
    .inside recent opened inner
  refine ⟨⟨events, history⟩, outcome.proper, fun value same => ⟨outcome.answer value same, ?_⟩⟩
  exact stable_inside table .node decoder events _ ready.sound history opened

/-- The store is exchanged for one that an operation made from it. -/
theorem exchange {make : Store → Except Fault (α × Store)} {fact : α → Prop}
    (proper : ∀ store, Proper (make store))
    (changed : ∀ decoder value store, make decoder.store = .ok (value, store) →
      fact value ∧ History origin level decoder [] { decoder with store }) :
    Accounts origin level bound pre
      (do
        let (value, store) ← make (← get).store
        changeStore fun _ => store
        return value)
      fun value _ => fact value := by
  intro decoder _ _
  rw [bind_ok (get_apply decoder), bind_apply, lift_apply]
  cases made : make decoder.store with
  | error fault =>
    exact .fault (.nothing level decoder) (proper decoder.store fault made)
  | ok result =>
    obtain ⟨value, store⟩ := result
    obtain ⟨holds, history⟩ := changed decoder value store made
    exact .value history holds

end Accounts

/-! ## Bytes taken -/

namespace Consumes

theorem record (consumes : Consumes origin .symbol bound step post) :
    Consumes origin .node bound step post :=
  fun start => (consumes start).record

theorem accounts (consumes : Consumes origin level bound step post) :
    Accounts origin level bound (fun _ => True) step post := by
  intro decoder ready _
  have outcome := consumes decoder.reader.offset decoder ready rfl
  exact ⟨outcome.history, outcome.proper, fun value same => (outcome.answer value same).1⟩

theorem bind {next : α → Decode β} {last : β → Decoder → Prop}
    (first : Consumes origin level bound step post)
    (later : ∀ value, Accounts origin level bound (post value) (next value) last) :
    Consumes origin level bound (step >>= next) last := by
  intro start
  exact (first start).bind fun value => (later value).keep (stable_past start)

/-- After a step that took a byte, less room is enough. -/
theorem thenWithin {start : Nat} {next : α → Decode β} {last : β → Decoder → Prop}
    (first : Consumes origin level (bound + 1) step post)
    (later : ∀ value, Accounts origin level bound
      (fun decoder => post value decoder ∧ start < decoder.reader.offset) (next value) last) :
    Accounts origin level (bound + 1) (fun decoder => decoder.reader.offset = start)
      (step >>= next) last := by
  intro decoder ready stands
  have outcome := first start decoder ready stands
  rw [bind_apply]
  cases ran : step decoder with
  | mk result middle =>
    rw [ran] at outcome
    obtain ⟨events, history⟩ := outcome.history
    have reached : middle.Ready origin (bound + 1) := history.ready ready
    have moved : decoder.reader.Advances middle.reader :=
      (history.sound_extended ready.sound).2.advances
    cases result with
    | error fault => exact .fault history (outcome.proper fault rfl)
    | ok value =>
      have holds := outcome.answer value rfl
      have passed : start < middle.reader.offset := holds.2
      -- The byte that is gone makes up for the smaller bound.
      have room : middle.Ready origin bound := by
        refine ⟨reached.sound, ?_⟩
        have enough := ready.room
        have fits := reached.sound.inside
        rw [Reader.remaining, ← moved.bytes_eq, stands] at enough
        rw [Reader.remaining]
        omega
      have rest := later value middle room holds
      obtain ⟨moreEvents, moreHistory⟩ := rest.history
      exact ⟨⟨_, history.andThen moreHistory⟩, rest.proper, rest.answer⟩

theorem thenShallower {next : α → Decode β} {last : β → Decoder → Prop}
    (first : Consumes origin level (bound + 1) step post)
    (later : ∀ value, Accounts origin level bound (post value) (next value) last) :
    Consumes origin level (bound + 1) (step >>= next) last :=
  fun start => first.thenWithin fun value => (later value).keep (stable_past start)

theorem command : Consumes origin level bound (Decode.next Read.command) fun _ _ => True := by
  intro start decoder ready stands
  have moved := Read.command_forward.advances decoder.reader
  have proper := Read.command_forward.proper decoder.reader
  have ran : Decode.next Read.command decoder =
      ((Read.command decoder.reader).1,
        { decoder with reader := (Read.command decoder.reader).2 }) := rfl
  rw [ran]
  cases read : Read.command decoder.reader with
  | mk result reader =>
    rw [read] at moved proper
    cases result with
    | error fault => exact ⟨⟨[], .change (.read moved)⟩, proper, fun _ same => by cases same⟩
    | ok tag =>
      have oneByte := Read.offset_of_command_ok read
      refine .value (.change (.tag read)) ⟨trivial, ?_⟩
      dsimp only at stands ⊢
      omega

/-- Something plain that starts with a tag. -/
theorem read {reading : Read α}
    (starts : ∃ more : Command → Read α,
      reading = Read.command >>= more ∧ ∀ tag, (more tag).Forward) :
    Consumes origin level bound (Decode.next reading) fun _ _ => True := by
  obtain ⟨more, same, later⟩ := starts
  intro start decoder ready stands
  have forward : reading.Forward := by
    rw [same]
    exact Read.command_forward.bind later
  have moved := forward.advances decoder.reader
  refine ⟨⟨[], .change (.read moved)⟩, forward.proper decoder.reader, fun value answered => ?_⟩
  refine ⟨trivial, ?_⟩
  rw [← stands]
  subst same
  exact Read.offset_lt_of_tagged later (Prod.ext answered rfl)

/-- A record, which starts with a tag. -/
theorem tagged {next : Command → Decode α}
    (later : ∀ tag, Accounts origin level bound (fun _ => True) (next tag) post) :
    Consumes origin level (bound + 1) (Decode.next .command >>= next) post :=
  command.thenShallower later

theorem shallower (consumes : Consumes origin level (bound + 1) step post) :
    Consumes origin level bound step post := by
  intro start decoder ready stands
  exact consumes start decoder ⟨ready.sound, Nat.lt_succ_of_lt ready.room⟩ stands

/-- The bytes that are left bound how deeply records nest. -/
theorem nested {within : Nat → Decode α}
    (account : ∀ depth, Consumes origin level depth (within depth) post) :
    Consumes origin level bound (do within (← nesting)) post := by
  intro start decoder ready stands
  have roomy : decoder.Ready origin (decoder.reader.remaining + 1) :=
    ⟨ready.sound, Nat.lt_succ_self _⟩
  exact account (decoder.reader.remaining + 1) start decoder roomy stands

end Consumes

end Decode

end Shading
