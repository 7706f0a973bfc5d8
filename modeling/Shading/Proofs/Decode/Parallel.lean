import Shading.Proofs.Blob.Longer
import Shading.Proofs.Decode.SymbolChronicle
import Shading.Proofs.Rename.Stmt
import Shading.Proofs.Type.Narrowing

/-!
Two sessions that decode in parallel. `Parallel` says what the sessions have in common between any
two steps and that each change of a session leaves it so; the numbers they drew may differ. From
that `Parallel.Follows` is shown for one decoder after the other: whatever the first session
answers, the second one answers alike. If the two sessions are strictly parallel, they fault alike
as well.
-/

namespace Shading

open Renamable (rename)

/-! ## What a type record looks up -/

/-- The type that a name stands for, after it was looked up. -/
def systemTypeOf (name : String) : Option Symbol → Except Fault Ty
  | some (.type type) => .ok type
  | some other => .error (.systemTypeBound name other.kind)
  | none => .error (.systemTypeMissing name)

theorem Decode.systemType_apply (name : String) (decoder : Decoder) :
    Decode.systemType name decoder =
      (systemTypeOf name (decoder.store.find? decoder.active name), decoder) := by
  rw [Decode.systemType, Stepping.bind_ok (Stepping.get_apply decoder), systemTypeOf.eq_def]
  cases decoder.store.find? decoder.active name with
  | none => rfl
  | some symbol => cases symbol <;> rfl

/-- A record that looks up a type by its name; this is the name. -/
def Read.systemTypeName : Read String := do
  match ← command with
  | .systemType =>
    let _ ← u16
    string
  | other => throw (.unexpected "a system type" other)

/-- A blob with a record, at some place, that looks up a type by this name. -/
def LooksUp (blob : Array UInt8) (name : String) : Prop :=
  ∃ offset, (Read.systemTypeName ⟨blob, offset⟩).1 = .ok name

/-! ## Agreement -/

/-- The second outcome answers as the first one does; strictly, it faults like it, too. -/
structure Agrees {α β : Type} (strict : Prop) (relation : α → β → Prop)
    (first : Except Fault α) (second : Except Fault β) : Prop where
  answered : ∀ value, first = .ok value → ∃ value', second = .ok value' ∧ relation value value'
  faulted : strict → ∀ fault, first = .error fault → second = .error fault

namespace Agrees

variable {α β γ : Type} {strict : Prop} {relation : α → β → Prop}

theorem ok {value : α} {value' : β} (related : relation value value') :
    Agrees strict relation (.ok value) (.ok value') where
  answered other same := by
    cases same
    exact ⟨value', rfl, related⟩
  faulted _ fault same := by cases same

theorem error (fault : Fault) : Agrees strict relation (.error fault) (.error fault) where
  answered value same := by cases same
  faulted _ other same := by
    cases same
    rfl

theorem refl {relation : α → α → Prop} {outcome : Except Fault α}
    (reflexive : ∀ value, outcome = .ok value → relation value value) :
    Agrees strict relation outcome outcome where
  answered value same := ⟨value, same, reflexive value same⟩
  faulted _ _ same := same

theorem of_alike [Renamable α] {κ κ' : Renaming} {outcome outcome' : Except Fault α}
    (alike : Alike κ κ' outcome outcome') : Agrees strict (Alike κ κ') outcome outcome' := by
  cases outcome with
  | error fault =>
    cases outcome' with
    | error other =>
      cases alike
      exact .error fault
    | ok value' => cases alike
  | ok value =>
    cases outcome' with
    | error other => cases alike
    | ok value' => exact .ok (Except.ok.inj alike)

theorem mono {weaker : α → β → Prop} {first : Except Fault α} {second : Except Fault β}
    (agrees : Agrees strict relation first second)
    (implies : ∀ value value', first = .ok value → relation value value' → weaker value value') :
    Agrees strict weaker first second where
  answered value same := by
    obtain ⟨value', same', related⟩ := agrees.answered value same
    exact ⟨value', same', implies value value' same related⟩
  faulted := agrees.faulted

/-- What is made of two outcomes, of each in its own way. -/
theorem returned {δ : Type} {weaker : γ → δ → Prop} {first : Except Fault α}
    {second : Except Fault β} {make : α → γ} {make' : β → δ}
    (agrees : Agrees strict relation first second)
    (implies : ∀ value value', relation value value' → weaker (make value) (make' value')) :
    Agrees strict weaker (do return make (← first)) (do return make' (← second)) := by
  cases first with
  | ok value =>
    obtain ⟨value', same', related⟩ := agrees.answered value rfl
    rw [same']
    exact .ok (implies value value' related)
  | error fault =>
    refine ⟨fun _ made => (by cases made), fun isStrict _ made => ?_⟩
    cases made
    rw [agrees.faulted isStrict fault rfl]
    rfl

end Agrees

/-! ## Two sessions -/

/-- Two sessions and what they have in common. Each law says that a change which decoding makes to
both of them leaves it so, or what one session finds there if the other one does. -/
structure Parallel where
  first : Renaming
  second : Renaming
  context : Context
  context' : Context
  /-- Whether the second session faults where the first one does. -/
  strict : Prop
  /-- The bytes that only the second blob has, at its end. -/
  tail : Array UInt8
  Related : Decoder → Decoder → Prop
  /-- The tables that both sessions opened, by their numbers in the first one. -/
  Opened : TableId → Prop
  /-- The ids of symbols that the first session drew, below a bound on them. -/
  Drawn : Nat → Nat → Prop
  widens : context'.Widens context
  sameContext : strict → context' = context
  noTail : strict → tail = #[]
  first_injective : Function.Injective first.symbols
  second_injective : Function.Injective second.symbols
  drawn_mono : ∀ {bound larger id}, bound ≤ larger → Drawn bound id → Drawn larger id
  drawn_last : ∀ id, Drawn (id + 1) id
  reader_eq : ∀ {decoder decoder'}, Related decoder decoder' →
    decoder'.reader = decoder.reader.extended tail
  withReader : ∀ {decoder decoder'} {reader : Reader}, Related decoder decoder' →
    reader.bytes = decoder.reader.bytes →
    Related { decoder with reader } { decoder' with reader := reader.extended tail }
  ids_alike : ∀ {decoder decoder'}, Related decoder decoder' →
    first.symbols decoder.store.nextId = second.symbols decoder'.store.nextId ∧
      first.types decoder.store.nextId = second.types decoder'.store.nextId
  waste : ∀ {decoder decoder'}, Related decoder decoder' →
    Related { decoder with store := decoder.store.fresh.2 }
      { decoder' with store := decoder'.store.fresh.2 }
  active_alike : ∀ {decoder decoder'}, Related decoder decoder' →
    first.tables decoder.active = second.tables decoder'.active
  activate : ∀ {decoder decoder' table table'}, Related decoder decoder' →
    first.tables table = second.tables table' →
    Related { decoder with active := table } { decoder' with active := table' }
  adopt : ∀ {decoder decoder' symbol symbol'}, Related decoder decoder' →
    Alike first second symbol symbol' → Drawn decoder.store.nextId symbol.id →
    Related { decoder with store := decoder.store.adopt decoder.active symbol }
      { decoder' with store := decoder'.store.adopt decoder'.active symbol' }
  registered : ∀ {decoder decoder'}, Related decoder decoder' → ∀ place : Nat,
    Alike first second decoder.registry[place]?.join decoder'.registry[place]?.join ∧
      ∀ symbol, decoder.registry[place]?.join = some symbol →
        (∃ type, symbol = .type type) ∨ Drawn decoder.store.nextId symbol.id
  enter : ∀ {decoder decoder' symbol symbol'}, Related decoder decoder' → ∀ id : UInt16,
    Alike first second symbol symbol' →
    (∃ type, symbol = .type type) ∨ Drawn decoder.store.nextId symbol.id →
    Related { decoder with registry := Decode.entered decoder.registry id symbol }
      { decoder' with registry := Decode.entered decoder'.registry id symbol' }
  visible : ∀ {decoder decoder' name}, Related decoder decoder' →
    LooksUp decoder.reader.bytes name →
    Alike first second (systemTypeOf name (decoder.store.find? decoder.active name))
      (systemTypeOf name (decoder'.store.find? decoder'.active name))
  openTable : ∀ {decoder decoder'}, Related decoder decoder' → ∀ inherit : Bool,
    first.tables decoder.store.tables.size = second.tables decoder'.store.tables.size ∧
      Opened decoder.store.tables.size ∧
      Related
        { decoder with store :=
            (decoder.store.newTable (if inherit then some decoder.active else none) true).2 }
        { decoder' with store :=
            (decoder'.store.newTable (if inherit then some decoder'.active else none) true).2 }
  bind : ∀ {decoder decoder' table table' symbol symbol'}, Related decoder decoder' →
    Opened table → first.tables table = second.tables table' →
    Alike first second symbol symbol' →
    Related { decoder with store := decoder.store.bind table symbol }
      { decoder' with store := decoder'.store.bind table' symbol' }
  owned : ∀ {decoder decoder' table table'}, Related decoder decoder' →
    Opened table → first.tables table = second.tables table' →
    Alike first second (decoder.store.owned table) (decoder'.store.owned table') ∧
      ∀ symbol ∈ decoder.store.owned table, Drawn decoder.store.nextId symbol.id
  attach : ∀ {decoder decoder' target target' value value'}, Related decoder decoder' →
    Alike first second target target' → Drawn decoder.store.nextId target.id →
    Alike first second value value' →
    Agrees strict
      (fun store store' => store.nextId = decoder.store.nextId ∧
        Related { decoder with store } { decoder' with store := store' })
      (decoder.store.attachInitial target value) (decoder'.store.attachInitial target' value')
  define : ∀ {decoder decoder' function function'}, Related decoder decoder' →
    Alike first second function function' → Drawn decoder.store.nextId function.id →
    Agrees strict
      (fun store store' => store.nextId = decoder.store.nextId + 1 ∧
        Related { decoder with store } { decoder' with store := store' })
      (decoder.store.fresh.2.define function decoder.store.nextId)
      (decoder'.store.fresh.2.define function' decoder'.store.nextId)

namespace Parallel

open Decode Stepping

variable {α β γ : Type} {parallel : Parallel} {bound : Nat}

/-- What is known of two symbols: they are alike, and the first one is a type or was drawn. -/
def Symbols (parallel : Parallel) (bound : Nat) (symbol symbol' : Symbol) : Prop :=
  Alike parallel.first parallel.second symbol symbol' ∧
    ((∃ type, symbol = .type type) ∨ parallel.Drawn bound symbol.id)

def Variables (parallel : Parallel) (bound : Nat) (target target' : Variable) : Prop :=
  Alike parallel.first parallel.second target target' ∧ parallel.Drawn bound target.id

def Functions (parallel : Parallel) (bound : Nat) (function function' : Function) : Prop :=
  Alike parallel.first parallel.second function function' ∧ parallel.Drawn bound function.id

/-- Two values that are alike, whatever was drawn. -/
abbrev Values [Renamable α] (parallel : Parallel) (_ : Nat) (value value' : α) : Prop :=
  Alike parallel.first parallel.second value value'

/-- Two tables that both sessions opened. -/
def Tables (parallel : Parallel) (_ : Nat) (table table' : TableId) : Prop :=
  parallel.first.tables table = parallel.second.tables table' ∧ parallel.Opened table

/-- What two optional tables have in common: both or none is there, and both sessions opened it. -/
def TablesIf (parallel : Parallel) (_ : Nat) (table? table?' : Option TableId) : Prop :=
  renameTable parallel.first table? = renameTable parallel.second table?' ∧
    ∀ table ∈ table?, parallel.Opened table

/-- The second session ends a step as the first one does, after which they are related again. -/
structure Answers (parallel : Parallel) (bound : Nat) (relation : Nat → α → β → Prop)
    (ended : Except Fault α × Decoder) (ended' : Except Fault β × Decoder) : Prop where
  answered : ∀ {value after}, ended = (.ok value, after) →
    ∃ value' after', ended' = (.ok value', after') ∧
      relation after.store.nextId value value' ∧ parallel.Related after after' ∧
      bound ≤ after.store.nextId
  faulted : parallel.strict → ∀ {fault after}, ended = (.error fault, after) →
    ∃ after', ended' = (.error fault, after')

/-- From related sessions in which at least `bound` ids were drawn, a step of the second session
ends as one of the first does. -/
def Follows (parallel : Parallel) (bound : Nat) (step : Decode α) (step' : Decode β)
    (relation : Nat → α → β → Prop) : Prop :=
  ∀ decoder decoder' : Decoder, bound ≤ decoder.store.nextId →
    parallel.Related decoder decoder' →
    parallel.Answers decoder.store.nextId relation (step decoder) (step' decoder')

namespace Answers

variable {relation : Nat → α → β → Prop} {step : Decode α} {step' : Decode β}

theorem value {decoder decoder' : Decoder} {value : α} {value' : β}
    (holds : relation decoder.store.nextId value value')
    (related : parallel.Related decoder decoder') (le : bound ≤ decoder.store.nextId) :
    parallel.Answers bound relation (.ok value, decoder) (.ok value', decoder') where
  answered same := by
    cases same
    exact ⟨value', decoder', rfl, holds, related, le⟩
  faulted _ _ _ same := by cases same

theorem fault (fault : Fault) (decoder decoder' : Decoder) :
    parallel.Answers bound relation (.error fault, decoder) (.error fault, decoder') where
  answered same := by cases same
  faulted _ _ _ same := by
    cases same
    exact ⟨decoder', rfl⟩

theorem lower {smaller : Nat} {ended : Except Fault α × Decoder} {ended' : Except Fault β × Decoder}
    (answers : parallel.Answers bound relation ended ended') (le : smaller ≤ bound) :
    parallel.Answers smaller relation ended ended' where
  answered ran := by
    obtain ⟨value', after', ran', holds, related, grown⟩ := answers.answered ran
    exact ⟨value', after', ran', holds, related, Nat.le_trans le grown⟩
  faulted := answers.faulted

/-- Two outcomes that leave the sessions as they are. -/
theorem of_agrees {decoder decoder' : Decoder} {outcome : Except Fault α}
    {outcome' : Except Fault β}
    (agrees : Agrees parallel.strict (relation decoder.store.nextId) outcome outcome')
    (related : parallel.Related decoder decoder') :
    parallel.Answers decoder.store.nextId relation (outcome, decoder) (outcome', decoder') := by
  cases outcome with
  | ok value =>
    obtain ⟨value', made', holds⟩ := agrees.answered value rfl
    rw [made']
    exact .value holds related (Nat.le_refl _)
  | error fault =>
    refine ⟨fun same => (by cases same), fun strict _ _ same => ?_⟩
    cases same
    exact ⟨decoder', by rw [agrees.faulted strict fault rfl]⟩

/-- A step after another, where all is known of how the first one went. -/
theorem bind {δ : Type} {next : α → Decode γ} {next' : β → Decode δ} {last : Nat → γ → δ → Prop}
    {decoder decoder' : Decoder}
    (earlier : parallel.Answers bound relation (step decoder) (step' decoder'))
    (later : ∀ {value value' middle middle'}, step decoder = (.ok value, middle) →
      bound ≤ middle.store.nextId → parallel.Related middle middle' →
      relation middle.store.nextId value value' →
      parallel.Answers middle.store.nextId last (next value middle) (next' value' middle')) :
    parallel.Answers bound last ((step >>= next) decoder) ((step' >>= next') decoder') where
  answered ran := by
    obtain ⟨value, middle, stepRan, nextRan⟩ := exists_of_bind_run ran
    obtain ⟨value', middle', stepRan', holds, related, grown⟩ := earlier.answered stepRan
    rw [bind_ok stepRan']
    exact ((later stepRan grown related holds).lower grown).answered nextRan
  faulted strict fault after ran := by
    rcases fault_of_bind_run ran with stepRan | ⟨value, middle, stepRan, nextRan⟩
    · obtain ⟨after', stepRan'⟩ := earlier.faulted strict stepRan
      exact ⟨after', by rw [bind_apply, stepRan']⟩
    · obtain ⟨value', middle', stepRan', holds, related, grown⟩ := earlier.answered stepRan
      rw [bind_ok stepRan']
      exact (later stepRan grown related holds).faulted strict nextRan

end Answers

namespace Follows

variable {step : Decode α} {step' : Decode β} {relation : Nat → α → β → Prop}

/-! ## Putting steps together -/

theorem mono {larger : Nat} (follows : parallel.Follows bound step step' relation)
    (le : bound ≤ larger) : parallel.Follows larger step step' relation :=
  fun decoder decoder' drawn => follows decoder decoder' (Nat.le_trans le drawn)

theorem weaken {weaker : Nat → α → β → Prop}
    (follows : parallel.Follows bound step step' relation)
    (implies : ∀ larger, bound ≤ larger → ∀ value value',
      relation larger value value' → weaker larger value value') :
    parallel.Follows bound step step' weaker := by
  intro decoder decoder' drawn related
  have answers := follows decoder decoder' drawn related
  refine ⟨fun ran => ?_, answers.faulted⟩
  obtain ⟨value', after', ran', holds, still, grown⟩ := answers.answered ran
  exact ⟨value', after', ran', implies _ (Nat.le_trans drawn grown) _ _ holds, still, grown⟩

theorem pure {value : α} {value' : β}
    (holds : ∀ larger, bound ≤ larger → relation larger value value') :
    parallel.Follows bound (Pure.pure value) (Pure.pure value') relation :=
  fun _ _ drawn related => .value (holds _ drawn) related (Nat.le_refl _)

theorem lift {outcome : Except Fault α} {outcome' : Except Fault β}
    (agrees : Agrees parallel.strict
      (fun value value' => ∀ larger, bound ≤ larger → relation larger value value')
      outcome outcome') :
    parallel.Follows bound (liftM outcome) (liftM outcome') relation := by
  intro decoder decoder' drawn related
  rw [lift_apply, lift_apply]
  exact .of_agrees (agrees.mono fun _ _ _ holds => holds _ drawn) related

theorem throw (fault : Fault) :
    parallel.Follows bound (throw fault : Decode α) (throw fault : Decode β) relation :=
  fun decoder decoder' _ _ => .fault fault decoder decoder'

theorem liftAlike [Renamable α] {outcome outcome' : Except Fault α}
    (alike : Alike parallel.first parallel.second outcome outcome') :
    parallel.Follows bound (liftM outcome) (liftM outcome') parallel.Values :=
  lift ((Agrees.of_alike alike).mono fun _ _ _ holds _ _ => holds)

theorem bind {δ : Type} {next : α → Decode γ} {next' : β → Decode δ}
    {last : Nat → γ → δ → Prop} (earlier : parallel.Follows bound step step' relation)
    (later : ∀ larger, bound ≤ larger → ∀ value value', relation larger value value' →
      parallel.Follows larger (next value) (next' value') last) :
    parallel.Follows bound (step >>= next) (step' >>= next') last := by
  intro decoder decoder' drawn related
  apply (earlier decoder decoder' drawn related).bind
  intro value value' middle middle' _ grown between holds
  exact later _ (Nat.le_trans drawn grown) value value' holds middle middle' (Nat.le_refl _) between

/-- Two steps that go on from what the sessions are. -/
theorem afterGet {next : Decoder → Decode α} {next' : Decoder → Decode β}
    (later : ∀ decoder decoder', bound ≤ decoder.store.nextId →
      parallel.Related decoder decoder' →
      parallel.Answers decoder.store.nextId relation (next decoder decoder)
        (next' decoder' decoder')) :
    parallel.Follows bound (get >>= next) (get >>= next') relation := by
  intro decoder decoder' drawn related
  rw [bind_ok (get_apply decoder), bind_ok (get_apply decoder')]
  exact later decoder decoder' drawn related

/-! ## Reading -/

theorem next {read : Read α} (isLocal : read.Local) :
    parallel.Follows bound (Decode.next read) (Decode.next read)
      fun _ value value' => value' = value := by
  intro decoder decoder' drawn related
  have sameReader := parallel.reader_eq related
  constructor
  · intro value after ran
    obtain ⟨reader, readRan, rfl⟩ := next_cases ran
    have advances := isLocal.forward.moved readRan
    have readRan' := isLocal.extended readRan parallel.tail
    rw [← sameReader] at readRan'
    refine ⟨value, _, ?_, rfl, parallel.withReader related advances.bytes_eq, Nat.le_refl _⟩
    rw [Decode.next, readRan']
  · intro strict fault after ran
    obtain ⟨reader, readRan, rfl⟩ := next_cases ran
    rw [parallel.noTail strict, Reader.extended_empty] at sameReader
    exact ⟨_, by rw [Decode.next, sameReader, readRan]⟩

/-- After something was read, which is the same in both sessions. -/
theorem nextThen {read : Read α} {more : α → Decode β} {more' : α → Decode γ}
    {last : Nat → β → γ → Prop} (isLocal : read.Local)
    (later : ∀ value, parallel.Follows bound (more value) (more' value) last) :
    parallel.Follows bound (Decode.next read >>= more) (Decode.next read >>= more') last := by
  apply (next isLocal).bind
  intro larger le value value' same
  rw [same]
  exact (later value).mono le

/-- Records within records, up to the bound on their nesting. A longer blob has room for as many and
more; strictly, both sessions have the same number of bytes left. -/
theorem nested {within : Nat → Decode α} {within' : Nat → Decode β}
    (zero : within 0 = MonadExcept.throw .nestingBound)
    (zero' : within' 0 = MonadExcept.throw .nestingBound)
    (succ : ∀ depth depth', parallel.Follows bound (within depth) (within' depth') relation →
      parallel.Follows bound (within (depth + 1)) (within' (depth' + 1)) relation) :
    parallel.Follows bound (do within (← nesting)) (do within' (← nesting)) relation := by
  -- By induction on the room of the first session; the second one has at least as much.
  have bounded (depth : Nat) : ∀ depth', depth ≤ depth' → (parallel.strict → depth' = depth) →
      parallel.Follows bound (within depth) (within' depth') relation := by
    induction depth with
    | zero =>
      intro depth' _ sameDepth decoder decoder' _ _
      rw [zero]
      refine ⟨fun ran => (by cases ran), fun strict _ _ ran => ?_⟩
      rw [sameDepth strict, zero']
      cases ran
      exact ⟨decoder', rfl⟩
    | succ depth inductionHypothesis =>
      intro depth' le sameDepth
      obtain ⟨less, rfl⟩ : ∃ less, depth' = less + 1 := ⟨depth' - 1, by omega⟩
      refine succ depth less (inductionHypothesis less (by omega) fun strict => ?_)
      have same := sameDepth strict
      omega
  intro decoder decoder' drawn related
  refine bounded (decoder.reader.remaining + 1) (decoder'.reader.remaining + 1) ?_ ?_ decoder
    decoder' drawn related
  · rw [parallel.reader_eq related]
    exact Nat.succ_le_succ (Reader.remaining_le_extended _ _)
  · intro strict
    rw [parallel.reader_eq related, parallel.noTail strict, Reader.extended_empty]

/-! ## Repetition and options -/

/-- Repetition, where `all` says of two lists what `each` says of their members. -/
theorem times {each : α → β → Prop} (all : List α → List β → Prop)
    (follows : parallel.Follows bound step step' fun _ => each) (nil : all [] [])
    (cons : ∀ {value value' values values'}, each value value' → all values values' →
      all (value :: values) (value' :: values')) (count : Nat) :
    parallel.Follows bound (Decode.times count step) (Decode.times count step') fun _ => all := by
  induction count with
  | zero => exact .pure fun _ _ => nil
  | succ count inductionHypothesis =>
    apply follows.bind
    intro middle le value value' holds
    apply (inductionHypothesis.mono le).bind
    intro larger above values values' allHold
    exact .pure fun _ _ => cons holds allHold

theorem timesAlike [Renamable α] {step step' : Decode α}
    (follows : parallel.Follows bound step step' parallel.Values) (count : Nat) :
    parallel.Follows bound (Decode.times count step) (Decode.times count step')
      parallel.Values := by
  refine times (Alike parallel.first parallel.second) follows rfl ?_ count
  intro value value' values values' alike alikeRest
  exact List.cons_eq_cons.mpr ⟨alike, alikeRest⟩

theorem timesSame {step step' : Decode α}
    (follows : parallel.Follows bound step step' fun _ value value' => value' = value)
    (count : Nat) :
    parallel.Follows bound (Decode.times count step) (Decode.times count step')
      fun _ values values' => values' = values := by
  refine times (fun values values' => values' = values) follows rfl ?_ count
  intro value value' values values' same sameRest
  rw [same, sameRest]

theorem discard (follows : parallel.Follows bound step step' relation) :
    parallel.Follows bound (discard step) (discard step') fun _ _ _ => True := by
  intro decoder decoder' drawn related
  have answers := follows decoder decoder' drawn related
  show parallel.Answers _ _ ((Function.const α PUnit.unit <$> step) decoder)
    ((Function.const β PUnit.unit <$> step') decoder')
  rw [map_apply, map_apply]
  cases stepRan : step decoder with
  | mk outcome after =>
    rw [stepRan] at answers
    cases outcome with
    | ok value =>
      obtain ⟨value', after', stepRan', _, still, grown⟩ := answers.answered rfl
      rw [stepRan']
      exact .value trivial still grown
    | error fault =>
      refine ⟨fun ran => (by cases ran), fun strict _ _ ran => ?_⟩
      cases ran
      obtain ⟨after', stepRan'⟩ := answers.faulted strict rfl
      exact ⟨after', by rw [stepRan']; rfl⟩

/-- A step for each member of two lists that are alike. -/
theorem mapM [Renamable γ] [Renamable α] {known : γ → Prop} {step step' : γ → Decode α}
    (follows : ∀ value value', known value → Alike parallel.first parallel.second value value' →
      parallel.Follows bound (step value) (step' value') parallel.Values) {values values' : List γ}
    (knows : ∀ value ∈ values, known value)
    (alike : Alike parallel.first parallel.second values values') :
    parallel.Follows bound (values.mapM step) (values'.mapM step') parallel.Values := by
  induction values generalizing values' with
  | nil =>
    cases values' with
    | nil => exact .pure fun _ _ => rfl
    | cons value' rest' => cases alike
  | cons value rest inductionHypothesis =>
    cases values' with
    | nil => cases alike
    | cons value' rest' =>
      obtain ⟨same, sameRest⟩ := List.cons_eq_cons.mp alike
      have others := inductionHypothesis (fun other inRest => knows other (.tail _ inRest)) sameRest
      rw [List.mapM_cons, List.mapM_cons]
      apply (follows value value' (knows value (.head _)) same).bind
      intro _ le made made' alikeMade
      apply (others.mono le).bind
      intro _ _ more more' alikeMore
      exact .pure fun _ _ => List.cons_eq_cons.mpr ⟨alikeMade, alikeMore⟩

/-- Two values that could be missing. -/
theorem present [Renamable α] {step step' : Decode (Option α)} {what : String}
    (follows : parallel.Follows bound step step' parallel.Values) :
    parallel.Follows bound (Decode.present what step) (Decode.present what step')
      parallel.Values := by
  apply follows.bind
  intro larger le value? value?' alike
  cases value? with
  | none =>
    cases value?' with
    | none => exact .throw _
    | some value' => cases alike
  | some value =>
    cases value?' with
    | none => cases alike
    | some value' => exact .pure fun _ _ => Option.some.inj alike

theorem given? [Renamable α] {step step' : Decode α}
    (follows : parallel.Follows bound step step' parallel.Values) :
    parallel.Follows bound (do return some (← step)) (do return some (← step'))
      parallel.Values := by
  apply follows.bind
  intro larger le value value' alike
  exact .pure fun _ _ => congrArg some alike

/-! ## The active table -/

theorem withActive {table table' : TableId}
    (same : parallel.first.tables table = parallel.second.tables table')
    (follows : parallel.Follows bound step step' relation) :
    parallel.Follows bound (Decode.withActive table step) (Decode.withActive table' step')
      relation := by
  intro decoder decoder' drawn related
  have inside : parallel.Related { decoder with active := table }
      { decoder' with active := table' } := parallel.activate related same
  have drawnInside : bound ≤ { decoder with active := table }.store.nextId := drawn
  have answers := follows _ _ drawnInside inside
  constructor
  · intro value after ran
    obtain ⟨inner, innerRan, rfl⟩ := withActive_run ran
    obtain ⟨value', inner', innerRan', holds, still, grown⟩ := answers.answered innerRan
    have back := parallel.activate still (parallel.active_alike related)
    exact ⟨value', _, by rw [Decode.withActive, innerRan'], holds, back, grown⟩
  · intro strict fault after ran
    cases innerRan : step { decoder with active := table } with
    | mk outcome inner =>
      rw [Decode.withActive, innerRan] at ran
      cases ran
      obtain ⟨inner', innerRan'⟩ := answers.faulted strict innerRan
      exact ⟨_, by rw [Decode.withActive, innerRan']⟩

theorem within {table? table?' : Option TableId}
    (same : renameTable parallel.first table? = renameTable parallel.second table?')
    (follows : parallel.Follows bound step step' relation) :
    parallel.Follows bound (Decode.within table? step) (Decode.within table?' step') relation := by
  cases table? with
  | none =>
    cases table?' with
    | none => exact follows
    | some table' => cases same
  | some table =>
    cases table?' with
    | none => cases same
    | some table' => exact follows.withActive (Option.some.inj same)

/-! ## The store -/

/-- The store is exchanged for one that an operation made from it. -/
theorem exchange (make : Store → Except Fault (α × Store))
    (make' : Store → Except Fault (β × Store))
    (agrees : ∀ {decoder decoder'}, bound ≤ decoder.store.nextId →
      parallel.Related decoder decoder' →
      Agrees parallel.strict
        (fun result result' => relation result.2.nextId result.1 result'.1 ∧
          decoder.store.nextId ≤ result.2.nextId ∧
          parallel.Related { decoder with store := result.2 } { decoder' with store := result'.2 })
        (make decoder.store) (make' decoder'.store)) :
    parallel.Follows bound
      (do
        let (value, store) ← make (← get).store
        changeStore fun _ => store
        return value)
      (do
        let (value, store) ← make' (← get).store
        changeStore fun _ => store
        return value)
      relation := by
  apply afterGet
  intro decoder decoder' drawn related
  have agree := agrees drawn related
  rw [bind_apply, lift_apply, bind_apply, lift_apply]
  cases made : make decoder.store with
  | ok result =>
    obtain ⟨result', made', holds, grown, still⟩ := agree.answered result made
    rw [made']
    exact .value holds still grown
  | error fault =>
    refine ⟨fun ran => (by cases ran), fun strict _ _ ran => ?_⟩
    cases ran
    have made' := agree.faulted strict fault made
    exact ⟨decoder', by rw [made']⟩

end Follows

end Parallel

end Shading
