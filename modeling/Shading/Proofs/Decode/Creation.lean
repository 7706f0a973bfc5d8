import Mathlib.Data.List.Sort
import Shading.Proofs.Decode.Resolution

/-!
Where created symbols go. A trace of a run follows the steps that the decoder is put together of,
down to the records of symbols, and keeps for each created symbol which table was active at the tag
of its record. Other tables are active only inside `withActive`, and no record of a symbol has such
a step in it; so the table at the tag is the one that comes to own the symbol. Main statements:
`Decode.Creates.takes` and `Decode.call_creates`.
-/

namespace Shading

/-- The symbols that came to tables are told by the tables. -/
theorem Store.Takes.created_unique {before after : Store} {created other : List (Symbol × TableId)}
    (takes : before.Takes created after) (takesOther : before.Takes other after) :
    created = other := by
  let younger (first second : Symbol × TableId) : Prop := first.1.id < second.1.id
  have : Std.Irrefl younger := ⟨fun entry => Nat.lt_irrefl entry.1.id⟩
  have : Std.Antisymm younger := ⟨fun _ _ less more => absurd more (Nat.lt_asymm less)⟩
  have sorted : created.Pairwise younger := List.pairwise_map.mp takes.created_increasing
  have sortedOther : other.Pairwise younger := List.pairwise_map.mp takesOther.created_increasing
  refine sorted.eq_of_mem_iff sortedOther fun entry => ?_
  have owned := (takes.owned_eq entry.2).symm.trans (takesOther.owned_eq entry.2)
  rw [← mem_arrivals, ← mem_arrivals, List.append_cancel_left owned]

/-- Whether a session goes on without new symbols, with the same table active. -/
structure Decoder.Rests (before after : Decoder) : Prop where
  active_eq : after.active = before.active
  takes : before.store.Takes [] after.store

namespace Decode

/-- The symbols that a step creates from some state of a session, each with the table that is active
at the tag of its record. There is one constructor for each way in which decoders are put together,
and `record?` is the table at the tag of the record around the step, if one is around it. -/
inductive Creates :
    Option TableId → {α : Type} → Decode α → Decoder → List (Symbol × TableId) → Prop where
  | nothing {record? : Option TableId} {α : Type} {step : Decode α} {decoder : Decoder}
      (rests : decoder.Rests (step decoder).2) : Creates record? step decoder []
  /-- An id is drawn for a symbol that the active table adopts. -/
  | adopt {record : TableId} {α : Type} {step : Decode α} {decoder : Decoder} {symbol : Symbol}
      (new : symbol.id = decoder.store.nextId)
      (same : (step decoder).2.active = decoder.active)
      (adopted : (step decoder).2.store =
        decoder.store.fresh.2.adopt decoder.active symbol) :
      Creates (some record) step decoder [(symbol, record)]
  | andThen {record? : Option TableId} {α β : Type} {first : Decode α} {next : α → Decode β}
      {decoder middle : Decoder} {value : α} {earlier later : List (Symbol × TableId)}
      (ran : first decoder = (.ok value, middle))
      (creates : Creates record? first decoder earlier)
      (further : Creates record? (next value) middle later) :
      Creates record? (first >>= next) decoder (earlier ++ later)
  | faulted {record? : Option TableId} {α β : Type} {first : Decode α} {next : α → Decode β}
      {decoder after : Decoder} {fault : Fault} {created : List (Symbol × TableId)}
      (ran : first decoder = (.error fault, after))
      (creates : Creates record? first decoder created) :
      Creates record? (first >>= next) decoder created
  /-- A record begins, with its tag. -/
  | record {record? : Option TableId} {bound : Nat} {decoder : Decoder}
      {created : List (Symbol × TableId)}
      (within : Creates (some decoder.active)
        (do symbolRecord (symbolWithin bound) (← next .command)) decoder created) :
      Creates record? (symbolWithin (bound + 1)) decoder created
  /-- Between records another table is active for a while. -/
  | inside {α : Type} {step : Decode α} {decoder : Decoder} {table : TableId}
      {created : List (Symbol × TableId)} (opened : table < decoder.store.tables.size)
      (inner : Creates none step { decoder with active := table } created) :
      Creates none (withActive table step) decoder created
  | holding {α : Type} {step : Decode α} {decoder : Decoder} {element : Element}
      {created : List (Symbol × TableId)} (inner : Creates none step decoder created) :
      Creates none (Decode.holding element step) decoder created

open Stepping

variable {α β : Type} {context : Context} {record? : Option TableId} {decoder : Decoder}

/-! ## What a trace says of the tables -/

theorem rests : Passage Decoder.Rests where
  refl _ := ⟨rfl, .of_owned_eq (Nat.le_refl _) (Nat.le_refl _) fun _ => rfl⟩
  trans first second := ⟨second.active_eq.trans first.active_eq, first.takes.trans second.takes⟩
  read _ _ _ := ⟨rfl, .of_owned_eq (Nat.le_refl _) (Nat.le_refl _) fun _ => rfl⟩
  inside inner := ⟨rfl, inner.takes⟩
  waste _ := ⟨rfl, .of_owned_eq (Nat.le_succ _) (Nat.le_refl _) fun _ => rfl⟩
  openTable _ parent? := ⟨rfl, .openTable parent?⟩
  bind _ table symbol := ⟨rfl, .bind table symbol⟩
  define _ _ := ⟨rfl, .of_owned_eq (Nat.le_refl _) (Nat.le_refl _) fun _ => rfl⟩

/-- Every created symbol was added once, at the end of what one table owns: the one that was active
at the tag of its record. -/
theorem Creates.takes {step : Decode α} {created : List (Symbol × TableId)}
    (creates : Creates record? step decoder created)
    (inside : decoder.active < decoder.store.tables.size)
    (sameTable : ∀ record ∈ record?, record = decoder.active) :
    (step decoder).2.active = decoder.active ∧
      decoder.store.Takes created (step decoder).2.store := by
  induction creates with
  | nothing rests => exact ⟨rests.active_eq, rests.takes⟩
  | adopt new same adopted =>
    refine ⟨same, ?_⟩
    rw [adopted, sameTable _ rfl]
    exact .create new inside
  | andThen ran _ _ firstHypothesis secondHypothesis =>
    have first := firstHypothesis inside sameTable
    rw [ran] at first
    rw [bind_ok ran]
    have second := secondHypothesis
      (by rw [first.1]; exact Nat.lt_of_lt_of_le inside first.2.size_le)
      (by rw [first.1]; exact sameTable)
    exact ⟨second.1.trans first.1, first.2.trans second.2⟩
  | faulted ran _ inductionHypothesis =>
    have first := inductionHypothesis inside sameTable
    rw [ran] at first
    rw [bind_apply, ran]
    exact first
  | record _ inductionHypothesis =>
    exact inductionHypothesis inside fun _ same => (Option.some.inj same).symm
  | inside opened _ inductionHypothesis =>
    exact ⟨rfl, (inductionHypothesis opened nofun).2⟩
  | @holding _ step decoder element _ _ inductionHypothesis =>
    have held := inductionHypothesis inside nofun
    have ended := rests.released element step decoder
    refine ⟨ended.active_eq.trans held.1, ?_⟩
    have whole := held.2.trans ended.takes
    rwa [List.append_nil] at whole

/-! ## Steps that have a trace -/

/-- A step has a trace from every session. -/
def Traced (record? : Option TableId) (step : Decode α) : Prop :=
  ∀ decoder, ∃ created, Creates record? step decoder created

theorem Leads.traced {step : Decode α} (leads : Leads Decoder.Rests step) : Traced record? step :=
  fun decoder => ⟨[], .nothing (leads decoder)⟩

theorem exists_creates_of_bind {first : Decode α} {next : α → Decode β}
    (earlier : ∃ created, Creates record? first decoder created)
    (later : ∀ value middle, first decoder = (.ok value, middle) →
      ∃ created, Creates record? (next value) middle created) :
    ∃ created, Creates record? (first >>= next) decoder created := by
  obtain ⟨created, creates⟩ := earlier
  cases ran : first decoder with
  | mk outcome middle =>
    cases outcome with
    | error fault => exact ⟨created, .faulted ran creates⟩
    | ok value =>
      obtain ⟨more, further⟩ := later value middle ran
      exact ⟨created ++ more, .andThen ran creates further⟩

theorem Traced.after {first : Decode α} {next : α → Decode β} (earlier : Traced record? first)
    (later : ∀ value, Traced record? (next value)) : Traced record? (first >>= next) :=
  fun decoder => exists_creates_of_bind (earlier decoder) fun value middle _ => later value middle

theorem Traced.times {step : Decode α} (traced : Traced record? step) (count : Nat) :
    Traced record? (times count step) := by
  induction count with
  | zero => exact (rests.walk.pure []).traced
  | succ count inductionHypothesis =>
    refine traced.after fun value => ?_
    exact inductionHypothesis.after fun values => (rests.walk.pure (value :: values)).traced

/-! ## Records -/

section Records

variable {record : TableId}

/-- A new symbol is made and adopted. What comes after that touches no table. -/
theorem create_traced {γ : Type} {make : Nat → Except Fault γ} {symbolOf : γ → Symbol}
    {more : γ → Decode β} (labelled : ∀ new value, make new = .ok value → (symbolOf value).id = new)
    (quiet : ∀ value decoder, (more value decoder).2.store = decoder.store ∧
      (more value decoder).2.active = decoder.active) :
    Traced (some record)
      (freshId >>= fun new => liftM (make new) >>= fun value =>
        adopt (symbolOf value) >>= fun _ => more value) := by
  intro decoder
  have opened : (freshId >>= fun new => liftM (make new) >>= fun value =>
      adopt (symbolOf value) >>= fun _ => more value) decoder =
        (liftM (make decoder.store.nextId) >>= fun value =>
          adopt (symbolOf value) >>= fun _ => more value)
          { decoder with store := decoder.store.fresh.2 } := bind_ok (freshId_apply decoder)
  cases made : make decoder.store.nextId with
  | error fault =>
    refine ⟨[], .nothing ?_⟩
    rw [opened, made]
    exact rests.waste decoder
  | ok value =>
    have label := labelled decoder.store.nextId value made
    obtain ⟨store, active⟩ := quiet value
      { decoder with store := decoder.store.fresh.2.adopt decoder.active (symbolOf value) }
    refine ⟨_, .adopt label ?_ ?_⟩
    · rw [opened, made]
      exact active
    · rw [opened, made]
      exact store

theorem register_quiet (id : UInt16) (symbol : Symbol) (decoder : Decoder) :
    (register id symbol decoder).2.store = decoder.store ∧
      (register id symbol decoder).2.active = decoder.active := by
  rcases register_cases id symbol decoder with ⟨_, ran⟩ | ⟨_, ran⟩
  · rw [ran]
    exact ⟨rfl, rfl⟩
  · rw [ran]
    exact ⟨rfl, rfl⟩

theorem enter_traced {γ : Type} {make : Nat → Except Fault γ} {symbolOf : γ → Symbol}
    (id : UInt16) (labelled : ∀ new value, make new = .ok value → (symbolOf value).id = new) :
    Traced (some record)
      (freshId >>= fun new => liftM (make new) >>= fun value => enter id (symbolOf value)) :=
  create_traced labelled fun value => register_quiet id (symbolOf value)

/-- The same for a symbol that can always be made. -/
theorem enterNew_traced {symbolOf : Nat → Symbol} (id : UInt16)
    (labelled : ∀ new, (symbolOf new).id = new) :
    Traced (some record) (freshId >>= fun new => enter id (symbolOf new)) := by
  refine @enter_traced record Nat Except.ok symbolOf id ?_
  intro new value made
  cases made
  exact labelled new

theorem register_rests (id : UInt16) (symbol : Symbol) :
    Leads Decoder.Rests (register id symbol) := by
  intro decoder
  obtain ⟨store, active⟩ := register_quiet id symbol decoder
  exact ⟨active, by rw [store]; exact (rests.refl decoder).takes⟩

theorem registered_rests (id : UInt16) : Leads Decoder.Rests (registered id) := by
  refine rests.walk.after rests.walk.current fun decoder => ?_
  split
  · exact rests.walk.pure _
  · exact rests.walk.throw _

theorem systemType_rests (name : String) : Leads Decoder.Rests (systemType name) := by
  refine rests.walk.after rests.walk.current fun decoder => ?_
  split
  · exact rests.walk.pure _
  · exact rests.walk.throw _
  · exact rests.walk.throw _

theorem structMember_traced {nested : Decode Symbol} (traced : Traced record? nested) :
    Traced record? (structMember nested) := by
  refine (rests.walk.next Read.modifiers_forward).traced.after fun modifiers => ?_
  refine (rests.walk.next Read.string_forward).traced.after fun name => ?_
  refine traced.after fun symbol => ?_
  refine (rests.walk.lift symbol.asType).traced.after fun type => ?_
  exact (rests.walk.pure _).traced

theorem symbolRecord_traced {nested : Decode Symbol} (traced : Traced (some record) nested)
    (tag : Command) : Traced (some record) (symbolRecord nested tag) := by
  have number : Traced (some record) (next Read.u16) := (rests.walk.next Read.u16_forward).traced
  have byte : Traced (some record) (next Read.u8) := (rests.walk.next Read.u8_forward).traced
  have text : Traced (some record) (next Read.string) :=
    (rests.walk.next Read.string_forward).traced
  have modifiers : Traced (some record) (next Read.modifiers) :=
    (rests.walk.next Read.modifiers_forward).traced
  have convert {α : Type} (outcome : Except Fault α) : Traced (some record) (liftM outcome) :=
    (rests.walk.lift outcome).traced
  cases tag with
  | arrayType =>
    refine number.after fun id => ?_
    refine traced.after fun symbol => ?_
    refine (convert symbol.asType).after fun component => ?_
    refine (rests.walk.next Read.s8_forward).traced.after fun size => ?_
    exact enterNew_traced id fun _ => rfl
  | enumType =>
    refine number.after fun id => ?_
    refine text.after fun name => ?_
    exact enterNew_traced id fun _ => rfl
  | functionSymbol =>
    refine number.after fun id => ?_
    refine modifiers.after fun modifiers => ?_
    refine text.after fun name => ?_
    refine byte.after fun count => ?_
    have parameter := traced.after fun symbol => convert symbol.asVariable
    refine (parameter.times count.toNat).after fun parameters => ?_
    refine traced.after fun symbol => ?_
    refine (convert symbol.asType).after fun returnType => ?_
    exact enterNew_traced id fun _ => rfl
  | field =>
    refine traced.after fun symbol => ?_
    refine (convert symbol.asVariable).after fun owner => ?_
    refine byte.after fun index => ?_
    have labelled : ∀ new field, BlockMember.ofIndex new .nowhere owner index.toNat = .ok field →
        (Symbol.member field).id = new := fun _ _ => BlockMember.id_of_ofIndex
    exact create_traced labelled fun _ _ => ⟨rfl, rfl⟩
  | structType =>
    refine number.after fun id => ?_
    refine text.after fun name => ?_
    refine byte.after fun count => ?_
    refine ((structMember_traced traced).times count.toNat).after fun members => ?_
    exact enterNew_traced id fun _ => rfl
  | symbolRef => exact number.after fun id => (registered_rests id).traced
  | synonym =>
    refine number.after fun id => ?_
    refine text.after fun name => ?_
    refine traced.after fun target => ?_
    have labelled (new : Nat) : (Symbol.synonym new .nowhere name target).id = new := rfl
    exact enterNew_traced id labelled
  | systemType =>
    refine number.after fun id => ?_
    refine text.after fun name => ?_
    exact (systemType_rests name).traced.after fun type => (register_rests id (.type type)).traced
  | overloadSet =>
    refine number.after fun id => ?_
    refine byte.after fun count => ?_
    have member := traced.after fun symbol => convert symbol.asFunction
    refine (member.times count.toNat).after fun functions => ?_
    have labelled : ∀ new set, OverloadSet.ofFunctions new functions = .ok set →
        (Symbol.overloads set).id = new := fun _ _ => OverloadSet.id_of_ofFunctions
    exact enter_traced id labelled
  | varSymbol =>
    refine number.after fun id => ?_
    refine modifiers.after fun modifiers => ?_
    refine text.after fun name => ?_
    refine traced.after fun symbol => ?_
    refine (convert symbol.asType).after fun type => ?_
    refine (rests.walk.next Read.storage_forward).traced.after fun storage => ?_
    exact enterNew_traced id fun _ => rfl
  | _ => exact (rests.walk.throw _).traced

/-- Every record has a trace, whatever comes of it. -/
theorem symbolWithin_traced (bound : Nat) (record? : Option TableId) :
    Traced record? (symbolWithin bound) := by
  induction bound generalizing record? with
  | zero => exact (rests.walk.throw _).traced
  | succ bound inductionHypothesis =>
    intro decoder
    have body := (rests.walk.next Read.command_forward).traced.after
      (symbolRecord_traced (inductionHypothesis (some decoder.active)))
    obtain ⟨created, creates⟩ := body decoder
    exact ⟨created, .record creates⟩

end Records

/-! ## Decoders -/

theorem symbol_traced : Traced none symbol :=
  rests.walk.nesting.traced.after fun bound => symbolWithin_traced bound none

theorem declare_rests (target : Variable) (baseType : Ty) (arraySize : Int32)
    (value? : Option Expr) :
    Leads Decoder.Rests (do
      let (declaration, store) ← Declaration.make (← get).store target baseType arraySize value?
      changeStore fun _ => store
      return declaration) := by
  refine rests.exchange (Declaration.make · target baseType arraySize value?) ?_
  intro decoder declaration store made
  rcases (make_cases made).2 with unchanged | ⟨value, attached⟩
  · rw [unchanged]
    exact rests.refl decoder
  · rw [(Store.attachInitial_cases attached).2]
    exact ⟨rfl, .of_owned_eq (Nat.le_refl _) (Nat.le_refl _) fun _ => rfl⟩

theorem openTable_rests (inherit : Bool) : Leads Decoder.Rests (openTable inherit) :=
  fun decoder => rests.openTable decoder _

/-- A decoded table is there. -/
theorem lt_size_of_table {inherit : Bool} {before after : Decoder} {id : TableId}
    (ran : table inherit before = (.ok (some id), after)) : id < after.store.tables.size := by
  obtain ⟨run⟩ := exists_tableRun ran
  refine Nat.lt_of_not_le fun outside => ?_
  have header := run.header_eq
  rw [Store.header?, Array.getElem?_eq_none outside] at header
  cases header

theorem traced : Walk (Traced none) where
  pure value := (rests.walk.pure value).traced
  throw fault := (rests.walk.throw fault).traced
  lift outcome := (rests.walk.lift outcome).traced
  current := rests.walk.current.traced
  next forward := (rests.walk.next forward).traced
  after := Traced.after
  bindName table symbol := (rests.walk.bindName table symbol).traced
  insideNew inherit _ _ each further decoder := by
    refine exists_creates_of_bind ((openTable_rests inherit).traced decoder) ?_
    intro id opened ran
    have room : id < opened.store.tables.size := by
      cases ran
      exact Nat.lt_of_lt_of_eq (Nat.lt_succ_self _) (Store.size_newTable ..).symm
    obtain ⟨created, creates⟩ := each id { opened with active := id }
    exact exists_creates_of_bind ⟨created, .inside room creates⟩ fun value middle _ =>
      further id value middle
  insideDecoded decoded each decoder := by
    refine exists_creates_of_bind (decoded decoder) fun table? middle ran => ?_
    cases table? with
    | none => exact each none middle
    | some id =>
      obtain ⟨created, creates⟩ := each (some id) { middle with active := id }
      exact ⟨created, .inside (lt_size_of_table ran) creates⟩
  defineFunction declaration body referenced :=
    (rests.walk.defineFunction declaration body referenced).traced
  holding element traced decoder := by
    obtain ⟨created, creates⟩ := traced decoder
    exact ⟨created, .holding creates⟩

theorem declare_traced (target : Variable) (baseType : Ty) (arraySize : Int32)
    (value? : Option Expr) :
    Traced none (do
      let (declaration, store) ← Declaration.make (← get).store target baseType arraySize value?
      changeStore fun _ => store
      return declaration) :=
  (declare_rests target baseType arraySize value?).traced

/-- Every call has a trace, from every session and with or without an answer. -/
theorem call_creates (context : Context) (call : Call) (decoder : Decoder) :
    ∃ created, Creates none (call.run context) decoder created := by
  have declaration : Traced none (Decode.declaration context) :=
    traced.declaration symbol_traced declare_traced
  have enumElement := traced.enumElement symbol_traced declare_traced
  exact traced.call symbol_traced declaration enumElement call decoder

end Decode

end Shading
