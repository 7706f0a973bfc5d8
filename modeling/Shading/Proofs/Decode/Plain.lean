import Shading.Proofs.Decode.SymbolChronicle

/-!
Decoding symbols and tables attaches no initial values. So it also never meets a variable that has a
value already; of the other decoders this is so in some sessions only. Main statement:
`Decode.table_plain`.
-/

namespace Shading

/-- Whether a fault says that a variable already had an initial value. -/
def Fault.isSecondValue (fault : Fault) : Bool :=
  fault matches .initialValueTwice ..

namespace Decode

open Stepping

variable {α β : Type}

/-- A step that never comes to attach a second initial value to a variable. -/
def AttachesOnce (step : Decode α) (decoder : Decoder) : Prop :=
  ∀ fault, (step decoder).1 = .error fault → fault.isSecondValue = false

namespace AttachesOnce

variable {decoder : Decoder}

theorem answered {step : Decode α} {value : α} (answers : (step decoder).1 = .ok value) :
    AttachesOnce step decoder := by
  intro fault failed
  rw [answers] at failed
  cases failed

theorem faulted {step : Decode α} {fault : Fault} (faults : (step decoder).1 = .error fault)
    (first : fault.isSecondValue = false) : AttachesOnce step decoder := by
  intro other failed
  rw [faults] at failed
  cases failed
  exact first

theorem after {first : Decode α} {next : α → Decode β} (earlier : AttachesOnce first decoder)
    (later : ∀ value middle, first decoder = (.ok value, middle) →
      AttachesOnce (next value) middle) : AttachesOnce (first >>= next) decoder := by
  intro fault failed
  have ran : (first >>= next) decoder = (.error fault, _) := Prod.ext failed rfl
  rcases fault_of_bind_run ran with firstRan | ⟨value, middle, firstRan, nextRan⟩
  · exact earlier fault (congrArg Prod.fst firstRan)
  · exact later value middle firstRan fault (congrArg Prod.fst nextRan)

theorem exchange (make : Store → Except Fault (α × Store)) {made : α × Store}
    (makes : make decoder.store = .ok made) :
    AttachesOnce (do
      let (value, store) ← make (← get).store
      changeStore fun _ => store
      return value) decoder := by
  intro fault failed
  rw [bind_ok (get_apply decoder), bind_apply, lift_apply, makes] at failed
  cases failed

end AttachesOnce

/-- A step that attaches no initial value at all. -/
structure Plain (step : Decode α) : Prop where
  initials_eq : ∀ decoder, (step decoder).2.store.initials = decoder.store.initials
  once : ∀ decoder, AttachesOnce step decoder

namespace Plain

theorem lift {outcome : Except Fault α}
    (first : ∀ fault, outcome = .error fault → fault.isSecondValue = false) :
    Plain (liftM outcome) :=
  ⟨fun _ => rfl, fun _ => first⟩

theorem pure (value : α) : Plain (Pure.pure value) :=
  ⟨fun _ => rfl, fun _ => .answered rfl⟩

theorem throw {fault : Fault} (first : fault.isSecondValue = false) :
    Plain (throw fault : Decode α) :=
  ⟨fun _ => rfl, fun _ => .faulted rfl first⟩

theorem next {read : Read α} (forward : read.Forward) : Plain (Decode.next read) where
  initials_eq _ := rfl
  once decoder fault failed := by
    have ofBytes := forward.ofBytes decoder.reader fault failed
    cases fault with
    | initialValueTwice => cases ofBytes
    | _ => rfl

theorem after {first : Decode α} {next : α → Decode β} (earlier : Plain first)
    (later : ∀ value, Plain (next value)) : Plain (first >>= next) where
  initials_eq decoder := by
    have kept := earlier.initials_eq decoder
    rw [bind_apply]
    cases ran : first decoder with
    | mk outcome middle =>
      rw [ran] at kept
      cases outcome with
      | error fault => exact kept
      | ok value => exact ((later value).initials_eq middle).trans kept
  once decoder := (earlier.once decoder).after fun value middle _ => (later value).once middle

theorem afterGet {next : Decoder → Decode α} (later : ∀ decoder, Plain (next decoder)) :
    Plain (get >>= next) where
  initials_eq decoder := (later decoder).initials_eq decoder
  once decoder := (later decoder).once decoder

theorem times {step : Decode α} (plain : Plain step) (count : Nat) :
    Plain (Decode.times count step) := by
  induction count with
  | zero => exact .pure []
  | succ count inductionHypothesis =>
    refine plain.after fun value => ?_
    exact inductionHypothesis.after fun values => .pure (value :: values)

theorem withActive {step : Decode α} (plain : Plain step) (table : TableId) :
    Plain (Decode.withActive table step) where
  initials_eq decoder := plain.initials_eq { decoder with active := table }
  once decoder := plain.once { decoder with active := table }

end Plain

/-! ## Symbols -/

theorem freshId_plain : Plain freshId :=
  ⟨fun _ => rfl, fun _ => .answered rfl⟩

theorem adopt_plain (symbol : Symbol) : Plain (adopt symbol) :=
  ⟨fun _ => rfl, fun _ => .answered rfl⟩

theorem register_plain (id : UInt16) (symbol : Symbol) : Plain (register id symbol) where
  initials_eq decoder := by
    rcases register_cases id symbol decoder with ⟨_, ran⟩ | ⟨_, ran⟩ <;> rw [ran]
  once decoder := by
    rcases register_cases id symbol decoder with ⟨_, ran⟩ | ⟨_, ran⟩
    · exact .answered (congrArg Prod.fst ran)
    · exact .faulted (congrArg Prod.fst ran) rfl

theorem enter_plain (id : UInt16) (symbol : Symbol) : Plain (enter id symbol) :=
  (adopt_plain symbol).after fun _ => register_plain id symbol

theorem enterNew_plain (id : UInt16) (symbolOf : Nat → Symbol) :
    Plain (freshId >>= fun new => enter id (symbolOf new)) :=
  freshId_plain.after fun new => enter_plain id (symbolOf new)

theorem registered_plain (id : UInt16) : Plain (registered id) := by
  refine .afterGet fun decoder => ?_
  split
  · exact .pure _
  · exact .throw rfl

theorem systemType_plain (name : String) : Plain (systemType name) := by
  refine .afterGet fun decoder => ?_
  split
  · exact .pure _
  · exact .throw rfl
  · exact .throw rfl

theorem asType_plain (symbol : Symbol) : Plain (liftM symbol.asType) := by
  refine .lift fun fault failed => ?_
  cases symbol <;> cases failed <;> rfl

theorem asVariable_plain (symbol : Symbol) : Plain (liftM symbol.asVariable) := by
  refine .lift fun fault failed => ?_
  cases symbol <;> cases failed <;> rfl

theorem asFunction_plain (symbol : Symbol) : Plain (liftM symbol.asFunction) := by
  refine .lift fun fault failed => ?_
  cases symbol <;> cases failed <;> rfl

theorem structMember_plain {nested : Decode Symbol} (plain : Plain nested) :
    Plain (structMember nested) := by
  refine (Plain.next Read.modifiers_forward).after fun modifiers => ?_
  refine (Plain.next Read.string_forward).after fun name => ?_
  refine plain.after fun symbol => ?_
  exact (asType_plain symbol).after fun type => .pure _

theorem symbolRecord_plain {nested : Decode Symbol} (plain : Plain nested) (tag : Command) :
    Plain (symbolRecord nested tag) := by
  cases tag with
  | arrayType =>
    refine (Plain.next Read.u16_forward).after fun id => ?_
    refine plain.after fun symbol => (asType_plain symbol).after fun component => ?_
    exact (Plain.next Read.s8_forward).after fun size => enterNew_plain id _
  | enumType =>
    refine (Plain.next Read.u16_forward).after fun id => ?_
    exact (Plain.next Read.string_forward).after fun name => enterNew_plain id _
  | functionSymbol =>
    refine (Plain.next Read.u16_forward).after fun id => ?_
    refine (Plain.next Read.modifiers_forward).after fun modifiers => ?_
    refine (Plain.next Read.string_forward).after fun name => ?_
    refine (Plain.next Read.u8_forward).after fun count => ?_
    have parameter := plain.after asVariable_plain
    refine (parameter.times count.toNat).after fun parameters => ?_
    refine plain.after fun symbol => (asType_plain symbol).after fun returnType => ?_
    exact enterNew_plain id _
  | field =>
    refine plain.after fun symbol => (asVariable_plain symbol).after fun owner => ?_
    refine (Plain.next Read.u8_forward).after fun index => ?_
    refine freshId_plain.after fun new => ?_
    have made : Plain (liftM (BlockMember.ofIndex new .nowhere owner index.toNat)) := by
      refine .lift fun fault failed => ?_
      rw [BlockMember.ofIndex] at failed
      split at failed <;> cases failed
      rfl
    refine made.after fun field => ?_
    exact (adopt_plain _).after fun _ => .pure _
  | structType =>
    refine (Plain.next Read.u16_forward).after fun id => ?_
    refine (Plain.next Read.string_forward).after fun name => ?_
    refine (Plain.next Read.u8_forward).after fun count => ?_
    refine ((structMember_plain plain).times count.toNat).after fun members => ?_
    exact enterNew_plain id _
  | symbolRef => exact (Plain.next Read.u16_forward).after registered_plain
  | synonym =>
    refine (Plain.next Read.u16_forward).after fun id => ?_
    refine (Plain.next Read.string_forward).after fun name => ?_
    exact plain.after fun target => enterNew_plain id _
  | systemType =>
    refine (Plain.next Read.u16_forward).after fun id => ?_
    refine (Plain.next Read.string_forward).after fun name => ?_
    exact (systemType_plain name).after fun type => register_plain id _
  | overloadSet =>
    refine (Plain.next Read.u16_forward).after fun id => ?_
    refine (Plain.next Read.u8_forward).after fun count => ?_
    have member := plain.after asFunction_plain
    refine (member.times count.toNat).after fun functions => ?_
    refine freshId_plain.after fun new => ?_
    have made : Plain (liftM (OverloadSet.ofFunctions new functions)) := by
      refine .lift fun fault failed => ?_
      cases functions <;> cases failed
      rfl
    exact made.after fun set => enter_plain id _
  | varSymbol =>
    refine (Plain.next Read.u16_forward).after fun id => ?_
    refine (Plain.next Read.modifiers_forward).after fun modifiers => ?_
    refine (Plain.next Read.string_forward).after fun name => ?_
    refine plain.after fun symbol => (asType_plain symbol).after fun type => ?_
    exact (Plain.next Read.storage_forward).after fun storage => enterNew_plain id _
  | _ => exact .throw rfl

theorem symbolWithin_plain (bound : Nat) : Plain (symbolWithin bound) := by
  induction bound with
  | zero => exact .throw rfl
  | succ bound inductionHypothesis =>
    exact (Plain.next Read.command_forward).after fun tag =>
      symbolRecord_plain inductionHypothesis tag

theorem symbol_plain : Plain symbol :=
  .afterGet fun decoder => symbolWithin_plain (decoder.reader.remaining + 1)

/-! ## Tables -/

theorem bindReference_plain (table : TableId) (decoded : List Symbol) :
    Plain (bindReference table decoded) := by
  refine (Plain.next Read.u16_forward).after fun index => ?_
  split
  · exact ⟨fun _ => rfl, fun _ => .answered rfl⟩
  · exact .throw rfl

theorem openTable_plain (inherit : Bool) : Plain (openTable inherit) :=
  ⟨fun _ => rfl, fun _ => .answered rfl⟩

theorem table_plain (inherit : Bool) : Plain (table inherit) := by
  refine (Plain.next Read.command_forward).after fun tag => ?_
  cases tag with
  | absent => exact .pure none
  | symbolTable =>
    refine (Plain.next Read.u16_forward).after fun count => ?_
    refine (openTable_plain inherit).after fun id => ?_
    have content : Plain (do
        let decoded ← times count.toNat symbol
        let references ← next .u16
        discard <| times references.toNat (bindReference id decoded)) := by
      refine (symbol_plain.times count.toNat).after fun decoded => ?_
      refine (Plain.next Read.u16_forward).after fun references => ?_
      have references := (bindReference_plain id decoded).times references.toNat
      exact references.after fun _ => .pure ()
    exact (content.withActive id).after fun _ => .pure (some id)
  | _ => exact .throw rfl

end Decode

end Shading
