import Shading.Proofs.Decode.Element

/-!
Sessions: calls of the decoders in any order, each from where the one before ended, whether that
gave a value or a fault. Every call has an account, so that every session that starts as it should
stays sound and goes on by histories.
-/

namespace Shading

/-- A call that a session can be asked for. -/
inductive Call where
  | layout
  | modifiers
  | symbol
  | type
  | table (inherit : Bool)
  | stmt
  | expr
  | element
  | elements
  deriving DecidableEq, Repr

namespace Call

def Answer : Call → Type
  | layout => Layout
  | modifiers => Modifiers
  | symbol => Symbol
  | type => Ty
  | table _ => Option TableId
  | stmt => Option Stmt
  | expr => Option Expr
  | element => Option Element
  | elements => List Element

def run (context : Context) : (call : Call) → Decode call.Answer
  | layout => Decode.next .layout
  | modifiers => Decode.next .modifiers
  | symbol => Decode.symbol
  | type => Decode.type
  | table inherit => Decode.table inherit
  | stmt => Decode.stmt context
  | expr => Decode.expr context
  | element => Decode.element context
  | elements => Decode.elements context

/-- What is known of the answer to a call. -/
def Right (context : Context) (origin : Origin) : (call : Call) → call.Answer → Decoder → Prop
  | layout, _, _ => True
  | modifiers, _, _ => True
  | symbol, answer, after => origin.Knows after.store answer
  | type, answer, _ => origin.types answer
  | table _, (answer : Option TableId), after =>
    ∀ id ∈ answer, origin.tables ≤ id ∧ id < after.store.tables.size
  | stmt, (answer : Option Stmt), _ =>
    ∀ statement ∈ answer, statement.Built context origin.types
  | expr, (answer : Option Expr), _ => ∀ value ∈ answer, value.Built context origin.types
  | element, (answer : Option Element), _ => ∀ found ∈ answer, found.Built context origin.types
  | elements, (answer : List Element), _ => ∀ found ∈ answer, found.Built context origin.types

theorem run_consumes {origin : Origin} {bound : Nat} (context : Context) (call : Call) :
    Decode.Consumes origin .node bound (call.run context) (call.Right context origin) := by
  cases call with
  | layout => exact .read Read.layout_tagged
  | modifiers => exact .read Read.modifiers_tagged
  | symbol => exact Decode.symbol_consumes
  | type => exact Decode.type_consumes
  | table inherit => exact Decode.table_consumes inherit
  | stmt => exact Decode.stmt_consumes context
  | expr => exact Decode.expr_consumes context
  | element => exact Decode.element_consumes context
  | elements => exact Decode.elements_consumes context

end Call

namespace Decoder

variable {origin : Origin} {decoder : Decoder}

/-- The session after a call, with or without an answer. -/
def afterCall (context : Context) (decoder : Decoder) (call : Call) : Decoder :=
  (call.run context decoder).2

def afterCalls (context : Context) (decoder : Decoder) (calls : List Call) : Decoder :=
  calls.foldl (afterCall context) decoder

/-- What a call does to a sound session. -/
theorem Sound.outcome (sound : decoder.Sound origin) (context : Context) (call : Call) :
    Decode.Outcome origin .node decoder
      (fun answer after => call.Right context origin answer after ∧
        decoder.reader.offset < after.reader.offset) (call.run context decoder) := by
  have ready : decoder.Ready origin (decoder.reader.remaining + 1) :=
    ⟨sound, Nat.lt_succ_self _⟩
  exact call.run_consumes context decoder.reader.offset decoder ready rfl

theorem Sound.history (sound : decoder.Sound origin) (context : Context) (call : Call) :
    ∃ events, History origin .node decoder events (decoder.afterCall context call) :=
  (sound.outcome context call).history

/-- A session goes on by histories. -/
theorem Sound.histories (sound : decoder.Sound origin) (context : Context) (calls : List Call) :
    ∃ events, History origin .node decoder events (decoder.afterCalls context calls) := by
  induction calls generalizing decoder with
  | nil => exact ⟨[], .nothing _ decoder⟩
  | cons call rest inductionHypothesis =>
    obtain ⟨events, history⟩ := sound.history context call
    have laws := history.sound_extended sound
    obtain ⟨moreEvents, moreHistory⟩ := inductionHypothesis laws.1
    exact ⟨_, history.andThen moreHistory⟩

theorem Sound.afterCalls (sound : decoder.Sound origin) (context : Context) (calls : List Call) :
    (decoder.afterCalls context calls).Sound origin := by
  obtain ⟨events, history⟩ := sound.histories context calls
  exact (history.sound_extended sound).1

theorem Sound.advances_afterCalls (sound : decoder.Sound origin) (context : Context)
    (calls : List Call) :
    decoder.reader.Advances (decoder.afterCalls context calls).reader := by
  obtain ⟨events, history⟩ := sound.histories context calls
  exact (history.sound_extended sound).2.advances

/-! ## Starting -/

theorem start_cases {store : Store} {active : TableId} {bytes : Array UInt8}
    (started : start store active bytes = .ok (.ok decoder)) :
    store.isBuiltin active = true ∧
      ∃ reader, Reader.start bytes = .ok reader ∧ decoder = { reader, store, active } := by
  rw [start, ensure] at started
  cases builtin : store.isBuiltin active with
  | false =>
    rw [builtin] at started
    cases started
  | true =>
    rw [builtin] at started
    cases read : Reader.start bytes with
    | error fault =>
      rw [read] at started
      cases started
    | ok reader =>
      rw [read] at started
      cases started
      exact ⟨rfl, reader, rfl, rfl⟩

end Decoder

/-- A blob that holds a program: the session starts, and the program is decoded. -/
theorem Program.ofBlob_cases {context : Context} {store : Store} {builtin : TableId}
    {bytes : Array UInt8} {program : Program} {after : Decoder}
    (decoded : ofBlob context store builtin bytes = .ok (.ok (program, after))) :
    ∃ decoder, Decoder.start store builtin bytes = .ok (.ok decoder) ∧
      Decode.program context decoder = (.ok program, after) := by
  cases started : Decoder.start store builtin bytes with
  | error fault =>
    rw [ofBlob, started] at decoded
    cases decoded
  | ok session =>
    rw [ofBlob, started] at decoded
    cases session with
    | error header => cases decoded
    | ok decoder =>
      dsimp only at decoded
      cases ran : Decode.program context decoder with
      | mk result reached =>
        rw [ran] at decoded
        cases result with
        | error fault => cases decoded
        | ok value =>
          cases decoded
          exact ⟨decoder, rfl, ran⟩

/-- A blob of which a test of its program and of the session after it holds. -/
theorem Program.exists_of_any {outcome : Except Fault (Except HeaderFault (Program × Decoder))}
    {test : Program × Decoder → Bool}
    (holds : (outcome.toOption.bind Except.toOption).any test = true) :
    ∃ program after, outcome = .ok (.ok (program, after)) ∧ test (program, after) = true := by
  cases outcome with
  | error fault => cases holds
  | ok result =>
    cases result with
    | error header => cases holds
    | ok decoded => exact ⟨decoded.1, decoded.2, rfl, holds⟩

theorem Reader.inside_of_start {bytes : Array UInt8} {reader : Reader}
    (started : Reader.start bytes = .ok reader) :
    reader.bytes = bytes ∧ reader.offset ≤ reader.bytes.size := by
  rw [Reader.start] at started
  split at started
  · dsimp only at started
    split at started
    · cases started
    · split at started
      · cases started
      · rename_i fits
        cases started
        have below : ¬bytes.size < ofLittleEndian _ := fun past => fits (Or.inr past)
        exact ⟨rfl, Nat.le_of_not_lt below⟩
  · cases started

/-- The origin of a session that starts from a store. -/
structure Origin.Starts (origin : Origin) (store : Store) : Prop where
  ids_eq : origin.ids = store.nextId
  tables_eq : origin.tables = store.tables.size
  visible_iff : ∀ type, origin.visible type ↔
    ∃ table name, store.findLocal? table name = some (.type type)

theorem Origin.Starts.sound {origin : Origin} {store : Store} {active : TableId}
    {bytes : Array UInt8} {decoder : Decoder} (starts : origin.Starts store)
    (started : Decoder.start store active bytes = .ok (.ok decoder)) : decoder.Sound origin := by
  obtain ⟨builtin, reader, read, same⟩ := Decoder.start_cases started
  subst same
  have inside := Reader.inside_of_start read
  have active_lt : active < store.tables.size := by
    apply Nat.lt_of_not_le
    intro outside
    rw [Store.isBuiltin, Array.getElem?_eq_none outside] at builtin
    cases builtin
  have ids_le := Nat.le_of_eq starts.ids_eq
  have tables_le := Nat.le_of_eq starts.tables_eq
  refine ⟨inside.2, active_lt, ids_le, tables_le, ?_, ?_, ?_⟩
  · intro id symbol found
    simp at found
  · intro table name type found
    have visible := (starts.visible_iff type).mpr ⟨table, name, found⟩
    refine ⟨Or.inr ⟨type, rfl, visible⟩, ?_⟩
    intro other same
    cases same
    exact origin.visible_mem type visible
  · intro table young symbol member
    have none : store.owned table = [] := by
      apply Store.owned_of_size_le
      rw [← starts.tables_eq]
      exact young
    dsimp only at member
    rw [none] at member
    cases member

/-- The origin of a session over a store, for calls that find so many tables. -/
def Origin.ofStore (store : Store) (tables : Nat) : Origin where
  ids := store.nextId
  tables := tables
  visible type := ∃ table name, store.findLocal? table name = some (.type type)
  types _ := True
  visible_mem _ _ := trivial
  array_mem _ _ _ _ := trivial
  struct_mem _ _ _ _ := trivial
  enum_mem _ _ := trivial

theorem Origin.ofStore_starts (store : Store) :
    (Origin.ofStore store store.tables.size).Starts store where
  ids_eq := rfl
  tables_eq := rfl
  visible_iff _ := Iff.rfl

/-! ## Small sessions -/

namespace Decoder

/-- A store of one builtin table without symbols. -/
def emptyStore : Store := { tables := #[{ builtin := true }] }

/-- A blob that holds one record, an enum. -/
def enumBlob : Array UInt8 := #[6, 0, 1, 0, 1, 69, 7, 0, 0, 4, 0]

/-- The session over that blob. -/
def enumSession : Decoder := { reader := ⟨enumBlob, 6⟩, store := emptyStore, active := 0 }

/-- A blob that holds a record within another one, an array of an enum, and then two blocks. The
table of the outer block has an array of that enum by reference, which it binds once more; the table
of the inner block has another enum, and takes the variable that the statement of the block defines
on the spot. -/
def nestedBlob : Array UInt8 :=
  #[6, 0, 1, 0, 1, 69, 6, 0, 0, 7, 1, 0, 4, 0, 2,
    24, 16, 1, 0, 6, 2, 0, 11, 1, 0, 3, 1, 0, 0, 0, 1,
    24, 16, 1, 0, 7, 3, 0, 4, 0, 0, 0, 1, 29, 56, 15, 4, 0, 3, 4, 0, 11, 3, 0, 0, 0, 1, 1]

/-- The session over that blob. -/
def nestedSession : Decoder := { reader := ⟨nestedBlob, 6⟩, store := emptyStore, active := 0 }

end Decoder

end Shading
