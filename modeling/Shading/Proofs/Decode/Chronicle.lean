import Shading.Proofs.Decode.Extends

/-!
Chronicles of decoding. A chronicle lists the records of symbols that were decoded to their end
between two states of a session, in the order in which they ended, so that a record comes after
those it holds. Unlike a history it ties each record to the run that decoded it, and it asks nothing
of the session before. Main statement: `Chronicle.follows`, which says where a record stands in a
chronicle.
-/

namespace Shading

/-- A record of a symbol that was decoded to its end. -/
structure Record where
  /-- The session at the tag of the record. -/
  start : Decoder
  tag : Command
  /-- The id that the record carries. A member of an interface block has none. -/
  id? : Option UInt16
  symbol : Symbol
  /-- The session when all that the record holds is decoded. -/
  ready : Decoder
  /-- The session after the record. -/
  stop : Decoder

/-- Whether a record creates its symbol. One that does not refers to a registered symbol or looks up
a type by its name. -/
def Record.creates (record : Record) : Bool :=
  record.tag != .symbolRef && record.tag != .systemType

namespace Decode

/-- A registry after a symbol was registered. -/
def entered (registry : Array (Option Symbol)) (id : UInt16) (symbol : Symbol) :
    Array (Option Symbol) :=
  (grown registry id.toNat).setIfInBounds id.toNat (some symbol)

end Decode

/-- What a record does when all that it holds is decoded. -/
inductive Closing : Command → Option UInt16 → Symbol → Decoder → Decoder → Prop where
  | create {tag : Command} {id : UInt16} {symbol : Symbol} {ready : Decoder}
      (kind : tag ≠ .field ∧ tag ≠ .symbolRef ∧ tag ≠ .systemType)
      (new : symbol.id = ready.store.nextId) (vacant : ready.registry[id.toNat]?.join = none) :
      Closing tag (some id) symbol ready
        { ready with
          store := ready.store.fresh.2.adopt ready.active symbol
          registry := Decode.entered ready.registry id symbol }
  | createMember {symbol : Symbol} {ready : Decoder} (new : symbol.id = ready.store.nextId) :
      Closing .field none symbol ready
        { ready with store := ready.store.fresh.2.adopt ready.active symbol }
  | refer {id : UInt16} {symbol : Symbol} {ready : Decoder}
      (bound : ready.registry[id.toNat]?.join = some symbol) :
      Closing .symbolRef (some id) symbol ready ready
  | find {id : UInt16} {name : String} {type : Ty} {ready : Decoder}
      (found : ready.store.find? ready.active name = some (.type type))
      (vacant : ready.registry[id.toNat]?.join = none) :
      Closing .systemType (some id) (.type type) ready
        { ready with registry := Decode.entered ready.registry id (.type type) }

/-- The records decoded from one state of a session to another. While a record of a symbol is
decoded there are only plain values and further records; the other changes lie between records, or
end a record that faults. -/
inductive Chronicle : Level → Decoder → List Record → Decoder → Prop where
  | nothing (level : Level) (decoder : Decoder) : Chronicle level decoder [] decoder
  | read {level : Level} {decoder : Decoder} {reader : Reader}
      (moved : decoder.reader.Advances reader) : Chronicle level decoder [] { decoder with reader }
  | andThen {level : Level} {before middle after : Decoder} {earlier later : List Record}
      (first : Chronicle level before earlier middle)
      (second : Chronicle level middle later after) :
      Chronicle level before (earlier ++ later) after
  | record {level : Level} {bound : Nat} {before ready after : Decoder} {reader : Reader}
      {tag : Command} {id? : Option UInt16} {symbol : Symbol} {nested : List Record}
      (decoded : Decode.symbolWithin bound before = (.ok symbol, after))
      (tagged : Read.command before.reader = (.ok tag, reader))
      (numbered : ∀ id ∈ id?, (Read.u16 reader).1 = .ok id)
      (within : Chronicle .symbol { before with reader } nested ready)
      (closing : Closing tag id? symbol ready after) :
      Chronicle level before
        (nested ++ [{ start := before, tag, id?, symbol, ready, stop := after }]) after
  /-- An id is drawn, but its symbol cannot be made. -/
  | waste (decoder : Decoder) :
      Chronicle .node decoder [] { decoder with store := decoder.store.fresh.2 }
  /-- A table adopts a symbol that cannot be registered. -/
  | orphan (decoder : Decoder) (symbol : Symbol) (new : symbol.id = decoder.store.nextId) :
      Chronicle .node decoder []
        { decoder with store := decoder.store.fresh.2.adopt decoder.active symbol }
  | openTable (decoder : Decoder) (parent? : Option TableId) :
      Chronicle .node decoder []
        { decoder with store := (decoder.store.newTable parent? true).2 }
  | bind (decoder : Decoder) (table : TableId) (symbol : Symbol) :
      Chronicle .node decoder [] { decoder with store := decoder.store.bind table symbol }
  /-- Initial values and definitions of symbols change, and no table. -/
  | attach (decoder : Decoder) (initials : List (Nat × Expr))
      (definitions : List (Nat × DefinitionLink)) :
      Chronicle .node decoder []
        { decoder with store := { decoder.store with initials, definitions } }
  /-- Another table is active for a while. -/
  | inside {before after : Decoder} {table : TableId} {log : List Record}
      (inner : Chronicle .node { before with active := table } log after) :
      Chronicle .node before log { after with active := before.active }

namespace Chronicle

variable {level : Level} {before after : Decoder} {log : List Record}

/-- What is decoded within a record is also decoded between records. -/
theorem between (chronicle : Chronicle level before log after) : Chronicle .node before log after := by
  induction chronicle with
  | nothing level decoder => exact .nothing .node decoder
  | read moved => exact .read moved
  | andThen first second firstHypothesis secondHypothesis =>
    exact firstHypothesis.andThen secondHypothesis
  | record decoded tagged numbered within closing =>
    exact .record decoded tagged numbered within closing
  | waste decoder => exact .waste decoder
  | orphan decoder symbol new => exact .orphan decoder symbol new
  | openTable decoder parent? => exact .openTable decoder parent?
  | bind decoder table symbol => exact .bind decoder table symbol
  | attach decoder initials definitions => exact .attach decoder initials definitions
  | inside inner => exact .inside inner

theorem anywhere (chronicle : Chronicle .symbol before log after) :
    Chronicle level before log after := by
  cases level with
  | symbol => exact chronicle
  | node => exact chronicle.between

theorem active_eq (chronicle : Chronicle level before log after) :
    after.active = before.active := by
  induction chronicle with
  | andThen first second firstHypothesis secondHypothesis =>
    exact secondHypothesis.trans firstHypothesis
  | record decoded tagged numbered within closing inductionHypothesis =>
    cases closing <;> exact inductionHypothesis
  | _ => rfl

theorem nextId_le (chronicle : Chronicle level before log after) :
    before.store.nextId ≤ after.store.nextId := by
  induction chronicle with
  | andThen first second firstHypothesis secondHypothesis =>
    exact Nat.le_trans firstHypothesis secondHypothesis
  | record decoded tagged numbered within closing inductionHypothesis =>
    cases closing with
    | create kind new vacant => exact Nat.le_succ_of_le inductionHypothesis
    | createMember new => exact Nat.le_succ_of_le inductionHypothesis
    | refer bound => exact inductionHypothesis
    | find found vacant => exact inductionHypothesis
  | waste decoder => exact Nat.le_succ _
  | orphan decoder symbol new => exact Nat.le_succ _
  | inside inner inductionHypothesis => exact inductionHypothesis
  | _ => exact Nat.le_refl _

end Chronicle

/-- Where a record stands in a chronicle: the chronicle up to the tag of the record, and then all
that the record holds, make up what comes before it. -/
structure Record.Follows (record : Record) (level : Level) (before : Decoder)
    (earlier : List Record) : Prop where
  decoded : ∃ bound, Decode.symbolWithin bound record.start = (.ok record.symbol, record.stop)
  holds : ∃ reader outer nested, earlier = outer ++ nested ∧
    Chronicle level before outer { record.start with active := before.active } ∧
    Read.command record.start.reader = (.ok record.tag, reader) ∧
    (∀ id ∈ record.id?, (Read.u16 reader).1 = .ok id) ∧
    Chronicle .symbol { record.start with reader } nested record.ready
  closing : Closing record.tag record.id? record.symbol record.ready record.stop

/-- A member of two lists in a row stands in the first or in the second. -/
theorem append_eq_append_cons {α : Type} {first second earlier later : List α} {member : α}
    (split : first ++ second = earlier ++ member :: later) :
    (∃ rest, first = earlier ++ member :: rest) ∨
      ∃ front, earlier = first ++ front ∧ second = front ++ member :: later := by
  rcases List.append_eq_append_iff.mp split with ⟨front, same, rest⟩ | ⟨rest, same, tail⟩
  · exact Or.inr ⟨front, same, rest⟩
  · cases rest with
    | nil => exact Or.inr ⟨[], by simpa using same.symm, by simpa using tail.symm⟩
    | cons head rest =>
      cases tail
      exact Or.inl ⟨rest, same⟩

/-- Every record of a chronicle stands in it as it should. -/
theorem Chronicle.follows {level : Level} {before after : Decoder} {log earlier later : List Record}
    {record : Record} (chronicle : Chronicle level before log after)
    (split : log = earlier ++ record :: later) : record.Follows level before earlier := by
  -- The chronicle up to the record is put together again on the way out of the induction.
  induction chronicle generalizing earlier later with
  | andThen first second firstHypothesis secondHypothesis =>
    rcases append_eq_append_cons split with ⟨rest, inFirst⟩ | ⟨front, same, inSecond⟩
    · exact firstHypothesis inFirst
    · subst same
      have follows := secondHypothesis inSecond
      obtain ⟨reader, outer, nested, parts, upTo, tagged, numbered, within⟩ := follows.holds
      rw [first.active_eq] at upTo
      refine ⟨follows.decoded, ?_, follows.closing⟩
      refine ⟨reader, _, nested, ?_, first.andThen upTo, tagged, numbered, within⟩
      rw [parts, List.append_assoc]
  | @record level bound before ready after reader tag id? symbol nested decoded tagged numbered
      within closing inductionHypothesis =>
    -- The record lies within this one, or it is this one.
    rcases append_eq_append_cons split with ⟨rest, inNested⟩ | ⟨front, same, last⟩
    · have follows := inductionHypothesis inNested
      obtain ⟨innerReader, outer, inner, parts, upTo, rest⟩ := follows.holds
      have moved := Read.command_forward.moved tagged
      exact ⟨follows.decoded,
        ⟨innerReader, outer, inner, parts, (Chronicle.read moved).andThen upTo.anywhere, rest⟩,
        follows.closing⟩
    · cases front with
      | nil =>
        cases last
        rw [List.append_nil] at same
        subst same
        exact ⟨⟨bound, decoded⟩,
          ⟨reader, [], earlier, rfl, .nothing level before, tagged, numbered, within⟩, closing⟩
      | cons head tail => cases tail <;> cases last
  | @inside before after table log inner inductionHypothesis =>
    have follows := inductionHypothesis split
    obtain ⟨reader, outer, nested, parts, upTo, rest⟩ := follows.holds
    have outside : Chronicle .node before outer { record.start with active := before.active } :=
      @inside before { record.start with active := table } table outer upTo
    exact ⟨follows.decoded, ⟨reader, outer, nested, parts, outside, rest⟩, follows.closing⟩
  | _ => cases earlier <;> cases split

end Shading
