import Shading.Decode.Element
import Shading.Proofs.Blob.Forward
import Shading.Proofs.Store.Origin

/-!
Histories of decoding. A history says of two states of a session how one came from the other. It is
made of changes, one constructor of `Change` for each thing that decoding can do to a session, and
of stretches in which another table is active. A law of whole runs needs a small case for each
change, and none looks into the records again.
-/

namespace Shading

/-- Something that decoding does to a session and that is counted: a tag is read, or a symbol is
created and goes to a table. -/
inductive Event where
  | tag (command : Command)
  | created (symbol : Symbol) (table : TableId)

/-- Where a change lies: in the record of a symbol, or between such records. -/
inductive Level where
  | symbol | node
  deriving DecidableEq, Repr

/-- One change of a session. Symbols are created in their records only. -/
inductive Change (origin : Origin) : Level → Decoder → List Event → Decoder → Prop where
  /-- Something other than a tag is read. -/
  | read {level : Level} {decoder : Decoder} {reader : Reader}
      (moved : decoder.reader.Advances reader) :
      Change origin level decoder [] { decoder with reader }
  | tag {level : Level} {decoder : Decoder} {command : Command} {reader : Reader}
      (read : Read.command decoder.reader = (.ok command, reader)) :
      Change origin level decoder [.tag command] { decoder with reader }
  /-- A new symbol goes to the table that is active while its record is decoded. -/
  | create {decoder : Decoder} {symbol : Symbol} (new : symbol.id = decoder.store.nextId)
      (typed : ∀ type, symbol = .type type → origin.types type) :
      Change origin .symbol decoder [.created symbol decoder.active]
        { decoder with store := decoder.store.fresh.2.adopt decoder.active symbol }
  /-- An id is drawn, but its symbol cannot be made. -/
  | waste {level : Level} {decoder : Decoder} :
      Change origin level decoder [] { decoder with store := decoder.store.fresh.2 }
  /-- The registry makes room for an id. -/
  | grow {level : Level} {decoder : Decoder} (id : Nat) :
      Change origin level decoder [] { decoder with registry := Decode.grown decoder.registry id }
  | register {level : Level} {decoder : Decoder} {id : Nat} {symbol : Symbol}
      (vacant : decoder.registry[id]?.join = none)
      (known : origin.Knows decoder.store symbol) :
      Change origin level decoder []
        { decoder with registry := decoder.registry.setIfInBounds id (some symbol) }
  | openTable {level : Level} {decoder : Decoder} (parent? : Option TableId) :
      Change origin level decoder []
        { decoder with store := (decoder.store.newTable parent? true).2 }
  /-- A name is bound anew, in a table that was opened after the origin. -/
  | bind {level : Level} {decoder : Decoder} {table : TableId} {symbol : Symbol}
      (recent : origin.tables ≤ table) (opened : table < decoder.store.tables.size)
      (known : origin.Knows decoder.store symbol) :
      Change origin level decoder [] { decoder with store := decoder.store.bind table symbol }
  | attach {level : Level} {decoder : Decoder} {target : Variable} {value : Expr} {store : Store}
      (recent : origin.ids ≤ target.id)
      (attached : decoder.store.attachInitial target value = .ok store) :
      Change origin level decoder [] { decoder with store }
  /-- A function is defined under a new number. -/
  | define {level : Level} {decoder : Decoder} {function : Function} {store : Store}
      (recent : origin.ids ≤ function.id)
      (defined : decoder.store.fresh.2.define function decoder.store.nextId = .ok store) :
      Change origin level decoder [] { decoder with store }
  | release {level : Level} {decoder : Decoder} (definition : Nat) :
      Change origin level decoder []
        { decoder with store := decoder.store.release definition }

/-- How a session came from one state to another. Within the record of a symbol the active table
stays the same. -/
inductive History (origin : Origin) : Level → Decoder → List Event → Decoder → Prop where
  | nothing (level : Level) (decoder : Decoder) : History origin level decoder [] decoder
  | change {level : Level} {before after : Decoder} {events : List Event}
      (changed : Change origin level before events after) : History origin level before events after
  | andThen {level : Level} {before middle after : Decoder} {earlier later : List Event}
      (first : History origin level before earlier middle)
      (second : History origin level middle later after) :
      History origin level before (earlier ++ later) after
  /-- A whole record of a symbol. -/
  | record {before after : Decoder} {events : List Event}
      (whole : History origin .symbol before events after) :
      History origin .node before events after
  /-- Another table is active for a while, one that was opened after the origin. -/
  | inside {before after : Decoder} {table : TableId} {events : List Event}
      (recent : origin.tables ≤ table)
      (opened : table < before.store.tables.size)
      (inner : History origin .node { before with active := table } events after) :
      History origin .node before events { after with active := before.active }

namespace Event

/-- The created symbols, each with the table it went to. -/
def createdSymbols (events : List Event) : List (Symbol × TableId) :=
  events.filterMap fun
    | created symbol table => some (symbol, table)
    | tag _ => none

def tagCount (events : List Event) : Nat :=
  events.countP fun
    | tag _ => true
    | created .. => false

@[simp]
theorem createdSymbols_append (earlier later : List Event) :
    createdSymbols (earlier ++ later) = createdSymbols earlier ++ createdSymbols later := by
  exact List.filterMap_append

@[simp]
theorem tagCount_append (earlier later : List Event) :
    tagCount (earlier ++ later) = tagCount earlier + tagCount later := by
  exact List.countP_append

end Event

end Shading
