import Shading.Blob.Layout
import Shading.Store

/-!
The state of decoding a blob. Decoding walks the records once from front to back; it adds symbols to
the active symbol table and keeps a registry of those that later records refer to. A fault ends the
step it arises in, and what was decoded before it stays.
-/

namespace Shading

/-- A decoding session. -/
structure Decoder where
  reader : Reader
  store : Store
  /-- The table that owns the symbols decoded now. -/
  active : TableId
  /-- The symbols by the ids that the records give them. -/
  registry : Array (Option Symbol) := #[]
  deriving Repr

namespace Decoder

/-- Starts a session over a blob with a table active, which has to be builtin. -/
def start (store : Store) (active : TableId) (bytes : Array UInt8) :
    Except Fault (Except HeaderFault Decoder) := do
  ensure (store.isBuiltin active) .startTable
  return (Reader.start bytes).map fun reader => { reader, store, active }

/-- The greatest id registered so far and one; zero before the first. -/
def registeredIds (decoder : Decoder) : Nat := decoder.registry.size

end Decoder

/-- A step of decoding: it gives a value or a fault, and the session goes on in both cases. -/
abbrev Decode := ExceptT Fault (StateM Decoder)

namespace Decode

def next {α : Type} (read : Read α) : Decode α := fun decoder =>
  let (result, reader) := read decoder.reader
  (result, { decoder with reader })

def changeStore (change : Store → Store) : Decode Unit :=
  modify fun decoder => { decoder with store := change decoder.store }

def freshId : Decode Nat := do
  let (id, store) := (← get).store.fresh
  changeStore fun _ => store
  return id

/-- A step that runs a number of times; its values in order. -/
def times {α : Type} : Nat → Decode α → Decode (List α)
  | 0, _ => return []
  | count + 1, step => do
    let value ← step
    return value :: (← times count step)

/-- The value of a step that has to give one. -/
def present {α : Type} (what : String) (step : Decode (Option α)) : Decode α := do
  match ← step with
  | some value => return value
  | none => throw (.missing what)

/-- Runs a step with another table active. Afterwards the table from before is active again, also
if the step faults. -/
def withActive {α : Type} (table : TableId) (step : Decode α) : Decode α := fun decoder =>
  let (result, after) := step { decoder with active := table }
  (result, { after with active := decoder.active })

/-- The active table owns a symbol. -/
def adopt (symbol : Symbol) : Decode Unit :=
  modify fun decoder => { decoder with store := decoder.store.adopt decoder.active symbol }

def grown (registry : Array (Option Symbol)) (id : Nat) : Array (Option Symbol) :=
  registry ++ Array.replicate (id + 1 - registry.size) none

/-- Registers a symbol under an id that has none. -/
def register (id : UInt16) (symbol : Symbol) : Decode Symbol := do
  modify fun decoder => { decoder with registry := grown decoder.registry id.toNat }
  match (← get).registry[id.toNat]?.join with
  | some _ => throw (.registeredTwice id.toNat)
  | none =>
    modify fun decoder =>
      { decoder with registry := decoder.registry.setIfInBounds id.toNat (some symbol) }
    return symbol

def registered (id : UInt16) : Decode Symbol := do
  match (← get).registry[id.toNat]?.join with
  | some symbol => return symbol
  | none => throw (.notRegistered id.toNat)

/-- The bound on nested records that a session cannot use up: every record has a byte. -/
def nesting : Decode Nat :=
  return (← get).reader.remaining + 1

/-- The operator that the next byte stands for. -/
def operator : Read Operator := do
  let byte ← Read.u8
  match Operator.ofByte? byte with
  | some op => return op
  | none => throw (.unknownOperator byte)

end Decode

end Shading
