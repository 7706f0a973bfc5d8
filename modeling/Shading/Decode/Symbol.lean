import Shading.Decode.Basic

/-!
Decoding symbols and symbol tables. A record with an id is registered under it as soon as it is
decoded, and a new symbol is owned by the table that is active then. `symbolRecord` decodes what
follows a tag, given how to decode the symbols within; `symbol` ties the knot.
-/

namespace Shading

namespace Symbol

def asType : Symbol → Except Fault Ty
  | type t => .ok t
  | other => .error (.wrongSymbol "a type" other.kind other.name)

def asVariable : Symbol → Except Fault Variable
  | var v => .ok v
  | other => .error (.wrongSymbol "a variable" other.kind other.name)

def asFunction : Symbol → Except Fault Function
  | function f => .ok f
  | other => .error (.wrongSymbol "a function" other.kind other.name)

end Symbol

namespace Decode

def enter (id : UInt16) (symbol : Symbol) : Decode Symbol := do
  adopt symbol
  register id symbol

def structMember (nested : Decode Symbol) : Decode Member := do
  let modifiers ← next .modifiers
  let name ← next .string
  let type ← (← nested).asType
  return { modifiers, name, type }

/-- The builtin type that a name stands for in the active table or above it. -/
def systemType (name : String) : Decode Ty := do
  let decoder ← get
  match decoder.store.find? decoder.active name with
  | some (.type type) => return type
  | some other => throw (.systemTypeBound name other.kind)
  | none => throw (.systemTypeMissing name)

def storage : Read Storage := do
  let raw ← Read.u8
  match Storage.ofRaw? raw with
  | some storage => return storage
  | none => throw (.unknownStorage raw)

/-- A symbol after its tag, where `nested` decodes the symbols within. -/
def symbolRecord (nested : Decode Symbol) : Command → Decode Symbol
  | .arrayType => do
    let id ← next .u16
    let component ← (← nested).asType
    let size := ArraySize.ofRaw (← next .s8).toInt32
    let head : Ty.Head := { id := ← freshId, name := component.arrayName size }
    enter id (.type (.array head component size))
  | .enumType => do
    let id ← next .u16
    let name ← next .string
    enter id (.type (.enum { id := ← freshId, name }))
  | .functionSymbol => do
    let id ← next .u16
    let modifiers ← next .modifiers
    let name ← next .string
    let count ← next .u8
    let parameters ← times count.toNat do (← nested).asVariable
    let returnType ← (← nested).asType
    enter id (.function
      { id := ← freshId, modifiers, name, parameters, returnType, builtin := true })
  | .field => do
    let owner ← (← nested).asVariable
    let index ← next .u8
    let field ← BlockMember.ofIndex (← freshId) .nowhere owner index.toNat
    adopt (.member field)
    return .member field
  | .structType => do
    let id ← next .u16
    let name ← next .string
    let count ← next .u8
    let members ← times count.toNat (structMember nested)
    enter id (.type (.struct { id := ← freshId, name } members))
  | .symbolRef => do registered (← next .u16)
  | .synonym => do
    let id ← next .u16
    let name ← next .string
    let target ← nested
    enter id (.synonym (← freshId) .nowhere name target)
  | .systemType => do
    let id ← next .u16
    let name ← next .string
    register id (.type (← systemType name))
  | .overloadSet => do
    let id ← next .u16
    let count ← next .u8
    let functions ← times count.toNat do (← nested).asFunction
    enter id (.overloads (← OverloadSet.ofFunctions (← freshId) functions))
  | .varSymbol => do
    let id ← next .u16
    let modifiers ← next .modifiers
    let name ← next .string
    let type ← (← nested).asType
    let storage ← next storage
    enter id (.var { id := ← freshId, modifiers, name, type, builtin := true, storage })
  | other => throw (.unexpected "a symbol" other)

/-- A symbol with fewer than `bound` symbols nested in each other. -/
def symbolWithin : Nat → Decode Symbol
  | 0 => throw .nestingBound
  | bound + 1 => do symbolRecord (symbolWithin bound) (← next .command)

def symbol : Decode Symbol := do symbolWithin (← nesting)

/-- The next symbol, which is a type. -/
def type : Decode Ty := do (← symbol).asType

/-- The next symbol, which is a variable. -/
def targetVariable : Decode Variable := do (← symbol).asVariable

/-- The next symbol, which is a function. -/
def function : Decode Function := do (← symbol).asFunction

/-- A new table, below the active one if it inherits. -/
def openTable (inherit : Bool) : Decode TableId := do
  let decoder ← get
  let (id, store) := decoder.store.newTable (if inherit then some decoder.active else none) true
  changeStore fun _ => store
  return id

/-- Binds the name of one of the decoded symbols in a table. -/
def bindReference (table : TableId) (decoded : List Symbol) : Decode Unit := do
  let index ← next .u16
  match decoded[index.toNat]? with
  | some symbol => changeStore (·.bind table symbol)
  | none => throw (.referencePastOwned index.toNat decoded.length)

/-- The next symbol table, which is active while its symbols are decoded. After its symbols come
references to those that it binds anew. -/
def table (inherit : Bool) : Decode (Option TableId) := do
  match ← next .command with
  | .absent => return none
  | .symbolTable =>
    let count ← next .u16
    let id ← openTable inherit
    withActive id do
      let decoded ← times count.toNat symbol
      let references ← next .u16
      discard <| times references.toNat (bindReference id decoded)
    return some id
  | other => throw (.unexpected "a symbol table" other)

/-- Runs a step with a table active, or with the active table if there is no other. -/
def within {α : Type} (table? : Option TableId) (step : Decode α) : Decode α :=
  match table? with
  | some id => withActive id step
  | none => step

end Decode

end Shading
