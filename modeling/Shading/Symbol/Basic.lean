import Shading.Type.Basic
import Shading.Fault

/-!
Symbols: the named entities that symbol tables hold. A symbol never changes; what is attached to it
later, the initial value of a variable or the definition of a function, is kept in the store. Its
`id` tells it from every other symbol, and two symbols with one id are the same symbol.
-/

namespace Shading

/-- Where the storage of a variable lives. -/
inductive Storage where
  | global | interfaceBlock | localScope | parameter
  deriving DecidableEq, Repr

/-- The storage a wire byte stands for. -/
def Storage.ofRaw? (raw : UInt8) : Option Storage :=
  [global, interfaceBlock, localScope, parameter][raw.toNat]?

def Storage.name : Storage → String
  | global => "Global"
  | interfaceBlock => "InterfaceBlock"
  | localScope => "Local"
  | parameter => "Parameter"

/-- A named place for a value. -/
structure Variable where
  id : Nat
  span : Span := .nowhere
  modifiers : Modifiers
  name : String
  type : Ty
  builtin : Bool
  storage : Storage
  deriving Repr

/-- The signature of a function. -/
structure Function where
  id : Nat
  span : Span := .nowhere
  modifiers : Modifiers
  name : String
  parameters : List Variable
  returnType : Ty
  builtin : Bool
  deriving Repr

def Function.text (function : Function) : String :=
  let parameters := function.parameters.map fun parameter =>
    s!"{parameter.type.displayName} {parameter.name}"
  function.modifiers.lead ++ s!"{function.returnType.displayName} {function.name}("
    ++ ", ".intercalate parameters ++ ")"

/-- Functions that one name stands for. There is at least one. -/
structure OverloadSet where
  id : Nat
  first : Function
  others : List Function
  deriving Repr

namespace OverloadSet

/-- The functions of the set, the earliest first. -/
def functions (set : OverloadSet) : List Function := set.first :: set.others

/-- The name of the set, which is that of its first function. -/
def name (set : OverloadSet) : String := set.first.name

def ofFunctions (id : Nat) : List Function → Except Fault OverloadSet
  | [] => .error .emptyOverloadSet
  | first :: others => .ok { id, first, others }

end OverloadSet

/-- A member of an interface block without a name, visible by its own name. -/
structure BlockMember where
  id : Nat
  span : Span := .nowhere
  owner : Variable
  index : Fin owner.type.members.length
  deriving Repr

namespace BlockMember

def member (field : BlockMember) : Member := field.owner.type.members[field.index]

def name (field : BlockMember) : String := field.member.name

def ofIndex (id : Nat) (span : Span) (owner : Variable) (index : Nat) :
    Except Fault BlockMember :=
  if h : index < owner.type.members.length then .ok { id, span, owner, index := ⟨index, h⟩ }
  else .error (.memberOutOfRange index owner.type.name owner.type.members.length)

end BlockMember

/-- Any named entity. -/
inductive Symbol where
  | type (type : Ty)
  | var (value : Variable)
  | function (function : Function)
  | overloads (set : OverloadSet)
  | member (field : BlockMember)
  /-- A second name for another symbol. -/
  | synonym (id : Nat) (span : Span) (name : String) (target : Symbol)
  deriving Repr

namespace Symbol

def id : Symbol → Nat
  | type t => t.id
  | var v => v.id
  | function f => f.id
  | overloads set => set.id
  | member field => field.id
  | synonym id _ _ _ => id

def name : Symbol → String
  | type t => t.name
  | var v => v.name
  | function f => f.name
  | overloads set => set.name
  | member field => field.name
  | synonym _ _ name _ => name

/-- The word for the kind of a symbol in messages. -/
def kind : Symbol → String
  | type _ => "type"
  | var _ => "variable"
  | function _ => "function"
  | overloads _ => "overload set"
  | member _ => "field"
  | synonym .. => "alias"

def text : Symbol → String
  | function f => f.text
  | var v => s!"{v.type.name} {v.name}"
  | symbol => symbol.name

/-- Whether both are the same symbol, and not only alike. -/
def same (left right : Symbol) : Bool := left.id == right.id

end Symbol

end Shading
