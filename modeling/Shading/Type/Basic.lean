import Shading.Modifiers
import Shading.Span
import Shading.Type.Class

/-!
The types of the language. A type is a tree that never changes; its `Head` holds what all types
have. The `id` in a head tells one type from another of the same name and shape, as a type differs
from its copy in another symbol table. `==` on types does not look at the id: two types are equal
if they have the same name and the same shape.
-/

namespace Shading

/-- What every type has. -/
structure Ty.Head where
  id : Nat
  name : String
  /-- Whether the type is one of the language itself. -/
  builtin : Bool := false
  span : Span := .nowhere
  deriving DecidableEq, Repr

/-- A member of a struct, over the types its type is taken from. -/
structure MemberOf (τ : Type) where
  modifiers : Modifiers
  name : String
  type : τ
  deriving Repr

/-- A type. -/
inductive Ty where
  | void (head : Ty.Head)
  /-- The type of what has no type. -/
  | invalid (head : Ty.Head)
  /-- A handle that the program can only pass on, such as a sampler. -/
  | handle (head : Ty.Head)
  | scalar (head : Ty.Head) (kind : NumberKind) (priority bits : Nat)
  /-- The type of a numeric literal that has not been given a type. -/
  | literal (head : Ty.Head) (concrete : Ty) (priority : Nat)
  | vector (head : Ty.Head) (component : Ty) (columns : Nat)
  | matrix (head : Ty.Head) (component : Ty) (columns rows : Nat)
  | array (head : Ty.Head) (component : Ty) (size : ArraySize)
  | struct (head : Ty.Head) (members : List (MemberOf Ty))
  | enum (head : Ty.Head)
  /-- A placeholder in the signature of a builtin function, for any of the types in its list. -/
  | generic (head : Ty.Head) (choices : List Ty)
  deriving Repr

abbrev Member := MemberOf Ty

namespace Ty

def head : Ty → Head
  | void h | invalid h | handle h | scalar h _ _ _ | literal h _ _ | vector h _ _ | matrix h _ _ _
  | array h _ _ | struct h _ | enum h | generic h _ => h

def id (type : Ty) : Nat := type.head.id

def name (type : Ty) : String := type.head.name

def isBuiltin (type : Ty) : Bool := type.head.builtin

def span (type : Ty) : Span := type.head.span

def typeClass : Ty → TypeClass
  | void _ => .void
  | invalid _ => .invalid
  | handle _ => .other
  | scalar .. => .scalar
  | literal .. => .literal
  | vector .. => .vector
  | matrix .. => .matrix
  | array .. => .array
  | struct .. => .struct
  | enum _ => .enum
  | generic .. => .generic

def isVoid (type : Ty) : Bool := type matches void _

def isInvalid (type : Ty) : Bool := type matches invalid _

/-- Scalars and the types of literals. -/
def isScalar (type : Ty) : Bool := type matches scalar .. | literal ..

def isLiteral (type : Ty) : Bool := type matches literal ..

def isVector (type : Ty) : Bool := type matches vector ..

def isMatrix (type : Ty) : Bool := type matches matrix ..

def isArray (type : Ty) : Bool := type matches array ..

def isStruct (type : Ty) : Bool := type matches struct ..

def isEnum (type : Ty) : Bool := type matches enum _

def isGeneric (type : Ty) : Bool := type matches generic ..

/-- The scalar a literal's type stands for; every other type stands for itself. -/
def concrete : Ty → Ty
  | literal _ concrete _ => concrete
  | type => type

/-- The name shown to the user. -/
def displayName (type : Ty) : String := type.concrete.name

def numberKind : Ty → NumberKind
  | scalar _ kind _ _ => kind
  | literal _ concrete _ => concrete.numberKind
  | _ => .nonNumeric

def isNumber (type : Ty) : Bool := type.numberKind matches .float | .signed | .unsigned

def isInteger (type : Ty) : Bool := type.numberKind matches .signed | .unsigned

def isFloat (type : Ty) : Bool := type.numberKind == .float

def isSigned (type : Ty) : Bool := type.numberKind == .signed

def isUnsigned (type : Ty) : Bool := type.numberKind == .unsigned

def isBoolean (type : Ty) : Bool := type.numberKind == .boolean

def priority : Ty → Nat
  | scalar _ _ priority _ => priority
  | literal _ _ priority => priority
  | _ => 0

def bits : Ty → Nat
  | scalar _ _ _ bits => bits
  | literal _ concrete _ => concrete.bits
  | _ => 0

/-- The element type of a vector, matrix or array; every other type is its own element. -/
def component : Ty → Ty
  | vector _ component _ => component
  | matrix _ component _ _ => component
  | array _ component _ => component
  | type => type

/-- The columns of a scalar, vector or matrix. -/
def columns : Ty → Nat
  | scalar .. | literal .. => 1
  | vector _ _ columns => columns
  | matrix _ _ columns _ => columns
  | _ => 0

/-- The rows of a scalar, vector or matrix. -/
def rows : Ty → Nat
  | scalar .. | literal .. | vector .. => 1
  | matrix _ _ _ rows => rows
  | _ => 0

def arraySize? : Ty → Option ArraySize
  | array _ _ size => some size
  | _ => none

def members : Ty → List Member
  | struct _ members => members
  | _ => []

/-- The types a generic type stands for. -/
def choices : Ty → List Ty
  | generic _ choices => choices
  | _ => []

def minimum? (type : Ty) : Option Int :=
  match type.numberKind with
  | .signed => some (-(Nat.pow 2 (type.bits - 1) : Nat))
  | .unsigned => some 0
  | _ => none

def maximum? (type : Ty) : Option Int :=
  match type.numberKind with
  | .signed => some ((Nat.pow 2 (type.bits - 1) : Nat) - 1)
  | .unsigned => some ((Nat.pow 2 type.bits : Nat) - 1)
  | _ => none

/-- The same name and the same shape, whatever the ids. -/
def equal (left right : Ty) : Bool :=
  left.name == right.name && left.typeClass == right.typeClass
    && left.columns == right.columns && left.rows == right.rows
    && left.arraySize? == right.arraySize?

instance : BEq Ty := ⟨equal⟩

def arrayName (component : Ty) (size : ArraySize) : String :=
  s!"{component.name}[{size.text}]"

mutual

/-- Whether a type is an array, or a struct with an array somewhere in it. -/
def containsArray : Ty → Bool
  | array .. => true
  | struct _ members => anyContainsArray members
  | _ => false

/-- Whether some member of a struct is or contains an array. -/
def anyContainsArray : List (MemberOf Ty) → Bool
  | [] => false
  | ⟨_, _, type⟩ :: rest => type.containsArray || anyContainsArray rest

end

def properties (type : Ty) : List String :=
  ([("void", type.isVoid), ("invalid", type.isInvalid), ("scalar", type.isScalar),
    ("literal", type.isLiteral), ("vector", type.isVector), ("matrix", type.isMatrix),
    ("array", type.isArray), ("struct", type.isStruct), ("enum", type.isEnum),
    ("generic", type.isGeneric), ("number", type.isNumber), ("integer", type.isInteger),
    ("float", type.isFloat), ("signed", type.isSigned), ("unsigned", type.isUnsigned),
    ("boolean", type.isBoolean), ("builtin", type.isBuiltin),
    ("contains_array", type.containsArray)].filter Prod.snd).map Prod.fst

end Ty

end Shading
