import Shading.Blob.Command
import Shading.Expr.Flavour
import Shading.Operator
import Shading.Text.Utf8
import Shading.Type.Class

/-!
Broken invariants. A mistake of the user is a diagnostic; a `Fault` is a state that no valid
program or blob leads to, and it ends the operation that met it. Each constructor is one cause,
and `Fault.message?` is the only place that words it.
-/

namespace Shading

/-- Why an operation could not go on. -/
inductive Fault where
  /-- A difference of unsigned numbers below zero. -/
  | subtractOverflow
  /-- A sum past the machine word. -/
  | addOverflow
  /-- A product past the machine word. -/
  | multiplyOverflow
  -- Types
  | notScalar (name : String)
  | noCompound (columns rows : Nat) (name : String)
  | boundToNonType (name : String)
  | boundToOtherClass (name : String) (bound wanted : TypeClass)
  | uncopiable (name : String)
  -- Symbols
  | initialValueTwice (name : String)
  | definedTwice (name : String)
  | emptyOverloadSet
  | memberOutOfRange (index : Nat) (name : String) (count : Nat)
  -- Expressions
  | intLiteralType (name : String)
  | floatLiteralType (name : String)
  | noMember (name : String) (index : Nat)
  | argumentCount (given expected : Nat) (name : String)
  | indexType (name : String)
  | notIndexable (name : String)
  | notPostfix (op : Operator)
  | postfixOperand (op : Operator) (name : String)
  | prefixOperand (op : Operator) (name : String)
  | notSwizzlable (name : String)
  | swizzleLength (length : Nat)
  | ternaryTest (name : String)
  | ternaryArms (whenTrue whenFalse : String)
  | operandTypes (left : String) (op : Operator) (right : String)
  -- Constructors
  | arrayTarget (name : String)
  | elementCount (given expected : Nat) (name : String)
  | elementType
  | compoundTarget (name : String)
  | slotCount (given expected : Nat) (name : String)
  | structTarget (name : String)
  | memberCount (given expected : Nat) (name : String)
  | cast (source target : String)
  | diagonal (target source : String)
  | resize (source target : String)
  | splatSource (name : String)
  | splatTarget (name : String)
  | singleArgument (flavour : Flavour) (count : Nat)
  -- Statements
  | testType (context name : String)
  | switchType (name : String)
  -- Constants
  /-- The value of a constant depends on itself, so that no query of it ever ends. -/
  | circularConstant
  -- Blobs
  | truncated (wanted offset length : Nat)
  | unknownCommand (byte : UInt8) (offset : Nat)
  | stringOutside (offset length : Nat)
  | stringOverrun (offset : Nat)
  | stringEncoding (offset : Nat) (invalid : Utf8.Invalid)
  | stringTooLong (text : String)
  | stringTableFull
  -- Records
  | startTable
  | registeredTwice (id : Nat)
  | notRegistered (id : Nat)
  | unknownOperator (byte : UInt8)
  | unknownPrimitive (raw : Int8)
  | unknownHostType (raw : Int8)
  | unknownStorage (raw : UInt8)
  | unknownMemberOwner (raw : UInt8)
  | unknownLane (raw : UInt8)
  | unknownReference (raw : UInt8)
  | unexpected (wanted : String) (found : Command)
  | wrongSymbol (wanted kind name : String)
  | systemTypeBound (name kind : String)
  | systemTypeMissing (name : String)
  | referencePastOwned (index count : Nat)
  | missing (what : String)
  | enumWithoutTable (name : String)
  | enumOwns (name kind symbol : String)
  | globalHolds (text : String)
  | globalEmpty
  /-- The bound on nested records was used up before the records ended. -/
  | nestingBound
  deriving DecidableEq, Repr

namespace Fault

/-- The wording of two unequal values that had to be equal. -/
def unequal (what left right : String) : String :=
  s!"assertion `left == right` failed: {what}\n  left: {left}\n right: {right}"

/-- The text a fault is reported with. Only a wrong element type has none. -/
def message? : Fault → Option String
  | subtractOverflow => "attempt to subtract with overflow"
  | addOverflow => "attempt to add with overflow"
  | multiplyOverflow => "attempt to multiply with overflow"
  | notScalar name => s!"'{name}' is not a scalar type"
  | noCompound columns rows name => s!"unsupported compound shape {columns}x{rows} for '{name}'"
  | boundToNonType name => s!"'{name}' is bound to a non-type symbol"
  | boundToOtherClass name bound wanted =>
    unequal s!"'{name}' is already bound to a different kind of type" bound.name wanted.name
  | uncopiable name => s!"don't know how to clone type '{name}'"
  | initialValueTwice name => s!"variable '{name}' already has an initial value"
  | definedTwice name => s!"function '{name}' is already defined"
  | emptyOverloadSet => "an overload set needs at least one function"
  | memberOutOfRange index name count =>
    s!"field index {index} out of range for '{name}' ({count} members)"
  | intLiteralType name => s!"integer literal of non-integer type '{name}'"
  | floatLiteralType name => s!"float literal of non-float type '{name}'"
  | noMember name index => s!"'{name}' has no field {index}"
  | argumentCount given expected name =>
    unequal s!"wrong argument count for '{name}'" (toString given) (toString expected)
  | indexType name => s!"index of type '{name}'"
  | notIndexable name => s!"'{name}' cannot be indexed"
  | notPostfix op => s!"'{op}' is not a postfix operator"
  | postfixOperand op name => s!"'{op}' on '{name}'"
  | prefixOperand op name => s!"'{op}' cannot be applied to '{name}'"
  | notSwizzlable name => s!"cannot swizzle '{name}'"
  | swizzleLength length => s!"bad swizzle length {length}"
  | ternaryTest name => s!"ternary test of type '{name}'"
  | ternaryArms whenTrue whenFalse => s!"ternary arms '{whenTrue}' and '{whenFalse}' differ"
  | operandTypes left op right => s!"type mismatch: '{left}' {op} '{right}'"
  | arrayTarget name => s!"array constructor for '{name}'"
  | elementCount given expected name =>
    unequal s!"wrong element count for '{name}'" (toString given) (toString expected)
  | elementType => none
  | compoundTarget name => s!"compound constructor for '{name}'"
  | slotCount given expected name =>
    unequal s!"wrong slot count for '{name}'" (toString given) (toString expected)
  | structTarget name => s!"struct constructor for '{name}'"
  | memberCount given expected name =>
    unequal s!"wrong field count for '{name}'" (toString given) (toString expected)
  | cast source target => s!"cannot cast '{source}' to '{target}'"
  | diagonal target source => s!"cannot build '{target}' from '{source}'"
  | resize source target => s!"cannot resize '{source}' to '{target}'"
  | splatSource name => s!"cannot splat '{name}'"
  | splatTarget name => s!"cannot splat into '{name}'"
  | singleArgument flavour count =>
    s!"{flavour.name} constructor takes one argument, got {count}"
  | testType context name => s!"{context} test of type '{name}'"
  | switchType name => s!"switch on '{name}'"
  | circularConstant => "constant depends on itself"
  | truncated wanted offset length =>
    s!"blob truncated: {wanted} bytes wanted at offset {offset} of {length}"
  | unknownCommand byte offset => s!"unknown command byte {byte} at offset {offset}"
  | stringOutside offset length => s!"string offset {offset} outside the {length}-byte blob"
  | stringOverrun offset => s!"string at offset {offset} runs past the end of the blob"
  | stringEncoding offset invalid =>
    s!"string at offset {offset} is not UTF-8: {invalid.message}"
  | stringTooLong text => s!"string '{text}' is too long for the string table"
  | stringTableFull => "string table is full"
  | startTable => "rehydration must start from a builtin symbol table"
  | registeredTwice id => s!"symbol id {id} registered twice"
  | notRegistered id => s!"symbol id {id} referenced before it was decoded"
  | unknownOperator byte => s!"unknown operator byte {byte}"
  | unknownPrimitive raw => s!"unknown layout primitive {raw}"
  | unknownHostType raw => s!"unknown layout ctype {raw}"
  | unknownStorage raw => s!"unknown variable storage {raw}"
  | unknownMemberOwner raw => s!"unknown field owner kind {raw}"
  | unknownLane raw => s!"unknown swizzle component {raw}"
  | unknownReference raw => s!"unknown reference kind {raw}"
  | unexpected wanted found => s!"expected {wanted}, found {found.text}"
  | wrongSymbol wanted kind name => s!"expected {wanted}, found {kind} '{name}'"
  | systemTypeBound name kind => s!"system type '{name}' is bound to a {kind}"
  | systemTypeMissing name => s!"system type '{name}' is not visible"
  | referencePastOwned index count =>
    s!"symbol table reference {index} is past its {count} owned symbols"
  | missing what => s!"{what} is missing"
  | enumWithoutTable name => s!"enum '{name}' has no enumerators table"
  | enumOwns name kind symbol => s!"enum '{name}' owns {kind} '{symbol}'"
  | globalHolds text => s!"global declaration holds '{text}'"
  | globalEmpty => "global declaration is empty"
  | nestingBound => "records are nested too deeply"

end Fault

/-- Faults unless the condition holds. -/
def ensure (condition : Bool) (fault : Fault) : Except Fault Unit :=
  if condition then .ok () else .error fault

end Shading
