import Shading.Expr.Build
import Shading.Type.Slots

/-!
Constructor calls. A call that has nothing to do returns its argument, and a cast of a literal is a
literal of the target type, so that later queries for constants see the converted value.
-/

namespace Shading.Expr

/-- The number that a literal stands for. -/
def literalNumber? : Expr → Option Double
  | .boolLiteral _ value => some (.ofBool value)
  | .intLiteral _ value => some (.ofInt64 value)
  | .floatLiteral _ value => some value
  | _ => none

/-- A literal converted to a literal of a scalar type; none if the expression is no literal. An
integer stays exact on the way to another integer type. -/
def castLiteral? (span : Span) (type : Ty) (literal : Expr) : Option Expr :=
  match literal.literalNumber? with
  | none => none
  | some number =>
    if type.isBoolean then some (.boolLiteral ⟨span, type⟩ number.isNonzero)
    else if type.isInteger then
      some (.intLiteral ⟨span, type⟩ (literal.intLiteral?.getD number.toInt64))
    else if type.isFloat then some (.floatLiteral ⟨span, type⟩ number)
    else none

def constructArray (span : Span) (type : Ty) (arguments : List Expr) : Except Fault Expr := do
  match type.arraySize? with
  | none => .error (.arrayTarget type.name)
  | some size =>
    match size.count? with
    | some count =>
      ensure (arguments.length == count.toNat)
        (.elementCount arguments.length count.toNat type.name)
    | none => pure ()
    ensure (arguments.all fun argument => argument.type == type.component) .elementType
    return .construct ⟨span, type⟩ .array arguments

/-- The number of slots of all arguments, on top of those counted before. -/
def countSlots (counted : Nat) : List Expr → Except Fault Nat
  | [] => .ok counted
  | argument :: rest => do
    let count ← argument.type.slotCount
    let total ← addWords counted count
    countSlots total rest

/-- A vector or matrix from arguments that have as many slots together. -/
def constructCompound (span : Span) (type : Ty) (arguments : List Expr) : Except Fault Expr := do
  ensure (type.isVector || type.isMatrix) (.compoundTarget type.name)
  let assembled : Except Fault Expr := do
    let given ← countSlots 0 arguments
    let expected ← type.slotCount
    ensure (given == expected) (.slotCount given expected type.name)
    return .construct ⟨span, type⟩ .compound arguments
  match arguments with
  | [argument] => if argument.type == type then return argument else assembled
  | _ => assembled

/-- A struct from one argument for each member. -/
def constructStruct (span : Span) (type : Ty) (arguments : List Expr) : Except Fault Expr := do
  ensure type.isStruct (.structTarget type.name)
  ensure (arguments.length == type.members.length)
    (.memberCount arguments.length type.members.length type.name)
  return .construct ⟨span, type⟩ .struct arguments

/-- The scalar of a splat, if the expression is one. -/
def splatScalar? : Expr → Option Expr
  | .construct _ .splat (scalar :: _) => some scalar
  | _ => none

/-- A vector or matrix converted component by component. A splat of a literal converts by
converting the literal. -/
def compoundCast (span : Span) (type : Ty) (argument : Expr) : Except Fault Expr := do
  ensure ((type.isVector || type.isMatrix)
      && argument.type.columns == type.columns && argument.type.rows == type.rows)
    (.cast argument.type.name type.name)
  if argument.type == type then return argument
  let folded? := argument.splatScalar?.bind fun scalar =>
    castLiteral? scalar.span type.component scalar
  match folded? with
  | some folded => return .construct ⟨span, type⟩ .splat [folded]
  | none => return .construct ⟨span, type⟩ .compoundCast [argument]

def diagonalMatrix (span : Span) (type : Ty) (argument : Expr) : Except Fault Expr := do
  ensure (type.isMatrix && argument.type.isScalar) (.diagonal type.name argument.type.name)
  return .construct ⟨span, type⟩ .diagonalMatrix [argument]

def matrixResize (span : Span) (type : Ty) (argument : Expr) : Except Fault Expr := do
  ensure (type.isMatrix && argument.type.isMatrix) (.resize argument.type.name type.name)
  if argument.type == type then return argument
  return .construct ⟨span, type⟩ .matrixResize [argument]

def scalarCast (span : Span) (type : Ty) (argument : Expr) : Except Fault Expr := do
  ensure (type.isScalar && argument.type.isScalar) (.cast argument.type.name type.name)
  if argument.type == type then return argument
  match castLiteral? span type argument with
  | some folded => return folded
  | none => return .construct ⟨span, type⟩ .scalarCast [argument]

/-- A vector with every component set to a scalar; for a scalar target, the argument itself. -/
def splat (span : Span) (type : Ty) (argument : Expr) : Except Fault Expr := do
  ensure argument.type.isScalar (.splatSource argument.type.name)
  if type.isScalar then return argument
  ensure type.isVector (.splatTarget type.name)
  return .construct ⟨span, type⟩ .splat [argument]

/-- The flavours that take one argument. -/
def constructSingle (span : Span) (flavour : Flavour) (type : Ty) (argument : Expr) :
    Except Fault Expr :=
  match flavour with
  | .compoundCast => compoundCast span type argument
  | .diagonalMatrix => diagonalMatrix span type argument
  | .matrixResize => matrixResize span type argument
  | .scalarCast => scalarCast span type argument
  | _ => splat span type argument

def constructOf (span : Span) (flavour : Flavour) (type : Ty) (arguments : List Expr) :
    Except Fault Expr :=
  match flavour with
  | .array => constructArray span type arguments
  | .compound => constructCompound span type arguments
  | .struct => constructStruct span type arguments
  | single =>
    match arguments with
    | [argument] => constructSingle span single type argument
    | _ => .error (.singleArgument single arguments.length)

end Shading.Expr
