import Shading.Decode.Symbol
import Shading.Expr.Construct

/-!
Decoding expressions. No decoded expression has a position, and each is built by the same functions
as any other, so that it is well typed.
-/

namespace Shading.Decode

def memberOwner : Read MemberOwner := do
  let raw ← Read.u8
  match MemberOwner.ofRaw? raw with
  | some owner => return owner
  | none => throw (.unknownMemberOwner raw)

def lane : Read Lane := do
  let raw ← Read.u8
  match Lane.ofRaw? raw with
  | some lane => return lane
  | none => throw (.unknownLane raw)

def refKind : Read RefKind := do
  let raw ← Read.u8
  match RefKind.ofRaw? raw with
  | some kind => return kind
  | none => throw (.unknownReference raw)

def arguments (nested : Decode (Option Expr)) : Decode (List Expr) := do
  let count ← next .u8
  times count.toNat (present "argument" nested)

/-- A constructor call after its tag. -/
def constructor (nested : Decode (Option Expr)) (flavour : Flavour) : Decode Expr := do
  let type ← type
  let arguments ← arguments nested
  Expr.constructOf .nowhere flavour type arguments

/-- An expression after its tag, where `nested` decodes its operands. -/
def exprRecord (context : Context) (nested : Decode (Option Expr)) : Command → Decode Expr
  | .binary => do
    let left ← present "left operand" nested
    let op ← next operator
    let right ← present "right operand" nested
    Expr.binaryOf context left op right
  | .boolLiteral => return Expr.ofBool .nowhere (← next .bool)
  | .constructorArray => constructor nested .array
  | .constructorCompound => constructor nested .compound
  | .constructorCompoundCast => constructor nested .compoundCast
  | .constructorDiagonalMatrix => constructor nested .diagonalMatrix
  | .constructorMatrixResize => constructor nested .matrixResize
  | .constructorScalarCast => constructor nested .scalarCast
  | .constructorSplat => constructor nested .splat
  | .constructorStruct => constructor nested .struct
  | .fieldAccess => do
    let base ← present "field owner" nested
    let index ← next .u8
    let owner ← next memberOwner
    Expr.memberOf base index.toNat owner
  | .floatLiteral => do
    let type ← type
    let bits ← next .u32
    Expr.ofDouble .nowhere (.ofSingleBits bits) type
  | .callExpr => do
    let type ← type
    let function ← function
    let arguments ← arguments nested
    Expr.callOf .nowhere type function arguments
  | .indexExpr => do
    let base ← present "indexed value" nested
    let position ← present "index" nested
    Expr.indexOf base position
  | .intLiteral => do
    let type ← type
    let value ← next .s32
    Expr.ofInt .nowhere value.toInt64 type
  | .postfixExpr => do
    let op ← next operator
    let operand ← present "postfix operand" nested
    Expr.postfixedOf operand op
  | .prefixExpr => do
    let op ← next operator
    let operand ← present "prefix operand" nested
    Expr.prefixedOf op operand
  | .setting => return Expr.ofSetting context .nowhere (← next .string)
  | .swizzle => do
    let base ← present "swizzled value" nested
    let count ← next .u8
    let lanes ← times count.toNat (next lane)
    Expr.swizzleOf base lanes
  | .ternary => do
    let test ← present "ternary test" nested
    let whenTrue ← present "ternary true arm" nested
    let whenFalse ← present "ternary false arm" nested
    Expr.ternaryOf test whenTrue whenFalse
  | .varReference => do
    let target ← targetVariable
    let use ← next refKind
    return Expr.ofVariable .nowhere target use
  | other => throw (.unexpected "an expression" other)

/-- An expression with fewer than `bound` expressions nested in each other, or the mark of an
absent one. -/
def exprWithin (context : Context) : Nat → Decode (Option Expr)
  | 0 => throw .nestingBound
  | bound + 1 => do
    match ← next .command with
    | .absent => return none
    | command => return some (← exprRecord context (exprWithin context bound) command)

/-- The next expression, or the mark of an absent one. -/
def expr (context : Context) : Decode (Option Expr) := do
  exprWithin context (← nesting)

end Shading.Decode
