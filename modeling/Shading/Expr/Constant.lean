import Shading.Store
import Shading.Type.Slots

/-!
What is known of a value before the program runs. A `const` variable with an initial value stands
for that value, so a query may go from one initial value to the next. A query that comes back to
where it was never ends; it is cut off by a bound that every other query stays below, and the bound
is the number of initial values, since no two links of a chain start at one variable.
-/

namespace Shading

/-- An integer that 64 bits hold. -/
def int64? (value : Int) : Option Int64 :=
  if -0x8000000000000000 ≤ value ∧ value < 0x8000000000000000 then some (Int64.ofInt value)
  else none

/-- The value of an integer operation, if it has one in 64 bits. Division cuts off toward zero, a
shift moves by at most 63 places, and a shift to the left drops what leaves the 64 bits. -/
def Operator.foldInt? (op : Operator) (left right : Int64) : Option Int64 :=
  match op with
  | plus => int64? (left.toInt + right.toInt)
  | minus => int64? (left.toInt - right.toInt)
  | star => int64? (left.toInt * right.toInt)
  | slash => if right = 0 then none else int64? (left.toInt.tdiv right.toInt)
  | percent =>
    if right = 0 ∨ (left = Int64.minValue ∧ right = -1) then none
    else int64? (left.toInt.tmod right.toInt)
  | shiftLeft => if 0 ≤ right ∧ right < 64 then some (left <<< right) else none
  | shiftRight => if 0 ≤ right ∧ right < 64 then some (left >>> right) else none
  | bitAnd => some (left &&& right)
  | bitOr => some (left ||| right)
  | bitXor => some (left ^^^ right)
  | _ => none

/-- The value of an operator before an integer, if it has one in 64 bits. -/
def Operator.foldPrefix? (op : Operator) (value : Int64) : Option Int64 :=
  match op with
  | plus => some value
  | minus => int64? (-value.toInt)
  | bitNot => some (~~~value)
  | _ => none

namespace Store

/-- The initial value that a reference to a `const` variable stands for. -/
def constant? (store : Store) : Expr → Option Expr
  | .reference _ target _ => if target.modifiers.isConst then store.initial? target else none
  | _ => none

/-- Follows constants to a value that stands for itself, over fewer than `bound` links. -/
def resolveWithin (store : Store) : Nat → Expr → Except Fault Expr
  | 0, _ => .error .circularConstant
  | bound + 1, expr =>
    match store.constant? expr with
    | some value => store.resolveWithin bound value
    | none => .ok expr

/-- The value an expression stands for once references to constants are followed. -/
def resolve (store : Store) (expr : Expr) : Except Fault Expr :=
  store.resolveWithin (store.initials.length + 1) expr

/-- The number of links that a query for a slot can follow without coming back to a variable and
slot where it was. A query never moves on to a greater slot. -/
def linkBound (store : Store) (slot : Nat) : Nat :=
  store.initials.length * (slot + 1) + 1

/-! ## Literals -/

/-- Whether a slot of a matrix of some rows is on its diagonal. -/
def onDiagonal (rows slot : Nat) : Bool :=
  slot / max 1 rows == slot % max 1 rows

mutual

/-- The literal at a slot, where `next` answers for the values that constants stand for. -/
def literalWith (store : Store) (next : Expr → Nat → Except Fault (Option Expr)) :
    Expr → Nat → Except Fault (Option Expr)
  | .boolLiteral i value, slot => .ok (if slot = 0 then some (.boolLiteral i value) else none)
  | .intLiteral i value, slot => .ok (if slot = 0 then some (.intLiteral i value) else none)
  | .floatLiteral i value, slot => .ok (if slot = 0 then some (.floatLiteral i value) else none)
  | .construct i flavour arguments, slot =>
    match flavour with
    | .splat => literalFirst store next arguments
    | .diagonalMatrix =>
      if onDiagonal i.type.rows slot then literalFirst store next arguments else .ok none
    | .array | .compound | .struct => literalAmong store next arguments slot
    | .compoundCast | .matrixResize | .scalarCast => .ok none
  | .reference i target use, slot =>
    match store.constant? (.reference i target use) with
    | some value => next value slot
    | none => .ok none
  | _, _ => .ok none

def literalFirst (store : Store) (next : Expr → Nat → Except Fault (Option Expr)) :
    List Expr → Except Fault (Option Expr)
  | [] => .ok none
  | argument :: _ => literalWith store next argument 0

/-- The literal at a slot of arguments laid out in a row. -/
def literalAmong (store : Store) (next : Expr → Nat → Except Fault (Option Expr)) :
    List Expr → Nat → Except Fault (Option Expr)
  | [], _ => .ok none
  | argument :: rest, slot => do
    let count ← argument.type.slotCount
    if slot < count then literalWith store next argument slot
    else literalAmong store next rest (slot - count)

end

/-- The literal at a slot, found over fewer than `bound` links. -/
def literalWithin (store : Store) : Nat → Expr → Nat → Except Fault (Option Expr)
  | 0 => fun _ _ => .error .circularConstant
  | bound + 1 => store.literalWith (store.literalWithin bound)

/-- The literal that is known to be at a slot of a value. A slot that a diagonal matrix leaves zero
has none. -/
def literalAt? (store : Store) (expr : Expr) (slot : Nat) : Except Fault (Option Expr) :=
  store.literalWithin (store.linkBound slot) expr slot

/-! ## Integers -/

/-- The slot of an operand that a slot of a binary operation takes its value from: a scalar is
spread over every slot. -/
def operandSlot (operand : Expr) (slot : Nat) : Nat :=
  if operand.type.isScalar then 0 else slot

mutual

/-- The integer at a slot, where `next` answers for the values that constants stand for. -/
def intWith (store : Store) (next : Expr → Nat → Except Fault (Option Int64)) :
    Expr → Nat → Except Fault (Option Int64)
  | .intLiteral _ value, slot => .ok (if slot = 0 then some value else none)
  | .construct i flavour arguments, slot =>
    match flavour with
    | .scalarCast | .compoundCast =>
      if i.type.component.isInteger then intOfCast store next arguments slot else .ok none
    | .splat => intOfFirst store next arguments
    | .diagonalMatrix =>
      if onDiagonal i.type.rows slot then intOfFirst store next arguments else .ok none
    | .array | .compound | .struct => intAmong store next arguments slot
    | .matrixResize => .ok none
  | .prefixed _ op operand, slot => do
    let value? ← intWith store next operand slot
    return value?.bind op.foldPrefix?
  | .binary i left op right, slot =>
    if !i.type.component.isInteger || i.type.isMatrix then .ok none
    else do
      match ← intWith store next left (operandSlot left slot) with
      | none => return none
      | some leftValue =>
        match ← intWith store next right (operandSlot right slot) with
        | none => return none
        | some rightValue => return op.foldInt? leftValue rightValue
  | .reference i target use, slot =>
    match store.constant? (.reference i target use) with
    | some value => next value slot
    | none => .ok none
  | _, _ => .ok none

/-- The integer at a slot of the argument of a cast, if that has integers too. -/
def intOfCast (store : Store) (next : Expr → Nat → Except Fault (Option Int64)) :
    List Expr → Nat → Except Fault (Option Int64)
  | [], _ => .ok none
  | argument :: _, slot =>
    if argument.type.component.isInteger then intWith store next argument slot else .ok none

def intOfFirst (store : Store) (next : Expr → Nat → Except Fault (Option Int64)) :
    List Expr → Except Fault (Option Int64)
  | [] => .ok none
  | argument :: _ => intWith store next argument 0

/-- The integer at a slot of arguments laid out in a row. -/
def intAmong (store : Store) (next : Expr → Nat → Except Fault (Option Int64)) :
    List Expr → Nat → Except Fault (Option Int64)
  | [], _ => .ok none
  | argument :: rest, slot => do
    let count ← argument.type.slotCount
    if slot < count then intWith store next argument slot
    else intAmong store next rest (slot - count)

end

/-- The integer at a slot, found over fewer than `bound` links. -/
def intWithin (store : Store) : Nat → Expr → Nat → Except Fault (Option Int64)
  | 0 => fun _ _ => .error .circularConstant
  | bound + 1 => store.intWith (store.intWithin bound)

/-- The integer that is known to be at a slot of a value, after folding casts between integer
types, signs and integer arithmetic. -/
def intAt? (store : Store) (expr : Expr) (slot : Nat) : Except Fault (Option Int64) :=
  store.intWithin (store.linkBound slot) expr slot

end Store

end Shading
