import Shading.Diagnostic.Queue
import Shading.Expr.Constant
import Shading.Expr.Construct

/-!
The checks of programs that report mistakes to the user: implicit conversion of an expression to
the type expected of it, and the range of integer constants. Both report to a queue and let the
caller go on.
-/

namespace Shading

namespace Ty

/-- An expression converted to a type, or the mistake that keeps it from being converted. -/
def coerced (context : Context) (target : Ty) (expr : Expr) :
    Except Fault (Except Diagnostic Expr) :=
  match expr with
  | .functionName i _ =>
    .ok (.error (.placed i.span .uncalledFunction "expected '(' to begin function call"))
  | .typeName i _ =>
    .ok (.error
      (.placed i.span .unconstructedType "expected '(' to begin constructor invocation"))
  | expr =>
    if expr.type == target then .ok (.ok expr)
    else if !expr.type.convertsTo target context.allowNarrowing then
      .ok (.error (.typeMismatch expr.span target.displayName expr.type.displayName))
    else if target.isScalar then .ok <$> Expr.scalarCast expr.span target expr
    else if target.isVector || target.isMatrix then
      .ok <$> Expr.compoundCast expr.span target expr
    else
      .ok (.error
        (.placed expr.span .noConstructor s!"cannot construct '{target.displayName}'"))

/-- Converts an expression to a type, or reports why that is not possible. -/
def coerce (context : Context) (target : Ty) (expr : Expr) (queue : DiagnosticQueue) :
    Except Fault (Option Expr × DiagnosticQueue) := do
  match ← target.coerced context expr with
  | .ok converted => return (some converted, queue)
  | .error diagnostic => return (none, queue.add diagnostic)

/-- An integer that does not fit the slot it is meant for, in a value of several slots or of one. -/
def rangeMistake (target : Ty) (span : Span) (slots slot : Nat) (value : Int64) : Diagnostic :=
  { code := .outOfRange
    message := s!"integer is out of range for type '{target.displayName}': {value}"
    labels := [⟨span, ErrorCode.outOfRange.summary⟩]
    notes := if 1 < slots then [s!"in slot {slot}"] else [] }

/-- Whether an integer is one that a type cannot hold. Only integer types have a range. -/
def excludes (type : Ty) (value : Int64) : Bool :=
  match type.minimum?, type.maximum? with
  | some least, some greatest => value.toInt < least || greatest < value.toInt
  | _, _ => false

/-- The mistake at one slot of a value for a type, if the integer there is known and too small or
too large. -/
def mistakeAt? (target : Ty) (store : Store) (span : Span) (value : Expr) (slots slot : Nat) :
    Except Fault (Option Diagnostic) := do
  let slotType ← target.slotType slot
  if slotType.minimum?.isNone then return none
  match ← store.intAt? value slot with
  | none => return none
  | some known =>
    return if slotType.excludes known then some (target.rangeMistake span slots slot known)
      else none

end Ty

/-- Looks at `count` slots from `slot` on and reports each mistake. -/
def reportMistakes (mistakeAt : Nat → Except Fault (Option Diagnostic)) :
    Nat → Nat → Bool → DiagnosticQueue → Except Fault Bool × DiagnosticQueue
  | 0, _, found, queue => (.ok found, queue)
  | count + 1, slot, found, queue =>
    match mistakeAt slot with
    | .error fault => (.error fault, queue)
    | .ok none => reportMistakes mistakeAt count (slot + 1) found queue
    | .ok (some mistake) => reportMistakes mistakeAt count (slot + 1) true (queue.add mistake)

/-- Reports every integer of a value that does not fit the slot of the type it is meant for, and
says whether there was one. Constants are followed and integer operations folded first; reports
made before a fault stay in the queue. -/
def Ty.checkRange (target : Ty) (store : Store) (expr : Expr) (queue : DiagnosticQueue) :
    Except Fault Bool × DiagnosticQueue :=
  match (do let value ← store.resolve expr; return (value, ← value.type.slotCount)) with
  | .error fault => (.error fault, queue)
  | .ok (value, slots) =>
    reportMistakes (target.mistakeAt? store expr.span value slots) slots 0 false queue

end Shading
