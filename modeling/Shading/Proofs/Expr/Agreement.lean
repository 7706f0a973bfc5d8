import Shading.Expr.Constant

/-!
The two queries of constants, side by side. The query for an integer folds operators and casts, and
the query for a literal stops at them; wherever the second one comes to a literal, both have gone
the same way through constructor calls and constants, so that the first one comes to the same
literal. Main statement: `Store.queries_agree`.
-/

namespace Shading

/-- How an answer for a literal goes with one for an integer. Where no literal is known there may
still be an integer; all else goes in step, faults too. -/
inductive Agree : Except Fault (Option Expr) → Except Fault (Option Int64) → Prop where
  | integer (info : Expr.Info) (value : Int64) :
      Agree (.ok (some (.intLiteral info value))) (.ok (some value))
  | boolean (info : Expr.Info) (value : Bool) :
      Agree (.ok (some (.boolLiteral info value))) (.ok none)
  | float (info : Expr.Info) (value : Double) :
      Agree (.ok (some (.floatLiteral info value))) (.ok none)
  | unknown (answer : Except Fault (Option Int64)) : Agree (.ok none) answer
  | fault (fault : Fault) : Agree (.error fault) (.error fault)

namespace Store

section Link

variable {store : Store} {nextLiteral : Expr → Nat → Except Fault (Option Expr)}
  {nextInt : Expr → Nat → Except Fault (Option Int64)}

mutual

/-- One link of both queries, by cases on the node. -/
theorem literalWith_agree (onward : ∀ value slot, Agree (nextLiteral value slot)
    (nextInt value slot)) (expr : Expr) (slot : Nat) :
    Agree (store.literalWith nextLiteral expr slot) (store.intWith nextInt expr slot) := by
  cases expr with
  | boolLiteral info value =>
    simp only [literalWith, intWith]
    by_cases first : slot = 0
    · simpa [first] using .boolean info value
    · simpa [first] using .unknown _
  | intLiteral info value =>
    simp only [literalWith, intWith]
    by_cases first : slot = 0
    · simpa [first] using .integer info value
    · simpa [first] using .unknown _
  | floatLiteral info value =>
    simp only [literalWith, intWith]
    by_cases first : slot = 0
    · simpa [first] using .float info value
    · simpa [first] using .unknown _
  | construct info flavour arguments =>
    have first := literalFirst_agree onward arguments
    have among := literalAmong_agree onward arguments slot
    simp only [literalWith, intWith]
    cases flavour with
    | splat => exact first
    | diagonalMatrix =>
      by_cases diagonal : onDiagonal info.type.rows slot = true
      · simpa [diagonal] using first
      · simpa [diagonal] using .unknown _
    | array | compound | struct => exact among
    | compoundCast | matrixResize | scalarCast => exact .unknown _
  | reference info target use =>
    simp only [literalWith, intWith]
    cases store.constant? (.reference info target use) with
    | some value => exact onward value slot
    | none => exact .unknown _
  | _ =>
    simp only [literalWith]
    exact .unknown _

theorem literalFirst_agree (onward : ∀ value slot, Agree (nextLiteral value slot)
    (nextInt value slot)) (arguments : List Expr) :
    Agree (store.literalFirst nextLiteral arguments) (store.intOfFirst nextInt arguments) := by
  cases arguments with
  | nil => simpa only [literalFirst, intOfFirst] using .unknown _
  | cons argument rest =>
    simpa only [literalFirst, intOfFirst] using literalWith_agree onward argument 0

theorem literalAmong_agree (onward : ∀ value slot, Agree (nextLiteral value slot)
    (nextInt value slot)) (arguments : List Expr) (slot : Nat) :
    Agree (store.literalAmong nextLiteral arguments slot)
      (store.intAmong nextInt arguments slot) := by
  cases arguments with
  | nil => simpa only [literalAmong, intAmong] using .unknown _
  | cons argument rest =>
    simp only [literalAmong, intAmong]
    cases argument.type.slotCount with
    | error fault => exact .fault fault
    | ok count =>
      change Agree (if slot < count then _ else _) (if slot < count then _ else _)
      by_cases inside : slot < count
      · simpa only [inside, if_true] using literalWith_agree onward argument slot
      · simpa only [inside, if_false] using literalAmong_agree onward rest (slot - count)

end

end Link

theorem literalWithin_agree (store : Store) (bound : Nat) (expr : Expr) (slot : Nat) :
    Agree (store.literalWithin bound expr slot) (store.intWithin bound expr slot) := by
  induction bound generalizing expr slot with
  | zero => exact .fault .circularConstant
  | succ bound inductionHypothesis => exact literalWith_agree inductionHypothesis expr slot

/-- The integer at a slot is that of the literal there, if the literal is an integer, and none if it
is another one. This holds of every expression, whatever its constants lead to. -/
theorem queries_agree (store : Store) (expr : Expr) (slot : Nat) :
    Agree (store.literalAt? expr slot) (store.intAt? expr slot) :=
  store.literalWithin_agree (store.linkBound slot) expr slot

end Store

end Shading
