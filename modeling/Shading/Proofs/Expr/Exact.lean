import Shading.Proofs.Expr.Parts
import Shading.Proofs.Expr.WellTyped
import Shading.Proofs.Number.Bits
import Shading.Proofs.Type.Arithmetic

/-!
Integer constants against the integers. Folding works in words of 64 bits, and gives up where a
value leaves them; a shift to the left alone does not see the bits that it drops. So what is folded
without such a shift is the value in unbounded arithmetic. Main statement:
`Expr.Arithmetic.folded_exactly`.
-/

namespace Shading

/-! ## Operators over all integers -/

namespace Operator

/-- The value of an operation over all integers. Division cuts off toward zero, shifts multiply and
divide by powers of two, and the operations on bits are those of two's complement. -/
def unbounded? (op : Operator) (left right : Int) : Option Int :=
  match op with
  | plus => some (left + right)
  | minus => some (left - right)
  | star => some (left * right)
  | slash => if right = 0 then none else some (left.tdiv right)
  | percent => if right = 0 then none else some (left.tmod right)
  | shiftLeft => if 0 ≤ right then some (left * 2 ^ right.toNat) else none
  | shiftRight => if 0 ≤ right then some (left.fdiv (2 ^ right.toNat)) else none
  | bitAnd => some (left.land right)
  | bitOr => some (left.lor right)
  | bitXor => some (left.xor right)
  | _ => none

/-- The value of an operator before an integer, over all integers. -/
def unboundedPrefix? (op : Operator) (value : Int) : Option Int :=
  match op with
  | plus => some value
  | minus => some (-value)
  | bitNot => some value.lnot
  | _ => none

/-- A shift to the left by a count of places that is allowed, to more than 64 bits hold. -/
structure DropsBits (op : Operator) (left right : Int64) : Prop where
  shift : op = shiftLeft
  places : 0 ≤ right ∧ right < 64
  wide : ∀ value : Int64, op.unbounded? left.toInt right.toInt ≠ some value.toInt

/-- An operation that is not folded whatever its value is: a remainder whose quotient does not fit,
and a shift by as many places as there are bits. -/
inductive Declines : Operator → Int64 → Int64 → Prop where
  | remainder : Declines percent Int64.minValue (-1)
  | shiftLeft {left right : Int64} (far : 64 ≤ right) : Declines shiftLeft left right
  | shiftRight {left right : Int64} (far : 64 ≤ right) : Declines shiftRight left right

end Operator

theorem int64?_eq_some {value : Int} {word : Int64} :
    int64? value = some word ↔ value = word.toInt := by
  have least := word.le_toInt
  have greatest := word.toInt_lt
  rw [int64?]
  constructor
  · intro fits
    split at fits
    · rename_i range
      rw [← Option.some.inj fits]
      exact (Int64.toInt_ofInt_of_le range.1 range.2).symm
    · cases fits
  · rintro rfl
    rw [if_pos ⟨least, greatest⟩, Int64.ofInt_toInt]

namespace Operator

variable {op : Operator} {left right value : Int64}

theorem toInt_eq_zero : right.toInt = 0 ↔ right = 0 :=
  Int64.toInt_inj (y := 0)

theorem toInt_nonneg : 0 ≤ right.toInt ↔ 0 ≤ right :=
  (Int64.le_iff_toInt_le (x := 0)).symm

/-- A shift to the left by some places is right if its value fits. -/
theorem toInt_shiftLeft_of_fits (places : 0 ≤ right ∧ right < 64)
    (fits : left.toInt * 2 ^ right.toInt.toNat = value.toInt) : left <<< right = value := by
  refine Int64.toInt_inj.mp ?_
  rw [Bits.toInt_shiftLeft places.1 places.2, fits]
  exact value.toInt_bmod

theorem foldInt?_exact (folded : op.foldInt? left right = some value)
    (kept : ¬op.DropsBits left right) :
    op.unbounded? left.toInt right.toInt = some value.toInt := by
  cases op with
  | plus | minus | star => exact congrArg some (int64?_eq_some.mp folded)
  | slash =>
    rw [foldInt?] at folded
    split at folded
    · cases folded
    · rename_i nonzero
      rw [unbounded?, if_neg (mt toInt_eq_zero.mp nonzero)]
      exact congrArg some (int64?_eq_some.mp folded)
  | percent =>
    rw [foldInt?] at folded
    split at folded
    · cases folded
    · rename_i nonzero
      rw [unbounded?, if_neg fun zero => nonzero (Or.inl (toInt_eq_zero.mp zero))]
      exact congrArg some (int64?_eq_some.mp folded)
  | shiftLeft =>
    rw [foldInt?] at folded
    split at folded
    · rename_i places
      cases folded
      obtain ⟨word, exact⟩ :
          ∃ word : Int64, shiftLeft.unbounded? left.toInt right.toInt = some word.toInt := by
        by_contra none
        exact kept ⟨rfl, places, fun word same => none ⟨word, same⟩⟩
      have product := exact
      rw [unbounded?, if_pos (toInt_nonneg.mpr places.1)] at product
      rw [exact, toInt_shiftLeft_of_fits places (Option.some.inj product)]
    · cases folded
  | shiftRight =>
    rw [foldInt?] at folded
    split at folded
    · rename_i places
      cases folded
      rw [unbounded?, if_pos (toInt_nonneg.mpr places.1),
        Bits.toInt_shiftRight places.1 places.2]
    · cases folded
  | bitAnd =>
    cases folded
    exact congrArg some (Bits.toInt_and left right).symm
  | bitOr =>
    cases folded
    exact congrArg some (Bits.toInt_or left right).symm
  | bitXor =>
    cases folded
    exact congrArg some (Bits.toInt_xor left right).symm
  | _ => cases folded

theorem foldInt?_of_fits (exact : op.unbounded? left.toInt right.toInt = some value.toInt)
    (taken : ¬op.Declines left right) : op.foldInt? left right = some value := by
  cases op with
  | plus | minus | star => exact int64?_eq_some.mpr (Option.some.inj exact)
  | slash =>
    rw [unbounded?] at exact
    split at exact
    · cases exact
    · rename_i nonzero
      rw [foldInt?, if_neg (mt toInt_eq_zero.mpr nonzero)]
      exact int64?_eq_some.mpr (Option.some.inj exact)
  | percent =>
    rw [unbounded?] at exact
    split at exact
    · cases exact
    · rename_i nonzero
      have whole : ¬(right = 0 ∨ (left = Int64.minValue ∧ right = -1)) := by
        rintro (zero | ⟨rfl, rfl⟩)
        · exact nonzero (toInt_eq_zero.mpr zero)
        · exact taken .remainder
      rw [foldInt?, if_neg whole]
      exact int64?_eq_some.mpr (Option.some.inj exact)
  | shiftLeft =>
    rw [unbounded?] at exact
    split at exact
    · rename_i atLeast
      have places : 0 ≤ right ∧ right < 64 :=
        ⟨toInt_nonneg.mp atLeast, Int64.not_le.mp fun far => taken (.shiftLeft far)⟩
      rw [foldInt?, if_pos places, toInt_shiftLeft_of_fits places (Option.some.inj exact)]
    · cases exact
  | shiftRight =>
    rw [unbounded?] at exact
    split at exact
    · rename_i atLeast
      have places : 0 ≤ right ∧ right < 64 :=
        ⟨toInt_nonneg.mp atLeast, Int64.not_le.mp fun far => taken (.shiftRight far)⟩
      have same : (left >>> right).toInt = value.toInt := by
        rw [Bits.toInt_shiftRight places.1 places.2, Option.some.inj exact]
      rw [foldInt?, if_pos places, Int64.toInt_inj.mp same]
    · cases exact
  | bitAnd =>
    have same := (Bits.toInt_and left right).trans (Option.some.inj exact)
    exact congrArg some (Int64.toInt_inj.mp same)
  | bitOr =>
    have same := (Bits.toInt_or left right).trans (Option.some.inj exact)
    exact congrArg some (Int64.toInt_inj.mp same)
  | bitXor =>
    have same := (Bits.toInt_xor left right).trans (Option.some.inj exact)
    exact congrArg some (Int64.toInt_inj.mp same)
  | _ => cases exact

/-- An operator before an integer is folded exactly where its value fits. -/
theorem foldPrefix?_eq_some {operand : Int64} :
    op.foldPrefix? operand = some value ↔
      op.unboundedPrefix? operand.toInt = some value.toInt := by
  cases op with
  | plus => simp only [foldPrefix?, unboundedPrefix?, Option.some.injEq, Int64.toInt_inj]
  | minus => simp only [foldPrefix?, unboundedPrefix?, Option.some.injEq, int64?_eq_some]
  | bitNot =>
    simp only [foldPrefix?, unboundedPrefix?, Option.some.injEq, ← Bits.toInt_not,
      Int64.toInt_inj]
  | _ => simp only [foldPrefix?, unboundedPrefix?, reduceCtorEq]

end Operator

/-! ## Expressions of literals -/

namespace Expr

/-- The value of an expression of integer literals over all integers. -/
def unbounded? : Expr → Option Int
  | .intLiteral _ value => some value.toInt
  | .prefixed _ op operand => operand.unbounded?.bind op.unboundedPrefix?
  | .binary _ left op right =>
    left.unbounded?.bind fun leftValue => right.unbounded?.bind (op.unbounded? leftValue)
  | _ => none

/-- The value of an expression is one that 64 bits hold. -/
def Fits (expr : Expr) : Prop :=
  ∃ value : Int64, expr.unbounded? = some value.toInt

/-- A binary operation with operands of which something is true. -/
inductive Applies (holds : Operator → Int64 → Int64 → Prop) : Expr → Prop where
  | intro {info : Expr.Info} {left right : Expr} {op : Operator} {leftValue rightValue : Int64}
      (leftKnown : left.unbounded? = some leftValue.toInt)
      (rightKnown : right.unbounded? = some rightValue.toInt)
      (here : holds op leftValue rightValue) : Applies holds (.binary info left op right)

/-- An expression that is built from integer literals with signs and integer arithmetic. -/
inductive Arithmetic (context : Context) : Expr → Prop where
  | ofInt {span : Span} {value : Int64} {type : Ty} {expr : Expr}
      (made : ofInt span value type = .ok expr) : Arithmetic context expr
  | prefixedOf {op : Operator} {operand expr : Expr}
      (sign : op = .plus ∨ op = .minus ∨ op = .bitNot)
      (operandArithmetic : Arithmetic context operand)
      (made : prefixedOf op operand = .ok expr) : Arithmetic context expr
  | binaryOf {left right expr : Expr} {op : Operator} (arithmetic : op.isArithmetic = true)
      (leftArithmetic : Arithmetic context left) (rightArithmetic : Arithmetic context right)
      (made : binaryOf context left op right = .ok expr) : Arithmetic context expr

variable {context : Context} {expr : Expr}

open Stepping

theorem not_dropsBits_of_fits (fits : expr.Fits) : ¬expr.Applies Operator.DropsBits := by
  rintro ⟨leftKnown, rightKnown, drops⟩
  obtain ⟨value, exact⟩ := fits
  rw [unbounded?, leftKnown, rightKnown] at exact
  exact drops.wide value exact

/-- Arithmetic on integers of scalar types gives an integer of one of the two types. -/
theorem isInteger_of_arithmeticType? {op : Operator} {left right type : Ty} {allowNarrowing : Bool}
    (leftInteger : left.isInteger = true) (rightInteger : right.isInteger = true)
    (made : op.arithmeticType? left right allowNarrowing = .ok (some type)) :
    type.isInteger = true := by
  have noProduct : productShape? left right = none := by
    cases left with
    | scalar | literal =>
      cases right with
      | scalar | literal => rfl
      | _ => cases rightInteger
    | _ => cases leftInteger
  rcases (Operator.arithmeticType?_cases made).2 with componentwise | ⟨_, _, shaped, _⟩
  · rcases (componentwiseType?_cases componentwise).1 with rfl | rfl
    · exact leftInteger
    · exact rightInteger
  · rw [noProduct] at shaped
    cases shaped

theorem Arithmetic.isInteger (arithmetic : expr.Arithmetic context) :
    expr.type.isInteger = true := by
  induction arithmetic with
  | ofInt made =>
    obtain ⟨integer, same⟩ := passed_of_ensure made
    cases same
    exact integer
  | prefixedOf _ _ made inductionHypothesis =>
    obtain ⟨_, same⟩ := passed_of_ensure made
    cases same
    exact inductionHypothesis
  | binaryOf arithmetic _ _ made leftHypothesis rightHypothesis =>
    obtain ⟨result, found, rest⟩ := exists_of_bind_ok made
    cases result with
    | none => cases rest
    | some type =>
      cases rest
      rw [Operator.resultType?_of_isArithmetic arithmetic] at found
      exact isInteger_of_arithmeticType? leftHypothesis rightHypothesis found

/-- How a folded value relates to the value in unbounded arithmetic. -/
structure FoldsTo (expr : Expr) (value? : Option Int64) : Prop where
  /-- Unless bits are dropped, a folded value is exact, and so are the values on the way to it. -/
  exact : (∀ part ∈ expr.parts, ¬part.Applies Operator.DropsBits) → ∀ value ∈ value?,
    expr.unbounded? = some value.toInt ∧ ∀ part ∈ expr.parts, part.Fits
  /-- A value is folded if it fits 64 bits, and so do the values on the way to it. -/
  complete : (∀ part ∈ expr.parts, part.Fits ∧ ¬part.Applies Operator.Declines) →
    value?.isSome = true

theorem FoldsTo.some {value? : Option Int64} (folds : expr.FoldsTo value?)
    (fits : ∀ part ∈ expr.parts, part.Fits ∧ ¬part.Applies Operator.Declines) :
    ∃ value, value? = .some value ∧ expr.unbounded? = .some value.toInt := by
  obtain ⟨value, known⟩ := Option.isSome_iff_exists.mp (folds.complete fits)
  have exact := folds.exact (fun part member => not_dropsBits_of_fits (fits part member).1)
  exact ⟨value, known, (exact value known).1⟩

variable {info : Expr.Info} {op : Operator}

theorem FoldsTo.literal (value : Int64) : (intLiteral info value).FoldsTo (.some value) where
  exact _ other same := by
    cases same
    refine ⟨rfl, fun part member => ?_⟩
    rw [List.mem_singleton.mp member]
    exact ⟨value, rfl⟩
  complete _ := rfl

theorem FoldsTo.prefixed {operand : Expr} {value? : Option Int64} (folds : operand.FoldsTo value?) :
    (prefixed info op operand).FoldsTo (value?.bind op.foldPrefix?) where
  exact kept value folded := by
    obtain ⟨inner, known, folded⟩ := Option.bind_eq_some_iff.mp folded
    obtain ⟨exact, fits⟩ := folds.exact (forall_mem_parts_prefixed.mp kept).2 inner known
    have whole : (Expr.prefixed info op operand).unbounded? = .some value.toInt := by
      rw [unbounded?, exact]
      exact Operator.foldPrefix?_eq_some.mp folded
    exact ⟨whole, forall_mem_parts_prefixed.mpr ⟨⟨value, whole⟩, fits⟩⟩
  complete fits := by
    obtain ⟨⟨⟨value, whole⟩, _⟩, inside⟩ := forall_mem_parts_prefixed.mp fits
    obtain ⟨inner, rfl, exact⟩ := folds.some inside
    rw [unbounded?, exact] at whole
    rw [Option.bind_some, Operator.foldPrefix?_eq_some.mpr whole]
    rfl

theorem FoldsTo.binary {left right : Expr} {leftValue? rightValue? : Option Int64}
    (leftFolds : left.FoldsTo leftValue?) (rightFolds : right.FoldsTo rightValue?) :
    (binary info left op right).FoldsTo
      (leftValue?.bind fun leftValue => rightValue?.bind (op.foldInt? leftValue)) where
  exact kept value folded := by
    obtain ⟨leftValue, leftKnown, rest⟩ := Option.bind_eq_some_iff.mp folded
    obtain ⟨rightValue, rightKnown, folded⟩ := Option.bind_eq_some_iff.mp rest
    obtain ⟨keptHere, keptLeft, keptRight⟩ := forall_mem_parts_binary.mp kept
    obtain ⟨leftExact, leftFits⟩ := leftFolds.exact keptLeft leftValue leftKnown
    obtain ⟨rightExact, rightFits⟩ := rightFolds.exact keptRight rightValue rightKnown
    have whole : (Expr.binary info left op right).unbounded? = .some value.toInt := by
      rw [unbounded?, leftExact, rightExact]
      exact Operator.foldInt?_exact folded fun drops => keptHere ⟨leftExact, rightExact, drops⟩
    exact ⟨whole, forall_mem_parts_binary.mpr ⟨⟨value, whole⟩, leftFits, rightFits⟩⟩
  complete fits := by
    obtain ⟨⟨⟨value, whole⟩, taken⟩, onLeft, onRight⟩ := forall_mem_parts_binary.mp fits
    obtain ⟨leftValue, rfl, leftExact⟩ := leftFolds.some onLeft
    obtain ⟨rightValue, rfl, rightExact⟩ := rightFolds.some onRight
    rw [unbounded?, leftExact, rightExact] at whole
    have folded : op.foldInt? leftValue rightValue = .some value :=
      Operator.foldInt?_of_fits whole fun declines => taken ⟨leftExact, rightExact, declines⟩
    rw [Option.bind_some, Option.bind_some, folded]
    rfl

/-- Integers of scalar types are folded. -/
theorem intWith_binary {left right : Expr} {store : Store} {next : Query (Option Int64)}
    {leftValue? rightValue? : Option Int64} (integer : info.type.isInteger = true)
    (leftFolded : store.intWith next left 0 = .ok leftValue?)
    (rightFolded : store.intWith next right 0 = .ok rightValue?) :
    store.intWith next (binary info left op right) 0 =
      .ok (leftValue?.bind fun leftValue => rightValue?.bind (op.foldInt? leftValue)) := by
  have scalar : (!info.type.component.isInteger || info.type.isMatrix) = false := by
    cases typed : info.type with
    | scalar | literal =>
      rw [typed] at integer
      simp only [Ty.component, integer, Bool.not_true, Bool.false_or]
      rfl
    | _ =>
      rw [typed] at integer
      cases integer
  have first (operand : Expr) : Store.operandSlot operand 0 = 0 :=
    Nat.le_zero.mp (Store.operandSlot_le operand 0)
  rw [Store.intWith, scalar, first, first, leftFolded, rightFolded]
  cases leftValue? with
  | none => rfl
  | some leftValue =>
    cases rightValue? with
    | none => rfl
    | some rightValue => rfl

/-- Arithmetic on literals asks for nothing. -/
theorem Arithmetic.intWith_folds (arithmetic : expr.Arithmetic context) (store : Store)
    (next : Query (Option Int64)) :
    ∃ value?, store.intWith next expr 0 = .ok value? ∧ expr.FoldsTo value? := by
  induction arithmetic with
  | ofInt made =>
    obtain ⟨_, same⟩ := passed_of_ensure made
    cases same
    exact ⟨_, by rw [Store.intWith, if_pos rfl], .literal _⟩
  | prefixedOf _ _ made inductionHypothesis =>
    obtain ⟨value?, folded, folds⟩ := inductionHypothesis
    obtain ⟨_, same⟩ := passed_of_ensure made
    cases same
    refine ⟨_, ?_, folds.prefixed⟩
    rw [Store.intWith, folded]
    rfl
  | binaryOf operator leftArithmetic rightArithmetic made leftHypothesis rightHypothesis =>
    have integer := (Arithmetic.binaryOf operator leftArithmetic rightArithmetic made).isInteger
    obtain ⟨leftValue?, leftFolded, leftFolds⟩ := leftHypothesis
    obtain ⟨rightValue?, rightFolded, rightFolds⟩ := rightHypothesis
    obtain ⟨result, found, rest⟩ := exists_of_bind_ok made
    cases result with
    | none => cases rest
    | some type =>
      cases rest
      exact ⟨_, intWith_binary integer leftFolded rightFolded, leftFolds.binary rightFolds⟩

/-- The query for the value of an expression of integer literals comes to an end. Where no shift to
the left drops bits, what it gives is the value over all integers, which was within 64 bits all the
way; and it gives every such value but for the few operations that are never folded. -/
theorem Arithmetic.folded_exactly (arithmetic : expr.Arithmetic context) (store : Store) :
    ∃ value?, store.intAt? expr 0 = .ok value? ∧
      ((∀ part ∈ expr.parts, ¬part.Applies Operator.DropsBits) → ∀ value ∈ value?,
        expr.unbounded? = some value.toInt ∧ ∀ part ∈ expr.parts, part.Fits) ∧
      ((∀ part ∈ expr.parts, part.Fits ∧ ¬part.Applies Operator.Declines) →
        ∃ value, value? = some value ∧ expr.unbounded? = some value.toInt) := by
  obtain ⟨value?, folded, folds⟩ :=
    arithmetic.intWith_folds store (store.intWithin (store.initials.length * (0 + 1)))
  exact ⟨value?, folded, folds.exact, folds.some⟩

/-- `1 << places` -/
def powerOfTwo (places : Int64) : Expr :=
  .binary ⟨Span.nowhere.merge .nowhere, Builtin.int⟩ (.ofPlainInt .nowhere 1) .shiftLeft
    (.ofPlainInt .nowhere places)

theorem powerOfTwo_arithmetic (places : Int64) : (powerOfTwo places).Arithmetic {} := by
  have literal (value : Int64) : (ofPlainInt .nowhere value).Arithmetic {} := by
    have made : ofInt .nowhere value Builtin.int = .ok (ofPlainInt .nowhere value) := rfl
    exact .ofInt made
  have made : binaryOf {} (ofPlainInt .nowhere 1) .shiftLeft (ofPlainInt .nowhere places) =
      .ok (powerOfTwo places) := rfl
  exact .binaryOf rfl (literal 1) (literal places) made

/-- `~(1 << 62)`, whose bits all have a place. -/
def lowBits : Expr := .prefixed ⟨Span.nowhere.merge .nowhere, Builtin.int⟩ .bitNot (powerOfTwo 62)

theorem lowBits_folded_exactly :
    lowBits.Arithmetic {} ∧
      (∃ value?, Store.intAt? {} lowBits 0 = .ok value? ∧
        ((∀ part ∈ lowBits.parts, ¬part.Applies Operator.DropsBits) → ∀ value ∈ value?,
          lowBits.unbounded? = some value.toInt ∧ ∀ part ∈ lowBits.parts, part.Fits) ∧
        ((∀ part ∈ lowBits.parts, part.Fits ∧ ¬part.Applies Operator.Declines) →
          ∃ value, value? = some value ∧ lowBits.unbounded? = some value.toInt)) ∧
      (∀ part ∈ lowBits.parts, part.Fits) ∧ lowBits.unbounded? = some (-4611686018427387905) := by
  have arithmetic : lowBits.Arithmetic {} :=
    .prefixedOf (Or.inr (Or.inr rfl)) (powerOfTwo_arithmetic 62) rfl
  have fits : ∀ part ∈ lowBits.parts, part.Fits := by
    have parts : lowBits.parts =
        [lowBits, powerOfTwo 62, .ofPlainInt .nowhere 1, .ofPlainInt .nowhere 62] := rfl
    simp only [parts, List.forall_mem_cons, List.not_mem_nil, false_implies, implies_true, and_true]
    exact ⟨⟨-4611686018427387905, by decide⟩, ⟨4611686018427387904, by decide⟩, ⟨1, by decide⟩,
      ⟨62, by decide⟩⟩
  exact ⟨arithmetic, arithmetic.folded_exactly {}, fits, by decide⟩

/-- `1 << 63` is folded to a negative number. -/
theorem highBit_lost :
    (powerOfTwo 63).Arithmetic {} ∧
      Store.intAt? {} (powerOfTwo 63) 0 = .ok (some Int64.minValue) ∧
      (powerOfTwo 63).unbounded? = some (2 ^ 63) ∧ ¬(powerOfTwo 63).Fits := by
  have value : (powerOfTwo 63).unbounded? = some (2 ^ 63) := by decide
  refine ⟨powerOfTwo_arithmetic 63, by rfl, value, ?_⟩
  rintro ⟨word, fits⟩
  have below := word.toInt_lt
  rw [value] at fits
  have same := Option.some.inj fits
  omega

end Expr

end Shading
