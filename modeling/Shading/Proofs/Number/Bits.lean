import Mathlib.Data.Int.Bitwise

/-!
Words of 64 bits as integers in two's complement. The operations on bits give the integer with the
same operation on its bits, of which there is no last one; a shift to the right divides and rounds
down, and a shift to the left multiplies up to a multiple of `2 ^ 64`.
-/

namespace Shading.Bits

/-- Far to the left only the signs are seen. -/
theorem exists_testBit_ne (natural negative : Nat) :
    ∃ bit, (Int.ofNat natural).testBit bit ≠ (Int.negSucc negative).testBit bit := by
  have left : natural.testBit (natural + negative) = false :=
    Nat.testBit_lt_two_pow (Nat.lt_of_le_of_lt (Nat.le_add_right _ _) Nat.lt_two_pow_self)
  have right : negative.testBit (natural + negative) = false :=
    Nat.testBit_lt_two_pow (Nat.lt_of_le_of_lt (Nat.le_add_left _ _) Nat.lt_two_pow_self)
  refine ⟨natural + negative, ?_⟩
  simp only [Int.testBit, left, right]
  decide

/-- Two integers with the same bits are the same. -/
theorem eq_of_testBit {left right : Int} (same : ∀ bit, left.testBit bit = right.testBit bit) :
    left = right := by
  cases left with
  | ofNat natural =>
    cases right with
    | ofNat other => exact congrArg Int.ofNat (Nat.eq_of_testBit_eq same)
    | negSucc negative =>
      obtain ⟨bit, different⟩ := exists_testBit_ne natural negative
      exact absurd (same bit) different
  | negSucc negative =>
    cases right with
    | ofNat natural =>
      obtain ⟨bit, different⟩ := exists_testBit_ne natural negative
      exact absurd (same bit).symm different
    | negSucc other =>
      refine congrArg Int.negSucc (Nat.eq_of_testBit_eq fun bit => ?_)
      have here := same bit
      simpa only [Int.testBit, Bool.not_inj_iff] using here

section Words

variable {width : Nat} {word : BitVec width}

theorem toInt_of_msb (negative : word.msb = true) :
    word.toInt = Int.negSucc (~~~word).toNat := by
  have below := word.isLt
  have power : ((2 ^ width : Nat) : Int) = (2 : Int) ^ width := by push_cast; rfl
  rw [BitVec.toInt_eq_msb_cond, negative, BitVec.toNat_not, if_pos rfl, Int.negSucc_eq]
  omega

/-- A word is an integer whose bits to the left of the word are all the sign. -/
theorem testBit_toInt (word : BitVec width) (bit : Nat) :
    word.toInt.testBit bit = if bit < width then word.getLsbD bit else word.msb := by
  cases sign : word.msb with
  | false =>
    have whole : word.toInt = Int.ofNat word.toNat := by
      rw [BitVec.toInt_eq_msb_cond, sign]
      rfl
    rw [whole, Int.testBit, BitVec.testBit_toNat]
    split
    · rfl
    · exact BitVec.getLsbD_of_ge word bit (by omega)
  | true =>
    rw [toInt_of_msb sign, Int.testBit, BitVec.testBit_toNat, BitVec.getLsbD_not]
    split <;> simp_all

/-- An operation that works on each bit of words, and on the bits of integers alike. -/
theorem toInt_eq_of_bits {left right : BitVec width} {value : Int} {onBits : Bool → Bool → Bool}
    (bits : ∀ bit, word.getLsbD bit = onBits (left.getLsbD bit) (right.getLsbD bit))
    (sign : word.msb = onBits left.msb right.msb)
    (valueBits : ∀ bit,
      value.testBit bit = onBits (left.toInt.testBit bit) (right.toInt.testBit bit)) :
    word.toInt = value := by
  refine eq_of_testBit fun bit => ?_
  rw [valueBits, testBit_toInt, testBit_toInt, testBit_toInt]
  split
  · exact bits bit
  · exact sign

end Words

variable (left right : Int64)

theorem toInt_and : (left &&& right).toInt = left.toInt.land right.toInt :=
  toInt_eq_of_bits (fun _ => BitVec.getLsbD_and) BitVec.msb_and (Int.testBit_land _ _)

theorem toInt_or : (left ||| right).toInt = left.toInt.lor right.toInt :=
  toInt_eq_of_bits (fun _ => BitVec.getLsbD_or) BitVec.msb_or (Int.testBit_lor _ _)

theorem toInt_xor : (left ^^^ right).toInt = left.toInt.xor right.toInt :=
  toInt_eq_of_bits (fun _ => BitVec.getLsbD_xor) BitVec.msb_xor (Int.testBit_lxor _ _)

theorem toInt_not (value : Int64) : (~~~value).toInt = value.toInt.lnot := by
  refine eq_of_testBit fun bit => ?_
  rw [Int.testBit_lnot, ← Int64.toInt_toBitVec, ← Int64.toInt_toBitVec, Int64.toBitVec_not,
    testBit_toInt, testBit_toInt, BitVec.getLsbD_not, BitVec.msb_not]
  split <;> simp_all

variable {left right}

/-- A count of places below 64 is taken as it is. -/
theorem toNat_places (atLeast : 0 ≤ right) (below : right < 64) :
    (right.toBitVec.smod 64).toNat = right.toInt.toNat := by
  have low : 0 ≤ right.toInt := Int64.le_iff_toInt_le.mp atLeast
  have high : right.toInt < 64 := Int64.lt_iff_toInt_lt.mp below
  have kept : (right.toBitVec.smod 64).toInt = right.toInt := by
    rw [BitVec.toInt_smod]
    change right.toInt.fmod 64 = right.toInt
    rw [Int.fmod_eq_emod_of_nonneg _ (by decide)]
    omega
  have unsigned := BitVec.toInt_eq_toNat_cond (right.toBitVec.smod 64)
  rw [kept] at unsigned
  split at unsigned <;> omega

theorem toInt_shiftRight (atLeast : 0 ≤ right) (below : right < 64) :
    (left >>> right).toInt = left.toInt.fdiv (2 ^ right.toInt.toNat) := by
  have positive : (0 : Int) ≤ 2 ^ right.toInt.toNat := Int.pow_nonneg (by decide)
  rw [← Int64.toInt_toBitVec, Int64.toBitVec_shiftRight, BitVec.toInt_sshiftRight',
    toNat_places atLeast below, Int.shiftRight_eq_div_pow, Int.fdiv_eq_ediv_of_nonneg _ positive,
    Int64.toInt_toBitVec]
  push_cast
  rfl

theorem toInt_shiftLeft (atLeast : 0 ≤ right) (below : right < 64) :
    (left <<< right).toInt = (left.toInt * 2 ^ right.toInt.toNat).bmod (2 ^ 64) := by
  have word : left.toInt = (left.toBitVec.toNat : Int).bmod (2 ^ 64) := by
    rw [← Int64.toInt_toBitVec, BitVec.toInt_eq_toNat_bmod]
  rw [word, ← Int64.toInt_toBitVec, Int64.toBitVec_shiftLeft, BitVec.shiftLeft_eq',
    BitVec.toInt_shiftLeft, toNat_places atLeast below, Nat.shiftLeft_eq, Int.bmod_mul_bmod]
  push_cast
  rfl

end Shading.Bits
