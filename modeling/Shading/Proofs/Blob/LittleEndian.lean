import Mathlib.Algebra.Group.Nat.Defs
import Shading.Blob.Reader

/-!
Little-endian numbers. Main statement: `ofLittleEndian_toLittleEndian`, so many bytes of a number
stand for that number up to the numbers they can hold.
-/

namespace Shading

@[simp]
theorem length_toLittleEndian (count value : Nat) :
    (toLittleEndian count value).length = count := by
  induction count generalizing value with
  | zero => rfl
  | succ count inductionHypothesis =>
    simp [toLittleEndian, inductionHypothesis]

theorem ofLittleEndian_cons (byte : UInt8) (rest : List UInt8) :
    ofLittleEndian (byte :: rest) = byte.toNat + 256 * ofLittleEndian rest := by
  rfl

theorem ofLittleEndian_toLittleEndian (count value : Nat) :
    ofLittleEndian (toLittleEndian count value) = value % 256 ^ count := by
  induction count generalizing value with
  | zero =>
    rw [Nat.pow_zero, Nat.mod_one]
    rfl
  | succ count inductionHypothesis =>
    have low : (UInt8.ofNat value).toNat = value % 256 := UInt8.toNat_ofNat'
    rw [toLittleEndian, ofLittleEndian_cons, inductionHypothesis, low, Nat.pow_succ,
      Nat.mul_comm (256 ^ count) 256, Nat.mod_mul]

/-- A number that the bytes can hold is read back exactly. -/
theorem ofLittleEndian_toLittleEndian_of_lt
    {count value : Nat} (fits : value < 256 ^ count) :
    ofLittleEndian (toLittleEndian count value) = value := by
  rw [ofLittleEndian_toLittleEndian, Nat.mod_eq_of_lt fits]

/-- Two bytes always hold a 16-bit number. -/
theorem ofLittleEndian_toNat_u16 (value : UInt16) :
    ofLittleEndian (toLittleEndian 2 value.toNat) = value.toNat :=
  ofLittleEndian_toLittleEndian_of_lt value.toNat_lt

/-- Four bytes always hold a 32-bit number. -/
theorem ofLittleEndian_toNat_u32 (value : UInt32) :
    ofLittleEndian (toLittleEndian 4 value.toNat) = value.toNat :=
  ofLittleEndian_toLittleEndian_of_lt value.toNat_lt

end Shading
