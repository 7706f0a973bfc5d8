import Shading.Expr.Text
import Shading.ParseTree
import Shading.Proofs.Number.Shortest

/-!
The marks by which a number reads as floating-point. Every finite number shows one, except integers
from `wholeLimit` on: no decimal place is added to them, and the positional notation of their
shortest decimal has none, so they are written like an integer literal. Main statement:
`Double.shows_float_iff`.
-/

namespace Shading

/-- A text with a decimal point or an exponent. -/
def ShowsFloat (text : String) : Prop :=
  '.' ∈ text.toList ∨ 'e' ∈ text.toList ∨ 'E' ∈ text.toList

/-- A text that reads as an integer: digits, perhaps after a sign. -/
def ShowsInteger (text : String) : Prop :=
  ∀ character ∈ text.toList, character = '-' ∨ character.isDigit = true

variable {text : String}

theorem ShowsInteger.not_showsFloat (shows : ShowsInteger text) : ¬ShowsFloat text := by
  rintro (point | small | large)
  · exact absurd (shows _ point) (by decide)
  · exact absurd (shows _ small) (by decide)
  · exact absurd (shows _ large) (by decide)

theorem ShowsFloat.append (shows : ShowsFloat text) (front : String) :
    ShowsFloat (front ++ text) := by
  rw [ShowsFloat, String.toList_append]
  exact shows.imp (List.mem_append_right _) fun exponent =>
    exponent.imp (List.mem_append_right _) (List.mem_append_right _)

theorem ShowsInteger.signed (shows : ShowsInteger text) (negative : Bool) :
    ShowsInteger ((if negative then "-" else "") ++ text) := by
  intro character here
  rw [String.toList_append, List.mem_append] at here
  cases here with
  | inl front =>
    cases negative with
    | true => exact .inl (List.mem_singleton.mp front)
    | false => cases front
  | inr behind => exact shows character behind

namespace Shortest

variable {decimal : Decimal}

theorem positional_showsFloat (places : decimal.exponent < 0) :
    ShowsFloat decimal.positional := by
  rw [Decimal.positional, if_neg (Int.not_le.mpr places)]
  refine .inl ?_
  dsimp only
  split
  · rw [String.toList_ofList]
    exact List.mem_append_right _ List.mem_cons_self
  · rw [String.toList_ofList]
    exact List.mem_cons_of_mem _ List.mem_cons_self

theorem positional_showsInteger (whole : 0 ≤ decimal.exponent) :
    ShowsInteger decimal.positional := by
  intro character here
  rw [Decimal.positional, if_pos whole, String.toList_ofList, List.mem_append] at here
  right
  cases here with
  | inl digit => exact Nat.isDigit_of_mem_toDigits (by decide) (by decide) digit
  | inr zero =>
    rw [List.eq_of_mem_replicate zero]
    decide

end Shortest

namespace Double

variable {value : Double} {size : Magnitude}

/-- An integer of seventeen digits or more, the size from which no decimal place is added. -/
def Magnitude.IsLargeWhole (size : Magnitude) : Prop :=
  size.isIntegral = true ∧ wholeLimit ≤ size.floor

theorem Magnitude.proper_of_floor (below : size.mantissa < Nat.pow 2 53)
    (positive : 0 < size.floor) : Shortest.Proper size := by
  refine ⟨Nat.pos_of_ne_zero fun zero => ?_, below⟩
  rw [Magnitude.floor, zero, Nat.zero_mul, Nat.zero_div, ite_self] at positive
  exact Nat.lt_irrefl 0 positive

theorem Magnitude.proper_of_fractional (below : size.mantissa < Nat.pow 2 53)
    (fractional : size.isIntegral = false) : Shortest.Proper size := by
  refine ⟨Nat.pos_of_ne_zero fun zero => ?_, below⟩
  rw [Magnitude.isIntegral, zero, Nat.zero_mod, beq_self_eq_true, Bool.or_true] at fractional
  cases fractional

/-- A large integer has no mark: its shortest decimal has no places. -/
theorem Magnitude.text_showsInteger (below : size.mantissa < Nat.pow 2 53)
    (large : size.IsLargeWhole) : ShowsInteger size.text := by
  have positive : 0 < size.floor := Nat.lt_of_lt_of_le (Nat.pow_pos (by decide)) large.2
  rw [Magnitude.text, large.1, decide_eq_false (Nat.not_lt.mpr large.2)]
  exact Shortest.positional_showsInteger
    (Shortest.ofMagnitude_exponent_nonneg (Magnitude.proper_of_floor below positive) large.2)

/-- Any other number has one: smaller integers by the place that is added to them, and what is no
integer by the places that it needs. -/
theorem Magnitude.text_showsFloat (below : size.mantissa < Nat.pow 2 53)
    (other : ¬size.IsLargeWhole) : ShowsFloat size.text := by
  rw [Magnitude.text]
  cases integral : size.isIntegral with
  | true =>
    have small : size.floor < wholeLimit := Nat.not_le.mp fun large => other ⟨integral, large⟩
    rw [decide_eq_true small]
    exact ShowsFloat.append (.inl (by decide)) _
  | false =>
    exact Shortest.positional_showsFloat
      (Shortest.ofMagnitude_exponent_neg (Magnitude.proper_of_fractional below integral) integral)

theorem mantissa_lt (value : Double) : value.magnitude.mantissa < Nat.pow 2 53 := by
  have fraction : value.fractionField < Nat.pow 2 52 := Nat.mod_lt _ (Nat.pow_pos (by decide))
  have double : Nat.pow 2 53 = 2 * Nat.pow 2 52 := by decide
  rw [magnitude]
  split
  · show value.fractionField < _
    omega
  · show Nat.pow 2 52 + value.fractionField < _
    omega

theorem text_of_isFinite (finite : value.isFinite = true) :
    value.text = (if value.isNegative then "-" else "") ++ value.magnitude.text := by
  have number : value.isNaN = false := by
    rw [isNaN, beq_eq_false_iff_ne.mpr (bne_iff_ne.mp finite), Bool.false_and]
  rw [text, number, finite]
  rfl

/-- The text of a finite number shows that it is a floating-point number unless it is an integer of
seventeen digits or more, and then it reads as an integer literal. So do the texts of the literals
of expressions and of parse trees. -/
theorem shows_float_iff (value : Double) (finite : value.isFinite = true) :
    (ShowsFloat value.text ↔ ¬value.magnitude.IsLargeWhole)
      ∧ (∀ info, ShowsFloat (Expr.floatLiteral info value).text
          ↔ ¬value.magnitude.IsLargeWhole)
      ∧ (ShowsFloat (ParseTree.Node.float value).text ↔ ¬value.magnitude.IsLargeWhole)
      ∧ (value.magnitude.IsLargeWhole → ShowsInteger value.text) := by
  have plain : value.magnitude.IsLargeWhole → ShowsInteger value.text := by
    intro large
    rw [text_of_isFinite finite]
    exact (Magnitude.text_showsInteger value.mantissa_lt large).signed _
  have shows : ShowsFloat value.text ↔ ¬value.magnitude.IsLargeWhole := by
    refine ⟨fun marked large => (plain large).not_showsFloat marked, fun other => ?_⟩
    rw [text_of_isFinite finite]
    exact (Magnitude.text_showsFloat value.mantissa_lt other).append _
  refine ⟨shows, fun info => ?_, ?_, plain⟩
  · rw [Expr.text]
    exact shows
  · rw [ParseTree.Node.text]
    exact shows

/-- The number `2.5`. -/
theorem shows_float_two_and_a_half :
    (⟨0x4004000000000000⟩ : Double).isFinite = true
      ∧ ShowsFloat (Double.text ⟨0x4004000000000000⟩) := by
  have finite : (⟨0x4004000000000000⟩ : Double).isFinite = true := by decide
  refine ⟨finite, (shows_float_iff _ finite).1.mpr fun large => ?_⟩
  exact absurd large.1 (by decide)

/-- The number `10 ^ 16` is written without a decimal place. -/
theorem ten_to_the_sixteenth_hides_float :
    (⟨0x4341C37937E08000⟩ : Double).isFinite = true
      ∧ ¬ShowsFloat (Double.text ⟨0x4341C37937E08000⟩) := by
  have finite : (⟨0x4341C37937E08000⟩ : Double).isFinite = true := by decide
  refine ⟨finite, ShowsInteger.not_showsFloat ?_⟩
  rw [text_of_isFinite finite]
  refine (Magnitude.text_showsInteger (mantissa_lt _) ⟨by decide, ?_⟩).signed _
  decide

end Double

end Shading
