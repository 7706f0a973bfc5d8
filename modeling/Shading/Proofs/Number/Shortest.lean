import Mathlib.Tactic.Ring
import Shading.Number.Shortest

/-!
The search for the shortest decimal of a double finds one. On a grid as fine as the seventeenth
digit the multiples next to the number are less than its interval apart, so one of them lies in the
interval. What is found rounds to the number; it therefore has decimal places if the number is no
integer, and for an integer of seventeen digits or more it has none. Main statements:
`Shortest.ofMagnitude_rounds`, `Shortest.ofMagnitude_exponent_neg` and
`Shortest.ofMagnitude_exponent_nonneg`.
-/

namespace Shading.Shortest

variable {interval : Interval} {size : Double.Magnitude} {found : Decimal}
  {value scale point count : Nat} {exponent : Int}

/-! ## Intervals -/

/-- An interval that has the number inside and is wide enough for sixteen digits. -/
structure Interval.Wide (interval : Interval) : Prop where
  scale_pos : 0 < interval.scale
  low_lt : interval.low < interval.value
  lt_high : interval.value < interval.high
  wide : interval.value < Nat.pow 10 16 * (interval.high - interval.low)

theorem Interval.holds_of_lt (above : interval.low < point) (below : point < interval.high) :
    interval.holds point = true := by
  rw [holds]
  split
  · exact Bool.and_eq_true_iff.mpr ⟨decide_eq_true above.le, decide_eq_true below.le⟩
  · exact Bool.and_eq_true_iff.mpr ⟨decide_eq_true above, decide_eq_true below⟩

theorem Interval.le_of_holds (inside : interval.holds point = true) :
    interval.low ≤ point ∧ point ≤ interval.high := by
  rw [holds] at inside
  split at inside
  · exact (Bool.and_eq_true_iff.mp inside).imp of_decide_eq_true of_decide_eq_true
  · exact (Bool.and_eq_true_iff.mp inside).imp
      (fun above => (of_decide_eq_true above).le) (fun below => (of_decide_eq_true below).le)

theorem Interval.Wide.rescale (wide : interval.Wide) (exponent : Int) :
    (interval.rescale exponent).low < (interval.rescale exponent).value
      ∧ (interval.rescale exponent).value < (interval.rescale exponent).high
      ∧ 0 < (interval.rescale exponent).scale :=
  have up : 0 < Nat.pow 10 (-exponent).toNat := Nat.pow_pos (by decide)
  ⟨Nat.mul_lt_mul_of_pos_right wide.low_lt up, Nat.mul_lt_mul_of_pos_right wide.lt_high up,
    Nat.mul_pos wide.scale_pos (Nat.pow_pos (by decide))⟩

/-! ## One grid -/

/-- A decimal on the grid of its exponent rounds to the number. -/
def Rounds (interval : Interval) (decimal : Decimal) : Prop :=
  let moved := interval.rescale decimal.exponent
  moved.holds (decimal.digits * moved.scale) = true

theorem onGrid?_eq_some (answer : onGrid? interval exponent = some found) :
    found.exponent = exponent ∧ Rounds interval found := by
  simp only [onGrid?] at answer
  split at answer
  case isTrue taken =>
    cases answer
    exact ⟨rfl, (Bool.and_eq_true_iff.mp taken).1⟩
  case isFalse =>
    split at answer
    case isTrue taken =>
      cases answer
      exact ⟨rfl, taken⟩
    case isFalse => cases answer

/-- A grid finer than the interval is wide has a multiple that rounds to the number. -/
theorem onGrid?_isSome (wide : interval.Wide)
    (fine : (interval.rescale exponent).low + (interval.rescale exponent).scale
      < (interval.rescale exponent).high) :
    (onGrid? interval exponent).isSome = true := by
  obtain ⟨low_lt, lt_high, scale_pos⟩ := wide.rescale exponent
  simp only [onGrid?]
  generalize interval.rescale exponent = moved at *
  have whole := Nat.div_add_mod moved.value moved.scale
  have rest := Nat.mod_lt moved.value scale_pos
  rw [Nat.mul_comm] at whole
  have next : (moved.value / moved.scale + 1) * moved.scale
      = moved.value / moved.scale * moved.scale + moved.scale := Nat.succ_mul _ _
  by_cases below : moved.low < moved.value / moved.scale * moved.scale
  · have down := Interval.holds_of_lt below (by omega)
    rw [down]
    cases moved.holds ((moved.value / moved.scale + 1) * moved.scale) with
    | false => rfl
    | true => split <;> rfl
  · have up : moved.holds ((moved.value / moved.scale + 1) * moved.scale) = true :=
      Interval.holds_of_lt (by omega) (by omega)
    rw [up]
    split <;> rfl

/-! ## The search -/

theorem search_eq_some (answer : search interval count exponent = some found) :
    exponent - count < found.exponent ∧ found.exponent ≤ exponent ∧ Rounds interval found := by
  induction count generalizing exponent with
  | zero => cases answer
  | succ count earlier =>
    rw [search] at answer
    split at answer
    case h_1 here =>
      cases answer
      obtain ⟨grid, rounds⟩ := onGrid?_eq_some here
      exact ⟨by omega, by omega, rounds⟩
    case h_2 =>
      obtain ⟨above, below, rounds⟩ := earlier answer
      exact ⟨by omega, by omega, rounds⟩

theorem search_isSome (fine : (onGrid? interval (exponent - count)).isSome = true) :
    (search interval (count + 1) exponent).isSome = true := by
  induction count generalizing exponent with
  | zero =>
    obtain ⟨found, here⟩ := Option.isSome_iff_exists.mp fine
    rw [Int.natCast_zero, Int.sub_zero] at here
    rw [search, here]
    rfl
  | succ count earlier =>
    rw [search]
    split
    case h_1 => rfl
    case h_2 =>
      refine earlier ?_
      rwa [Int.sub_sub, Int.add_comm, ← Int.natCast_succ]

/-! ## The leading digit -/

theorem pow_length_toDigits_le (positive : 0 < value) :
    Nat.pow 10 ((Nat.toDigits 10 value).length - 1) ≤ value := by
  have nonempty : 0 < (Nat.toDigits 10 value).length := Nat.length_toDigits_pos
  by_cases single : (Nat.toDigits 10 value).length - 1 = 0
  · rw [single]
    exact positive
  · refine Nat.not_lt.mp fun less => ?_
    have := (Nat.length_toDigits_le_iff (by decide) (Nat.pos_of_ne_zero single)).mpr less
    omega

theorem lt_pow_length_toDigits (value : Nat) :
    value < Nat.pow 10 (Nat.toDigits 10 value).length :=
  (Nat.length_toDigits_le_iff (by decide) Nat.length_toDigits_pos).mp le_rfl

/-- The first digit is no zero: the number reaches the power of ten below its leading exponent. -/
theorem leadingExponent_le (valuePos : 0 < value) (scalePos : 0 < scale) :
    scale * Nat.pow 10 (leadingExponent value scale - 1).toNat
      ≤ value * Nat.pow 10 (1 - leadingExponent value scale).toNat := by
  rw [leadingExponent]
  split
  case isTrue reached =>
    have digits : 0 < (Nat.toDigits 10 (value / scale)).length := Nat.length_toDigits_pos
    have first := pow_length_toDigits_le (Nat.div_pos reached scalePos)
    generalize (Nat.toDigits 10 (value / scale)).length = length at *
    rw [show ((length : Int) - 1).toNat = length - 1 by omega,
      show (1 - (length : Int)).toNat = 0 by omega]
    calc scale * Nat.pow 10 (length - 1)
        ≤ scale * (value / scale) := Nat.mul_le_mul_left _ first
      _ ≤ value := Nat.mul_div_le _ _
      _ = value * Nat.pow 10 0 := (Nat.mul_one _).symm
  case isFalse =>
    have digits : 0 < (Nat.toDigits 10 (scale / value)).length := Nat.length_toDigits_pos
    have last := lt_pow_length_toDigits (scale / value)
    generalize (Nat.toDigits 10 (scale / value)).length = length at *
    by_cases beyond : value * Nat.pow 10 (length - 1) < scale
    · rw [if_pos beyond, show (-((length - 1 : Nat) : Int) - 1).toNat = 0 by omega,
        show (1 - -((length - 1 : Nat) : Int)).toNat = length by omega]
      calc scale * Nat.pow 10 0
          = scale := Nat.mul_one _
        _ ≤ value * (scale / value + 1) := (Nat.lt_mul_div_succ _ valuePos).le
        _ ≤ value * Nat.pow 10 length := Nat.mul_le_mul_left _ last
    · rw [if_neg beyond, show (1 - ((length - 1 : Nat) : Int) - 1).toNat = 0 by omega,
        show (1 - (1 - ((length - 1 : Nat) : Int))).toNat = length - 1 by omega]
      exact (Nat.mul_one _).trans_le (Nat.not_lt.mp beyond)

/-- A bound by a power of ten moves along with the decimal point. -/
theorem pow_le_of_moved (shift : Nat)
    (bound : scale * Nat.pow 10 exponent.toNat ≤ value * Nat.pow 10 (-exponent).toNat) :
    scale * Nat.pow 10 (exponent - shift).toNat * Nat.pow 10 shift
      ≤ value * Nat.pow 10 (-(exponent - shift)).toNat := by
  have apart : (exponent - shift).toNat + shift + (-exponent).toNat
      = exponent.toNat + (-(exponent - shift)).toNat := by omega
  have power (n : Nat) : Nat.pow 10 n = 10 ^ n := rfl
  simp only [power] at *
  refine Nat.le_of_mul_le_mul_right (c := 10 ^ (-exponent).toNat) ?_ (Nat.pow_pos (by decide))
  calc scale * 10 ^ (exponent - shift).toNat * 10 ^ shift * 10 ^ (-exponent).toNat
      = scale * 10 ^ exponent.toNat * 10 ^ (-(exponent - shift)).toNat := by
        rw [Nat.mul_assoc, Nat.mul_assoc, ← Nat.pow_add, ← Nat.pow_add, Nat.mul_assoc,
          ← Nat.pow_add, ← apart, Nat.add_assoc]
    _ ≤ value * 10 ^ (-exponent).toNat * 10 ^ (-(exponent - shift)).toNat :=
        Nat.mul_le_mul_right _ bound
    _ = value * 10 ^ (-(exponent - shift)).toNat * 10 ^ (-exponent).toNat :=
        Nat.mul_right_comm _ _ _

/-- The grid of the seventeenth digit is finer than a wide interval. -/
theorem Interval.Wide.fine (wide : interval.Wide)
    (grid : exponent = leadingExponent interval.value interval.scale - 17) :
    (interval.rescale exponent).low + (interval.rescale exponent).scale
      < (interval.rescale exponent).high := by
  have valuePos : 0 < interval.value := Nat.zero_lt_of_lt wide.low_lt
  have first := leadingExponent_le valuePos wide.scale_pos
  rw [show (1 : Int) - leadingExponent interval.value interval.scale
    = -(leadingExponent interval.value interval.scale - 1) by omega] at first
  have step := pow_le_of_moved 16 first
  rw [show leadingExponent interval.value interval.scale - 1 - (16 : Nat) = exponent by omega]
    at step
  have up : 0 < Nat.pow 10 (-exponent).toNat := Nat.pow_pos (by decide)
  have width := Nat.mul_lt_mul_of_pos_right wide.wide up
  have narrower : interval.scale * Nat.pow 10 exponent.toNat
      < (interval.high - interval.low) * Nat.pow 10 (-exponent).toNat := by
    refine Nat.lt_of_mul_lt_mul_right (a := Nat.pow 10 16) ?_
    calc interval.scale * Nat.pow 10 exponent.toNat * Nat.pow 10 16
        ≤ interval.value * Nat.pow 10 (-exponent).toNat := step
      _ < Nat.pow 10 16 * (interval.high - interval.low) * Nat.pow 10 (-exponent).toNat := width
      _ = (interval.high - interval.low) * Nat.pow 10 (-exponent).toNat * Nat.pow 10 16 := by ring
  rw [Nat.sub_mul] at narrower
  show interval.low * Nat.pow 10 (-exponent).toNat + interval.scale * Nat.pow 10 exponent.toNat
    < interval.high * Nat.pow 10 (-exponent).toNat
  omega

/-! ## Doubles -/

/-- A number with the mantissa of a double that is not zero. -/
structure Proper (size : Double.Magnitude) : Prop where
  mantissa_pos : 0 < size.mantissa
  mantissa_lt : size.mantissa < Nat.pow 2 53

theorem Proper.wide (proper : Proper size) (least : Int) :
    (Interval.ofMagnitude 53 least size).Wide := by
  obtain ⟨positive, below⟩ := proper
  have up : 0 < Nat.pow 2 size.exponent.toNat := Nat.pow_pos (by decide)
  have limits : Nat.pow 2 53 = 9007199254740992 ∧ Nat.pow 2 (53 - 1) = 4503599627370496
      ∧ Nat.pow 10 16 = 10000000000000000 := by decide
  rw [limits.1] at below
  refine ⟨Nat.mul_pos (by decide) (Nat.pow_pos (by decide)), ?_, ?_, ?_⟩
  · refine Nat.mul_lt_mul_of_pos_right ?_ up
    split <;> omega
  · exact Nat.mul_lt_mul_of_pos_right (by omega) up
  · show _ < _ * ((4 * size.mantissa + 2) * Nat.pow 2 size.exponent.toNat - _)
    rw [Interval.ofMagnitude, ← Nat.sub_mul, ← Nat.mul_assoc]
    refine Nat.mul_lt_mul_of_pos_right ?_ up
    rw [limits.2.1, limits.2.2]
    split <;> omega

theorem Proper.search (proper : Proper size) :
    search (Interval.ofMagnitude 53 (-1074) size) 18
      (leadingExponent (Interval.ofMagnitude 53 (-1074) size).value
        (Interval.ofMagnitude 53 (-1074) size).scale) = some (ofMagnitude size) := by
  have wide := proper.wide (-1074)
  have finds : (Shortest.search _ (17 + 1) _).isSome = true :=
    search_isSome (onGrid?_isSome wide (wide.fine rfl))
  obtain ⟨found, answer⟩ := Option.isSome_iff_exists.mp finds
  rw [ofMagnitude, answer]
  rfl

/-- The decimal of a double rounds to the double. -/
theorem ofMagnitude_rounds (proper : Proper size) :
    Rounds (Interval.ofMagnitude 53 (-1074) size) (ofMagnitude size) :=
  (search_eq_some proper.search).2.2

/-- A point of a grid of integers that rounds to a number is the number: the ends of the interval
are less than half a unit of the mantissa away. -/
theorem isIntegral_of_rounds (rounds : Rounds (Interval.ofMagnitude 53 (-1074) size) found)
    (whole : 0 ≤ found.exponent) : size.isIntegral = true := by
  rw [Double.Magnitude.isIntegral, Bool.or_eq_true_iff, beq_iff_eq, decide_eq_true_iff]
  by_cases scaled : 0 ≤ size.exponent
  · exact .inl scaled
  · right
    obtain ⟨above, below⟩ := Interval.le_of_holds rounds
    have flat : (-found.exponent).toNat = 0 := by omega
    have unit : size.exponent.toNat = 0 := by omega
    simp only [Interval.rescale, Interval.ofMagnitude, flat, unit] at above below
    generalize Nat.pow 2 (-size.exponent).toNat = fraction at *
    have point : found.digits * (4 * fraction * Nat.pow 10 found.exponent.toNat)
        = 4 * (fraction * (found.digits * Nat.pow 10 found.exponent.toNat)) := by ring
    rw [point] at above below
    have same : size.mantissa
        = fraction * (found.digits * Nat.pow 10 found.exponent.toNat) := by
      have one : Nat.pow 2 0 = 1 := rfl
      rw [one, Nat.mul_one, Nat.mul_one] at above below
      split at above <;> omega
    rw [same, Nat.mul_mod_right]

/-- What is no integer is written with decimal places. -/
theorem ofMagnitude_exponent_neg (proper : Proper size) (fractional : size.isIntegral = false) :
    (ofMagnitude size).exponent < 0 := by
  refine Int.not_le.mp fun whole => ?_
  rw [isIntegral_of_rounds (ofMagnitude_rounds proper) whole] at fractional
  cases fractional

theorem Interval.value_div_scale (precision : Nat) (least : Int) (size : Double.Magnitude) :
    (Interval.ofMagnitude precision least size).value
      / (Interval.ofMagnitude precision least size).scale = size.floor := by
  simp only [Interval.ofMagnitude]
  rw [Double.Magnitude.floor, Nat.mul_assoc, Nat.mul_div_mul_left _ _ (by decide)]
  split
  case isTrue scaled =>
    rw [show (-size.exponent).toNat = 0 by omega]
    exact Nat.div_one _
  case isFalse fractional =>
    rw [show size.exponent.toNat = 0 by omega]
    exact congrArg (· / _) (Nat.mul_one _)

/-- A number of seventeen digits or more before the point is written without decimal places. -/
theorem ofMagnitude_exponent_nonneg (proper : Proper size)
    (large : Nat.pow 10 16 ≤ size.floor) : 0 ≤ (ofMagnitude size).exponent := by
  have bounds := search_eq_some proper.search
  have digits : 16 < (Nat.toDigits 10 size.floor).length := by
    refine Nat.not_le.mp fun few => Nat.not_lt.mpr large ?_
    exact (Nat.length_toDigits_le_iff (by decide) (by decide)).mp few
  have floor := Interval.value_div_scale 53 (-1074) size
  have scalePos := (proper.wide (-1074)).scale_pos
  have reached : (Interval.ofMagnitude 53 (-1074) size).scale
      ≤ (Interval.ofMagnitude 53 (-1074) size).value := by
    refine Nat.not_lt.mp fun less => ?_
    rw [Nat.div_eq_of_lt less] at floor
    rw [← floor] at large
    exact absurd large (by decide)
  rw [leadingExponent, if_pos reached, floor] at bounds
  omega

end Shading.Shortest
