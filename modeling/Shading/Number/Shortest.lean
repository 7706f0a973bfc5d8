import Shading.Number.Double

/-!
The shortest decimal that stands for a binary number. A number `mantissa * 2 ^ exponent` stands for
every real that rounds to it; among the decimals there, `shortest?` takes one with the fewest
digits, and of two such the nearer. All comparisons are exact: the number, the ends of its interval
and the points of each decimal grid are brought to one denominator.
-/

namespace Shading.Shortest

/-- A decimal `digits * 10 ^ exponent`. -/
structure Decimal where
  digits : Nat
  exponent : Int
  deriving DecidableEq, Repr

/-- The reals that round to a binary number, with the number itself between them: all three as
numerators over `scale`. The ends belong to the interval iff `closed`. -/
structure Interval where
  low : Nat
  value : Nat
  high : Nat
  scale : Nat
  closed : Bool
  deriving DecidableEq, Repr

/-- The interval of a magnitude of `precision` bits at most, whose least exponent is `least`. Below
a power of two the next number is only half as far away. -/
def Interval.ofMagnitude (precision : Nat) (least : Int) (size : Double.Magnitude) : Interval :=
  let up := Nat.pow 2 size.exponent.toNat
  let scale := 4 * Nat.pow 2 (-size.exponent).toNat
  let narrow := size.mantissa = Nat.pow 2 (precision - 1) ∧ least < size.exponent
  { low := (4 * size.mantissa - if narrow then 1 else 2) * up
    value := 4 * size.mantissa * up
    high := (4 * size.mantissa + 2) * up
    scale
    closed := size.mantissa % 2 == 0 }

/-- Whether `point / scale` rounds to the number, for a point over the interval's own scale. -/
def Interval.holds (interval : Interval) (point : Nat) : Bool :=
  if interval.closed then interval.low ≤ point && point ≤ interval.high
  else interval.low < point && point < interval.high

/-- The number as `numerator / denominator` after moving the decimal point so that the grid of
`10 ^ exponent` becomes the grid of the integers. -/
def Interval.rescale (interval : Interval) (exponent : Int) : Interval :=
  let up := Nat.pow 10 (-exponent).toNat
  { interval with
    low := interval.low * up
    value := interval.value * up
    high := interval.high * up
    scale := interval.scale * Nat.pow 10 exponent.toNat }

/-- The multiple of `10 ^ exponent` next to the number that rounds to it. Of two candidates the
nearer is taken, and the greater if they are equally near. -/
def onGrid? (interval : Interval) (exponent : Int) : Option Decimal :=
  let moved := interval.rescale exponent
  let below := moved.value / moved.scale
  let down := moved.holds (below * moved.scale)
  let up := moved.holds ((below + 1) * moved.scale)
  let nearer := 2 * (moved.value % moved.scale) < moved.scale
  if down && (!up || nearer) then some ⟨below, exponent⟩
  else if up then some ⟨below + 1, exponent⟩
  else none

/-- Tries finer and finer grids, `count` of them, from `10 ^ exponent` on. -/
def search (interval : Interval) : Nat → Int → Option Decimal
  | 0, _ => none
  | count + 1, exponent =>
    match onGrid? interval exponent with
    | some found => some found
    | none => search interval count (exponent - 1)

/-- How many decimal digits the integer part of a quotient has, or below one, how many zeros follow
the point, counted negatively: the least `k` with `value / scale < 10 ^ k`. -/
def leadingExponent (value scale : Nat) : Int :=
  if scale ≤ value then ((Nat.toDigits 10 (value / scale)).length : Int)
  else
    let zeros := (Nat.toDigits 10 (scale / value)).length - 1
    if value * Nat.pow 10 zeros < scale then -(zeros : Int) else 1 - (zeros : Int)

/-- The shortest decimal for a positive magnitude of a double. The first grid has no point below
the number but zero, and its power of ten is found there if it rounds to the number; seventeen
digits are always enough. -/
def ofMagnitude (size : Double.Magnitude) : Decimal :=
  let interval := Interval.ofMagnitude 53 (-1074) size
  (search interval 18 (leadingExponent interval.value interval.scale)).getD ⟨0, 0⟩

/-- The digits of a decimal in positional notation. -/
def Decimal.positional (decimal : Decimal) : String :=
  let digits := Nat.toDigits 10 decimal.digits
  if 0 ≤ decimal.exponent then
    String.ofList (digits ++ List.replicate decimal.exponent.toNat '0')
  else
    let places := (-decimal.exponent).toNat
    if places < digits.length then
      let whole := digits.length - places
      String.ofList (digits.take whole ++ '.' :: digits.drop whole)
    else
      String.ofList ('0' :: '.' :: List.replicate (places - digits.length) '0' ++ digits)

end Shading.Shortest
