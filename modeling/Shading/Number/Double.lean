/-!
Double-precision numbers as bit patterns, with exact arithmetic on the numbers they stand for. A
finite double is a sign and a product `mantissa * 2 ^ exponent`; conversions to and from integers
and from single precision are computed on that form.
-/

namespace Shading

/-- A double-precision number, known by its bits. -/
structure Double where
  bits : UInt64
  deriving DecidableEq, Repr

namespace Double

/-- A finite double without its sign: `mantissa * 2 ^ exponent`. -/
structure Magnitude where
  mantissa : Nat
  exponent : Int
  deriving DecidableEq, Repr

def isNegative (value : Double) : Bool :=
  Nat.pow 2 63 ≤ value.bits.toNat

/-- The biased exponent, which is 2047 for infinities and for what is not a number. -/
def exponentField (value : Double) : Nat :=
  value.bits.toNat / Nat.pow 2 52 % Nat.pow 2 11

def fractionField (value : Double) : Nat :=
  value.bits.toNat % Nat.pow 2 52

def isFinite (value : Double) : Bool :=
  value.exponentField != 2047

def isNaN (value : Double) : Bool :=
  value.exponentField == 2047 && value.fractionField != 0

/-- The number behind a finite double. Exponent field zero holds zero and the numbers too small
for a leading one bit. -/
def magnitude (value : Double) : Magnitude :=
  if value.exponentField = 0 then ⟨value.fractionField, -1074⟩
  else ⟨Nat.pow 2 52 + value.fractionField, (value.exponentField : Int) - 1075⟩

/-- Whether a value differs from zero; what is not a number does. -/
def isNonzero (value : Double) : Bool :=
  value.bits.toNat % Nat.pow 2 63 != 0

def Magnitude.floor (size : Magnitude) : Nat :=
  if 0 ≤ size.exponent then size.mantissa * Nat.pow 2 size.exponent.toNat
  else size.mantissa / Nat.pow 2 (-size.exponent).toNat

/-- Whether a magnitude is an integer. -/
def Magnitude.isIntegral (size : Magnitude) : Bool :=
  0 ≤ size.exponent || size.mantissa % Nat.pow 2 (-size.exponent).toNat == 0

/-- A quotient rounded to the nearest integer, a half to the even neighbour. -/
def roundHalfEven (numerator denominator : Nat) : Nat :=
  let quotient := numerator / denominator
  let twice := 2 * (numerator % denominator)
  if twice < denominator then quotient
  else if denominator < twice then quotient + 1
  else quotient + quotient % 2

/-- Puts the sign bit in front of the bits of a magnitude. -/
def signed (negative : Bool) (size : Nat) : Double :=
  ⟨UInt64.ofNat (if negative then Nat.pow 2 63 + size else size)⟩

/-- The bits of the double nearest to a natural number below `2 ^ 1023`. A mantissa that rounds up
to the next power of two carries into the exponent, which is what it should do. -/
def bitsOfNat (value : Nat) : Nat :=
  if value = 0 then 0
  else
    let log := value.log2
    if log ≤ 52 then (log + 1022) * Nat.pow 2 52 + value * Nat.pow 2 (52 - log)
    else (log + 1022) * Nat.pow 2 52 + roundHalfEven value (Nat.pow 2 (log - 52))

def ofInt64 (value : Int64) : Double :=
  signed (value < 0) (bitsOfNat value.toInt.natAbs)

/-- One for true, zero for false. -/
def ofBool (value : Bool) : Double :=
  ofInt64 (if value then 1 else 0)

/-- The integer nearest to a double toward zero, the least or greatest one if it is out of range,
and zero for what is not a number. -/
def toInt64 (value : Double) : Int64 :=
  if value.isNaN then 0
  else
    let size := if value.isFinite then value.magnitude.floor else Nat.pow 2 63
    if value.isNegative then Int64.ofInt (-(min size (Nat.pow 2 63) : Nat))
    else Int64.ofInt (min size (Nat.pow 2 63 - 1) : Nat)

/-- The double with the value of a single-precision number, given by its bits. -/
def ofSingleBits (bits : UInt32) : Double :=
  let negative := Nat.pow 2 31 ≤ bits.toNat
  let field := bits.toNat / Nat.pow 2 23 % Nat.pow 2 8
  let fraction := bits.toNat % Nat.pow 2 23
  if field = 255 then
    signed negative (2047 * Nat.pow 2 52 + fraction * Nat.pow 2 29)
  else if field = 0 then
    if fraction = 0 then signed negative 0
    else
      let log := fraction.log2
      signed negative ((log + 873) * Nat.pow 2 52 + fraction * Nat.pow 2 (52 - log))
  else
    signed negative ((field + 896) * Nat.pow 2 52 + fraction * Nat.pow 2 29)

end Double

end Shading
