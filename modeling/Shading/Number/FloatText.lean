import Shading.Number.Shortest

/-!
The text of a floating-point literal: the fewest digits that read back as the same number, in
positional notation. Integers below 10^16 keep one decimal place, so that they still read as
floating-point numbers.
-/

namespace Shading.Double

/-- The magnitude below which an integer is written with a decimal place. -/
def wholeLimit : Nat := Nat.pow 10 16

def Magnitude.text (size : Magnitude) : String :=
  if size.isIntegral && size.floor < wholeLimit then s!"{size.floor}.0"
  else (Shortest.ofMagnitude size).positional

/-- The text of a number. What is not a number has no sign. -/
def text (value : Double) : String :=
  if value.isNaN then "NaN"
  else
    (if value.isNegative then "-" else "")
      ++ (if value.isFinite then value.magnitude.text else "inf")

end Shading.Double
