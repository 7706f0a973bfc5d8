/-!
Bytes and numbers as hexadecimal text. Main statement: `decode?_encode`, written bytes read back.
-/

namespace Shading.Hex

/-- The digit for a number below sixteen. -/
def digit (value : Nat) : Char :=
  if value < 10 then Char.ofNat ('0'.toNat + value) else Char.ofNat ('a'.toNat + value - 10)

/-- The number that a digit stands for; letters may be of either case. -/
def digit? (c : Char) : Option Nat :=
  if '0' ≤ c ∧ c ≤ '9' then some (c.toNat - '0'.toNat)
  else if 'a' ≤ c ∧ c ≤ 'f' then some (c.toNat - 'a'.toNat + 10)
  else if 'A' ≤ c ∧ c ≤ 'F' then some (c.toNat - 'A'.toNat + 10)
  else none

/-- The two digits of each byte, the high half first. -/
def encode : List UInt8 → List Char
  | [] => []
  | byte :: rest => digit (byte.toNat / 16) :: digit (byte.toNat % 16) :: encode rest

/-- The bytes that pairs of digits stand for. -/
def decode? : List Char → Option (List UInt8)
  | [] => some []
  | high :: low :: rest => do
    let byte := UInt8.ofNat (16 * (← digit? high) + (← digit? low))
    return byte :: (← decode? rest)
  | [_] => none

/-- The number that digits stand for, the highest one first. -/
def number? (digits : List Char) : Option Nat := do
  return (← digits.mapM digit?).foldl (fun value digit => 16 * value + digit) 0

/-- A number as text with at least so many digits. -/
def padded (count value : Nat) : String :=
  let digits := (Nat.toDigits 16 value).length
  String.ofList (List.replicate (count - digits) '0' ++ Nat.toDigits 16 value)

theorem digit?_digit (value : Fin 16) : digit? (digit value) = some value.val := by
  revert value
  decide

theorem decode?_encode (bytes : List UInt8) : decode? (encode bytes) = some bytes := by
  induction bytes with
  | nil => rfl
  | cons byte rest ih =>
    have bound := byte.toNat_lt
    have high := digit?_digit ⟨byte.toNat / 16, by omega⟩
    have low := digit?_digit ⟨byte.toNat % 16, by omega⟩
    have whole : 16 * (byte.toNat / 16) + byte.toNat % 16 = byte.toNat := by omega
    simp only [encode, decode?, high, low, ih, whole, Option.bind_eq_bind, Option.bind_some,
      UInt8.ofNat_toNat]
    rfl

end Shading.Hex
