import InventoryQuery.Number.Shortest

/-!
# The text of numbers

How numbers are written in JSON: integers in decimal, and binary numbers by their shortest
decimal, positionally when the decimal point falls from five places before the digits to sixteen
places after their start, and with a signed exponent otherwise.
-/

namespace InventoryQuery

/-- The decimal digits of a natural number. -/
def decimalDigits (n : Nat) : List Char := Nat.toDigits 10 n

/-- An integer in decimal, with a sign when it is negative. -/
def decimalInteger (n : Int) : List Char :=
  if n < 0 then '-' :: decimalDigits n.natAbs else decimalDigits n.natAbs

/-- Where binary numbers are written positionally: the decimal point stands at most `leastZeros`
zeros before the first digit and at most `mostPlaces` places after it. -/
structure PositionalRange where
  leastZeros : Nat
  mostPlaces : Nat

/-- In JSON, `0.00001` and `1000000000000000.0` are written positionally, `1e-6` and `1e+16` not. -/
def jsonPositional : PositionalRange := ⟨4, 16⟩

namespace Decimal

/-- The digits with a decimal point, and a zero wherever a side of the point would be empty; or
one digit before the point and a signed exponent of ten. -/
def layout (range : PositionalRange) (d : Decimal) : List Char :=
  let digits := decimalDigits d.digits
  let point : Int := digits.length + d.exponent
  if 0 ≤ d.exponent && point ≤ range.mostPlaces then
    digits ++ List.replicate d.exponent.toNat '0' ++ ['.', '0']
  else if 0 < point && point ≤ range.mostPlaces then
    digits.take point.toNat ++ '.' :: digits.drop point.toNat
  else if -(range.leastZeros : Int) ≤ point && point ≤ 0 then
    '0' :: '.' :: (List.replicate (-point).toNat '0' ++ digits)
  else
    let exponent := point - 1
    let sign := if exponent < 0 then '-' else '+'
    let mantissa :=
      match digits with
      | [] => []
      | [only] => [only]
      | first :: rest => first :: '.' :: rest
    mantissa ++ 'e' :: sign :: decimalDigits exponent.natAbs

end Decimal

/-- A binary number in JSON. -/
def Binary64.toText (x : Binary64) : List Char :=
  let sign := if x.negative then ['-'] else []
  sign ++ if x.significand == 0 then ['0', '.', '0'] else x.shortest.layout jsonPositional

end InventoryQuery
