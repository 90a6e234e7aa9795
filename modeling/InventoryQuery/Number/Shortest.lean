import InventoryQuery.Number.Binary64

/-!
# The shortest decimal of a binary number

The fewest decimal digits that read back as a given binary number. A decimal reads back when it
lies in the interval of reals that round to the number; the ends of the interval belong to it
exactly when the significand is even. Of the decimals with a given number of digits only the two
neighbours of the number can be nearest to it, so testing these two for one digit, two digits and
so on finds the shortest decimal, and of two that fit the nearer one.
-/

namespace InventoryQuery

/-- The decimal `digits * 10 ^ exponent`. -/
structure Decimal where
  digits : Nat
  exponent : Int
  deriving DecidableEq, Repr

namespace Decimal

/-- `num / den` times `10 ^ exponent`, as a fraction. -/
def scaleByTen (num den : Nat) (exponent : Int) : Nat × Nat :=
  if exponent ≥ 0 then (num * Nat.pow 10 exponent.toNat, den)
  else (num, den * Nat.pow 10 (-exponent).toNat)

/-- The decimal without trailing zeros in its digits. -/
def strip (fuel : Nat) (d : Decimal) : Decimal :=
  match fuel with
  | 0 => d
  | fuel + 1 => if d.digits % 10 == 0 then strip fuel ⟨d.digits / 10, d.exponent + 1⟩ else d

/-- The power of ten at or below `num / den`: the greatest `k` with `10 ^ k ≤ num / den`. -/
def magnitude (num den : Nat) : Int :=
  let guess : Int := ((num.log2 : Int) - den.log2 - 1) * 30103 / 100000
  let reaches (k : Int) : Bool :=
    let (n, d) := scaleByTen num den (-k)
    d ≤ n
  if reaches (guess + 2) then guess + 2
  else if reaches (guess + 1) then guess + 1
  else if reaches guess then guess
  else guess - 1

end Decimal

namespace Binary64

/-- The ends of the interval that rounds to the number, and the number itself, as multiples of
`2 ^ (exponent - 2)`. The lower end is nearer when the significand is a power of two. -/
def interval (x : Binary64) : Nat × Nat × Nat :=
  let low :=
    if x.significand == Nat.pow 2 52 && x.exponent > minExponent then 4 * x.significand - 1
    else 4 * x.significand - 2
  (low, 4 * x.significand, 4 * x.significand + 2)

/-- The decimal of `count` digits next to the number that rounds to it, if there is one. -/
def decimalOfLength? (x : Binary64) (magnitude : Int) (count : Nat) : Option Decimal :=
  let (low, middle, high) := x.interval
  let closed := x.significand % 2 == 0
  let step : Int := magnitude - count + 1
  let (unit, den) := scaled 1 1 (2 - x.exponent)
  let (scaleNum, scaleDen) := Decimal.scaleByTen unit den (-step)
  let below := middle * scaleNum / scaleDen
  let fits (d : Nat) : Bool :=
    if closed then low * scaleNum ≤ d * scaleDen && d * scaleDen ≤ high * scaleNum
    else low * scaleNum < d * scaleDen && d * scaleDen < high * scaleNum
  let gapBelow := middle * scaleNum - below * scaleDen
  let gapAbove := (below + 1) * scaleDen - middle * scaleNum
  match fits below, fits (below + 1) with
  | true, true =>
    if gapBelow < gapAbove || (gapBelow == gapAbove && below % 2 == 0) then some ⟨below, step⟩
    else some ⟨below + 1, step⟩
  | true, false => some ⟨below, step⟩
  | false, true => some ⟨below + 1, step⟩
  | false, false => none

/-- The shortest decimal that reads back as the magnitude of the number. -/
def shortest (x : Binary64) : Decimal :=
  if x.significand == 0 then ⟨0, 0⟩
  else
    let (num, den) := x.ratio
    let magnitude := Decimal.magnitude num den
    match (List.range 17).findSome? (fun n => x.decimalOfLength? magnitude (n + 1)) with
    | some d => d.strip 20
    | none => ⟨0, 0⟩

end Binary64

end InventoryQuery
