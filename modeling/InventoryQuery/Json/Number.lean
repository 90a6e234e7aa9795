import InventoryQuery.Json.Basic

/-!
# The value of a number

How the digits of a number make a value. An integer between `-2 ^ 63` and `2 ^ 64 - 1` is kept as
it is. Any other number is binary: its leading digits are gathered into a significand of 64 bits,
the digits that no longer fit count for their place alone, and the significand is then multiplied
or divided by a power of ten, each step rounded.
-/

namespace InventoryQuery.Json

/-- The greatest significand. -/
def maxSignificand : Nat := Nat.pow 2 64 - 1

/-- The value of a decimal digit. -/
def digitValue (c : Char) : Nat := c.toNat - 48

/-- The significand of the digits before the point, and how many of the digits no longer fit. -/
def gather (significand : Nat) : List Char → Nat × Nat
  | [] => (significand, 0)
  | d :: digits =>
    let next := 10 * significand + digitValue d
    if next > maxSignificand then (significand, digits.length + 1) else gather next digits

/-- The significand with the digits after the point added, and how many of them fit. -/
def gatherFraction (significand : Nat) : List Char → Nat × Nat
  | [] => (significand, 0)
  | d :: digits =>
    let next := 10 * significand + digitValue d
    if next > maxSignificand then (significand, 0)
    else
      let (total, used) := gatherFraction next digits
      (total, used + 1)

/-- The binary number nearest to a power of ten of at most 308 places. -/
def powerOfTen (exponent : Nat) : Binary64 :=
  (Binary64.ofNat? (Nat.pow 10 exponent)).getD (.zero false)

/-- The significand times a power of ten, in steps of at most 308 places; `none` when it is beyond
the greatest finite number. -/
def scaleSignificand? (significand : Nat) (exponent : Int) : Option Binary64 := do
  let start ← Binary64.ofNat? significand
  if significand = 0 then return start
  else if exponent > 308 then none
  else if exponent ≥ 0 then start.mul? (powerOfTen exponent.toNat)
  else if exponent ≥ -308 then start.div? (powerOfTen (-exponent).toNat)
  else
    let reduced ← start.div? (powerOfTen 308)
    reduced.div? (powerOfTen (min 308 (-exponent - 308).toNat))

/-- The parts of a number as it is written. The digits before the point are never empty. -/
structure NumberParts where
  negative : Bool
  whole : List Char
  fraction : Option (List Char)
  exponent : Option (Bool × List Char)

/-- The greatest magnitude that is read from the digits of an exponent. -/
def maxExponent : Nat := Nat.pow 2 31 - 1

/-- The digits after the one at which a number grows beyond the greatest exponent. -/
def beyondMaximum (total : Nat) : List Char → List Char
  | [] => []
  | d :: digits =>
    let next := 10 * total + digitValue d
    if next > maxExponent then digits else beyondMaximum next digits

namespace NumberParts

/-- The binary value of a number; `none` when it is out of range. -/
def double? (parts : NumberParts) : Option Binary64 := do
  let (significand, dropped) := gather 0 parts.whole
  let (significand, used) := gatherFraction significand (parts.fraction.getD [])
  let place : Int := (dropped : Int) - used
  match parts.exponent with
  | none => return (← scaleSignificand? significand place).withSign parts.negative
  | some (negativeExponent, digits) =>
    let magnitude := digits.foldl (fun total d => 10 * total + digitValue d) 0
    if magnitude > maxExponent then
      if significand ≠ 0 && !negativeExponent then none else return .zero parts.negative
    else
      let exponent := if negativeExponent then place - magnitude else place + magnitude
      return (← scaleSignificand? significand exponent).withSign parts.negative

/-- The value of a number; `none` when it is out of range. -/
def value? (parts : NumberParts) : Option Number :=
  let (significand, dropped) := gather 0 parts.whole
  if parts.fraction.isNone && parts.exponent.isNone && dropped == 0 then
    if !parts.negative then some (.integer significand)
    else if significand ≠ 0 && significand ≤ Nat.pow 2 63 then some (.integer (-(significand : Int)))
    else parts.double?.map .double
  else parts.double?.map .double

end NumberParts

end InventoryQuery.Json
