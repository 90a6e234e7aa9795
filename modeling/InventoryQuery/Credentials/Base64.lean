/-!
# Base64

Bytes written as digits of six bits each. White space between the digits is ignored, and the
digits may be filled up to a multiple of four with one or two equals signs.
-/

namespace InventoryQuery.Credentials.Base64

/-- The number that a digit stands for. -/
def digit? (byte : UInt8) : Option Nat :=
  let n := byte.toNat
  if 65 ≤ n && n ≤ 90 then some (n - 65)
  else if 97 ≤ n && n ≤ 122 then some (n - 71)
  else if 48 ≤ n && n ≤ 57 then some (n + 4)
  else if n = 43 then some 62
  else if n = 47 then some 63
  else none

/-- The white space that may stand between digits: tab, line feed, carriage return, space. -/
def isBlank (byte : UInt8) : Bool := byte = 9 || byte = 10 || byte = 13 || byte = 32

/-- The equals sign that fills up the last group. -/
def padding : UInt8 := 61

/-- The bytes of digits in groups of four. In the last group two digits stand for one byte and
three for two; a single digit stands for nothing. -/
def bytesOfDigits? : List Nat → Option (List UInt8)
  | [] => some []
  | [_] => none
  | [a, b] => some [UInt8.ofNat (a * 4 + b / 16)]
  | [a, b, c] => some [UInt8.ofNat (a * 4 + b / 16), UInt8.ofNat (b * 16 + c / 4)]
  | a :: b :: c :: d :: rest =>
    (bytesOfDigits? rest).map fun bytes =>
      UInt8.ofNat (a * 4 + b / 16) :: UInt8.ofNat (b * 16 + c / 4) :: UInt8.ofNat (c * 64 + d) ::
        bytes

/-- Whether a number of digits may be followed by a number of equals signs. -/
def isFilled (digits filling : Nat) : Bool :=
  filling = 0 || (filling ≤ 2 && (digits + filling) % 4 = 0)

/-- The bytes that a text stands for. -/
def decode? (text : List UInt8) : Option (List UInt8) := do
  let text := text.filter (fun byte => !isBlank byte)
  let digits := text.takeWhile (· ≠ padding)
  let filling := text.dropWhile (· ≠ padding)
  guard (filling.all (· = padding) && isFilled digits.length filling.length)
  bytesOfDigits? (← digits.mapM digit?)

/-- The digit that stands for a number below sixty-four. -/
def digit (n : Nat) : UInt8 :=
  if n < 26 then UInt8.ofNat (n + 65)
  else if n < 52 then UInt8.ofNat (n + 71)
  else if n < 62 then UInt8.ofNat (n - 4)
  else if n = 62 then 43
  else 47

/-- The text that stands for bytes. -/
def encode : List UInt8 → List UInt8
  | [] => []
  | [a] =>
    let a := a.toNat
    [digit (a / 4), digit (a % 4 * 16), padding, padding]
  | [a, b] =>
    let (a, b) := (a.toNat, b.toNat)
    [digit (a / 4), digit (a % 4 * 16 + b / 16), digit (b % 16 * 4), padding]
  | a :: b :: c :: rest =>
    let (a, b, c) := (a.toNat, b.toNat, c.toNat)
    digit (a / 4) :: digit (a % 4 * 16 + b / 16) :: digit (b % 16 * 4 + c / 64) ::
      digit (c % 64) :: encode rest

end InventoryQuery.Credentials.Base64
