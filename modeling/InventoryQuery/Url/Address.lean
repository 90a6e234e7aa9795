import InventoryQuery.Text.Hex

/-!
# Numeric addresses

Hosts that are numbers: IPv4 addresses of one to four numbers in decimal, octal or hexadecimal,
and IPv6 addresses of eight pieces, of which one run of zeros may be left out.
-/

namespace InventoryQuery.Url

/-- The value of digits in a base; `none` if one of them is not a digit of the base. -/
def digitsValue? (base : Nat) (digits : List Char) : Option Nat :=
  digits.foldlM
    (fun total c =>
      match Text.hexValue? c with
      | some value => if value < base then some (base * total + value) else none
      | none => none)
    0

/-- A number of an IPv4 address. A leading zero makes it octal and a leading `0x` hexadecimal. -/
def ipv4Number? : List Char → Option Nat
  | [] => none
  | '0' :: 'x' :: digits => digitsValue? 16 digits
  | '0' :: 'X' :: digits => digitsValue? 16 digits
  | '0' :: d :: digits => digitsValue? 8 (d :: digits)
  | digits => digitsValue? 10 digits

/-- The labels of a name without an empty one at its end. -/
def labelsOf (name : List Char) : List (List Char) :=
  let labels := name.splitOn '.'
  if labels.length > 1 && labels.getLast? == some [] then labels.dropLast else labels

/-- Whether a name can only be an IPv4 address, because its last label is a number. -/
def endsInNumber (name : List Char) : Bool :=
  match (labelsOf name).getLast? with
  | none => false
  | some last => (!last.isEmpty && last.all Char.isDigit) || (ipv4Number? last).isSome

/-- An IPv4 address. The last number fills the bytes that the others leave. -/
def ipv4Address? (name : List Char) : Option Nat := do
  let numbers ← (labelsOf name).mapM ipv4Number?
  let last ← numbers.getLast?
  let front := numbers.dropLast
  if front.length > 3 || front.any (· > 255) || last ≥ Nat.pow 256 (4 - front.length) then none
  else return (front.foldl (fun total n => 256 * total + n) 0) * Nat.pow 256 (4 - front.length) + last

/-- The number of at most four hexadecimal digits. -/
def ipv6Piece? (text : List Char) : Option Nat :=
  if text.isEmpty || text.length > 4 then none else digitsValue? 16 text

/-- A byte in decimal without a leading zero. -/
def decimalByte? (text : List Char) : Option Nat :=
  match text with
  | [] => none
  | '0' :: _ :: _ => none
  | digits =>
    match digitsValue? 10 digits with
    | some value => if value ≤ 255 then some value else none
    | none => none

/-- The two pieces of an IPv4 address in dotted form at the end of an IPv6 address. -/
def embeddedIpv4? (text : List Char) : Option (List Nat) := do
  match ← (text.splitOn '.').mapM decimalByte? with
  | [a, b, c, d] => return [256 * a + b, 256 * c + d]
  | _ => none

/-- Pieces between colons, of which the last may be an IPv4 address. -/
def ipv6Pieces? : List (List Char) → Option (List Nat)
  | [] => some []
  | [last] =>
    if last.contains '.' then embeddedIpv4? last else (ipv6Piece? last).map (fun piece => [piece])
  | part :: parts => do
    let piece ← ipv6Piece? part
    let pieces ← ipv6Pieces? parts
    return piece :: pieces

/-- The text before the first double colon and the text after it. -/
def splitAtDoubleColon? : List Char → Option (List Char × List Char)
  | [] => none
  | ':' :: ':' :: rest => some ([], rest)
  | c :: rest => (splitAtDoubleColon? rest).map (fun (before, after) => (c :: before, after))

/-- The pieces of a side of a double colon, which may be empty. -/
def sidePieces? (side : List Char) : Option (List Nat) :=
  if side.isEmpty then some [] else ipv6Pieces? (side.splitOn ':')

/-- An IPv6 address. A double colon stands for at least one piece that is zero. -/
def ipv6Address? (text : List Char) : Option (List Nat) := do
  match splitAtDoubleColon? text with
  | none =>
    let pieces ← ipv6Pieces? (text.splitOn ':')
    if pieces.length = 8 then some pieces else none
  | some (before, after) =>
    if before.contains '.' then none
    else
      let front ← sidePieces? before
      let back ← sidePieces? after
      let missing := 8 - (front.length + back.length)
      if missing = 0 then none else return front ++ List.replicate missing 0 ++ back

end InventoryQuery.Url
