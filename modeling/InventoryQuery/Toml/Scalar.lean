import InventoryQuery.Number.Binary64
import InventoryQuery.Text.Hex
import InventoryQuery.Toml.Item

/-!
# TOML numbers and points in time

Integers of 64 bits in four bases, numbers with a fraction or an exponent, and dates and times.
Digits may be grouped by single underscores. Each reader gives what it has read and the text after
it.
-/

namespace InventoryQuery.Toml

/-- Whether a character is a digit in a base. -/
def isDigitOf (base : Nat) (c : Char) : Bool :=
  match Text.hexValue? c with
  | some value => value < base
  | none => false

/-- The digits that continue a group, without the underscores between them. -/
def readMoreDigits (base : Nat) : List Char → Option (List Char × List Char)
  | [] => some ([], [])
  | '_' :: d :: rest =>
    if isDigitOf base d then
      (readMoreDigits base rest).map (fun (digits, rest) => (d :: digits, rest))
    else none
  | c :: rest =>
    if isDigitOf base c then
      (readMoreDigits base rest).map (fun (digits, rest) => (c :: digits, rest))
    else if c = '_' then none
    else some ([], c :: rest)

/-- A group of at least one digit. -/
def readDigits (base : Nat) : List Char → Option (List Char × List Char)
  | [] => none
  | c :: rest =>
    if isDigitOf base c then
      (readMoreDigits base rest).map (fun (digits, rest) => (c :: digits, rest))
    else none

/-- The number that digits in a base stand for. -/
def numberOf (base : Nat) (digits : List Char) : Nat :=
  digits.foldl (fun total c => base * total + (Text.hexValue? c).getD 0) 0

/-- A sign, if there is one: whether it is a minus sign, and the text after it. -/
def readSign : List Char → Bool × List Char
  | '+' :: rest => (false, rest)
  | '-' :: rest => (true, rest)
  | text => (false, text)

/-- The digits of a decimal integer. A zero is followed by no other digit. -/
def readWhole : List Char → Option (List Char × List Char)
  | '0' :: rest => some (['0'], rest)
  | text => readDigits 10 text

/-- An integer between the bounds of 64 bits. -/
def integer? (value : Int) : Option Item :=
  if -(Nat.pow 2 63 : Int) ≤ value && value < Nat.pow 2 63 then some (.integer value) else none

/-- An integer in one of the bases. -/
def readInteger (text : List Char) : Option (Item × List Char) :=
  let inBase (base : Nat) (text : List Char) : Option (Item × List Char) := do
    let (digits, rest) ← readDigits base text
    return (← integer? (numberOf base digits), rest)
  match text with
  | '0' :: 'x' :: rest => inBase 16 rest
  | '0' :: 'o' :: rest => inBase 8 rest
  | '0' :: 'b' :: rest => inBase 2 rest
  | text => do
    let (negative, text) := readSign text
    let (digits, rest) ← readWhole text
    let magnitude : Int := numberOf 10 digits
    return (← integer? (if negative then -magnitude else magnitude), rest)

/-- The digits after a point, if there is one. -/
def readFraction : List Char → Option (Option (List Char) × List Char)
  | '.' :: rest => (readDigits 10 rest).map (fun (digits, rest) => (some digits, rest))
  | text => some (none, text)

/-- The exponent, if there is one. -/
def readExponent : List Char → Option (Option Int × List Char)
  | [] => some (none, [])
  | c :: rest =>
    if c = 'e' || c = 'E' then do
      let (negative, rest) := readSign rest
      let (digits, rest) ← readDigits 10 rest
      let magnitude : Int := numberOf 10 digits
      return (some (if negative then -magnitude else magnitude), rest)
    else some (none, c :: rest)

/-- Whether a decimal is beyond the greatest binary number. -/
def overflows (digits : List Char) (exponent : Int) : Bool :=
  let significant := digits.dropWhile (· == '0')
  let magnitude : Int := significant.length + exponent
  if significant.isEmpty || magnitude < 300 then false
  else if magnitude > 320 then true
  else
    let number := numberOf 10 significant
    (Binary64.ofRatio? false (number * Nat.pow 10 exponent.toNat) (Nat.pow 10 (-exponent).toNat)).isNone

/-- The characters of a text before the rest of it. -/
def consumed (text rest : List Char) : String :=
  String.ofList (text.take (text.length - rest.length))

/-- A number with a fraction or an exponent, an infinity or an undefined number. -/
def readFloat (text : List Char) : Option (Item × List Char) :=
  let (negative, unsigned) := readSign text
  match unsigned with
  | 'i' :: 'n' :: 'f' :: rest => some (.float (consumed text rest), rest)
  | 'n' :: 'a' :: 'n' :: rest => some (.float (consumed text rest), rest)
  | unsigned => do
    let (whole, rest) ← readWhole unsigned
    let (fraction, rest) ← readFraction rest
    let (exponent, rest) ← readExponent rest
    if fraction.isNone && exponent.isNone then none
    else
      let places := fraction.getD []
      if !negative && overflows (whole ++ places) (exponent.getD 0 - places.length) then none
      else return (.float (consumed text rest), rest)

/-- A number of a fixed count of digits. -/
def readFixed (count : Nat) (text : List Char) : Option (Nat × List Char) :=
  let digits := text.take count
  if digits.length = count && digits.all Char.isDigit then
    some (numberOf 10 digits, text.drop count)
  else none

/-- The text after a character, if it starts with it. -/
def after? (mark : Char) : List Char → Option (List Char)
  | c :: rest => if c = mark then some rest else none
  | [] => none

/-- The number of days of a month. -/
def daysIn (year month : Nat) : Nat :=
  if month = 2 then
    if year % 4 = 0 && (year % 100 ≠ 0 || year % 400 = 0) then 29 else 28
  else if month = 4 || month = 6 || month = 9 || month = 11 then 30
  else 31

/-- The text after a date. -/
def afterDate? (text : List Char) : Option (List Char) := do
  let (year, text) ← readFixed 4 text
  let (month, text) ← readFixed 2 (← after? '-' text)
  let (day, text) ← readFixed 2 (← after? '-' text)
  if 1 ≤ month && month ≤ 12 && 1 ≤ day && day ≤ daysIn year month then some text else none

/-- The text after an hour and a minute. -/
def afterHourMinute? (text : List Char) : Option (List Char) := do
  let (hour, text) ← readFixed 2 text
  let (minute, text) ← readFixed 2 (← after? ':' text)
  if hour ≤ 23 && minute ≤ 59 then some text else none

/-- The text after a time of day. A minute may have a leap second. -/
def afterTime? (text : List Char) : Option (List Char) := do
  let text ← afterHourMinute? text
  let (second, text) ← readFixed 2 (← after? ':' text)
  if second > 60 then none
  else
    match text with
    | '.' :: places =>
      if (places.takeWhile Char.isDigit).isEmpty then some text
      else some (places.dropWhile Char.isDigit)
    | text => some text

/-- The text after an offset from universal time, if there is one. -/
def afterOffset? : List Char → Option (List Char)
  | [] => some []
  | c :: rest =>
    if c = 'Z' || c = 'z' then some rest
    else if c = '+' || c = '-' then afterHourMinute? rest
    else some (c :: rest)

/-- A date, a time of day or both. -/
def readMoment (text : List Char) : Option (Item × List Char) :=
  let moment (rest : List Char) : Item × List Char := (.moment (consumed text rest), rest)
  match afterDate? text with
  | none => (afterTime? text).map moment
  | some rest =>
    match rest with
    | [] => some (moment [])
    | c :: clock =>
      if c = 'T' || c = 't' || c = ' ' then
        match afterTime? clock with
        | none => some (moment rest)
        | some rest => (afterOffset? rest).map moment
      else some (moment rest)

/-- A number or a point in time. -/
def readNumberOrMoment (text : List Char) : Option (Item × List Char) :=
  (readMoment text).orElse fun _ => (readFloat text).orElse fun _ => readInteger text

end InventoryQuery.Toml
