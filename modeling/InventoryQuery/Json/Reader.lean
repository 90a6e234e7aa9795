import InventoryQuery.Json.Fault
import InventoryQuery.Json.Number
import InventoryQuery.Text.Hex

/-!
# Reading JSON

A strict reader with a limit on nesting. It reads a text from the left and stops at the first
fault. Of members with the same name the last one counts.
-/

namespace InventoryQuery.Json

/-- How deep arrays and objects may nest in an answer of the server. -/
def nestingLimit : Nat := 127

/-- The white space of JSON. -/
def isSpace (c : Char) : Bool := c == ' ' || c == '\n' || c == '\t' || c == '\r'

/-- The text without the white space in front. -/
def skipSpace (text : List Char) : List Char := text.dropWhile isSpace

/-- What follows the given letters. -/
def expect : (letters text : List Char) → Except Fault (List Char)
  | [], text => .ok text
  | _ :: _, [] => .error (.before .endOfValue [])
  | a :: letters, b :: text =>
    if a = b then expect letters text else .error (.onNext .expectedWord (b :: text))

/-- Where the reader of a string stands within an escape. -/
inductive Escape where
  /-- Outside an escape. -/
  | outside
  /-- After a backslash. -/
  | started
  /-- Among the digits of a code unit; `high` is the high surrogate that it has to complete. -/
  | unit (high : Option Nat) (digits : List Char)
  /-- After a high surrogate, before the backslash of the low one. -/
  | afterHigh (high : Nat)
  /-- After a high surrogate and a backslash. -/
  | afterHighStarted (high : Nat)

/-- The character for the letter after a backslash. -/
def simpleEscape? (c : Char) : Option Char :=
  if c = '"' then some '"'
  else if c = '\\' then some '\\'
  else if c = '/' then some '/'
  else if c = 'b' then some '\x08'
  else if c = 'f' then some '\x0c'
  else if c = 'n' then some '\n'
  else if c = 'r' then some '\r'
  else if c = 't' then some '\t'
  else none

/-- Use a code unit that ends before `rest`. A low surrogate has to complete a high one. -/
def useUnit (high : Option Nat) (code : Nat) (rest : List Char) :
    Except Fault (Option Char × Escape) :=
  let isLow := 0xdc00 ≤ code && code ≤ 0xdfff
  let isHigh := 0xd800 ≤ code && code ≤ 0xdbff
  match high with
  | some high =>
    if isLow then
      .ok (some (Char.ofNat (0x10000 + (high - 0xd800) * 0x400 + (code - 0xdc00))), .outside)
    else .error (.before .loneSurrogate rest)
  | none =>
    if isLow then .error (.before .loneSurrogate rest)
    else if isHigh then .ok (none, .afterHigh code)
    else .ok (some (Char.ofNat code), .outside)

/-- Take in one more digit of a code unit. Four bytes are taken before they are looked at. -/
def takeDigit (high : Option Nat) (digits rest : List Char) : Except Fault (Option Char × Escape) :=
  if byteCount digits < 4 then .ok (none, .unit high digits)
  else
    match digits.length, Text.hexNumber? digits with
    | 4, some code => useUnit high code rest
    | _, _ => .error ⟨.badEscape, byteCount rest + (byteCount digits - 4)⟩

/-- Take in one character of a string other than its closing quotation mark, with the text after
it: the character that it completes, if any, and where the reader stands then. -/
def Escape.next (c : Char) (rest : List Char) : Escape → Except Fault (Option Char × Escape)
  | .outside =>
    if c = '\\' then .ok (none, .started)
    else if c.toNat < 0x20 then .error (.before .rawControl rest)
    else .ok (some c, .outside)
  | .started =>
    if c = 'u' then .ok (none, .unit none [])
    else
      match simpleEscape? c with
      | some character => .ok (some character, .outside)
      | none => .error (.onNext .badEscape (c :: rest))
  | .unit high digits => takeDigit high (digits ++ [c]) rest
  | .afterHigh high =>
    if c = '\\' then .ok (none, .afterHighStarted high)
    else .error (.onNext .missingSurrogate (c :: rest))
  | .afterHighStarted high =>
    if c = 'u' then .ok (none, .unit (some high) [])
    else .error (.onNext .missingSurrogate (c :: rest))

/-- Whether the reader of a string stands outside an escape. -/
def Escape.isOutside : Escape → Bool
  | .outside => true
  | _ => false

/-- Read the rest of a string up to its closing quotation mark. -/
def readString (escape : Escape) : List Char → Except Fault (List Char × List Char)
  | [] => .error (.before .endOfString [])
  | c :: text =>
    if c = '"' && escape.isOutside then .ok ([], text)
    else
      match escape.next c text with
      | .error fault => .error fault
      | .ok (produced, escape) =>
        match readString escape text with
        | .error fault => .error fault
        | .ok (characters, rest) => .ok (produced.toList ++ characters, rest)

/-- A run of at least one digit. -/
def readDigits (text : List Char) : Except Fault (List Char × List Char) :=
  match text.takeWhile Char.isDigit, text with
  | [], [] => .error (.before .endOfValue [])
  | [], text => .error (.onNext .badNumber text)
  | digits, _ => .ok (digits, text.dropWhile Char.isDigit)

/-- The digits after a point, if there is one. -/
def readFraction : List Char → Except Fault (Option (List Char) × List Char)
  | '.' :: text => (readDigits text).map (fun (digits, rest) => (some digits, rest))
  | text => .ok (none, text)

/-- The sign in front of the digits of an exponent. -/
def readExponentSign : List Char → Bool × List Char
  | '+' :: text => (false, text)
  | '-' :: text => (true, text)
  | text => (false, text)

/-- The exponent, if there is one, with whether it is negative. -/
def readExponent : List Char → Except Fault (Option (Bool × List Char) × List Char)
  | [] => .ok (none, [])
  | c :: text =>
    if c = 'e' || c = 'E' then
      let (negative, text) := readExponentSign text
      (readDigits text).map (fun (digits, rest) => (some (negative, digits), rest))
    else .ok (none, c :: text)

/-- The digits before the point. A zero in front is followed by no other digit. -/
def readWhole (text : List Char) : Except Fault (List Char × List Char) :=
  match text with
  | '0' :: d :: rest =>
    if d.isDigit then .error (.onNext .badNumber (d :: rest)) else .ok (['0'], d :: rest)
  | text => readDigits text

/-- The digits of an exponent that are left when it is found to be out of range. -/
def unusedExponent : Option (Bool × List Char) → List Char
  | some (false, digits) => beyondMaximum 0 digits
  | _ => []

/-- Read a number after its sign. -/
def readNumber (negative : Bool) (text : List Char) : Except Fault (Json × List Char) := do
  let (whole, text) ← readWhole text
  let (fraction, text) ← readFraction text
  let (exponent, text) ← readExponent text
  match NumberParts.value? ⟨negative, whole, fraction, exponent⟩ with
  | some value => return (.number value, text)
  | none => throw ⟨.numberOutOfRange, byteCount text + (unusedExponent exponent).length⟩

mutual

/-- Read a value at the front of a text; `depth` more levels of nesting are allowed, and `fuel`
bounds the steps. -/
def readValue (fuel depth : Nat) (text : List Char) : Except Fault (Json × List Char) :=
  match fuel with
  | 0 => .error (.onNext .tooDeep text)
  | fuel + 1 =>
    match skipSpace text with
    | [] => .error (.before .endOfValue [])
    | c :: rest =>
      if c = '"' then
        (readString .outside rest).map (fun (s, rest) => (.string (String.ofList s), rest))
      else if c = '[' then
        match depth with
        | 0 => .error (.onNext .tooDeep (c :: rest))
        | depth + 1 =>
          match skipSpace rest with
          | [] => .error (.before .endOfList [])
          | ']' :: rest => .ok (.array [], rest)
          | text => (readItems fuel depth text).map (fun (items, rest) => (.array items, rest))
      else if c = '\x7b' then
        match depth with
        | 0 => .error (.onNext .tooDeep (c :: rest))
        | depth + 1 =>
          match skipSpace rest with
          | [] => .error (.before .endOfObject [])
          | '\x7d' :: rest => .ok (.object [], rest)
          | text =>
            (readMembers fuel depth text).map
              (fun (members, rest) => (.object (Keyed.ofPairs members), rest))
      else if c = '-' then readNumber true rest
      else if c.isDigit then readNumber false (c :: rest)
      else if c = 'n' then (expect ['u', 'l', 'l'] rest).map (fun rest => (.null, rest))
      else if c = 't' then (expect ['r', 'u', 'e'] rest).map (fun rest => (.bool true, rest))
      else if c = 'f' then (expect ['a', 'l', 's', 'e'] rest).map (fun rest => (.bool false, rest))
      else .error (.onNext .expectedValue (c :: rest))

/-- Read one item or more, up to the closing bracket. -/
def readItems (fuel depth : Nat) (text : List Char) : Except Fault (List Json × List Char) :=
  match fuel with
  | 0 => .error (.onNext .tooDeep text)
  | fuel + 1 =>
    match readValue fuel depth text with
    | .error fault => .error fault
    | .ok (item, text) =>
      match skipSpace text with
      | [] => .error (.before .endOfList [])
      | ']' :: rest => .ok ([item], rest)
      | ',' :: rest =>
        match skipSpace rest with
        | [] => .error (.before .endOfValue [])
        | ']' :: rest => .error (.before .trailingComma rest)
        | text => (readItems fuel depth text).map (fun (items, rest) => (item :: items, rest))
      | text => .error (.onNext .expectedListEnd text)

/-- Read one member or more, up to the closing brace. -/
def readMembers (fuel depth : Nat) (text : List Char) :
    Except Fault (List (String × Json) × List Char) :=
  match fuel with
  | 0 => .error (.onNext .tooDeep text)
  | fuel + 1 =>
    match text with
    | '"' :: text =>
      match readString .outside text with
      | .error fault => .error fault
      | .ok (name, text) =>
        match skipSpace text with
        | [] => .error (.before .endOfObject [])
        | ':' :: text =>
          match readValue fuel depth text with
          | .error fault => .error fault
          | .ok (value, text) =>
            match skipSpace text with
            | [] => .error (.before .endOfObject [])
            | '\x7d' :: rest => .ok ([(String.ofList name, value)], rest)
            | ',' :: rest =>
              match skipSpace rest with
              | [] => .error (.before .endOfValue [])
              | '\x7d' :: rest => .error (.before .trailingComma rest)
              | text =>
                (readMembers fuel depth text).map
                  (fun (members, rest) => ((String.ofList name, value) :: members, rest))
            | text => .error (.onNext .expectedObjectEnd text)
        | text => .error (.onNext .expectedColon text)
    | text => .error (.onNext .expectedName text)

end

/-- Read a text that holds one value and nothing else but white space, nested at most `limit`
levels deep. -/
def parseChars (limit : Nat) (text : List Char) : Except Fault Json :=
  match readValue (2 * text.length + 2) limit text with
  | .error fault => .error fault
  | .ok (value, rest) =>
    match skipSpace rest with
    | [] => .ok value
    | rest => .error (.onNext .trailingText rest)

/-- Read an answer of the server. -/
def parse (text : String) : Except Fault Json := parseChars nestingLimit text.toList

end InventoryQuery.Json
