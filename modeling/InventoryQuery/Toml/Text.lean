import InventoryQuery.Text.Hex

/-!
# TOML strings

The four forms of a string: with escapes or literal, each on one line or on several. In a form of
several lines a line break right after the opening marks is left out, a carriage return before a
line feed is dropped, and one or two marks may stand right before the closing three.
-/

namespace InventoryQuery.Toml

/-- Whether a character stands for itself on a line: a tab or anything that is no control. -/
def isLineChar (c : Char) : Bool := c == '\t' || (c.toNat ≥ 0x20 && c.toNat ≠ 0x7f)

/-- Where the reader of a string stands within an escape. -/
inductive Escape where
  /-- Outside an escape. -/
  | outside
  /-- After a backslash. -/
  | started
  /-- Among the digits of a code point, of which some are still needed. -/
  | code (needed value : Nat)
  /-- After a backslash and blanks, before a line break. -/
  | beforeBreak
  /-- After an escaped line break, where blanks and line breaks are skipped. -/
  | skipping
  deriving DecidableEq, Repr

/-- The character for the letter after a backslash. -/
def simpleEscape? (c : Char) : Option Char :=
  if c = 'b' then some '\x08'
  else if c = 't' then some '\t'
  else if c = 'n' then some '\n'
  else if c = 'f' then some '\x0c'
  else if c = 'r' then some '\r'
  else if c = '"' then some '"'
  else if c = '\\' then some '\\'
  else none

/-- The character with a code point, unless it is a surrogate or too great. -/
def charOfCode? (code : Nat) : Option Char :=
  if code < 0xd800 || (0xdfff < code && code < 0x110000) then some (Char.ofNat code) else none

/-- Take in one more digit of a code point. -/
def takeCodeDigit (needed value : Nat) (c : Char) : Option (Option Char × Escape) := do
  let digit ← Text.hexValue? c
  let value := 16 * value + digit
  if needed ≤ 1 then return (some (← charOfCode? value), .outside)
  else return (none, .code (needed - 1) value)

/-- Take in a character after a backslash. -/
def startEscape (c : Char) : Option (Option Char × Escape) :=
  if c = 'u' then some (none, .code 4 0)
  else if c = 'U' then some (none, .code 8 0)
  else (simpleEscape? c).map (fun character => (some character, .outside))

/-- Take in one character of a string on one line, other than its closing mark. -/
def Escape.next (c : Char) : Escape → Option (Option Char × Escape)
  | .started => startEscape c
  | .code needed value => takeCodeDigit needed value c
  | _ =>
    if c = '\\' then some (none, .started)
    else if isLineChar c then some (some c, .outside)
    else none

/-- Take in one character of a string on several lines, other than a quotation mark. A carriage
return before a line feed has been dropped. -/
def Escape.nextOnLines (c : Char) : Escape → Option (Option Char × Escape)
  | .started =>
    if c = ' ' || c = '\t' then some (none, .beforeBreak)
    else if c = '\n' then some (none, .skipping)
    else startEscape c
  | .code needed value => takeCodeDigit needed value c
  | .beforeBreak =>
    if c = ' ' || c = '\t' then some (none, .beforeBreak)
    else if c = '\n' then some (none, .skipping)
    else none
  | .skipping =>
    if c = ' ' || c = '\t' || c = '\n' then some (none, .skipping)
    else if c = '\\' then some (none, .started)
    else if isLineChar c then some (some c, .outside)
    else none
  | .outside =>
    if c = '\\' then some (none, .started)
    else if isLineChar c || c = '\n' then some (some c, .outside)
    else none

/-- Read the rest of a string with escapes on one line. -/
def readBasic (escape : Escape) : List Char → Option (List Char × List Char)
  | [] => none
  | c :: text =>
    if c = '"' && escape = .outside then some ([], text)
    else
      match escape.next c with
      | none => none
      | some (produced, escape) =>
        (readBasic escape text).map (fun (value, rest) => (produced.toList ++ value, rest))

/-- Read the rest of a literal string on one line. -/
def readLiteral : List Char → Option (List Char × List Char)
  | [] => none
  | c :: text =>
    if c = '\'' then some ([], text)
    else if isLineChar c then (readLiteral text).map (fun (value, rest) => (c :: value, rest))
    else none

/-- What a run of marks at the end of a string on several lines stands for, if it closes it: all
of them but three. -/
def closingMarks? (mark : Char) (marks : Nat) : Option (List Char) :=
  if 3 ≤ marks && marks ≤ 5 then some (List.replicate (marks - 3) mark) else none

/-- Read the rest of a string with escapes on several lines, after a run of marks. -/
def readBasicLines (escape : Escape) (marks : Nat) : List Char → Option (List Char × List Char)
  | [] => (closingMarks? '"' marks).map (fun value => (value, []))
  | c :: text =>
    if c = '"' && (escape = .outside || escape = .skipping) then
      readBasicLines .outside (marks + 1) text
    else if marks ≥ 3 then (closingMarks? '"' marks).map (fun value => (value, c :: text))
    else if c = '\r' && text.head? = some '\n' then
      (readBasicLines escape 0 text).map
        (fun (value, rest) => (List.replicate marks '"' ++ value, rest))
    else
      match escape.nextOnLines c with
      | none => none
      | some (produced, escape) =>
        (readBasicLines escape 0 text).map
          (fun (value, rest) => (List.replicate marks '"' ++ (produced.toList ++ value), rest))

/-- Read the rest of a literal string on several lines, after a run of marks. -/
def readLiteralLines (marks : Nat) : List Char → Option (List Char × List Char)
  | [] => (closingMarks? '\'' marks).map (fun value => (value, []))
  | c :: text =>
    if c = '\'' then readLiteralLines (marks + 1) text
    else if marks ≥ 3 then (closingMarks? '\'' marks).map (fun value => (value, c :: text))
    else if c = '\r' && text.head? = some '\n' then
      (readLiteralLines 0 text).map
        (fun (value, rest) => (List.replicate marks '\'' ++ value, rest))
    else if isLineChar c || c = '\n' then
      (readLiteralLines 0 text).map
        (fun (value, rest) => (List.replicate marks '\'' ++ c :: value, rest))
    else none

/-- The text without a line break in front. -/
def dropLineBreak : List Char → List Char
  | '\n' :: rest => rest
  | '\r' :: '\n' :: rest => rest
  | text => text

/-- Read a string of any form from its opening mark on. -/
def readString : List Char → Option (List Char × List Char)
  | '"' :: '"' :: '"' :: rest => readBasicLines .outside 0 (dropLineBreak rest)
  | '"' :: rest => readBasic .outside rest
  | '\'' :: '\'' :: '\'' :: rest => readLiteralLines 0 (dropLineBreak rest)
  | '\'' :: rest => readLiteral rest
  | _ => none

end InventoryQuery.Toml
