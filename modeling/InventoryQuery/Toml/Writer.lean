import InventoryQuery.Number.Text
import InventoryQuery.Text.Hex

/-!
# Writing TOML

The literal of a string and of a natural number, and the line of a key and its value. A string is
written in the plainest form that can hold it: on one line in quotation marks without escapes, as a
literal, on several lines, and with escapes only where nothing else will do.
-/

namespace InventoryQuery.Toml

/-- Whether a character can only be written by an escape. -/
def needsEscape (c : Char) : Bool :=
  (c.toNat < 0x20 && c ≠ '\t' && c ≠ '\n') || c.toNat = 0x7f

/-- The length of the longest run of a character, where the text continues a run of the given
length. -/
def longestRun (mark : Char) (current : Nat) : List Char → Nat
  | [] => current
  | c :: rest =>
    if c = mark then longestRun mark (current + 1) rest
    else max current (longestRun mark 0 rest)

/-- The forms of a string. -/
inductive Form where
  | basic
  | literal
  | basicLines
  | literalLines
  deriving DecidableEq, Repr

/-- The form that a string is written in. -/
def formOf (value : List Char) : Form :=
  let escapes := value.any needsEscape
  let backslash := value.contains '\\'
  let lines := value.contains '\n'
  if !escapes && !backslash && !lines && !value.contains '"' then .basic
  else if !escapes && !lines && !value.contains '\'' then .literal
  else if !escapes && !backslash && longestRun '"' 0 value ≤ 2 then .basicLines
  else if !escapes && longestRun '\'' 0 value ≤ 2 then .literalLines
  else if lines then .basicLines
  else .basic

/-- A control as a code point of four digits. -/
def unicodeEscape (c : Char) : List Char :=
  let n := c.toNat
  ['\\', 'u', Text.upperHexDigit (n / 4096 % 16), Text.upperHexDigit (n / 256 % 16),
    Text.upperHexDigit (n / 16 % 16), Text.upperHexDigit (n % 16)]

/-- A character other than a quotation mark in a form with escapes. -/
def escapeChar (onLines : Bool) (c : Char) : List Char :=
  if c = '\x08' then ['\\', 'b']
  else if c = '\t' then ['\\', 't']
  else if c = '\n' then (if onLines then ['\n'] else ['\\', 'n'])
  else if c = '\x0c' then ['\\', 'f']
  else if c = '\r' then ['\\', 'r']
  else if c = '\\' then ['\\', '\\']
  else if needsEscape c then unicodeEscape c
  else [c]

/-- A text in a form with escapes, after a run of quotation marks. A mark is escaped where more of
them would follow each other than the form allows. -/
def escapeText (onLines : Bool) (marks : Nat) : List Char → List Char
  | [] => []
  | c :: rest =>
    if c = '"' then
      if marks < (if onLines then 2 else 0) then '"' :: escapeText onLines (marks + 1) rest
      else '\\' :: '"' :: escapeText onLines 0 rest
    else escapeChar onLines c ++ escapeText onLines 0 rest

/-- The literal of a string. On several lines it starts with a line break if it holds one. -/
def stringLiteral (value : List Char) : List Char :=
  let firstBreak := if value.contains '\n' then ['\n'] else []
  match formOf value with
  | .basic => '"' :: (escapeText false 0 value ++ ['"'])
  | .literal => '\'' :: (value ++ ['\''])
  | .basicLines => ['"', '"', '"'] ++ firstBreak ++ escapeText true 0 value ++ ['"', '"', '"']
  | .literalLines => ['\'', '\'', '\''] ++ firstBreak ++ value ++ ['\'', '\'', '\'']

/-- The greatest integer that a literal can hold. -/
def maxInteger : Nat := Nat.pow 2 63 - 1

/-- The literal of a natural number, unless it is too great. -/
def naturalLiteral? (value : Nat) : Option (List Char) :=
  if value ≤ maxInteger then some (decimalDigits value) else none

/-- The line of a key and its value. -/
def line (key literal : List Char) : List Char := key ++ [' ', '=', ' '] ++ literal ++ ['\n']

end InventoryQuery.Toml
