import InventoryQuery.Json.Basic
import InventoryQuery.Number.Text
import InventoryQuery.Text.Hex

/-!
# Writing JSON

The compact form of a value, without any white space outside strings, and the indented form, in
which every item and member stands on a line of its own. In strings the quotation mark, the
backslash and the characters below the space are escaped; all others stand for themselves.
-/

namespace InventoryQuery.Json

/-- A character of a string, escaped where it has to be. -/
def escapeChar (c : Char) : List Char :=
  if c = '"' then ['\\', '"']
  else if c = '\\' then ['\\', '\\']
  else if c = '\x08' then ['\\', 'b']
  else if c = '\x0c' then ['\\', 'f']
  else if c = '\n' then ['\\', 'n']
  else if c = '\r' then ['\\', 'r']
  else if c = '\t' then ['\\', 't']
  else if c.toNat < 0x20 then
    ['\\', 'u', '0', '0', Text.lowerHexDigit (c.toNat / 16), Text.lowerHexDigit (c.toNat % 16)]
  else [c]

/-- The literal of a string. -/
def quote (s : List Char) : List Char := '"' :: (s.flatMap escapeChar ++ ['"'])

/-- The literal of a number. -/
def Number.print : Number → List Char
  | .integer n => decimalInteger n
  | .double x => x.toText

mutual

/-- The compact form of a value. -/
def print : Json → List Char
  | .null => ['n', 'u', 'l', 'l']
  | .bool true => ['t', 'r', 'u', 'e']
  | .bool false => ['f', 'a', 'l', 's', 'e']
  | .number n => n.print
  | .string s => quote s.toList
  | .array items => '[' :: (printItems items ++ [']'])
  | .object members => '{' :: (printMembers members ++ ['}'])

/-- Items separated by commas. -/
def printItems : List Json → List Char
  | [] => []
  | [item] => print item
  | item :: items => print item ++ ',' :: printItems items

/-- Members separated by commas, each a name, a colon and a value. -/
def printMembers : List (String × Json) → List Char
  | [] => []
  | [(name, value)] => quote name.toList ++ ':' :: print value
  | (name, value) :: members =>
    quote name.toList ++ ':' :: (print value ++ ',' :: printMembers members)

end

/-- A new line with two spaces for each level. -/
def indent (level : Nat) : List Char := '\n' :: List.replicate (2 * level) ' '

mutual

/-- The indented form of a value that stands at a level. -/
def printIndented (level : Nat) : Json → List Char
  | .array [] => ['[', ']']
  | .array items => '[' :: (printItemsIndented (level + 1) items ++ indent level ++ [']'])
  | .object [] => ['{', '}']
  | .object members => '{' :: (printMembersIndented (level + 1) members ++ indent level ++ ['}'])
  | value => print value

/-- Items on lines of their own, separated by commas. -/
def printItemsIndented (level : Nat) : List Json → List Char
  | [] => []
  | [item] => indent level ++ printIndented level item
  | item :: items =>
    indent level ++ printIndented level item ++ ',' :: printItemsIndented level items

/-- Members on lines of their own, separated by commas. -/
def printMembersIndented (level : Nat) : List (String × Json) → List Char
  | [] => []
  | [(name, value)] =>
    indent level ++ quote name.toList ++ ':' :: ' ' :: printIndented level value
  | (name, value) :: members =>
    indent level ++ quote name.toList ++ ':' :: ' ' :: printIndented level value ++
      ',' :: printMembersIndented level members

end

/-- The compact text of a value. -/
def compact (value : Json) : String := String.ofList value.print

/-- The indented text of a value. -/
def pretty (value : Json) : String := String.ofList (value.printIndented 0)

end InventoryQuery.Json
