import InventoryQuery.Text.Hex
import InventoryQuery.Text.Shapeless

/-!
# Quoted text

A text in quotation marks as messages show it. The quotation mark, the backslash and the usual
controls are written with a backslash, and a character without a shape of its own by its code
point.
-/

namespace InventoryQuery.Text

/-- A character of a quoted text. -/
def quoteChar (c : Char) : List Char :=
  if c = '"' then ['\\', '"']
  else if c = '\\' then ['\\', '\\']
  else if c = '\n' then ['\\', 'n']
  else if c = '\r' then ['\\', 'r']
  else if c = '\t' then ['\\', 't']
  else if c.toNat = 0 then ['\\', '0']
  else if isShapeless c then ['\\', 'u', '\x7b'] ++ lowerHex c.toNat ++ ['\x7d']
  else [c]

/-- A text in quotation marks. -/
def quoted (s : String) : String := String.ofList ('"' :: (s.toList.flatMap quoteChar ++ ['"']))

end InventoryQuery.Text
