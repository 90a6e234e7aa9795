/-!
# Balanced texts

A view of a JSON text that sees brackets and strings alone: how many square brackets are open at a
place, and whether the place is within a string. A closing bracket where none is open has no place.
-/

namespace InventoryQuery.Json

/-- Where a scan stands: how many brackets are open, and whether it is within a string or behind a
backslash there. -/
structure Place where
  depth : Nat := 0
  inString : Bool := false
  escaped : Bool := false
  deriving DecidableEq, Repr

/-- The place after one more character. -/
def Place.next? (place : Place) (c : Char) : Option Place :=
  if place.inString then
    if place.escaped then some { place with escaped := false }
    else if c = '\\' then some { place with escaped := true }
    else if c = '"' then some { place with inString := false }
    else some place
  else if c = '"' then some { place with inString := true }
  else if c = '[' then some { place with depth := place.depth + 1 }
  else if c = ']' then
    if place.depth = 0 then none else some { place with depth := place.depth - 1 }
  else some place

/-- The place after a text. -/
def Place.after? (place : Place) (text : List Char) : Option Place := text.foldlM Place.next? place

/-- Whether a text has a bracket closed for every one opened, and ends outside a string. -/
def isBalanced (text : List Char) : Bool := Place.after? {} text = some {}

end InventoryQuery.Json
