import InventoryQuery.Text.Hex
import InventoryQuery.Text.Split

/-!
# Tables of code points

Properties of characters, written as lines of entries. An entry is a code point or the first and
the last one of a range, in hexadecimal and with a dash between them; a slash after a range means
every other code point of it. After a colon there may follow values, with dots between them.
-/

namespace InventoryQuery.Text.Table

/-- An entry: some code points and the values for them. -/
structure Entry where
  first : Nat
  last : Nat
  everyOther : Bool
  values : List Nat
  deriving DecidableEq, Repr

/-- Whether an entry is about a code point. -/
def Entry.contains (entry : Entry) (n : Nat) : Bool :=
  entry.first ≤ n && n ≤ entry.last && (!entry.everyOther || (n - entry.first) % 2 = 0)

/-- The number that hexadecimal digits stand for. -/
def number (digits : List Char) : Nat := (hexNumber? digits).getD 0

/-- Read an entry. -/
def Entry.ofText (text : List Char) : Entry :=
  let (range, values) := splitFirst ':' text
  let (first, last) := splitFirst '-' (range.filter (· ≠ '/'))
  { first := number first
    last := number (if last.isEmpty then first else last)
    everyOther := range.contains '/'
    values := if values.isEmpty then [] else (values.splitOn '.').map number }

/-- Read the entries of some lines. -/
def ofLines (lines : List String) : List Entry :=
  lines.flatMap (fun line => (line.toList.splitOn ' ').map Entry.ofText)

/-- The entry about a code point, if there is one. -/
def find? (table : List Entry) (n : Nat) : Option Entry :=
  table.find? (fun entry => entry.contains n)

/-- Whether there is an entry about a code point. -/
def contains (table : List Entry) (n : Nat) : Bool := table.any (fun entry => entry.contains n)

end InventoryQuery.Text.Table
