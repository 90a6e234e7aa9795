import InventoryQuery.Keyed
import InventoryQuery.Row.Shape

/-!
# Rows of an answer

The rows that the two endpoints answer with. A row is an object, whose unknown members are
ignored, or an array of the fields in order. The members of an object are looked at in the order
of their names, and only then is a missing one noticed; an array is read item by item. An answer
is an array of rows, or one bare row.
-/

namespace InventoryQuery

/-- A row of the node endpoint. -/
structure NodeRow where
  name : String
  deactivated : Option String := none
  catalogTimestamp : Option String := none
  factsTimestamp : Option String := none
  reportTimestamp : Option String := none
  deriving DecidableEq, Repr

/-- A row of the fact endpoint. -/
structure FactRow where
  certname : String
  name : String
  value : Json
  deriving DecidableEq, Repr

namespace Row

/-- A text. -/
def readText : Json → Except ShapeError String
  | .string s => .ok s
  | other => .error (.wrongType other .string)

/-- A text that may be null. -/
def readOptionalText : Json → Except ShapeError (Option String)
  | .null => .ok none
  | other => (readText other).map some

/-- A member that must not be missing. -/
def require {α : Type} (name : String) : Option α → Except ShapeError α
  | none => .error (.missingField name)
  | some value => .ok value

/-- The item at the front of an array that is an optional text; a missing one counts as null. -/
def optionalItem : List Json → Except ShapeError (Option String)
  | [] => .ok none
  | value :: _ => readOptionalText value

/-- Refuse an array with more items than the row has fields. -/
def refuseLonger (items : List Json) (fields : Nat) : Except ShapeError Unit :=
  if items.length > fields then .error (.tooLong items.length) else .ok ()

end Row

open Row

namespace NodeRow

/-- The fields that were found among some members of an object. A field that may be missing counts
as null as long as it was not found. -/
structure Found where
  name : Option String := none
  deactivated : Option String := none
  catalogTimestamp : Option String := none
  factsTimestamp : Option String := none
  reportTimestamp : Option String := none

/-- Add a member to the fields that were found before it. A member that is no field is
passed over. -/
def Found.add (found : Found) (member : String × Json) : Except ShapeError Found :=
  match member.1 with
  | "name" => (readText member.2).map fun s => { found with name := some s }
  | "deactivated" => (readOptionalText member.2).map fun text => { found with deactivated := text }
  | "catalog_timestamp" =>
    (readOptionalText member.2).map fun text => { found with catalogTimestamp := text }
  | "facts_timestamp" =>
    (readOptionalText member.2).map fun text => { found with factsTimestamp := text }
  | "report_timestamp" =>
    (readOptionalText member.2).map fun text => { found with reportTimestamp := text }
  | _ => .ok found

/-- Read a row from the members of an object. -/
def ofMembers (members : Keyed Json) : Except ShapeError NodeRow := do
  let found ← members.foldlM Found.add {}
  let name ← require "name" found.name
  return { name
           deactivated := found.deactivated
           catalogTimestamp := found.catalogTimestamp
           factsTimestamp := found.factsTimestamp
           reportTimestamp := found.reportTimestamp }

/-- Read a row from the items of an array. -/
def ofItems : List Json → Except ShapeError NodeRow
  | [] => .error (.tooShort 0 .nodeRow 5)
  | first :: rest => do
    let name ← readText first
    let deactivated ← optionalItem rest
    let catalogTimestamp ← optionalItem (rest.drop 1)
    let factsTimestamp ← optionalItem (rest.drop 2)
    let reportTimestamp ← optionalItem (rest.drop 3)
    refuseLonger (first :: rest) 5
    return { name, deactivated, catalogTimestamp, factsTimestamp, reportTimestamp }

/-- Read a row. -/
def ofJson : Json → Except ShapeError NodeRow
  | .object members => ofMembers members
  | .array items => ofItems items
  | other => .error (.wrongType other .nodeRow)

end NodeRow

namespace FactRow

/-- The fields that were found among some members of an object. -/
structure Found where
  certname : Option String := none
  name : Option String := none
  value : Option Json := none

/-- Add a member to the fields that were found before it. A member that is no field is
passed over. -/
def Found.add (found : Found) (member : String × Json) : Except ShapeError Found :=
  match member.1 with
  | "certname" => (readText member.2).map fun s => { found with certname := some s }
  | "name" => (readText member.2).map fun s => { found with name := some s }
  | "value" => .ok { found with value := some member.2 }
  | _ => .ok found

/-- Read a row from the members of an object. -/
def ofMembers (members : Keyed Json) : Except ShapeError FactRow := do
  let found ← members.foldlM Found.add {}
  let certname ← require "certname" found.certname
  let name ← require "name" found.name
  let value ← require "value" found.value
  return { certname, name, value }

/-- Read a row from the items of an array. -/
def ofItems : List Json → Except ShapeError FactRow
  | [] => .error (.tooShort 0 .factRow 3)
  | [first] => do
    let _ ← readText first
    throw (.tooShort 1 .factRow 3)
  | [first, second] => do
    let _ ← readText first
    let _ ← readText second
    throw (.tooShort 2 .factRow 3)
  | first :: second :: value :: rest => do
    let certname ← readText first
    let name ← readText second
    refuseLonger (first :: second :: value :: rest) 3
    return { certname, name, value }

/-- Read a row. -/
def ofJson : Json → Except ShapeError FactRow
  | .object members => ofMembers members
  | .array items => ofItems items
  | other => .error (.wrongType other .factRow)

end FactRow

namespace Row

/-- Read the rows of an answer, given how to read one. The items of an array are read in order, and
the first failure counts; what is no array is one row. -/
def readRows {α : Type} (read : Json → Except ShapeError α) : Json → Except ShapeError (List α)
  | .array items => items.mapM read
  | single => (read single).map fun row => [row]

end Row

/-- The rows of an answer of the node endpoint. -/
def nodeRows (answer : Json) : Except ShapeError (List NodeRow) := readRows NodeRow.ofJson answer

/-- The rows of an answer of the fact endpoint. -/
def factRows (answer : Json) : Except ShapeError (List FactRow) := readRows FactRow.ofJson answer

/-- The names of the nodes of an answer, in its order. -/
def nodeNames (answer : Json) : Except ShapeError (List String) :=
  (nodeRows answer).map (fun rows => rows.map NodeRow.name)

end InventoryQuery
