import InventoryQuery.Row.Basic

/-!
# Facts by name and node

The rows of the fact endpoint grouped by the name of the fact and then by the name of the node.
Both levels are in increasing order, and of several rows for one fact of one node the last one
counts.
-/

namespace InventoryQuery

/-- For each fact the value that each node reports. -/
abbrev FactMap := Keyed (Keyed Json)

namespace FactMap

/-- The map with the value of one row set. -/
def insertRow (facts : FactMap) (row : FactRow) : FactMap :=
  facts.insert row.name (((facts.find? row.name).getD []).insert row.certname row.value)

/-- The map of some rows. -/
def ofRows (rows : List FactRow) : FactMap := rows.foldl insertRow []

/-- The map of an answer of the fact endpoint. -/
def ofAnswer (answer : Json) : Except Row.ShapeError FactMap := (factRows answer).map ofRows

/-- The map as an object of objects. -/
def toJson (facts : FactMap) : Json := .object (facts.map (fun (fact, nodes) => (fact, .object nodes)))

/-- The value of a fact of a node. -/
def value? (facts : FactMap) (fact certname : String) : Option Json :=
  (facts.find? fact).bind (fun nodes => nodes.find? certname)

end FactMap

end InventoryQuery
