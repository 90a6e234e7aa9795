import InventoryQuery.Json.Basic

/-!
# Inventories

What the server keeps of every node, the rows in which it is asked for, and what a query says about
a row. A query is a comparison of a field, a connective of queries, or a membership test: a field
of the row has to occur among the values of a field in the rows of an entity that meet a condition.
-/

namespace InventoryQuery

/-- A resource in the catalog of a node. -/
structure Resource where
  type : String
  title : String
  exported : Bool
  deriving DecidableEq, Repr

/-- A node with its facts and resources. -/
structure Node where
  name : String
  facts : Keyed String
  resources : List Resource
  deriving DecidableEq, Repr

/-- What the server keeps. -/
abbrev Inventory := List Node

/-- A row of the lists that can be asked for. -/
inductive Record where
  | node (node : Node)
  | fact (certname name value : String)
  | resource (certname : String) (resource : Resource)
  deriving DecidableEq, Repr

/-- How the operators compare a field with a value. The equals sign stands for equality. -/
structure Comparison where
  holds : String → Json → Json → Bool
  holds_equals : ∀ field value, holds "=" field value = decide (field = value)

/-- The value of a field of a row. -/
def Record.field? : Record → String → Option Json
  | .node owner, field => if field = "name" then some (.string owner.name) else none
  | .fact certname name value, field =>
    if field = "certname" then some (.string certname)
    else if field = "name" then some (.string name)
    else if field = "value" then some (.string value)
    else none
  | .resource certname declared, field =>
    if field = "certname" then some (.string certname)
    else if field = "type" then some (.string declared.type)
    else if field = "title" then some (.string declared.title)
    else if field = "exported" then some (.bool declared.exported)
    else none

/-- The value of a fact of the node that a row stands for. -/
def Record.fact? : Record → String → Option Json
  | .node owner, name => (Keyed.find? name owner.facts).map .string
  | _, _ => none

namespace Inventory

/-- No two nodes have one name, and no node has two values for one fact. -/
def Consistent (inventory : Inventory) : Prop :=
  (inventory.map Node.name).Nodup ∧ ∀ node ∈ inventory, (node.facts.map Prod.fst).Nodup

/-- The rows for the facts of a node. -/
def factRecords (node : Node) : List Record :=
  node.facts.map (fun (name, value) => .fact node.name name value)

/-- The rows for the resources of a node. -/
def resourceRecords (node : Node) : List Record :=
  node.resources.map (fun resource => .resource node.name resource)

/-- The rows that a selection asks for. -/
def select (inventory : Inventory) (selection : String) : List Record :=
  if selection = "select_facts" then inventory.flatMap factRecords
  else if selection = "select_resources" then inventory.flatMap resourceRecords
  else []

/-- Whether a comparison holds of a row. The left side is a field of the row, or a fact of the node
that the row stands for. -/
def holdsComparison (comparison : Comparison) (record : Record) (operator : String)
    (field value : Json) : Bool :=
  let found :=
    match field with
    | .string name => record.field? name
    | .array [.string "fact", .string name] => record.fact? name
    | _ => none
  (found.map (comparison.holds operator · value)).getD false

mutual

/-- Whether a query holds of a row. -/
def holds (inventory : Inventory) (comparison : Comparison) (record : Record) : Json → Bool
  | .array [.string "not", query] => !holds inventory comparison record query
  | .array (.string "and" :: queries) => holdsAll inventory comparison record queries
  | .array (.string "or" :: queries) => holdsAny inventory comparison record queries
  | .array [.string "in", .string join,
      .array [.string "extract", .string extract, .array [.string selection, query]]] =>
    (inventory.select selection).any fun other =>
      holds inventory comparison other query && (other.field? extract).isSome &&
        other.field? extract = record.field? join
  | .array [.string operator, field, value] =>
    holdsComparison comparison record operator field value
  | _ => false

/-- Whether every query holds of a row. -/
def holdsAll (inventory : Inventory) (comparison : Comparison) (record : Record) :
    List Json → Bool
  | [] => true
  | query :: queries =>
    holds inventory comparison record query && holdsAll inventory comparison record queries

/-- Whether some query holds of a row. -/
def holdsAny (inventory : Inventory) (comparison : Comparison) (record : Record) :
    List Json → Bool
  | [] => false
  | query :: queries =>
    holds inventory comparison record query || holdsAny inventory comparison record queries

end

end Inventory

end InventoryQuery
