import InventoryQuery.Json.Printer
import InventoryQuery.Predicate.Basic

/-!
# Sub-queries

A condition on a fact or a resource says something about another entity than the rows of the
endpoint that is asked. It is therefore put as a membership test: the join field of the outer row
has to occur among the values of a field that is extracted from the selected entity's rows,

`["in", join, ["extract", extract, [select, condition]]]`.
-/

namespace InventoryQuery

open Json (string array)

/-- The comparison of a field with a text. -/
def Json.comparison (operator field value : String) : Json :=
  array [string operator, string field, string value]

/-- The condition as a test of one row of the entity that it describes. -/
def RecordMatch.nameValueFilter : RecordMatch → Json
  | .fact m =>
    array [string "and", .comparison equals "name" m.name, .comparison m.operator "value" m.value]
  | .factPresence name => .comparison equals "name" name
  | .resource m =>
    array [string "and", .comparison equals "type" m.type, .comparison m.operator "title" m.title,
      array [string equals, string "exported", .bool m.exported]]

/-- Which entity a sub-query selects, the field it extracts and the field of the outer row that
the extracted values are compared with. -/
structure Subquery where
  select : String
  extract : String
  join : String
  deriving DecidableEq, Repr

namespace Subquery

/-- The nodes that declare a resource; a row of a node carries its name in `name`. -/
def resourcesForNodes : Subquery := ⟨"select_resources", "certname", "name"⟩

/-- The fact rows of the nodes that declare a resource. -/
def resourcesForFacts : Subquery := ⟨"select_resources", "certname", "certname"⟩

/-- The nodes that report a fact. -/
def factsForNodes : Subquery := ⟨"select_facts", "certname", "name"⟩

/-- The fact rows of the nodes that report a fact. -/
def factsForFacts : Subquery := ⟨"select_facts", "certname", "certname"⟩

/-- The sub-query for the rows that meet a condition. -/
def wrap (s : Subquery) (condition : RecordMatch) : Json :=
  array [string "in", string s.join,
    array [string "extract", string s.extract,
      array [string s.select, condition.nameValueFilter]]]

/-- The text of the sub-query for the rows that meet a condition. -/
def render (s : Subquery) (condition : RecordMatch) : String := (s.wrap condition).compact

end Subquery

end InventoryQuery
