import InventoryQuery.Predicate.Subquery

/-!
# Queries for the two endpoints

A predicate is put to one of two endpoints. The rows of the node endpoint carry the node's name
in `name`, and a fact of the node is addressed as `["fact", name]`; the rows of the fact endpoint
carry `certname`, `name` and `value`. A condition that does not fit the rows of the endpoint
becomes a sub-query; the parts of a connective are put to the same endpoint as the whole.
-/

namespace InventoryQuery

open Json (string array)

/-- The lists of rows that can be asked for. -/
inductive Endpoint where
  | nodes
  | facts
  deriving DecidableEq, Repr

/-- The path of an endpoint below the version of the interface. -/
def Endpoint.path : Endpoint → String
  | .nodes => "/nodes"
  | .facts => "/facts"

/-- The field that holds the name of the node in the rows of an endpoint. -/
def Endpoint.nodeField : Endpoint → String
  | .nodes => "name"
  | .facts => "certname"

/-- The query that a leaf stands for. -/
def Leaf.toQuery : Leaf → Endpoint → Json
  | .node m, endpoint => .comparison m.operator endpoint.nodeField m.identifier
  | .record (.fact m), .nodes =>
    array [string m.operator, array [string "fact", string m.name], string m.value]
  | .record (.fact m), .facts => Subquery.factsForFacts.wrap (.fact m)
  | .record (.factPresence name), .nodes => Subquery.factsForNodes.wrap (.factPresence name)
  | .record (.factPresence name), .facts => (RecordMatch.factPresence name).nameValueFilter
  | .record (.resource m), .nodes => Subquery.resourcesForNodes.wrap (.resource m)
  | .record (.resource m), .facts => Subquery.resourcesForFacts.wrap (.resource m)

namespace Predicate

mutual

/-- The query that a predicate stands for. -/
def toQuery (endpoint : Endpoint) : Predicate → Json
  | leaf condition => condition.toQuery endpoint
  | not negated => array [string "not", toQuery endpoint negated]
  | group connective members => array (string connective.word :: toQueries endpoint members)

/-- The queries that the members of a group stand for. -/
def toQueries (endpoint : Endpoint) : List Predicate → List Json
  | [] => []
  | p :: ps => toQuery endpoint p :: toQueries endpoint ps

end

/-- The text of the query. -/
def render (p : Predicate) (endpoint : Endpoint) : String := (p.toQuery endpoint).compact

/-- Why a predicate has no name-value filter: it does not describe a record of its own. -/
inductive NoNameValueFilter where
  | nodeMatch
  | connective
  deriving DecidableEq, Repr

/-- The condition of a leaf on one row of the entity that it describes. -/
def nameValueFilter : Predicate → Except NoNameValueFilter Json
  | leaf (.record condition) => .ok condition.nameValueFilter
  | leaf (.node _) => .error .nodeMatch
  | not _ | group _ _ => .error .connective

/-- The text of the name-value filter. -/
def renderNameValueFilter (p : Predicate) : Except NoNameValueFilter String :=
  p.nameValueFilter.map Json.compact

/-- The queries for the members are the members' queries in order. -/
theorem toQueries_eq_map (endpoint : Endpoint) (ps : List Predicate) :
    toQueries endpoint ps = ps.map (toQuery endpoint) := by
  induction ps with
  | nil => rfl
  | cons p ps ih => rw [toQueries, ih, List.map_cons]

end Predicate

end InventoryQuery
