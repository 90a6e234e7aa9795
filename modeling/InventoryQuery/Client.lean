import InventoryQuery.Activity
import InventoryQuery.FactMap

/-!
# The client

Queries for nodes and for facts. A query is put to its endpoint through a transport, which answers
a path and an optional query text with a JSON value, and the answer is read as rows.
-/

namespace InventoryQuery

/-- A way to put a query to an endpoint: a path and an optional query text are answered with a
JSON value. -/
structure Transport (ρ : Type) where
  get : (path : String) → (query : Option String) → Activity ρ Json

/-- The predicate for the fact endpoint: the fact is one of the named ones, if any are named, and
the given predicate holds, if there is one. -/
def factsQuery (names : List String) (query : Option Predicate) : Option Predicate :=
  match Predicate.group? .or (names.map Predicate.factPresence), query with
  | some byName, some query => some (.group .and [byName, query])
  | some byName, none => some byName
  | none, query => query

namespace Client

variable {ρ : Type}

/-- The names of the nodes that a predicate selects, or of all nodes. -/
def nodes (transport : Transport ρ) (query : Option Predicate) : Activity ρ (List String) := do
  let answer ← transport.get Endpoint.nodes.path (query.map (Predicate.render · .nodes))
  let names ← .ofExcept ((nodeNames answer).mapError .shape)
  .write .debug (String.ofList (decimalDigits names.length) ++ " nodes matched")
  return names

/-- A query for nodes that is answered ends with the names in the answer. -/
theorem result_nodes {transport : Transport ρ} {query : Option Predicate} {answer : Json}
    (hanswer : (transport.get Endpoint.nodes.path (query.map (Predicate.render · .nodes))).result =
      .ok answer) :
    (nodes transport query).result = (nodeNames answer).mapError .shape := by
  rw [nodes, Activity.result_bind_ok hanswer]
  cases nodeNames answer <;> rfl

/-- The named facts, or all facts, of the nodes that a predicate selects, or of all nodes. -/
def facts (transport : Transport ρ) (names : List String) (query : Option Predicate) :
    Activity ρ FactMap := do
  let rendered := (factsQuery names query).map (Predicate.render · .facts)
  let answer ← transport.get Endpoint.facts.path rendered
  let facts ← .ofExcept ((FactMap.ofAnswer answer).mapError .shape)
  .write .debug (String.ofList (decimalDigits facts.length) ++ " facts returned")
  return facts

/-- A query for facts that is answered ends with the map of the rows in the answer. -/
theorem result_facts {transport : Transport ρ} {names : List String} {query : Option Predicate}
    {answer : Json}
    (hanswer : (transport.get Endpoint.facts.path
      ((factsQuery names query).map (Predicate.render · .facts))).result = .ok answer) :
    (facts transport names query).result = (FactMap.ofAnswer answer).mapError .shape := by
  rw [facts, Activity.result_bind_ok hanswer]
  cases FactMap.ofAnswer answer <;> rfl

end Client

end InventoryQuery
