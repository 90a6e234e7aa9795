import InventoryQuery.Inventory
import InventoryQuery.Predicate.Render
import InventoryQuery.Predicate.Truth
import Mathlib.Data.List.Nodup

/-!
# Queries on rows

What each form of a query says about a row: a comparison tests a field, a connective combines what
its members say, and a sub-query asks whether a row of the joined node meets a condition.
-/

namespace InventoryQuery

open Json (string array)

/-- The words that a query starts with when it is no comparison. -/
def queryWords : List String := ["and", "or", "not", "in"]

namespace Inventory

variable {inventory : Inventory} {comparison : Comparison} {record : Record}

/-- A query that starts with none of the words of the language is a comparison. -/
theorem holds_comparison {operator : String} (hoperator : operator ∉ queryWords)
    (field value : Json) :
    inventory.holds comparison record (array [string operator, field, value]) =
      holdsComparison comparison record operator field value := by
  simp only [queryWords, List.mem_cons, not_or] at hoperator
  obtain ⟨hand, hor, _, hin, _⟩ := hoperator
  rw [holds]
  · simpa using hand
  · simpa using hor
  · simp [hin]

/-- A comparison with the equals sign holds of a field that has the value. -/
theorem holds_equals {field : String} {found : Json} (hfield : record.field? field = some found)
    (value : Json) :
    inventory.holds comparison record (array [string equals, string field, value]) =
      decide (found = value) := by
  rw [holds_comparison (by decide)]
  simp [holdsComparison, hfield, equals, comparison.holds_equals]

/-- All queries of a list hold when each of them does. -/
theorem holdsAll_eq_all (queries : List Json) :
    inventory.holdsAll comparison record queries =
      queries.all (inventory.holds comparison record) := by
  induction queries with
  | nil => rfl
  | cons query queries ih => rw [holdsAll, ih, List.all_cons]

/-- Some query of a list holds when one of them does. -/
theorem holdsAny_eq_any (queries : List Json) :
    inventory.holdsAny comparison record queries =
      queries.any (inventory.holds comparison record) := by
  induction queries with
  | nil => rfl
  | cons query queries ih => rw [holdsAny, ih, List.any_cons]

/-- A row meets the query of a predicate when the predicate is true of what the row says about each
condition. Negations and connectives mean the same at both endpoints. -/
theorem holds_toQuery (endpoint : Endpoint) (p : Predicate) :
    inventory.holds comparison record (p.toQuery endpoint) =
      p.eval (fun condition => inventory.holds comparison record (condition.toQuery endpoint)) := by
  induction p using Predicate.inductionOn with
  | leaf condition => rw [Predicate.toQuery, Predicate.eval]
  | not negated ih => rw [Predicate.toQuery, holds, ih, Predicate.eval]
  | group connective members ih =>
    have hvalues := List.map_congr_left ih
    cases connective with
    | and =>
      rw [Predicate.toQuery, Connective.word, holds, holdsAll_eq_all, Predicate.toQueries_eq_map,
        Predicate.eval, Predicate.evalAll_eq_all]
      simpa [Function.comp_def] using congrArg (List.all · id) hvalues
    | or =>
      rw [Predicate.toQuery, Connective.word, holds, holdsAny_eq_any, Predicate.toQueries_eq_map,
        Predicate.eval, Predicate.evalAny_eq_any]
      simpa [Function.comp_def] using congrArg (List.any · id) hvalues

/-- Names tell the nodes of an inventory apart. -/
theorem Consistent.eq_of_name_eq (hinventory : inventory.Consistent) {a b : Node}
    (ha : a ∈ inventory) (hb : b ∈ inventory) (hname : a.name = b.name) : a = b :=
  List.inj_on_of_nodup_map hinventory.1 ha hb hname

/-- A sub-query holds of a row when a row of the joined node meets its condition. The rows of other
nodes carry other names and do not join. -/
theorem holds_wrap (hinventory : inventory.Consistent) {node : Node} (hnode : node ∈ inventory)
    {s : Subquery} {rows : Node → List Record} (hselect : inventory.select s.select = inventory.flatMap rows)
    (hextract : ∀ owner, ∀ row ∈ rows owner, row.field? s.extract = some (string owner.name))
    (hjoin : record.field? s.join = some (string node.name)) (condition : RecordMatch) :
    inventory.holds comparison record (s.wrap condition) =
      (rows node).any (fun row => inventory.holds comparison row condition.nameValueFilter) := by
  rw [Subquery.wrap, holds, hselect, Bool.eq_iff_iff, List.any_eq_true, List.any_eq_true]
  constructor
  · rintro ⟨row, hrow, htest⟩
    obtain ⟨owner, howner, hrow⟩ := List.mem_flatMap.mp hrow
    simp only [hextract owner row hrow, hjoin, Bool.and_eq_true, decide_eq_true_eq,
      Option.some.injEq, Json.string.injEq] at htest
    have heq := hinventory.eq_of_name_eq howner hnode htest.2
    exact ⟨row, heq ▸ hrow, htest.1.1⟩
  · rintro ⟨row, hrow, htest⟩
    refine ⟨row, List.mem_flatMap.mpr ⟨node, hnode, hrow⟩, ?_⟩
    simp [htest, hextract node row hrow, hjoin]

/-- A sub-query for facts holds of a row when a fact of the joined node meets its condition. -/
theorem holds_wrap_facts (hinventory : inventory.Consistent) {node : Node} (hnode : node ∈ inventory)
    {join : String} (hjoin : record.field? join = some (string node.name))
    (condition : RecordMatch) :
    inventory.holds comparison record
        ((⟨"select_facts", "certname", join⟩ : Subquery).wrap condition) =
      node.facts.any (fun fact =>
        inventory.holds comparison (.fact node.name fact.1 fact.2) condition.nameValueFilter) := by
  have hextract : ∀ owner, ∀ row ∈ factRecords owner,
      row.field? "certname" = some (string owner.name) := by
    intro owner row hrow
    obtain ⟨fact, _, rfl⟩ := List.mem_map.mp hrow
    rfl
  rw [holds_wrap hinventory hnode rfl hextract hjoin, factRecords, List.any_map]
  rfl

/-- A sub-query for resources holds of a row when a resource of the joined node meets its
condition. -/
theorem holds_wrap_resources (hinventory : inventory.Consistent) {node : Node}
    (hnode : node ∈ inventory) {join : String}
    (hjoin : record.field? join = some (string node.name)) (condition : RecordMatch) :
    inventory.holds comparison record
        ((⟨"select_resources", "certname", join⟩ : Subquery).wrap condition) =
      node.resources.any (fun resource =>
        inventory.holds comparison (.resource node.name resource) condition.nameValueFilter) := by
  have hextract : ∀ owner, ∀ row ∈ resourceRecords owner,
      row.field? "certname" = some (string owner.name) := by
    intro owner row hrow
    obtain ⟨resource, _, rfl⟩ := List.mem_map.mp hrow
    rfl
  rw [holds_wrap hinventory hnode rfl hextract hjoin, resourceRecords, List.any_map]
  rfl

end Inventory

end InventoryQuery
