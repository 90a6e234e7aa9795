import InventoryQuery.Proofs.Inventory.Rows

/-!
# What predicates select

A predicate asks something of a node. Put to the node endpoint it is tested on the row of the node,
and put to the fact endpoint on each row for a fact of the node. The connectives mean the same in
both, so that everything rests on the leaves: a condition on the row of the node has to agree with
the sub-query that joins another entity to the row.
-/

namespace InventoryQuery

open Json (string array)

/-- The operator of a condition; the presence of a fact has none. -/
def Leaf.operator? : Leaf → Option String
  | .node m => some m.operator
  | .record (.fact m) => some m.operator
  | .record (.factPresence _) => none
  | .record (.resource m) => some m.operator

namespace Predicate

/-- The truth of a predicate depends on its own conditions alone. -/
theorem eval_congr {f g : Leaf → Bool} {p : Predicate}
    (h : ∀ condition ∈ p.leaves, f condition = g condition) : p.eval f = p.eval g := by
  induction p using inductionOn with
  | leaf condition => simpa [eval, leaves] using h
  | not negated ih => rw [eval, eval, ih (by simpa only [leaves] using h)]
  | group connective members ih =>
    have hmembers : ∀ p ∈ members, p.eval f = p.eval g := by
      intro p hp
      exact ih p hp (forall_leaves_group.mp h p hp)
    have hvalues : members.map (eval f) = members.map (eval g) := List.map_congr_left hmembers
    cases connective with
    | and => simpa [eval, evalAll_eq_all] using congrArg (List.all · id) hvalues
    | or => simpa [eval, evalAny_eq_any] using congrArg (List.any · id) hvalues

end Predicate

/-- Whether a node meets a condition: its name compares as asked, a fact of the asked name is there
and its value compares as asked, or a resource of the asked type is. -/
def Leaf.isMetBy (comparison : Comparison) (node : Node) : Leaf → Bool
  | .node m => comparison.holds m.operator (string node.name) (string m.identifier)
  | .record (.fact m) =>
    node.facts.any fun fact =>
      fact.1 = m.name && comparison.holds m.operator (string fact.2) (string m.value)
  | .record (.factPresence name) => node.facts.any fun fact => fact.1 = name
  | .record (.resource m) =>
    node.resources.any fun resource =>
      resource.type = m.type &&
        comparison.holds m.operator (string resource.title) (string m.title) &&
        resource.exported = m.exported

/-- Among pairs with different keys, the one with a key is what a look-up finds. -/
theorem Keyed.any_eq_find? {α : Type} {map : Keyed α} (hkeys : (map.map Prod.fst).Nodup)
    (key : String) (test : α → Bool) :
    map.any (fun pair => pair.1 = key && test pair.2) = ((Keyed.find? key map).map test).getD false := by
  induction map with
  | nil => rfl
  | cons pair rest ih =>
    obtain ⟨k, v⟩ := pair
    simp only [List.map_cons, List.nodup_cons, List.mem_map, not_exists, not_and] at hkeys
    rw [List.any_cons, Keyed.find?]
    by_cases hk : k = key
    · have hrest : rest.any (fun pair => pair.1 = key && test pair.2) = false := by
        rw [List.any_eq_false]
        intro pair hpair
        have hne := hkeys.1 pair hpair
        simp [← hk, hne]
      simp [hk, hrest]
    · simp [hk, ih hkeys.2]

namespace Inventory

variable {inventory : Inventory} {comparison : Comparison} {node : Node}

/-- The filter for a fact on a row for a fact. -/
theorem holds_fact_filter {m : FactMatch} (hoperator : m.operator ∉ queryWords)
    (certname name value : String) :
    inventory.holds comparison (.fact certname name value) (RecordMatch.fact m).nameValueFilter =
      (decide (name = m.name) && comparison.holds m.operator (string value) (string m.value)) := by
  have hname : (Record.fact certname name value).field? "name" = some (string name) := rfl
  have hvalue : (Record.fact certname name value).field? "value" = some (string value) := rfl
  rw [RecordMatch.nameValueFilter, holds, holdsAll, holdsAll, holdsAll, Json.comparison,
    Json.comparison, holds_equals hname, holds_comparison hoperator]
  simp [holdsComparison, hvalue]

/-- The filter for the presence of a fact on a row for a fact. -/
theorem holds_presence_filter (wanted certname name value : String) :
    inventory.holds comparison (.fact certname name value)
        (RecordMatch.factPresence wanted).nameValueFilter = decide (name = wanted) := by
  have hname : (Record.fact certname name value).field? "name" = some (string name) := rfl
  rw [RecordMatch.nameValueFilter, Json.comparison, holds_equals hname]
  simp

/-- The filter for a resource on a row for a resource. -/
theorem holds_resource_filter {m : ResourceMatch} (hoperator : m.operator ∉ queryWords)
    (certname : String) (resource : Resource) :
    inventory.holds comparison (.resource certname resource)
        (RecordMatch.resource m).nameValueFilter =
      (decide (resource.type = m.type) &&
        comparison.holds m.operator (string resource.title) (string m.title) &&
        decide (resource.exported = m.exported)) := by
  have htype : (Record.resource certname resource).field? "type" = some (string resource.type) := rfl
  have htitle : (Record.resource certname resource).field? "title" =
      some (string resource.title) := rfl
  have hexported : (Record.resource certname resource).field? "exported" =
      some (.bool resource.exported) := rfl
  rw [RecordMatch.nameValueFilter, holds, holdsAll, holdsAll, holdsAll, holdsAll, Json.comparison,
    Json.comparison, holds_equals htype, holds_comparison hoperator, holds_equals hexported]
  simp [holdsComparison, htitle, Bool.and_assoc]

/-- On the row of a node the query of a condition asks whether the node meets it. -/
theorem holds_node_leaf (hinventory : inventory.Consistent) (hnode : node ∈ inventory)
    {condition : Leaf} (hoperator : ∀ operator ∈ condition.operator?, operator ∉ queryWords) :
    inventory.holds comparison (.node node) (condition.toQuery .nodes) =
      condition.isMetBy comparison node := by
  have hjoin : (Record.node node).field? "name" = some (string node.name) := rfl
  match condition with
  | .node m =>
    rw [Leaf.toQuery, Json.comparison, holds_comparison (hoperator _ rfl)]
    rfl
  | .record (.fact m) =>
    rw [Leaf.toQuery, holds_comparison (hoperator _ rfl), Leaf.isMetBy,
      Keyed.any_eq_find? (hinventory.2 node hnode)
        m.name (fun value => comparison.holds m.operator (string value) (string m.value))]
    simp [holdsComparison, Record.fact?, Function.comp_def]
  | .record (.factPresence name) =>
    rw [Leaf.toQuery, Subquery.factsForNodes, holds_wrap_facts hinventory hnode hjoin, Leaf.isMetBy]
    simp only [holds_presence_filter]
  | .record (.resource m) =>
    rw [Leaf.toQuery, Subquery.resourcesForNodes, holds_wrap_resources hinventory hnode hjoin,
      Leaf.isMetBy]
    simp only [holds_resource_filter (hoperator _ rfl)]

/-- On a row for a fact of a node the query of a condition asks whether the node meets it, unless
the condition is the presence of a fact, which is tested on the row itself. -/
theorem holds_fact_leaf (hinventory : inventory.Consistent) (hnode : node ∈ inventory)
    {condition : Leaf} (hpresence : ∀ name, condition ≠ .record (.factPresence name))
    (hoperator : ∀ operator ∈ condition.operator?, operator ∉ queryWords) (name value : String) :
    inventory.holds comparison (.fact node.name name value) (condition.toQuery .facts) =
      condition.isMetBy comparison node := by
  have hjoin : (Record.fact node.name name value).field? "certname" = some (string node.name) := rfl
  match condition with
  | .node m =>
    rw [Leaf.toQuery, Json.comparison, holds_comparison (hoperator _ rfl)]
    rfl
  | .record (.fact m) =>
    rw [Leaf.toQuery, Subquery.factsForFacts, holds_wrap_facts hinventory hnode hjoin, Leaf.isMetBy]
    simp only [holds_fact_filter (hoperator _ rfl)]
  | .record (.factPresence wanted) => exact absurd rfl (hpresence wanted)
  | .record (.resource m) =>
    rw [Leaf.toQuery, Subquery.resourcesForFacts, holds_wrap_resources hinventory hnode hjoin,
      Leaf.isMetBy]
    simp only [holds_resource_filter (hoperator _ rfl)]

/-- The two endpoints select the same nodes. A predicate without presences, whose operators are no
words of the query language, holds of any row for a fact of a node exactly when it holds of the row
of the node. -/
theorem holds_facts_eq_holds_nodes {inventory : Inventory} (hinventory : inventory.Consistent)
    (comparison : Comparison) {p : Predicate}
    (hpresence : ∀ name, Leaf.record (.factPresence name) ∉ p.leaves)
    (hoperator : ∀ condition ∈ p.leaves, ∀ operator ∈ condition.operator?, operator ∉ queryWords)
    {node : Node} (hnode : node ∈ inventory) (name value : String) :
    inventory.holds comparison (.fact node.name name value) (p.toQuery .facts) =
      inventory.holds comparison (.node node) (p.toQuery .nodes) := by
  rw [holds_toQuery, holds_toQuery]
  apply Predicate.eval_congr
  intro condition hcondition
  have hnoPresence : ∀ name, condition ≠ .record (.factPresence name) := by
    rintro name rfl
    exact hpresence name hcondition
  rw [holds_fact_leaf hinventory hnode hnoPresence (hoperator condition hcondition),
    holds_node_leaf hinventory hnode (hoperator condition hcondition)]

/-- A node that exports a resource. -/
def webNode : Node := ⟨"web01", [("kernel", "Linux")], [⟨"Class", "Nginx", true⟩]⟩

/-- A node with two facts. -/
def databaseNode : Node := ⟨"db01", [("kernel", "BSD"), ("role", "db")], []⟩

/-- A negated condition on a resource beside one on a fact, where `~` compares as `=` does. -/
theorem holds_facts_eq_holds_nodes_database :
    Consistent [webNode, databaseNode] ∧
    holds [webNode, databaseNode] ⟨fun _ field value => decide (field = value), fun _ _ => rfl⟩
        (.fact "db01" "role" "db")
        ((Predicate.group .and [.fact ⟨"kernel", "BSD", "~"⟩,
          .not (.resource ⟨"Class", "Nginx", true, "="⟩)]).toQuery .facts) =
      holds [webNode, databaseNode] ⟨fun _ field value => decide (field = value), fun _ _ => rfl⟩
        (.node databaseNode)
        ((Predicate.group .and [.fact ⟨"kernel", "BSD", "~"⟩,
          .not (.resource ⟨"Class", "Nginx", true, "="⟩)]).toQuery .nodes) := by
  have hinventory : Consistent [webNode, databaseNode] := ⟨by decide, by decide⟩
  have hnode : databaseNode ∈ [webNode, databaseNode] := by simp
  refine ⟨hinventory, holds_facts_eq_holds_nodes hinventory _ ?_ ?_ hnode "role" "db"⟩
  · simp [Predicate.leaves, Predicate.leavesOfAll, Predicate.fact, Predicate.resource]
  · simp [Predicate.leaves, Predicate.leavesOfAll, Predicate.fact, Predicate.resource,
      Leaf.operator?, queryWords]

end Inventory

end InventoryQuery
