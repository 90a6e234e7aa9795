import InventoryQuery.Proofs.Inventory.Selection
import InventoryQuery.Proofs.Predicate.Narrowing

/-!
# What queries for facts select

A query for facts names the wanted facts, or none if all are wanted, and selects the nodes by a
predicate. A row for a fact of a node meets it when the fact is a wanted one and the predicate
holds of the row. It then holds of the node as well, and the other way round, as long as the
predicate asks for no presence of another fact that the node reports: a presence is tested on the
row, and a row says nothing of the other facts of its node.
-/

namespace InventoryQuery

/-- Whether the row for a fact of a node meets a condition: a presence is that of the fact in the
row, and any other condition is one on the node. -/
def Leaf.isMetByFact (comparison : Comparison) (node : Node) (name : String) : Leaf → Bool
  | .record (.factPresence wanted) => name = wanted
  | condition => condition.isMetBy comparison node

/-- On a row for a fact of a node the presence of that fact, or of one that the node does not
report, is met as it is by the node, and so is any other condition. -/
theorem Leaf.isMetByFact_eq_isMetBy {comparison : Comparison} {node : Node} {name value : String}
    (hfact : (name, value) ∈ node.facts) {condition : Leaf}
    (hpresence : ∀ wanted, condition = .record (.factPresence wanted) →
      wanted ∈ node.facts.map Prod.fst → wanted = name) :
    condition.isMetByFact comparison node name = condition.isMetBy comparison node := by
  match condition with
  | .node m => rfl
  | .record (.fact m) => rfl
  | .record (.resource m) => rfl
  | .record (.factPresence wanted) =>
    rw [isMetByFact, isMetBy, Bool.eq_iff_iff, List.any_eq_true, decide_eq_true_eq]
    constructor
    · rintro rfl
      exact ⟨(name, value), hfact, by simp⟩
    · rintro ⟨fact, hmem, hname⟩
      obtain rfl := of_decide_eq_true hname
      exact (hpresence fact.1 rfl (List.mem_map_of_mem hmem)).symm

namespace Inventory

variable {inventory : Inventory} {comparison : Comparison} {node : Node}

/-- On the row of a node the query of a predicate asks whether the node meets its conditions. -/
theorem holds_node_eq_eval (hinventory : inventory.Consistent) (hnode : node ∈ inventory)
    {p : Predicate}
    (hoperator : ∀ condition ∈ p.leaves, ∀ operator ∈ condition.operator?, operator ∉ queryWords) :
    inventory.holds comparison (.node node) (p.toQuery .nodes) =
      p.eval (Leaf.isMetBy comparison node) := by
  rw [holds_toQuery]
  apply Predicate.eval_congr
  intro condition hcondition
  exact holds_node_leaf hinventory hnode (hoperator condition hcondition)

/-- On a row for a fact of a node the query of a predicate asks whether the row meets its
conditions. -/
theorem holds_fact_eq_eval (hinventory : inventory.Consistent) (hnode : node ∈ inventory)
    {p : Predicate}
    (hoperator : ∀ condition ∈ p.leaves, ∀ operator ∈ condition.operator?, operator ∉ queryWords)
    (name value : String) :
    inventory.holds comparison (.fact node.name name value) (p.toQuery .facts) =
      p.eval (Leaf.isMetByFact comparison node name) := by
  rw [holds_toQuery]
  apply Predicate.eval_congr
  intro condition hcondition
  have hwords := hoperator condition hcondition
  match condition with
  | .node m => exact holds_fact_leaf hinventory hnode (by simp) hwords name value
  | .record (.fact m) => exact holds_fact_leaf hinventory hnode (by simp) hwords name value
  | .record (.factPresence wanted) => exact holds_presence_filter wanted node.name name value
  | .record (.resource m) => exact holds_fact_leaf hinventory hnode (by simp) hwords name value

/-- A row for a fact meets a query for facts when its fact is wanted and the predicate holds of the
row. -/
theorem exists_factsQuery (inventory : Inventory) (comparison : Comparison) (names : List String)
    (q : Predicate) (certname name value : String) :
    ∃ p, factsQuery names (some q) = some p ∧
      inventory.holds comparison (.fact certname name value) (p.toQuery .facts) =
        (decide (names = [] ∨ name ∈ names) &&
          inventory.holds comparison (.fact certname name value) (q.toQuery .facts)) := by
  have htrue := evalQuery_factsQuery
    (fun condition =>
      inventory.holds comparison (.fact certname name value) (condition.toQuery .facts))
    names (some q)
  have hwanted :
      (names.isEmpty || names.any fun wanted => inventory.holds comparison
        (.fact certname name value) ((Leaf.record (.factPresence wanted)).toQuery .facts)) =
      decide (names = [] ∨ name ∈ names) := by
    rw [Bool.eq_iff_iff]
    simp [Leaf.toQuery, holds_presence_filter]
  rw [hwanted] at htrue
  cases hquery : factsQuery names (some q) with
  | none => exact absurd (factsQuery_eq_none_iff.mp hquery).2 (Option.some_ne_none q)
  | some p =>
    rw [hquery] at htrue
    exact ⟨p, rfl, by rw [holds_toQuery, holds_toQuery]; exact htrue⟩

/-- A row for a fact of a node meets a query for facts exactly when its fact is wanted and the
predicate selects the node, if the predicate asks for the presence of no other fact that the node
reports. -/
theorem holds_factsQuery_iff {inventory : Inventory} (hinventory : inventory.Consistent)
    (comparison : Comparison) (names : List String) {q : Predicate}
    (hoperator : ∀ condition ∈ q.leaves, ∀ operator ∈ condition.operator?, operator ∉ queryWords)
    {node : Node} (hnode : node ∈ inventory) {name value : String}
    (hfact : (name, value) ∈ node.facts)
    (hpresence : ∀ wanted, Leaf.record (.factPresence wanted) ∈ q.leaves →
      wanted ∈ node.facts.map Prod.fst → wanted = name) :
    ∃ p, factsQuery names (some q) = some p ∧
      (inventory.holds comparison (.fact node.name name value) (p.toQuery .facts) = true ↔
        (names = [] ∨ name ∈ names) ∧
          inventory.holds comparison (.node node) (q.toQuery .nodes) = true) := by
  obtain ⟨p, hp, hrow⟩ := exists_factsQuery inventory comparison names q node.name name value
  have hsame : q.eval (Leaf.isMetByFact comparison node name) =
      q.eval (Leaf.isMetBy comparison node) := by
    apply Predicate.eval_congr
    intro condition hcondition
    apply Leaf.isMetByFact_eq_isMetBy hfact
    rintro wanted rfl
    exact hpresence wanted hcondition
  refine ⟨p, hp, ?_⟩
  rw [hrow, holds_fact_eq_eval hinventory hnode hoperator, hsame,
    ← holds_node_eq_eval hinventory hnode hoperator, Bool.and_eq_true, decide_eq_true_eq]

/-- The interpretation in which every operator stands for equality. -/
def equality : Comparison := ⟨fun _ field value => decide (field = value), fun _ _ => rfl⟩

/-- The presence of one fact beside a condition on another. -/
def roleOnBsd : Predicate := .group .and [.factPresence "role", .fact ⟨"kernel", "BSD", "="⟩]

/-- The present fact is that of the row, and the condition is one on its node. -/
theorem holds_factsQuery_iff_roleOnBsd :
    Consistent [webNode, databaseNode] ∧ ("role", "db") ∈ databaseNode.facts ∧
    ∃ p, factsQuery ["role"] (some roleOnBsd) = some p ∧
      (holds [webNode, databaseNode] equality (.fact "db01" "role" "db") (p.toQuery .facts) = true ↔
        (["role"] = [] ∨ "role" ∈ ["role"]) ∧
          holds [webNode, databaseNode] equality (.node databaseNode) (roleOnBsd.toQuery .nodes) =
            true) := by
  have hinventory : Consistent [webNode, databaseNode] := ⟨by decide, by decide⟩
  have hnode : databaseNode ∈ [webNode, databaseNode] := by simp
  have hfact : ("role", "db") ∈ databaseNode.facts := by decide
  refine ⟨hinventory, hfact,
    holds_factsQuery_iff hinventory equality ["role"] ?_ hnode hfact ?_⟩
  · decide
  · simp [roleOnBsd, Predicate.leaves, Predicate.leavesOfAll, Predicate.fact,
      Predicate.factPresence]

/-- No row meets a query for facts by a presence, when facts are wanted and it is that of none of
them. -/
theorem holds_factsQuery_factPresence (inventory : Inventory) (comparison : Comparison)
    {names : List String} {wanted : String} (hnames : names ≠ []) (hother : wanted ∉ names)
    (certname name value : String) :
    ∃ p, factsQuery names (some (.factPresence wanted)) = some p ∧
      inventory.holds comparison (.fact certname name value) (p.toQuery .facts) = false := by
  obtain ⟨p, hp, hrow⟩ :=
    exists_factsQuery inventory comparison names (.factPresence wanted) certname name value
  have hpresence : inventory.holds comparison (.fact certname name value)
      ((Predicate.factPresence wanted).toQuery .facts) = decide (name = wanted) :=
    holds_presence_filter wanted certname name value
  refine ⟨p, hp, ?_⟩
  rw [hrow, hpresence, Bool.and_eq_false_imp, decide_eq_true_eq, decide_eq_false_iff_not]
  rintro hmem rfl
  exact hmem.elim hnames hother

/-- A query for facts does not always select by the node: with the presence of a fact that is not
wanted, the wanted facts of a node that reports both are left out. -/
theorem not_forall_holds_factsQuery_iff :
    ¬ ∀ (inventory : Inventory) (comparison : Comparison) (names : List String) (q : Predicate),
      inventory.Consistent →
      (∀ condition ∈ q.leaves, ∀ operator ∈ condition.operator?, operator ∉ queryWords) →
      ∀ node ∈ inventory, ∀ name value, (name, value) ∈ node.facts →
        ∃ p, factsQuery names (some q) = some p ∧
          (inventory.holds comparison (.fact node.name name value) (p.toQuery .facts) = true ↔
            (names = [] ∨ name ∈ names) ∧
              inventory.holds comparison (.node node) (q.toQuery .nodes) = true) := by
  intro h
  have hinventory : Consistent [databaseNode] := ⟨by decide, by decide⟩
  have hoperator : ∀ condition ∈ (Predicate.factPresence "role").leaves,
      ∀ operator ∈ condition.operator?, operator ∉ queryWords := by
    simp [Predicate.leaves, Predicate.factPresence, Leaf.operator?]
  obtain ⟨p, hp, hiff⟩ := h [databaseNode] equality ["kernel"] (.factPresence "role") hinventory
    hoperator databaseNode (.head _) "kernel" "BSD" (by decide)
  have hnames : ["kernel"] ≠ [] := by decide
  have hother : "role" ∉ ["kernel"] := by decide
  obtain ⟨q, hq, hrow⟩ := holds_factsQuery_factPresence [databaseNode] equality hnames hother
    databaseNode.name "kernel" "BSD"
  have hnode : holds [databaseNode] equality (.node databaseNode)
      ((Predicate.factPresence "role").toQuery .nodes) = true := by
    rw [holds_node_eq_eval hinventory (.head _) hoperator]
    decide
  obtain rfl : p = q := Option.some.inj (hp.symm.trans hq)
  have hselected := hiff.mpr ⟨.inr (.head _), hnode⟩
  rw [hrow] at hselected
  exact absurd hselected Bool.false_ne_true

end Inventory

end InventoryQuery
