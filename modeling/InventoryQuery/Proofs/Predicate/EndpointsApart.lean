import InventoryQuery.Predicate.Truth
import InventoryQuery.Proofs.Predicate.Unambiguous

/-!
# Queries of the two endpoints

The rows of the two endpoints name the node in different fields, so almost every query says at
which endpoint it is meant to be put. The exception is a comparison with the field `name`: it tests
the name of a node at the one endpoint and the presence of a fact at the other. The texts that both
endpoints share are exactly those that are built from such comparisons.
-/

namespace InventoryQuery

/-- The two conditions that are put alike, one at the node endpoint and the other at the fact
endpoint: a node has a name, and a fact of that name is present. -/
def Leaf.IsNamesakeOf (nodeLeaf factLeaf : Leaf) : Prop :=
  ∃ name, nodeLeaf = .node ⟨name, equals⟩ ∧ factLeaf = .record (.factPresence name)

/-- No condition is its own namesake: one is on a node and the other on a fact. -/
theorem Leaf.not_isNamesakeOf_self (condition : Leaf) : ¬ condition.IsNamesakeOf condition := by
  rintro ⟨name, hnode, hfact⟩
  rw [hnode] at hfact
  exact Leaf.noConfusion hfact

/-- Two conditions are put alike at the two endpoints if and only if they are namesakes. A sub-query
is never put like a comparison, and the two fields for the name of a node differ. -/
theorem Leaf.toQuery_nodes_eq_toQuery_facts_iff {a b : Leaf} :
    a.toQuery .nodes = b.toQuery .facts ↔ a.IsNamesakeOf b := by
  constructor
  · intro h
    cases a with
    | node m =>
      obtain ⟨identifier, operator⟩ := m
      cases b with
      | node n => simp [toQuery, Json.comparison, Endpoint.nodeField] at h
      | record condition =>
        cases condition with
        | fact n => simp [toQuery, Json.comparison, Subquery.wrap] at h
        | resource n => simp [toQuery, Json.comparison, Subquery.wrap] at h
        | factPresence name =>
          simp only [toQuery, Json.comparison, RecordMatch.nameValueFilter, Json.array.injEq,
            List.cons.injEq, Json.string.injEq, and_true] at h
          obtain ⟨hoperator, -, hidentifier⟩ := h
          rw [hoperator, hidentifier]
          exact ⟨name, rfl, rfl⟩
    | record condition =>
      cases b with
      | node n =>
        cases condition <;>
          simp [toQuery, Json.comparison, Subquery.wrap, Endpoint.nodeField] at h
      | record other =>
        cases condition <;> cases other <;>
          simp [toQuery, Json.comparison, Subquery.wrap, RecordMatch.nameValueFilter,
            Subquery.factsForNodes, Subquery.factsForFacts, Subquery.resourcesForNodes,
            Subquery.resourcesForFacts] at h
  · rintro ⟨name, rfl, rfl⟩
    rfl

namespace Predicate

mutual

/-- Whether two predicates have the same connectives and negations place by place, and related
leaves at the places of leaves. -/
def Corresponds (related : Leaf → Leaf → Prop) : Predicate → Predicate → Prop
  | leaf a, leaf b => related a b
  | not p, not q => Corresponds related p q
  | group c ps, group d qs => c = d ∧ CorrespondAll related ps qs
  | _, _ => False

/-- Whether two lists of predicates are equally long and correspond place by place. -/
def CorrespondAll (related : Leaf → Leaf → Prop) : List Predicate → List Predicate → Prop
  | [], [] => True
  | p :: ps, q :: qs => Corresponds related p q ∧ CorrespondAll related ps qs
  | _, _ => False

end

mutual

/-- Two predicates are put alike at the two endpoints if and only if they have the same connectives
around namesakes. -/
theorem toQuery_nodes_eq_toQuery_facts_iff :
    ∀ p q : Predicate,
      p.toQuery .nodes = q.toQuery .facts ↔ Corresponds Leaf.IsNamesakeOf p q
  | leaf a, leaf b => by
    rw [toQuery, toQuery, Corresponds]
    exact Leaf.toQuery_nodes_eq_toQuery_facts_iff
  | not p, not q => by
    rw [Corresponds, ← toQuery_nodes_eq_toQuery_facts_iff p q]
    simp [toQuery]
  | group c ps, group d qs => by
    rw [Corresponds, ← toQueries_nodes_eq_toQueries_facts_iff ps qs]
    simp only [toQuery, Json.array.injEq, List.cons.injEq, Json.string.injEq]
    exact and_congr_left fun _ => ⟨Connective.word_injective, congrArg Connective.word⟩
  | leaf _, not _ => iff_of_false leaf_toQuery_ne_not id
  | leaf _, group _ _ => iff_of_false leaf_toQuery_ne_group id
  | not _, leaf _ => iff_of_false leaf_toQuery_ne_not.symm id
  | not _, group _ _ => iff_of_false not_toQuery_ne_group id
  | group _ _, leaf _ => iff_of_false leaf_toQuery_ne_group.symm id
  | group _ _, not _ => iff_of_false not_toQuery_ne_group.symm id

/-- Two lists of predicates are put alike at the two endpoints if and only if they correspond. -/
theorem toQueries_nodes_eq_toQueries_facts_iff :
    ∀ ps qs : List Predicate,
      toQueries .nodes ps = toQueries .facts qs ↔ CorrespondAll Leaf.IsNamesakeOf ps qs
  | [], [] => iff_of_true rfl trivial
  | [], _ :: _ => iff_of_false (List.cons_ne_nil _ _).symm id
  | _ :: _, [] => iff_of_false (List.cons_ne_nil _ _) id
  | p :: ps, q :: qs => by
    rw [CorrespondAll, ← toQuery_nodes_eq_toQuery_facts_iff p q,
      ← toQueries_nodes_eq_toQueries_facts_iff ps qs, toQueries, toQueries, List.cons.injEq]

end

/-- A predicate without an empty connective has a leaf, and corresponds to itself only if this leaf
is related to itself. -/
theorem not_corresponds_self {related : Leaf → Leaf → Prop} (hirrefl : ∀ a, ¬ related a a) :
    ∀ p : Predicate, p.hasEmptyGroup = false → ¬ Corresponds related p p
  | leaf condition, _ => hirrefl condition
  | not p, hfull => not_corresponds_self hirrefl p hfull
  | group _ [], hfull => Bool.noConfusion hfull
  | group _ (p :: ps), hfull => by
    simp only [hasEmptyGroup, haveEmptyGroup, List.isEmpty_cons, Bool.false_or,
      Bool.or_eq_false_iff] at hfull
    rintro ⟨-, hfirst, -⟩
    exact not_corresponds_self hirrefl p hfull.1 hfirst

/-- The text of one predicate at the node endpoint is that of another one at the fact endpoint if
and only if they have the same connectives, and at each leaf the one asks for the name of a node
and the other for the presence of the fact of that name. In particular the two texts of a predicate
without an empty connective differ. -/
theorem render_nodes_eq_render_facts_iff (p q : Predicate) :
    (p.render .nodes = q.render .facts ↔ Corresponds Leaf.IsNamesakeOf p q) ∧
      (p.hasEmptyGroup = false → p.render .nodes ≠ p.render .facts) := by
  have hrender (r : Predicate) :
      p.render .nodes = r.render .facts ↔ Corresponds Leaf.IsNamesakeOf p r := by
    rw [← toQuery_nodes_eq_toQuery_facts_iff]
    constructor
    · exact Json.compact_injective (toQuery_isPlain .nodes p) (toQuery_isPlain .facts r)
    · exact congrArg Json.compact
  refine ⟨hrender q, ?_⟩
  intro hfull htexts
  exact not_corresponds_self Leaf.not_isNamesakeOf_self p hfull ((hrender p).mp htexts)

/-- The nodes that are named web or not named db. -/
def webOrNotDb : Predicate := group .or [node ⟨"web", equals⟩, not (node ⟨"db", equals⟩)]

/-- The facts that are named web or not named db. -/
def webOrNotDbFact : Predicate := group .or [factPresence "web", not (factPresence "db")]

/-- Nodes and facts that are named web or not named db are asked for by one text, which is not the
text that asks for the facts of these nodes. -/
theorem render_nodes_eq_render_facts_webOrNotDb :
    webOrNotDb.render .nodes = webOrNotDbFact.render .facts ∧
      webOrNotDb.render .nodes ≠ webOrNotDb.render .facts := by
  have hnamesakes : Corresponds Leaf.IsNamesakeOf webOrNotDb webOrNotDbFact :=
    ⟨rfl, ⟨"web", rfl, rfl⟩, ⟨"db", rfl, rfl⟩, trivial⟩
  exact ⟨(render_nodes_eq_render_facts_iff webOrNotDb webOrNotDbFact).1.mpr hnamesakes,
    (render_nodes_eq_render_facts_iff webOrNotDb webOrNotDb).2 rfl⟩

end Predicate

end InventoryQuery
