import InventoryQuery.Predicate.Render
import InventoryQuery.Proofs.Json.ReadBack

/-!
# Queries determine their predicates

Operators are free text and may spell a connective, and values may hold quotation marks and
brackets. Even so a query text stands for one predicate at each endpoint. The text determines the
query, since it can be read back, and the query determines the predicate, since the third part of
a leaf or the part in front of it is a text where a connective has a query.
-/

namespace InventoryQuery

open Json (string array)

/-- The filters of different conditions differ: those of a fact, of a presence and of a resource
have different lengths. -/
theorem RecordMatch.nameValueFilter_injective {a b : RecordMatch}
    (h : a.nameValueFilter = b.nameValueFilter) : a = b := by
  cases a with
  | fact m =>
    cases b with
    | fact n =>
      obtain ⟨_, _, _⟩ := m
      simp_all [nameValueFilter, Json.comparison]
    | factPresence name => simp [nameValueFilter, Json.comparison, equals] at h
    | resource n => simp [nameValueFilter] at h
  | factPresence name =>
    cases b with
    | fact n => simp [nameValueFilter, Json.comparison, equals] at h
    | factPresence name => simpa [nameValueFilter, Json.comparison] using h
    | resource n => simp [nameValueFilter, Json.comparison] at h
  | resource m =>
    cases b with
    | fact n => simp [nameValueFilter] at h
    | factPresence name => simp [nameValueFilter, Json.comparison] at h
    | resource n =>
      obtain ⟨_, _, _, _⟩ := m
      simp_all [nameValueFilter, Json.comparison]

namespace Subquery

/-- A sub-query determines its three names and the condition inside it. -/
theorem wrap_injective {s t : Subquery} {a b : RecordMatch} (h : s.wrap a = t.wrap b) :
    s = t ∧ a = b := by
  obtain ⟨select, extract, join⟩ := s
  simp only [wrap, Json.array.injEq, List.cons.injEq, Json.string.injEq, and_true, true_and] at h
  obtain ⟨hjoin, hextract, hselect, hcondition⟩ := h
  subst hjoin hextract hselect
  exact ⟨rfl, RecordMatch.nameValueFilter_injective hcondition⟩

end Subquery

namespace Leaf

/-- The query of a leaf is built from strings, truth values and lists. -/
theorem toQuery_isPlain (condition : Leaf) (endpoint : Endpoint) :
    (condition.toQuery endpoint).isPlain = true := by
  cases condition with
  | node m => rfl
  | record condition =>
    cases endpoint <;> cases condition <;> rfl

/-- The query of a leaf has three parts. The first one is a text, and one of the others is. -/
theorem toQuery_eq_triple (condition : Leaf) (endpoint : Endpoint) :
    ∃ operator field value text, condition.toQuery endpoint = array [string operator, field, value] ∧
      (field = string text ∨ value = string text) := by
  cases condition with
  | node m => exact ⟨_, _, _, _, rfl, .inl rfl⟩
  | record condition =>
    cases endpoint with
    | nodes =>
      cases condition with
      | fact m => exact ⟨_, _, _, _, rfl, .inr rfl⟩
      | factPresence name => exact ⟨_, _, _, _, rfl, .inl rfl⟩
      | resource m => exact ⟨_, _, _, _, rfl, .inl rfl⟩
    | facts => cases condition <;> exact ⟨_, _, _, _, rfl, .inl rfl⟩

/-- The query of a node's name at an endpoint is not that of a record. -/
theorem node_toQuery_ne_record {m : NodeMatch} {condition : RecordMatch} {endpoint : Endpoint} :
    (node m).toQuery endpoint ≠ (record condition).toQuery endpoint := by
  cases endpoint <;> cases condition <;>
    simp [toQuery, Json.comparison, Subquery.wrap, RecordMatch.nameValueFilter, Endpoint.nodeField]

/-- Different conditions on records have different queries at the node endpoint, where a fact is
addressed directly and the others are sub-queries for different entities. -/
theorem record_toQuery_nodes_injective {a b : RecordMatch}
    (h : (record a).toQuery .nodes = (record b).toQuery .nodes) : a = b := by
  cases a with
  | fact m =>
    cases b with
    | fact n =>
      obtain ⟨_, _, _⟩ := m
      simp_all [toQuery]
    | factPresence name => simp [toQuery, Subquery.wrap] at h
    | resource n => simp [toQuery, Subquery.wrap] at h
  | factPresence name =>
    cases b with
    | fact n => simp [toQuery, Subquery.wrap] at h
    | factPresence other => exact (Subquery.wrap_injective h).2
    | resource n => exact absurd (Subquery.wrap_injective h).1 (by decide)
  | resource m =>
    cases b with
    | fact n => simp [toQuery, Subquery.wrap] at h
    | factPresence name => exact absurd (Subquery.wrap_injective h).1 (by decide)
    | resource n => exact (Subquery.wrap_injective h).2

/-- Different conditions on records have different queries at the fact endpoint, where a presence
is tested directly and the others are sub-queries for different entities. -/
theorem record_toQuery_facts_injective {a b : RecordMatch}
    (h : (record a).toQuery .facts = (record b).toQuery .facts) : a = b := by
  cases a with
  | fact m =>
    cases b with
    | fact n => exact (Subquery.wrap_injective h).2
    | factPresence name =>
      simp [toQuery, Subquery.wrap, RecordMatch.nameValueFilter, Json.comparison] at h
    | resource n => exact absurd (Subquery.wrap_injective h).1 (by decide)
  | factPresence name =>
    cases b with
    | fact n => simp [toQuery, Subquery.wrap, RecordMatch.nameValueFilter, Json.comparison] at h
    | factPresence other => exact RecordMatch.nameValueFilter_injective h
    | resource n =>
      simp [toQuery, Subquery.wrap, RecordMatch.nameValueFilter, Json.comparison] at h
  | resource m =>
    cases b with
    | fact n => exact absurd (Subquery.wrap_injective h).1 (by decide)
    | factPresence name =>
      simp [toQuery, Subquery.wrap, RecordMatch.nameValueFilter, Json.comparison] at h
    | resource n => exact (Subquery.wrap_injective h).2

/-- Different leaves have different queries at an endpoint. -/
theorem toQuery_injective {a b : Leaf} {endpoint : Endpoint}
    (h : a.toQuery endpoint = b.toQuery endpoint) : a = b := by
  cases a with
  | node m =>
    cases b with
    | node n =>
      obtain ⟨_, _⟩ := m
      simp_all [toQuery, Json.comparison]
    | record condition => exact absurd h node_toQuery_ne_record
  | record condition =>
    cases b with
    | node n => exact absurd h.symm node_toQuery_ne_record
    | record other =>
      cases endpoint with
      | nodes => rw [record_toQuery_nodes_injective h]
      | facts => rw [record_toQuery_facts_injective h]

end Leaf

/-- The words for the two connectives differ. -/
theorem Connective.word_injective {a b : Connective} (h : a.word = b.word) : a = b := by
  cases a <;> cases b <;> first | rfl | exact absurd h (by decide)

/-- No connective is written like a negation. -/
theorem Connective.word_ne_not (connective : Connective) : connective.word ≠ "not" := by
  cases connective <;> decide

namespace Predicate

mutual

/-- The query of a predicate is built from strings, truth values and lists. -/
theorem toQuery_isPlain (endpoint : Endpoint) :
    ∀ p : Predicate, (p.toQuery endpoint).isPlain = true
  | leaf condition => condition.toQuery_isPlain endpoint
  | not negated => by
    simp [toQuery, Json.isPlain, Json.arePlain, toQuery_isPlain endpoint negated]
  | group connective members => by
    simp [toQuery, Json.isPlain, Json.arePlain, toQueries_arePlain endpoint members]

/-- The queries of predicates are built from strings, truth values and lists. -/
theorem toQueries_arePlain (endpoint : Endpoint) :
    ∀ ps : List Predicate, Json.arePlain (toQueries endpoint ps) = true
  | [] => rfl
  | p :: ps => by
    simp [toQueries, Json.arePlain, toQuery_isPlain endpoint p, toQueries_arePlain endpoint ps]

end

/-- The query of a predicate is a list. -/
theorem exists_toQuery_eq_array (p : Predicate) (endpoint : Endpoint) :
    ∃ items, p.toQuery endpoint = array items := by
  cases p with
  | leaf condition =>
    obtain ⟨_, _, _, _, hquery, _⟩ := condition.toQuery_eq_triple endpoint
    exact ⟨_, hquery⟩
  | not negated => exact ⟨_, rfl⟩
  | group connective members => exact ⟨_, rfl⟩

/-- The query of a predicate is no text. -/
theorem toQuery_ne_string (p : Predicate) (endpoint : Endpoint) (text : String) :
    p.toQuery endpoint ≠ string text := by
  obtain ⟨items, hquery⟩ := exists_toQuery_eq_array p endpoint
  rw [hquery]
  exact Json.noConfusion

/-- A leaf is not put like a negation at any endpoint, since a negation has two parts. -/
theorem leaf_toQuery_ne_not {condition : Leaf} {q : Predicate} {endpoint other : Endpoint} :
    (leaf condition).toQuery endpoint ≠ (not q).toQuery other := by
  obtain ⟨_, _, _, _, hquery, _⟩ := condition.toQuery_eq_triple endpoint
  simp [toQuery, hquery]

/-- A leaf is not put like a connective at any endpoint, since members are put as lists. -/
theorem leaf_toQuery_ne_group {condition : Leaf} {connective : Connective}
    {members : List Predicate} {endpoint other : Endpoint} :
    (leaf condition).toQuery endpoint ≠ (group connective members).toQuery other := by
  obtain ⟨_, field, value, text, hquery, htext⟩ := condition.toQuery_eq_triple endpoint
  intro h
  simp only [toQuery, hquery, Json.array.injEq, List.cons.injEq, toQueries_eq_map] at h
  obtain ⟨_, h⟩ := h
  have hmember : string text ∈ members.map (toQuery other) := by
    rw [← h]
    rcases htext with rfl | rfl <;> simp
  obtain ⟨p, _, hp⟩ := List.mem_map.mp hmember
  exact toQuery_ne_string p other text hp

/-- A negation is not put like a connective at any endpoint, since a connective has another word. -/
theorem not_toQuery_ne_group {p : Predicate} {connective : Connective} {members : List Predicate}
    {endpoint other : Endpoint} :
    (not p).toQuery endpoint ≠ (group connective members).toQuery other := by
  intro h
  simp only [toQuery, Json.array.injEq, List.cons.injEq, Json.string.injEq] at h
  exact connective.word_ne_not h.1.symm

mutual

/-- Different predicates have different queries at an endpoint. -/
theorem toQuery_injective {endpoint : Endpoint} :
    ∀ {p q : Predicate}, p.toQuery endpoint = q.toQuery endpoint → p = q
  | leaf a, leaf b, h => by
    rw [toQuery, toQuery] at h
    rw [Leaf.toQuery_injective h]
  | leaf _, not _, h => absurd h leaf_toQuery_ne_not
  | leaf _, group _ _, h => absurd h leaf_toQuery_ne_group
  | not _, leaf _, h => absurd h.symm leaf_toQuery_ne_not
  | not p, not q, h => by
    simp only [toQuery, Json.array.injEq, List.cons.injEq, and_true, true_and] at h
    rw [toQuery_injective h]
  | not _, group _ _, h => absurd h not_toQuery_ne_group
  | group _ _, leaf _, h => absurd h.symm leaf_toQuery_ne_group
  | group _ _, not _, h => absurd h.symm not_toQuery_ne_group
  | group c ps, group d qs, h => by
    simp only [toQuery, Json.array.injEq, List.cons.injEq, Json.string.injEq] at h
    rw [Connective.word_injective h.1, toQueries_injective h.2]

/-- Different lists of predicates have different lists of queries at an endpoint. -/
theorem toQueries_injective {endpoint : Endpoint} :
    ∀ {ps qs : List Predicate}, toQueries endpoint ps = toQueries endpoint qs → ps = qs
  | [], [], _ => rfl
  | [], _ :: _, h => by simp [toQueries] at h
  | _ :: _, [], h => by simp [toQueries] at h
  | p :: ps, q :: qs, h => by
    simp only [toQueries, List.cons.injEq] at h
    rw [toQuery_injective h.1, toQueries_injective h.2]

end

/-- At each endpoint a query text stands for one predicate, whatever its operators and values hold.
Two different filters never reach the server as the same text. -/
theorem render_eq_render_iff (endpoint : Endpoint) (p q : Predicate) :
    p.render endpoint = q.render endpoint ↔ p = q := by
  constructor
  · intro h
    have hquery := Json.compact_injective (toQuery_isPlain endpoint p) (toQuery_isPlain endpoint q) h
    exact toQuery_injective hquery
  · intro h
    rw [h]

end Predicate

end InventoryQuery
