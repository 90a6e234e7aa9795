import InventoryQuery.Client
import InventoryQuery.Predicate.Truth
import InventoryQuery.Proofs.Json.Occurrence
import InventoryQuery.Proofs.Predicate.Unambiguous

/-!
# Wanted facts narrow a query

A query for facts is true when its fact is one of the wanted ones and the given predicate is true.
This is shown for every choice of the conditions that are true, so it does not matter how the wanted
names are ordered or repeated, and giving a predicate never lets more rows through. Absent names
make no condition instead of an empty connective. A query text shows a connective without operands
only for an empty connective of the predicate, so the text of a query for facts shows one only if
the given predicate has one.
-/

namespace InventoryQuery

open Json (string array Occurs)

namespace Predicate

/-- Whether an optional predicate is true when the given conditions are. Without a predicate nothing
is asked. -/
def evalQuery (isTrue : Leaf → Bool) : Option Predicate → Bool
  | none => true
  | some p => p.eval isTrue

/-- An optional predicate is true when it is absent or true. -/
theorem evalQuery_iff {isTrue : Leaf → Bool} {query : Option Predicate} :
    evalQuery isTrue query = true ↔ ∀ q ∈ query, q.eval isTrue = true := by
  cases query <;> simp [evalQuery]

/-- The disjunction of presences is true when one of them is. -/
theorem eval_presences (isTrue : Leaf → Bool) (names : List String) :
    (group .or (names.map factPresence)).eval isTrue =
      names.any fun name => isTrue (.record (.factPresence name)) := by
  rw [eval, evalAny_eq_any, List.any_map]
  rfl

end Predicate

/-- The query for some wanted facts is the disjunction of their presences, and the conjunction of
this with the given predicate if there is one. -/
theorem factsQuery_cons (name : String) (names : List String) (query : Option Predicate) :
    factsQuery (name :: names) query =
      some (query.elim (.group .or ((name :: names).map .factPresence)) fun q =>
        .group .and [.group .or ((name :: names).map .factPresence), q]) := by
  cases query <;> rfl

/-- The query for all facts is the given predicate. -/
theorem factsQuery_nil (query : Option Predicate) : factsQuery [] query = query := by
  cases query <;> rfl

/-- A query for facts is true when the presence of a wanted fact is, unless all facts are wanted,
and so is the given predicate. -/
theorem evalQuery_factsQuery (isTrue : Leaf → Bool) (names : List String)
    (query : Option Predicate) :
    Predicate.evalQuery isTrue (factsQuery names query) =
      ((names.isEmpty || names.any fun name => isTrue (.record (.factPresence name))) &&
        Predicate.evalQuery isTrue query) := by
  cases names with
  | nil => rw [factsQuery_nil, List.isEmpty_nil, Bool.true_or, Bool.true_and]
  | cons name names =>
    rw [factsQuery_cons, List.isEmpty_cons, Bool.false_or, ← Predicate.eval_presences,
      Predicate.evalQuery]
    cases query with
    | none => rw [Option.elim_none, Predicate.evalQuery, Bool.and_true]
    | some q =>
      rw [Option.elim_some, Predicate.eval, Predicate.evalAll, Predicate.evalAll, Predicate.evalAll,
        Bool.and_true, Predicate.evalQuery]

/-- There is no query for facts when neither names nor a predicate are given. -/
theorem factsQuery_eq_none_iff {names : List String} {query : Option Predicate} :
    factsQuery names query = none ↔ names = [] ∧ query = none := by
  cases names with
  | nil => rw [factsQuery_nil, eq_self, true_and]
  | cons name names => simp [factsQuery_cons]

/-- A query for facts has an empty connective only where the given predicate has one. -/
theorem any_hasEmptyGroup_factsQuery (names : List String) (query : Option Predicate) :
    (factsQuery names query).any Predicate.hasEmptyGroup = query.any Predicate.hasEmptyGroup := by
  cases names with
  | nil => rw [factsQuery_nil]
  | cons name names =>
    have hpresences :
        (Predicate.group .or ((name :: names).map .factPresence)).hasEmptyGroup = false := by
      simp [Predicate.hasEmptyGroup, Predicate.haveEmptyGroup_eq_any, Predicate.factPresence]
    rw [factsQuery_cons]
    cases query with
    | none => exact hpresences
    | some q =>
      rw [Option.any_some, Option.elim_some, Predicate.hasEmptyGroup, Predicate.haveEmptyGroup,
        hpresences]
      simp [Predicate.haveEmptyGroup]

/-- No list of one part occurs in the query of a leaf. -/
theorem Leaf.not_occurs_toQuery (condition : Leaf) (endpoint : Endpoint) (part : Json) :
    ¬ Occurs (array [part]) (condition.toQuery endpoint) := by
  match condition with
  | .node m => simp [toQuery, Json.comparison, Json.occurs_array_iff, Json.occurs_string_iff]
  | .record condition =>
    cases endpoint <;> cases condition <;>
      simp [toQuery, Json.comparison, Subquery.wrap, RecordMatch.nameValueFilter,
        Json.occurs_array_iff, Json.occurs_string_iff, Json.occurs_bool_iff]

namespace Predicate

/-- A connective without operands occurs in the query of a predicate when the predicate has an empty
connective. -/
theorem exists_occurs_toQuery_iff {p : Predicate} {endpoint : Endpoint} :
    (∃ connective : Connective, Occurs (array [string connective.word]) (p.toQuery endpoint)) ↔
      p.hasEmptyGroup = true := by
  induction p using inductionOn with
  | leaf condition =>
    refine iff_of_false ?_ Bool.false_ne_true
    rintro ⟨connective, hoccurs⟩
    exact condition.not_occurs_toQuery endpoint _ hoccurs
  | not negated ih =>
    rw [hasEmptyGroup, ← ih]
    simp [toQuery, Json.occurs_array_iff, Json.occurs_string_iff]
  | group connective members ih =>
    rw [hasEmptyGroup, Bool.or_eq_true, List.isEmpty_iff, haveEmptyGroup_eq_any, List.any_eq_true]
    simp only [toQuery, toQueries_eq_map, Json.occurs_array_iff]
    constructor
    · rintro ⟨other, hself | ⟨query, hmem, hquery⟩⟩
      · simp at hself
        exact .inl hself.2
      · rcases List.mem_cons.mp hmem with rfl | hmem
        · simp [Json.occurs_string_iff] at hquery
        · obtain ⟨p, hp, rfl⟩ := List.mem_map.mp hmem
          exact .inr ⟨p, hp, (ih p hp).mp ⟨other, hquery⟩⟩
    · rintro (rfl | ⟨p, hp, hempty⟩)
      · exact ⟨connective, .inl rfl⟩
      · obtain ⟨other, hother⟩ := (ih p hp).mpr hempty
        exact ⟨other, .inr ⟨_, .tail _ (List.mem_map_of_mem hp), hother⟩⟩

/-- The text of a connective without operands is found in the text of a query when it occurs in the
query. -/
theorem infix_render_iff {p : Predicate} {endpoint : Endpoint} {connective : Connective} :
    (array [string connective.word]).print <:+: (p.render endpoint).toList ↔
      Occurs (array [string connective.word]) (p.toQuery endpoint) := by
  rw [render, Json.compact, String.toList_ofList]
  refine Json.infix_print_iff_occurs ?_ (toQuery_isPlain endpoint p)
  cases connective <;> decide

end Predicate

/-- A query for facts narrows the given predicate to the wanted facts and does nothing else.
Whatever conditions are true, it is true exactly when the presence of some wanted fact is, if any
are named, and the predicate is, if one is given; so names count as a set, and a predicate never
widens what is selected. It is absent only when nothing is asked for. If the predicate has no empty
connective, neither has the query, and no connective without operands stands in its text. -/
theorem factsQuery_narrows (names : List String) (query : Option Predicate) :
    (∀ isTrue : Leaf → Bool,
        Predicate.evalQuery isTrue (factsQuery names query) = true ↔
          (names = [] ∨ ∃ name ∈ names, isTrue (.record (.factPresence name)) = true) ∧
            ∀ q ∈ query, q.eval isTrue = true) ∧
      (∀ (isTrue : Leaf → Bool) (others : List String), (∀ name, name ∈ others ↔ name ∈ names) →
        Predicate.evalQuery isTrue (factsQuery others query) =
          Predicate.evalQuery isTrue (factsQuery names query)) ∧
      (∀ isTrue : Leaf → Bool, Predicate.evalQuery isTrue (factsQuery names query) = true →
        Predicate.evalQuery isTrue (factsQuery names none) = true) ∧
      (factsQuery names query = none ↔ names = [] ∧ query = none) ∧
      ((∀ q ∈ query, q.hasEmptyGroup = false) → ∀ p ∈ factsQuery names query,
        p.hasEmptyGroup = false ∧ ∀ (endpoint : Endpoint) (connective : Connective),
          ¬ Occurs (array [string connective.word]) (p.toQuery endpoint) ∧
            ¬ (array [string connective.word]).print <:+: (p.render endpoint).toList) := by
  have htrue (isTrue : Leaf → Bool) (wanted : List String) (asked : Option Predicate) :
      Predicate.evalQuery isTrue (factsQuery wanted asked) = true ↔
        (wanted = [] ∨ ∃ name ∈ wanted, isTrue (.record (.factPresence name)) = true) ∧
          ∀ q ∈ asked, q.eval isTrue = true := by
    rw [evalQuery_factsQuery, Bool.and_eq_true, Bool.or_eq_true, List.isEmpty_iff, List.any_eq_true,
      Predicate.evalQuery_iff]
  refine ⟨fun isTrue => htrue isTrue names query, ?_, ?_, factsQuery_eq_none_iff, ?_⟩
  · intro isTrue others hsame
    have hempty : others = [] ↔ names = [] := by
      simp only [List.eq_nil_iff_forall_not_mem, hsame]
    rw [Bool.eq_iff_iff, htrue, htrue, hempty]
    simp only [hsame]
  · intro isTrue hnarrowed
    rw [htrue] at hnarrowed ⊢
    exact ⟨hnarrowed.1, fun q hq => absurd hq (Option.not_mem_none q)⟩
  · intro hquery p hp
    have hfull : p.hasEmptyGroup = false := by
      have hany := any_hasEmptyGroup_factsQuery names query
      rw [hp, Option.any_some] at hany
      rw [hany, Option.any_eq_false]
      exact hquery
    refine ⟨hfull, ?_⟩
    intro endpoint connective
    rw [Predicate.infix_render_iff, and_self]
    intro hoccurs
    rw [Predicate.exists_occurs_toQuery_iff.mp ⟨connective, hoccurs⟩] at hfull
    exact Bool.noConfusion hfull

/-- All nodes but the database. -/
def offDatabase : Predicate := .not (.node ⟨"db", equals⟩)

/-- A repeated name makes no difference to a query for the roles and kernels off the database, and
its text shows no connective without operands. -/
theorem factsQuery_narrows_offDatabase :
    (∀ isTrue : Leaf → Bool,
        Predicate.evalQuery isTrue (factsQuery ["role", "kernel", "role"] (some offDatabase)) =
          Predicate.evalQuery isTrue (factsQuery ["kernel", "role"] (some offDatabase))) ∧
      ∀ p ∈ factsQuery ["kernel", "role"] (some offDatabase), ∀ connective : Connective,
        ¬ (array [string connective.word]).print <:+: (p.render .facts).toList := by
  obtain ⟨-, hset, -, -, hfull⟩ := factsQuery_narrows ["kernel", "role"] (some offDatabase)
  have hsame : ∀ name, name ∈ ["role", "kernel", "role"] ↔ name ∈ ["kernel", "role"] := by
    intro name
    simp only [List.mem_cons, List.not_mem_nil, or_false]
    grind
  have hquery : ∀ q ∈ some offDatabase, q.hasEmptyGroup = false := by
    rintro q ⟨⟩
    rfl
  exact ⟨fun isTrue => hset isTrue _ hsame,
    fun p hp connective => ((hfull hquery p hp).2 .facts connective).2⟩

end InventoryQuery
