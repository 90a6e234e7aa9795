import InventoryQuery.Proofs.Json.Balance
import InventoryQuery.Proofs.Json.NestingLimit
import InventoryQuery.Proofs.Predicate.Unambiguous

/-!
# The texts of queries

The query of a predicate nests as deep as its connectives do above the deepest leaf, and a leaf
nests according to its kind and the endpoint. The text of a query is read back as long as the query
nests no deeper than the reader allows, and refused beyond. At any depth it is one line of balanced
compact text.
-/

namespace InventoryQuery

/-- How deep the query of a leaf nests. -/
def Leaf.nesting : Leaf → Endpoint → Nat
  | .node _, _ => 1
  | .record (.fact _), .nodes => 2
  | .record (.fact _), .facts => 5
  | .record (.factPresence _), .nodes => 4
  | .record (.factPresence _), .facts => 1
  | .record (.resource _), _ => 5

namespace Predicate

mutual

/-- How deep the query of a predicate nests: one level more than its parts. -/
def nesting (endpoint : Endpoint) : Predicate → Nat
  | leaf condition => condition.nesting endpoint
  | not negated => 1 + nesting endpoint negated
  | group _ members => 1 + nestingOfAll endpoint members

/-- How deep the deepest query of some predicates nests. -/
def nestingOfAll (endpoint : Endpoint) : List Predicate → Nat
  | [] => 0
  | p :: ps => max (nesting endpoint p) (nestingOfAll endpoint ps)

end

/-- Each negation of a predicate is one level more. -/
theorem nesting_negate (endpoint : Endpoint) (times : Nat) (p : Predicate) :
    (p.negate times).nesting endpoint = times + p.nesting endpoint := by
  induction times with
  | zero => rw [negate, Nat.zero_add]
  | succ times ih =>
    rw [negate, nesting, ih]
    omega

end Predicate

/-- The query of a leaf nests as deep as its kind says. -/
theorem Leaf.depth_toQuery (condition : Leaf) (endpoint : Endpoint) :
    (condition.toQuery endpoint).depth = condition.nesting endpoint := by
  match condition with
  | .node m => rfl
  | .record (.fact m) => cases endpoint <;> rfl
  | .record (.factPresence name) => cases endpoint <;> rfl
  | .record (.resource m) => cases endpoint <;> rfl

namespace Predicate

mutual

/-- The query of a predicate nests as deep as the predicate says. -/
theorem depth_toQuery (endpoint : Endpoint) :
    ∀ p : Predicate, (p.toQuery endpoint).depth = p.nesting endpoint
  | leaf condition => condition.depth_toQuery endpoint
  | not negated => by
    simp [toQuery, nesting, Json.depth, Json.depthOfItems, depth_toQuery endpoint negated,
      Nat.add_comm]
  | group connective members => by
    simp [toQuery, nesting, Json.depth, Json.depthOfItems, depthOfItems_toQueries endpoint members,
      Nat.add_comm]

/-- The queries of predicates nest as deep as the predicates say. -/
theorem depthOfItems_toQueries (endpoint : Endpoint) :
    ∀ ps : List Predicate, Json.depthOfItems (toQueries endpoint ps) = nestingOfAll endpoint ps
  | [] => rfl
  | p :: ps => by
    rw [toQueries, Json.depthOfItems, depth_toQuery endpoint p, depthOfItems_toQueries endpoint ps,
      nestingOfAll]

end

/-- The text of a query is read back as the query when it nests 127 levels deep at most. When it
nests deeper it is refused for that, which is not for an early end. -/
theorem parse_render (p : Predicate) (endpoint : Endpoint) :
    (p.toQuery endpoint).depth = p.nesting endpoint ∧
      (p.nesting endpoint ≤ 127 → Json.parse (p.render endpoint) = .ok (p.toQuery endpoint)) ∧
      (128 ≤ p.nesting endpoint → ∃ fault, Json.parse (p.render endpoint) = .error fault ∧
        fault.cause = .tooDeep ∧ fault.cause.endedEarly = false) := by
  have hdepth := depth_toQuery endpoint p
  have hplain := toQuery_isPlain endpoint p
  rw [render, Json.compact, Json.parse, String.toList_ofList, ← hdepth]
  refine ⟨rfl, Json.parseChars_print hplain, ?_⟩
  intro hlimit
  obtain ⟨fault, hfault, hcause⟩ := Json.parseChars_print_tooDeep hplain hlimit
  exact ⟨fault, hfault, hcause, by rw [hcause]; rfl⟩

/-- A name behind some negations. -/
def negatedName (times : Nat) : Predicate := negate times (.node ⟨"web", "="⟩)

/-- The text of a name behind 126 negations is read back, and one more negation is too many. -/
theorem parse_render_negatedName :
    Json.parse ((negatedName 126).render .facts) = .ok ((negatedName 126).toQuery .facts) ∧
      ∃ fault, Json.parse ((negatedName 127).render .facts) = .error fault ∧
        fault.cause = .tooDeep ∧ fault.cause.endedEarly = false := by
  have hnesting (times : Nat) : (negatedName times).nesting .facts = times + 1 :=
    nesting_negate .facts times (.node ⟨"web", "="⟩)
  have hdeepest : (negatedName 126).nesting .facts ≤ 127 := Nat.le_of_eq (hnesting 126)
  have htooDeep : 128 ≤ (negatedName 127).nesting .facts := Nat.le_of_eq (hnesting 127).symm
  exact ⟨(parse_render _ .facts).2.1 hdeepest, (parse_render _ .facts).2.2 htooDeep⟩

/-- The text of a query is one line of balanced compact text: scanned with an eye to its strings, no
bracket is closed before it is opened and all are closed at the end and not before, and there are no
control characters, nor blanks outside strings. -/
theorem render_isCompact (p : Predicate) (endpoint : Endpoint) :
    Json.IsCompact (p.render endpoint).toList := by
  obtain ⟨items, hquery⟩ := exists_toQuery_eq_array p endpoint
  have hplain := toQuery_isPlain endpoint p
  rw [hquery] at hplain
  rw [render, Json.compact, String.toList_ofList, hquery]
  exact Json.isCompact_print hplain

end Predicate

end InventoryQuery
