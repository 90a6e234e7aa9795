import InventoryQuery.Predicate.Basic

/-!
# The truth of predicates

Whether a predicate is true when it is known which conditions are. A connective without members
holds if it asks for all of them, and does not if it asks for one.
-/

namespace InventoryQuery.Predicate

mutual

/-- Whether a predicate is true when the given conditions are. -/
def eval (isTrue : Leaf → Bool) : Predicate → Bool
  | leaf condition => isTrue condition
  | not negated => !eval isTrue negated
  | group .and members => evalAll isTrue members
  | group .or members => evalAny isTrue members

/-- Whether all predicates are true. -/
def evalAll (isTrue : Leaf → Bool) : List Predicate → Bool
  | [] => true
  | p :: ps => eval isTrue p && evalAll isTrue ps

/-- Whether some predicate is true. -/
def evalAny (isTrue : Leaf → Bool) : List Predicate → Bool
  | [] => false
  | p :: ps => eval isTrue p || evalAny isTrue ps

end

/-- All members are true if each of them is. -/
theorem evalAll_eq_all (isTrue : Leaf → Bool) (ps : List Predicate) :
    evalAll isTrue ps = ps.all (eval isTrue) := by
  induction ps with
  | nil => rfl
  | cons p ps ih => rw [evalAll, ih, List.all_cons]

/-- Some member is true if one of them is. -/
theorem evalAny_eq_any (isTrue : Leaf → Bool) (ps : List Predicate) :
    evalAny isTrue ps = ps.any (eval isTrue) := by
  induction ps with
  | nil => rfl
  | cons p ps ih => rw [evalAny, ih, List.any_cons]

mutual

/-- Whether a connective without members occurs in a predicate. -/
def hasEmptyGroup : Predicate → Bool
  | leaf _ => false
  | not negated => hasEmptyGroup negated
  | group _ members => members.isEmpty || haveEmptyGroup members

/-- Whether a connective without members occurs in some predicate. -/
def haveEmptyGroup : List Predicate → Bool
  | [] => false
  | p :: ps => hasEmptyGroup p || haveEmptyGroup ps

end

/-- An empty connective occurs in some predicate if it occurs in one of them. -/
theorem haveEmptyGroup_eq_any (ps : List Predicate) : haveEmptyGroup ps = ps.any hasEmptyGroup := by
  induction ps with
  | nil => rfl
  | cons p ps ih => rw [haveEmptyGroup, ih, List.any_cons]

end InventoryQuery.Predicate
