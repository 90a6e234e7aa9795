/-!
# Predicates

What a query may ask of an inventory: conditions on a node's name, on the facts that a node
reports and on the resources in its catalog, combined by negation, conjunction and disjunction.
Operators are free text, since the server and not the client decides which of them exist.
-/

namespace InventoryQuery

/-- The operator of equality. -/
def equals : String := "="

/-- The operator of a match with a regular expression. -/
def matchesRegex : String := "~"

/-- A condition on the name of a node. -/
structure NodeMatch where
  identifier : String
  operator : String := equals
  deriving DecidableEq, Repr

/-- A condition on the value of a named fact. -/
structure FactMatch where
  name : String
  value : String
  operator : String := equals
  deriving DecidableEq, Repr

/-- A condition on the title of a resource of some type, exported or not. -/
structure ResourceMatch where
  type : String
  title : String
  exported : Bool := false
  operator : String := equals
  deriving DecidableEq, Repr

/-- A condition that describes one stored record by its own name and value fields: a fact with a
value, a fact whatever its value, or a resource. -/
inductive RecordMatch where
  | fact (condition : FactMatch)
  | factPresence (name : String)
  | resource (condition : ResourceMatch)
  deriving DecidableEq, Repr

/-- A condition without parts. -/
inductive Leaf where
  | node (condition : NodeMatch)
  | record (condition : RecordMatch)
  deriving DecidableEq, Repr

/-- The two ways to combine several conditions into one. -/
inductive Connective where
  | and
  | or
  deriving DecidableEq, Repr

/-- The word for a connective in a query. -/
def Connective.word : Connective → String
  | .and => "and"
  | .or => "or"

/-- A predicate tree. -/
inductive Predicate where
  | leaf (condition : Leaf)
  | not (negated : Predicate)
  | group (connective : Connective) (members : List Predicate)
  deriving Repr

namespace Predicate

/-- Nodes with the given name. -/
def node (condition : NodeMatch) : Predicate := leaf (.node condition)

/-- Nodes that report a fact with a value. -/
def fact (condition : FactMatch) : Predicate := leaf (.record (.fact condition))

/-- Nodes that report a fact at all. -/
def factPresence (name : String) : Predicate := leaf (.record (.factPresence name))

/-- Nodes that declare a resource. -/
def resource (condition : ResourceMatch) : Predicate := leaf (.record (.resource condition))

/-- The group of some predicates; there is no group of none. -/
def group? (connective : Connective) : List Predicate → Option Predicate
  | [] => none
  | members => some (group connective members)

/-- The predicate negated a number of times. -/
def negate : Nat → Predicate → Predicate
  | 0, p => p
  | times + 1, p => not (negate times p)

mutual

/-- Equality of predicates, decided part by part. -/
def decideEq : (p q : Predicate) → Decidable (p = q)
  | leaf a, leaf b => if h : a = b then .isTrue (h ▸ rfl) else .isFalse (fun e => h (by cases e; rfl))
  | not p, not q =>
    match decideEq p q with
    | .isTrue h => .isTrue (h ▸ rfl)
    | .isFalse h => .isFalse (fun e => h (by cases e; rfl))
  | group c ps, group d qs =>
    if hc : c = d then
      match decideMembersEq ps qs with
      | .isTrue h => .isTrue (by rw [hc, h])
      | .isFalse h => .isFalse (fun e => h (by cases e; rfl))
    else .isFalse (fun e => hc (by cases e; rfl))
  | leaf _, not _ | leaf _, group _ _ | not _, leaf _ | not _, group _ _ | group _ _, leaf _
  | group _ _, not _ => .isFalse (fun e => by cases e)

/-- Equality of lists of predicates. -/
def decideMembersEq : (ps qs : List Predicate) → Decidable (ps = qs)
  | [], [] => .isTrue rfl
  | [], _ :: _ | _ :: _, [] => .isFalse (fun e => by cases e)
  | p :: ps, q :: qs =>
    match decideEq p q, decideMembersEq ps qs with
    | .isTrue h, .isTrue hs => .isTrue (by rw [h, hs])
    | .isFalse h, _ => .isFalse (fun e => h (by cases e; rfl))
    | _, .isFalse hs => .isFalse (fun e => hs (by cases e; rfl))

end

instance : DecidableEq Predicate := decideEq

/-- What holds of every leaf, of a negation with its part and of a group with its members holds of
every predicate. -/
@[elab_as_elim]
theorem inductionOn {motive : Predicate → Prop} (p : Predicate)
    (leaf : ∀ condition, motive (leaf condition))
    (not : ∀ negated, motive negated → motive (not negated))
    (group : ∀ connective members, (∀ p ∈ members, motive p) → motive (group connective members)) :
    motive p := by
  apply @Predicate.rec motive (fun members => ∀ p ∈ members, motive p) leaf not group
  · exact fun p hp => absurd hp List.not_mem_nil
  · intro first members hfirst hmembers p hp
    rcases List.mem_cons.mp hp with rfl | hp
    · exact hfirst
    · exact hmembers p hp

mutual

/-- The conditions of a predicate, from left to right. -/
def leaves : Predicate → List Leaf
  | leaf condition => [condition]
  | not negated => leaves negated
  | group _ members => leavesOfAll members

/-- The conditions of some predicates, from left to right. -/
def leavesOfAll : List Predicate → List Leaf
  | [] => []
  | p :: ps => leaves p ++ leavesOfAll ps

end

/-- The conditions of a group are those of its members. -/
theorem mem_leavesOfAll {condition : Leaf} {ps : List Predicate} :
    condition ∈ leavesOfAll ps ↔ ∃ p ∈ ps, condition ∈ p.leaves := by
  induction ps with
  | nil => simp [leavesOfAll]
  | cons p ps ih => simp [leavesOfAll, ih]

/-- What holds of the conditions of a group holds of those of each member. -/
theorem forall_leaves_group {P : Leaf → Prop} {connective : Connective} {members : List Predicate} :
    (∀ condition ∈ (group connective members).leaves, P condition) ↔
      ∀ p ∈ members, ∀ condition ∈ p.leaves, P condition := by
  simp only [leaves, mem_leavesOfAll]
  constructor
  · exact fun h p hp condition hcondition => h condition ⟨p, hp, hcondition⟩
  · rintro h condition ⟨p, hp, hcondition⟩
    exact h p hp condition hcondition

end Predicate

end InventoryQuery
