import InventoryQuery.Filter.Term
import InventoryQuery.Predicate.Basic

/-!
# The form of read filters

The predicates that a filter can stand for. A conjunction occurs at the root alone, and has two
members at least. Below it, a term is a condition or a disjunction, negated any number of times,
and the alternatives of a disjunction are conditions, of which only the first one is not negated.
-/

namespace InventoryQuery

/-- The operators of conditions on the name of a node or the title of a resource. -/
def nameOperators : List String := [equals, matchesRegex]

/-- The operators of conditions on the value of a fact. -/
def valueOperators : List String := ["=", "~", "<", ">", "<=", ">="]

/-- Whether a condition can be written in a filter: its operator is one of the language, its texts
are not empty, and the ends of the operator and of the type of a resource can be told. -/
def Leaf.isWritable : Leaf → Bool
  | .node m => nameOperators.contains m.operator && !m.identifier.isEmpty
  | .record (.fact m) =>
    valueOperators.contains m.operator && !m.name.isEmpty && !m.value.isEmpty &&
      !m.name.toList.any Filter.isOperatorStart &&
      !((m.operator = "<" || m.operator = ">") && m.value.toList.head? = some '=')
  | .record (.factPresence name) => !name.isEmpty
  | .record (.resource m) =>
    nameOperators.contains m.operator && !m.type.isEmpty && !m.type.toList.contains '[' &&
      !(m.operator = equals && m.type.toList.getLast? = some '~')

/-- When a condition on a node's name can be written. -/
theorem Leaf.isWritable_node_iff {m : NodeMatch} :
    (Leaf.node m).isWritable = true ↔ m.operator ∈ nameOperators ∧ m.identifier.toList ≠ [] := by
  simp [isWritable]

/-- When a condition on a fact's value can be written. -/
theorem Leaf.isWritable_fact_iff {m : FactMatch} :
    (Leaf.record (.fact m)).isWritable = true ↔
      m.operator ∈ valueOperators ∧ m.name.toList ≠ [] ∧ m.value.toList ≠ [] ∧
        (∀ c ∈ m.name.toList, Filter.isOperatorStart c = false) ∧
        ¬((m.operator = "<" ∨ m.operator = ">") ∧ m.value.toList.head? = some '=') := by
  simp [isWritable, and_assoc, Decidable.imp_iff_not_or]

/-- When a condition on a resource can be written. -/
theorem Leaf.isWritable_resource_iff {m : ResourceMatch} :
    (Leaf.record (.resource m)).isWritable = true ↔
      m.operator ∈ nameOperators ∧ m.type.toList ≠ [] ∧ '[' ∉ m.type.toList ∧
        ¬(m.operator = equals ∧ m.type.toList.getLast? = some '~') := by
  simp [isWritable, and_assoc, Decidable.imp_iff_not_or]

namespace Filter

/-- Whether a character opens or closes a bracket. -/
def isBracket (c : Char) : Bool := c == '[' || c == ']'

/-- Whether a text has neither blanks nor brackets. -/
def isUnbroken (text : List Char) : Bool := text.all (fun c => !Text.isBlank c && !isBracket c)

/-- Whether a text has no blanks, brackets or bars. -/
def isWord (text : List Char) : Bool := isUnbroken text && !text.contains '|'

/-- Whether no bar of a text stands in front of what opens a condition. -/
def barsStay : List Char → Bool
  | [] => true
  | c :: rest => !(c == '|' && opensCondition rest) && barsStay rest

/-- Whether a text can be the value of a comparison, which may hold bars. -/
def isValue (text : List Char) : Bool := isUnbroken text && barsStay text

end Filter

/-- Whether the ends of a condition can be told in a filter: its texts have no blanks, brackets or
bars, except that values may hold bars and titles may hold bars and blanks. -/
def Leaf.isDelimited : Leaf → Bool
  | .node m => Filter.isValue m.identifier.toList
  | .record (.fact m) => Filter.isWord m.name.toList && Filter.isValue m.value.toList
  | .record (.factPresence name) => Filter.isWord name.toList
  | .record (.resource m) =>
    Filter.isWord m.type.toList && !m.title.toList.any Filter.isBracket

namespace Predicate

/-- Whether a predicate is a condition that can be written in a filter. -/
def isCondition : Predicate → Bool
  | leaf condition => condition.isWritable
  | _ => false

/-- Whether a predicate can be a later alternative: a condition, negated any number of times. -/
def isAlternative : Predicate → Bool
  | leaf condition => condition.isWritable
  | not negated => isAlternative negated
  | group _ _ => false

/-- Whether a predicate can be a term: a condition or a disjunction, negated any number of times. -/
def isTerm : Predicate → Bool
  | leaf condition => condition.isWritable
  | not negated => isTerm negated
  | group .or (first :: second :: more) =>
    first.isCondition && (second :: more).all isAlternative
  | group _ _ => false

/-- Whether a predicate can be that of a filter: a term, or a conjunction of two or more. -/
def isNormal : Predicate → Bool
  | group .and (first :: second :: more) => (first :: second :: more).all isTerm
  | p => p.isTerm

end Predicate

end InventoryQuery
