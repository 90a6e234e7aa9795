import InventoryQuery.Predicate.Basic
import InventoryQuery.Text.Split

/-!
# Spelling filters

How a predicate is written as a filter, with every condition spelled out. A disjunction and a
negation are written as one term, and a conjunction of terms as the terms with spaces between
them, so that only predicates in the form of `Filter/NormalForm` are read back as they are.
-/

namespace InventoryQuery

/-- A condition as it is written in a filter. -/
def Leaf.spell : Leaf → List Char
  | .node m => "name".toList ++ m.operator.toList ++ m.identifier.toList
  | .record (.fact m) =>
    "fact:".toList ++ m.name.toList ++ m.operator.toList ++ m.value.toList
  | .record (.factPresence name) => "has:".toList ++ name.toList
  | .record (.resource m) =>
    (if m.exported then "@@".toList else []) ++ "resource:".toList ++ m.type.toList ++
      (if m.operator = matchesRegex then ['~'] else []) ++ '[' :: m.title.toList ++ [']']

/-- What stands between the members of a connective in a filter. -/
def Connective.separator : Connective → Char
  | .and => ' '
  | .or => '|'

namespace Predicate

mutual

/-- A predicate as it is written in a filter. -/
def spell : Predicate → List Char
  | leaf condition => condition.spell
  | not negated => '!' :: spell negated
  | group connective members => Text.joinWith connective.separator (spellAll members)

/-- Predicates as they are written in a filter. -/
def spellAll : List Predicate → List (List Char)
  | [] => []
  | p :: ps => spell p :: spellAll ps

end

/-- The members of a group are written each by itself. -/
theorem spellAll_eq_map (ps : List Predicate) : spellAll ps = ps.map spell := by
  induction ps with
  | nil => rfl
  | cons p ps ih => rw [spellAll, ih, List.map_cons]

/-- A conjunction is written as its members with spaces between them. -/
theorem spell_and (members : List Predicate) :
    spell (group .and members) = Text.joinWith ' ' (members.map spell) := by
  rw [spell, spellAll_eq_map]
  rfl

/-- A disjunction is written as its members with bars between them. -/
theorem spell_or (members : List Predicate) :
    spell (group .or members) = Text.joinWith '|' (members.map spell) := by
  rw [spell, spellAll_eq_map]
  rfl

end Predicate

end InventoryQuery
