import InventoryQuery.Error
import InventoryQuery.Filter.Condition

/-!
# Reading filters

A filter is read term by term in order, several terms standing for their conjunction, and the first
failure counts. An exclamation mark
in front of a term negates the whole term; in front of a later alternative it negates that
alternative alone.
-/

namespace InventoryQuery.Filter

/-- The group of some predicates, refused when there are none. -/
def grouped (connective : Connective) (members : List Predicate) :
    Except InventoryQuery.Error Predicate :=
  match Predicate.group? connective members with
  | some p => .ok p
  | none => .error (.emptyGroup connective)

/-- Read a term: exclamation marks, each of which negates what follows it and has to be followed by
something, in front of one condition or of several alternatives. Each alternative is read like a
term of its own. -/
def readTerm : List Char → Except InventoryQuery.Error Predicate
  | '!' :: inner =>
    if inner.isEmpty then .error (.filter .danglingNegation)
    else (readTerm inner).map .not
  | term =>
    if 1 < (alternatives term).length then
      ((alternatives term).attach.mapM fun part => readTerm part.1).bind (grouped .or)
    else (readCondition term).mapError .filter
termination_by term => term.length
decreasing_by
  · simp
  · next hseveral => exact length_lt_of_mem_alternatives part.2 hseveral

/-- The predicate of a list of terms: none for no terms, the term itself for one, and the
conjunction of several. -/
def conjunction : List Predicate → Except InventoryQuery.Error (Option Predicate)
  | [] => .ok none
  | [single] => .ok (some single)
  | several => (grouped .and several).map some

/-- Read a filter. Without terms it selects everything and has no predicate. -/
def parse (filter : String) : Except InventoryQuery.Error (Option Predicate) :=
  ((terms filter.toList).mapM readTerm).bind conjunction

end InventoryQuery.Filter
