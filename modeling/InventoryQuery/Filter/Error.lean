/-!
# Refused filters

The reasons for which a filter is refused, and their wording.
-/

namespace InventoryQuery.Filter

/-- Why a filter is refused. -/
inductive Error where
  | danglingNegation
  | emptyTerm
  | presenceWithoutName
  | factWithoutOperator (condition : String)
  | factWithoutName (condition : String)
  | comparisonWithoutValue (condition : String)
  | looksLikeOption (condition : String)
  | unrecognized (condition : String)
  | resourceWithoutTitle (resource : String)
  | resourceUnclosed (resource : String)
  | resourceWithoutType (resource : String)
  | noFilter
  deriving DecidableEq, Repr

/-- The wording of a reason. -/
def Error.message : Error → String
  | danglingNegation => "'!' must be followed by a term"
  | emptyTerm => "empty term"
  | presenceWithoutName => "'has:' needs a fact name"
  | factWithoutOperator condition => "'" ++ condition ++ "' has no comparison operator"
  | factWithoutName condition => "'" ++ condition ++ "' has no fact name"
  | comparisonWithoutValue condition => "'" ++ condition ++ "' has no value"
  | looksLikeOption condition => "'" ++ condition ++ "' looks like an option, not a term"
  | unrecognized condition => "unrecognized term '" ++ condition ++ "'"
  | resourceWithoutTitle resource => "resource '" ++ resource ++ "' needs a [title]"
  | resourceUnclosed resource => "resource '" ++ resource ++ "' is missing a closing ']'"
  | resourceWithoutType resource => "resource '" ++ resource ++ "' has no type"
  | noFilter => "no filter given"

end InventoryQuery.Filter
