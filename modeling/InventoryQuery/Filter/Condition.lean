import InventoryQuery.Filter.Error
import InventoryQuery.Filter.Term
import InventoryQuery.Predicate.Basic

/-!
# Reading one condition

A condition of a filter without negations and alternatives: a node by its name, a fact by its
value or by its presence, or a resource by its type and title.
-/

namespace InventoryQuery.Filter

/-- The text before the first occurrence of a character and the text after it. -/
def splitAtFirst? (mark : Char) : List Char → Option (List Char × List Char)
  | [] => none
  | c :: rest =>
    if c = mark then some ([], rest)
    else (splitAtFirst? mark rest).map (fun (before, after) => (c :: before, after))

/-- The text without its last character, when that is the given one. -/
def beforeLast? (mark : Char) (text : List Char) : Option (List Char) :=
  if text.getLast? = some mark then some text.dropLast else none

/-- The operator that a text starts with, and the text after it. Of two operators that fit the
longer one counts. -/
def leadingOperator? : List Char → Option (String × List Char)
  | '>' :: '=' :: rest => some (">=", rest)
  | '<' :: '=' :: rest => some ("<=", rest)
  | '=' :: rest => some ("=", rest)
  | '~' :: rest => some ("~", rest)
  | '>' :: rest => some (">", rest)
  | '<' :: rest => some ("<", rest)
  | _ => none

/-- The field, operator and value of a comparison, cut at the first operator. -/
def splitComparison? (text : List Char) : Option (List Char × String × List Char) :=
  let field := text.takeWhile (fun c => !isOperatorStart c)
  let rest := text.dropWhile (fun c => !isOperatorStart c)
  (leadingOperator? rest).map (fun (operator, value) => (field, operator, value))

/-- The type of a resource and the operator on its title, which is a match when a tilde follows the
type. -/
def splitHead (head : List Char) : List Char × String :=
  match beforeLast? '~' head with
  | some type => (type, matchesRegex)
  | none => (head, equals)

/-- Read what follows the lead of a resource: `Type[Title]` or `Type~[pattern]`. -/
def readResource (resource : List Char) (exported : Bool) : Except Error Predicate :=
  match splitAtFirst? '[' resource with
  | none => .error (.resourceWithoutTitle (String.ofList resource))
  | some (head, afterBracket) =>
    match beforeLast? ']' afterBracket with
    | none => .error (.resourceUnclosed (String.ofList resource))
    | some title =>
      let (type, operator) := splitHead head
      if type.isEmpty then .error (.resourceWithoutType (String.ofList resource))
      else .ok (.resource ⟨String.ofList type, String.ofList title, exported, operator⟩)

/-- Read what follows the lead of a condition on a fact's value. -/
def readFact (condition rest : List Char) : Except Error Predicate :=
  match splitComparison? rest with
  | none => .error (.factWithoutOperator (String.ofList condition))
  | some (name, operator, value) =>
    if name.isEmpty then .error (.factWithoutName (String.ofList condition))
    else if value.isEmpty then .error (.comparisonWithoutValue (String.ofList condition))
    else .ok (.fact ⟨String.ofList name, String.ofList value, operator⟩)

/-- The characters that a bare node name cannot hold. -/
def isReserved (c : Char) : Bool := c == '[' || c == ']' || c == ':' || isOperatorStart c

/-- Read a condition that has no lead: the bare name of a node. -/
def readBareNode (condition : List Char) : Except Error Predicate :=
  if condition.head? = some '-' then .error (.looksLikeOption (String.ofList condition))
  else if condition.any isReserved then .error (.unrecognized (String.ofList condition))
  else .ok (.node ⟨String.ofList condition, equals⟩)

/-- Read a condition on a node: a comparison of its name, or the name alone. A name that merely
starts with the letters of `name` is a bare one. -/
def readNode (condition : List Char) : Except Error Predicate :=
  match afterLead? nodeLead condition with
  | some (c :: value) =>
    if c = '=' || c = '~' then
      if value.isEmpty then .error (.comparisonWithoutValue (String.ofList condition))
      else .ok (.node ⟨String.ofList value, String.ofList [c]⟩)
    else readBareNode condition
  | _ => readBareNode condition

/-- Read a condition. -/
def readCondition (condition : List Char) : Except Error Predicate :=
  if condition.isEmpty then .error .emptyTerm
  else
    match afterLead? exportedLead condition, afterLead? resourceLead condition,
        afterLead? presenceLead condition, afterLead? factLead condition with
    | some resource, _, _, _ => readResource resource true
    | none, some resource, _, _ => readResource resource false
    | none, none, some name, _ =>
      if name.isEmpty then .error .presenceWithoutName
      else .ok (.factPresence (String.ofList name))
    | none, none, none, some rest => readFact condition rest
    | none, none, none, none => readNode condition

end InventoryQuery.Filter
