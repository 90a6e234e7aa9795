import InventoryQuery.Filter.Brackets
import InventoryQuery.Text.Blank
import InventoryQuery.Text.Split

/-!
# The terms of a filter

A filter is a list of terms between blanks, where a blank inside square brackets belongs to the
term. A term is a list of alternatives between bars. Outside brackets a bar separates two
alternatives, with one exception: once an alternative has reached the value of a comparison, the
bar belongs to the value unless what follows cannot be part of one.
-/

namespace InventoryQuery.Filter

/-- Put a character in front of the first piece. -/
def consToHead (c : Char) : List (List Char) → List (List Char)
  | [] => [[c]]
  | piece :: pieces => (c :: piece) :: pieces

/-- The pieces between the blanks at which no bracket is open; the first one continues a piece
with the given number of open brackets. -/
def cutAtBlanks (depth : Nat) : List Char → List (List Char)
  | [] => [[]]
  | c :: rest =>
    if Text.isBlank c && depth == 0 then [] :: cutAtBlanks 0 rest
    else consToHead c (cutAtBlanks (nest depth c) rest)

/-- The terms of a filter in order. -/
def terms (filter : List Char) : List (List Char) :=
  (cutAtBlanks 0 (Text.trimEnd filter)).filter (fun term => !term.isEmpty)

/-- The characters that comparison operators start with. -/
def isOperatorStart (c : Char) : Bool := c == '=' || c == '~' || c == '<' || c == '>'

/-- The text without the exclamation marks in front. -/
def dropNegations (text : List Char) : List Char := text.dropWhile (· == '!')

/-- What follows a lead, when the text starts with it. -/
def afterLead? : (lead text : List Char) → Option (List Char)
  | [], text => some text
  | _ :: _, [] => none
  | a :: lead, b :: text => if a = b then afterLead? lead text else none

/-- The lead of a condition on a fact's value. -/
def factLead : List Char := "fact:".toList

/-- The lead of a condition that a fact is present. -/
def presenceLead : List Char := "has:".toList

/-- The lead of a condition on a resource. -/
def resourceLead : List Char := "resource:".toList

/-- The lead of a condition on an exported resource. -/
def exportedLead : List Char := "@@resource:".toList

/-- The lead of a condition on a node's name. -/
def nodeLead : List Char := "name".toList

/-- Whether an alternative has reached the value of a comparison, so that a bar may belong to the
value. Exclamation marks in front do not matter. -/
def isComparison (alternative : List Char) : Bool :=
  let body := dropNegations alternative
  match afterLead? factLead body with
  | some rest => rest.any isOperatorStart
  | none =>
    match afterLead? nodeLead body with
    | some (c :: _) => c == '=' || c == '~'
    | _ => false

/-- Whether a text opens a condition that names its kind. Exclamation marks in front do not
matter. -/
def opensCondition (text : List Char) : Bool :=
  let body := dropNegations text
  (afterLead? factLead body).isSome || (afterLead? presenceLead body).isSome ||
    (afterLead? resourceLead body).isSome || (afterLead? exportedLead body).isSome ||
    (afterLead? (nodeLead ++ ['=']) body).isSome || (afterLead? (nodeLead ++ ['~']) body).isSome

/-- Whether a bar between an alternative read so far and the text after it separates two
alternatives. -/
def barSeparates (current rest : List Char) : Bool :=
  !isComparison current || opensCondition rest

/-- The alternatives of the text, of which the first continues `current` with the given number of
open brackets. -/
def cutAtBars (depth : Nat) (current : List Char) : List Char → List (List Char)
  | [] => [current]
  | c :: rest =>
    if c == '|' && depth == 0 && barSeparates current rest then current :: cutAtBars 0 [] rest
    else cutAtBars (nest depth c) (current ++ [c]) rest

/-- The alternatives of a term in order. -/
def alternatives (term : List Char) : List (List Char) := cutAtBars 0 [] term

theorem cutAtBars_ne_nil (depth : Nat) (current text : List Char) :
    cutAtBars depth current text ≠ [] := by
  induction text generalizing depth current with
  | nil => simp [cutAtBars]
  | cons c rest ih =>
    rw [cutAtBars]
    split
    · simp
    · exact ih (nest depth c) (current ++ [c])

/-- The alternatives joined by bars give the text again. -/
theorem joinWith_cutAtBars (depth : Nat) (current text : List Char) :
    Text.joinWith '|' (cutAtBars depth current text) = current ++ text := by
  induction text generalizing depth current with
  | nil => simp [cutAtBars, Text.joinWith]
  | cons c rest ih =>
    rw [cutAtBars]
    split
    · next hbar =>
      simp only [Bool.and_eq_true, beq_iff_eq] at hbar
      rw [Text.joinWith_cons '|' current (cutAtBars_ne_nil 0 [] rest), ih, hbar.1.1]
      rfl
    · rw [ih, List.append_assoc, List.singleton_append]

/-- A term is cut into alternatives without a loss. -/
theorem joinWith_alternatives (term : List Char) : Text.joinWith '|' (alternatives term) = term :=
  joinWith_cutAtBars 0 [] term

/-- Each of several alternatives is shorter than the term. -/
theorem length_lt_of_mem_alternatives {part term : List Char} (hpart : part ∈ alternatives term)
    (hseveral : 1 < (alternatives term).length) : part.length < term.length := by
  have hlength := Text.length_lt_joinWith '|' hpart hseveral
  rwa [joinWith_alternatives] at hlength

end InventoryQuery.Filter
