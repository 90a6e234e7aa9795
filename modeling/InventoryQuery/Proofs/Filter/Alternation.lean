import InventoryQuery.Filter.Term
import Mathlib.Data.List.Chain

/-!
# The alternatives of a term

Whether a bar separates two alternatives depends on what stands in front of it since the last
separating bar, and on what follows it in the whole term. What follows matters only up to the next
bar, since no lead holds one. A part of a term therefore keeps its bars when it is taken by itself,
and texts that keep theirs are the alternatives of the term that they are joined to.
-/

namespace InventoryQuery.Filter

open Text (joinWith)

/-- A lead is found in front of a mark that it does not hold, or not at all. -/
theorem afterLead?_append_mark {lead : List Char} {mark : Char} (hlead : mark ∉ lead)
    (text more : List Char) :
    (afterLead? lead (text ++ mark :: more)).isSome = (afterLead? lead text).isSome := by
  induction lead generalizing text with
  | nil => rfl
  | cons a lead ih =>
    simp only [List.mem_cons, not_or] at hlead
    cases text with
    | nil => simp [afterLead?, Ne.symm hlead.1]
    | cons b text =>
      rw [List.cons_append, afterLead?, afterLead?]
      split
      · exact ih hlead.2 text
      · rfl

/-- Exclamation marks are dropped in front of another mark. -/
theorem dropNegations_append_mark {mark : Char} (hmark : mark ≠ '!') (text more : List Char) :
    dropNegations (text ++ mark :: more) = dropNegations text ++ mark :: more := by
  induction text with
  | nil => simp [dropNegations, hmark]
  | cons c text ih =>
    by_cases hc : c = '!'
    · subst hc
      simpa [dropNegations] using ih
    · simp [dropNegations, hc]

/-- The leads that open a condition. -/
def openingLeads : List (List Char) :=
  [factLead, presenceLead, resourceLead, exportedLead, nodeLead ++ ['='], nodeLead ++ ['~']]

/-- A text opens a condition when one of the leads follows its exclamation marks. -/
theorem opensCondition_eq_any (text : List Char) :
    opensCondition text =
      openingLeads.any fun lead => (afterLead? lead (dropNegations text)).isSome := by
  simp only [opensCondition, openingLeads, List.any_cons, List.any_nil, Bool.or_false, Bool.or_assoc]

/-- What stands behind a mark that no lead holds does not make a text open a condition. -/
theorem opensCondition_append_mark {mark : Char} (hmark : mark ≠ '!')
    (hleads : ∀ lead ∈ openingLeads, mark ∉ lead) (text more : List Char) :
    opensCondition (text ++ mark :: more) = opensCondition text := by
  have hlead (lead : List Char) (hlead : lead ∈ openingLeads) :
      (afterLead? lead (dropNegations (text ++ mark :: more))).isSome =
        (afterLead? lead (dropNegations text)).isSome := by
    rw [dropNegations_append_mark hmark, afterLead?_append_mark (hleads lead hlead)]
  rw [Bool.eq_iff_iff, opensCondition_eq_any, opensCondition_eq_any, List.any_eq_true,
    List.any_eq_true]
  exact exists_congr fun lead => and_congr_right fun h => by rw [hlead lead h]

/-- What stands behind a bar does not make a text open a condition. -/
theorem opensCondition_append_bar (text more : List Char) :
    opensCondition (text ++ '|' :: more) = opensCondition text :=
  opensCondition_append_mark (by decide) (by decide) text more

/-- What stands behind the next bar does not decide whether a bar separates. -/
theorem barSeparates_append_bar (current text more : List Char) :
    barSeparates current (text ++ '|' :: more) = barSeparates current text := by
  rw [barSeparates, barSeparates, opensCondition_append_bar]

/-- An exclamation mark in front does not decide whether a bar separates. -/
theorem barSeparates_negation (current rest : List Char) :
    barSeparates ('!' :: current) rest = barSeparates current rest := by
  simp [barSeparates, isComparison, dropNegations]

/-- Whether no bar separates in a text that continues `current` at the given depth. -/
def keepsBars (depth : Nat) (current : List Char) : List Char → Bool
  | [] => true
  | c :: rest =>
    !(c == '|' && depth == 0 && barSeparates current rest) &&
      keepsBars (nest depth c) (current ++ [c]) rest

/-- Whether no bar separates in a text that begins an alternative. -/
def isUncut (text : List Char) : Bool := keepsBars 0 [] text

/-- An exclamation mark in front of an alternative does not make its bars separate. -/
theorem keepsBars_negation (depth : Nat) (current text : List Char) :
    keepsBars depth ('!' :: current) text = keepsBars depth current text := by
  induction text generalizing depth current with
  | nil => rfl
  | cons c rest ih => rw [keepsBars, keepsBars, barSeparates_negation, List.cons_append, ih]

/-- A text is uncut behind an exclamation mark when it is by itself. -/
theorem isUncut_negation (text : List Char) : isUncut ('!' :: text) = isUncut text := by
  rw [isUncut, keepsBars, isUncut]
  exact keepsBars_negation 0 [] text

/-- A text without bars keeps them all. -/
theorem keepsBars_of_notMem {depth : Nat} {current text : List Char} (hbar : '|' ∉ text) :
    keepsBars depth current text = true := by
  induction text generalizing depth current with
  | nil => rfl
  | cons c rest ih =>
    simp only [List.mem_cons, not_or] at hbar
    simp [keepsBars, Ne.symm hbar.1, ih hbar.2]

/-- A text that keeps its bars is one alternative. -/
theorem cutAtBars_of_keepsBars {depth : Nat} {current text : List Char}
    (hkeeps : keepsBars depth current text = true) :
    cutAtBars depth current text = [current ++ text] := by
  induction text generalizing depth current with
  | nil => simp [cutAtBars]
  | cons c rest ih =>
    simp only [keepsBars, Bool.and_eq_true, Bool.not_eq_true'] at hkeeps
    rw [cutAtBars, hkeeps.1, ih hkeeps.2]
    simp

/-- A text that keeps its bars and closes its brackets is the alternative in front of a bar that
separates. -/
theorem cutAtBars_append {depth : Nat} {current text rest : List Char}
    (hkeeps : keepsBars depth current text = true) (hclosed : depthAfter depth text = 0)
    (hbar : barSeparates (current ++ text) rest = true) :
    cutAtBars depth current (text ++ '|' :: rest) = (current ++ text) :: cutAtBars 0 [] rest := by
  induction text generalizing depth current with
  | nil =>
    obtain rfl : depth = 0 := hclosed
    rw [List.append_nil] at hbar
    simp [cutAtBars, hbar]
  | cons c text ih =>
    simp only [keepsBars, Bool.and_eq_true, Bool.not_eq_true'] at hkeeps
    have hcut := ih hkeeps.2 hclosed (by simpa using hbar)
    rw [List.cons_append, cutAtBars, barSeparates_append_bar, hkeeps.1, hcut]
    simp

/-- How alternatives are joined to a term, with a bar that separates between each two. -/
inductive IsAlternation : (parts : List (List Char)) → (term : List Char) → Prop
  /-- The last alternative, which may leave brackets open. -/
  | last {part : List Char} (huncut : isUncut part = true) : IsAlternation [part] part
  /-- An alternative that closes its brackets in front of others. -/
  | cons {part : List Char} {parts : List (List Char)} {term : List Char}
    (huncut : isUncut part = true) (hclosed : depthAfter 0 part = 0)
    (hbar : barSeparates part term = true) (hterm : IsAlternation parts term) :
    IsAlternation (part :: parts) (part ++ '|' :: term)

/-- The alternatives that the reader finds are those that are joined. -/
theorem IsAlternation.alternatives_eq {parts : List (List Char)} {term : List Char}
    (h : IsAlternation parts term) : alternatives term = parts := by
  induction h with
  | last huncut => exact cutAtBars_of_keepsBars huncut
  | cons huncut hclosed hbar _ ih =>
    rw [alternatives, cutAtBars_append huncut hclosed hbar]
    exact congrArg _ ih

/-- A text keeps its bars up to the first one that separates. -/
theorem exists_keepsBars (depth : Nat) (current text : List Char) :
    keepsBars depth current text = true ∨
      ∃ part rest, text = part ++ '|' :: rest ∧ keepsBars depth current part = true ∧
        depthAfter depth part = 0 ∧ barSeparates (current ++ part) rest = true := by
  induction text generalizing depth current with
  | nil => exact .inl rfl
  | cons c text ih =>
    by_cases hcut : (c == '|' && depth == 0 && barSeparates current text) = true
    · right
      simp only [Bool.and_eq_true, beq_iff_eq] at hcut
      obtain ⟨⟨rfl, rfl⟩, hbar⟩ := hcut
      exact ⟨[], text, rfl, rfl, rfl, by simpa using hbar⟩
    · rw [Bool.not_eq_true] at hcut
      rcases ih (nest depth c) (current ++ [c]) with hkeeps | ⟨part, rest, rfl, hkeeps, hclosed, hbar⟩
      · left
        rw [keepsBars, hcut, hkeeps]
        rfl
      · right
        rw [barSeparates_append_bar] at hcut
        refine ⟨c :: part, rest, rfl, ?_, hclosed, by simpa using hbar⟩
        rw [keepsBars, hcut, hkeeps]
        rfl

/-- Joined texts open a condition when the first one does. -/
theorem opensCondition_joinWith (text : List Char) (texts : List (List Char)) :
    opensCondition (joinWith '|' (text :: texts)) = opensCondition text := by
  cases texts with
  | nil => rfl
  | cons other texts => exact opensCondition_append_bar text _

/-- Texts that no bar cuts are the alternatives of the term that they are joined to when each of
them closes its brackets in front of the next one, and has not reached the value of a comparison
unless the next one opens a condition. -/
theorem isAlternation_joinWith {texts : List (List Char)} (hne : texts ≠ [])
    (huncut : ∀ text ∈ texts, isUncut text = true)
    (hclosed : ∀ text ∈ texts.dropLast, depthAfter 0 text = 0)
    (hbars : texts.IsChain fun text next =>
      isComparison text = false ∨ opensCondition next = true) :
    IsAlternation texts (joinWith '|' texts) := by
  induction texts with
  | nil => exact absurd rfl hne
  | cons text texts ih =>
    rw [List.forall_mem_cons] at huncut
    cases texts with
    | nil => exact .last huncut.1
    | cons next more =>
      rw [List.dropLast_cons_cons, List.forall_mem_cons] at hclosed
      rw [List.isChain_cons_cons] at hbars
      refine .cons huncut.1 hclosed.1 ?_ (ih (by simp) huncut.2 hclosed.2 hbars.2)
      rw [barSeparates, opensCondition_joinWith]
      rcases hbars.1 with h | h <;> simp [h]

/-- Every term is joined from alternatives in some way. -/
theorem exists_isAlternation (term : List Char) : ∃ parts, IsAlternation parts term := by
  induction hlength : term.length using Nat.strongRecOn generalizing term with
  | ind n ih =>
    rcases exists_keepsBars 0 [] term with hkeeps | ⟨part, rest, rfl, hkeeps, hclosed, hbar⟩
    · exact ⟨[term], .last hkeeps⟩
    · obtain ⟨parts, hparts⟩ := ih rest.length (by simp [← hlength]; omega) rest rfl
      exact ⟨part :: parts, .cons hkeeps hclosed hbar hparts⟩

/-- The alternatives that the reader finds are joined to the term. -/
theorem isAlternation_alternatives (term : List Char) : IsAlternation (alternatives term) term := by
  obtain ⟨parts, h⟩ := exists_isAlternation term
  rwa [h.alternatives_eq]

/-- There is always an alternative. -/
theorem IsAlternation.ne_nil {parts : List (List Char)} {term : List Char}
    (h : IsAlternation parts term) : parts ≠ [] := by
  cases h <;> simp

/-- A text keeps its bars when it has no second alternative. -/
theorem isUncut_iff {text : List Char} :
    isUncut text = true ↔ ¬1 < (alternatives text).length := by
  constructor
  · intro huncut
    rw [alternatives, cutAtBars_of_keepsBars huncut]
    simp
  · intro hone
    have hparts := isAlternation_alternatives text
    generalize alternatives text = parts at hone hparts
    cases hparts with
    | last huncut => exact huncut
    | cons _ _ _ hterm =>
      have hpos := List.length_pos_iff.mpr hterm.ne_nil
      rw [List.length_cons] at hone
      omega

/-- No alternative is cut again by itself. -/
theorem IsAlternation.isUncut {parts : List (List Char)} {term : List Char}
    (h : IsAlternation parts term) : ∀ part ∈ parts, isUncut part = true := by
  induction h with
  | last huncut => simpa using huncut
  | cons huncut _ _ _ ih => simpa using ⟨huncut, ih⟩

end InventoryQuery.Filter
