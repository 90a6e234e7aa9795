import InventoryQuery.Proofs.Filter.Grammar

/-!
# The partition of a term

The alternatives of a term are the parts of it between the bars that separate, and no other bar
outside brackets separates. What a part is taken to be does not depend on where it came from: by
itself it is one alternative, with its exclamation marks or without them. So the reader of a term,
which reads each alternative like a term, never cuts twice, and what it calls itself on gets shorter.
-/

namespace InventoryQuery.Filter

open Text (joinWith)

/-- What is read from an alternative, with no look at its bars: each exclamation mark in front
negates what follows it and has to be followed by something, and the rest is a condition. -/
def readAlternative : List Char → Except InventoryQuery.Error Predicate
  | '!' :: inner =>
    if inner.isEmpty then .error (.filter .danglingNegation) else (readAlternative inner).map .not
  | text => (readCondition text).mapError .filter

/-- A text is uncut without some of its exclamation marks when it is with them. -/
theorem isUncut_negations (marks : Nat) (text : List Char) :
    isUncut (List.replicate marks '!' ++ text) = isUncut text := by
  induction marks with
  | zero => rfl
  | succ marks ih => rw [List.replicate_succ, List.cons_append, isUncut_negation, ih]

/-- A text that no bar cuts is its only alternative. -/
theorem alternatives_of_isUncut {text : List Char} (huncut : isUncut text = true) :
    alternatives text = [text] := cutAtBars_of_keepsBars huncut

/-- A term that no bar cuts is read like an alternative. -/
theorem readTerm_of_isUncut {text : List Char} (huncut : isUncut text = true) :
    readTerm text = readAlternative text := by
  induction text using readAlternative.induct with
  | case1 inner hempty => rw [readTerm, readAlternative, if_pos hempty, if_pos hempty]
  | case2 inner hne ih =>
    rw [isUncut_negation] at huncut
    rw [readTerm, readAlternative, if_neg hne, if_neg hne, ih huncut]
  | case3 text hnegation =>
    rw [readTerm_condition (head?_ne_negation_iff.mpr hnegation) huncut, readAlternative]
    exact hnegation

/-- A bar outside brackets does not separate in a text that keeps its bars. -/
theorem barSeparates_of_keepsBars {depth : Nat} {current before after : List Char}
    (hkeeps : keepsBars depth current (before ++ '|' :: after) = true)
    (hdepth : depthAfter depth before = 0) : barSeparates (current ++ before) after = false := by
  induction before generalizing depth current with
  | nil =>
    obtain rfl : depth = 0 := hdepth
    rw [List.nil_append, keepsBars, Bool.and_eq_true] at hkeeps
    simpa using hkeeps.1
  | cons c before ih =>
    rw [List.cons_append, keepsBars, Bool.and_eq_true] at hkeeps
    simpa using ih hkeeps.2 hdepth

/-- The alternatives of a term are joined to it by bars. -/
theorem IsAlternation.joinWith_eq {parts : List (List Char)} {term : List Char}
    (h : IsAlternation parts term) : joinWith '|' parts = term := by
  rw [← h.alternatives_eq, joinWith_alternatives]

/-- No bracket is open in front of a bar between two parts of a term. -/
theorem IsAlternation.depthAfter_eq {before after : List (List Char)} {term : List Char}
    (h : IsAlternation (before ++ after) term) (hbefore : before ≠ []) (hafter : after ≠ []) :
    depthAfter 0 (joinWith '|' before) = 0 := by
  induction before generalizing term with
  | nil => exact absurd rfl hbefore
  | cons part before ih =>
    obtain ⟨hclosed, rest, hrest⟩ :
        depthAfter 0 part = 0 ∧ ∃ rest, IsAlternation (before ++ after) rest := by
      rw [List.cons_append] at h
      generalize hparts : before ++ after = parts at h
      cases h with
      | last _ => exact absurd (List.append_eq_nil_iff.mp hparts).2 hafter
      | cons _ hclosed _ hterm => exact ⟨hclosed, _, hterm⟩
    cases before with
    | nil => exact hclosed
    | cons next more =>
      rw [Text.joinWith_cons '|' part (List.cons_ne_nil next more), depthAfter_append, hclosed]
      exact ih hrest (List.cons_ne_nil next more)

/-- A bar between two parts of a term separates. -/
theorem IsAlternation.barSeparates {before after : List (List Char)} {part next term : List Char}
    (h : IsAlternation (before ++ part :: next :: after) term) :
    isComparison part = false ∨ opensCondition next = true := by
  induction before generalizing term with
  | nil =>
    cases h with
    | cons _ _ hbar hterm =>
      rw [← hterm.joinWith_eq, Filter.barSeparates, opensCondition_joinWith, Bool.or_eq_true,
        Bool.not_eq_true'] at hbar
      exact hbar
  | cons first before ih =>
    rw [List.cons_append] at h
    generalize hparts : before ++ part :: next :: after = parts at h
    cases h with
    | last _ => simp at hparts
    | cons _ _ _ hterm => exact ih (hparts ▸ hterm)

/-- A term is cut into alternatives without a loss. Wherever it is cut, no bracket is open, and the
part in front has not reached the value of a comparison or the part behind opens a condition; at a
bar that stays in a part while no bracket is open, neither is the case. A part is not cut again,
however many of its exclamation marks are taken away, so that it is read with no look at its bars.
Where there are several parts, each of them is shorter than the term. -/
theorem alternatives_partition (term : List Char) :
    joinWith '|' (alternatives term) = term ∧
    (∀ before after, alternatives term = before ++ after → before ≠ [] → after ≠ [] →
      depthAfter 0 (joinWith '|' before) = 0) ∧
    (∀ before part next after, alternatives term = before ++ part :: next :: after →
      isComparison part = false ∨ opensCondition next = true) ∧
    (∀ part ∈ alternatives term, ∀ before after, part = before ++ '|' :: after →
      depthAfter 0 before = 0 → isComparison before = true ∧ opensCondition after = false) ∧
    (∀ part ∈ alternatives term, ∀ marks text, part = List.replicate marks '!' ++ text →
      alternatives text = [text] ∧ readTerm text = readAlternative text) ∧
    (1 < (alternatives term).length →
      (∀ part ∈ alternatives term, part.length < term.length) ∧
        (term.head? ≠ some '!' →
          readTerm term = ((alternatives term).mapM readAlternative).bind (grouped .or))) := by
  have hparts := isAlternation_alternatives term
  refine ⟨joinWith_alternatives term, ?_, ?_, ?_, ?_, fun hseveral => ⟨?_, fun hhead => ?_⟩⟩
  · intro before after hcut
    rw [hcut] at hparts
    exact hparts.depthAfter_eq
  · intro before part next after hcut
    rw [hcut] at hparts
    exact hparts.barSeparates
  · rintro part hpart before after rfl hdepth
    have hbar := barSeparates_of_keepsBars (hparts.isUncut _ hpart) hdepth
    simpa [barSeparates] using hbar
  · rintro part hpart marks text rfl
    have huncut : isUncut text = true := by
      rw [← isUncut_negations marks]
      exact hparts.isUncut _ hpart
    exact ⟨alternatives_of_isUncut huncut, readTerm_of_isUncut huncut⟩
  · exact fun part hpart => length_lt_of_mem_alternatives hpart hseveral
  · have hread : ∀ part ∈ alternatives term, readTerm part = readAlternative part :=
      fun part hpart => readTerm_of_isUncut (hparts.isUncut part hpart)
    rw [readTerm_alternation hhead hseveral, mapM_congr hread]

/-- A term with a bar in brackets, a bar in a value, and two bars that separate, of which the second
one is in front of two exclamation marks. -/
def barredTerm : List Char := "web|fact:os~[a|b]|]c|!!has:x".toList

/-- The term has three parts. The second one keeps a bar outside brackets, and the third one stays
one part without an exclamation mark. -/
theorem alternatives_partition_barredTerm :
    alternatives barredTerm = ["web".toList, "fact:os~[a|b]|]c".toList, "!!has:x".toList] ∧
      depthAfter 0 "web|fact:os~[a|b]|]c".toList = 0 ∧
      isComparison "fact:os~[a|b]".toList = true ∧
      alternatives "!has:x".toList = ["!has:x".toList] := by
  have hparts : alternatives barredTerm =
      ["web".toList, "fact:os~[a|b]|]c".toList, "!!has:x".toList] := by decide
  obtain ⟨-, hclosed, -, hkept, hstable, -⟩ := alternatives_partition barredTerm
  refine ⟨hparts, ?_, ?_, ?_⟩
  · exact hclosed ["web".toList, "fact:os~[a|b]|]c".toList] _ hparts (by simp) (by simp)
  · exact (hkept "fact:os~[a|b]|]c".toList (by simp [hparts]) "fact:os~[a|b]".toList "]c".toList
      rfl (by decide)).1
  · exact (hstable "!!has:x".toList (by simp [hparts]) 1 "!has:x".toList rfl).1

end InventoryQuery.Filter
