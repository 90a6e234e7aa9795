import InventoryQuery.Filter.Term
import Mathlib.Data.List.Forall2

/-!
# The layout of filters

A filter is laid out as its terms with blanks between and around them. A term holds together: it
has a blank only where a bracket is open. Every term but the last one closes its brackets, and the
last one, which may leave some open, does not end in a blank. Each text is laid out in exactly one
way, and its terms are those that the reader finds.
-/

namespace InventoryQuery

namespace Text

/-- Blanks at the end of a text are trimmed away with it. -/
theorem trimEnd_append_blanks (text : List Char) {blanks : List Char}
    (hblanks : ∀ b ∈ blanks, isBlank b = true) : trimEnd (text ++ blanks) = trimEnd text := by
  induction text with
  | nil => simpa [trimEnd] using trimEnd_eq_nil_iff.mpr hblanks
  | cons c rest ih => rw [List.cons_append, trimEnd, ih, trimEnd]

/-- A text stays as it is in front of one that is not trimmed away. -/
theorem trimEnd_append_of_ne_nil (a : List Char) {b : List Char} (hb : trimEnd b ≠ []) :
    trimEnd (a ++ b) = a ++ trimEnd b := by
  induction a with
  | nil => rfl
  | cons c rest ih =>
    have hne : trimEnd (rest ++ b) ≠ [] := by
      rw [ih]
      exact List.append_ne_nil_of_right_ne_nil rest hb
    rw [List.cons_append, trimEnd]
    split
    · next h => exact absurd h hne
    · rw [ih, List.cons_append]

/-- The part of a text that trimming keeps, with the blanks that it removes. -/
theorem exists_trimEnd (text : List Char) :
    ∃ blanks, text = trimEnd text ++ blanks ∧ ∀ b ∈ blanks, isBlank b = true := by
  induction text with
  | nil => exact ⟨[], rfl, by simp⟩
  | cons c rest ih =>
    obtain ⟨blanks, hrest, hblanks⟩ := ih
    rw [trimEnd]
    split
    · next h =>
      rw [h, List.nil_append] at hrest
      by_cases hc : isBlank c = true
      · exact ⟨c :: rest, by simp [hc], by simpa [hc, hrest] using hblanks⟩
      · exact ⟨rest, by simp [hc], by rwa [hrest]⟩
    · exact ⟨blanks, by rw [List.cons_append, ← hrest], hblanks⟩

/-- Trimming a trimmed text changes nothing. -/
theorem trimEnd_trimEnd (text : List Char) : trimEnd (trimEnd text) = trimEnd text := by
  obtain ⟨blanks, hsplit, hblanks⟩ := exists_trimEnd text
  have h := congrArg trimEnd hsplit
  rw [trimEnd_append_blanks _ hblanks] at h
  exact h.symm

/-- Trimming changes nothing unless the last character is a blank. -/
theorem trimEnd_eq_self_iff {text : List Char} :
    trimEnd text = text ↔ ∀ c, text.getLast? = some c → isBlank c = false := by
  constructor
  · intro h c hc
    obtain ⟨before, rfl⟩ := List.getLast?_eq_some_iff.mp hc
    rw [Bool.eq_false_iff]
    intro hblank
    obtain ⟨blanks, hsplit, _⟩ := exists_trimEnd before
    rw [trimEnd_append_blanks before (by simpa using hblank)] at h
    have hlength := congrArg List.length hsplit
    rw [h, List.length_append, List.length_append, List.length_singleton] at hlength
    omega
  · intro h
    rcases List.eq_nil_or_concat' text with rfl | ⟨before, c, rfl⟩
    · rfl
    · have hkept : trimEnd [c] = [c] := by simp [trimEnd, h c (by simp)]
      rw [trimEnd_append_of_ne_nil before (by simp [hkept]), hkept]

end Text

namespace Filter

open Text (isBlank trimEnd joinWith)

/-- A blank opens and closes no bracket. -/
theorem nest_of_isBlank {b : Char} (hb : isBlank b = true) (depth : Nat) : nest depth b = depth := by
  have hopen : b ≠ '[' := by rintro rfl; exact absurd hb (by decide)
  have hclose : b ≠ ']' := by rintro rfl; exact absurd hb (by decide)
  rw [nest, if_neg hopen, if_neg hclose]

/-- Whether a text that starts at the given depth has blanks only where a bracket is open. -/
def holdsTogether (depth : Nat) : List Char → Bool
  | [] => true
  | c :: rest => !(isBlank c && depth == 0) && holdsTogether (nest depth c) rest

/-- A text holds together when its first part does and its second part does at the depth reached. -/
theorem holdsTogether_append (depth : Nat) (a b : List Char) :
    holdsTogether depth (a ++ b) =
      (holdsTogether depth a && holdsTogether (depthAfter depth a) b) := by
  induction a generalizing depth with
  | nil => rfl
  | cons c rest ih => simp [holdsTogether, ih, Bool.and_assoc]

/-- A text that holds together and closes its brackets does not end in a blank. -/
theorem trimEnd_of_closed {depth : Nat} {text : List Char} (hholds : holdsTogether depth text = true)
    (hclosed : depthAfter depth text = 0) : trimEnd text = text := by
  induction text generalizing depth with
  | nil => rfl
  | cons c rest ih =>
    simp only [holdsTogether, Bool.and_eq_true] at hholds
    rw [trimEnd, ih hholds.2 hclosed]
    cases rest with
    | nil =>
      by_cases hc : isBlank c = true
      · rw [depthAfter_cons, depthAfter_nil, nest_of_isBlank hc] at hclosed
        simp [hc, hclosed] at hholds
      · simp [hc]
    | cons d more => rfl

/-- A text that holds together is one piece. -/
theorem cutAtBlanks_of_holdsTogether {depth : Nat} {text : List Char}
    (hholds : holdsTogether depth text = true) : cutAtBlanks depth text = [text] := by
  induction text generalizing depth with
  | nil => rfl
  | cons c rest ih =>
    simp only [holdsTogether, Bool.and_eq_true, Bool.not_eq_true'] at hholds
    rw [cutAtBlanks, hholds.1, ih hholds.2]
    rfl

/-- A text that holds together and closes its brackets is the piece in front of a blank. -/
theorem cutAtBlanks_append {depth : Nat} {text : List Char} {b : Char} (rest : List Char)
    (hholds : holdsTogether depth text = true) (hclosed : depthAfter depth text = 0)
    (hb : isBlank b = true) :
    cutAtBlanks depth (text ++ b :: rest) = text :: cutAtBlanks 0 rest := by
  induction text generalizing depth with
  | nil =>
    obtain rfl : depth = 0 := hclosed
    rw [List.nil_append, cutAtBlanks, hb]
    rfl
  | cons c more ih =>
    simp only [holdsTogether, Bool.and_eq_true, Bool.not_eq_true'] at hholds
    rw [List.cons_append, cutAtBlanks, hholds.1, ih hholds.2 hclosed]
    rfl

/-- A text that is trimmed away has no terms. -/
theorem terms_eq_nil {text : List Char} (htext : trimEnd text = []) : terms text = [] := by
  rw [terms, htext]
  rfl

/-- A blank in front belongs to no term. -/
theorem terms_blank {b : Char} (text : List Char) (hb : isBlank b = true) :
    terms (b :: text) = terms text := by
  rw [terms, trimEnd]
  split
  · next htext => rw [if_pos hb, terms_eq_nil htext]; rfl
  · rw [terms, cutAtBlanks, hb]
    rfl

/-- A text that holds together is one term, less the blanks behind it. -/
theorem terms_last {term blanks : List Char} (hne : term ≠ []) (hholds : holdsTogether 0 term = true)
    (hend : trimEnd term = term) (hblanks : ∀ b ∈ blanks, isBlank b = true) :
    terms (term ++ blanks) = [term] := by
  rw [terms, Text.trimEnd_append_blanks term hblanks, hend, cutAtBlanks_of_holdsTogether hholds]
  simp [hne]

/-- A text that holds together and closes its brackets is the first term in front of a blank. -/
theorem terms_append {term : List Char} {b : Char} (text : List Char) (hne : term ≠ [])
    (hholds : holdsTogether 0 term = true) (hclosed : depthAfter 0 term = 0)
    (hb : isBlank b = true) : terms (term ++ b :: text) = term :: terms text := by
  have hend := trimEnd_of_closed hholds hclosed
  by_cases htext : trimEnd text = []
  · have hblanks : ∀ c ∈ b :: text, isBlank c = true := by
      intro c hc
      rcases List.mem_cons.mp hc with rfl | hc
      · exact hb
      · exact Text.trimEnd_eq_nil_iff.mp htext c hc
    rw [terms_last hne hholds hend hblanks, terms_eq_nil htext]
  · have hkept : trimEnd (b :: text) = b :: trimEnd text := by
      rw [trimEnd]
      split
      · next h => exact absurd h htext
      · rfl
    have hsplit : trimEnd (term ++ b :: text) = term ++ b :: trimEnd text := by
      rw [Text.trimEnd_append_of_ne_nil term (by simp [hkept]), hkept]
    rw [terms, hsplit, cutAtBlanks_append (trimEnd text) hholds hclosed hb, terms]
    simp [hne]

/-- How terms are laid out in a text, with blanks between and around them. -/
inductive IsLaidOut : (terms : List (List Char)) → (text : List Char) → Prop
  /-- No terms in an empty text. -/
  | nil : IsLaidOut [] []
  /-- A blank in front. -/
  | blank {b : Char} {terms : List (List Char)} {text : List Char} (hb : isBlank b = true)
    (htext : IsLaidOut terms text) : IsLaidOut terms (b :: text)
  /-- The last term, which may leave brackets open, with the blanks behind it. -/
  | last {term blanks : List Char} (hne : term ≠ []) (hholds : holdsTogether 0 term = true)
    (hend : trimEnd term = term) (hblanks : ∀ b ∈ blanks, isBlank b = true) :
    IsLaidOut [term] (term ++ blanks)
  /-- A term that closes its brackets, with the blank behind it. -/
  | term {term : List Char} {b : Char} {terms : List (List Char)} {text : List Char}
    (hne : term ≠ []) (hholds : holdsTogether 0 term = true) (hclosed : depthAfter 0 term = 0)
    (hb : isBlank b = true) (htext : IsLaidOut terms text) :
    IsLaidOut (term :: terms) (term ++ b :: text)

/-- A text that holds together and does not end in a blank is laid out by itself. -/
theorem IsLaidOut.single {term : List Char} (hne : term ≠ []) (hholds : holdsTogether 0 term = true)
    (hend : trimEnd term = term) : IsLaidOut [term] term := by
  have hlast : IsLaidOut [term] (term ++ []) := .last hne hholds hend (by simp)
  rwa [List.append_nil] at hlast

/-- The terms that the reader finds are those that are laid out. -/
theorem IsLaidOut.terms_eq {ts : List (List Char)} {text : List Char} (h : IsLaidOut ts text) :
    terms text = ts := by
  induction h with
  | nil => rfl
  | blank hb _ ih => rw [terms_blank _ hb, ih]
  | last hne hholds hend hblanks => exact terms_last hne hholds hend hblanks
  | term hne hholds hclosed hb _ ih => rw [terms_append _ hne hholds hclosed hb, ih]

/-- A text holds together up to its first blank at which no bracket is open. -/
theorem exists_holdsTogether (depth : Nat) (text : List Char) :
    ∃ term rest, text = term ++ rest ∧ holdsTogether depth term = true ∧
      (rest = [] ∨ ∃ b more, rest = b :: more ∧ isBlank b = true ∧ depthAfter depth term = 0) := by
  induction text generalizing depth with
  | nil => exact ⟨[], [], rfl, rfl, .inl rfl⟩
  | cons c text ih =>
    by_cases hcut : isBlank c = true ∧ depth = 0
    · exact ⟨[], c :: text, rfl, rfl, .inr ⟨c, text, rfl, hcut.1, hcut.2⟩⟩
    · obtain ⟨term, rest, rfl, hholds, hrest⟩ := ih (nest depth c)
      refine ⟨c :: term, rest, rfl, ?_, hrest⟩
      simp only [holdsTogether, hholds, Bool.and_true, Bool.not_eq_true', Bool.and_eq_false_imp,
        beq_eq_false_iff_ne, ne_eq]
      exact fun hblank hzero => hcut ⟨hblank, hzero⟩

/-- Every text is laid out in some way. -/
theorem exists_isLaidOut (text : List Char) : ∃ ts, IsLaidOut ts text := by
  induction hlength : text.length using Nat.strongRecOn generalizing text with
  | ind n ih =>
    obtain ⟨term, rest, rfl, hholds, hrest⟩ := exists_holdsTogether 0 text
    cases term with
    | nil =>
      rcases hrest with rfl | ⟨b, more, rfl, hb, _⟩
      · exact ⟨[], .nil⟩
      · obtain ⟨ts, hts⟩ := ih more.length (by simp [← hlength]) more rfl
        exact ⟨ts, .blank hb hts⟩
    | cons c term =>
      rcases hrest with rfl | ⟨b, more, rfl, hb, hclosed⟩
      · obtain ⟨blanks, hsplit, hblanks⟩ := Text.exists_trimEnd (c :: term)
        have hkept : trimEnd (c :: term) ≠ [] := by
          intro h
          have hc := Text.trimEnd_eq_nil_iff.mp h c (by simp)
          simp [holdsTogether, hc] at hholds
        rw [hsplit, holdsTogether_append, Bool.and_eq_true] at hholds
        rw [List.append_nil, hsplit]
        exact ⟨_, .last hkept hholds.1 (Text.trimEnd_trimEnd _) hblanks⟩
      · obtain ⟨ts, hts⟩ := ih more.length (by simp [← hlength]; omega) more rfl
        exact ⟨_, .term (by simp) hholds hclosed hb hts⟩

/-- The terms that the reader finds are laid out in the text. -/
theorem isLaidOut_terms (text : List Char) : IsLaidOut (terms text) text := by
  obtain ⟨ts, h⟩ := exists_isLaidOut text
  rwa [h.terms_eq]

/-- When a text may stand in the place of another: it has blanks and brackets like the other, and
ends like it. -/
structure StandsFor (new old : List Char) : Prop where
  getLast?_eq : new.getLast? = old.getLast?
  depthAfter_eq : ∀ depth, depthAfter depth new = depthAfter depth old
  holdsTogether_eq : ∀ depth, holdsTogether depth new = holdsTogether depth old

/-- Every text may stand in its own place. -/
theorem StandsFor.refl (text : List Char) : StandsFor text text :=
  ⟨rfl, fun _ => rfl, fun _ => rfl⟩

/-- Two texts may stand in the places of two others one behind the other. -/
theorem StandsFor.append {new old new' old' : List Char} (h : StandsFor new old)
    (h' : StandsFor new' old') : StandsFor (new ++ new') (old ++ old') where
  getLast?_eq := by rw [List.getLast?_append, List.getLast?_append, h.getLast?_eq, h'.getLast?_eq]
  depthAfter_eq depth := by
    rw [depthAfter_append, depthAfter_append, h.depthAfter_eq, h'.depthAfter_eq]
  holdsTogether_eq depth := by
    rw [holdsTogether_append, holdsTogether_append, h.holdsTogether_eq, h'.holdsTogether_eq,
      h.depthAfter_eq]

/-- A text that stands for one that is not empty is not empty. -/
theorem StandsFor.ne_nil {new old : List Char} (h : StandsFor new old) (hold : old ≠ []) :
    new ≠ [] := by
  rintro rfl
  exact hold (List.getLast?_eq_none_iff.mp h.getLast?_eq.symm)

/-- A text that stands for a trimmed one is trimmed. -/
theorem StandsFor.trimEnd_eq {new old : List Char} (h : StandsFor new old)
    (hold : trimEnd old = old) : trimEnd new = new := by
  rw [Text.trimEnd_eq_self_iff, h.getLast?_eq]
  exact Text.trimEnd_eq_self_iff.mp hold

/-- Terms that are laid out stay so when others stand for them, with one space between each two. -/
theorem IsLaidOut.joinWith {olds : List (List Char)} {text : List Char} (h : IsLaidOut olds text)
    {news : List (List Char)} (hnews : List.Forall₂ StandsFor news olds) :
    IsLaidOut news (joinWith ' ' news) := by
  induction h generalizing news with
  | nil =>
    cases hnews
    exact .nil
  | blank _ _ ih => exact ih hnews
  | last hne hholds hend _ =>
    obtain ⟨new, _, hnew, hnil, rfl⟩ := List.forall₂_cons_right_iff.mp hnews
    obtain rfl := List.forall₂_nil_right_iff.mp hnil
    exact .single (hnew.ne_nil hne) (by rw [hnew.holdsTogether_eq, hholds]) (hnew.trimEnd_eq hend)
  | term hne hholds hclosed _ _ ih =>
    obtain ⟨new, more, hnew, hmore, rfl⟩ := List.forall₂_cons_right_iff.mp hnews
    have hholds' : holdsTogether 0 new = true := by rw [hnew.holdsTogether_eq, hholds]
    have hclosed' : depthAfter 0 new = 0 := by rw [hnew.depthAfter_eq, hclosed]
    by_cases hnil : more = []
    · subst hnil
      exact .single (hnew.ne_nil hne) hholds' (trimEnd_of_closed hholds' hclosed')
    · rw [Text.joinWith_cons ' ' new hnil]
      exact .term (hnew.ne_nil hne) hholds' hclosed' (by decide) (ih hmore)

end Filter

end InventoryQuery
