import InventoryQuery.Proofs.Filter.Faithful
import InventoryQuery.Proofs.Filter.Juxtaposition

/-!
# Blanks in brackets

A blank inside brackets belongs to its term. Where a term closes its brackets, every blank in it
stands in a pair of them. So no text of a condition reaches beyond the brackets into what is meant
as another term. A bracket of the last term may stay open, however, and what follows it is then part
of the term, blanks included.
-/

namespace InventoryQuery

/-- The texts of a condition besides its operator. -/
def Leaf.texts : Leaf → List String
  | .node m => [m.identifier]
  | .record (.fact m) => [m.name, m.value]
  | .record (.factPresence name) => [name]
  | .record (.resource m) => [m.type, m.title]

namespace Filter

open Text (isBlank)

/-- Whether a text closes the brackets that it opens, and as many more as are given, and no
other. -/
def isBalanced (depth : Nat) : List Char → Bool
  | [] => depth == 0
  | c :: rest => (c != ']' || depth != 0) && isBalanced (nest depth c) rest

/-- A character that is no bracket opens and closes none. -/
theorem isBalanced_cons {c : Char} (hc : isBracket c = false) (depth : Nat) (rest : List Char) :
    isBalanced depth (c :: rest) = isBalanced depth rest := by
  have hclose : (c != ']') = true := by
    rw [isBracket, Bool.or_eq_false_iff] at hc
    rw [bne, hc.2, Bool.not_false]
  rw [isBalanced, hclose, nest_of_not_isBracket hc, Bool.true_or, Bool.true_and]

/-- When a character between two texts stands in a pair of brackets: there is a bracket in front of
it, and behind it the one that closes this. -/
def IsEnclosed (before : List Char) (c : Char) (after : List Char) : Prop :=
  ∃ outer inner rest tail, before = outer ++ '[' :: inner ∧ after = rest ++ ']' :: tail ∧
    isBalanced 0 (inner ++ c :: rest) = true

/-- A character is an opening bracket, a closing one or none. -/
theorem bracket_cases (c : Char) : c = '[' ∨ c = ']' ∨ isBracket c = false := by
  by_cases hopen : c = '['
  · exact .inl hopen
  · by_cases hclose : c = ']'
    · exact .inr (.inl hclose)
    · exact .inr (.inr (by simp [isBracket, hopen, hclose]))

/-- A text that ends above a level has a bracket that leads above it and is not closed. -/
theorem exists_opening {level : Nat} {text : List Char} (hlevel : level < depthAfter 0 text) :
    ∃ outer inner surplus, text = outer ++ '[' :: inner ∧
      depthAfter 0 text = level + 1 + surplus ∧
      ∀ rest, isBalanced 0 (inner ++ rest) = isBalanced surplus rest := by
  induction text using List.reverseRecOn with
  | nil => exact absurd hlevel (Nat.not_lt_zero level)
  | append_singleton text c ih =>
    rw [depthAfter_append, depthAfter_cons, depthAfter_nil] at hlevel ⊢
    by_cases hbefore : level < depthAfter 0 text
    · obtain ⟨outer, inner, surplus, htext, hdepth, hbalanced⟩ := ih hbefore
      rw [hdepth] at hlevel ⊢
      have hlonger : text ++ [c] = outer ++ '[' :: (inner ++ [c]) := by simp [htext]
      have hstep (rest : List Char) :
          isBalanced 0 (inner ++ [c] ++ rest) = isBalanced surplus (c :: rest) := by
        rw [List.append_assoc, hbalanced, List.singleton_append]
      rcases bracket_cases c with rfl | rfl | hc
      · exact ⟨outer, inner ++ ['['], surplus + 1, hlonger, rfl, hstep⟩
      · obtain ⟨surplus, rfl⟩ : ∃ fewer, surplus = fewer + 1 := by
          cases surplus with
          | zero => exact absurd hlevel (Nat.lt_irrefl level)
          | succ fewer => exact ⟨fewer, rfl⟩
        exact ⟨outer, inner ++ [']'], surplus, hlonger, rfl, hstep⟩
      · refine ⟨outer, inner ++ [c], surplus, hlonger, nest_of_not_isBracket hc _, fun rest => ?_⟩
        rw [hstep, isBalanced_cons hc]
    · rcases bracket_cases c with rfl | rfl | hc
      · have hdepth : depthAfter 0 text = level := by
          change level < depthAfter 0 text + 1 at hlevel
          omega
        exact ⟨text, [], 0, rfl, by rw [hdepth]; rfl, fun _ => rfl⟩
      · change level < depthAfter 0 text - 1 at hlevel
        omega
      · rw [nest_of_not_isBracket hc] at hlevel
        exact absurd hlevel hbefore

/-- A text that starts above a level and ends on it or below has the bracket that leads back
to it. -/
theorem exists_closing {level surplus : Nat} {text : List Char}
    (hlevel : depthAfter (level + 1 + surplus) text ≤ level) :
    ∃ rest tail, text = rest ++ ']' :: tail ∧ isBalanced surplus rest = true := by
  induction text generalizing surplus with
  | nil =>
    rw [depthAfter_nil] at hlevel
    omega
  | cons c text ih =>
    rw [depthAfter_cons] at hlevel
    rcases bracket_cases c with rfl | rfl | hc
    · obtain ⟨rest, tail, rfl, hrest⟩ := @ih (surplus + 1) hlevel
      exact ⟨'[' :: rest, tail, rfl, hrest⟩
    · cases surplus with
      | zero => exact ⟨[], text, rfl, rfl⟩
      | succ fewer =>
        obtain ⟨rest, tail, rfl, hrest⟩ := @ih fewer hlevel
        exact ⟨']' :: rest, tail, rfl, hrest⟩
    · rw [nest_of_not_isBracket hc] at hlevel
      obtain ⟨rest, tail, rfl, hrest⟩ := ih hlevel
      exact ⟨c :: rest, tail, rfl, by rwa [isBalanced_cons hc]⟩

/-- A blank stands in a pair of brackets when some are open in front of it, and none is behind what
follows it. -/
theorem isEnclosed_of_isBlank {before after : List Char} {b : Char} (hb : isBlank b = true)
    (hopen : 0 < depthAfter 0 before) (hclosed : depthAfter 0 (before ++ b :: after) = 0) :
    IsEnclosed before b after := by
  obtain ⟨outer, inner, surplus, hbefore, hdepth, hbalanced⟩ := exists_opening hopen
  rw [depthAfter_append, depthAfter_cons, nest_of_isBlank hb, hdepth] at hclosed
  obtain ⟨rest, tail, hafter, hrest⟩ := exists_closing hclosed.le
  have hbracket : isBracket b = false := by
    rcases bracket_cases b with rfl | rfl | h
    · exact absurd hb (by decide)
    · exact absurd hb (by decide)
    · exact h
  refine ⟨outer, inner, rest, tail, hbefore, hafter, ?_⟩
  rw [hbalanced, isBalanced_cons hbracket, hrest]

/-- A bracket is open in front of every blank of a text that holds together. -/
theorem depthAfter_pos_of_isBlank {before after : List Char} {b : Char} (hb : isBlank b = true)
    (hholds : holdsTogether 0 (before ++ b :: after) = true) : 0 < depthAfter 0 before := by
  rw [holdsTogether_append, Bool.and_eq_true, holdsTogether, hb, Bool.true_and, Bool.and_eq_true,
    Bool.not_eq_true', beq_eq_false_iff_ne] at hholds
  exact Nat.pos_of_ne_zero hholds.2.1

/-- Every term of a filter holds together. -/
theorem IsLaidOut.holdsTogether_eq {ts : List (List Char)} {text : List Char} (h : IsLaidOut ts text) :
    ∀ term ∈ ts, holdsTogether 0 term = true := by
  induction h with
  | nil => simp
  | blank _ _ ih => exact ih
  | last _ hholds _ _ => simpa using hholds
  | term _ hholds _ _ _ ih => exact List.forall_mem_cons.mpr ⟨hholds, ih⟩

/-- Every term but the last one closes its brackets. -/
theorem IsLaidOut.closed_dropLast {ts : List (List Char)} {text : List Char} (h : IsLaidOut ts text) :
    ∀ term ∈ ts.dropLast, depthAfter 0 term = 0 := by
  induction h with
  | nil => simp
  | blank _ _ ih => exact ih
  | last _ _ _ _ => simp
  | @term term _ ts _ _ _ hclosed _ _ ih =>
    cases ts with
    | nil => simp
    | cons next more => exact List.forall_mem_cons.mpr ⟨hclosed, ih⟩

/-- Every term of a filter closes its brackets when the filter leaves none open. -/
theorem IsLaidOut.closed {ts : List (List Char)} {text : List Char} (h : IsLaidOut ts text)
    (hfilter : depthAfter 0 text = 0) : ∀ term ∈ ts, depthAfter 0 term = 0 := by
  induction h with
  | nil => simp
  | blank hb _ ih =>
    rw [depthAfter_cons, nest_of_isBlank hb] at hfilter
    exact ih hfilter
  | last _ _ _ hblanks =>
    rw [depthAfter_append, depthAfter_of_isBlank hblanks] at hfilter
    simpa using hfilter
  | term _ _ hclosed hb _ ih =>
    rw [depthAfter_append, hclosed, depthAfter_cons, nest_of_isBlank hb] at hfilter
    exact List.forall_mem_cons.mpr ⟨hclosed, ih hfilter⟩

/-- When every text of a predicate's conditions stands somewhere in a text. -/
def HoldsTexts (text : List Char) (p : Predicate) : Prop :=
  ∀ condition ∈ p.leaves, ∀ part ∈ condition.texts, part.toList <:+: text

/-- A longer text holds the texts as well. -/
theorem HoldsTexts.mono {text longer : List Char} {p : Predicate} (h : HoldsTexts text p)
    (hlonger : text <:+: longer) : HoldsTexts longer p :=
  fun condition hcondition part hpart => (h condition hcondition part hpart).trans hlonger

/-- A text holds the texts of a group when it holds those of every member. -/
theorem holdsTexts_group {text : List Char} {connective : Connective} {members : List Predicate} :
    HoldsTexts text (.group connective members) ↔ ∀ p ∈ members, HoldsTexts text p :=
  Predicate.forall_leaves_group

/-- The texts of a condition stand in its spelling. -/
theorem isInfix_spell (condition : Leaf) :
    ∀ part ∈ condition.texts, part.toList <:+: condition.spell := by
  match condition with
  | .node m =>
    rw [Leaf.texts, List.forall_mem_singleton, spell_node, ← List.append_assoc]
    exact (List.suffix_append _ _).isInfix
  | .record (.fact m) =>
    rw [Leaf.texts, List.forall_mem_cons, List.forall_mem_singleton, spell_fact]
    constructor
    · exact ⟨factLead, m.operator.toList ++ m.value.toList, by simp only [List.append_assoc]⟩
    · rw [← List.append_assoc]
      exact (List.suffix_append _ _).isInfix
  | .record (.factPresence name) =>
    rw [Leaf.texts, List.forall_mem_singleton, spell_factPresence]
    exact (List.suffix_append _ _).isInfix
  | .record (.resource m) =>
    rw [Leaf.texts, List.forall_mem_cons, List.forall_mem_singleton, spell_resource]
    generalize (if m.exported = true then exportedLead else resourceLead) = lead
    generalize (if m.operator = matchesRegex then ['~'] else []) = mark
    constructor
    · exact ⟨lead, mark ++ '[' :: m.title.toList ++ [']'], by simp only [List.append_assoc]⟩
    · exact ⟨lead ++ m.type.toList ++ mark ++ ['['], [']'], by simp⟩

/-- The texts of a condition stand in what it is read from. -/
theorem IsReadAs.holdsTexts {text : List Char} {condition : Leaf} (h : IsReadAs text condition) :
    HoldsTexts text (.leaf condition) := by
  rw [HoldsTexts, Predicate.leaves, List.forall_mem_singleton]
  cases h with
  | spelled _ => exact isInfix_spell condition
  | bare _ => simp [Leaf.texts]

/-- An alternative holds the texts of what it stands for. -/
theorem IsAlternativeFor.holdsTexts {text : List Char} {p : Predicate} (h : IsAlternativeFor text p) :
    HoldsTexts text p := by
  induction h with
  | condition hread _ _ => exact hread.holdsTexts
  | negation _ ih => exact ih.mono (List.suffix_cons _ _).isInfix

/-- Every alternative stands in the term. -/
theorem IsAlternation.isInfix {parts : List (List Char)} {term : List Char}
    (h : IsAlternation parts term) : ∀ part ∈ parts, part <:+: term := by
  induction h with
  | last _ => simp
  | @cons part parts term _ _ _ _ ih =>
    have hterm : term <:+: part ++ '|' :: term :=
      ((List.suffix_cons '|' term).trans (List.suffix_append part ('|' :: term))).isInfix
    exact List.forall_mem_cons.mpr
      ⟨(List.prefix_append _ _).isInfix, fun other hother => (ih other hother).trans hterm⟩

/-- A term holds the texts of what it stands for. -/
theorem IsTermFor.holdsTexts {text : List Char} {p : Predicate} (h : IsTermFor text p) :
    HoldsTexts text p := by
  induction h with
  | alternative h => exact h.holdsTexts
  | @alternation text parts members hparts _ _ hmembers =>
    have hboth := (List.forall₂_and_left _ _).mpr ⟨hparts.isInfix, hmembers⟩
    exact holdsTexts_group.mpr
      (forall_mem_of_forall₂ hboth fun _ _ hpart => hpart.2.holdsTexts.mono hpart.1)
  | negation _ ih => exact ih.mono (List.suffix_cons _ _).isInfix

/-- When the texts of a predicate's conditions stand in a term, and wherever one does, every blank
in it is in a pair of brackets of the term. -/
structure EnclosesBlanks (term : List Char) (p : Predicate) : Prop where
  holdsTexts : HoldsTexts term p
  isEnclosed : ∀ condition ∈ p.leaves, ∀ text ∈ condition.texts, ∀ before after,
    term = before ++ text.toList ++ after → ∀ front b back, text.toList = front ++ b :: back →
      isBlank b = true → IsEnclosed (before ++ front) b (back ++ after)

/-- A term that closes its brackets has the blanks of what it stands for in them. -/
theorem IsTermFor.enclosesBlanks {term : List Char} {p : Predicate} (h : IsTermFor term p)
    (hholds : holdsTogether 0 term = true) (hclosed : depthAfter 0 term = 0) :
    EnclosesBlanks term p where
  holdsTexts := h.holdsTexts
  isEnclosed := by
    rintro condition hcondition text htext before after rfl front b back hsplit hb
    have hplace : before ++ text.toList ++ after = (before ++ front) ++ b :: (back ++ after) := by
      rw [hsplit]
      simp only [List.append_assoc, List.cons_append]
    rw [hplace] at hholds hclosed
    exact isEnclosed_of_isBlank hb (depthAfter_pos_of_isBlank hb hholds) hclosed

/-- No term of a filter reaches into the next one through a bracket that it closes. In a text of a
condition every blank stands in a pair of brackets of the condition's own term, unless this term
leaves a bracket open. Only the last term may do so, and does not when the whole filter leaves none
open. -/
theorem parse_enclosesBlanks {filter : String} {p : Predicate} (h : parse filter = .ok (some p)) :
    ∃ ts members, IsLaidOut ts filter.toList ∧ List.Forall₂ IsTermFor ts members ∧
      conjunction members = .ok (some p) ∧
      List.Forall₂ (fun term q => depthAfter 0 term = 0 → EnclosesBlanks term q) ts members ∧
      (∀ term ∈ ts.dropLast, depthAfter 0 term = 0) ∧
      (depthAfter 0 filter.toList = 0 → List.Forall₂ EnclosesBlanks ts members) := by
  obtain ⟨ts, members, hlaid, hterms, hp⟩ := parse_eq_ok_some_iff.mp h
  have hboth := (List.forall₂_and_left _ _).mpr ⟨hlaid.holdsTogether_eq, hterms⟩
  have hencloses : List.Forall₂ (fun term q => depthAfter 0 term = 0 → EnclosesBlanks term q)
      ts members :=
    hboth.imp fun _ _ hterm hclosed => hterm.2.enclosesBlanks hterm.1 hclosed
  refine ⟨ts, members, hlaid, hterms, hp, hencloses, hlaid.closed_dropLast, fun hfilter => ?_⟩
  have hclosed := (List.forall₂_and_left _ _).mpr ⟨hlaid.closed hfilter, hencloses⟩
  exact hclosed.imp fun _ _ hterm => hterm.2 hterm.1

/-- A filter with blanks in brackets, some of them in two pairs. -/
def bracketedFilter : Predicate :=
  .group .and [.fact ⟨"os", "[a b]x]", "~"⟩, .resource ⟨"Exec", "apt [get update] -y", false, "="⟩]

/-- The blanks of a filter that leaves no bracket open stand in the brackets of their terms. -/
theorem parse_enclosesBlanks_bracketedFilter :
    parse "fact:os~[a b]x] resource:Exec[apt [get update] -y]" = .ok (some bracketedFilter) ∧
      ∃ ts members, IsLaidOut ts "fact:os~[a b]x] resource:Exec[apt [get update] -y]".toList ∧
        conjunction members = .ok (some bracketedFilter) ∧
        List.Forall₂ EnclosesBlanks ts members := by
  have hread : parse "fact:os~[a b]x] resource:Exec[apt [get update] -y]" =
      .ok (some bracketedFilter) := by cbv
  obtain ⟨ts, members, hlaid, _, hp, _, _, hencloses⟩ := parse_enclosesBlanks hread
  exact ⟨hread, ts, members, hlaid, hp, hencloses (by decide)⟩

/-- Filters are not always read within the brackets of their terms. A bracket that the value of a
comparison opens and nothing closes takes in the whole rest of the filter, which is another
condition here. -/
theorem not_forall_enclosesBlanks :
    ¬∀ (filter : String) (p : Predicate), parse filter = .ok (some p) →
      ∃ ts members, IsLaidOut ts filter.toList ∧ List.Forall₂ IsTermFor ts members ∧
        conjunction members = .ok (some p) ∧ List.Forall₂ EnclosesBlanks ts members := by
  intro hall
  have hread : parse "fact:os~[a has:b" = .ok (some (.fact ⟨"os", "[a has:b", "~"⟩)) := by cbv
  obtain ⟨ts, members, hlaid, _, hp, hencloses⟩ := hall _ _ hread
  have hts : ts = ["fact:os~[a has:b".toList] := by
    rw [← hlaid.terms_eq]
    decide
  obtain ⟨q, hq, rfl⟩ : ∃ q, EnclosesBlanks "fact:os~[a has:b".toList q ∧ members = [q] := by
    rw [hts, List.forall₂_cons_left_iff] at hencloses
    obtain ⟨q, rest, hq, hrest, rfl⟩ := hencloses
    rw [List.forall₂_nil_left_iff.mp hrest]
    exact ⟨q, hq, rfl⟩
  obtain rfl : q = .fact ⟨"os", "[a has:b", "~"⟩ := by
    rw [conjunction, Except.ok.injEq, Option.some.injEq] at hp
    exact hp
  obtain ⟨_, _, rest, tail, _, hclosing, _⟩ :=
    hq.isEnclosed _ (.head _) "[a has:b" (by decide) "fact:os~".toList [] (by decide)
      "[a".toList ' ' "has:b".toList (by decide) (by decide)
  have hmem : ']' ∈ "has:b".toList ++ [] := by
    rw [hclosing]
    simp
  exact absurd hmem (by decide)

end Filter

end InventoryQuery
