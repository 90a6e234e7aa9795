import InventoryQuery.Filter.Parser
import InventoryQuery.Proofs.Filter.Alternation
import InventoryQuery.Proofs.Filter.Condition
import InventoryQuery.Proofs.Filter.Layout
import InventoryQuery.Proofs.Results

/-!
# The grammar of filters

Which predicate a text stands for, as relations that do not say how it is found: a condition negated
some number of times, a term that is one of these or a disjunction of them, and a filter that lays
out terms. The reader accepts exactly the texts of the grammar, with the predicates that they stand
for.
-/

namespace InventoryQuery.Filter

/-- What an alternative stands for. -/
inductive IsAlternativeFor : (text : List Char) → (p : Predicate) → Prop
  /-- A condition that no bar cuts. -/
  | condition {text : List Char} {condition : Leaf} (hread : IsReadAs text condition)
    (hhead : text.head? ≠ some '!') (huncut : isUncut text = true) :
    IsAlternativeFor text (.leaf condition)
  /-- A negated alternative. -/
  | negation {text : List Char} {p : Predicate} (h : IsAlternativeFor text p) :
    IsAlternativeFor ('!' :: text) (.not p)

/-- What a term stands for. -/
inductive IsTermFor : (text : List Char) → (p : Predicate) → Prop
  /-- A single alternative. -/
  | alternative {text : List Char} {p : Predicate} (h : IsAlternativeFor text p) : IsTermFor text p
  /-- Several alternatives, of which the first one is not negated. -/
  | alternation {text : List Char} {parts : List (List Char)} {members : List Predicate}
    (hparts : IsAlternation parts text) (hseveral : 1 < parts.length)
    (hhead : text.head? ≠ some '!') (hmembers : List.Forall₂ IsAlternativeFor parts members) :
    IsTermFor text (.group .or members)
  /-- A negated term. -/
  | negation {text : List Char} {p : Predicate} (h : IsTermFor text p) :
    IsTermFor ('!' :: text) (.not p)

/-- What a filter stands for: its term, or the conjunction of its terms. -/
def IsFilterFor (text : List Char) (p : Predicate) : Prop :=
  ∃ terms members, IsLaidOut terms text ∧ List.Forall₂ IsTermFor terms members ∧
    conjunction members = .ok (some p)

/-- Several predicates have a group. -/
theorem grouped_eq_ok_iff {connective : Connective} {members : List Predicate} {p : Predicate} :
    grouped connective members = .ok p ↔ members ≠ [] ∧ p = .group connective members := by
  cases members with
  | nil => simp [grouped, Predicate.group?]
  | cons first members =>
    simp only [grouped, Predicate.group?, Except.ok.injEq, ne_eq, reduceCtorEq, not_false_eq_true,
      true_and]
    exact eq_comm

/-- One predicate stands for itself, and several stand for their conjunction. -/
theorem conjunction_eq_ok_some_iff {members : List Predicate} {p : Predicate} :
    conjunction members = .ok (some p) ↔
      members = [p] ∨ 1 < members.length ∧ p = .group .and members := by
  match members with
  | [] => simp [conjunction]
  | [single] => simp [conjunction]
  | first :: second :: more =>
    change (grouped .and (first :: second :: more)).map some = _ ↔ _
    rw [map_eq_ok_iff]
    simpa [grouped_eq_ok_iff] using eq_comm

/-- A text without an exclamation mark in front is not one behind an exclamation mark. -/
theorem head?_ne_negation_iff {text : List Char} :
    text.head? ≠ some '!' ↔ ∀ inner, text = '!' :: inner → False := by
  cases text <;> simp

/-- What follows an exclamation mark is read and negated. -/
theorem readTerm_negation {text : List Char} (hne : text ≠ []) :
    readTerm ('!' :: text) = (readTerm text).map .not := by
  rw [readTerm, if_neg (by simpa using hne)]

/-- A term without an exclamation mark in front that bars cut is read as the disjunction of its
alternatives. -/
theorem readTerm_alternation {text : List Char} (hhead : text.head? ≠ some '!')
    (hseveral : 1 < (alternatives text).length) :
    readTerm text = ((alternatives text).mapM readTerm).bind (grouped .or) := by
  rw [readTerm, if_pos hseveral, mapM_attach]
  exact head?_ne_negation_iff.mp hhead

/-- A term without an exclamation mark in front that no bar cuts is read as a condition. -/
theorem readTerm_condition {text : List Char} (hhead : text.head? ≠ some '!')
    (huncut : isUncut text = true) :
    readTerm text = (readCondition text).mapError .filter := by
  rw [readTerm, if_neg (isUncut_iff.mp huncut)]
  exact head?_ne_negation_iff.mp hhead

/-- A text that no bar cuts stands for the same as an alternative and as a term. -/
theorem IsTermFor.isAlternativeFor {text : List Char} {p : Predicate} (h : IsTermFor text p)
    (huncut : isUncut text = true) : IsAlternativeFor text p := by
  induction h with
  | alternative h => exact h
  | alternation hparts hseveral _ _ =>
    rw [← hparts.alternatives_eq] at hseveral
    exact absurd hseveral (isUncut_iff.mp huncut)
  | negation _ ih => exact .negation (ih (isUncut_negation _ ▸ huncut))

/-- What is read as a condition is not empty. -/
theorem IsReadAs.ne_nil {text : List Char} {condition : Leaf} (h : IsReadAs text condition) :
    text ≠ [] := by
  rintro rfl
  exact absurd h.readCondition_eq nofun

/-- An alternative is not empty. -/
theorem IsAlternativeFor.ne_nil {text : List Char} {p : Predicate} (h : IsAlternativeFor text p) :
    text ≠ [] := by
  cases h with
  | condition hread _ _ => exact hread.ne_nil
  | negation _ => simp

/-- No bar cuts an alternative. -/
theorem IsAlternativeFor.isUncut {text : List Char} {p : Predicate} (h : IsAlternativeFor text p) :
    isUncut text = true := by
  induction h with
  | condition _ _ huncut => exact huncut
  | negation _ ih => rwa [isUncut_negation]

/-- A term is not empty. -/
theorem IsTermFor.ne_nil {text : List Char} {p : Predicate} (h : IsTermFor text p) :
    text ≠ [] := by
  cases h with
  | alternative h => exact h.ne_nil
  | alternation hparts hseveral _ _ =>
    cases hparts with
    | last _ => simp at hseveral
    | cons _ _ _ _ => simp
  | negation _ => simp

/-- What is read as a term stands for the predicate that is read. -/
theorem isTermFor_of_readTerm {text : List Char} {p : Predicate} (h : readTerm text = .ok p) :
    IsTermFor text p := by
  induction text using readTerm.induct generalizing p with
  | case1 inner hempty =>
    rw [readTerm, if_pos hempty] at h
    exact absurd h nofun
  | case2 inner hne ih =>
    rw [readTerm_negation (by simpa using hne)] at h
    obtain ⟨q, hq, rfl⟩ := map_eq_ok_iff.mp h
    exact .negation (ih hq)
  | case3 text hnegation hseveral ih =>
    have hhead := head?_ne_negation_iff.mpr hnegation
    rw [readTerm_alternation hhead hseveral] at h
    obtain ⟨members, hmembers, hgroup⟩ := bind_eq_ok_iff.mp h
    obtain ⟨_, rfl⟩ := grouped_eq_ok_iff.mp hgroup
    have hparts := isAlternation_alternatives text
    have hread : ∀ part ∈ alternatives text, ∀ q, readTerm part = .ok q → IsAlternativeFor part q :=
      fun part hpart q hq => (ih ⟨part, hpart⟩ hq).isAlternativeFor (hparts.isUncut part hpart)
    refine .alternation hparts hseveral hhead ?_
    have hboth := (List.forall₂_and_left _ _).mpr ⟨hread, mapM_eq_ok_iff.mp hmembers⟩
    exact hboth.imp fun part q hpart => hpart.1 q hpart.2
  | case4 text hnegation hone =>
    have hhead := head?_ne_negation_iff.mpr hnegation
    have huncut := isUncut_iff.mpr hone
    rw [readTerm_condition hhead huncut, mapError_eq_ok_iff] at h
    obtain ⟨condition, rfl, hread⟩ := exists_isReadAs h
    exact .alternative (.condition hread hhead huncut)

/-- An alternative is read as what it stands for. -/
theorem IsAlternativeFor.readTerm_eq {text : List Char} {p : Predicate}
    (h : IsAlternativeFor text p) : readTerm text = .ok p := by
  induction h with
  | condition hread hhead huncut =>
    rw [readTerm_condition hhead huncut, hread.readCondition_eq]
    rfl
  | negation h ih =>
    rw [readTerm_negation h.ne_nil, ih]
    rfl

/-- A term is read as what it stands for. -/
theorem IsTermFor.readTerm_eq {text : List Char} {p : Predicate} (h : IsTermFor text p) :
    readTerm text = .ok p := by
  induction h with
  | alternative h => exact h.readTerm_eq
  | @alternation text parts members hparts hseveral hhead hmembers =>
    rw [← hparts.alternatives_eq] at hseveral
    rw [readTerm_alternation hhead hseveral, hparts.alternatives_eq, bind_eq_ok_iff]
    have hread : parts.mapM readTerm = .ok members :=
      mapM_eq_ok_iff.mpr (hmembers.imp fun _ _ hpart => hpart.readTerm_eq)
    refine ⟨members, hread, grouped_eq_ok_iff.mpr ⟨?_, rfl⟩⟩
    rintro rfl
    exact hparts.ne_nil (List.forall₂_nil_right_iff.mp hmembers)
  | negation h ih =>
    rw [readTerm_negation h.ne_nil, ih]
    rfl

/-- A filter is read as a predicate exactly when it stands for it. -/
theorem parse_eq_ok_some_iff {filter : String} {p : Predicate} :
    parse filter = .ok (some p) ↔ IsFilterFor filter.toList p := by
  rw [parse, bind_eq_ok_iff]
  constructor
  · rintro ⟨members, hmembers, hp⟩
    have hterms := (mapM_eq_ok_iff.mp hmembers).imp fun _ _ hterm => isTermFor_of_readTerm hterm
    exact ⟨terms filter.toList, members, isLaidOut_terms filter.toList, hterms, hp⟩
  · rintro ⟨texts, members, hlaid, hterms, hp⟩
    rw [hlaid.terms_eq]
    exact ⟨members, mapM_eq_ok_iff.mpr (hterms.imp fun _ _ hterm => hterm.readTerm_eq), hp⟩

end InventoryQuery.Filter
