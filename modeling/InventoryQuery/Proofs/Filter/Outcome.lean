import InventoryQuery.Proofs.Filter.Faithful
import InventoryQuery.Proofs.Filter.ReadBack

/-!
# How reading a filter ends

Reading a filter ends in one of three ways. A filter of blanks alone has no predicate. Any other one
is read as a predicate in the form of `Filter/NormalForm`, or refused for a reason of filters. No
other error arises: there is always an alternative to build a disjunction from, and a conjunction is
only built from several terms.
-/

namespace InventoryQuery.Filter

open Text (isBlank)

/-- Whether every condition of a predicate can be written in a filter. -/
def AllWritable (p : Predicate) : Prop := ∀ condition ∈ p.leaves, condition.isWritable = true

/-- The conditions of an alternative can be written in a filter. -/
theorem allWritable_of_isAlternative {p : Predicate} (h : p.isAlternative = true) :
    AllWritable p := by
  induction p using Predicate.isAlternative.induct with
  | case1 condition => exact List.forall_mem_singleton.mpr h
  | case2 negated ih => exact ih h
  | case3 connective members => exact absurd h Bool.false_ne_true

/-- The conditions of a term can be written in a filter. -/
theorem allWritable_of_isTerm {p : Predicate} (h : p.isTerm = true) : AllWritable p := by
  induction p using Predicate.inductionOn with
  | leaf condition => exact List.forall_mem_singleton.mpr h
  | not negated ih => exact ih h
  | group connective members _ =>
    cases connective with
    | and => exact absurd h Bool.false_ne_true
    | or =>
      obtain ⟨_, halternatives, _⟩ := alternatives_of_isTerm h
      exact Predicate.forall_leaves_group.mpr
        fun p hp => allWritable_of_isAlternative (halternatives p hp)

/-- The conditions of a predicate in normal form can be written in a filter. -/
theorem allWritable_of_isNormal {p : Predicate} (h : p.isNormal = true) : AllWritable p := by
  obtain ⟨members, hconjunction, hterms, _⟩ := exists_terms h
  rcases conjunction_eq_ok_some_iff.mp hconjunction with rfl | ⟨_, rfl⟩
  · exact allWritable_of_isTerm (hterms p (.head _))
  · exact Predicate.forall_leaves_group.mpr fun q hq => allWritable_of_isTerm (hterms q hq)

/-- Some predicates can always be grouped. -/
theorem grouped_ne_error {connective : Connective} {members : List Predicate} (hne : members ≠ [])
    (e : InventoryQuery.Error) : grouped connective members ≠ .error e := by
  rw [grouped_eq_ok_iff.mpr ⟨hne, rfl⟩]
  exact nofun

/-- A term is refused for a reason of filters. -/
theorem exists_reason_of_readTerm {text : List Char} {e : InventoryQuery.Error}
    (h : readTerm text = .error e) : ∃ reason, e = .filter reason := by
  induction text using readTerm.induct with
  | case1 inner hempty =>
    rw [readTerm, if_pos hempty] at h
    cases h
    exact ⟨_, rfl⟩
  | case2 inner hne ih =>
    rw [readTerm_negation (by simpa using hne)] at h
    exact ih (map_eq_error_iff.mp h)
  | case3 text hnegation hseveral ih =>
    rw [readTerm_alternation (head?_ne_negation_iff.mpr hnegation) hseveral] at h
    rcases bind_eq_error_iff.mp h with hpart | ⟨members, hmembers, hgroup⟩
    · obtain ⟨part, hpart, hread⟩ := exists_mem_of_mapM_eq_error hpart
      exact ih ⟨part, hpart⟩ hread
    · have hparts := (isAlternation_alternatives text).ne_nil
      exact absurd hgroup (grouped_ne_error (ne_nil_of_mapM hparts hmembers) e)
  | case4 text hnegation hone =>
    rw [readTerm_condition (head?_ne_negation_iff.mpr hnegation) (isUncut_iff.mpr hone)] at h
    obtain ⟨cause, -, rfl⟩ := mapError_eq_error_iff.mp h
    exact ⟨cause, rfl⟩

/-- Terms can always be combined. -/
theorem conjunction_ne_error (members : List Predicate) (e : InventoryQuery.Error) :
    conjunction members ≠ .error e := by
  match members with
  | [] => exact nofun
  | [single] => exact nofun
  | first :: second :: more =>
    change (grouped .and (first :: second :: more)).map some ≠ _
    exact fun h => grouped_ne_error (by simp) e (map_eq_error_iff.mp h)

/-- No terms stand for no predicate, and only they do. -/
theorem conjunction_eq_ok_none_iff {members : List Predicate} :
    conjunction members = .ok none ↔ members = [] := by
  match members with
  | [] => simp [conjunction]
  | [single] => simp [conjunction]
  | first :: second :: more =>
    change (grouped .and (first :: second :: more)).map some = _ ↔ _
    simp [map_eq_ok_iff]

/-- A text in which no terms are laid out is made of blanks. -/
theorem IsLaidOut.isBlank {ts : List (List Char)} {text : List Char} (h : IsLaidOut ts text)
    (hnone : ts = []) : ∀ c ∈ text, isBlank c = true := by
  induction h with
  | nil => simp
  | blank hb _ ih => exact List.forall_mem_cons.mpr ⟨hb, ih hnone⟩
  | last _ _ _ _ => exact absurd hnone nofun
  | term _ _ _ _ _ _ => exact absurd hnone nofun

/-- A text has no terms when it is made of blanks, and only then. -/
theorem terms_eq_nil_iff {text : List Char} :
    terms text = [] ↔ ∀ c ∈ text, isBlank c = true := by
  constructor
  · exact fun h => (isLaidOut_terms text).isBlank h
  · exact fun h => terms_eq_nil (Text.trimEnd_eq_nil_iff.mpr h)

/-- A filter has no predicate exactly when it is made of blanks alone, and it is refused for reasons
of filters only. What it is read as is in normal form: a conjunction, of two terms or more, stands
at the root alone, the first of two alternatives or more is not negated, and every condition has an
operator of the language and texts that can be written. -/
theorem parse_outcome (filter : String) :
    (parse filter = .ok none ↔ ∀ c ∈ filter.toList, isBlank c = true) ∧
      (∀ e, parse filter = .error e → ∃ reason, e = .filter reason) ∧
      ∀ p, parse filter = .ok (some p) →
        p.isNormal = true ∧ ∀ condition ∈ p.leaves, condition.isWritable = true := by
  refine ⟨?_, ?_, ?_⟩
  · rw [parse, bind_eq_ok_iff, ← terms_eq_nil_iff]
    constructor
    · rintro ⟨members, hmembers, hnone⟩
      rw [conjunction_eq_ok_none_iff] at hnone
      subst hnone
      exact List.forall₂_nil_right_iff.mp (mapM_eq_ok_iff.mp hmembers)
    · intro hterms
      exact ⟨[], by rw [hterms]; rfl, rfl⟩
  · intro e h
    rcases bind_eq_error_iff.mp h with hterm | ⟨members, _, hconjunction⟩
    · obtain ⟨term, _, hread⟩ := exists_mem_of_mapM_eq_error hterm
      exact exists_reason_of_readTerm hread
    · exact absurd hconjunction (conjunction_ne_error members e)
  · intro p h
    have hnormal := isNormal_of_parse h
    exact ⟨hnormal, allWritable_of_isNormal hnormal⟩

/-- A negated disjunction beside a comparison. -/
def notServerFilter : Predicate :=
  .group .and
    [.not (.group .or [.node ⟨"web", "="⟩, .not (.node ⟨"db", "="⟩)]), .fact ⟨"cpus", "2", "<="⟩]

/-- The exclamation mark in front negates the whole disjunction, and the one behind the bar its
second alternative. -/
theorem parse_outcome_notServerFilter :
    parse "!web|!db fact:cpus<=2" = .ok (some notServerFilter) ∧
      notServerFilter.isNormal = true ∧
      ∀ condition ∈ notServerFilter.leaves, condition.isWritable = true := by
  have hread : parse "!web|!db fact:cpus<=2" = .ok (some notServerFilter) := by cbv
  exact ⟨hread, (parse_outcome _).2.2 notServerFilter hread⟩

end InventoryQuery.Filter
