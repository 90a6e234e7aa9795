import InventoryQuery.Proofs.Filter.Spelling

/-!
# Reading spelled filters back

Every predicate in the form of `Filter/NormalForm` is read back from its spelling, as long as the
ends of its conditions can be told. Alternatives are spelled as texts that no bar cuts and that
close their brackets, terms as texts that hold together, so that the separators between them are
the only places at which the spelling is cut.
-/

namespace InventoryQuery.Filter

open Text (joinWith)

/-- Whether the ends of every condition of a predicate can be told. -/
def AllDelimited (p : Predicate) : Prop := ∀ condition ∈ p.leaves, condition.isDelimited = true

/-- Closed texts that are joined by a separator which is neither a blank nor a bracket are
closed. -/
theorem isClosed_joinWith {separator : Char} (hseparator : isUnbroken [separator] = true)
    {texts : List (List Char)} (htexts : ∀ text ∈ texts, IsClosed text) :
    IsClosed (joinWith separator texts) := by
  induction texts with
  | nil => exact ⟨rfl, rfl⟩
  | cons text texts ih =>
    rw [List.forall_mem_cons] at htexts
    by_cases hnil : texts = []
    · subst hnil
      exact htexts.1
    · rw [Text.joinWith_cons separator text hnil]
      exact htexts.1.append ((isClosed_of_isUnbroken hseparator).append (ih htexts.2))

/-- Closed texts with a space between each two are laid out in the whole. -/
theorem isLaidOut_joinWith {texts : List (List Char)}
    (htexts : ∀ text ∈ texts, text ≠ [] ∧ IsClosed text) :
    IsLaidOut texts (joinWith ' ' texts) := by
  induction texts with
  | nil => exact .nil
  | cons text texts ih =>
    rw [List.forall_mem_cons] at htexts
    obtain ⟨⟨hne, hclosed⟩, hrest⟩ := htexts
    by_cases hnil : texts = []
    · subst hnil
      have hend := trimEnd_of_closed hclosed.holdsTogether_eq hclosed.depthAfter_eq
      exact .single hne hclosed.holdsTogether_eq hend
    · rw [Text.joinWith_cons ' ' text hnil]
      exact .term hne hclosed.holdsTogether_eq hclosed.depthAfter_eq (by decide) (ih hrest)

/-- The spelling of an alternative is closed. -/
theorem isClosed_alternative {p : Predicate} (h : p.isAlternative = true) (hleaves : AllDelimited p) :
    IsClosed p.spell := by
  induction p using Predicate.isAlternative.induct with
  | case1 condition => exact isClosed_spell h (hleaves condition (by simp [Predicate.leaves]))
  | case2 negated ih => exact (ih h hleaves).negation
  | case3 connective members => exact absurd h Bool.false_ne_true

/-- The spelling of an alternative stands for it. -/
theorem isAlternativeFor_spell {p : Predicate} (h : p.isAlternative = true)
    (hleaves : AllDelimited p) : IsAlternativeFor p.spell p := by
  induction p using Predicate.isAlternative.induct with
  | case1 condition =>
    have hdelimited := hleaves condition (by simp [Predicate.leaves])
    have hhead : condition.spell.head? ≠ some '!' := by simpa using head?_spell condition []
    exact .condition (.spelled h) hhead (isUncut_spell h hdelimited)
  | case2 negated ih => exact .negation (ih h hleaves)
  | case3 connective members => exact absurd h Bool.false_ne_true

/-- The spellings of alternatives are the alternatives of the term that they are joined to. -/
theorem isAlternation_spell {members : List Predicate} (hne : members ≠ [])
    (hmembers : ∀ p ∈ members, p.isAlternative = true ∧ AllDelimited p) :
    IsAlternation (members.map Predicate.spell) (joinWith '|' (members.map Predicate.spell)) := by
  have hopens : ∀ p ∈ members, opensCondition p.spell = true := fun p hp => by
    simpa using opensCondition_alternative (hmembers p hp).1 []
  apply isAlternation_joinWith (by simpa using hne)
  · rw [List.forall_mem_map]
    exact fun p hp => (isAlternativeFor_spell (hmembers p hp).1 (hmembers p hp).2).isUncut
  · rw [← List.map_dropLast, List.forall_mem_map]
    intro p hp
    obtain ⟨halternative, hleaves⟩ := hmembers p (List.dropLast_subset _ hp)
    exact (isClosed_alternative halternative hleaves).depthAfter_eq
  · rw [List.isChain_map]
    exact (List.pairwise_of_forall_mem_list fun _ _ q hq => .inr (hopens q hq)).isChain

/-- The members of a disjunction in a term are alternatives, the first of which is a condition. -/
theorem alternatives_of_isTerm {members : List Predicate}
    (h : (Predicate.group .or members).isTerm = true) :
    1 < members.length ∧ (∀ p ∈ members, p.isAlternative = true) ∧
      ∃ condition rest, members = .leaf condition :: rest := by
  match members, h with
  | first :: second :: more, h =>
    rw [Predicate.isTerm, Bool.and_eq_true, List.all_eq_true] at h
    cases first with
    | leaf condition => exact ⟨by simp, List.forall_mem_cons.mpr h, condition, _, rfl⟩
    | not _ => exact absurd h.1 Bool.false_ne_true
    | group _ _ => exact absurd h.1 Bool.false_ne_true

/-- The spelling of a term is closed. -/
theorem isClosed_term {p : Predicate} (h : p.isTerm = true) (hleaves : AllDelimited p) :
    IsClosed p.spell := by
  induction p using Predicate.inductionOn with
  | leaf condition => exact isClosed_spell h (hleaves condition (by simp [Predicate.leaves]))
  | not negated ih => exact (ih h hleaves).negation
  | group connective members _ =>
    cases connective with
    | and => exact absurd h Bool.false_ne_true
    | or =>
      obtain ⟨_, halternatives, _⟩ := alternatives_of_isTerm h
      have hmembers := Predicate.forall_leaves_group.mp hleaves
      rw [Predicate.spell_or]
      apply isClosed_joinWith (by decide)
      rw [List.forall_mem_map]
      exact fun q hq => isClosed_alternative (halternatives q hq) (hmembers q hq)

/-- The spelling of a term stands for it. -/
theorem isTermFor_spell {p : Predicate} (h : p.isTerm = true) (hleaves : AllDelimited p) :
    IsTermFor p.spell p := by
  induction p using Predicate.inductionOn with
  | leaf condition => exact .alternative (isAlternativeFor_spell h hleaves)
  | not negated ih => exact .negation (ih h hleaves)
  | group connective members _ =>
    cases connective with
    | and => exact absurd h Bool.false_ne_true
    | or =>
      obtain ⟨hseveral, halternatives, condition, rest, rfl⟩ := alternatives_of_isTerm h
      have hmembers := Predicate.forall_leaves_group.mp hleaves
      rw [Predicate.spell_or]
      apply IsTermFor.alternation
      · apply isAlternation_spell (by simp)
        exact fun q hq => ⟨halternatives q hq, hmembers q hq⟩
      · simpa using hseveral
      · obtain ⟨more, hmore⟩ :=
          Text.exists_joinWith_cons '|' condition.spell (rest.map Predicate.spell)
        rw [List.map_cons, Predicate.spell, hmore]
        exact head?_spell condition more
      · rw [List.forall₂_map_left_iff, List.forall₂_same]
        exact fun q hq => isAlternativeFor_spell (halternatives q hq) (hmembers q hq)

/-- A predicate in normal form is a term or the conjunction of several. -/
theorem exists_terms {p : Predicate} (h : p.isNormal = true) :
    ∃ members, conjunction members = .ok (some p) ∧ (∀ q ∈ members, q.isTerm = true) ∧
      (AllDelimited p → ∀ q ∈ members, AllDelimited q) := by
  unfold Predicate.isNormal at h
  split at h
  · next first second more =>
    refine ⟨first :: second :: more, ?_, List.all_eq_true.mp h, Predicate.forall_leaves_group.mp⟩
    exact conjunction_eq_ok_some_iff.mpr (.inr ⟨by simp, rfl⟩)
  · exact ⟨[p], rfl, by simpa using h, by simp⟩

/-- A predicate in normal form is read back from its spelling when the ends of its conditions can be
told. -/
theorem parse_spell {p : Predicate} (hnormal : p.isNormal = true)
    (hleaves : ∀ condition ∈ p.leaves, condition.isDelimited = true) :
    parse (String.ofList p.spell) = .ok (some p) := by
  obtain ⟨members, hconjunction, hterms, hdelimited⟩ := exists_terms hnormal
  have hstands : ∀ q ∈ members, IsTermFor q.spell q :=
    fun q hq => isTermFor_spell (hterms q hq) (hdelimited hleaves q hq)
  have hlaid : IsLaidOut (members.map Predicate.spell)
      (joinWith ' ' (members.map Predicate.spell)) := by
    apply isLaidOut_joinWith
    rw [List.forall_mem_map]
    exact fun q hq =>
      ⟨(hstands q hq).ne_nil, isClosed_term (hterms q hq) (hdelimited hleaves q hq)⟩
  rw [parse_eq_ok_some_iff, String.toList_ofList, spell_conjunction hconjunction]
  refine ⟨members.map Predicate.spell, members, hlaid, ?_, hconjunction⟩
  rwa [List.forall₂_map_left_iff, List.forall₂_same]

/-- A filter with a bar in a value and a blank in a title. -/
def kernelFilter : Predicate :=
  .group .and
    [.group .or [.fact ⟨"kernel", "Linux|BSD", "~"⟩, .not (.factPresence "virtual")],
      .not (.resource ⟨"File", "/etc/my file", true, "="⟩)]

/-- Neither the bar nor the blank cuts the spelling of the filter. -/
theorem parse_spell_kernelFilter :
    kernelFilter.isNormal = true ∧
      (∀ condition ∈ kernelFilter.leaves, condition.isDelimited = true) ∧
      kernelFilter.spell =
        "fact:kernel~Linux|BSD|!has:virtual !@@resource:File[/etc/my file]".toList ∧
      parse (String.ofList kernelFilter.spell) = .ok (some kernelFilter) := by
  have hspell : kernelFilter.spell =
      "fact:kernel~Linux|BSD|!has:virtual !@@resource:File[/etc/my file]".toList := by rfl
  have hnormal : kernelFilter.isNormal = true := by decide
  have hleaves : ∀ condition ∈ kernelFilter.leaves, condition.isDelimited = true := by decide
  exact ⟨hnormal, hleaves, hspell, parse_spell hnormal hleaves⟩

end InventoryQuery.Filter
