import InventoryQuery.Proofs.Filter.Spelling

/-!
# Reading a filter loses nothing

What a filter stands for is spelled like the filter itself, up to the blanks around its terms and
the lead for names that a bare name lacks. Spelled so, it is read as the same predicate again: the
lead brings neither a blank nor a bracket nor a bar, and the alternatives still begin and end at
the same bars.
-/

namespace InventoryQuery.Filter

open Text (joinWith)

/-- An alternative with its condition spelled out: a bare name gets its lead, and any other
condition stays as it is. -/
def spellOutAlternative : List Char → List Char
  | '!' :: text => '!' :: spellOutAlternative text
  | text => if isBareName text then nodeLead ++ '=' :: text else text

/-- A term with each of its alternatives spelled out. -/
def spellOutTerm : List Char → List Char
  | '!' :: text => '!' :: spellOutTerm text
  | text => joinWith '|' ((alternatives text).map spellOutAlternative)

/-- A filter with each of its terms spelled out, and one space between each two of them. -/
def spellOut (filter : List Char) : List Char :=
  joinWith ' ' ((terms filter).map spellOutTerm)

/-- A condition without an exclamation mark in front gets the lead for names when it is bare. -/
theorem spellOutAlternative_condition {text : List Char} (hhead : text.head? ≠ some '!') :
    spellOutAlternative text = if isBareName text then nodeLead ++ '=' :: text else text := by
  rw [spellOutAlternative]
  exact head?_ne_negation_iff.mp hhead

/-- A term without an exclamation mark in front is spelled out alternative by alternative. -/
theorem spellOutTerm_alternation {text : List Char} (hhead : text.head? ≠ some '!') :
    spellOutTerm text = joinWith '|' ((alternatives text).map spellOutAlternative) := by
  rw [spellOutTerm]
  exact head?_ne_negation_iff.mp hhead

/-- The spelling of a condition is no bare name. -/
theorem isBareName_spell {condition : Leaf} (hwritable : condition.isWritable = true) :
    isBareName condition.spell = false := by
  have hreserved : condition.spell.any isReserved = true := by
    have hleads : ∀ lead ∈ [exportedLead, resourceLead, presenceLead, factLead],
        lead.any isReserved = true := by decide
    match condition with
    | .node m =>
      obtain ⟨c, hoperator, hc⟩ :=
        mem_nameOperators_iff.mp (Leaf.isWritable_node_iff.mp hwritable).1
      rcases hc with rfl | rfl <;> simp [spell_node, hoperator, isReserved, isOperatorStart]
    | .record (.fact m) => rw [spell_fact, List.any_append, hleads factLead (by simp), Bool.true_or]
    | .record (.factPresence name) =>
      rw [spell_factPresence, List.any_append, hleads presenceLead (by simp), Bool.true_or]
    | .record (.resource m) =>
      rw [spell_resource, List.any_append]
      split
      · rw [hleads exportedLead (by simp), Bool.true_or]
      · rw [hleads resourceLead (by simp), Bool.true_or]
  rw [Bool.eq_false_iff]
  intro hname
  rw [(isBareName_iff.mp hname).2.2] at hreserved
  exact absurd hreserved Bool.false_ne_true

/-- The node of a bare name is spelled with the lead for names. -/
theorem spell_bareName (name : List Char) :
    (Leaf.node ⟨String.ofList name, equals⟩).spell = nodeLead ++ '=' :: name := by
  have hequals : equals.toList = ['='] := rfl
  rw [spell_node, String.toList_ofList, hequals, List.singleton_append]

/-- What is read is a condition that can be written. -/
theorem IsReadAs.isWritable {text : List Char} {condition : Leaf} (h : IsReadAs text condition) :
    condition.isWritable = true := by
  cases h with
  | spelled hwritable => exact hwritable
  | bare hname =>
    rw [Leaf.isWritable_node_iff, String.toList_ofList]
    exact ⟨.head _, (isBareName_iff.mp hname).1⟩

/-- What an alternative stands for is one in normal form. -/
theorem IsAlternativeFor.isAlternative {text : List Char} {p : Predicate}
    (h : IsAlternativeFor text p) : p.isAlternative = true := by
  induction h with
  | condition hread _ _ => exact hread.isWritable
  | negation _ ih => exact ih

/-- An alternative spelled out is the spelling of what it stands for. -/
theorem IsAlternativeFor.spellOut_eq {text : List Char} {p : Predicate}
    (h : IsAlternativeFor text p) : spellOutAlternative text = p.spell := by
  induction h with
  | condition hread hhead _ =>
    rw [spellOutAlternative_condition hhead]
    cases hread with
    | spelled hwritable =>
      rw [isBareName_spell hwritable]
      rfl
    | bare hname =>
      rw [hname, Predicate.spell, spell_bareName]
      rfl
  | negation _ ih => rw [spellOutAlternative, ih, Predicate.spell]

/-- A single alternative is spelled out alike as a term. -/
theorem IsAlternativeFor.spellOutTerm_eq {text : List Char} {p : Predicate}
    (h : IsAlternativeFor text p) : spellOutTerm text = p.spell := by
  induction h with
  | @condition text condition hread hhead huncut =>
    have hone : alternatives text = [text] := cutAtBars_of_keepsBars huncut
    rw [spellOutTerm_alternation hhead, hone]
    exact (IsAlternativeFor.condition hread hhead huncut).spellOut_eq
  | negation _ ih => rw [spellOutTerm, ih, Predicate.spell]

section Forall₂

variable {α β γ : Type} {R : α → β → Prop} {as : List α} {bs : List β}

/-- Two lists are mapped to the same one when their members are, pair by pair. -/
theorem map_eq_map_of_forall₂ {f : α → γ} {g : β → γ} (h : List.Forall₂ R as bs)
    (hfg : ∀ a b, R a b → f a = g b) : as.map f = bs.map g := by
  induction h with
  | nil => rfl
  | cons hab _ ih => rw [List.map_cons, List.map_cons, hfg _ _ hab, ih]

/-- What a relation says of the right member of a pair holds of every member of the right list. -/
theorem forall_mem_of_forall₂ {P : β → Prop} (h : List.Forall₂ R as bs)
    (hright : ∀ a b, R a b → P b) : ∀ b ∈ bs, P b := by
  induction h with
  | nil => simp
  | cons hab _ ih => exact List.forall_mem_cons.mpr ⟨hright _ _ hab, ih⟩

end Forall₂

/-- A term spelled out is the spelling of what it stands for. -/
theorem IsTermFor.spellOut_eq {text : List Char} {p : Predicate} (h : IsTermFor text p) :
    spellOutTerm text = p.spell := by
  induction h with
  | alternative h => exact h.spellOutTerm_eq
  | alternation hparts _ hhead hmembers =>
    have hspelled := map_eq_map_of_forall₂ hmembers fun _ _ h => h.spellOut_eq
    rw [spellOutTerm_alternation hhead, hparts.alternatives_eq, Predicate.spell_or, hspelled]
  | negation _ ih => rw [spellOutTerm, ih, Predicate.spell]

/-- A text without reserved characters has not reached the value of a comparison. -/
theorem isComparison_of_not_isReserved {text : List Char} (htext : text.any isReserved = false) :
    isComparison text = false := by
  have hbody : (dropNegations text).any isReserved = false := by
    rw [List.any_eq_false] at htext ⊢
    exact fun c hc => htext c ((List.dropWhile_sublist _).mem hc)
  have hfact : afterLead? factLead (dropNegations text) = none :=
    afterLead?_of_not_isReserved (by decide) hbody
  simp only [isComparison, hfact]
  split
  · next c _ hlead =>
    rw [afterLead?_eq_some_iff.mp hlead, List.any_append, Bool.or_eq_false_iff, List.any_cons,
      Bool.or_eq_false_iff] at hbody
    obtain ⟨_, hc, _⟩ := hbody
    simp only [isReserved, isOperatorStart, Bool.or_eq_false_iff] at hc
    rw [hc.2.1.1.1, hc.2.1.1.2]
    rfl
  · rfl

/-- A bare name that no bar cuts has none. -/
theorem bar_notMem_of_not_isReserved {current text : List Char}
    (hreserved : (current ++ text).any isReserved = false)
    (hkeeps : keepsBars 0 current text = true) : '|' ∉ text := by
  induction text generalizing current with
  | nil => exact List.not_mem_nil
  | cons c rest ih =>
    simp only [keepsBars, Bool.and_eq_true, Bool.not_eq_true'] at hkeeps
    obtain ⟨hbar, hkeeps⟩ := hkeeps
    rw [List.any_append, Bool.or_eq_false_iff, List.any_cons, Bool.or_eq_false_iff] at hreserved
    obtain ⟨hcurrent, hc, hrest⟩ := hreserved
    have hdepth : nest 0 c = 0 := by
      simp only [isReserved, Bool.or_eq_false_iff] at hc
      exact nest_of_not_isBracket (by simp [isBracket, hc]) 0
    rw [barSeparates, isComparison_of_not_isReserved hcurrent] at hbar
    rw [hdepth] at hkeeps
    rw [List.mem_cons, not_or]
    refine ⟨?_, ih ?_ hkeeps⟩
    · rintro rfl
      exact absurd hbar (by simp)
    · simp [hcurrent, hc, hrest]

/-- The lead for names in front of a bare name does not matter for the blanks and brackets. -/
theorem standsFor_bareName {name : List Char} (hne : name ≠ []) :
    StandsFor (nodeLead ++ '=' :: name) name where
  getLast?_eq := by
    cases name with
    | nil => exact absurd rfl hne
    | cons c rest => rw [List.getLast?_append_cons, List.getLast?_cons_cons]
  depthAfter_eq _ := rfl
  holdsTogether_eq _ := rfl

/-- The spelling of an alternative stands for it too, and may stand in the place of the
alternative. -/
theorem IsAlternativeFor.spell {text : List Char} {p : Predicate} (h : IsAlternativeFor text p) :
    IsAlternativeFor p.spell p ∧ StandsFor p.spell text := by
  induction h with
  | @condition text condition hread hhead huncut =>
    cases hread with
    | spelled hwritable => exact ⟨.condition (.spelled hwritable) hhead huncut, .refl _⟩
    | bare hname =>
      have hwritable := (IsReadAs.bare hname).isWritable
      obtain ⟨hne, _, hreserved⟩ := isBareName_iff.mp hname
      have hbar : '|' ∉ text := bar_notMem_of_not_isReserved (by simpa using hreserved) huncut
      rw [Predicate.spell]
      refine ⟨.condition (.spelled hwritable) ?_ ?_, ?_⟩
      · simpa using head?_spell (.node ⟨String.ofList text, equals⟩) []
      · rw [spell_bareName, Filter.isUncut]
        apply keepsBars_of_notMem
        simpa [nodeLead_eq] using hbar
      · rw [spell_bareName]
        exact standsFor_bareName hne
  | negation _ ih => exact ⟨.negation ih.1, .append (.refl ['!']) ih.2⟩

/-- The spellings of alternatives are cut like the alternatives, and joined by bars they may stand
in the place of the term. -/
theorem IsAlternation.spell {parts : List (List Char)} {text : List Char}
    (h : IsAlternation parts text) {members : List Predicate}
    (hmembers : List.Forall₂ IsAlternativeFor parts members) :
    IsAlternation (members.map Predicate.spell) (joinWith '|' (members.map Predicate.spell)) ∧
      StandsFor (joinWith '|' (members.map Predicate.spell)) text := by
  induction h generalizing members with
  | last _ =>
    obtain ⟨p, _, hp, hnil, rfl⟩ := List.forall₂_cons_left_iff.mp hmembers
    obtain rfl := List.forall₂_nil_left_iff.mp hnil
    exact ⟨.last hp.spell.1.isUncut, hp.spell.2⟩
  | @cons part parts term _ hclosed _ hterm ih =>
    obtain ⟨p, more, hp, hmore, rfl⟩ := List.forall₂_cons_left_iff.mp hmembers
    obtain ⟨hcut, hstands⟩ := ih hmore
    obtain ⟨hspell, hpart⟩ := hp.spell
    cases more with
    | nil => exact absurd (List.forall₂_nil_right_iff.mp hmore) hterm.ne_nil
    | cons q more =>
      obtain ⟨_, _, hq, _, rfl⟩ := List.forall₂_cons_right_iff.mp hmore
      have hbar := barSeparates_alternatives p.spell hq.isAlternative more
      constructor
      · refine .cons hspell.isUncut ?_ hbar hcut
        rw [hpart.depthAfter_eq, hclosed]
      · exact hpart.append (.append (.refl ['|']) hstands)

/-- When a term does not start with an exclamation mark, the spellings of its alternatives joined by
bars do not either. -/
theorem IsAlternation.head?_spell {parts : List (List Char)} {text : List Char}
    (h : IsAlternation parts text) {members : List Predicate}
    (hmembers : List.Forall₂ IsAlternativeFor parts members) (hhead : text.head? ≠ some '!') :
    (joinWith '|' (members.map Predicate.spell)).head? ≠ some '!' := by
  have htext : joinWith '|' parts = text := by rw [← h.alternatives_eq, joinWith_alternatives]
  cases hmembers with
  | nil => exact absurd rfl h.ne_nil
  | @cons part p parts members hpart _ =>
    obtain ⟨rest, hrest⟩ := Text.exists_joinWith_cons '|' part parts
    obtain ⟨more, hmore⟩ := Text.exists_joinWith_cons '|' p.spell (members.map Predicate.spell)
    rw [List.map_cons, hmore]
    cases hpart with
    | condition _ _ _ => exact Filter.head?_spell _ more
    | negation _ =>
      rw [hrest] at htext
      exact absurd (by rw [← htext]; rfl) hhead

/-- The spelling of a term stands for it too, and may stand in the place of the term. -/
theorem IsTermFor.spell {text : List Char} {p : Predicate} (h : IsTermFor text p) :
    IsTermFor p.spell p ∧ StandsFor p.spell text := by
  induction h with
  | alternative h => exact ⟨.alternative h.spell.1, h.spell.2⟩
  | @alternation text parts members hparts hseveral hhead hmembers =>
    obtain ⟨hcut, hstands⟩ := hparts.spell hmembers
    rw [Predicate.spell_or]
    refine ⟨.alternation hcut ?_ (hparts.head?_spell hmembers hhead) ?_, hstands⟩
    · rwa [List.length_map, ← hmembers.length_eq]
    · rw [List.forall₂_map_left_iff, List.forall₂_same]
      exact forall_mem_of_forall₂ hmembers fun _ _ h => h.spell.1
  | negation _ ih => exact ⟨.negation ih.1, .append (.refl ['!']) ih.2⟩

/-- What an alternative stands for can be a term. -/
theorem isTerm_of_isAlternative {p : Predicate} (h : p.isAlternative = true) : p.isTerm = true := by
  induction p using Predicate.isAlternative.induct with
  | case1 condition => exact h
  | case2 negated ih => exact ih h
  | case3 connective members => exact absurd h Bool.false_ne_true

/-- What a term stands for is one in normal form. -/
theorem IsTermFor.isTerm {text : List Char} {p : Predicate} (h : IsTermFor text p) :
    p.isTerm = true := by
  induction h with
  | alternative h => exact isTerm_of_isAlternative h.isAlternative
  | @alternation text parts members hparts hseveral hhead hmembers =>
    have hcut := hparts.head?_spell hmembers hhead
    have hall := forall_mem_of_forall₂ hmembers fun _ _ h => h.isAlternative
    rw [hmembers.length_eq] at hseveral
    match members with
    | first :: second :: more =>
      obtain ⟨hfirst, hrest⟩ := List.forall_mem_cons.mp hall
      rw [Predicate.isTerm, List.all_eq_true.mpr hrest, Bool.and_true]
      cases first with
      | leaf condition => exact hfirst
      | not negated => exact absurd rfl hcut
      | group connective members => exact absurd hfirst Bool.false_ne_true
  | negation _ ih => exact ih

/-- What is read is in normal form. -/
theorem isNormal_of_parse {filter : String} {p : Predicate} (h : parse filter = .ok (some p)) :
    p.isNormal = true := by
  obtain ⟨texts, members, _, hterms, hconjunction⟩ := parse_eq_ok_some_iff.mp h
  have hall := forall_mem_of_forall₂ hterms fun _ _ h => h.isTerm
  rcases conjunction_eq_ok_some_iff.mp hconjunction with rfl | ⟨hseveral, rfl⟩
  · have hterm : p.isTerm = true := hall p (.head _)
    unfold Predicate.isNormal
    split
    · exact absurd hterm Bool.false_ne_true
    · exact hterm
  · match members with
    | first :: second :: more => exact List.all_eq_true.mpr hall

/-- A filter that is read as a predicate is made of texts that stand for its parts. Spelled out it
is the spelling of the predicate, and the spelling is read as the predicate again. -/
theorem parse_faithful {filter : String} {p : Predicate} (h : parse filter = .ok (some p)) :
    IsFilterFor filter.toList p ∧ spellOut filter.toList = p.spell ∧
      parse (String.ofList p.spell) = .ok (some p) := by
  have hfilter := parse_eq_ok_some_iff.mp h
  refine ⟨hfilter, ?_⟩
  obtain ⟨texts, members, hlaid, hterms, hconjunction⟩ := hfilter
  have hspell := spell_conjunction hconjunction
  constructor
  · rw [spellOut, hlaid.terms_eq, hspell]
    exact congrArg _ (map_eq_map_of_forall₂ hterms fun _ _ h => h.spellOut_eq)
  · rw [parse_eq_ok_some_iff, String.toList_ofList, hspell]
    refine ⟨members.map Predicate.spell, members, hlaid.joinWith ?_, ?_, hconjunction⟩
    · rw [List.forall₂_map_left_iff]
      exact hterms.flip.imp fun _ _ h => h.spell.2
    · rw [List.forall₂_map_left_iff, List.forall₂_same]
      exact forall_mem_of_forall₂ hterms fun _ _ h => h.spell.1

/-- A filter with a bare name and a bracket that stays open. -/
def openFilter : Predicate :=
  .group .and
    [.group .or [.node ⟨"web", "="⟩, .not (.node ⟨"db", "="⟩)], .fact ⟨"os", "[a b", "~"⟩]

/-- The names get their lead, and the blanks around the terms are put right. -/
theorem parse_faithful_openFilter :
    parse " web|!db\t fact:os~[a b " = .ok (some openFilter) ∧
      spellOut " web|!db\t fact:os~[a b ".toList = "name=web|!name=db fact:os~[a b".toList := by
  have hread : parse " web|!db\t fact:os~[a b " = .ok (some openFilter) := by cbv
  have hspell : openFilter.spell = "name=web|!name=db fact:os~[a b".toList := by rfl
  rw [(parse_faithful hread).2.1, hspell]
  exact ⟨hread, rfl⟩

end InventoryQuery.Filter
