import InventoryQuery.Proofs.Filter.Faithful

/-!
# Filters joined by bars

Texts that are read as negated conditions are read as their disjunction when they are joined by
bars, provided that the bars separate: a text in front of a bar closes its brackets, and if it has
reached the value of a comparison, what follows the bar opens a condition. A bar that does not
separate continues the value.
-/

namespace InventoryQuery

/-- Whether a predicate is a condition, negated any number of times. -/
def Predicate.isLiteral : Predicate → Bool
  | leaf _ => true
  | not negated => isLiteral negated
  | group _ _ => false

/-- The value of a comparison. -/
def Leaf.value? : Leaf → Option String
  | .node m => some m.identifier
  | .record (.fact m) => some m.value
  | _ => none

/-- The comparison with another value. -/
def Leaf.withValue (value : String) : Leaf → Leaf
  | .node m => .node { m with identifier := value }
  | .record (.fact m) => .record (.fact { m with value })
  | other => other

namespace Text

/-- A text in front of a character that is no blank keeps it when it is trimmed. -/
theorem trimEnd_cons_of_not_isBlank {c : Char} (hc : isBlank c = false) (text : List Char) :
    trimEnd (c :: text) = c :: trimEnd text := by
  rw [trimEnd]
  split
  · next h => rw [hc, h]; rfl
  · rfl

/-- Texts with a separator of one character between each two are the joined ones. -/
theorem intercalate_eq_joinWith (separator : Char) (texts : List (List Char)) :
    [separator].intercalate texts = joinWith separator texts := by
  induction texts with
  | nil => rfl
  | cons text texts ih =>
    cases texts with
    | nil => rw [List.intercalate_singleton, joinWith]
    | cons other texts =>
      rw [List.intercalate_cons_cons, ih, joinWith_cons separator text (by simp),
        List.append_assoc, List.singleton_append]

end Text

namespace Filter

open Text (isBlank trimEnd joinWith)

/-- A text that holds together is read as one term, less the blanks behind it. -/
theorem parse_eq_readTerm {text : String} (hne : text ≠ "")
    (hholds : holdsTogether 0 text.toList = true) :
    parse text = (readTerm (trimEnd text.toList)).map some := by
  obtain ⟨blanks, hsplit, hblanks⟩ := Text.exists_trimEnd text.toList
  have hkept : trimEnd text.toList ≠ [] := by
    intro hnil
    obtain ⟨c, rest, hcons⟩ := List.exists_cons_of_ne_nil (mt String.toList_eq_nil_iff.mp hne)
    have hc := Text.trimEnd_eq_nil_iff.mp hnil c (by simp [hcons])
    simp [hcons, holdsTogether, hc] at hholds
  have hterms : terms text.toList = [trimEnd text.toList] := by
    rw [hsplit, holdsTogether_append, Bool.and_eq_true] at hholds
    conv_lhs => rw [hsplit]
    exact terms_last hkept hholds.1 (Text.trimEnd_trimEnd _) hblanks
  rw [parse, hterms, mapM_singleton]
  cases readTerm (trimEnd text.toList) <;> rfl

/-- A term that stands for a negated condition is a single alternative. -/
theorem IsTermFor.isAlternativeFor_of_isLiteral {text : List Char} {p : Predicate}
    (h : IsTermFor text p) (hliteral : p.isLiteral = true) : IsAlternativeFor text p := by
  induction h with
  | alternative h => exact h
  | alternation _ _ _ _ => exact absurd hliteral Bool.false_ne_true
  | negation _ ih => exact .negation (ih hliteral)

/-- A text of one term that is read by itself as a condition, negated some number of times. -/
structure IsLiteralFor (text : String) (p : Predicate) : Prop where
  holdsTogether_eq : holdsTogether 0 text.toList = true
  parse_eq : parse text = .ok (some p)
  isLiteral : p.isLiteral = true

/-- A text that is read as a negated condition is an alternative, less the blanks behind it. -/
theorem IsLiteralFor.isAlternativeFor {text : String} {p : Predicate} (h : IsLiteralFor text p) :
    IsAlternativeFor (trimEnd text.toList) p := by
  have hne : text ≠ "" := by
    rintro rfl
    exact absurd h.parse_eq nofun
  have hread := h.parse_eq
  rw [parse_eq_readTerm hne h.holdsTogether_eq, map_eq_ok_iff] at hread
  obtain ⟨q, hread, hq⟩ := hread
  rw [Option.some.injEq] at hq
  subst hq
  exact (isTermFor_of_readTerm hread).isAlternativeFor_of_isLiteral h.isLiteral

/-- The blanks behind a text do not matter for what it opens. -/
theorem opensCondition_trimEnd (text : List Char) :
    opensCondition (trimEnd text) = opensCondition text := by
  have hletters : ∀ lead ∈ openingLeads, lead.any isBlank = false := by decide
  obtain ⟨blanks, hsplit, hblanks⟩ := Text.exists_trimEnd text
  conv_rhs => rw [hsplit]
  cases blanks with
  | nil => rw [List.append_nil]
  | cons b blanks =>
    have hb : isBlank b = true := hblanks b (.head _)
    refine (opensCondition_append_mark ?_ ?_ _ blanks).symm
    · rintro rfl
      exact absurd hb (by decide)
    · intro lead hlead hmem
      exact List.any_eq_false.mp (hletters lead hlead) b hmem hb

/-- When a text has reached the value of a comparison. -/
theorem isComparison_iff {text : List Char} :
    isComparison text = true ↔
      (∃ rest, dropNegations text = factLead ++ rest ∧ rest.any isOperatorStart = true) ∨
        ∃ c value, dropNegations text = nodeLead ++ c :: value ∧ (c = '=' ∨ c = '~') := by
  have hapart (rest value : List Char) : factLead ++ rest ≠ nodeLead ++ value := by
    simp [factLead_eq, nodeLead_eq]
  simp only [isComparison]
  split
  · next rest hfact =>
    rw [afterLead?_eq_some_iff] at hfact
    rw [hfact]
    simp [hapart]
  · next hfact =>
    have hnone : ¬∃ rest, dropNegations text = factLead ++ rest ∧ rest.any isOperatorStart = true := by
      rintro ⟨rest, hrest, _⟩
      rw [hrest, afterLead?_append] at hfact
      exact Option.some_ne_none rest hfact
    rw [or_iff_right hnone]
    split
    · next c value hnode =>
      rw [afterLead?_eq_some_iff] at hnode
      rw [hnode]
      simp [and_assoc]
    · next hnode =>
      refine iff_of_false Bool.false_ne_true ?_
      rintro ⟨c, value, hvalue, _⟩
      exact hnode c value (afterLead?_eq_some_iff.mpr hvalue)

/-- A text that has reached the value of a comparison stays in it. -/
theorem isComparison_append {text : List Char} (h : isComparison text = true) (more : List Char) :
    isComparison (text ++ more) = true := by
  have hkept (hne : dropNegations text ≠ []) :
      dropNegations (text ++ more) = dropNegations text ++ more := by
    rw [dropNegations, List.dropWhile_append, if_neg (by simpa [dropNegations] using hne)]
    rfl
  rw [isComparison_iff] at h ⊢
  rcases h with ⟨rest, hrest, hoperator⟩ | ⟨c, value, hvalue, hc⟩
  · left
    exact ⟨rest ++ more, by simp [hkept, hrest, factLead_eq], by simp [hoperator]⟩
  · right
    exact ⟨c, value ++ more, by simp [hkept, hvalue, nodeLead_eq], hc⟩

/-- Texts that hold together do so when they are joined by bars, if each of them closes its brackets
in front of the next one. -/
theorem holdsTogether_joinWith {texts : List (List Char)}
    (hholds : ∀ text ∈ texts, holdsTogether 0 text = true)
    (hclosed : ∀ text ∈ texts.dropLast, depthAfter 0 text = 0) :
    holdsTogether 0 (joinWith '|' texts) = true := by
  induction texts with
  | nil => rfl
  | cons text texts ih =>
    rw [List.forall_mem_cons] at hholds
    cases texts with
    | nil => exact hholds.1
    | cons next more =>
      rw [List.dropLast_cons_cons, List.forall_mem_cons] at hclosed
      have hrest : holdsTogether 0 ('|' :: joinWith '|' (next :: more)) = true :=
        ih hholds.2 hclosed.2
      rw [Text.joinWith_cons '|' text (by simp), holdsTogether_append, hholds.1, hclosed.1, hrest]
      rfl

/-- Joined texts are trimmed by trimming each of them, if none in front of another ends in a
blank. -/
theorem trimEnd_joinWith {texts : List (List Char)}
    (hends : ∀ text ∈ texts.dropLast, trimEnd text = text) :
    trimEnd (joinWith '|' texts) = joinWith '|' (texts.map trimEnd) := by
  induction texts with
  | nil => rfl
  | cons text texts ih =>
    cases texts with
    | nil => rfl
    | cons next more =>
      rw [List.dropLast_cons_cons, List.forall_mem_cons] at hends
      have hrest : trimEnd ('|' :: joinWith '|' (next :: more)) =
          '|' :: joinWith '|' ((next :: more).map trimEnd) := by
        rw [Text.trimEnd_cons_of_not_isBlank (by decide), ih hends.2]
      have hmap : (text :: next :: more).map trimEnd =
          trimEnd text :: (next :: more).map trimEnd := rfl
      rw [Text.joinWith_cons '|' text (by simp),
        Text.trimEnd_append_of_ne_nil text (by simp [hrest]), hrest, hmap,
        Text.joinWith_cons '|' _ (by simp), hends.1]

/-- Two texts behind each other keep their bars when each of them does and the bar between them does
not separate. -/
theorem keepsBars_append_bar {depth : Nat} {current text more : List Char}
    (htext : keepsBars depth current text = true) (hclosed : depthAfter depth text = 0)
    (hbar : barSeparates (current ++ text) more = false) (hmore : '|' ∉ more) :
    keepsBars depth current (text ++ '|' :: more) = true := by
  induction text generalizing depth current with
  | nil =>
    rw [List.append_nil] at hbar
    rw [List.nil_append, keepsBars, hbar, keepsBars_of_notMem hmore]
    simp
  | cons c text ih =>
    simp only [keepsBars, Bool.and_eq_true, Bool.not_eq_true'] at htext
    have hrest := ih htext.2 hclosed (by simpa using hbar)
    rw [List.cons_append, keepsBars, barSeparates_append_bar, htext.1, hrest]
    rfl

/-- A comparison is read with a longer value from the text with more behind it. -/
theorem IsReadAs.exists_value {text : List Char} {condition : Leaf} (h : IsReadAs text condition)
    (hcomparison : isComparison text = true) :
    ∃ value, condition.value? = some value ∧ ∀ more : String,
      IsReadAs (text ++ more.toList) (condition.withValue (value ++ more)) := by
  cases h with
  | spelled hwritable =>
    match condition with
    | .node m =>
      refine ⟨m.identifier, rfl, fun more => ?_⟩
      have hspell : (Leaf.node m).spell ++ more.toList =
          (Leaf.node { m with identifier := m.identifier ++ more }).spell := by
        simp [spell_node]
      obtain ⟨hoperator, hne⟩ := Leaf.isWritable_node_iff.mp hwritable
      rw [hspell]
      exact .spelled (Leaf.isWritable_node_iff.mpr ⟨hoperator, by simp [hne]⟩)
    | .record (.fact m) =>
      refine ⟨m.value, rfl, fun more => ?_⟩
      have hspell : (Leaf.record (.fact m)).spell ++ more.toList =
          (Leaf.record (.fact { m with value := m.value ++ more })).spell := by
        simp [spell_fact]
      obtain ⟨hoperator, hname, hne, hstart, hlonger⟩ := Leaf.isWritable_fact_iff.mp hwritable
      have hfirst : (m.value ++ more).toList.head? = m.value.toList.head? := by
        rw [String.toList_append, List.head?_append_of_ne_nil _ hne]
      rw [hspell]
      refine .spelled (Leaf.isWritable_fact_iff.mpr ⟨hoperator, hname, by simp [hne], hstart, ?_⟩)
      rwa [hfirst]
    | .record (.factPresence name) =>
      simp [spell_factPresence, presenceLead_eq, isComparison, dropNegations, factLead_eq,
        nodeLead_eq, afterLead?] at hcomparison
    | .record (.resource m) =>
      rw [spell_resource] at hcomparison
      split at hcomparison <;>
        simp [exportedLead_eq, resourceLead_eq, isComparison, dropNegations, factLead_eq,
          nodeLead_eq, afterLead?] at hcomparison
  | bare hname =>
    rw [isComparison_of_not_isReserved (isBareName_iff.mp hname).2.2] at hcomparison
    exact absurd hcomparison Bool.false_ne_true

/-- A text that has reached the value of a comparison has reached it in front of the blanks at its
end. -/
theorem isComparison_trimEnd {text : List Char} (h : isComparison text = false) :
    isComparison (trimEnd text) = false := by
  obtain ⟨blanks, hsplit, _⟩ := Text.exists_trimEnd text
  rw [Bool.eq_false_iff]
  intro hcomparison
  have hlonger := isComparison_append hcomparison blanks
  rw [← hsplit, h] at hlonger
  exact absurd hlonger Bool.false_ne_true

/-- Texts of alternatives that are joined by bars that separate are a term that stands for their
disjunction, less the blanks behind the last one. -/
theorem isTermFor_joinWith {texts : List (List Char)} {members : List Predicate}
    (hseveral : 1 < texts.length)
    (hmembers : List.Forall₂ (fun text p => IsAlternativeFor (trimEnd text) p) texts members)
    (hhead : (joinWith '|' texts).head? ≠ some '!')
    (hholds : ∀ text ∈ texts, holdsTogether 0 text = true)
    (hclosed : ∀ text ∈ texts.dropLast, depthAfter 0 text = 0)
    (hbars : texts.IsChain fun text next =>
      isComparison text = false ∨ opensCondition next = true) :
    IsTermFor (trimEnd (joinWith '|' texts)) (.group .or members) := by
  have hends : ∀ text ∈ texts.dropLast, trimEnd text = text := fun text htext =>
    trimEnd_of_closed (hholds text (List.dropLast_subset _ htext)) (hclosed text htext)
  have hparts : List.Forall₂ IsAlternativeFor (texts.map trimEnd) members :=
    List.forall₂_map_left_iff.mpr hmembers
  have hstart : (trimEnd (joinWith '|' texts)).head? ≠ some '!' := by
    obtain ⟨blanks, hsplit, _⟩ := Text.exists_trimEnd (joinWith '|' texts)
    intro hnegation
    rw [hsplit, List.head?_append, hnegation] at hhead
    exact hhead rfl
  rw [trimEnd_joinWith hends] at hstart ⊢
  refine .alternation (isAlternation_joinWith ?_ ?_ ?_ ?_) (by simpa using hseveral) hstart hparts
  · intro hnil
    rw [List.map_eq_nil_iff.mp hnil] at hseveral
    exact absurd hseveral (by simp)
  · exact forall_mem_of_forall₂ hparts.flip fun _ _ h => h.isUncut
  · rw [← List.map_dropLast, List.forall_mem_map]
    intro text htext
    rw [hends text htext]
    exact hclosed text htext
  · rw [List.isChain_map]
    refine hbars.imp fun text next h => ?_
    rw [opensCondition_trimEnd]
    exact h.imp_left isComparison_trimEnd

/-- Texts of literals are read as their disjunction when they are joined by bars that separate. -/
theorem parse_joinWith {texts : List String} {members : List Predicate}
    (hseveral : 2 ≤ texts.length) (hmembers : List.Forall₂ IsLiteralFor texts members)
    (hhead : ∀ first ∈ texts.head?, first.toList.head? ≠ some '!')
    (hclosed : ∀ text ∈ texts.dropLast, depthAfter 0 text.toList = 0)
    (hbars : texts.IsChain fun text next =>
      isComparison text.toList = false ∨ opensCondition next.toList = true) :
    parse ("|".intercalate texts) = .ok (some (.group .or members)) := by
  have hjoined : ("|".intercalate texts).toList = joinWith '|' (texts.map String.toList) := by
    rw [String.toList_intercalate, ← Text.intercalate_eq_joinWith]
    rfl
  have hholds : ∀ text ∈ texts.map String.toList, holdsTogether 0 text = true :=
    List.forall_mem_map.mpr
      (forall_mem_of_forall₂ hmembers.flip fun _ _ h => h.holdsTogether_eq)
  have hclosed : ∀ text ∈ (texts.map String.toList).dropLast, depthAfter 0 text = 0 := by
    rwa [← List.map_dropLast, List.forall_mem_map]
  have hhead : (joinWith '|' (texts.map String.toList)).head? ≠ some '!' := by
    match texts, hmembers with
    | first :: more, .cons hfirst _ =>
      have hne : first.toList ≠ [] := by
        rintro hnil
        exact hfirst.isAlternativeFor.ne_nil (by rw [hnil]; rfl)
      obtain ⟨rest, hrest⟩ :=
        Text.exists_joinWith_cons '|' first.toList (more.map String.toList)
      rw [List.map_cons, hrest, List.head?_append_of_ne_nil _ hne]
      exact hhead first rfl
  have hterm := isTermFor_joinWith (by rwa [List.length_map])
    (List.forall₂_map_left_iff.mpr (hmembers.imp fun _ _ h => h.isAlternativeFor)) hhead hholds
    hclosed ((List.isChain_map _).mpr hbars)
  rw [← hjoined] at hterm
  have hne : "|".intercalate texts ≠ "" := by
    intro hnil
    exact hterm.ne_nil (by rw [hnil]; rfl)
  rw [parse_eq_readTerm hne (by rw [hjoined]; exact holdsTogether_joinWith hholds hclosed),
    hterm.readTerm_eq]
  rfl

/-- An alternative that stands for a condition is read as the condition. -/
theorem IsAlternativeFor.isReadAs {text : List Char} {condition : Leaf}
    (h : IsAlternativeFor text (.leaf condition)) :
    IsReadAs text condition ∧ text.head? ≠ some '!' := by
  cases h with
  | condition hread hhead _ => exact ⟨hread, hhead⟩

/-- A comparison that closes its brackets continues behind a bar that does not separate. -/
theorem IsAlternativeFor.append_bar {text : List Char} {condition : Leaf}
    (h : IsAlternativeFor text (.leaf condition)) (hcomparison : isComparison text = true)
    (hclosed : depthAfter 0 text = 0) :
    ∃ value, condition.value? = some value ∧ ∀ more : String, '|' ∉ more.toList →
      opensCondition more.toList = false →
        IsAlternativeFor (text ++ '|' :: more.toList)
          (.leaf (condition.withValue (value ++ "|" ++ more))) := by
  obtain ⟨hread, hhead⟩ := h.isReadAs
  obtain ⟨value, hvalue, hlonger⟩ := hread.exists_value hcomparison
  refine ⟨value, hvalue, fun more hmore hopens => ?_⟩
  have hbar : barSeparates text more.toList = false := by
    rw [barSeparates, hcomparison, hopens]
    rfl
  refine .condition ?_ ?_ (keepsBars_append_bar h.isUncut hclosed hbar hmore)
  · simpa [String.append_assoc] using hlonger ("|" ++ more)
  · rwa [List.head?_append_of_ne_nil _ hread.ne_nil]

/-- A comparison that closes its brackets is read with a bar and a word behind it as the comparison
with the longer value, if the word opens no condition. -/
theorem parse_append_bar {text : String} {condition : Leaf}
    (hread : parse text = .ok (some (.leaf condition)))
    (hholds : holdsTogether 0 text.toList = true) (hcomparison : isComparison text.toList = true)
    (hclosed : depthAfter 0 text.toList = 0) :
    ∃ value, condition.value? = some value ∧ ∀ more : String, isWord more.toList = true →
      opensCondition more.toList = false →
        parse (text ++ "|" ++ more) =
          .ok (some (.leaf (condition.withValue (value ++ "|" ++ more)))) := by
  have halternative : IsAlternativeFor text.toList (.leaf condition) := by
    rw [← trimEnd_of_closed hholds hclosed]
    exact IsLiteralFor.isAlternativeFor ⟨hholds, hread, rfl⟩
  obtain ⟨value, hvalue, hlonger⟩ := halternative.append_bar hcomparison hclosed
  refine ⟨value, hvalue, fun more hword hopens => ?_⟩
  rw [isWord, Bool.and_eq_true, Bool.not_eq_true', List.contains_eq_mem,
    decide_eq_false_iff_not] at hword
  have hjoined : (text ++ "|" ++ more).toList = text.toList ++ '|' :: more.toList := by simp
  have hbar : IsClosed ['|'] := ⟨rfl, rfl⟩
  have hwhole : IsClosed (text.toList ++ '|' :: more.toList) :=
    .append ⟨hholds, hclosed⟩ (hbar.append (isClosed_of_isUnbroken hword.1))
  have hne : text ++ "|" ++ more ≠ "" := by
    intro hnil
    simp [hnil] at hjoined
  rw [parse_eq_readTerm hne (by rw [hjoined]; exact hwhole.holdsTogether_eq), hjoined,
    trimEnd_of_closed hwhole.holdsTogether_eq hwhole.depthAfter_eq,
    (hlonger more hword.2 hopens).readTerm_eq]
  rfl

/-- What a bar does. Between texts of one term that are read as negated conditions it stands for
disjunction, if each text in front of another closes its brackets and has not reached the value of a
comparison unless the next one opens a condition, and if the first one is not negated. Behind a
comparison that closes its brackets it continues the value, if what follows is a word that opens no
condition. -/
theorem parse_bars :
    (∀ (texts : List String) (members : List Predicate), 2 ≤ texts.length →
      List.Forall₂ IsLiteralFor texts members →
      (∀ first ∈ texts.head?, first.toList.head? ≠ some '!') →
      (∀ text ∈ texts.dropLast, depthAfter 0 text.toList = 0) →
      (texts.IsChain fun text next =>
        isComparison text.toList = false ∨ opensCondition next.toList = true) →
        parse ("|".intercalate texts) = .ok (some (.group .or members))) ∧
    ∀ (text : String) (condition : Leaf), parse text = .ok (some (.leaf condition)) →
      holdsTogether 0 text.toList = true → isComparison text.toList = true →
      depthAfter 0 text.toList = 0 →
        ∃ value, condition.value? = some value ∧ ∀ more : String, isWord more.toList = true →
          opensCondition more.toList = false →
            parse (text ++ "|" ++ more) =
              .ok (some (.leaf (condition.withValue (value ++ "|" ++ more)))) :=
  ⟨fun _ _ hseveral hmembers hhead hclosed hbars =>
      parse_joinWith hseveral hmembers hhead hclosed hbars,
    fun _ _ hread hholds hcomparison hclosed => parse_append_bar hread hholds hcomparison hclosed⟩

/-- Texts of which the second one holds a bar, the third one a blank and the last one a bracket that
stays open, with a bar and a blank behind it. -/
def barredTexts : List String :=
  ["web", "fact:kernel~Linux|BSD", "!!@@resource:File[/my file]", "!fact:os~[x|!! "]

/-- What the texts are read as one by one. -/
def barredMembers : List Predicate :=
  [.node ⟨"web", "="⟩, .fact ⟨"kernel", "Linux|BSD", "~"⟩,
    .not (.not (.resource ⟨"File", "/my file", true, "="⟩)), .not (.fact ⟨"os", "[x|!!", "~"⟩)]

/-- The texts are read one by one as texts of one term without bars that separate. -/
theorem isLiteralFor_barredTexts : List.Forall₂ IsLiteralFor barredTexts barredMembers := by
  have hname : parse "web" = .ok (some (.node ⟨"web", "="⟩)) := by
    rw [parse_eq_readTerm (by decide) (by decide), readTerm_condition (by decide) (by decide)]
    rfl
  have hkernel : parse "fact:kernel~Linux|BSD" =
      .ok (some (.fact ⟨"kernel", "Linux|BSD", "~"⟩)) := by
    rw [parse_eq_readTerm (by decide) (by decide), readTerm_condition (by decide) (by decide)]
    rfl
  have hfile : parse "!!@@resource:File[/my file]" =
      .ok (some (.not (.not (.resource ⟨"File", "/my file", true, "="⟩)))) := by
    have htrimmed : trimEnd "!!@@resource:File[/my file]".toList =
        '!' :: '!' :: "@@resource:File[/my file]".toList := by decide
    rw [parse_eq_readTerm (by decide) (by decide), htrimmed, readTerm_negation (by decide),
      readTerm_negation (by decide), readTerm_condition (by decide) (by decide)]
    rfl
  have hopen : parse "!fact:os~[x|!! " = .ok (some (.not (.fact ⟨"os", "[x|!!", "~"⟩))) := by
    have htrimmed : trimEnd "!fact:os~[x|!! ".toList = '!' :: "fact:os~[x|!!".toList := by decide
    rw [parse_eq_readTerm (by decide) (by decide), htrimmed, readTerm_negation (by decide),
      readTerm_condition (by decide) (by decide)]
    rfl
  exact .cons ⟨by decide, hname, rfl⟩ (.cons ⟨by decide, hkernel, rfl⟩
    (.cons ⟨by decide, hfile, rfl⟩ (.cons ⟨by decide, hopen, rfl⟩ .nil)))

/-- The bars between the texts separate, and the bars in them stay. -/
theorem parse_bars_barredTexts :
    List.Forall₂ IsLiteralFor barredTexts barredMembers ∧
      parse "web|fact:kernel~Linux|BSD|!!@@resource:File[/my file]|!fact:os~[x|!! " =
        .ok (some (.group .or barredMembers)) ∧
      parse "name~^web[0-9]" = .ok (some (.node ⟨"^web[0-9]", "~"⟩)) ∧
      parse "name~^web[0-9]|has!" = .ok (some (.node ⟨"^web[0-9]|has!", "~"⟩)) := by
  have hnode : parse "name~^web[0-9]" = .ok (some (.node ⟨"^web[0-9]", "~"⟩)) := by
    rw [parse_eq_readTerm (by decide) (by decide), readTerm_condition (by decide) (by decide)]
    rfl
  obtain ⟨value, hvalue, hlonger⟩ :=
    parse_bars.2 "name~^web[0-9]" _ hnode (by decide) (by decide) (by decide)
  cases hvalue
  exact ⟨isLiteralFor_barredTexts, parse_bars.1 barredTexts barredMembers (by decide)
    isLiteralFor_barredTexts (by decide) (by decide) (by decide), hnode,
    hlonger "has!" (by decide) (by decide)⟩

end Filter

end InventoryQuery
