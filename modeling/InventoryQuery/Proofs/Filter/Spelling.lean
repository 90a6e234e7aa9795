import InventoryQuery.Proofs.Filter.Grammar

/-!
# Spelled conditions in a filter

The spelling of a condition opens with a lead. A bar in front of it therefore always separates two
alternatives, whatever stands in front of the bar, and it does not look like a negation. When the
ends of the condition can be told, no bar cuts it, no blank outside brackets does, and it closes
the brackets that it opens.
-/

namespace InventoryQuery.Filter

open Text (isBlank joinWith)

/-- The spelling of a condition does not start with an exclamation mark, whatever follows it. -/
theorem head?_spell (condition : Leaf) (rest : List Char) :
    (condition.spell ++ rest).head? ≠ some '!' := by
  match condition with
  | .node m => simp [spell_node, nodeLead_eq]
  | .record (.fact m) => simp [spell_fact, factLead_eq]
  | .record (.factPresence name) => simp [spell_factPresence, presenceLead_eq]
  | .record (.resource m) =>
    rw [spell_resource]
    split <;> simp [exportedLead_eq, resourceLead_eq]

/-- The spelling of a condition opens one, whatever follows it. -/
theorem opensCondition_spell {condition : Leaf} (hwritable : condition.isWritable = true)
    (rest : List Char) : opensCondition (condition.spell ++ rest) = true := by
  match condition with
  | .node m =>
    obtain ⟨c, hoperator, hc⟩ :=
      mem_nameOperators_iff.mp (Leaf.isWritable_node_iff.mp hwritable).1
    rcases hc with rfl | rfl <;>
      simp [spell_node, hoperator, opensCondition, dropNegations, nodeLead_eq, afterLead?]
  | .record (.fact m) =>
    simp [spell_fact, opensCondition, dropNegations, factLead_eq, afterLead?]
  | .record (.factPresence name) =>
    simp [spell_factPresence, opensCondition, dropNegations, presenceLead_eq, afterLead?]
  | .record (.resource m) =>
    rw [spell_resource]
    split <;> simp [opensCondition, dropNegations, exportedLead_eq, resourceLead_eq, afterLead?]

/-- An exclamation mark in front does not matter for what a text opens. -/
theorem opensCondition_negation (text : List Char) :
    opensCondition ('!' :: text) = opensCondition text := rfl

/-- The spelling of an alternative opens a condition, whatever follows it. -/
theorem opensCondition_alternative {p : Predicate} (h : p.isAlternative = true) (rest : List Char) :
    opensCondition (p.spell ++ rest) = true := by
  induction p using Predicate.isAlternative.induct with
  | case1 condition => exact opensCondition_spell h rest
  | case2 negated ih =>
    rw [Predicate.spell, List.cons_append, opensCondition_negation]
    exact ih h
  | case3 connective members => exact absurd h Bool.false_ne_true

/-- A bar in front of spelled alternatives separates, whatever stands in front of it. -/
theorem barSeparates_alternatives (current : List Char) {p : Predicate}
    (h : p.isAlternative = true) (members : List Predicate) :
    barSeparates current (joinWith '|' ((p :: members).map Predicate.spell)) = true := by
  obtain ⟨rest, hrest⟩ := Text.exists_joinWith_cons '|' p.spell (members.map Predicate.spell)
  rw [List.map_cons, hrest, barSeparates, opensCondition_alternative h, Bool.or_true]

/-- A character that is no bracket does not change the depth. -/
theorem nest_of_not_isBracket {c : Char} (hc : isBracket c = false) (depth : Nat) :
    nest depth c = depth := by
  rw [isBracket, Bool.or_eq_false_iff, beq_eq_false_iff_ne, beq_eq_false_iff_ne] at hc
  rw [nest, if_neg hc.1, if_neg hc.2]

/-- A text without brackets does not change the depth. -/
theorem depthAfter_of_not_isBracket {text : List Char} (htext : text.any isBracket = false)
    (depth : Nat) : depthAfter depth text = depth := by
  induction text with
  | nil => rfl
  | cons c rest ih =>
    rw [List.any_cons, Bool.or_eq_false_iff] at htext
    rw [depthAfter_cons, nest_of_not_isBracket htext.1, ih htext.2]

/-- A text without brackets holds together where a bracket is open. -/
theorem holdsTogether_of_not_isBracket {text : List Char} (htext : text.any isBracket = false)
    (depth : Nat) : holdsTogether (depth + 1) text = true := by
  induction text with
  | nil => rfl
  | cons c rest ih =>
    rw [List.any_cons, Bool.or_eq_false_iff] at htext
    rw [holdsTogether, nest_of_not_isBracket htext.1, ih htext.2]
    simp

/-- When a text holds together and closes the brackets that it opens. -/
structure IsClosed (text : List Char) : Prop where
  holdsTogether_eq : holdsTogether 0 text = true
  depthAfter_eq : depthAfter 0 text = 0

/-- Two closed texts are closed one behind the other. -/
theorem IsClosed.append {a b : List Char} (ha : IsClosed a) (hb : IsClosed b) :
    IsClosed (a ++ b) where
  holdsTogether_eq := by
    rw [holdsTogether_append, ha.holdsTogether_eq, ha.depthAfter_eq, hb.holdsTogether_eq]
    rfl
  depthAfter_eq := by rw [depthAfter_append, ha.depthAfter_eq, hb.depthAfter_eq]

/-- A text without blanks and brackets is closed. -/
theorem isClosed_of_isUnbroken {text : List Char} (htext : isUnbroken text = true) :
    IsClosed text := by
  induction text with
  | nil => exact ⟨rfl, rfl⟩
  | cons c rest ih =>
    simp only [isUnbroken, List.all_cons, Bool.and_eq_true, Bool.not_eq_true'] at htext
    have hc : IsClosed [c] := by
      constructor
      · simp [holdsTogether, htext.1.1]
      · exact nest_of_not_isBracket htext.1.2 0
    exact hc.append (ih (by simpa [isUnbroken] using htext.2))

/-- A closed text is closed behind an exclamation mark. -/
theorem IsClosed.negation {text : List Char} (h : IsClosed text) : IsClosed ('!' :: text) :=
  ⟨h.holdsTogether_eq, h.depthAfter_eq⟩

/-- A text without brackets is closed when it stands in a pair of them. -/
theorem isClosed_brackets {text : List Char} (htext : text.any isBracket = false) :
    IsClosed ('[' :: text ++ [']']) := by
  have hdepth := depthAfter_of_not_isBracket htext 1
  constructor
  · rw [List.cons_append, holdsTogether]
    change (_ && holdsTogether 1 (text ++ [']'])) = true
    rw [holdsTogether_append, holdsTogether_of_not_isBracket htext 0, hdepth]
    rfl
  · rw [List.cons_append, depthAfter_cons]
    change depthAfter 1 (text ++ [']']) = 0
    rw [depthAfter_append, hdepth]
    rfl

/-- What stands in a spelled condition in front of its value or title. -/
def front : Leaf → List Char
  | .node m => nodeLead ++ m.operator.toList
  | .record (.fact m) => factLead ++ (m.name.toList ++ m.operator.toList)
  | .record (.factPresence name) => presenceLead ++ name.toList
  | .record (.resource m) =>
    (if m.exported then exportedLead else resourceLead) ++
      (m.type.toList ++ (if m.operator = matchesRegex then ['~'] else []))

/-- The value of a spelled condition, or its title in brackets. -/
def back : Leaf → List Char
  | .node m => m.identifier.toList
  | .record (.fact m) => m.value.toList
  | .record (.factPresence _) => []
  | .record (.resource m) => '[' :: m.title.toList ++ [']']

/-- A condition is spelled front to back. -/
theorem spell_eq_front_append_back (condition : Leaf) :
    condition.spell = front condition ++ back condition := by
  match condition with
  | .node m =>
    rw [spell_node, ← List.append_assoc]
    rfl
  | .record (.fact m) =>
    rw [spell_fact, ← List.append_assoc]
    rfl
  | .record (.factPresence name) =>
    rw [spell_factPresence, ← List.append_nil (presenceLead ++ name.toList)]
    rfl
  | .record (.resource m) =>
    rw [spell_resource, List.append_assoc, ← List.append_assoc]
    rfl

/-- A text of two parts is a word when both parts are. -/
theorem isWord_append {a b : List Char} (ha : isWord a = true) (hb : isWord b = true) :
    isWord (a ++ b) = true := by
  simp only [isWord, isUnbroken, Bool.and_eq_true, Bool.not_eq_true', List.contains_eq_mem,
    decide_eq_false_iff_not] at ha hb ⊢
  rw [List.all_append, List.mem_append, ha.1, hb.1, not_or]
  exact ⟨rfl, ha.2, hb.2⟩

/-- No blank, bracket or bar stands in front of a value or title. -/
theorem isWord_front {condition : Leaf} (hwritable : condition.isWritable = true)
    (hdelimited : condition.isDelimited = true) : isWord (front condition) = true := by
  have hoperators : ∀ operator ∈ nameOperators ++ valueOperators,
      isWord operator.toList = true := by decide
  match condition with
  | .node m =>
    have hmem := List.mem_append_left valueOperators (Leaf.isWritable_node_iff.mp hwritable).1
    exact isWord_append (by decide) (hoperators m.operator hmem)
  | .record (.fact m) =>
    have hmem := List.mem_append_right nameOperators (Leaf.isWritable_fact_iff.mp hwritable).1
    rw [Leaf.isDelimited, Bool.and_eq_true] at hdelimited
    exact isWord_append (by decide) (isWord_append hdelimited.1 (hoperators m.operator hmem))
  | .record (.factPresence name) => exact isWord_append (by decide) hdelimited
  | .record (.resource m) =>
    rw [Leaf.isDelimited, Bool.and_eq_true] at hdelimited
    have hlead : isWord (if m.exported then exportedLead else resourceLead) = true := by
      split <;> decide
    have htilde : isWord (if m.operator = matchesRegex then ['~'] else []) = true := by
      split <;> decide
    exact isWord_append hlead (isWord_append hdelimited.1 htilde)

/-- The value of a condition whose ends can be told is closed, and so is its title in brackets. -/
theorem isClosed_back {condition : Leaf} (hdelimited : condition.isDelimited = true) :
    IsClosed (back condition) := by
  match condition with
  | .node m =>
    rw [Leaf.isDelimited, isValue, Bool.and_eq_true] at hdelimited
    exact isClosed_of_isUnbroken hdelimited.1
  | .record (.fact m) =>
    rw [Leaf.isDelimited, isValue, Bool.and_eq_true, Bool.and_eq_true] at hdelimited
    exact isClosed_of_isUnbroken hdelimited.2.1
  | .record (.factPresence name) => exact ⟨rfl, rfl⟩
  | .record (.resource m) =>
    rw [Leaf.isDelimited, Bool.and_eq_true, Bool.not_eq_true'] at hdelimited
    exact isClosed_brackets hdelimited.2

/-- A condition whose ends can be told is closed. -/
theorem isClosed_spell {condition : Leaf} (hwritable : condition.isWritable = true)
    (hdelimited : condition.isDelimited = true) : IsClosed condition.spell := by
  have hfront := isWord_front hwritable hdelimited
  rw [isWord, Bool.and_eq_true] at hfront
  rw [spell_eq_front_append_back]
  exact (isClosed_of_isUnbroken hfront.1).append (isClosed_back hdelimited)

/-- A text without bars in front of another keeps the bars of both when the other keeps its own. -/
theorem keepsBars_append {depth : Nat} {current a b : List Char} (ha : '|' ∉ a) :
    keepsBars depth current (a ++ b) = keepsBars (depthAfter depth a) (current ++ a) b := by
  induction a generalizing depth current with
  | nil => simp
  | cons c rest ih =>
    simp only [List.mem_cons, not_or] at ha
    rw [List.cons_append, keepsBars, ih ha.2]
    simp [Ne.symm ha.1]

/-- A value keeps its bars behind what has reached it. -/
theorem keepsBars_of_barsStay {depth : Nat} {current text : List Char}
    (hcomparison : ∀ more, isComparison (current ++ more) = true) (hstay : barsStay text = true) :
    keepsBars depth current text = true := by
  induction text generalizing depth current with
  | nil => rfl
  | cons c rest ih =>
    simp only [barsStay, Bool.and_eq_true, Bool.not_eq_true', Bool.and_eq_false_imp] at hstay
    have hcurrent : isComparison current = true := by simpa using hcomparison []
    have hrest : keepsBars (nest depth c) (current ++ [c]) rest = true :=
      ih (fun more => by simpa using hcomparison (c :: more)) hstay.2
    rw [keepsBars, hrest, Bool.and_true, barSeparates, hcurrent]
    cases hbar : (c == '|') with
    | false => rfl
    | true => simp [hstay.1 hbar]

/-- A text without brackets keeps its bars up to the bracket that closes it. -/
theorem keepsBars_of_not_isBracket {depth : Nat} {current text : List Char}
    (htext : text.any isBracket = false) :
    keepsBars (depth + 1) current (text ++ [']']) = true := by
  induction text generalizing current with
  | nil => simp [keepsBars]
  | cons c rest ih =>
    rw [List.any_cons, Bool.or_eq_false_iff] at htext
    rw [List.cons_append, keepsBars, nest_of_not_isBracket htext.1, ih htext.2]
    simp

/-- A comparison of a node's name has reached its value behind the operator. -/
theorem isComparison_node {operator : String} (h : operator ∈ nameOperators) (more : List Char) :
    isComparison (nodeLead ++ operator.toList ++ more) = true := by
  obtain ⟨c, rfl, hc⟩ := mem_nameOperators_iff.mp h
  rcases hc with rfl | rfl <;>
    simp [isComparison, dropNegations, nodeLead_eq, factLead_eq, afterLead?]

/-- A comparison of a fact's value has reached it behind the operator. -/
theorem isComparison_fact {operator : String} (h : operator ∈ valueOperators)
    (name more : List Char) :
    isComparison (factLead ++ (name ++ operator.toList) ++ more) = true := by
  obtain ⟨c, rest, hstart, hc⟩ := exists_isOperatorStart h
  simp [isComparison, dropNegations, factLead_eq, afterLead?, hstart, hc]

/-- No bar cuts the value of a condition whose ends can be told, or its title in brackets. -/
theorem keepsBars_back {condition : Leaf} (hwritable : condition.isWritable = true)
    (hdelimited : condition.isDelimited = true) :
    keepsBars 0 (front condition) (back condition) = true := by
  match condition with
  | .node m =>
    rw [Leaf.isDelimited, isValue, Bool.and_eq_true] at hdelimited
    have hoperator := (Leaf.isWritable_node_iff.mp hwritable).1
    exact keepsBars_of_barsStay (isComparison_node hoperator) hdelimited.2
  | .record (.fact m) =>
    rw [Leaf.isDelimited, isValue, Bool.and_eq_true, Bool.and_eq_true] at hdelimited
    have hoperator := (Leaf.isWritable_fact_iff.mp hwritable).1
    exact keepsBars_of_barsStay (isComparison_fact hoperator m.name.toList) hdelimited.2.2
  | .record (.factPresence name) => rfl
  | .record (.resource m) =>
    rw [Leaf.isDelimited, Bool.and_eq_true, Bool.not_eq_true'] at hdelimited
    exact keepsBars_of_not_isBracket hdelimited.2

/-- A condition whose ends can be told is not cut by its bars. -/
theorem isUncut_spell {condition : Leaf} (hwritable : condition.isWritable = true)
    (hdelimited : condition.isDelimited = true) : isUncut condition.spell = true := by
  have hfront := isWord_front hwritable hdelimited
  rw [isWord, Bool.and_eq_true, Bool.not_eq_true', List.contains_eq_mem,
    decide_eq_false_iff_not] at hfront
  have hclosed := (isClosed_of_isUnbroken hfront.1).depthAfter_eq
  rw [isUncut, spell_eq_front_append_back, keepsBars_append hfront.2, hclosed]
  exact keepsBars_back hwritable hdelimited

/-- A filter is spelled as its terms with spaces between them. -/
theorem spell_conjunction {members : List Predicate} {p : Predicate}
    (h : conjunction members = .ok (some p)) :
    p.spell = joinWith ' ' (members.map Predicate.spell) := by
  rcases conjunction_eq_ok_some_iff.mp h with rfl | ⟨_, rfl⟩
  · rfl
  · exact Predicate.spell_and members

end InventoryQuery.Filter
