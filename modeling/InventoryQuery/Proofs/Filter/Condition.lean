import InventoryQuery.Filter.Condition
import InventoryQuery.Filter.NormalForm
import InventoryQuery.Filter.Spelling

/-!
# Reading and spelling conditions

A condition that can be written is read back from its spelling. What is read as a condition is the
spelling of the condition, or else the bare name of a node, which holds no reserved character and
is spelled with the lead for names in front.
-/

namespace InventoryQuery.Filter

/-- What follows a lead is the rest of the text. -/
theorem afterLead?_eq_some_iff {lead text rest : List Char} :
    afterLead? lead text = some rest ↔ text = lead ++ rest := by
  induction lead generalizing text with
  | nil => simp [afterLead?]
  | cons a lead ih =>
    cases text with
    | nil => simp [afterLead?]
    | cons b text =>
      rw [afterLead?]
      split
      · next h => rw [ih, h, List.cons_append, List.cons.injEq, and_iff_right rfl]
      · next h => simp [Ne.symm h]

/-- A lead is read at the start of a text. -/
theorem afterLead?_append (lead rest : List Char) : afterLead? lead (lead ++ rest) = some rest :=
  afterLead?_eq_some_iff.mpr rfl

theorem factLead_eq : factLead = ['f', 'a', 'c', 't', ':'] := rfl

theorem presenceLead_eq : presenceLead = ['h', 'a', 's', ':'] := rfl

theorem resourceLead_eq : resourceLead = ['r', 'e', 's', 'o', 'u', 'r', 'c', 'e', ':'] := rfl

theorem exportedLead_eq : exportedLead = '@' :: '@' :: resourceLead := rfl

theorem nodeLead_eq : nodeLead = ['n', 'a', 'm', 'e'] := rfl

/-- A condition on a node's name is spelled behind its lead. -/
theorem spell_node (m : NodeMatch) :
    (Leaf.node m).spell = nodeLead ++ (m.operator.toList ++ m.identifier.toList) :=
  List.append_assoc nodeLead m.operator.toList m.identifier.toList

/-- A condition on a fact's value is spelled behind its lead. -/
theorem spell_fact (m : FactMatch) :
    (Leaf.record (.fact m)).spell =
      factLead ++ (m.name.toList ++ m.operator.toList ++ m.value.toList) := by
  change factLead ++ m.name.toList ++ m.operator.toList ++ m.value.toList = _
  simp only [List.append_assoc]

/-- A condition that a fact is present is spelled behind its lead. -/
theorem spell_factPresence (name : String) :
    (Leaf.record (.factPresence name)).spell = presenceLead ++ name.toList := rfl

/-- A condition on a resource is spelled behind the lead that tells whether it is exported. -/
theorem spell_resource (m : ResourceMatch) :
    (Leaf.record (.resource m)).spell = (if m.exported then exportedLead else resourceLead) ++
      (m.type.toList ++ (if m.operator = matchesRegex then ['~'] else []) ++
        '[' :: m.title.toList ++ [']']) := by
  have hlead : (if m.exported then "@@".toList else []) ++ resourceLead =
      if m.exported then exportedLead else resourceLead := by
    cases m.exported <;> rfl
  change (if m.exported then "@@".toList else []) ++ resourceLead ++ m.type.toList ++
    (if m.operator = matchesRegex then ['~'] else []) ++ '[' :: m.title.toList ++ [']'] = _
  rw [hlead]
  simp only [List.append_assoc, List.cons_append]

/-- A text is cut at the first mark in it. -/
theorem splitAtFirst?_eq_some_iff {mark : Char} {text before after : List Char} :
    splitAtFirst? mark text = some (before, after) ↔
      text = before ++ mark :: after ∧ mark ∉ before := by
  induction text generalizing before after with
  | nil => simp [splitAtFirst?]
  | cons c text ih =>
    rw [splitAtFirst?]
    split
    · next h =>
      subst h
      cases before with
      | nil => simp
      | cons d before =>
        simp only [Option.some.injEq, Prod.mk.injEq, List.cons_append, List.cons.injEq,
          List.mem_cons, not_or, reduceCtorEq, false_and, false_iff, not_and]
        exact fun h hne => absurd h.1 hne
    · next h =>
      cases before with
      | nil => simp [h]
      | cons d before =>
        simp only [Option.map_eq_some_iff, Prod.mk.injEq, Prod.exists, List.cons.injEq,
          List.cons_append, List.mem_cons, not_or, ih]
        constructor
        · rintro ⟨_, _, ⟨rfl, hmark⟩, ⟨rfl, rfl⟩, rfl⟩
          exact ⟨⟨rfl, rfl⟩, Ne.symm h, hmark⟩
        · rintro ⟨⟨rfl, rfl⟩, _, hmark⟩
          exact ⟨before, after, ⟨rfl, hmark⟩, ⟨rfl, rfl⟩, rfl⟩

/-- The text in front of a last mark. -/
theorem beforeLast?_eq_some_iff {mark : Char} {text before : List Char} :
    beforeLast? mark text = some before ↔ text = before ++ [mark] := by
  rw [beforeLast?]
  split
  · next h =>
    obtain ⟨ys, rfl⟩ := List.getLast?_eq_some_iff.mp h
    simp
  · next h =>
    constructor
    · simp
    · rintro rfl
      simp at h

/-- A text starts with an operator of the language, unless it starts with a longer one. -/
theorem leadingOperator?_eq_some_iff {text value : List Char} {operator : String} :
    leadingOperator? text = some (operator, value) ↔
      text = operator.toList ++ value ∧ operator ∈ valueOperators ∧
        ¬((operator = "<" ∨ operator = ">") ∧ value.head? = some '=') := by
  constructor
  · intro h
    unfold leadingOperator? at h
    split at h
    case h_1 | h_2 | h_3 | h_4 =>
      cases h
      exact ⟨rfl, by decide, by simp⟩
    case h_5 hlonger | h_6 hlonger =>
      cases h
      refine ⟨rfl, by decide, ?_⟩
      rintro ⟨_, hvalue⟩
      obtain ⟨rest, rfl⟩ := List.head?_eq_some_iff.mp hvalue
      exact hlonger rest rfl
    case h_7 => exact absurd h nofun
  · rintro ⟨rfl, hoperator, hlonger⟩
    have hvalue (h : operator = "<" ∨ operator = ">") (rest : List Char) :
        value = '=' :: rest → False := by
      rintro rfl
      exact hlonger ⟨h, rfl⟩
    simp only [valueOperators, List.mem_cons, List.not_mem_nil, or_false] at hoperator
    rcases hoperator with rfl | rfl | rfl | rfl | rfl | rfl
    · rfl
    · rfl
    · change leadingOperator? ('<' :: value) = _
      rw [leadingOperator?]
      exact hvalue (.inl rfl)
    · change leadingOperator? ('>' :: value) = _
      rw [leadingOperator?]
      exact hvalue (.inr rfl)
    · rfl
    · rfl

/-- Every operator on a fact's value starts with the start of an operator. -/
theorem exists_isOperatorStart {operator : String} (h : operator ∈ valueOperators) :
    ∃ c rest, operator.toList = c :: rest ∧ isOperatorStart c = true := by
  simp only [valueOperators, List.mem_cons, List.not_mem_nil, or_false] at h
  rcases h with rfl | rfl | rfl | rfl | rfl | rfl <;> exact ⟨_, _, rfl, rfl⟩

/-- A comparison is cut at its first operator. -/
theorem splitComparison?_eq_some_iff {text field value : List Char} {operator : String} :
    splitComparison? text = some (field, operator, value) ↔
      text = field ++ operator.toList ++ value ∧ (∀ c ∈ field, isOperatorStart c = false) ∧
        operator ∈ valueOperators ∧
        ¬((operator = "<" ∨ operator = ">") ∧ value.head? = some '=') := by
  simp only [splitComparison?, Option.map_eq_some_iff, Prod.exists, Prod.mk.injEq]
  constructor
  · rintro ⟨_, _, hleading, rfl, rfl, rfl⟩
    obtain ⟨hrest, hoperator, hlonger⟩ := leadingOperator?_eq_some_iff.mp hleading
    refine ⟨?_, ?_, hoperator, hlonger⟩
    · rw [List.append_assoc, ← hrest, List.takeWhile_append_dropWhile]
    · intro c hc
      simpa using List.all_eq_true.mp List.all_takeWhile c hc
  · rintro ⟨rfl, hfield, hoperator, hlonger⟩
    obtain ⟨c, rest, hstart, hc⟩ := exists_isOperatorStart hoperator
    have hall : ∀ d ∈ field, (!isOperatorStart d) = true := fun d hd => by simp [hfield d hd]
    have hcut : (operator.toList ++ value).takeWhile (fun c => !isOperatorStart c) = [] := by
      simp [hstart, hc]
    have hkept : (operator.toList ++ value).dropWhile (fun c => !isOperatorStart c) =
        operator.toList ++ value := by
      simp [hstart, hc]
    refine ⟨operator, value, ?_, ?_, rfl, rfl⟩
    · rw [List.append_assoc, List.dropWhile_append_of_pos hall, hkept]
      exact leadingOperator?_eq_some_iff.mpr ⟨rfl, hoperator, hlonger⟩
    · rw [List.append_assoc, List.takeWhile_append_of_pos hall, hcut, List.append_nil]

/-- The type of a resource is what stands in front of a tilde, or the whole head without one. -/
theorem splitHead_eq_iff {head type : List Char} {operator : String} :
    splitHead head = (type, operator) ↔
      head = type ++ (if operator = matchesRegex then ['~'] else []) ∧ operator ∈ nameOperators ∧
        ¬(operator = equals ∧ type.getLast? = some '~') := by
  rw [splitHead]
  split
  · next regex =>
    obtain rfl := beforeLast?_eq_some_iff.mp regex
    constructor
    · rintro ⟨⟩
      exact ⟨rfl, by decide, fun h => absurd h.1 (by decide)⟩
    · rintro ⟨hhead, hoperator, htilde⟩
      split at hhead
      · next hregex => rw [hregex, List.append_cancel_right hhead]
      · next hregex =>
        refine absurd ⟨?_, ?_⟩ htilde
        · simpa [nameOperators, hregex] using hoperator
        · rw [List.append_nil] at hhead
          simp [← hhead]
  · next hplain =>
    constructor
    · rintro ⟨⟩
      refine ⟨by simp [equals, matchesRegex], by decide, ?_⟩
      rintro ⟨_, htilde⟩
      obtain ⟨type, rfl⟩ := List.getLast?_eq_some_iff.mp htilde
      simp [beforeLast?] at hplain
    · rintro ⟨rfl, hoperator, _⟩
      split at hplain
      · simp [beforeLast?] at hplain
      · next hregex =>
        have hequals : operator = equals := by simpa [nameOperators, hregex] using hoperator
        rw [hequals, if_neg (by decide), List.append_nil]

/-- What is read as a resource. -/
theorem readResource_eq_ok_iff {text : List Char} {exported : Bool} {p : Predicate} :
    readResource text exported = .ok p ↔
      ∃ m : ResourceMatch, p = .resource m ∧ m.exported = exported ∧
        (Leaf.record (.resource m)).isWritable = true ∧
        text = m.type.toList ++ (if m.operator = matchesRegex then ['~'] else []) ++
          '[' :: m.title.toList ++ [']'] := by
  rw [readResource]
  constructor
  · intro h
    split at h
    · exact absurd h nofun
    next head afterBracket hopen =>
    obtain ⟨rfl, hbracket⟩ := splitAtFirst?_eq_some_iff.mp hopen
    split at h
    · exact absurd h nofun
    next title hclose =>
    obtain rfl := beforeLast?_eq_some_iff.mp hclose
    split at h
    next type operator hhead =>
    obtain ⟨rfl, hoperator, htilde⟩ := splitHead_eq_iff.mp hhead
    split at h
    · exact absurd h nofun
    next hempty =>
    cases h
    refine ⟨_, rfl, rfl, ?_, by simp⟩
    rw [Leaf.isWritable_resource_iff]
    simp only [String.toList_ofList]
    rw [List.mem_append, not_or] at hbracket
    exact ⟨hoperator, by simpa using hempty, hbracket.1, htilde⟩
  · rintro ⟨m, rfl, rfl, hwritable, rfl⟩
    obtain ⟨hoperator, hempty, hbracket, htilde⟩ := Leaf.isWritable_resource_iff.mp hwritable
    have hhead := splitHead_eq_iff.mpr ⟨rfl, hoperator, htilde⟩
    have hnone : '[' ∉ m.type.toList ++ (if m.operator = matchesRegex then ['~'] else []) := by
      split <;> simp [hbracket]
    generalize m.type.toList ++ (if m.operator = matchesRegex then ['~'] else []) = head at *
    have hopen : splitAtFirst? '[' (head ++ '[' :: m.title.toList ++ [']']) =
        some (head, m.title.toList ++ [']']) :=
      splitAtFirst?_eq_some_iff.mpr ⟨by simp, hnone⟩
    have hclose := beforeLast?_eq_some_iff.mpr (rfl : m.title.toList ++ [']'] = _)
    rw [hopen]
    simp [hclose, hhead, hempty, Predicate.resource]

/-- What is read as a condition on a fact's value. -/
theorem readFact_eq_ok_iff {condition text : List Char} {p : Predicate} :
    readFact condition text = .ok p ↔
      ∃ m : FactMatch, p = .fact m ∧ (Leaf.record (.fact m)).isWritable = true ∧
        text = m.name.toList ++ m.operator.toList ++ m.value.toList := by
  rw [readFact]
  constructor
  · intro h
    split at h
    · exact absurd h nofun
    · next name operator value hsplit =>
      obtain ⟨rfl, hname, hoperator, hlonger⟩ := splitComparison?_eq_some_iff.mp hsplit
      split at h
      · exact absurd h nofun
      split at h
      · exact absurd h nofun
      next hnil hempty =>
      cases h
      refine ⟨_, rfl, ?_, by simp⟩
      rw [Leaf.isWritable_fact_iff]
      simp only [String.toList_ofList]
      exact ⟨hoperator, by simpa using hnil, by simpa using hempty, hname, hlonger⟩
  · rintro ⟨m, rfl, hwritable, rfl⟩
    obtain ⟨hoperator, hnil, hempty, hname, hlonger⟩ := Leaf.isWritable_fact_iff.mp hwritable
    have hsplit : splitComparison? (m.name.toList ++ m.operator.toList ++ m.value.toList) =
        some (m.name.toList, m.operator, m.value.toList) :=
      splitComparison?_eq_some_iff.mpr ⟨rfl, hname, hoperator, hlonger⟩
    rw [hsplit]
    simp [hnil, hempty, Predicate.fact]

/-- Whether a text can be the bare name of a node. -/
def isBareName (text : List Char) : Bool :=
  !text.isEmpty && text.head? != some '-' && !text.any isReserved

/-- What a text is read as: a condition that it spells, or a node of which it is the name. -/
inductive IsReadAs : (text : List Char) → (condition : Leaf) → Prop
  /-- The spelling of a condition. -/
  | spelled {condition : Leaf} (hwritable : condition.isWritable = true) :
    IsReadAs condition.spell condition
  /-- The bare name of a node. -/
  | bare {name : List Char} (hname : isBareName name = true) :
    IsReadAs name (.node ⟨String.ofList name, equals⟩)

/-- What is read as the bare name of a node. -/
theorem readBareNode_eq_ok_iff {text : List Char} {p : Predicate} (hne : text ≠ []) :
    readBareNode text = .ok p ↔
      isBareName text = true ∧ p = .node ⟨String.ofList text, equals⟩ := by
  rw [readBareNode]
  split
  · next hdash => simp [isBareName, hdash]
  split
  · next hreserved => simp [isBareName, hreserved]
  · next hdash hreserved =>
    have hname : isBareName text = true := by
      simp [isBareName, hne, hdash, Bool.eq_false_iff.mpr hreserved]
    rw [hname, Except.ok.injEq, eq_self, true_and]
    exact eq_comm

/-- What a bare name is made of. -/
theorem isBareName_iff {text : List Char} :
    isBareName text = true ↔
      text ≠ [] ∧ text.head? ≠ some '-' ∧ text.any isReserved = false := by
  simp [isBareName, and_assoc]

/-- A text without reserved characters has no lead that holds one. -/
theorem afterLead?_of_not_isReserved {lead text : List Char} (hlead : lead.any isReserved = true)
    (htext : text.any isReserved = false) : afterLead? lead text = none := by
  cases hrest : afterLead? lead text with
  | none => rfl
  | some rest =>
    rw [afterLead?_eq_some_iff.mp hrest, List.any_append, hlead] at htext
    exact absurd htext nofun

/-- The operators on a name are single characters. -/
theorem mem_nameOperators_iff {operator : String} :
    operator ∈ nameOperators ↔ ∃ c, operator = String.ofList [c] ∧ (c = '=' ∨ c = '~') := by
  constructor
  · intro h
    simp only [nameOperators, List.mem_cons, List.not_mem_nil, or_false] at h
    rcases h with rfl | rfl
    · exact ⟨'=', rfl, .inl rfl⟩
    · exact ⟨'~', rfl, .inr rfl⟩
  · rintro ⟨c, rfl, rfl | rfl⟩
    · exact .head _
    · exact .tail _ (.head _)

/-- What is read as a condition on a node. -/
theorem readNode_eq_ok_iff {text : List Char} {p : Predicate} (hne : text ≠ []) :
    readNode text = .ok p ↔
      (∃ m : NodeMatch, p = .node m ∧ (Leaf.node m).isWritable = true ∧
        text = nodeLead ++ (m.operator.toList ++ m.identifier.toList)) ∨
      isBareName text = true ∧ p = .node ⟨String.ofList text, equals⟩ := by
  rw [readNode]
  split
  · next c value hlead =>
    obtain rfl := afterLead?_eq_some_iff.mp hlead
    split
    · next hc =>
      have hbare : isBareName (nodeLead ++ c :: value) = false := by
        rcases Bool.or_eq_true_iff.mp hc with hc | hc <;>
          simp [isBareName, of_decide_eq_true hc, isReserved, isOperatorStart]
      rw [hbare]
      constructor
      · intro h
        split at h
        · exact absurd h nofun
        next hempty =>
        cases h
        refine .inl ⟨_, rfl, Leaf.isWritable_node_iff.mpr ⟨?_, by simpa using hempty⟩, by simp⟩
        exact mem_nameOperators_iff.mpr ⟨c, rfl, by simpa using hc⟩
      · rintro (⟨m, rfl, hwritable, htext⟩ | ⟨hname, _⟩)
        · obtain ⟨hoperator, hempty⟩ := Leaf.isWritable_node_iff.mp hwritable
          obtain ⟨d, hd, _⟩ := mem_nameOperators_iff.mp hoperator
          rw [hd, String.toList_ofList, List.append_cancel_left_eq] at htext
          obtain ⟨rfl, rfl⟩ := List.cons.inj htext
          simp [hempty, ← hd, Predicate.node]
        · exact absurd hname nofun
    · next hc =>
      rw [readBareNode_eq_ok_iff hne, or_iff_right]
      rintro ⟨m, rfl, hwritable, htext⟩
      obtain ⟨d, hd, hcases⟩ :=
        mem_nameOperators_iff.mp (Leaf.isWritable_node_iff.mp hwritable).1
      rw [hd, String.toList_ofList, List.append_cancel_left_eq] at htext
      obtain ⟨rfl, rfl⟩ := List.cons.inj htext
      exact hc (by simpa using hcases)
  · next hlead =>
    rw [readBareNode_eq_ok_iff hne, or_iff_right]
    rintro ⟨m, rfl, hwritable, rfl⟩
    obtain ⟨d, hd, _⟩ := mem_nameOperators_iff.mp (Leaf.isWritable_node_iff.mp hwritable).1
    exact hlead d m.identifier.toList (by rw [afterLead?_append, hd, String.toList_ofList]; rfl)

/-- What follows the lead of an exported resource is read as one. -/
theorem readCondition_exportedLead (rest : List Char) :
    readCondition (exportedLead ++ rest) = readResource rest true := by
  rw [readCondition, afterLead?_append]
  rfl

/-- What follows the lead of a resource is read as one. -/
theorem readCondition_resourceLead (rest : List Char) :
    readCondition (resourceLead ++ rest) = readResource rest false := by
  rw [readCondition, afterLead?_append]
  rfl

/-- What follows the lead of a fact's presence is read as its name. -/
theorem readCondition_presenceLead {name : List Char} (hne : name ≠ []) :
    readCondition (presenceLead ++ name) = .ok (.factPresence (String.ofList name)) := by
  rw [readCondition, afterLead?_append]
  cases name with
  | nil => exact absurd rfl hne
  | cons c more => rfl

/-- What follows the lead of a condition on a fact's value is read as one. -/
theorem readCondition_factLead (rest : List Char) :
    readCondition (factLead ++ rest) = readFact (factLead ++ rest) rest := by
  rw [readCondition, afterLead?_append]
  rfl

/-- A condition without one of the other leads is read as one on a node. -/
theorem readCondition_node {text : List Char} (hne : text ≠ [])
    (hlead : ∀ lead ∈ [exportedLead, resourceLead, presenceLead, factLead],
      afterLead? lead text = none) :
    readCondition text = readNode text := by
  have hempty : text.isEmpty = false := by simpa using hne
  rw [readCondition, hlead exportedLead (by simp), hlead resourceLead (by simp),
    hlead presenceLead (by simp), hlead factLead (by simp), hempty]
  rfl

/-- What is read as a condition. -/
theorem exists_isReadAs {text : List Char} {p : Predicate} (h : readCondition text = .ok p) :
    ∃ condition, p = .leaf condition ∧ IsReadAs text condition := by
  rw [readCondition] at h
  split at h
  · exact absurd h nofun
  next hempty =>
  split at h
  case h_1 resource hlead =>
    obtain rfl := afterLead?_eq_some_iff.mp hlead
    obtain ⟨m, rfl, hexported, hwritable, rfl⟩ := readResource_eq_ok_iff.mp h
    have hspell := spell_resource m
    rw [hexported, if_pos rfl] at hspell
    exact ⟨_, rfl, hspell ▸ .spelled hwritable⟩
  case h_2 resource _ hlead =>
    obtain rfl := afterLead?_eq_some_iff.mp hlead
    obtain ⟨m, rfl, hexported, hwritable, rfl⟩ := readResource_eq_ok_iff.mp h
    have hspell := spell_resource m
    rw [hexported, if_neg (by decide)] at hspell
    exact ⟨_, rfl, hspell ▸ .spelled hwritable⟩
  case h_3 name _ _ hlead =>
    obtain rfl := afterLead?_eq_some_iff.mp hlead
    split at h
    · exact absurd h nofun
    next hname =>
    cases h
    have hwritable : (Leaf.record (.factPresence (String.ofList name))).isWritable = true := by
      simpa [Leaf.isWritable] using hname
    have hspell := spell_factPresence (String.ofList name)
    rw [String.toList_ofList] at hspell
    exact ⟨_, rfl, hspell ▸ .spelled hwritable⟩
  case h_4 rest _ _ _ hlead =>
    obtain rfl := afterLead?_eq_some_iff.mp hlead
    obtain ⟨m, rfl, hwritable, rfl⟩ := readFact_eq_ok_iff.mp h
    exact ⟨_, rfl, spell_fact m ▸ .spelled hwritable⟩
  case h_5 =>
    have hne : text ≠ [] := by simpa using hempty
    rcases (readNode_eq_ok_iff hne).mp h with ⟨m, rfl, hwritable, rfl⟩ | ⟨hname, rfl⟩
    · exact ⟨_, rfl, spell_node m ▸ .spelled hwritable⟩
    · exact ⟨_, rfl, .bare hname⟩

/-- What is read as a condition. -/
theorem IsReadAs.readCondition_eq {text : List Char} {condition : Leaf}
    (h : IsReadAs text condition) : readCondition text = .ok (.leaf condition) := by
  cases h with
  | spelled hwritable =>
    match condition with
    | .node m =>
      have hne : (Leaf.node m).spell ≠ [] := by simp [spell_node, nodeLead_eq]
      rw [readCondition_node hne, readNode_eq_ok_iff hne]
      · exact .inl ⟨m, rfl, hwritable, spell_node m⟩
      · simp [spell_node, nodeLead_eq, exportedLead_eq, resourceLead_eq, presenceLead_eq,
          factLead_eq, afterLead?]
    | .record (.fact m) =>
      rw [spell_fact, readCondition_factLead, readFact_eq_ok_iff]
      exact ⟨m, rfl, hwritable, rfl⟩
    | .record (.factPresence name) =>
      rw [spell_factPresence, readCondition_presenceLead (by simpa [Leaf.isWritable] using hwritable),
        String.ofList_toList]
      rfl
    | .record (.resource m) =>
      rw [spell_resource]
      split
      · next hexported =>
        rw [readCondition_exportedLead, readResource_eq_ok_iff]
        exact ⟨m, rfl, hexported, hwritable, rfl⟩
      · next hexported =>
        rw [readCondition_resourceLead, readResource_eq_ok_iff]
        exact ⟨m, rfl, Bool.eq_false_iff.mpr hexported, hwritable, rfl⟩
  | bare hname =>
    obtain ⟨hne, _, hreserved⟩ := isBareName_iff.mp hname
    have hleads : ∀ lead ∈ [exportedLead, resourceLead, presenceLead, factLead],
        lead.any isReserved = true := by decide
    rw [readCondition_node hne, readNode_eq_ok_iff hne]
    · exact .inr ⟨hname, rfl⟩
    · exact fun lead hlead => afterLead?_of_not_isReserved (hleads lead hlead) hreserved

end InventoryQuery.Filter
