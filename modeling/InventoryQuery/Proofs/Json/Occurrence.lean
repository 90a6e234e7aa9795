import InventoryQuery.Proofs.Json.ReadBack

/-!
# Words that stand alone

A list of one word, such as a connective without operands would be, is written as the word in
quotation marks between two brackets. Strings may hold brackets and quotation marks too, but a
bracket within a string is not followed by a bare quotation mark unless the string ends there, and
what follows a string is a comma or a closing bracket. So this text occurs in the text of a value
only where the list occurs in the value.
-/

namespace InventoryQuery.Json

/-- When a value occurs in another one: it is that value, or it occurs in one of its parts. -/
inductive Occurs (part : Json) : Json → Prop
  /-- A value occurs in itself. -/
  | self : Occurs part part
  /-- What occurs in an item occurs in the array. -/
  | item {items : List Json} {item : Json} (hmem : item ∈ items) (hitem : Occurs part item) :
    Occurs part (.array items)
  /-- What occurs in the value of a member occurs in the object. -/
  | member {members : List (String × Json)} {name : String} {value : Json}
    (hmem : (name, value) ∈ members) (hvalue : Occurs part value) : Occurs part (.object members)

/-- The text of an item is found in the text of the items. -/
theorem infix_printItems {items : List Json} {item : Json} (hmem : item ∈ items) :
    item.print <:+: printItems items := by
  match items with
  | [only] =>
    obtain rfl := List.mem_singleton.mp hmem
    exact List.infix_rfl
  | first :: second :: more =>
    rw [printItems_cons_cons]
    rcases List.mem_cons.mp hmem with rfl | hlater
    · exact (List.prefix_append _ _).isInfix
    · have hmore : item.print <:+: printItems (second :: more) := infix_printItems hlater
      exact hmore.trans ((List.suffix_cons _ _).trans (List.suffix_append _ _)).isInfix

/-- Members are separated by a comma. -/
theorem printMembers_cons_cons (first second : String × Json) (more : List (String × Json)) :
    printMembers (first :: second :: more) =
      quote first.1.toList ++ ':' :: (first.2.print ++ ',' :: printMembers (second :: more)) := by
  simp [printMembers]

/-- The text of the value of a member is found in the text of the members. -/
theorem infix_printMembers {members : List (String × Json)} {name : String} {value : Json}
    (hmem : (name, value) ∈ members) : value.print <:+: printMembers members := by
  match members with
  | [only] =>
    obtain rfl := List.mem_singleton.mp hmem
    exact ((List.suffix_cons _ _).trans (List.suffix_append _ _)).isInfix
  | first :: second :: more =>
    rw [printMembers_cons_cons]
    apply List.IsInfix.trans _ ((List.suffix_cons _ _).trans (List.suffix_append _ _)).isInfix
    rcases List.mem_cons.mp hmem with rfl | hlater
    · exact (List.prefix_append _ _).isInfix
    · have hmore : value.print <:+: printMembers (second :: more) := infix_printMembers hlater
      exact hmore.trans ((List.suffix_cons _ _).trans (List.suffix_append _ _)).isInfix

/-- The text of a value is found in the text of every value that it occurs in. -/
theorem infix_print_of_occurs {part v : Json} (h : Occurs part v) : part.print <:+: v.print := by
  induction h with
  | self => exact List.infix_rfl
  | item hmem _ ih =>
    rw [print]
    exact (ih.trans (infix_printItems hmem)).trans (List.infix_append ['['] _ [']'])
  | member hmem _ ih =>
    rw [print]
    exact (ih.trans (infix_printMembers hmem)).trans (List.infix_append ['{'] _ ['}'])

/-- A value occurs in an array when it is the array or occurs in an item. -/
theorem occurs_array_iff {part : Json} {items : List Json} :
    Occurs part (.array items) ↔ part = .array items ∨ ∃ item ∈ items, Occurs part item := by
  constructor
  · intro h
    cases h with
    | self => exact .inl rfl
    | item hmem hitem => exact .inr ⟨_, hmem, hitem⟩
  · rintro (rfl | ⟨item, hmem, hitem⟩)
    · exact .self
    · exact .item hmem hitem

/-- Nothing but the string itself occurs in a string. -/
theorem occurs_string_iff {part : Json} {s : String} :
    Occurs part (.string s) ↔ part = .string s := by
  constructor
  · intro h
    cases h
    rfl
  · rintro rfl
    exact .self

/-- Nothing but the truth value itself occurs in a truth value. -/
theorem occurs_bool_iff {part : Json} {b : Bool} : Occurs part (.bool b) ↔ part = .bool b := by
  constructor
  · intro h
    cases h
    rfl
  · rintro rfl
    exact .self

/-- When the text of a list of one word starts within a text, of which the rest stands behind it: a
bracket is followed by the literal of the word and another bracket. -/
def StartsIn (word : String) (text rest : List Char) : Prop :=
  ∃ before after, text = before ++ '[' :: after ∧ quote word.toList ++ [']'] <+: after ++ rest

variable {word : String} {text other rest : List Char}

/-- Nothing starts in the empty text. -/
theorem not_startsIn_nil : ¬ StartsIn word [] rest := by
  rintro ⟨before, after, htext, -⟩
  cases before <;> cases htext

/-- What starts in a text starts at its first character or behind it. -/
theorem startsIn_cons_iff {c : Char} :
    StartsIn word (c :: text) rest ↔
      c = '[' ∧ quote word.toList ++ [']'] <+: text ++ rest ∨ StartsIn word text rest := by
  constructor
  · rintro ⟨before, after, htext, hliteral⟩
    cases before with
    | nil =>
      obtain ⟨rfl, rfl⟩ := List.cons.inj htext
      exact .inl ⟨rfl, hliteral⟩
    | cons d before =>
      obtain ⟨rfl, rfl⟩ := List.cons.inj htext
      exact .inr ⟨before, after, rfl, hliteral⟩
  · rintro (⟨rfl, hliteral⟩ | ⟨before, after, rfl, hliteral⟩)
    · exact ⟨[], text, rfl, hliteral⟩
    · exact ⟨c :: before, after, rfl, hliteral⟩

/-- What starts in two joined texts starts in one of them. -/
theorem startsIn_append_iff :
    StartsIn word (text ++ other) rest ↔
      StartsIn word text (other ++ rest) ∨ StartsIn word other rest := by
  induction text with
  | nil => simp [not_startsIn_nil]
  | cons c text ih =>
    rw [List.cons_append, startsIn_cons_iff, startsIn_cons_iff, ih, List.append_assoc, or_assoc]

/-- What starts in a text starts with a bracket there. -/
theorem bracket_mem_of_startsIn (h : StartsIn word text rest) : '[' ∈ text := by
  obtain ⟨before, after, rfl, -⟩ := h
  simp

/-- Whether a text may stand behind a value in an array: it is empty, or starts with a comma or with
a closing bracket. -/
def endsItem : List Char → Bool
  | [] => true
  | c :: _ => c = ',' || c = ']'

/-- What follows a text decides nothing unless the text is empty. -/
theorem endsItem_append (hne : text ≠ []) (other : List Char) :
    endsItem (text ++ other) = endsItem text := by
  obtain ⟨c, text, rfl⟩ := List.exists_cons_of_ne_nil hne
  rfl

/-- No hexadecimal digit is a bracket. -/
theorem lowerHexDigit_ne_bracket : ∀ n < 16, Text.lowerHexDigit n ≠ '[' := by decide

/-- A character other than the bracket is written without it. -/
theorem bracket_notMem_escapeChar {c : Char} (hc : c ≠ '[') : '[' ∉ escapeChar c := by
  rw [escapeChar]
  split_ifs with hquote hbackslash hb hf hn hr ht hlow
  any_goals decide
  · have hhigh := lowerHexDigit_ne_bracket (c.toNat / 16) (by omega)
    have hrest := lowerHexDigit_ne_bracket (c.toNat % 16) (by omega)
    simp [hhigh.symm, hrest.symm]
  · simpa using hc.symm

/-- A character is not written with a bare quotation mark in front. -/
theorem exists_escapeChar_eq_cons (c : Char) : ∃ d more, escapeChar c = d :: more ∧ d ≠ '"' := by
  rw [escapeChar]
  split_ifs with hquote
  all_goals first | exact ⟨_, _, rfl, hquote⟩ | exact ⟨_, _, rfl, by decide⟩

/-- A bracket within a string is not followed by the literal of a word: there is no bare quotation
mark within the string, and what follows its own closing mark does not start like a word. -/
theorem not_literal_in_string (hword : endsItem (word.toList.flatMap escapeChar ++ ['"']) = false)
    (hrest : endsItem rest = true) (s : List Char) :
    ¬ quote word.toList ++ [']'] <+: s.flatMap escapeChar ++ '"' :: rest := by
  intro h
  rw [quote, List.cons_append] at h
  cases s with
  | nil =>
    obtain ⟨more, rfl⟩ := (List.cons_prefix_cons.mp h).2
    rw [List.append_assoc, endsItem_append (by simp), hword] at hrest
    exact Bool.noConfusion hrest
  | cons c s =>
    obtain ⟨d, more, hd, hne⟩ := exists_escapeChar_eq_cons c
    rw [List.flatMap_cons, hd, List.cons_append, List.cons_append, List.cons_prefix_cons] at h
    exact hne h.1.symm

/-- A list of one word does not start within a string. -/
theorem not_startsIn_quote (hword : endsItem (word.toList.flatMap escapeChar ++ ['"']) = false)
    (hrest : endsItem rest = true) (s : List Char) : ¬ StartsIn word (quote s) rest := by
  have hbody : ¬ StartsIn word (s.flatMap escapeChar ++ ['"']) rest := by
    induction s with
    | nil =>
      intro h
      exact absurd (bracket_mem_of_startsIn h) (by decide)
    | cons c s ih =>
      rw [List.flatMap_cons, List.append_assoc, startsIn_append_iff]
      rintro (h | h)
      · obtain rfl : c = '[' := Decidable.byContradiction fun hc =>
          bracket_notMem_escapeChar hc (bracket_mem_of_startsIn h)
        rcases startsIn_cons_iff.mp h with ⟨-, hliteral⟩ | h
        · rw [List.nil_append, List.append_assoc] at hliteral
          exact not_literal_in_string hword hrest s hliteral
        · exact not_startsIn_nil h
      · exact ih h
  rw [quote, startsIn_cons_iff]
  rintro (⟨hquote, -⟩ | h)
  · exact absurd hquote (by decide)
  · exact hbody h

/-- Literals of strings in front of texts are equal when the strings and the texts are. -/
theorem quote_append_inj {s t : List Char} (h : quote s ++ text = quote t ++ other) :
    s = t ∧ text = other := by
  simp only [quote, List.cons_append, List.append_assoc, List.nil_append, List.cons.injEq,
    true_and] at h
  have hread := congrArg (readString .outside) h
  rw [readString_quoted, readString_quoted, Except.ok.injEq, Prod.mk.injEq] at hread
  exact hread

/-- A value whose text starts with a quotation mark is a string. -/
theorem exists_eq_string {v : Json} (hv : v.isPlain = true) {more : List Char}
    (h : '"' :: more = v.print ++ rest) : ∃ s, v = .string s := by
  cases v with
  | string s => exact ⟨s, rfl⟩
  | bool b => cases b <;> simp [print] at h
  | array items => simp [print] at h
  | null => simp [isPlain] at hv
  | number n => simp [isPlain] at hv
  | object members => simp [isPlain] at hv

/-- Items whose text starts with the literal of a word and ends behind it are that word alone. -/
theorem eq_singleton_of_literal {items : List Json} (hitems : arePlain items = true)
    (h : quote word.toList ++ [']'] <+: printItems items ++ ']' :: rest) :
    items = [.string word] := by
  obtain ⟨after, h⟩ := h
  rw [List.append_assoc, List.singleton_append] at h
  match items with
  | [] => exact absurd (List.cons.inj h).1 (by decide)
  | [item] =>
    rw [arePlain, Bool.and_eq_true] at hitems
    obtain ⟨s, rfl⟩ := exists_eq_string hitems.1 h
    rw [String.toList_inj.mp (quote_append_inj h).1]
  | item :: second :: more =>
    rw [arePlain, Bool.and_eq_true] at hitems
    rw [printItems_cons_cons, List.append_assoc] at h
    obtain ⟨s, rfl⟩ := exists_eq_string hitems.1 h
    exact absurd (List.cons.inj (quote_append_inj h).2).1 (by decide)

mutual

/-- Where the text of a list of one word starts in the text of a value, the list occurs in the
value. -/
theorem occurs_of_startsIn_print
    (hword : endsItem (word.toList.flatMap escapeChar ++ ['"']) = false) :
    ∀ {v : Json}, v.isPlain = true → ∀ {rest : List Char}, endsItem rest = true →
      StartsIn word v.print rest → Occurs (.array [.string word]) v
  | .bool b, _, rest, _, h => by
    have hbracket := bracket_mem_of_startsIn h
    cases b <;> exact absurd hbracket (by decide)
  | .string s, _, rest, hrest, h => absurd h (not_startsIn_quote hword hrest s.toList)
  | .array items, hv, rest, hrest, h => by
    rw [isPlain] at hv
    rw [print, startsIn_cons_iff, startsIn_append_iff] at h
    rcases h with ⟨-, hliteral⟩ | h | h
    · rw [List.append_assoc] at hliteral
      rw [eq_singleton_of_literal hv hliteral]
      exact .self
    · obtain ⟨item, hmem, hitem⟩ := occurs_of_startsIn_printItems hword hv rfl h
      exact .item hmem hitem
    · exact absurd (bracket_mem_of_startsIn h) (by decide)

/-- Where the text of a list of one word starts in the text of some items, the list occurs in one of
them. -/
theorem occurs_of_startsIn_printItems
    (hword : endsItem (word.toList.flatMap escapeChar ++ ['"']) = false) :
    ∀ {items : List Json}, arePlain items = true → ∀ {rest : List Char}, endsItem rest = true →
      StartsIn word (printItems items) rest → ∃ item ∈ items, Occurs (.array [.string word]) item
  | [], _, rest, _, h => absurd h not_startsIn_nil
  | [item], hitems, rest, hrest, h => by
    rw [arePlain, Bool.and_eq_true] at hitems
    exact ⟨item, .head _, occurs_of_startsIn_print hword hitems.1 hrest h⟩
  | item :: second :: more, hitems, rest, hrest, h => by
    rw [arePlain, Bool.and_eq_true] at hitems
    rw [printItems_cons_cons, startsIn_append_iff, startsIn_cons_iff] at h
    rcases h with h | ⟨hcomma, -⟩ | h
    · exact ⟨item, .head _, occurs_of_startsIn_print hword hitems.1 rfl h⟩
    · exact absurd hcomma (by decide)
    · obtain ⟨later, hmem, hlater⟩ := occurs_of_startsIn_printItems hword hitems.2 hrest h
      exact ⟨later, .tail _ hmem, hlater⟩

end

/-- The text of a list of one word is found in the text of a value where the list occurs in the
value, and nowhere else. -/
theorem infix_print_iff_occurs (hword : endsItem (word.toList.flatMap escapeChar ++ ['"']) = false)
    {v : Json} (hv : v.isPlain = true) :
    (array [string word]).print <:+: v.print ↔ Occurs (array [string word]) v := by
  constructor
  · rintro ⟨before, after, h⟩
    have hstart : StartsIn word v.print [] := by
      refine ⟨before, quote word.toList ++ [']'] ++ after, ?_, ?_⟩
      · rw [← h]
        simp [print, printItems]
      · rw [List.append_nil]
        exact List.prefix_append _ _
    exact occurs_of_startsIn_print hword hv rfl hstart
  · exact infix_print_of_occurs

end InventoryQuery.Json
