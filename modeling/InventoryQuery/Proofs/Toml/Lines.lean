import InventoryQuery.Proofs.Keyed
import InventoryQuery.Proofs.Toml.Strings
import InventoryQuery.Proofs.Toml.ValueLocality
import Mathlib.Data.List.Forall2

/-!
# Reading back TOML tables

A text of lines, each a bare key and the literal of an item, is read as the table of these keys and
items in the order of the lines, provided that no key occurs twice. The literals that the writer
makes are such literals, and so is every text that is a value as a whole. The order of the lines
does not matter to what is found in the table.
-/

namespace InventoryQuery.Toml

/-- A text is the literal of an item: with enough fuel, the reader takes in just the text in front
of the end of a line. -/
def IsLiteral (item : Item) (literal : List Char) : Prop :=
  ∀ (fuel : Nat) (rest : List Char), 2 * literal.length + 2 ≤ fuel →
    readValue fuel nestingLimit (literal ++ '\n' :: rest) = some (item, '\n' :: rest)

/-- The literal of a string starts with one of the two marks. -/
theorem exists_stringLiteral_eq_cons (value : List Char) :
    ∃ mark text, stringLiteral value = mark :: text ∧ (mark = '"' ∨ mark = '\'') := by
  rw [stringLiteral]
  cases formOf value with
  | basic => exact ⟨_, _, rfl, .inl rfl⟩
  | literal => exact ⟨_, _, rfl, .inr rfl⟩
  | basicLines => exact ⟨_, _, rfl, .inl rfl⟩
  | literalLines => exact ⟨_, _, rfl, .inr rfl⟩

/-- A string is read back as a value. -/
theorem readScalar_stringLiteral (value : String) (rest : List Char) :
    readScalar (stringLiteral value.toList ++ '\n' :: rest) =
      some (.string value, '\n' :: rest) := by
  have hread := readString_stringLiteral value.toList rest
  obtain ⟨mark, text, hliteral, hmark⟩ := exists_stringLiteral_eq_cons value.toList
  rw [hliteral, List.cons_append] at hread ⊢
  have hquoted : (mark = '"' || mark = '\'') = true := by simpa using hmark
  rw [readScalar, if_pos hquoted, hread]
  simp

/-- A natural number is read back as a value. -/
theorem readScalar_decimalDigits {value : Nat} (hvalue : value ≤ maxInteger) (rest : List Char) :
    readScalar (decimalDigits value ++ '\n' :: rest) =
      some (.integer value, '\n' :: rest) := by
  have hread := readNumberOrMoment_decimalDigits hvalue rest
  obtain ⟨first, others, hdecimal, hdigits, -⟩ := exists_decimalDigits_eq_cons value
  have hfirst := hdigits first List.mem_cons_self
  have hquoted : ¬ (first = '"' || first = '\'') = true := by
    simp [ne_of_class (d := '"') hfirst rfl, ne_of_class (d := '\'') hfirst rfl]
  have hword : ¬ (first = 'i' || first = 'n') = true := by
    simp [ne_of_class (d := 'i') hfirst rfl, ne_of_class (d := 'n') hfirst rfl]
  have hnumber : (first = '+' || first = '-' || first.isDigit) = true := by simp [hfirst]
  rw [hdecimal, List.cons_append] at hread ⊢
  rw [readScalar, if_neg hquoted, if_neg (ne_of_class hfirst rfl), if_neg (ne_of_class hfirst rfl),
    if_neg hword, if_pos hnumber, hread]

/-- A text that starts with no bracket and no brace is read as a value without parts. -/
theorem readValue_eq_readScalar {c : Char} (hbracket : c ≠ '[') (hbrace : c ≠ '\x7b')
    (fuel depth : Nat) (text : List Char) :
    readValue (fuel + 1) depth (c :: text) = readScalar (c :: text) := by
  rw [readValue]
  · exact fun rest h => hbracket (List.cons.inj h).1
  · exact fun rest h => hbrace (List.cons.inj h).1

/-- The literal that the writer makes of a string is its literal. -/
theorem isLiteral_string (value : String) :
    IsLiteral (.string value) (stringLiteral value.toList) := by
  intro fuel rest hfuel
  have hscalar := readScalar_stringLiteral value rest
  obtain ⟨fuel, rfl⟩ := Nat.exists_eq_add_one_of_ne_zero (Nat.ne_zero_of_lt hfuel)
  obtain ⟨mark, text, hliteral, hmark⟩ := exists_stringLiteral_eq_cons value.toList
  have hquoted : mark ≠ '[' ∧ mark ≠ '\x7b' := by rcases hmark with rfl | rfl <;> decide
  rw [hliteral, List.cons_append] at hscalar ⊢
  rw [readValue_eq_readScalar hquoted.1 hquoted.2, hscalar]

/-- The decimal digits of a natural number that is not too great are its literal. -/
theorem isLiteral_natural {value : Nat} (hvalue : value ≤ maxInteger) :
    IsLiteral (.integer value) (decimalDigits value) := by
  intro fuel rest hfuel
  have hscalar := readScalar_decimalDigits hvalue rest
  obtain ⟨fuel, rfl⟩ := Nat.exists_eq_add_one_of_ne_zero (Nat.ne_zero_of_lt hfuel)
  obtain ⟨first, others, hdecimal, hdigits, -⟩ := exists_decimalDigits_eq_cons value
  have hfirst := hdigits first List.mem_cons_self
  rw [hdecimal, List.cons_append] at hscalar ⊢
  rw [readValue_eq_readScalar (ne_of_class hfirst rfl) (ne_of_class hfirst rfl), hscalar]

/-- The item that a text is as a whole, if it is one. -/
def itemOf? (literal : List Char) : Option Item :=
  match readValue (2 * literal.length + 2) nestingLimit literal with
  | some (item, []) => some item
  | _ => none

/-- A text that is an item as a whole is its literal. -/
theorem isLiteral_of_itemOf? {literal : List Char} {item : Item} (h : itemOf? literal = some item) :
    IsLiteral item literal := by
  intro fuel rest hfuel
  rw [itemOf?] at h
  split at h
  · next hread =>
    obtain rfl := Option.some.inj h
    exact readValue_append_break rest hfuel hread
  · exact absurd h (by simp)

/-- A key that needs no quotation marks. -/
structure IsBare (key : String) : Prop where
  ne_empty : key ≠ ""
  isKeyChar_of_mem : ∀ c ∈ key.toList, isKeyChar c = true

/-- Whether a key needs quotation marks is seen from its characters. -/
instance (key : String) : Decidable (IsBare key) :=
  decidable_of_iff (key ≠ "" ∧ key.toList.all isKeyChar = true)
    ⟨fun h => ⟨h.1, List.all_eq_true.mp h.2⟩,
      fun h => ⟨h.ne_empty, List.all_eq_true.mpr h.isKeyChar_of_mem⟩⟩

/-- The white space in front of a text that starts with none is nothing. -/
theorem skipSpace_cons {c : Char} (hc : isSpace c = false) (text : List Char) :
    skipSpace (c :: text) = c :: text := by
  rw [skipSpace, List.dropWhile_cons_of_neg (by simp [hc])]

/-- A bare key starts with a character that starts nothing else on a line. -/
theorem IsBare.exists_eq_cons {key : String} (hkey : IsBare key) :
    ∃ first others, key.toList = first :: others ∧ isKeyChar first = true ∧
      isSpace first = false := by
  obtain ⟨first, others, hchars⟩ : ∃ first others, key.toList = first :: others :=
    List.exists_cons_of_ne_nil fun h => hkey.ne_empty (String.toList_eq_nil_iff.mp h)
  have hfirst := hkey.isKeyChar_of_mem first (hchars ▸ List.mem_cons_self)
  refine ⟨first, others, hchars, hfirst, ?_⟩
  simp [isSpace, ne_of_class (d := ' ') hfirst rfl, ne_of_class (d := '\t') hfirst rfl]

/-- A bare key is read back in front of a space. -/
theorem IsBare.readKeyPart_append {key : String} (hkey : IsBare key) (rest : List Char) :
    readKeyPart (key.toList ++ ' ' :: rest) = some (key, ' ' :: rest) := by
  obtain ⟨first, others, hchars, hfirst, -⟩ := hkey.exists_eq_cons
  have hstop : isKeyChar ' ' = false := by decide
  have htake : (key.toList ++ ' ' :: rest).takeWhile isKeyChar = key.toList := by
    rw [List.takeWhile_append_of_pos hkey.isKeyChar_of_mem,
      List.takeWhile_cons_of_neg (by simp [hstop]), List.append_nil]
  have hdrop : (key.toList ++ ' ' :: rest).dropWhile isKeyChar = ' ' :: rest := by
    rw [List.dropWhile_append_of_pos hkey.isKeyChar_of_mem,
      List.dropWhile_cons_of_neg (by simp [hstop])]
  rw [readKeyPart]
  · have hsome : ¬ key.toList.isEmpty = true := by simp [hchars]
    rw [htake, hdrop, if_neg hsome, String.ofList_toList]
  · intro text h
    rw [hchars] at h
    exact ne_of_class hfirst rfl (List.cons.inj h).1
  · intro text h
    rw [hchars] at h
    exact ne_of_class hfirst rfl (List.cons.inj h).1

/-- A bare key is read back in front of an equals sign. -/
theorem IsBare.readKey_append {key : String} (hkey : IsBare key) (rest : List Char) :
    readKey (key.toList ++ ' ' :: '=' :: rest) = some (⟨[], key⟩, '=' :: rest) := by
  have hpart := hkey.readKeyPart_append ('=' :: rest)
  obtain ⟨first, others, hchars, -, hspace⟩ := hkey.exists_eq_cons
  rw [hchars, List.cons_append] at hpart ⊢
  rw [readKey, nestingLimit, readKeyParts, skipSpace_cons hspace, hpart]
  rfl

/-- The text of some lines, each a key and a literal. -/
def textOf (lines : List (String × List Char)) : List Char :=
  lines.flatMap fun pair => line pair.1.toList pair.2

/-- A line gives an entry: its key, which needs no quotation marks, and the item of its literal. -/
structure Gives (pair : String × List Char) (entry : String × Item) : Prop where
  key_eq : pair.1 = entry.1
  isBare : IsBare pair.1
  isLiteral : IsLiteral entry.2 pair.2

/-- Some lines give some entries in their order. -/
abbrev Assigns (lines : List (String × List Char)) (entries : Entries) : Prop :=
  List.Forall₂ Gives lines entries

/-- The entries have the keys of the lines. -/
theorem Assigns.keys_eq {lines : List (String × List Char)} {entries : Entries}
    (h : Assigns lines entries) : lines.map Prod.fst = entries.map Prod.fst := by
  induction h with
  | nil => rfl
  | cons hgives hrest ih => rw [List.map_cons, List.map_cons, hgives.key_eq, ih]

/-- The statement that assigns an item to a key. -/
def assignment (entry : String × Item) : Statement := .pair ⟨[], entry.1⟩ entry.2

/-- A line that gives an entry is read as its assignment. -/
theorem Gives.readPair_eq {pair : String × List Char} {entry : String × Item}
    (h : Gives pair entry) (rest : List Char) :
    readPair (line pair.1.toList pair.2 ++ rest) = some (assignment entry, rest) := by
  have hline : line pair.1.toList pair.2 ++ rest =
      pair.1.toList ++ ' ' :: '=' :: ' ' :: (pair.2 ++ '\n' :: rest) := by
    simp [line]
  have hvalue := h.isLiteral _ rest (Nat.le_refl _)
  obtain ⟨first, others, hfirst, -, hspace⟩ := exists_cons_of_readValue hvalue
  have hskip : skipSpace (' ' :: (pair.2 ++ '\n' :: rest)) = pair.2 ++ '\n' :: rest := by
    rw [hfirst]
    exact skipSpace_cons hspace others
  rw [hline, readPair, h.isBare.readKey_append, assignment, ← h.key_eq]
  refine Option.bind_eq_some_iff.mpr ⟨_, rfl, Option.bind_eq_some_iff.mpr ⟨_, rfl, ?_⟩⟩
  rw [hskip]
  refine Option.bind_eq_some_iff.mpr ⟨_, h.isLiteral _ rest ?_, rfl⟩
  simp only [List.length_cons, List.length_append]
  omega

/-- Lines that give entries are read as their assignments. -/
theorem Assigns.readLines_eq {lines : List (String × List Char)} {entries : Entries}
    (h : Assigns lines entries) {fuel : Nat} (hfuel : entries.length < fuel) :
    readLines fuel (textOf lines) = some (entries.map assignment) := by
  induction h generalizing fuel with
  | nil =>
    obtain ⟨fuel, rfl⟩ := Nat.exists_eq_add_of_lt hfuel
    rfl
  | @cons pair entry lines entries hgives hrest ih =>
    obtain ⟨fuel, rfl⟩ : ∃ more, fuel = more + 1 :=
      Nat.exists_eq_add_one_of_ne_zero (Nat.ne_zero_of_lt hfuel)
    have hpair := hgives.readPair_eq (textOf lines)
    have hlines := ih (Nat.lt_of_succ_lt_succ hfuel)
    obtain ⟨first, others, hchars, hfirst, hspace⟩ := hgives.isBare.exists_eq_cons
    have htext : textOf (pair :: lines) = line pair.1.toList pair.2 ++ textOf lines := rfl
    obtain ⟨more, hmore⟩ : ∃ more, line pair.1.toList pair.2 ++ textOf lines = first :: more := by
      rw [line, hchars]
      exact ⟨_, rfl⟩
    have hmarks : ¬ (first = '#' || first = '\n' || first = '\r') = true := by
      simp [ne_of_class (d := '#') hfirst rfl, ne_of_class (d := '\n') hfirst rfl,
        ne_of_class (d := '\r') hfirst rfl]
    rw [hmore] at hpair
    rw [htext, hmore, readLines, skipSpace_cons hspace]
    split
    · next heq => exact absurd heq (List.cons_ne_nil _ _)
    · next heq => exact absurd (List.cons.inj heq).1 (ne_of_class hfirst rfl)
    · next heq =>
      obtain ⟨rfl, rfl⟩ := List.cons.inj heq
      rw [if_neg hmarks, hpair]
      exact Option.bind_eq_some_iff.mpr ⟨_, rfl, Option.bind_eq_some_iff.mpr ⟨_, hlines, rfl⟩⟩

/-- A key that is not among those of some entries has no item there. -/
theorem Entries.find?_eq_none {entries : Entries} {key : String}
    (hkey : key ∉ entries.map Prod.fst) : entries.find? key = none := by
  induction entries with
  | nil => rfl
  | cons entry entries ih =>
    have hhead : key ≠ entry.1 := List.ne_of_not_mem_cons hkey
    rw [Entries.find?, if_neg hhead.symm, ih (List.not_mem_of_not_mem_cons hkey)]

/-- Assignments to keys that are all new are added at the end. -/
theorem foldlM_assignment {done entries : Entries}
    (hdistinct : ((done ++ entries).map Prod.fst).Nodup) :
    (entries.map assignment).foldlM Document.add ⟨done, []⟩ = some ⟨done ++ entries, []⟩ := by
  induction entries generalizing done with
  | nil => rw [List.append_nil]; rfl
  | cons entry entries ih =>
    obtain ⟨key, item⟩ := entry
    have hsplit : done ++ (key, item) :: entries = (done ++ [(key, item)]) ++ entries := by simp
    have hnew : Entries.find? key done = none := by
      refine Entries.find?_eq_none fun hmem => ?_
      rw [List.map_append, List.nodup_append] at hdistinct
      exact hdistinct.2.2 key hmem key List.mem_cons_self rfl
    have hadd : Document.add ⟨done, []⟩ (assignment (key, item)) =
        some ⟨done ++ [(key, item)], []⟩ := by
      simp [Document.add, assignment, Entries.within, Entries.insertDotted, hnew]
    rw [hsplit] at hdistinct ⊢
    rw [List.map_cons, List.foldlM_cons, hadd]
    exact ih hdistinct

/-- There is at least one character for each entry. -/
theorem Assigns.length_le {lines : List (String × List Char)} {entries : Entries}
    (h : Assigns lines entries) : entries.length ≤ (textOf lines).length := by
  induction h with
  | nil => exact Nat.le_refl 0
  | cons hgives hrest ih =>
    simp only [textOf, line, List.flatMap_cons, List.length_cons, List.length_append] at ih ⊢
    omega

/-- Lines that give entries have no byte order mark. -/
theorem Assigns.dropByteOrderMark_eq {lines : List (String × List Char)} {entries : Entries}
    (h : Assigns lines entries) : dropByteOrderMark (textOf lines) = textOf lines := by
  cases h with
  | nil => rfl
  | cons hgives hrest =>
    obtain ⟨first, others, hchars, hfirst, -⟩ := hgives.isBare.exists_eq_cons
    have hmark : ¬ first.toNat = 0xfeff := by
      intro hcode
      have hbyteOrder : first = Char.ofNat 0xfeff := by rw [← hcode, Char.ofNat_toNat]
      exact ne_of_class hfirst (by decide) hbyteOrder
    rw [textOf, List.flatMap_cons, line, hchars]
    exact if_neg hmark

/-- Lines that give entries with distinct keys are read as their table. -/
theorem Assigns.parse?_eq {lines : List (String × List Char)} {entries : Entries}
    (h : Assigns lines entries) (hdistinct : (entries.map Prod.fst).Nodup) :
    parse? (String.ofList (textOf lines)) = some entries := by
  have hlines := h.readLines_eq (Nat.lt_succ_of_le h.length_le)
  have hentries : entriesOf (entries.map assignment) = some entries := by
    rw [entriesOf, foldlM_assignment (by simpa using hdistinct)]
    rfl
  rw [parse?, String.toList_ofList, h.dropByteOrderMark_eq, hlines]
  exact hentries

/-- Entries are looked up as in any list of pairs. -/
theorem Entries.find?_eq_find? (key : String) (entries : Entries) :
    entries.find? key = Keyed.find? key entries := by
  induction entries with
  | nil => rfl
  | cons entry entries ih => rw [Entries.find?, Keyed.find?, ih]

/-- In whatever order lines with distinct keys stand, they are read as a table in which the same
items are found. -/
theorem Assigns.exists_parse?_of_perm {lines ordered : List (String × List Char)}
    {entries : Entries} (h : Assigns lines entries) (hdistinct : (entries.map Prod.fst).Nodup)
    (horder : ordered.Perm lines) :
    ∃ table, parse? (String.ofList (textOf ordered)) = some table ∧
      ∀ key, table.find? key = entries.find? key := by
  obtain ⟨table, hassigns, hperm⟩ : ∃ table, Assigns ordered table ∧ table.Perm entries :=
    List.perm_comp_forall₂ horder h
  refine ⟨table, hassigns.parse?_eq ((hperm.map Prod.fst).symm.nodup hdistinct), fun key => ?_⟩
  rw [Entries.find?_eq_find?, Entries.find?_eq_find?]
  exact (Keyed.find?_perm hperm.symm hdistinct).symm

end InventoryQuery.Toml
