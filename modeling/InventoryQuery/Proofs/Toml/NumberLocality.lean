import InventoryQuery.Proofs.Toml.Integers
import InventoryQuery.Toml.Scalar
import Mathlib.Tactic.SplitIfs

/-!
# Numbers in front of a line break

A number or a point in time is read in the same way whether the text ends behind it or a line breaks
there: no reader of one takes in a line break. That has to hold of failures too, because the readers
are tried one after the other.
-/

namespace InventoryQuery.Toml

/-- What has been read, with a line break and more text behind the text after it. -/
abbrev withMore {α : Type} (more : List Char) (read : α × List Char) : α × List Char :=
  (read.1, read.2 ++ '\n' :: more)

/-- A step after a changed result changes what the step after the result itself gives, if it does so
for every result. -/
theorem bind_map_eq_map_bind {α β γ δ : Type} {read : Option α} {change : α → β}
    {next : α → Option γ} {next' : β → Option δ} {changed : γ → δ}
    (h : ∀ value, next' (change value) = (next value).map changed) :
    (read.map change).bind next' = (read.bind next).map changed := by
  cases read with
  | none => rfl
  | some value => exact h value

section

variable (more : List Char)

/-- A word at the front that has no line break is there without the break and the text behind. -/
theorem exists_eq_append_of_append_break {text word rest : List Char} (hword : '\n' ∉ word)
    (h : text ++ '\n' :: more = word ++ rest) :
    ∃ left, text = word ++ left ∧ rest = left ++ '\n' :: more := by
  rcases List.append_eq_append_iff.mp h with ⟨left, hlong, hrest⟩ | ⟨left, hshort, hrest⟩
  · cases left with
    | nil => exact ⟨[], by simpa using hlong.symm, by simpa using hrest.symm⟩
    | cons c left =>
      obtain ⟨rfl, -⟩ := List.cons.inj hrest
      exact absurd (by simp [hlong]) hword
  · exact ⟨left, hshort, hrest⟩

/-- Characters of a class without the line break are taken in up to it. -/
theorem takeWhile_append_break {p : Char → Bool} (hp : p '\n' = false) (text : List Char) :
    (text ++ '\n' :: more).takeWhile p = text.takeWhile p := by
  induction text with
  | nil => simp [hp]
  | cons c rest ih => simp only [List.cons_append, List.takeWhile_cons, ih]

/-- Dropping characters of a class without the line break leaves it. -/
theorem dropWhile_append_break {p : Char → Bool} (hp : p '\n' = false) (text : List Char) :
    (text ++ '\n' :: more).dropWhile p = text.dropWhile p ++ '\n' :: more := by
  induction text with
  | nil => simp [hp]
  | cons c rest ih =>
    simp only [List.cons_append, List.dropWhile_cons, ih]
    split_ifs <;> rfl

/-- A group of digits goes on no further than the line. -/
theorem readMoreDigits_append_break (base : Nat) (text : List Char) :
    readMoreDigits base (text ++ '\n' :: more) =
      (readMoreDigits base text).map (withMore more) := by
  have hmark : isDigitOf base '_' = false := rfl
  induction text using readMoreDigits.induct base with
  | case1 => rfl
  | case2 d rest hd ih =>
    simp [readMoreDigits, hd, ih, withMore, Function.comp_def]
  | case3 d rest hd => simp [readMoreDigits, hd]
  | case4 c rest hgroup hc ih =>
    have hne : c ≠ '_' := ne_of_class hc hmark
    simp [readMoreDigits, hne, hc, ih, withMore, Function.comp_def]
  | case5 rest hgroup hc =>
    obtain rfl : rest = [] := by
      cases rest with
      | nil => rfl
      | cons d rest => exact absurd rfl fun h => hgroup d rest rfl h
    rfl
  | case6 c rest hgroup hc hne =>
    simp [readMoreDigits, hne, hc, withMore]

/-- A group of digits is read up to the end of the line. -/
theorem readDigits_append_break (base : Nat) (text : List Char) :
    readDigits base (text ++ '\n' :: more) = (readDigits base text).map (withMore more) := by
  cases text with
  | nil => rfl
  | cons c rest =>
    simp only [List.cons_append, readDigits, readMoreDigits_append_break]
    split_ifs
    · simp [withMore, Function.comp_def]
    · rfl

/-- A sign is read in front of a line break. -/
theorem readSign_append_break (text : List Char) :
    readSign (text ++ '\n' :: more) = withMore more (readSign text) := by
  cases text with
  | nil => rfl
  | cons c rest =>
    by_cases hplus : c = '+'
    · subst hplus
      rfl
    by_cases hminus : c = '-'
    · subst hminus
      rfl
    simp [readSign, hplus, hminus, withMore]

/-- A decimal integer is read up to the end of the line. -/
theorem readWhole_append_break (text : List Char) :
    readWhole (text ++ '\n' :: more) = (readWhole text).map (withMore more) := by
  cases text with
  | nil => rfl
  | cons c rest =>
    by_cases hzero : c = '0'
    · subst hzero
      rfl
    have hdigits := readDigits_append_break more 10 (c :: rest)
    rw [List.cons_append] at hdigits
    simp [readWhole, hzero, hdigits]

/-- A fraction is read up to the end of the line. -/
theorem readFraction_append_break (text : List Char) :
    readFraction (text ++ '\n' :: more) = (readFraction text).map (withMore more) := by
  cases text with
  | nil => rfl
  | cons c rest =>
    by_cases hpoint : c = '.'
    · subst hpoint
      simp [readFraction, readDigits_append_break, withMore, Function.comp_def]
    simp [readFraction, hpoint, withMore]

/-- An exponent is read up to the end of the line. -/
theorem readExponent_append_break (text : List Char) :
    readExponent (text ++ '\n' :: more) = (readExponent text).map (withMore more) := by
  cases text with
  | nil => rfl
  | cons c rest =>
    simp only [List.cons_append, readExponent, readSign_append_break]
    by_cases hmark : (c = 'e' || c = 'E') = true
    · rw [if_pos hmark, if_pos hmark, readDigits_append_break]
      exact bind_map_eq_map_bind fun digits => rfl
    · rw [if_neg hmark, if_neg hmark]
      rfl

/-- An integer is read up to the end of the line. -/
theorem readInteger_append_break (text : List Char) :
    readInteger (text ++ '\n' :: more) = (readInteger text).map (withMore more) := by
  have hitem (value : Int) (rest : List Char) :
      ((integer? value).bind fun item => some (item, rest ++ '\n' :: more)) =
        ((integer? value).bind fun item => some (item, rest)).map (withMore more) := by
    cases integer? value <;> rfl
  have hbase (base : Nat) (text : List Char) :
      ((readDigits base (text ++ '\n' :: more)).bind fun read =>
          (integer? (numberOf base read.1)).bind fun item => some (item, read.2)) =
        ((readDigits base text).bind fun read =>
          (integer? (numberOf base read.1)).bind fun item => some (item, read.2)).map
            (withMore more) := by
    rw [readDigits_append_break]
    exact bind_map_eq_map_bind fun read => hitem _ read.2
  by_cases hhex : ∃ left, text = ['0', 'x'] ++ left
  · obtain ⟨left, rfl⟩ := hhex
    exact hbase 16 left
  by_cases hoctal : ∃ left, text = ['0', 'o'] ++ left
  · obtain ⟨left, rfl⟩ := hoctal
    exact hbase 8 left
  by_cases hbinary : ∃ left, text = ['0', 'b'] ++ left
  · obtain ⟨left, rfl⟩ := hbinary
    exact hbase 2 left
  have hplain {mark : Char} (hmark : mark ≠ '\n') (h : ¬ ∃ left, text = ['0', mark] ++ left) :
      ¬ ∃ left, text ++ '\n' :: more = ['0', mark] ++ left := by
    rintro ⟨left, hleft⟩
    obtain ⟨rest, hrest, -⟩ :=
      exists_eq_append_of_append_break more (by simpa using hmark.symm) hleft
    exact h ⟨rest, hrest⟩
  rw [readInteger, readInteger, readSign_append_break]
  · simp only [readWhole_append_break]
    exact bind_map_eq_map_bind fun read => hitem _ read.2
  · exact fun left h => hhex ⟨left, h⟩
  · exact fun left h => hoctal ⟨left, h⟩
  · exact fun left h => hbinary ⟨left, h⟩
  · exact fun left h => hplain (by decide) hhex ⟨left, h⟩
  · exact fun left h => hplain (by decide) hoctal ⟨left, h⟩
  · exact fun left h => hplain (by decide) hbinary ⟨left, h⟩

/-- What comes before the rest of a text is the same with more text behind both. -/
theorem consumed_append_break (text rest : List Char) :
    consumed (text ++ '\n' :: more) (rest ++ '\n' :: more) = consumed text rest := by
  have hlength : (text ++ '\n' :: more).length - (rest ++ '\n' :: more).length =
      text.length - rest.length := by
    simp only [List.length_append, List.length_cons]
    omega
  rw [consumed, consumed, hlength, List.take_append_of_le_length (Nat.sub_le _ _)]

/-- A number with a fraction or an exponent is read up to the end of the line. -/
theorem readFloat_append_break (text : List Char) :
    readFloat (text ++ '\n' :: more) = (readFloat text).map (withMore more) := by
  simp only [readFloat, readSign_append_break]
  generalize readSign text = sign
  obtain ⟨negative, unsigned⟩ := sign
  simp only
  by_cases hinf : ∃ left, unsigned = ['i', 'n', 'f'] ++ left
  · obtain ⟨left, rfl⟩ := hinf
    simp [consumed_append_break]
  by_cases hnan : ∃ left, unsigned = ['n', 'a', 'n'] ++ left
  · obtain ⟨left, rfl⟩ := hnan
    simp [consumed_append_break]
  split
  · next h =>
    obtain ⟨left, hleft, -⟩ :=
      exists_eq_append_of_append_break more (by decide : '\n' ∉ ['i', 'n', 'f']) h
    exact absurd ⟨left, hleft⟩ hinf
  · next h =>
    obtain ⟨left, hleft, -⟩ :=
      exists_eq_append_of_append_break more (by decide : '\n' ∉ ['n', 'a', 'n']) h
    exact absurd ⟨left, hleft⟩ hnan
  · split
    · exact absurd ⟨_, rfl⟩ hinf
    · exact absurd ⟨_, rfl⟩ hnan
    · rw [readWhole_append_break]
      refine bind_map_eq_map_bind fun whole => ?_
      rw [readFraction_append_break]
      refine bind_map_eq_map_bind fun fraction => ?_
      rw [readExponent_append_break]
      refine bind_map_eq_map_bind fun exponent => ?_
      simp only [consumed_append_break]
      split_ifs <;> rfl

/-- A number of a fixed count of digits does not go on to the next line. -/
theorem readFixed_append_break (count : Nat) (text : List Char) :
    readFixed count (text ++ '\n' :: more) = (readFixed count text).map (withMore more) := by
  rcases Nat.lt_or_ge text.length count with hshort | hlong
  · have hfew : readFixed count text = none := by
      rw [readFixed, if_neg]
      simp [List.take_of_length_le (Nat.le_of_lt hshort), Nat.ne_of_lt hshort]
    obtain ⟨left, hleft⟩ := Nat.exists_eq_add_of_lt hshort
    rw [hfew, readFixed, if_neg]
    · rfl
    · have htake : (text ++ '\n' :: more).take count = text ++ '\n' :: more.take left := by
        have hbehind : count - text.length = left + 1 := by omega
        rw [List.take_append, List.take_of_length_le (Nat.le_of_lt hshort), hbehind]
        rfl
      rw [htake]
      simp
  · simp only [readFixed, List.take_append_of_le_length hlong, List.drop_append_of_le_length hlong]
    split_ifs <;> rfl

/-- A mark other than a line break is found before it. -/
theorem after?_append_break {mark : Char} (hmark : mark ≠ '\n') (text : List Char) :
    after? mark (text ++ '\n' :: more) = (after? mark text).map (· ++ '\n' :: more) := by
  cases text with
  | nil => exact if_neg hmark.symm
  | cons c rest =>
    simp only [List.cons_append, after?]
    split_ifs <;> rfl

/-- A date ends on its line. -/
theorem afterDate?_append_break (text : List Char) :
    afterDate? (text ++ '\n' :: more) = (afterDate? text).map (· ++ '\n' :: more) := by
  have hafter (text : List Char) := after?_append_break more (show '-' ≠ '\n' by decide) text
  rw [afterDate?, afterDate?, readFixed_append_break]
  refine bind_map_eq_map_bind ?_
  rintro ⟨_, _⟩
  simp only [hafter]
  refine bind_map_eq_map_bind fun _ => ?_
  rw [readFixed_append_break]
  refine bind_map_eq_map_bind ?_
  rintro ⟨_, _⟩
  simp only [hafter]
  refine bind_map_eq_map_bind fun _ => ?_
  rw [readFixed_append_break]
  refine bind_map_eq_map_bind ?_
  rintro ⟨_, _⟩
  simp only
  split_ifs <;> rfl

/-- An hour and a minute end on their line. -/
theorem afterHourMinute?_append_break (text : List Char) :
    afterHourMinute? (text ++ '\n' :: more) =
      (afterHourMinute? text).map (· ++ '\n' :: more) := by
  rw [afterHourMinute?, afterHourMinute?, readFixed_append_break]
  refine bind_map_eq_map_bind ?_
  rintro ⟨_, _⟩
  simp only [after?_append_break more (show ':' ≠ '\n' by decide)]
  refine bind_map_eq_map_bind fun _ => ?_
  rw [readFixed_append_break]
  refine bind_map_eq_map_bind ?_
  rintro ⟨_, _⟩
  simp only
  split_ifs <;> rfl

/-- A time of day ends on its line. -/
theorem afterTime?_append_break (text : List Char) :
    afterTime? (text ++ '\n' :: more) = (afterTime? text).map (· ++ '\n' :: more) := by
  rw [afterTime?, afterTime?, afterHourMinute?_append_break]
  refine bind_map_eq_map_bind fun _ => ?_
  rw [after?_append_break more (by decide)]
  refine bind_map_eq_map_bind fun _ => ?_
  rw [readFixed_append_break]
  refine bind_map_eq_map_bind ?_
  rintro ⟨second, rest⟩
  simp only
  by_cases hlate : second > 60
  · rw [if_pos hlate, if_pos hlate]
    rfl
  rw [if_neg hlate, if_neg hlate]
  cases rest with
  | nil => rfl
  | cons c rest =>
    by_cases hpoint : c = '.'
    · subst hpoint
      have hbreak : Char.isDigit '\n' = false := rfl
      simp only [List.cons_append, takeWhile_append_break more hbreak,
        dropWhile_append_break more hbreak]
      split_ifs <;> rfl
    · simp [hpoint]

/-- An offset ends on its line. -/
theorem afterOffset?_append_break (text : List Char) :
    afterOffset? (text ++ '\n' :: more) = (afterOffset? text).map (· ++ '\n' :: more) := by
  cases text with
  | nil => rfl
  | cons c rest =>
    simp only [List.cons_append, afterOffset?, afterHourMinute?_append_break]
    split_ifs <;> rfl

/-- A point in time is read up to the end of the line. -/
theorem readMoment_append_break (text : List Char) :
    readMoment (text ++ '\n' :: more) = (readMoment text).map (withMore more) := by
  simp only [readMoment, afterDate?_append_break, afterTime?_append_break]
  cases afterDate? text with
  | none =>
    cases afterTime? text with
    | none => rfl
    | some rest => simp [consumed_append_break]
  | some rest =>
    cases rest with
    | nil => simpa using consumed_append_break more text []
    | cons c clock =>
      have hdate := consumed_append_break more text (c :: clock)
      rw [List.cons_append] at hdate
      simp only [Option.map_some, List.cons_append, afterTime?_append_break, hdate]
      by_cases hclock : (c = 'T' || c = 't' || c = ' ') = true
      · rw [if_pos hclock, if_pos hclock]
        cases afterTime? clock with
        | none => rfl
        | some rest =>
          simp only [Option.map_some, afterOffset?_append_break]
          cases afterOffset? rest with
          | none => rfl
          | some rest => simp [consumed_append_break]
      · rw [if_neg hclock, if_neg hclock]
        rfl

/-- A number or a point in time is read up to the end of the line. -/
theorem readNumberOrMoment_append_break (text : List Char) :
    readNumberOrMoment (text ++ '\n' :: more) =
      (readNumberOrMoment text).map (withMore more) := by
  rw [readNumberOrMoment, readNumberOrMoment, readMoment_append_break, readFloat_append_break,
    readInteger_append_break]
  cases readMoment text with
  | some moment => rfl
  | none => cases readFloat text <;> rfl

end

end InventoryQuery.Toml
