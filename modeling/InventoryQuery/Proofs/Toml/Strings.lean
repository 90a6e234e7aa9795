import InventoryQuery.Toml.Text
import InventoryQuery.Toml.Writer
import Mathlib.Tactic.SplitIfs

/-!
# Reading back TOML strings

Every string is read back from its literal, whatever form the literal has. The two readers of
strings with escapes differ in what may stand on several lines but agree on single characters, so
what one character is read back from is shown once for both. In the forms of several lines a run of
marks is counted as it is read, and the writer sees to it that no run gets too long before the end.
-/

namespace InventoryQuery.Toml

/-- A reader of strings with escapes goes on by a function for the next character, except at the
closing mark and at a carriage return. -/
structure StepsBy (next : Char → Escape → Option (Option Char × Escape))
    (read : Escape → List Char → Option (List Char × List Char)) : Prop where
  next_plain : ∀ {c}, isLineChar c = true → c ≠ '\\' →
    next c .outside = some (some c, .outside)
  next_backslash : next '\\' .outside = some (none, .started)
  next_started : ∀ {c}, c ≠ ' ' → c ≠ '\t' → c ≠ '\n' → next c .started = startEscape c
  next_code : ∀ {c needed value}, next c (.code needed value) = takeCodeDigit needed value c
  read_cons : ∀ {escape following : Escape} {c : Char} {produced : Option Char}
    {text value rest : List Char}, c ≠ '\r' →
      (c ≠ '"' ∨ escape = .started) → next c escape = some (produced, following) →
      read following text = some (value, rest) →
      read escape (c :: text) = some (produced.toList ++ value, rest)

/-- The reader of strings on one line goes on by its function. -/
theorem stepsBy_readBasic : StepsBy Escape.next readBasic where
  next_plain hline hbackslash := by simp [Escape.next, hline, hbackslash]
  next_backslash := rfl
  next_started _ _ _ := rfl
  next_code := rfl
  read_cons := by
    intro escape following c produced text value rest _ hopen hnext hread
    have hclose : ¬ (c = '"' && escape = .outside) = true := by
      rcases hopen with h | h <;> simp [h]
    rw [readBasic, if_neg hclose, hnext]
    simp only [hread, Option.map_some]

/-- The reader of strings on several lines goes on by its function. -/
theorem stepsBy_readBasicLines : StepsBy Escape.nextOnLines (readBasicLines · 0) where
  next_plain hline hbackslash := by simp [Escape.nextOnLines, hline, hbackslash]
  next_backslash := rfl
  next_started hspace htab hbreak := by simp [Escape.nextOnLines, hspace, htab, hbreak]
  next_code := rfl
  read_cons := by
    intro escape following c produced text value rest hreturn hopen hnext hread
    have hclose : ¬ (c = '"' && (escape = .outside || escape = .skipping)) = true := by
      rcases hopen with h | h <;> simp [h]
    have hbreak : ¬ (c = '\r' && text.head? = some '\n') = true := by simp [hreturn]
    rw [readBasicLines, if_neg hclose, if_neg (by decide), if_neg hbreak, hnext]
    simp only [hread, Option.map_some, List.replicate_zero, List.nil_append]

section

variable {next : Char → Escape → Option (Option Char × Escape)}
  {read : Escape → List Char → Option (List Char × List Char)}
  {c : Char} {text value rest : List Char}

/-- A character of a line stands for itself. -/
theorem StepsBy.read_plain (hread : StepsBy next read) (hline : isLineChar c = true)
    (hquote : c ≠ '"') (hbackslash : c ≠ '\\') (h : read .outside text = some (value, rest)) :
    read .outside (c :: text) = some (c :: value, rest) := by
  have hreturn : c ≠ '\r' := by
    rintro rfl
    exact absurd hline (by decide)
  exact hread.read_cons hreturn (.inl hquote) (hread.next_plain hline hbackslash) h

/-- The letters of the short escapes start no other escape and are no blanks or line breaks. -/
theorem escapeLetters_table : ∀ letter ∈ ['b', 't', 'n', 'f', 'r', '"', '\\'],
    letter ≠ '\r' ∧ letter ≠ ' ' ∧ letter ≠ '\t' ∧ letter ≠ '\n' ∧ letter ≠ 'u' ∧ letter ≠ 'U' := by
  intro letter hletter
  simp only [List.mem_cons, List.not_mem_nil, or_false] at hletter
  rcases hletter with rfl | rfl | rfl | rfl | rfl | rfl | rfl <;> decide

/-- A character is read back from a backslash and its letter. -/
theorem StepsBy.read_simpleEscape (hread : StepsBy next read) {letter : Char}
    (hletter : letter ∈ ['b', 't', 'n', 'f', 'r', '"', '\\'])
    (hescape : simpleEscape? letter = some c) (h : read .outside text = some (value, rest)) :
    read .outside ('\\' :: letter :: text) = some (c :: value, rest) := by
  obtain ⟨hreturn, hspace, htab, hbreak, hu, hU⟩ := escapeLetters_table letter hletter
  have hstart : next letter .started = some (some c, .outside) := by
    rw [hread.next_started hspace htab hbreak, startEscape, if_neg hu, if_neg hU, hescape]
    rfl
  exact hread.read_cons (by decide) (.inl (by decide)) hread.next_backslash
    (hread.read_cons hreturn (.inr rfl) hstart h)

/-- The digits of a code point below 128, as the writer writes them, and the numbers that the reader
has after each of them. -/
theorem codeDigits_table : ∀ n < 0x80,
    takeCodeDigit 4 0 (Text.upperHexDigit (n / 4096 % 16)) = some (none, .code 3 0) ∧
      takeCodeDigit 3 0 (Text.upperHexDigit (n / 256 % 16)) = some (none, .code 2 0) ∧
      takeCodeDigit 2 0 (Text.upperHexDigit (n / 16 % 16)) = some (none, .code 1 (n / 16)) ∧
      takeCodeDigit 1 (n / 16) (Text.upperHexDigit (n % 16)) =
        some (some (Char.ofNat n), .outside) := by
  decide

/-- No digit is a quotation mark or a carriage return. -/
theorem upperHexDigit_ne : ∀ n < 16, Text.upperHexDigit n ≠ '\r' ∧ Text.upperHexDigit n ≠ '"' := by
  decide

/-- A digit of a code point is taken in. -/
theorem StepsBy.read_codeDigit (hread : StepsBy next read) {needed number n : Nat} (hn : n < 16)
    {produced : Option Char} {following : Escape}
    (htake : takeCodeDigit needed number (Text.upperHexDigit n) = some (produced, following))
    (h : read following text = some (value, rest)) :
    read (.code needed number) (Text.upperHexDigit n :: text) =
      some (produced.toList ++ value, rest) := by
  obtain ⟨hreturn, hquote⟩ := upperHexDigit_ne n hn
  exact hread.read_cons hreturn (.inl hquote) (hread.next_code.trans htake) h

/-- A character with a small code point is read back from it. -/
theorem StepsBy.read_unicodeEscape (hread : StepsBy next read) (hsmall : c.toNat < 0x80)
    (h : read .outside text = some (value, rest)) :
    read .outside (unicodeEscape c ++ text) = some (c :: value, rest) := by
  obtain ⟨hfirst, hsecond, hthird, hfourth⟩ := codeDigits_table c.toNat hsmall
  rw [Char.ofNat_toNat] at hfourth
  have hu : next 'u' .started = some (none, .code 4 0) :=
    hread.next_started (by decide) (by decide) (by decide)
  have hmod (n : Nat) : n % 16 < 16 := Nat.mod_lt n (by decide)
  refine hread.read_cons (by decide) (.inl (by decide)) hread.next_backslash ?_
  refine hread.read_cons (by decide) (.inl (by decide)) hu ?_
  refine hread.read_codeDigit (hmod _) hfirst ?_
  refine hread.read_codeDigit (hmod _) hsecond ?_
  refine hread.read_codeDigit (hmod _) hthird ?_
  exact hread.read_codeDigit (hmod _) hfourth h

/-- A character that needs no escape is one of a line, or a line break. -/
theorem isLineChar_of_needsEscape_eq_false (hc : needsEscape c = false) (hbreak : c ≠ '\n') :
    isLineChar c = true := by
  simp only [needsEscape, Bool.or_eq_false_iff, Bool.and_eq_false_iff, decide_eq_false_iff_not,
    ne_eq, Decidable.not_not] at hc
  obtain ⟨(hlow | htab) | hnewline, hdelete⟩ := hc
  · simp only [isLineChar, Bool.or_eq_true, Bool.and_eq_true, decide_eq_true_eq]
    omega
  · rw [htab]
    decide
  · exact absurd hnewline hbreak

/-- The code points of the characters that need an escape are small. -/
theorem toNat_lt_of_needsEscape (hc : needsEscape c = true) : c.toNat < 0x80 := by
  simp only [needsEscape, Bool.or_eq_true, Bool.and_eq_true, decide_eq_true_eq] at hc
  omega

/-- A character other than a quotation mark is read back from the way it is written, unless it is a
line break that stands for itself. -/
theorem StepsBy.read_escapeChar (hread : StepsBy next read) {onLines : Bool} (hquote : c ≠ '"')
    (hbreak : onLines = true → c ≠ '\n') (h : read .outside text = some (value, rest)) :
    read .outside (escapeChar onLines c ++ text) = some (c :: value, rest) := by
  rw [escapeChar]
  split_ifs with hb ht hn hlines hf hr hbackslash hneeds
  · exact hread.read_simpleEscape (by decide) (by rw [hb]; rfl) h
  · exact hread.read_simpleEscape (by decide) (by rw [ht]; rfl) h
  · exact absurd hn (hbreak hlines)
  · exact hread.read_simpleEscape (by decide) (by rw [hn]; rfl) h
  · exact hread.read_simpleEscape (by decide) (by rw [hf]; rfl) h
  · exact hread.read_simpleEscape (by decide) (by rw [hr]; rfl) h
  · exact hread.read_simpleEscape (by decide) (by rw [hbackslash]; rfl) h
  · exact hread.read_unicodeEscape (toNat_lt_of_needsEscape hneeds) h
  · have hline := isLineChar_of_needsEscape_eq_false (Bool.eq_false_iff.mpr hneeds) hn
    exact hread.read_plain hline hquote hbackslash h

end

/-- What a character is written as starts with a backslash or the character, and with no carriage
return. -/
theorem exists_escapeChar_eq_cons (onLines : Bool) (c : Char) :
    ∃ first more, escapeChar onLines c = first :: more ∧ (first = '\\' ∨ first = c) ∧
      first ≠ '\r' := by
  rw [escapeChar]
  split_ifs with hb ht hn hlines hf hr
  · exact ⟨_, _, rfl, .inl rfl, by decide⟩
  · exact ⟨_, _, rfl, .inl rfl, by decide⟩
  · exact ⟨_, _, rfl, .inr hn.symm, by decide⟩
  · exact ⟨_, _, rfl, .inl rfl, by decide⟩
  · exact ⟨_, _, rfl, .inl rfl, by decide⟩
  · exact ⟨_, _, rfl, .inl rfl, by decide⟩
  · exact ⟨_, _, rfl, .inl rfl, by decide⟩
  · exact ⟨_, _, rfl, .inl rfl, by decide⟩
  · exact ⟨_, _, rfl, .inr rfl, hr⟩

/-- A text on one line with escapes is read back up to the closing mark. -/
theorem readBasic_escapeText (value rest : List Char) :
    readBasic .outside (escapeText false 0 value ++ '"' :: rest) = some (value, rest) := by
  induction value with
  | nil => rfl
  | cons c value ih =>
    by_cases hquote : c = '"'
    · subst hquote
      exact stepsBy_readBasic.read_simpleEscape (by decide) rfl ih
    · rw [escapeText, if_neg hquote, List.append_assoc]
      exact stepsBy_readBasic.read_escapeChar hquote (fun h => absurd h (by decide)) ih

/-- A run of marks that some other character ends belongs to the text. -/
theorem readBasicLines_marks {marks : Nat} (hmarks : marks ≤ 2) {c : Char} (hquote : c ≠ '"')
    {text value rest : List Char}
    (h : readBasicLines .outside 0 (c :: text) = some (value, rest)) :
    readBasicLines .outside marks (c :: text) = some (List.replicate marks '"' ++ value, rest) := by
  have hclose : ¬ (c = '"' && (Escape.outside = .outside || Escape.outside = .skipping)) = true := by
    simp [hquote]
  rw [readBasicLines, if_neg hclose] at h ⊢
  rw [if_neg (by decide)] at h
  rw [if_neg (by omega)]
  split
  · next hbreak =>
    rw [if_pos hbreak] at h
    obtain ⟨result, hread, hresult⟩ := Option.map_eq_some_iff.mp h
    obtain ⟨rfl, rfl⟩ := Prod.mk.inj hresult
    rw [hread]
    rfl
  · next hbreak =>
    rw [if_neg hbreak] at h
    cases hnext : Escape.nextOnLines c .outside with
    | none => simp [hnext] at h
    | some step =>
      simp only [hnext] at h ⊢
      obtain ⟨result, hread, hresult⟩ := Option.map_eq_some_iff.mp h
      obtain ⟨rfl, rfl⟩ := Prod.mk.inj hresult
      rw [hread]
      rfl

/-- A character that is not a mark is read back from the way it is written on several lines. -/
theorem readBasicLines_escapeChar {c : Char} (hquote : c ≠ '"') {text value rest : List Char}
    (h : readBasicLines .outside 0 text = some (value, rest)) :
    readBasicLines .outside 0 (escapeChar true c ++ text) = some (c :: value, rest) := by
  by_cases hbreak : c = '\n'
  · subst hbreak
    have hnext : Escape.nextOnLines '\n' .outside = some (some '\n', .outside) := rfl
    exact stepsBy_readBasicLines.read_cons (by decide) (.inl hquote) hnext h
  · exact stepsBy_readBasicLines.read_escapeChar hquote (fun _ => hbreak) h

/-- Of a run of marks all but the last three belong to the text. -/
theorem closingMarks?_add_three (mark : Char) {marks : Nat} (hmarks : marks ≤ 2) :
    closingMarks? mark (marks + 3) = some (List.replicate marks mark) := by
  simp [closingMarks?, hmarks]

/-- A text with escapes ends at the closing marks. The marks right before them belong to it. -/
theorem readBasicLines_closing {rest : List Char} (hrest : rest.head? ≠ some '"') {marks : Nat}
    (hmarks : marks ≤ 2) :
    readBasicLines .outside marks ('"' :: '"' :: '"' :: rest) =
      some (List.replicate marks '"', rest) := by
  have hrun : readBasicLines .outside (marks + 3) rest = some (List.replicate marks '"', rest) := by
    cases rest with
    | nil => rw [readBasicLines, closingMarks?_add_three '"' hmarks]; rfl
    | cons c rest =>
      have hquote : c ≠ '"' := fun h => hrest (h ▸ rfl)
      rw [readBasicLines, if_neg (by simp [hquote]), if_pos (by omega),
        closingMarks?_add_three '"' hmarks]
      rfl
  simpa [readBasicLines] using hrun

/-- A text on several lines with escapes is read back up to the closing marks. The marks right
before it count as its first ones, and those right before the closing marks as its last ones. -/
theorem readBasicLines_escapeText {rest : List Char} (hrest : rest.head? ≠ some '"')
    (value : List Char) {marks : Nat} (hmarks : marks ≤ 2) :
    readBasicLines .outside marks (escapeText true marks value ++ '"' :: '"' :: '"' :: rest) =
      some (List.replicate marks '"' ++ value, rest) := by
  induction value generalizing marks with
  | nil =>
    rw [List.append_nil]
    exact readBasicLines_closing hrest hmarks
  | cons c value ih =>
    by_cases hquote : c = '"'
    · subst hquote
      by_cases hfew : marks < 2
      · have hrun := ih (Nat.succ_le_of_lt hfew)
        rw [List.replicate_succ', List.append_assoc] at hrun
        simpa [escapeText, hfew, readBasicLines] using hrun
      · have hread : readBasicLines .outside 0
            ('\\' :: '"' :: (escapeText true 0 value ++ '"' :: '"' :: '"' :: rest)) =
              some ('"' :: value, rest) :=
          stepsBy_readBasicLines.read_simpleEscape (by decide) rfl (ih (Nat.zero_le 2))
        simpa [escapeText, hfew] using readBasicLines_marks hmarks (by decide) hread
    · rw [escapeText, if_neg hquote, List.append_assoc]
      have hread := readBasicLines_escapeChar hquote (ih (Nat.zero_le 2))
      obtain ⟨first, more, hescape, hfirst, -⟩ := exists_escapeChar_eq_cons true c
      rw [hescape] at hread ⊢
      refine readBasicLines_marks hmarks ?_ hread
      rcases hfirst with rfl | rfl
      · decide
      · exact hquote

/-- A literal text on one line is read back up to the closing mark. -/
theorem readLiteral_append {value : List Char}
    (hvalue : ∀ c ∈ value, c ≠ '\'' ∧ isLineChar c = true) (rest : List Char) :
    readLiteral (value ++ '\'' :: rest) = some (value, rest) := by
  induction value with
  | nil => rfl
  | cons c value ih =>
    obtain ⟨⟨hmark, hline⟩, hvalue⟩ := List.forall_mem_cons.mp hvalue
    rw [List.cons_append, readLiteral, if_neg hmark, if_pos hline, ih hvalue]
    rfl

/-- A literal text ends at the closing marks. The marks right before them belong to it. -/
theorem readLiteralLines_closing {rest : List Char} (hrest : rest.head? ≠ some '\'') {marks : Nat}
    (hmarks : marks ≤ 2) :
    readLiteralLines marks ('\'' :: '\'' :: '\'' :: rest) =
      some (List.replicate marks '\'', rest) := by
  have hrun : readLiteralLines (marks + 3) rest = some (List.replicate marks '\'', rest) := by
    cases rest with
    | nil => rw [readLiteralLines, closingMarks?_add_three '\'' hmarks]; rfl
    | cons c rest =>
      have hmark : c ≠ '\'' := fun h => hrest (h ▸ rfl)
      rw [readLiteralLines, if_neg hmark, if_pos (by omega), closingMarks?_add_three '\'' hmarks]
      rfl
  simpa [readLiteralLines] using hrun

/-- A literal text on several lines is read back up to the closing marks if it holds no long run of
marks. The marks right before it count as its first ones, and those right before the closing marks
as its last ones. -/
theorem readLiteralLines_append {rest : List Char} (hrest : rest.head? ≠ some '\'')
    {value : List Char} (hvalue : ∀ c ∈ value, needsEscape c = false) {marks : Nat}
    (hrun : longestRun '\'' marks value ≤ 2) :
    readLiteralLines marks (value ++ '\'' :: '\'' :: '\'' :: rest) =
      some (List.replicate marks '\'' ++ value, rest) := by
  induction value generalizing marks with
  | nil =>
    rw [List.append_nil]
    exact readLiteralLines_closing hrest hrun
  | cons c value ih =>
    obtain ⟨hc, hvalue⟩ := List.forall_mem_cons.mp hvalue
    rw [longestRun] at hrun
    rw [List.cons_append, readLiteralLines]
    by_cases hmark : c = '\''
    · rw [if_pos hmark] at hrun ⊢
      rw [ih hvalue hrun, List.replicate_succ', List.append_assoc, hmark]
      rfl
    · rw [if_neg hmark] at hrun ⊢
      have hmarks : marks ≤ 2 := Nat.le_trans (Nat.le_max_left _ _) hrun
      have hreturn : c ≠ '\r' := by
        rintro rfl
        exact absurd hc (by decide)
      have hline : (isLineChar c || c = '\n') = true := by
        by_cases hbreak : c = '\n'
        · simp [hbreak]
        · simp [isLineChar_of_needsEscape_eq_false hc hbreak]
      rw [if_neg (by omega), if_neg (by simp [hreturn]), if_pos hline,
        ih hvalue (Nat.le_trans (Nat.le_max_right _ _) hrun)]
      rfl

/-- A literal has no escapes, breaks or marks in its value. -/
theorem isLineChar_of_formOf_eq_literal {value : List Char} (hform : formOf value = .literal) :
    ∀ c ∈ value, c ≠ '\'' ∧ isLineChar c = true := by
  simp only [formOf] at hform
  split_ifs at hform with hplain hliteral
  simp only [Bool.and_eq_true, Bool.not_eq_true', List.any_eq_false, List.contains_eq_mem,
    decide_eq_false_iff_not] at hliteral
  obtain ⟨⟨hescapes, hlines⟩, hmarks⟩ := hliteral
  intro c hc
  refine ⟨fun h => hmarks (h ▸ hc), isLineChar_of_needsEscape_eq_false ?_ fun h => hlines (h ▸ hc)⟩
  exact Bool.eq_false_iff.mpr (hescapes c hc)

/-- A literal on several lines has no escapes or long runs of marks in its value. -/
theorem longestRun_le_of_formOf_eq_literalLines {value : List Char}
    (hform : formOf value = .literalLines) :
    (∀ c ∈ value, needsEscape c = false) ∧ longestRun '\'' 0 value ≤ 2 := by
  simp only [formOf] at hform
  split_ifs at hform with hplain hliteral hlines hliteralLines
  simp only [Bool.and_eq_true, Bool.not_eq_true', List.any_eq_false, decide_eq_true_eq]
    at hliteralLines
  exact ⟨fun c hc => Bool.eq_false_iff.mpr (hliteralLines.1 c hc), hliteralLines.2⟩

/-- The line break right after the opening marks is dropped. Where there is none, the text does not
start with one. -/
theorem dropLineBreak_firstBreak {value text : List Char}
    (htext : '\n' ∉ value → text.head? ≠ some '\n' ∧ text.head? ≠ some '\r') :
    dropLineBreak ((if value.contains '\n' then ['\n'] else []) ++ text) = text := by
  by_cases hbreak : '\n' ∈ value
  · rw [if_pos (by simpa using hbreak)]
    rfl
  · obtain ⟨hnewline, hreturn⟩ := htext hbreak
    rw [if_neg (by simpa using hbreak), List.nil_append]
    match text with
    | [] => rfl
    | c :: text =>
      have hc : c ≠ '\n' ∧ c ≠ '\r' := by simpa using And.intro hnewline hreturn
      unfold dropLineBreak
      split
      · next h => exact absurd (List.cons.inj h).1 hc.1
      · next h => exact absurd (List.cons.inj h).1 hc.2
      · rfl

/-- A text with escapes starts with a backslash or like its value, and with no carriage return. On
one line it does not start with a quotation mark. -/
theorem exists_escapeText_eq_cons (onLines : Bool) (c : Char) (value : List Char) :
    ∃ first more, escapeText onLines 0 (c :: value) = first :: more ∧
      (first = '\\' ∨ first = c) ∧ first ≠ '\r' ∧ (onLines = false → first ≠ '"') := by
  rw [escapeText]
  by_cases hquote : c = '"'
  · rw [if_pos hquote]
    cases onLines with
    | true => exact ⟨_, _, rfl, .inr hquote.symm, by decide, fun h => absurd h (by decide)⟩
    | false => exact ⟨_, _, rfl, .inl rfl, by decide, fun _ => by decide⟩
  · obtain ⟨first, more, hescape, hfirst, hreturn⟩ := exists_escapeChar_eq_cons onLines c
    rw [if_neg hquote, hescape]
    refine ⟨first, _, rfl, hfirst, hreturn, fun _ => ?_⟩
    rcases hfirst with rfl | rfl
    · decide
    · exact hquote

/-- On several lines a text without line breaks starts neither with one nor with a carriage
return. -/
theorem head?_escapeText_ne {value : List Char} (hbreak : '\n' ∉ value) (rest : List Char) :
    (escapeText true 0 value ++ '"' :: rest).head? ≠ some '\n' ∧
      (escapeText true 0 value ++ '"' :: rest).head? ≠ some '\r' := by
  cases value with
  | nil => simp [escapeText]
  | cons c value =>
    obtain ⟨first, more, htext, hfirst, hreturn, -⟩ := exists_escapeText_eq_cons true c value
    have hnewline : first ≠ '\n' := by
      rcases hfirst with rfl | rfl
      · decide
      · rintro rfl
        exact hbreak List.mem_cons_self
    rw [htext]
    simp [hnewline, hreturn]

/-- A text without line breaks and characters that need an escape starts neither with a line break
nor with a carriage return. -/
theorem head?_append_ne {value : List Char} (hbreak : '\n' ∉ value)
    (hvalue : ∀ c ∈ value, needsEscape c = false) (rest : List Char) :
    (value ++ '\'' :: rest).head? ≠ some '\n' ∧ (value ++ '\'' :: rest).head? ≠ some '\r' := by
  cases value with
  | nil => simp
  | cons c value =>
    have hnewline : c ≠ '\n' := fun h => hbreak (h ▸ List.mem_cons_self)
    have hreturn : c ≠ '\r' := by
      rintro rfl
      exact absurd (hvalue '\r' List.mem_cons_self) (by decide)
    simp [hnewline, hreturn]

/-- A text behind one opening mark is read on one line unless two more marks follow. -/
theorem readString_quote {text : List Char} (h : ∀ more, text ≠ '"' :: '"' :: more) :
    readString ('"' :: text) = readBasic .outside text := by
  rw [readString]
  exact fun more heq => h more heq

/-- A text behind one opening mark of a literal is read on one line unless two more marks follow. -/
theorem readString_apostrophe {text : List Char} (h : ∀ more, text ≠ '\'' :: '\'' :: more) :
    readString ('\'' :: text) = readLiteral text := by
  rw [readString]
  exact fun more heq => h more heq

/-- A string is read back from its literal in front of the end of a line. -/
theorem readString_stringLiteral (value rest : List Char) :
    readString (stringLiteral value ++ '\n' :: rest) = some (value, '\n' :: rest) := by
  simp only [stringLiteral]
  cases hform : formOf value with
  | basic =>
    have hmarks : ∀ more, escapeText false 0 value ++ '"' :: '\n' :: rest ≠ '"' :: '"' :: more := by
      intro more heq
      cases value with
      | nil => exact absurd heq (by simp [escapeText])
      | cons c value =>
        obtain ⟨first, others, htext, -, -, hquote⟩ := exists_escapeText_eq_cons false c value
        rw [htext] at heq
        exact hquote rfl (List.cons.inj heq).1
    simp only [List.cons_append, List.append_assoc, List.nil_append]
    rw [readString_quote hmarks, readBasic_escapeText]
  | literal =>
    have hvalue := isLineChar_of_formOf_eq_literal hform
    have hmarks : ∀ more, value ++ '\'' :: '\n' :: rest ≠ '\'' :: '\'' :: more := by
      intro more heq
      cases value with
      | nil => exact absurd heq (by simp)
      | cons c value => exact (hvalue c List.mem_cons_self).1 (List.cons.inj heq).1
    simp only [List.cons_append, List.append_assoc, List.nil_append]
    rw [readString_apostrophe hmarks, readLiteral_append hvalue]
  | basicLines =>
    simp only [List.cons_append, List.append_assoc, List.nil_append]
    rw [readString, dropLineBreak_firstBreak fun hbreak => head?_escapeText_ne hbreak _]
    exact readBasicLines_escapeText (by simp) value (Nat.zero_le 2)
  | literalLines =>
    obtain ⟨hvalue, hrun⟩ := longestRun_le_of_formOf_eq_literalLines hform
    simp only [List.cons_append, List.append_assoc, List.nil_append]
    rw [readString, dropLineBreak_firstBreak fun hbreak => head?_append_ne hbreak hvalue _]
    exact readLiteralLines_append (by simp) hvalue hrun

end InventoryQuery.Toml
