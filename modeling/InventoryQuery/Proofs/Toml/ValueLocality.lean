import InventoryQuery.Proofs.Toml.NumberLocality
import InventoryQuery.Toml.Reader

/-!
# Values in front of a line break

A value that is read from a text is read from it in the same way when a line breaks behind the text
and more lines follow, and when the reader has more fuel. Strings, arrays and inline tables end with
marks of their own, so what comes behind these is never looked at; a gap in an array is followed by
a value or a mark, so it does not go on behind the text.
-/

namespace InventoryQuery.Toml

section

variable {text : List Char} (more : List Char)

/-- A string on one line is read in front of a line break. -/
theorem readBasic_append_break {escape : Escape} {read : List Char × List Char}
    (h : readBasic escape text = some read) :
    readBasic escape (text ++ '\n' :: more) = some (withMore more read) := by
  induction text generalizing escape read with
  | nil => exact absurd h (by simp [readBasic])
  | cons c text ih =>
    rw [readBasic] at h
    rw [List.cons_append, readBasic]
    split_ifs at h ⊢ with hclose
    · obtain rfl := Option.some.inj h
      rfl
    · cases hnext : escape.next c with
      | none => simp [hnext] at h
      | some step =>
        simp only [hnext, Option.map_eq_some_iff] at h ⊢
        obtain ⟨value, hvalue, rfl⟩ := h
        exact ⟨_, ih hvalue, rfl⟩

/-- A literal string on one line is read in front of a line break. -/
theorem readLiteral_append_break {read : List Char × List Char}
    (h : readLiteral text = some read) :
    readLiteral (text ++ '\n' :: more) = some (withMore more read) := by
  induction text generalizing read with
  | nil => exact absurd h (by simp [readLiteral])
  | cons c text ih =>
    rw [readLiteral] at h
    rw [List.cons_append, readLiteral]
    split_ifs at h ⊢ with hclose hline
    · obtain rfl := Option.some.inj h
      rfl
    · obtain ⟨value, hvalue, rfl⟩ := Option.map_eq_some_iff.mp h
      exact Option.map_eq_some_iff.mpr ⟨_, ih hvalue, rfl⟩

/-- A run of marks that closes a string is at least as long as the closing marks. -/
theorem three_le_of_closingMarks? {mark : Char} {marks : Nat} {value : List Char}
    (h : closingMarks? mark marks = some value) : 3 ≤ marks := by
  rw [closingMarks?] at h
  split at h
  · next hmarks => simpa using (Bool.and_eq_true_iff.mp hmarks).1
  · exact absurd h (by simp)

/-- A carriage return stands for nothing but a part of a line break. -/
theorem nextOnLines_return (escape : Escape) : escape.nextOnLines '\r' = none := by
  cases escape <;> rfl

/-- A character that is no carriage return at the end is followed by what follows it. -/
theorem head?_append_break {c : Char} (h : ¬ (c = '\r' ∧ text = [])) :
    (c = '\r' && (text ++ '\n' :: more).head? = some '\n') =
      (c = '\r' && text.head? = some '\n') := by
  cases text with
  | nil => simpa using h
  | cons d text => rfl

/-- A string on several lines is read in front of a line break. -/
theorem readBasicLines_append_break {escape : Escape} {marks : Nat}
    {read : List Char × List Char} (h : readBasicLines escape marks text = some read) :
    readBasicLines escape marks (text ++ '\n' :: more) = some (withMore more read) := by
  induction text generalizing escape marks read with
  | nil =>
    obtain ⟨value, hvalue, rfl⟩ := Option.map_eq_some_iff.mp h
    have hmarks := three_le_of_closingMarks? hvalue
    simp [readBasicLines, hmarks, hvalue]
  | cons c text ih =>
    have hreturn : ¬ marks ≥ 3 → ¬ (c = '\r' ∧ text = []) := by
      rintro hfew ⟨rfl, rfl⟩
      simp [readBasicLines, hfew, nextOnLines_return] at h
    rw [readBasicLines] at h
    rw [List.cons_append, readBasicLines]
    by_cases hquote : (c = '"' && (escape = .outside || escape = .skipping)) = true
    · rw [if_pos hquote] at h ⊢
      exact ih h
    rw [if_neg hquote] at h ⊢
    by_cases hmarks : marks ≥ 3
    · rw [if_pos hmarks] at h ⊢
      obtain ⟨value, hvalue, rfl⟩ := Option.map_eq_some_iff.mp h
      simp [hvalue]
    rw [if_neg hmarks] at h ⊢
    simp only [head?_append_break more (hreturn hmarks)]
    by_cases hbreak : (c = '\r' && text.head? = some '\n') = true
    · rw [if_pos hbreak] at h ⊢
      obtain ⟨value, hvalue, rfl⟩ := Option.map_eq_some_iff.mp h
      exact Option.map_eq_some_iff.mpr ⟨_, ih hvalue, rfl⟩
    rw [if_neg hbreak] at h ⊢
    cases hnext : escape.nextOnLines c with
    | none => simp [hnext] at h
    | some step =>
      simp only [hnext, Option.map_eq_some_iff] at h ⊢
      obtain ⟨value, hvalue, rfl⟩ := h
      exact ⟨_, ih hvalue, rfl⟩

/-- A literal string on several lines is read in front of a line break. -/
theorem readLiteralLines_append_break {marks : Nat} {read : List Char × List Char}
    (h : readLiteralLines marks text = some read) :
    readLiteralLines marks (text ++ '\n' :: more) = some (withMore more read) := by
  induction text generalizing marks read with
  | nil =>
    obtain ⟨value, hvalue, rfl⟩ := Option.map_eq_some_iff.mp h
    have hmarks := three_le_of_closingMarks? hvalue
    simp [readLiteralLines, hmarks, hvalue]
  | cons c text ih =>
    have hreturn : ¬ marks ≥ 3 → ¬ (c = '\r' ∧ text = []) := by
      rintro hfew ⟨rfl, rfl⟩
      have hline : isLineChar '\r' = false := rfl
      simp [readLiteralLines, hfew, hline] at h
    rw [readLiteralLines] at h
    rw [List.cons_append, readLiteralLines]
    by_cases hquote : c = '\''
    · rw [if_pos hquote] at h ⊢
      exact ih h
    rw [if_neg hquote] at h ⊢
    by_cases hmarks : marks ≥ 3
    · rw [if_pos hmarks] at h ⊢
      obtain ⟨value, hvalue, rfl⟩ := Option.map_eq_some_iff.mp h
      simp [hvalue]
    rw [if_neg hmarks] at h ⊢
    simp only [head?_append_break more (hreturn hmarks)]
    split_ifs at h ⊢ with hbreak hline
    · obtain ⟨value, hvalue, rfl⟩ := Option.map_eq_some_iff.mp h
      exact Option.map_eq_some_iff.mpr ⟨_, ih hvalue, rfl⟩
    · obtain ⟨value, hvalue, rfl⟩ := Option.map_eq_some_iff.mp h
      exact Option.map_eq_some_iff.mpr ⟨_, ih hvalue, rfl⟩

/-- A line break in front is left out of a text with another one behind it, unless that one would
be the first. -/
theorem dropLineBreak_append_break (htext : text ≠ []) (hreturn : text ≠ ['\r']) :
    dropLineBreak (text ++ '\n' :: more) = dropLineBreak text ++ '\n' :: more := by
  obtain ⟨c, rest, rfl⟩ := List.exists_cons_of_ne_nil htext
  by_cases hfeed : c = '\n'
  · subst hfeed
    rfl
  by_cases hcarriage : c = '\r'
  · subst hcarriage
    obtain ⟨d, rest, rfl⟩ := List.exists_cons_of_ne_nil fun h => hreturn (h ▸ rfl)
    by_cases hpair : d = '\n'
    · subst hpair
      rfl
    · simp [dropLineBreak, hpair]
  · simp [dropLineBreak, hfeed, hcarriage]

/-- A string of any form is read in front of a line break. -/
theorem readString_append_break {read : List Char × List Char} (h : readString text = some read) :
    readString (text ++ '\n' :: more) = some (withMore more read) := by
  unfold readString at h
  split at h
  · next rest =>
    have hdrop : dropLineBreak (rest ++ '\n' :: more) = dropLineBreak rest ++ '\n' :: more := by
      refine dropLineBreak_append_break more ?_ ?_ <;>
        (rintro rfl; exact Option.some_ne_none read (h.symm.trans rfl))
    have hread := readBasicLines_append_break more h
    rw [← hdrop] at hread
    exact hread
  · next rest hopen =>
    rw [List.cons_append, readString]
    · exact readBasic_append_break more h
    · intro left hleft
      obtain ⟨left, hleft, -⟩ :=
        exists_eq_append_of_append_break more (by decide : '\n' ∉ ['"', '"']) hleft
      exact hopen left hleft
  · next rest =>
    have hdrop : dropLineBreak (rest ++ '\n' :: more) = dropLineBreak rest ++ '\n' :: more := by
      refine dropLineBreak_append_break more ?_ ?_ <;>
        (rintro rfl; exact Option.some_ne_none read (h.symm.trans rfl))
    have hread := readLiteralLines_append_break more h
    rw [← hdrop] at hread
    exact hread
  · next rest hopen =>
    rw [List.cons_append, readString]
    · exact readLiteral_append_break more h
    · intro left hleft
      obtain ⟨left, hleft, -⟩ :=
        exists_eq_append_of_append_break more (by decide : '\n' ∉ ['\'', '\'']) hleft
      exact hopen left hleft
  · exact absurd h (by simp)

/-- A word is read in front of a line break. -/
theorem readWord_append_break {word : List Char} {item : Item} {read : Item × List Char}
    (h : readWord word item text = some read) :
    readWord word item (text ++ '\n' :: more) = some (withMore more read) := by
  rw [readWord] at h ⊢
  split at h
  · next hword =>
    have hlength : word.length ≤ text.length := by
      rw [← hword, List.length_take]
      exact Nat.min_le_right _ _
    obtain rfl := Option.some.inj h
    rw [List.take_append_of_le_length hlength, if_pos hword, List.drop_append_of_le_length hlength]
  · exact absurd h (by simp)

/-- A value without parts is read in front of a line break. -/
theorem readScalar_append_break {read : Item × List Char} (h : readScalar text = some read) :
    readScalar (text ++ '\n' :: more) = some (withMore more read) := by
  cases text with
  | nil => exact absurd h (by simp [readScalar])
  | cons c rest =>
    rw [readScalar] at h
    have hword {word : List Char} {item : Item}
        (hread : readWord word item (c :: rest) = some read) :=
      readWord_append_break more hread
    have hfloat := readFloat_append_break more (c :: rest)
    have hnumber := readNumberOrMoment_append_break more (c :: rest)
    rw [List.cons_append] at hfloat hnumber ⊢
    rw [readScalar]
    split_ifs at h ⊢
    · obtain ⟨value, hvalue, rfl⟩ := Option.map_eq_some_iff.mp h
      exact Option.map_eq_some_iff.mpr ⟨_, readString_append_break more hvalue, rfl⟩
    · exact hword h
    · exact hword h
    · rw [hfloat, h, Option.map_some]
    · rw [hnumber, h, Option.map_some]

/-- The white space within a line goes on no further than it. -/
theorem skipSpace_append_break (text : List Char) :
    skipSpace (text ++ '\n' :: more) = skipSpace text ++ '\n' :: more :=
  dropWhile_append_break more rfl text

/-- A part of a key is read in front of a line break. -/
theorem readKeyPart_append_break {read : String × List Char} (h : readKeyPart text = some read) :
    readKeyPart (text ++ '\n' :: more) = some (withMore more read) := by
  have hkeyChar : isKeyChar '\n' = false := rfl
  unfold readKeyPart at h
  split at h
  · obtain ⟨part, hpart, rfl⟩ := Option.map_eq_some_iff.mp h
    exact Option.map_eq_some_iff.mpr ⟨_, readBasic_append_break more hpart, rfl⟩
  · obtain ⟨part, hpart, rfl⟩ := Option.map_eq_some_iff.mp h
    exact Option.map_eq_some_iff.mpr ⟨_, readLiteral_append_break more hpart, rfl⟩
  · next hquote hapostrophe =>
    cases text with
    | nil => exact absurd h (by simp)
    | cons c rest =>
      rw [readKeyPart, takeWhile_append_break more hkeyChar, dropWhile_append_break more hkeyChar]
      · simp only at h ⊢
        split_ifs at h ⊢
        obtain rfl := Option.some.inj h
        rfl
      · exact fun left hleft => hquote rest (by rw [(List.cons.inj hleft).1])
      · exact fun left hleft => hapostrophe rest (by rw [(List.cons.inj hleft).1])

/-- A key is read in front of a line break. -/
theorem readKeyParts_append_break {fuel : Nat} {read : Key × List Char}
    (h : readKeyParts fuel text = some read) :
    readKeyParts fuel (text ++ '\n' :: more) = some (withMore more read) := by
  induction fuel generalizing text read with
  | zero => exact absurd h (by simp [readKeyParts])
  | succ fuel ih =>
    rw [readKeyParts] at h ⊢
    obtain ⟨⟨part, rest⟩, hpart, hmore⟩ := Option.bind_eq_some_iff.mp h
    refine Option.bind_eq_some_iff.mpr ⟨(part, rest ++ '\n' :: more), ?_, ?_⟩
    · rw [skipSpace_append_break]
      exact readKeyPart_append_break more hpart
    simp only [skipSpace_append_break] at hmore ⊢
    split at hmore
    · next hdot =>
      obtain ⟨⟨key, left⟩, hkey, hread⟩ := Option.bind_eq_some_iff.mp hmore
      obtain rfl := Option.some.inj hread
      rw [hdot]
      exact Option.bind_eq_some_iff.mpr ⟨_, ih hkey, rfl⟩
    · next hdot =>
      obtain rfl := Option.some.inj hmore
      split
      · next left hleft =>
        obtain ⟨left, hleft, -⟩ :=
          exists_eq_append_of_append_break more (by decide : '\n' ∉ ['.']) hleft
        exact absurd hleft (hdot left)
      · rfl

/-- A line break is taken in with another one behind the text. -/
theorem afterBreak?_append_break {left : List Char} (h : afterBreak? text = some left) :
    afterBreak? (text ++ '\n' :: more) = some (left ++ '\n' :: more) := by
  unfold afterBreak? at h
  split at h
  · obtain rfl := Option.some.inj h
    rfl
  · obtain rfl := Option.some.inj h
    rfl
  · exact absurd h (by simp)

/-- A line break takes in something. -/
theorem length_lt_of_afterBreak? {left : List Char} (h : afterBreak? text = some left) :
    left.length < text.length := by
  unfold afterBreak? at h
  split at h
  · obtain rfl := Option.some.inj h
    exact Nat.lt_succ_self _
  · obtain rfl := Option.some.inj h
    exact Nat.lt_succ_of_lt (Nat.lt_succ_self _)
  · exact absurd h (by simp)

/-- No line break comes about at a character that starts none, unless it is a carriage return. -/
theorem afterBreak?_cons_append_break {c : Char} {rest : List Char} (hreturn : c ≠ '\r')
    (h : afterBreak? (c :: rest) = none) : afterBreak? (c :: rest ++ '\n' :: more) = none := by
  have hfeed : c ≠ '\n' := by
    rintro rfl
    exact absurd h (by simp [afterBreak?])
  simp [afterBreak?, hfeed, hreturn]

/-- A gap in front of a character goes on no further than it, however much fuel there is. -/
theorem skipGap_append_break {fuel fuel' : Nat} {c : Char} {rest : List Char}
    (h : skipGap fuel text = c :: rest) (hreturn : c ≠ '\r') (hfuel : text.length ≤ fuel)
    (hfuel' : text.length ≤ fuel') :
    skipGap fuel' (text ++ '\n' :: more) = c :: rest ++ '\n' :: more := by
  induction fuel generalizing text fuel' with
  | zero =>
    obtain rfl : text = [] := List.eq_nil_of_length_eq_zero (Nat.le_zero.mp hfuel)
    exact absurd h (by simp [skipGap])
  | succ fuel ih =>
    cases text with
    | nil => exact absurd h (by simp [skipGap])
    | cons d left =>
      obtain ⟨fuel', rfl⟩ : ∃ more, fuel' = more + 1 :=
        Nat.exists_eq_add_one_of_ne_zero (Nat.ne_zero_of_lt hfuel')
      simp only [List.length_cons, Nat.add_le_add_iff_right] at hfuel hfuel'
      rw [skipGap] at h
      rw [List.cons_append, skipGap]
      split_ifs at h ⊢
      · exact ih h hfuel hfuel'
      · have hshort := (List.dropWhile_sublist isLineChar (l := left)).length_le
        rw [dropWhile_append_break more rfl]
        exact ih h (Nat.le_trans hshort hfuel) (Nat.le_trans hshort hfuel')
      · cases hafter : afterBreak? (d :: left) with
        | none =>
          rw [hafter] at h
          obtain ⟨rfl, rfl⟩ := List.cons.inj h
          have hnone := afterBreak?_cons_append_break more hreturn hafter
          rw [List.cons_append] at hnone
          rw [hnone]
          rfl
        | some tail =>
          have hshort := Nat.le_of_lt_succ (length_lt_of_afterBreak? hafter)
          have hbreak := afterBreak?_append_break more hafter
          rw [List.cons_append] at hbreak
          rw [hafter] at h
          rw [hbreak]
          exact ih h (Nat.le_trans hshort hfuel) (Nat.le_trans hshort hfuel')

/-- A gap in front of a character goes on no further than it. -/
theorem skipGap_length_append_break {c : Char} {rest : List Char}
    (h : skipGap text.length text = c :: rest) (hreturn : c ≠ '\r') :
    skipGap (text ++ '\n' :: more).length (text ++ '\n' :: more) = c :: rest ++ '\n' :: more :=
  skipGap_append_break more h hreturn (Nat.le_refl _) (by simp)

/-- A value starts with a character that is no white space. -/
theorem exists_cons_of_readValue {fuel depth : Nat} {read : Item × List Char}
    (h : readValue fuel depth text = some read) :
    ∃ c rest, text = c :: rest ∧ c ≠ '\r' ∧ isSpace c = false := by
  cases fuel with
  | zero => exact absurd h (by simp [readValue])
  | succ fuel =>
    unfold readValue at h
    split at h
    · exact ⟨_, _, rfl, by decide, by decide⟩
    · exact ⟨_, _, rfl, by decide, by decide⟩
    · cases text with
      | nil => exact absurd h (by simp [readScalar])
      | cons c rest =>
        refine ⟨c, rest, rfl, ?_, Bool.eq_false_iff.mpr fun hspace => ?_⟩
        · rintro rfl
          exact Option.some_ne_none read (h.symm.trans rfl)
        · have hblank : c = ' ' ∨ c = '\t' := by simpa [isSpace] using hspace
          rcases hblank with rfl | rfl <;> exact Option.some_ne_none read (h.symm.trans rfl)

/-- What the readers with some fuel read from a text, they also read from it in front of a line
break, and with more fuel. -/
structure ReadsAlike (fuel : Nat) : Prop where
  value : ∀ {fuel' depth : Nat} {text : List Char} {read : Item × List Char}, fuel ≤ fuel' →
    readValue fuel depth text = some read →
      readValue fuel' depth (text ++ '\n' :: more) = some (withMore more read)
  items : ∀ {fuel' depth : Nat} {text : List Char} {read : List Item × List Char}, fuel ≤ fuel' →
    readItems fuel depth text = some read →
      readItems fuel' depth (text ++ '\n' :: more) = some (withMore more read)
  pairs : ∀ {fuel' depth : Nat} {text : List Char} {read : List (Key × Item) × List Char},
    fuel ≤ fuel' → readPairs fuel depth text = some read →
      readPairs fuel' depth (text ++ '\n' :: more) = some (withMore more read)

variable {more} {fuel fuel' depth : Nat}

/-- With one more unit of fuel, values are read alike. -/
theorem ReadsAlike.readValue_succ (hfuel : ReadsAlike more fuel) (hmore : fuel ≤ fuel')
    {read : Item × List Char} (h : readValue (fuel + 1) depth text = some read) :
    readValue (fuel' + 1) depth (text ++ '\n' :: more) = some (withMore more read) := by
  unfold readValue at h
  split at h
  · next rest =>
    cases depth with
    | zero => exact absurd h (by simp)
    | succ depth =>
      obtain ⟨items, hitems, rfl⟩ := Option.map_eq_some_iff.mp h
      rw [List.cons_append, readValue]
      exact Option.map_eq_some_iff.mpr ⟨_, hfuel.items hmore hitems, rfl⟩
  · next rest =>
    cases depth with
    | zero => exact absurd h (by simp)
    | succ depth =>
      rw [List.cons_append, readValue]
      simp only [skipSpace_append_break] at h ⊢
      split at h
      · next hempty =>
        obtain rfl := Option.some.inj h
        rw [hempty]
        rfl
      · next hpairs =>
        obtain ⟨⟨pairs, left⟩, hread, htable⟩ := Option.bind_eq_some_iff.mp h
        obtain ⟨item, hitem, hleft⟩ := Option.bind_eq_some_iff.mp htable
        obtain rfl := Option.some.inj hleft
        split
        · next tail htail =>
          obtain ⟨tail, htail, -⟩ :=
            exists_eq_append_of_append_break more (by decide : '\n' ∉ ['\x7d']) htail
          exact absurd htail (hpairs tail)
        · exact Option.bind_eq_some_iff.mpr ⟨_, hfuel.pairs hmore hread,
            Option.bind_eq_some_iff.mpr ⟨_, hitem, rfl⟩⟩
  · next hbracket hbrace =>
    have hscalar := readScalar_append_break more h
    cases text with
    | nil => exact absurd h (by simp [readScalar])
    | cons c rest =>
      rw [List.cons_append] at hscalar ⊢
      rw [readValue]
      · exact hscalar
      · exact fun left hleft => hbracket rest (by rw [(List.cons.inj hleft).1])
      · exact fun left hleft => hbrace rest (by rw [(List.cons.inj hleft).1])

/-- With one more unit of fuel, the items of arrays are read alike. -/
theorem ReadsAlike.readItems_succ (hfuel : ReadsAlike more fuel) (hmore : fuel ≤ fuel')
    {read : List Item × List Char} (h : readItems (fuel + 1) depth text = some read) :
    readItems (fuel' + 1) depth (text ++ '\n' :: more) = some (withMore more read) := by
  rw [readItems] at h ⊢
  split at h
  · next rest hclose =>
    obtain rfl := Option.some.inj h
    rw [skipGap_length_append_break more hclose (by decide)]
    rfl
  · next hopen =>
    obtain ⟨⟨item, rest⟩, hitem, hrest⟩ := Option.bind_eq_some_iff.mp h
    obtain ⟨c, left, hcons, hreturn, -⟩ := exists_cons_of_readValue hitem
    have hvalue := hfuel.value hmore hitem
    rw [skipGap_length_append_break more hcons hreturn]
    rw [hcons] at hvalue
    have hc : c ≠ ']' := by
      rintro rfl
      exact hopen left hcons
    split
    · next hclose => exact absurd (List.cons.inj hclose).1 hc
    · refine Option.bind_eq_some_iff.mpr ⟨_, hvalue, ?_⟩
      simp only at hrest ⊢
      split at hrest
      · next hclose =>
        obtain rfl := Option.some.inj hrest
        rw [skipGap_length_append_break more hclose (by decide)]
        rfl
      · next hcomma =>
        obtain ⟨⟨items, tail⟩, hitems, hread⟩ := Option.bind_eq_some_iff.mp hrest
        obtain rfl := Option.some.inj hread
        rw [skipGap_length_append_break more hcomma (by decide)]
        exact Option.bind_eq_some_iff.mpr ⟨_, hfuel.items hmore hitems, rfl⟩
      · exact absurd hrest (by simp)

/-- With one more unit of fuel, the pairs of inline tables are read alike. -/
theorem ReadsAlike.readPairs_succ (hfuel : ReadsAlike more fuel) (hmore : fuel ≤ fuel')
    {read : List (Key × Item) × List Char} (h : readPairs (fuel + 1) depth text = some read) :
    readPairs (fuel' + 1) depth (text ++ '\n' :: more) = some (withMore more read) := by
  rw [readPairs] at h ⊢
  obtain ⟨⟨key, rest⟩, hkey, h⟩ := Option.bind_eq_some_iff.mp h
  obtain ⟨afterMark, hafter, h⟩ := Option.bind_eq_some_iff.mp h
  obtain ⟨⟨item, left⟩, hitem, h⟩ := Option.bind_eq_some_iff.mp h
  have hmark : after? '=' (rest ++ '\n' :: more) = some (afterMark ++ '\n' :: more) := by
    rw [after?_append_break more (by decide), hafter, Option.map_some]
  have hvalue := hfuel.value hmore hitem
  rw [← skipSpace_append_break] at hvalue
  refine Option.bind_eq_some_iff.mpr ⟨_, readKeyParts_append_break more hkey, ?_⟩
  refine Option.bind_eq_some_iff.mpr ⟨_, hmark, ?_⟩
  refine Option.bind_eq_some_iff.mpr ⟨_, hvalue, ?_⟩
  simp only [skipSpace_append_break] at h ⊢
  split at h
  · next hclose =>
    obtain rfl := Option.some.inj h
    rw [hclose]
    rfl
  · next hcomma =>
    obtain ⟨⟨pairs, tail⟩, hpairs, hread⟩ := Option.bind_eq_some_iff.mp h
    obtain rfl := Option.some.inj hread
    rw [hcomma]
    exact Option.bind_eq_some_iff.mpr ⟨_, hfuel.pairs hmore hpairs, rfl⟩
  · exact absurd h (by simp)

variable (more) in
/-- Values, items and pairs are read alike in front of a line break, with any fuel. -/
theorem readsAlike (fuel : Nat) : ReadsAlike more fuel := by
  induction fuel with
  | zero =>
    refine ⟨fun _ h => ?_, fun _ h => ?_, fun _ h => ?_⟩
    · exact absurd h (by simp [readValue])
    · exact absurd h (by simp [readItems])
    · exact absurd h (by simp [readPairs])
  | succ fuel ih =>
    have hsucc {fuel' : Nat} (h : fuel + 1 ≤ fuel') : ∃ more, fuel' = more + 1 ∧ fuel ≤ more := by
      obtain ⟨more, rfl⟩ := Nat.exists_eq_add_one_of_ne_zero (Nat.ne_zero_of_lt h)
      exact ⟨more, rfl, Nat.le_of_succ_le_succ h⟩
    refine ⟨fun hmore h => ?_, fun hmore h => ?_, fun hmore h => ?_⟩
    · obtain ⟨left, rfl, hleft⟩ := hsucc hmore
      exact ih.readValue_succ hleft h
    · obtain ⟨left, rfl, hleft⟩ := hsucc hmore
      exact ih.readItems_succ hleft h
    · obtain ⟨left, rfl, hleft⟩ := hsucc hmore
      exact ih.readPairs_succ hleft h

variable (more) in
/-- A value that is read from a text is read from it in front of a line break, and with more
fuel. -/
theorem readValue_append_break (hmore : fuel ≤ fuel') {read : Item × List Char}
    (h : readValue fuel depth text = some read) :
    readValue fuel' depth (text ++ '\n' :: more) = some (withMore more read) :=
  (readsAlike more fuel).value hmore h

end

end InventoryQuery.Toml
