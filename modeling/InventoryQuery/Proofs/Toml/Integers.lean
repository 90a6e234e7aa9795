import InventoryQuery.Proofs.Number.Digits
import InventoryQuery.Toml.Scalar
import InventoryQuery.Toml.Writer

/-!
# Reading back TOML integers

A natural number is read back from its decimal digits in front of the end of a line. The reader
tries points in time and numbers with a fraction first: digits alone are the start of either, but
the mark that would have to follow them is not there.
-/

namespace InventoryQuery.Toml

/-- The value of a decimal digit. -/
theorem hexValue?_of_isDigit {c : Char} (hc : c.isDigit = true) :
    Text.hexValue? c = some (c.toNat - '0'.toNat) := by
  obtain ⟨hlow, hhigh⟩ : 48 ≤ c.toNat ∧ c.toNat ≤ 57 := by
    simpa [Char.isDigit, UInt32.le_iff_toNat_le] using hc
  have hrange : (48 ≤ c.toNat && c.toNat ≤ 57) = true := by simp [hlow, hhigh]
  rw [Text.hexValue?, if_pos hrange]
  rfl

/-- A decimal digit is a digit in base ten. -/
theorem isDigitOf_ten {c : Char} (hc : c.isDigit = true) : isDigitOf 10 c = true := by
  have hhigh : c.toNat ≤ 57 := by
    have hrange : 48 ≤ c.toNat ∧ c.toNat ≤ 57 := by
      simpa [Char.isDigit, UInt32.le_iff_toNat_le] using hc
    exact hrange.2
  rw [isDigitOf, hexValue?_of_isDigit hc]
  have hzero : '0'.toNat = 48 := rfl
  simp only [hzero, decide_eq_true_eq]
  omega

/-- A number is read back from its decimal digits. -/
theorem numberOf_decimalDigits (n : Nat) : numberOf 10 (decimalDigits n) = n := by
  have hdigits : ∀ c ∈ decimalDigits n, c.isDigit = true := fun c hc =>
    Nat.isDigit_of_mem_toDigits (by decide) (by decide) hc
  have hfold (digits : List Char) (hdigits : ∀ c ∈ digits, c.isDigit = true) (total : Nat) :
      digits.foldl (fun total c => 10 * total + (Text.hexValue? c).getD 0) total =
        Nat.ofDigitChars 10 digits total := by
    induction digits generalizing total with
    | nil => rfl
    | cons c digits ih =>
      obtain ⟨hc, hdigits⟩ := List.forall_mem_cons.mp hdigits
      rw [List.foldl_cons, hexValue?_of_isDigit hc, ih hdigits]
      rfl
  rw [numberOf, hfold _ hdigits]
  exact Nat.ofDigitChars_ten_toDigits

section

variable {digits : List Char} (hdigits : ∀ c ∈ digits, c.isDigit = true) (rest : List Char)

include hdigits

/-- A group of digits goes on up to the end of the line. -/
theorem readMoreDigits_append :
    readMoreDigits 10 (digits ++ '\n' :: rest) = some (digits, '\n' :: rest) := by
  induction digits with
  | nil => rfl
  | cons c digits ih =>
    obtain ⟨hc, hdigits⟩ := List.forall_mem_cons.mp hdigits
    have hmark : c ≠ '_' := ne_of_class hc rfl
    rw [List.cons_append, readMoreDigits]
    · rw [if_pos (isDigitOf_ten hc), ih hdigits]
      rfl
    · exact fun d rest hc _ => hmark hc

/-- A mark does not follow digits and the end of a line. -/
theorem after?_eq_none {mark : Char} (hmark : mark.isDigit = false) (hbreak : mark ≠ '\n') :
    after? mark (digits ++ '\n' :: rest) = none := by
  cases digits with
  | nil => exact if_neg fun h => hbreak h.symm
  | cons c digits =>
    exact if_neg (ne_of_class (hdigits c List.mem_cons_self) hmark)

/-- A number of a fixed count of digits is followed by the other digits. -/
theorem readFixed_append {count number : Nat} {left : List Char}
    (h : readFixed count (digits ++ '\n' :: rest) = some (number, left)) :
    ∃ others, (∀ c ∈ others, c.isDigit = true) ∧ left = others ++ '\n' :: rest := by
  rw [readFixed] at h
  split at h
  · next hfixed =>
    obtain ⟨-, hall⟩ := Bool.and_eq_true_iff.mp hfixed
    have hcount : count ≤ digits.length := by
      refine Nat.le_of_not_lt fun hlong => ?_
      have hbreak : '\n' ∈ (digits ++ '\n' :: rest).take count := by
        obtain ⟨more, hmore⟩ := Nat.exists_eq_add_of_lt hlong
        rw [List.take_append, hmore, show digits.length + more + 1 - digits.length = more + 1 by omega]
        simp
      exact absurd (List.all_eq_true.mp hall _ hbreak) (by decide)
    have hleft : (digits ++ '\n' :: rest).drop count = left :=
      congrArg Prod.snd (Option.some.inj h)
    refine ⟨digits.drop count, fun c hc => hdigits c (List.mem_of_mem_drop hc), ?_⟩
    rw [← hleft, List.drop_append_of_le_length hcount]
  · exact absurd h (by simp)

/-- Digits alone are no point in time. -/
theorem readMoment_append : readMoment (digits ++ '\n' :: rest) = none := by
  have hdate : afterDate? (digits ++ '\n' :: rest) = none := by
    cases hfixed : readFixed 4 (digits ++ '\n' :: rest) with
    | none => simp [afterDate?, hfixed]
    | some year =>
      obtain ⟨others, hothers, hleft⟩ := readFixed_append hdigits rest hfixed
      have hafter : after? '-' (others ++ '\n' :: rest) = none :=
        after?_eq_none hothers rest (by decide) (by decide)
      simp [afterDate?, hfixed, hleft, hafter]
  have htime : afterTime? (digits ++ '\n' :: rest) = none := by
    cases hfixed : readFixed 2 (digits ++ '\n' :: rest) with
    | none => simp [afterTime?, afterHourMinute?, hfixed]
    | some hour =>
      obtain ⟨others, hothers, hleft⟩ := readFixed_append hdigits rest hfixed
      have hafter : after? ':' (others ++ '\n' :: rest) = none :=
        after?_eq_none hothers rest (by decide) (by decide)
      simp [afterTime?, afterHourMinute?, hfixed, hleft, hafter]
  simp [readMoment, hdate, htime]

end

/-- Digits that start with a zero only if there is no other one are read as a whole. -/
theorem readWhole_decimalDigits (n : Nat) (rest : List Char) :
    readWhole (decimalDigits n ++ '\n' :: rest) = some (decimalDigits n, '\n' :: rest) := by
  obtain ⟨first, others, hnumber, hdigits, hzero⟩ := exists_decimalDigits_eq_cons n
  obtain ⟨hfirst, hothers⟩ := List.forall_mem_cons.mp hdigits
  rw [hnumber, List.cons_append]
  by_cases hc : first = '0'
  · rw [hzero hc, hc]
    rfl
  · rw [readWhole]
    · rw [readDigits, if_pos (isDigitOf_ten hfirst), readMoreDigits_append hothers]
      rfl
    · exact fun text h => hc (List.cons.inj h).1

/-- A digit is no sign. -/
theorem readSign_of_isDigit {c : Char} (hc : c.isDigit = true) (text : List Char) :
    readSign (c :: text) = (false, c :: text) := by
  unfold readSign
  split
  · next h => exact absurd (List.cons.inj h).1 (ne_of_class hc rfl)
  · next h => exact absurd (List.cons.inj h).1 (ne_of_class hc rfl)
  · rfl

/-- Digits alone are no number with a fraction. -/
theorem readFloat_decimalDigits (n : Nat) (rest : List Char) :
    readFloat (decimalDigits n ++ '\n' :: rest) = none := by
  have hwhole := readWhole_decimalDigits n rest
  obtain ⟨first, others, hnumber, hdigits, -⟩ := exists_decimalDigits_eq_cons n
  have hfirst := hdigits first List.mem_cons_self
  rw [hnumber, List.cons_append] at hwhole ⊢
  simp only [readFloat, readSign_of_isDigit hfirst]
  split
  · next h => exact absurd (List.cons.inj h).1 (ne_of_class hfirst rfl)
  · next h => exact absurd (List.cons.inj h).1 (ne_of_class hfirst rfl)
  · rw [hwhole]
    rfl

/-- A natural number that is not too great is an integer. -/
theorem integer?_natCast {n : Nat} (hn : n ≤ maxInteger) : integer? n = some (.integer n) := by
  have hless : n < Nat.pow 2 63 := Nat.lt_of_le_pred (Nat.pow_pos (by decide)) hn
  have hlow : -((Nat.pow 2 63 : Nat) : Int) ≤ n := by omega
  have hhigh : (n : Int) < (Nat.pow 2 63 : Nat) := Int.ofNat_lt.mpr hless
  rw [integer?]
  exact if_pos (Bool.and_eq_true_iff.mpr ⟨decide_eq_true hlow, decide_eq_true hhigh⟩)

/-- A natural number that is not too great is read from its digits as an integer in base ten. -/
theorem readInteger_decimalDigits {n : Nat} (hn : n ≤ maxInteger) (rest : List Char) :
    readInteger (decimalDigits n ++ '\n' :: rest) = some (.integer n, '\n' :: rest) := by
  have hwhole := readWhole_decimalDigits n rest
  have hnumber := numberOf_decimalDigits n
  obtain ⟨first, others, hdecimal, hdigits, hzero⟩ := exists_decimalDigits_eq_cons n
  have hfirst := hdigits first List.mem_cons_self
  rw [hdecimal] at hwhole hnumber ⊢
  have hbase : ∀ mark, mark ≠ '\n' → ∀ text,
      first :: others ++ '\n' :: rest ≠ '0' :: mark :: text := by
    intro mark hmark text h
    rw [List.cons_append] at h
    obtain ⟨hc, htail⟩ := List.cons.inj h
    rw [hzero hc] at htail
    exact hmark (List.cons.inj htail).1.symm
  have hinteger : integer? (numberOf 10 (first :: others)) = some (.integer n) := by
    rw [hnumber]
    exact integer?_natCast hn
  rw [List.cons_append] at hwhole hbase ⊢
  rw [readInteger, readSign_of_isDigit hfirst]
  · exact Option.bind_eq_some_iff.mpr
      ⟨_, hwhole, Option.bind_eq_some_iff.mpr ⟨_, hinteger, rfl⟩⟩
  · exact fun text h => hbase 'x' (by decide) text h
  · exact fun text h => hbase 'o' (by decide) text h
  · exact fun text h => hbase 'b' (by decide) text h

/-- A natural number that is not too great is read back from its digits. -/
theorem readNumberOrMoment_decimalDigits {n : Nat} (hn : n ≤ maxInteger) (rest : List Char) :
    readNumberOrMoment (decimalDigits n ++ '\n' :: rest) =
      some (.integer n, '\n' :: rest) := by
  rw [readNumberOrMoment, readFloat_decimalDigits, readInteger_decimalDigits hn]
  have hdigits : ∀ c ∈ decimalDigits n, c.isDigit = true := fun c hc =>
    Nat.isDigit_of_mem_toDigits (by decide) (by decide) hc
  rw [readMoment_append hdigits]
  rfl

end InventoryQuery.Toml
