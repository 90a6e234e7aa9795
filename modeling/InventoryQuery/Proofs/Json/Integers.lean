import InventoryQuery.Proofs.Json.ReadBack
import InventoryQuery.Proofs.Number.Digits

/-!
# Reading back JSON integers

An integer that fits into 64 bits, with a sign or without one, is read back from its decimal digits
in front of any text that does not go on with the number. The significand of the reader holds all of
the digits, so none of them counts for its place alone.
-/

namespace InventoryQuery.Json

/-- When a number is what an integer is read as: an integer between `-2 ^ 63` and `2 ^ 64 - 1`, or
the negative zero, which `-0` is read as. -/
def Number.IsWhole : Number → Prop
  | .integer n => -((Nat.pow 2 63 : Nat) : Int) ≤ n ∧ n < (Nat.pow 2 64 : Nat)
  | .double x => x = .zero true

/-- Whether a text may stand behind a number: it goes on neither with a digit nor with the mark of a
fraction or of an exponent. -/
def endsNumber : List Char → Bool
  | [] => true
  | c :: _ => !c.isDigit && c != '.' && c != 'e' && c != 'E'

section

variable {rest : List Char} (hrest : endsNumber rest = true)

include hrest

/-- No digit goes on behind a number. -/
theorem takeWhile_isDigit_of_endsNumber : rest.takeWhile Char.isDigit = [] := by
  cases rest with
  | nil => rfl
  | cons c rest =>
    simp only [endsNumber, Bool.and_eq_true, Bool.not_eq_true'] at hrest
    exact List.takeWhile_cons_of_neg (by simp [hrest.1.1.1])

/-- Digits are read up to the text behind the number. -/
theorem readDigits_append {digits : List Char} (hne : digits ≠ [])
    (hdigits : ∀ c ∈ digits, c.isDigit = true) :
    readDigits (digits ++ rest) = .ok (digits, rest) := by
  have htake : (digits ++ rest).takeWhile Char.isDigit = digits := by
    rw [List.takeWhile_append_of_pos hdigits, takeWhile_isDigit_of_endsNumber hrest,
      List.append_nil]
  have hdrop : (digits ++ rest).dropWhile Char.isDigit = rest := by
    have hboth := List.takeWhile_append_dropWhile (p := Char.isDigit) (l := digits ++ rest)
    rw [htake] at hboth
    exact List.append_cancel_left hboth
  obtain ⟨first, others, rfl⟩ := List.exists_cons_of_ne_nil hne
  unfold readDigits
  rw [htake, hdrop]

/-- The digits of a number are read as a whole. -/
theorem readWhole_decimalDigits (n : Nat) :
    readWhole (decimalDigits n ++ rest) = .ok (decimalDigits n, rest) := by
  obtain ⟨first, others, hnumber, hdigits, hzero⟩ := exists_decimalDigits_eq_cons n
  have hread : readDigits (first :: others ++ rest) = .ok (first :: others, rest) :=
    readDigits_append hrest (List.cons_ne_nil _ _) hdigits
  rw [hnumber]
  unfold readWhole
  split
  · next d more htext =>
    rw [List.cons_append] at htext
    obtain ⟨hfirst, hmore⟩ := List.cons.inj htext
    rw [hzero hfirst, List.nil_append] at hmore
    subst hmore
    simp only [endsNumber, Bool.and_eq_true, Bool.not_eq_true'] at hrest
    simp [hrest.1.1.1, hfirst, hzero hfirst]
  · exact hread

/-- There is no fraction behind a number. -/
theorem readFraction_eq_none : readFraction rest = .ok (none, rest) := by
  unfold readFraction
  split
  · simp [endsNumber] at hrest
  · rfl

/-- There is no exponent behind a number. -/
theorem readExponent_eq_none : readExponent rest = .ok (none, rest) := by
  cases rest with
  | nil => rfl
  | cons c rest =>
    simp only [endsNumber, Bool.and_eq_true, bne_iff_ne] at hrest
    simp [readExponent, hrest.1.2, hrest.2]

end

/-- More digits do not make a number smaller. -/
theorem le_ofDigitChars (digits : List Char) (total : Nat) :
    total ≤ Nat.ofDigitChars 10 digits total := by
  induction digits generalizing total with
  | nil => exact Nat.le_refl total
  | cons d digits ih =>
    rw [Nat.ofDigitChars_cons]
    exact Nat.le_trans (by omega) (ih _)

/-- All digits of a number that fits are gathered. -/
theorem gather_eq {digits : List Char} {significand : Nat}
    (hfits : Nat.ofDigitChars 10 digits significand ≤ maxSignificand) :
    gather significand digits = (Nat.ofDigitChars 10 digits significand, 0) := by
  induction digits generalizing significand with
  | nil => rfl
  | cons d digits ih =>
    rw [Nat.ofDigitChars_cons] at hfits ⊢
    have hnext : ¬ 10 * significand + digitValue d > maxSignificand :=
      Nat.not_lt.mpr (Nat.le_trans (le_ofDigitChars digits _) hfits)
    rw [gather]
    simp only [if_neg hnext]
    exact ih hfits

/-- The digits of a number that fits are gathered to the number. -/
theorem gather_decimalDigits {n : Nat} (hn : n ≤ maxSignificand) :
    gather 0 (decimalDigits n) = (n, 0) := by
  have hvalue : Nat.ofDigitChars 10 (decimalDigits n) 0 = n := Nat.ofDigitChars_ten_toDigits
  have hfits : Nat.ofDigitChars 10 (decimalDigits n) 0 ≤ maxSignificand := by rwa [hvalue]
  rw [gather_eq hfits, hvalue]

/-- A number that is written in digits alone is read as its value. -/
theorem readNumber_decimalDigits {negative : Bool} {n : Nat} {number : Number} {rest : List Char}
    (hrest : endsNumber rest = true)
    (hvalue : NumberParts.value? ⟨negative, decimalDigits n, none, none⟩ = some number) :
    readNumber negative (decimalDigits n ++ rest) = .ok (.number number, rest) := by
  rw [readNumber, readWhole_decimalDigits hrest]
  simp [bind, Except.bind, pure, Except.pure, readFraction_eq_none hrest,
    readExponent_eq_none hrest, hvalue]

/-- A natural number that fits is read back from its digits. -/
theorem readNumber_natural {n : Nat} (hn : n ≤ maxSignificand) {rest : List Char}
    (hrest : endsNumber rest = true) :
    readNumber false (decimalDigits n ++ rest) = .ok (.number (.integer n), rest) := by
  apply readNumber_decimalDigits hrest
  simp [NumberParts.value?, gather_decimalDigits hn]

/-- A negative number that fits is read back from the digits behind its sign. -/
theorem readNumber_negative {n : Nat} (hpos : n ≠ 0) (hn : n ≤ Nat.pow 2 63) {rest : List Char}
    (hrest : endsNumber rest = true) :
    readNumber true (decimalDigits n ++ rest) = .ok (.number (.integer (-(n : Int))), rest) := by
  have hfits : n ≤ maxSignificand := Nat.le_trans hn (by decide)
  apply readNumber_decimalDigits hrest
  simp [NumberParts.value?, gather_decimalDigits hfits, hpos, hn]

/-- The negative zero is read back from its text. -/
theorem readNumber_negativeZero {rest : List Char} (hrest : endsNumber rest = true) :
    readNumber true ('0' :: '.' :: '0' :: rest) = .ok (.number (.double (.zero true)), rest) := by
  have hwhole : readWhole ('0' :: '.' :: '0' :: rest) = .ok (['0'], '.' :: '0' :: rest) := rfl
  have hdigits : readDigits ('0' :: rest) = .ok (['0'], rest) :=
    readDigits_append hrest (List.cons_ne_nil '0' []) (List.forall_mem_singleton.mpr rfl)
  have hvalue : NumberParts.value? ⟨true, ['0'], some ['0'], none⟩ = some (.double (.zero true)) :=
    rfl
  rw [readNumber, hwhole]
  simp [bind, Except.bind, pure, Except.pure, readFraction, hdigits, Except.map,
    readExponent_eq_none hrest, hvalue]

/-- A digit is no space. -/
theorem isSpace_of_isDigit {c : Char} (hc : c.isDigit = true) : isSpace c = false := by
  simp [isSpace, ne_of_class (d := ' ') hc rfl, ne_of_class (d := '\n') hc rfl,
    ne_of_class (d := '\t') hc rfl, ne_of_class (d := '\r') hc rfl]

/-- A text that starts with a digit is read as a number. -/
theorem readValue_of_isDigit {c : Char} (hc : c.isDigit = true) (fuel depth : Nat)
    (text : List Char) : readValue (fuel + 1) depth (c :: text) = readNumber false (c :: text) := by
  rw [readValue, skipSpace_cons (isSpace_of_isDigit hc)]
  simp only [if_neg (ne_of_class (d := '"') hc rfl), if_neg (ne_of_class (d := '[') hc rfl),
    if_neg (ne_of_class (d := '\x7b') hc rfl), if_neg (ne_of_class (d := '-') hc rfl), if_pos hc]

/-- A text that starts with a sign is read as a number. -/
theorem readValue_minus (fuel depth : Nat) (text : List Char) :
    readValue (fuel + 1) depth ('-' :: text) = readNumber true text := by
  rw [readValue, skipSpace_cons (by decide)]
  rfl

/-- An integer that fits is read back from its text. -/
theorem readValue_integer {n : Int} (hn : (Number.integer n).IsWhole) (fuel depth : Nat)
    {rest : List Char} (hrest : endsNumber rest = true) :
    readValue (fuel + 1) depth (decimalInteger n ++ rest) = .ok (.number (.integer n), rest) := by
  obtain ⟨hlow, hhigh⟩ := hn
  rw [decimalInteger]
  split
  · next hnegative =>
    have hpos : n.natAbs ≠ 0 := by omega
    have hfits : n.natAbs ≤ Nat.pow 2 63 := by omega
    rw [List.cons_append, readValue_minus, readNumber_negative hpos hfits hrest,
      Int.ofNat_natAbs_of_nonpos (by omega), Int.neg_neg]
  · next hnatural =>
    have hfits : n.natAbs ≤ maxSignificand := by
      have hless : n.natAbs < Nat.pow 2 64 := by omega
      exact Nat.le_sub_one_of_lt hless
    have hread := readNumber_natural hfits hrest
    rw [Int.natAbs_of_nonneg (by omega)] at hread
    obtain ⟨first, others, hdigits, hall, -⟩ := exists_decimalDigits_eq_cons n.natAbs
    rw [hdigits, List.cons_append] at hread ⊢
    rw [readValue_of_isDigit (hall first List.mem_cons_self), hread]

/-- What an integer is read as is read back from its text. -/
theorem readValue_number {number : Number} (hnumber : number.IsWhole) (fuel depth : Nat)
    {rest : List Char} (hrest : endsNumber rest = true) :
    readValue (fuel + 1) depth (number.print ++ rest) = .ok (.number number, rest) := by
  cases number with
  | integer n => exact readValue_integer hnumber fuel depth hrest
  | double x =>
    obtain rfl : x = .zero true := hnumber
    exact (readValue_minus fuel depth _).trans (readNumber_negativeZero hrest)

end InventoryQuery.Json
