import InventoryQuery.Json.Printer
import InventoryQuery.Json.Reader
import Mathlib.Tactic.SplitIfs

/-!
# Reading back string literals

A string literal ends at its own closing quotation mark whatever the string holds: the reader takes
the escapes that the printer writes one by one and gives the string back, together with the text
behind the literal.
-/

namespace InventoryQuery.Json

/-- What a reader of strings has read, with more characters in front. -/
def prepend (produced : List Char) (result : List Char × List Char) : List Char × List Char :=
  (produced ++ result.1, result.2)

/-- A character other than the closing quotation mark is taken in by one step of the reader. -/
theorem readString_cons {escape next : Escape} {c : Char} {text : List Char}
    {produced : Option Char} (hopen : c ≠ '"' ∨ escape.isOutside = false)
    (hnext : escape.next c text = .ok (produced, next)) :
    readString escape (c :: text) = (readString next text).map (prepend produced.toList) := by
  have hclose : ¬ (c = '"' && escape.isOutside) = true := by
    rcases hopen with h | h <;> simp [h]
  rw [readString, if_neg hclose, hnext]
  cases hread : readString next text <;> simp [Except.map, prepend, hread]

/-- A character with a short escape is read back from it. -/
theorem readString_shortEscape {c letter : Char} {text : List Char} (hletter : letter ≠ 'u')
    (hescape : simpleEscape? letter = some c) :
    readString .outside ('\\' :: letter :: text) =
      (readString .outside text).map (prepend [c]) := by
  have hstart : Escape.outside.next '\\' (letter :: text) = .ok (none, .started) := rfl
  have htake : Escape.started.next letter text = .ok (some c, .outside) := by
    simp [Escape.next, hletter, hescape]
  rw [readString_cons (.inl (by decide)) hstart, readString_cons (.inr rfl) htake]
  cases readString .outside text <;> rfl

/-- One more digit of a code unit waits for the others as long as there are too few. -/
theorem readString_digit {high : Option Nat} {digits : List Char} {d : Char} {text : List Char}
    (hfew : byteCount (digits ++ [d]) < 4) :
    readString (.unit high digits) (d :: text) = readString (.unit high (digits ++ [d])) text := by
  have htake : Escape.next d text (.unit high digits) = .ok (none, .unit high (digits ++ [d])) := by
    rw [Escape.next, takeDigit, if_pos hfew]
  rw [readString_cons (.inr rfl) htake]
  cases readString (.unit high (digits ++ [d])) text <;> rfl

/-- The four digits of a code unit below the space, as the printer writes them. -/
theorem unitDigits_table : ∀ n < 0x20,
    let digits := ['0', '0', Text.lowerHexDigit (n / 16)]
    byteCount digits < 4 ∧ byteCount (digits ++ [Text.lowerHexDigit (n % 16)]) = 4 ∧
      Text.hexNumber? (digits ++ [Text.lowerHexDigit (n % 16)]) = some n := by
  decide

/-- A character below the space is read back from its code unit. -/
theorem readString_codeUnit {c : Char} {text : List Char} (hc : c.toNat < 0x20) :
    readString .outside ('\\' :: 'u' :: '0' :: '0' :: Text.lowerHexDigit (c.toNat / 16) ::
        Text.lowerHexDigit (c.toNat % 16) :: text) =
      (readString .outside text).map (prepend [c]) := by
  obtain ⟨hfew, hfull, hnumber⟩ := unitDigits_table c.toNat hc
  have hstart (t : List Char) : Escape.outside.next '\\' t = .ok (none, .started) := rfl
  have hunit (t : List Char) : Escape.started.next 'u' t = .ok (none, .unit none []) := rfl
  have hlast : Escape.next (Text.lowerHexDigit (c.toNat % 16)) text
      (.unit none ['0', '0', Text.lowerHexDigit (c.toNat / 16)]) = .ok (some c, .outside) := by
    have huse : useUnit none c.toNat text = .ok (some c, .outside) := by
      have hlow : ¬ 0xdc00 ≤ c.toNat := by omega
      have hhigh : ¬ 0xd800 ≤ c.toNat := by omega
      simp [useUnit, hlow, hhigh, Char.ofNat_toNat]
    rw [Escape.next, takeDigit, if_neg (by omega), hnumber]
    exact huse
  rw [readString_cons (.inl (by decide)) (hstart _), readString_cons (.inr rfl) (hunit _),
    readString_digit (by decide), readString_digit (by decide), readString_digit hfew]
  simp only [List.nil_append, List.cons_append]
  rw [readString_cons (.inr rfl) hlast]
  cases readString .outside text <;> rfl

/-- Each character is read back from the way it is written in a string. -/
theorem readString_escapeChar (c : Char) (text : List Char) :
    readString .outside (escapeChar c ++ text) =
      (readString .outside text).map (prepend [c]) := by
  rw [escapeChar]
  split_ifs with hquote hbackslash hb hf hn hr ht hlow
  · subst hquote; exact readString_shortEscape (by decide) (by decide)
  · subst hbackslash; exact readString_shortEscape (by decide) (by decide)
  · subst hb; exact readString_shortEscape (by decide) (by decide)
  · subst hf; exact readString_shortEscape (by decide) (by decide)
  · subst hn; exact readString_shortEscape (by decide) (by decide)
  · subst hr; exact readString_shortEscape (by decide) (by decide)
  · subst ht; exact readString_shortEscape (by decide) (by decide)
  · exact readString_codeUnit hlow
  · have htake : Escape.outside.next c text = .ok (some c, .outside) := by
      rw [Escape.next, if_neg hbackslash, if_neg hlow]
    exact readString_cons (.inl hquote) htake

/-- The reader stops at the closing quotation mark of a literal and has read the string. -/
theorem readString_quoted (s text : List Char) :
    readString .outside (s.flatMap escapeChar ++ '"' :: text) = .ok (s, text) := by
  induction s with
  | nil => rfl
  | cons c s ih =>
    rw [List.flatMap_cons, List.append_assoc, readString_escapeChar, ih]
    rfl

end InventoryQuery.Json
