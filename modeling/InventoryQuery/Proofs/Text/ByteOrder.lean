import InventoryQuery.Text.Utf8
import Mathlib.Data.Char
import Mathlib.Data.List.Lex

/-!
# The order of bytes

Texts are in the order of their code points exactly when their bytes in UTF-8 are in the order of
bytes. A character with a longer encoding starts with a greater byte, and the bytes of one length
are the digits of the code point behind the marks of their places.
-/

namespace InventoryQuery.Text

/-- Bytes are in order when the first ones are, or are the same in front of bytes in order. -/
theorem ofNat_cons_lt_iff {a b : Nat} (ha : a < 256) (hb : b < 256) (rest more : List UInt8) :
    UInt8.ofNat a :: rest < UInt8.ofNat b :: more ↔ a < b ∨ a = b ∧ rest < more := by
  rw [List.cons_lt_cons_iff, UInt8.lt_iff_toNat_lt, ← UInt8.toNat_inj, UInt8.toNat_ofNat_of_lt' ha,
    UInt8.toNat_ofNat_of_lt' hb]

/-- A character in front of another one has bytes in front of the other's, whatever follows them. -/
theorem utf8EncodeChar_append_lt {c d : Char} (h : c < d) (rest more : List UInt8) :
    String.utf8EncodeChar c ++ rest < String.utf8EncodeChar d ++ more := by
  have hvalues : c.val.toNat < d.val.toNat := h
  have hbound : d.val.toNat < 1114112 := by
    rcases d.valid with hlow | hhigh
    · exact hlow.trans (by decide)
    · exact hhigh.2
  simp only [String.utf8EncodeChar]
  generalize c.val.toNat = v at hvalues
  generalize d.val.toNat = w at hvalues hbound
  have hdigits (n : Nat) : n / 4096 = n / 64 / 64 ∧ n / 262144 = n / 64 / 64 / 64 := by omega
  rw [(hdigits v).1, (hdigits v).2, (hdigits w).1, (hdigits w).2]
  split_ifs <;> first
    | omega
    | simp (disch := omega) only [List.cons_append, List.nil_append, ofNat_cons_lt_iff]
      omega

/-- The bytes of texts are in order when the texts are. -/
theorem bytes_lt_bytes {a b : List Char} (h : a < b) : bytes a < bytes b := by
  induction a generalizing b with
  | nil =>
    cases b with
    | nil => exact absurd h (List.lt_irrefl _)
    | cons d b =>
      have hne : String.utf8EncodeChar d ≠ [] := by
        rw [← List.length_pos_iff, String.length_utf8EncodeChar]
        exact d.utf8Size_pos
      obtain ⟨byte, more, hbytes⟩ := List.exists_cons_of_ne_nil hne
      rw [bytes, bytes, List.flatMap_nil, List.flatMap_cons, hbytes]
      exact List.nil_lt_cons _ _
  | cons c a ih =>
    cases b with
    | nil => exact absurd h (List.not_lt_nil _)
    | cons d b =>
      rw [bytes, bytes, List.flatMap_cons, List.flatMap_cons]
      rcases List.cons_lt_cons_iff.mp h with hcd | ⟨rfl, hab⟩
      · exact utf8EncodeChar_append_lt hcd _ _
      · exact List.append_left_lt (ih hab)

/-- Texts are in order exactly when their bytes are. -/
theorem bytes_lt_bytes_iff {a b : List Char} : bytes a < bytes b ↔ a < b := by
  refine ⟨fun h => ?_, bytes_lt_bytes⟩
  rcases lt_trichotomy a b with hab | rfl | hba
  · exact hab
  · exact absurd h (List.lt_irrefl _)
  · exact absurd (bytes_lt_bytes hba) (List.lt_asymm h)

/-- When texts increase strictly in the order of their bytes. -/
def IncreaseInBytes (texts : List String) : Prop :=
  texts.Pairwise fun a b => bytes a.toList < bytes b.toList

end InventoryQuery.Text
