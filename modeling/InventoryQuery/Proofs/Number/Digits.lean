import InventoryQuery.Number.Text

/-!
# Decimal digits

The decimal digits of a number are digits, there is at least one of them, and the first one is a
zero only if it is the only one.
-/

namespace InventoryQuery

/-- A character of a class differs from one that is not in it. -/
theorem ne_of_class {p : Char → Bool} {c d : Char} (hc : p c = true) (hd : p d = false) : c ≠ d := by
  rintro rfl
  rw [hd] at hc
  exact absurd hc (by decide)

/-- The decimal digits of a positive number do not start with a zero. -/
theorem head?_decimalDigits_ne {n : Nat} (hn : n ≠ 0) : (decimalDigits n).head? ≠ some '0' := by
  induction n using Nat.strongRecOn with
  | ind n ih =>
    by_cases hsmall : n < 10
    · have hdigit : ∀ n < 10, n ≠ 0 → n.digitChar ≠ '0' := by decide
      rw [decimalDigits, Nat.toDigits_of_lt_base hsmall]
      simpa using hdigit n hsmall hn
    · have hfront := ih (n / 10) (by omega) (by omega)
      rw [decimalDigits] at hfront ⊢
      rw [Nat.toDigits_of_base_le (by decide) (by omega)]
      obtain ⟨first, others, hfirst⟩ := List.exists_cons_of_ne_nil
        (Nat.toDigits_ne_nil : Nat.toDigits 10 (n / 10) ≠ [])
      rw [hfirst] at hfront ⊢
      exact hfront

/-- The digits of a number are some digits, of which the first is a zero only if it is the only
one. -/
theorem exists_decimalDigits_eq_cons (n : Nat) :
    ∃ first others, decimalDigits n = first :: others ∧
      (∀ c ∈ first :: others, c.isDigit = true) ∧ (first = '0' → others = []) := by
  obtain ⟨first, others, hdigits⟩ : ∃ first others, decimalDigits n = first :: others :=
    List.exists_cons_of_ne_nil Nat.toDigits_ne_nil
  refine ⟨first, others, hdigits, fun c hc => ?_, fun hzero => ?_⟩
  · rw [← hdigits] at hc
    exact Nat.isDigit_of_mem_toDigits (by decide) (by decide) hc
  · by_cases hn : n = 0
    · subst hn
      exact (List.cons.inj hdigits).2.symm
    · exact absurd (by rw [hdigits, hzero]; rfl) (head?_decimalDigits_ne hn)

end InventoryQuery
