/-!
# Blank characters

The characters with the Unicode property `White_Space`, and the removal of a run of them from the
end of a text. Filters are cut at blanks, and a setting that holds nothing but blanks counts as
unset.
-/

namespace InventoryQuery.Text

/-- The twenty-five characters that have the Unicode property `White_Space`. -/
def isBlank (c : Char) : Bool :=
  let n := c.toNat
  (0x09 ≤ n && n ≤ 0x0d) || n == 0x20 || n == 0x85 || n == 0xa0 || n == 0x1680 ||
    (0x2000 ≤ n && n ≤ 0x200a) || n == 0x2028 || n == 0x2029 || n == 0x202f ||
    n == 0x205f || n == 0x3000

/-- The text without its trailing blanks: a character stays as soon as a later one does. -/
def trimEnd : List Char → List Char
  | [] => []
  | c :: rest =>
    match trimEnd rest with
    | [] => if isBlank c then [] else [c]
    | kept => c :: kept

/-- A text of blanks alone is trimmed away. -/
theorem trimEnd_eq_nil_iff {text : List Char} : trimEnd text = [] ↔ ∀ c ∈ text, isBlank c = true := by
  induction text with
  | nil => simp [trimEnd]
  | cons c rest ih =>
    rw [trimEnd]
    split
    · next h =>
      have hrest := ih.mp h
      by_cases hc : isBlank c = true
      · simpa [hc] using hrest
      · simp [hc]
    · next h =>
      have hrest : ¬ ∀ c ∈ rest, isBlank c = true := fun hall => h (ih.mpr hall)
      simp only [List.mem_cons, forall_eq_or_imp, reduceCtorEq, false_iff, not_and]
      exact fun _ => hrest

end InventoryQuery.Text
