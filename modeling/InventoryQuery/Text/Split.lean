/-!
# Parts of a text

The text before and after a separator, and parts of a text joined by one.
-/

namespace InventoryQuery.Text

/-- The text before the first separator and the text after it, which is empty if there is none. -/
def splitFirst (separator : Char) (text : List Char) : List Char × List Char :=
  (text.takeWhile (· ≠ separator), (text.dropWhile (· ≠ separator)).drop 1)

/-- Parts joined by a separator. -/
def joinWith (separator : Char) : List (List Char) → List Char
  | [] => []
  | [part] => part
  | part :: parts => part ++ separator :: joinWith separator parts

/-- A part in front of other parts is followed by a separator. -/
theorem joinWith_cons (separator : Char) (part : List Char) {parts : List (List Char)}
    (hparts : parts ≠ []) :
    joinWith separator (part :: parts) = part ++ separator :: joinWith separator parts := by
  cases parts with
  | nil => exact absurd rfl hparts
  | cons _ _ => rfl

/-- Joined parts start with the first one. -/
theorem exists_joinWith_cons (separator : Char) (part : List Char) (parts : List (List Char)) :
    ∃ rest, joinWith separator (part :: parts) = part ++ rest := by
  cases parts with
  | nil => exact ⟨[], (List.append_nil part).symm⟩
  | cons _ _ => exact ⟨_, rfl⟩

/-- One part of several is shorter than all of them joined. -/
theorem length_lt_joinWith (separator : Char) {part : List Char} {parts : List (List Char)}
    (hpart : part ∈ parts) (hseveral : 1 < parts.length) :
    part.length < (joinWith separator parts).length := by
  induction parts with
  | nil => simp at hpart
  | cons first rest ih =>
    have hrest : rest ≠ [] := by
      rintro rfl
      simp at hseveral
    rw [joinWith_cons separator first hrest, List.length_append, List.length_cons]
    rcases List.mem_cons.mp hpart with rfl | hpart
    · omega
    · match rest with
      | [single] =>
        obtain rfl := List.mem_singleton.mp hpart
        simp only [joinWith]
        omega
      | second :: third :: more =>
        have := ih hpart (by simp)
        omega

end InventoryQuery.Text
