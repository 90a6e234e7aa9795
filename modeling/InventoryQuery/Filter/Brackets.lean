/-!
# Bracket depth

How many square brackets are open at a place of a filter. An opening bracket adds one; a closing
bracket removes one, and does nothing where none is open.
-/

namespace InventoryQuery.Filter

/-- The depth after one more character. -/
def nest (depth : Nat) (c : Char) : Nat :=
  if c = '[' then depth + 1 else if c = ']' then depth - 1 else depth

/-- The depth after a text that starts at the given depth. -/
def depthAfter (depth : Nat) (text : List Char) : Nat := text.foldl nest depth

@[simp] theorem depthAfter_nil (depth : Nat) : depthAfter depth [] = depth := rfl

@[simp] theorem depthAfter_cons (depth : Nat) (c : Char) (text : List Char) :
    depthAfter depth (c :: text) = depthAfter (nest depth c) text := rfl

theorem depthAfter_append (depth : Nat) (a b : List Char) :
    depthAfter depth (a ++ b) = depthAfter (depthAfter depth a) b :=
  List.foldl_append

end InventoryQuery.Filter
