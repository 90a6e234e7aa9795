/-!
# Lists ordered by key

Finite maps from text to values, held as lists of pairs whose keys increase strictly in the order
of code points, which for text in UTF-8 is the order of its bytes. Inserting at a key that is
already present replaces its value, so of several insertions at one key the last one counts.
-/

namespace InventoryQuery

/-- A finite map from text, as its pairs in increasing order of keys. -/
abbrev Keyed (α : Type) := List (String × α)

namespace Keyed

variable {α : Type}

/-- The map with the value at `key` set. -/
def insert (key : String) (value : α) : Keyed α → Keyed α
  | [] => [(key, value)]
  | (k, v) :: rest =>
    if key < k then (key, value) :: (k, v) :: rest
    else if key = k then (key, value) :: rest
    else (k, v) :: insert key value rest

/-- The value at `key`. -/
def find? (key : String) : Keyed α → Option α
  | [] => none
  | (k, v) :: rest => if k = key then some v else find? key rest

/-- The map of the pairs, of which a later one replaces an earlier one with the same key. -/
def ofPairs (pairs : List (String × α)) : Keyed α :=
  pairs.foldl (fun map pair => insert pair.1 pair.2 map) []

/-- The keys increase strictly. -/
def Sorted (map : Keyed α) : Prop := (map.map Prod.fst).Pairwise (· < ·)

@[simp] theorem find?_nil (key : String) : find? key ([] : Keyed α) = none := rfl

/-- After an insertion the key has the new value and every other key its old one. -/
theorem find?_insert (key other : String) (value : α) (map : Keyed α) :
    find? other (insert key value map) = if key = other then some value else find? other map := by
  induction map with
  | nil => simp [insert, find?]
  | cons pair rest ih =>
    obtain ⟨k, v⟩ := pair
    simp only [insert]
    split
    · simp [find?]
    · split
      · next h => subst h; by_cases hk : key = other <;> simp [find?, hk]
      · next h =>
        simp only [find?, ih]
        by_cases hk : k = other
        · have : key ≠ other := fun he => h (he.trans hk.symm)
          simp [hk, this]
        · simp [hk]

end Keyed

end InventoryQuery
