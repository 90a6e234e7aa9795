import InventoryQuery.Keyed
import InventoryQuery.Proofs.Text.ByteOrder
import Mathlib.Data.List.Induction
import Mathlib.Data.List.Perm.Basic
import Mathlib.Data.List.Nodup
import Mathlib.Data.String.Basic

/-!
# Lists ordered by key

Insertions keep the keys in increasing order, and a list with its keys in increasing order is
determined by the values that are found in it. In the map of some pairs with different keys the
values are found that the pairs have.
-/

namespace InventoryQuery.Keyed

variable {α : Type} {key : String} {value : α} {map : Keyed α}

/-- The keys of a list increase when those behind the first one are greater and increase. -/
theorem sorted_cons_iff {pair : String × α} :
    Sorted (pair :: map) ↔ (∀ other ∈ map, pair.1 < other.1) ∧ Sorted map := by
  rw [Sorted, List.map_cons, List.pairwise_cons, List.forall_mem_map, Sorted]

/-- The keys increase when each pair is in front of those with a greater key. -/
theorem sorted_iff_pairwise : Sorted map ↔ map.Pairwise (fun a b => a.1 < b.1) := List.pairwise_map

/-- The keys increase exactly when their bytes do. -/
theorem sorted_iff_bytes : Sorted map ↔ Text.IncreaseInBytes (map.map Prod.fst) :=
  List.Pairwise.iff fun _ _ => String.lt_iff_toList_lt.trans Text.bytes_lt_bytes_iff.symm

/-- An insertion adds its own pair only. -/
theorem mem_insert {pair : String × α} (h : pair ∈ insert key value map) :
    pair = (key, value) ∨ pair ∈ map := by
  induction map with
  | nil => exact .inl (List.mem_singleton.mp h)
  | cons first rest ih =>
    obtain ⟨k, v⟩ := first
    rw [insert] at h
    split at h
    · exact List.mem_cons.mp h
    · split at h
      · exact (List.mem_cons.mp h).imp_right (List.mem_cons_of_mem _)
      · rcases List.mem_cons.mp h with rfl | h
        · exact .inr (.head _)
        · exact (ih h).imp_right (List.mem_cons_of_mem _)

/-- What is inserted is there. -/
theorem insert_ne_nil : insert key value map ≠ [] := by
  cases map with
  | nil => exact List.cons_ne_nil _ _
  | cons first rest =>
    obtain ⟨k, v⟩ := first
    rw [insert]
    split
    · exact List.cons_ne_nil _ _
    · split <;> exact List.cons_ne_nil _ _

/-- No keys are in increasing order. -/
theorem sorted_nil : Sorted ([] : Keyed α) := List.Pairwise.nil

/-- An insertion keeps the keys in increasing order. -/
theorem Sorted.insert (h : Sorted map) : Sorted (insert key value map) := by
  induction map with
  | nil => exact sorted_cons_iff.mpr ⟨List.forall_mem_nil _, sorted_nil⟩
  | cons first rest ih =>
    obtain ⟨k, v⟩ := first
    obtain ⟨hfirst, hrest⟩ := sorted_cons_iff.mp h
    rw [Keyed.insert]
    split
    · next hlt =>
      refine sorted_cons_iff.mpr ⟨List.forall_mem_cons.mpr ⟨hlt, fun other hother => ?_⟩, h⟩
      exact hlt.trans (hfirst other hother)
    · next hge =>
      split
      · next heq =>
        subst heq
        exact sorted_cons_iff.mpr ⟨hfirst, hrest⟩
      · next hne =>
        refine sorted_cons_iff.mpr ⟨fun other hother => ?_, ih hrest⟩
        rcases mem_insert hother with rfl | hother
        · exact lt_of_le_of_ne (not_lt.mp hge) (Ne.symm hne)
        · exact hfirst other hother

/-- What is found at a key is in the list. -/
theorem mem_of_find? (h : find? key map = some value) : (key, value) ∈ map := by
  induction map with
  | nil => contradiction
  | cons first rest ih =>
    obtain ⟨k, v⟩ := first
    rw [find?] at h
    split at h
    · next hkey =>
      subst hkey
      rw [Option.some.injEq] at h
      subst h
      exact .head _
    · exact .tail _ (ih h)

/-- Among different keys a value is found at a key exactly when the pair is in the list. -/
theorem find?_eq_some_iff (hkeys : (map.map Prod.fst).Nodup) :
    find? key map = some value ↔ (key, value) ∈ map := by
  refine ⟨mem_of_find?, fun hmem => ?_⟩
  induction map with
  | nil => contradiction
  | cons first rest ih =>
    obtain ⟨k, v⟩ := first
    rw [List.map_cons, List.nodup_cons] at hkeys
    obtain ⟨hfirst, hrest⟩ := hkeys
    rw [find?]
    rcases List.mem_cons.mp hmem with hpair | hmem
    · obtain ⟨rfl, rfl⟩ := Prod.mk.inj hpair
      rw [if_pos rfl]
    · have hrestKey : key ∈ rest.map Prod.fst := List.mem_map_of_mem hmem
      have hne : k ≠ key := fun hk => hfirst (hk ▸ hrestKey)
      rw [if_neg hne, ih hrest hmem]

/-- In whatever order pairs with different keys stand, the same values are found. -/
theorem find?_perm {other : Keyed α} (hperm : map.Perm other)
    (hkeys : (map.map Prod.fst).Nodup) : find? key map = find? key other := by
  have hother : (other.map Prod.fst).Nodup := (hperm.map Prod.fst).nodup hkeys
  refine Option.ext fun value => ?_
  rw [find?_eq_some_iff hkeys, find?_eq_some_iff hother, hperm.mem_iff]

/-- What is found in pairs behind others is what is not found in those. -/
theorem find?_append (key : String) (first second : Keyed α) :
    find? key (first ++ second) = (find? key first).or (find? key second) := by
  induction first with
  | nil => rfl
  | cons pair first ih =>
    rw [List.cons_append, find?, find?, ih]
    split <;> rfl

/-- Increasing keys are different. -/
theorem Sorted.nodup_keys (h : Sorted map) : (map.map Prod.fst).Nodup := h.imp ne_of_lt

/-- In increasing order of keys a pair is in the list exactly when its value is found at its key. -/
theorem Sorted.mem_iff (h : Sorted map) : (key, value) ∈ map ↔ find? key map = some value :=
  (find?_eq_some_iff h.nodup_keys).symm

/-- No pair is twice in a list with increasing keys. -/
theorem Sorted.nodup (h : Sorted map) : map.Nodup := h.nodup_keys.of_map _

/-- Lists with increasing keys are equal when they have the same pairs. -/
theorem Sorted.eq_of_mem_iff {other : Keyed α} (h : Sorted map) (hother : Sorted other)
    (hmem : ∀ pair, pair ∈ map ↔ pair ∈ other) : map = other := by
  have hperm : map.Perm other := (List.perm_ext_iff_of_nodup h.nodup hother.nodup).mpr hmem
  refine hperm.eq_of_pairwise (fun a b _ _ hab hba => ?_) (sorted_iff_pairwise.mp h)
    (sorted_iff_pairwise.mp hother)
  exact absurd hba (lt_asymm hab)

/-- Lists with increasing keys are equal when the same values are found in them. -/
theorem Sorted.ext {other : Keyed α} (h : Sorted map) (hother : Sorted other)
    (hfind : ∀ key, find? key map = find? key other) : map = other := by
  refine h.eq_of_mem_iff hother ?_
  rintro ⟨key, value⟩
  rw [h.mem_iff, hother.mem_iff, hfind]

/-- In increasing order of keys, the pairs with some increasing keys are the values that are found
at these keys. -/
theorem Sorted.filter_mem {keys : List String} (h : Sorted map) (hkeys : keys.Pairwise (· < ·)) :
    map.filter (fun pair => decide (pair.1 ∈ keys)) =
      keys.filterMap fun key => (find? key map).map (key, ·) := by
  apply Sorted.eq_of_mem_iff
  · exact sorted_iff_pairwise.mpr ((sorted_iff_pairwise.mp h).filter _)
  · refine sorted_iff_pairwise.mpr (List.pairwise_filterMap.mpr (hkeys.imp ?_))
    intro key other hlt pair hpair otherPair hotherPair
    obtain ⟨_, _, rfl⟩ := Option.map_eq_some_iff.mp hpair
    obtain ⟨_, _, rfl⟩ := Option.map_eq_some_iff.mp hotherPair
    exact hlt
  · rintro ⟨key, value⟩
    rw [List.mem_filter, decide_eq_true_eq, h.mem_iff]
    simp [and_comm]

/-- The keys of the map of some pairs increase. -/
theorem sorted_ofPairs (pairs : List (String × α)) : Sorted (ofPairs pairs) := by
  induction pairs using List.reverseRecOn with
  | nil => exact sorted_nil
  | append_singleton pairs pair ih =>
    rw [ofPairs, List.foldl_append, List.foldl_cons, List.foldl_nil, ← ofPairs]
    exact ih.insert

/-- The map of some pairs has no other pairs. -/
theorem mem_of_mem_ofPairs {pairs : List (String × α)} {pair : String × α}
    (h : pair ∈ ofPairs pairs) : pair ∈ pairs := by
  induction pairs using List.reverseRecOn with
  | nil => exact h
  | append_singleton pairs last ih =>
    rw [ofPairs, List.foldl_append, List.foldl_cons, List.foldl_nil, ← ofPairs] at h
    rcases mem_insert h with rfl | h
    · exact List.mem_append_right _ (List.mem_singleton_self _)
    · exact List.mem_append_left _ (ih h)

/-- In the map of some pairs the last pair with a key counts. -/
theorem find?_ofPairs_eq_reverse (key : String) (pairs : List (String × α)) :
    find? key (ofPairs pairs) = find? key pairs.reverse := by
  induction pairs using List.reverseRecOn with
  | nil => rfl
  | append_singleton pairs pair ih =>
    rw [ofPairs, List.foldl_append, List.foldl_cons, List.foldl_nil, ← ofPairs, find?_insert, ih,
      List.reverse_append, List.reverse_singleton, List.singleton_append, find?]

/-- In the map of pairs with different keys each pair counts. -/
theorem find?_ofPairs {pairs : List (String × α)} (hkeys : (pairs.map Prod.fst).Nodup)
    (key : String) : find? key (ofPairs pairs) = find? key pairs := by
  rw [find?_ofPairs_eq_reverse]
  exact (find?_perm pairs.reverse_perm.symm hkeys).symm

/-- Pairs with increasing keys are their own map. -/
theorem Sorted.ofPairs_eq (h : Sorted map) : ofPairs map = map :=
  (sorted_ofPairs map).ext h (find?_ofPairs h.nodup_keys)

/-- Among keys that are paired with values, a key has the value at its own place. -/
theorem find?_zip {keys : List String} (hkey : key ∈ keys) (values : List α) :
    find? key (keys.zip values) = values[keys.idxOf key]? := by
  induction keys generalizing values with
  | nil => contradiction
  | cons k keys ih =>
    cases values with
    | nil => rfl
    | cons v values =>
      rw [List.zip_cons_cons, find?]
      by_cases hk : k = key
      · subst hk
        rw [if_pos rfl, List.idxOf_cons_self, List.getElem?_cons_zero]
      · have hrest : key ∈ keys := (List.mem_cons.mp hkey).resolve_left fun h => hk h.symm
        rw [if_neg hk, ih hrest, List.idxOf_cons_ne _ hk, List.getElem?_cons_succ]

/-- In the map of different keys that are paired with values, a key has the value at its own
place. -/
theorem find?_ofPairs_zip {keys : List String} (hkeys : keys.Nodup) (hkey : key ∈ keys)
    (values : List α) : find? key (ofPairs (keys.zip values)) = values[keys.idxOf key]? := by
  have hpairs : ((keys.zip values).map Prod.fst).Nodup := by
    rw [List.zip_eq_zip_take_min, List.map_fst_zip (by simp)]
    exact hkeys.sublist (List.take_sublist _ _)
  rw [find?_ofPairs hpairs, find?_zip hkey]

end InventoryQuery.Keyed
