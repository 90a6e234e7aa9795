import InventoryQuery.Json.Reader
import InventoryQuery.Proofs.Keyed
import InventoryQuery.Proofs.Results
import Mathlib.Tactic.SplitIfs

/-!
# Values that are read

What the reader makes of any text that it accepts. The value nests no deeper than is allowed, and
the names of the members of its objects increase, so that none of them is there twice. The reader
hands one level less to what stands between brackets and keeps the level from one item to the next,
and every object is the map of its members.
-/

namespace InventoryQuery.Json

/-- When a value may be read where a number of levels is left: it nests no deeper, and the names of
the members of each object in it increase. -/
inductive Fits : (depth : Nat) → Json → Prop
  | null {depth : Nat} : Fits depth .null
  | bool {depth : Nat} {b : Bool} : Fits depth (.bool b)
  | number {depth : Nat} {number : Number} : Fits depth (.number number)
  | string {depth : Nat} {s : String} : Fits depth (.string s)
  | array {depth : Nat} {items : List Json} (hitems : ∀ item ∈ items, Fits depth item) :
    Fits (depth + 1) (.array items)
  | object {depth : Nat} {members : List (String × Json)} (hnames : Keyed.Sorted members)
    (hmembers : ∀ member ∈ members, Fits depth member.2) : Fits (depth + 1) (.object members)

/-- When what is read with some fuel fits into the levels that are left. -/
structure ReadsFitting (fuel : Nat) : Prop where
  value : ∀ {depth text v rest}, readValue fuel depth text = .ok (v, rest) → Fits depth v
  items : ∀ {depth text items rest}, readItems fuel depth text = .ok (items, rest) →
    ∀ item ∈ items, Fits depth item
  members : ∀ {depth text members rest}, readMembers fuel depth text = .ok (members, rest) →
    ∀ member ∈ members, Fits depth member.2

/-- A number fits everywhere. -/
theorem fits_of_readNumber {negative : Bool} {text rest : List Char} {v : Json}
    (hread : readNumber negative text = .ok (v, rest)) (depth : Nat) : Fits depth v := by
  obtain ⟨⟨whole, text⟩, -, hread⟩ := bind_eq_ok_iff.mp hread
  obtain ⟨⟨fraction, text⟩, -, hread⟩ := bind_eq_ok_iff.mp hread
  obtain ⟨⟨exponent, text⟩, -, hread⟩ := bind_eq_ok_iff.mp hread
  dsimp only at hread
  split at hread
  · cases hread
    exact .number
  · cases hread

variable {fuel depth : Nat} {text rest : List Char}

/-- A value fits that is made of what is read, if whatever is made of it does. -/
theorem fits_of_map {α : Type} {result : Except Fault α} {make : α → Json × List Char} {v : Json}
    (hread : result.map make = .ok (v, rest)) (hmake : ∀ a, result = .ok a → Fits depth (make a).1) :
    Fits depth v := by
  obtain ⟨a, hresult, hv⟩ := map_eq_ok_iff.mp hread
  have hfits := hmake a hresult
  rwa [hv] at hfits

/-- A value fits when what is between its brackets does. -/
theorem ReadsFitting.value_succ (h : ReadsFitting fuel) {v : Json}
    (hread : readValue (fuel + 1) depth text = .ok (v, rest)) : Fits depth v := by
  rw [readValue] at hread
  split at hread
  · cases hread
  · split_ifs at hread
    · exact fits_of_map hread fun _ _ => .string
    · split at hread
      · cases hread
      · split at hread
        · cases hread
        · cases hread
          exact .array (List.forall_mem_nil _)
        · exact fits_of_map hread fun ⟨_, _⟩ hitems => .array (h.items hitems)
    · split at hread
      · cases hread
      · split at hread
        · cases hread
        · cases hread
          exact .object Keyed.sorted_nil (List.forall_mem_nil _)
        · exact fits_of_map hread fun ⟨_, _⟩ hmembers =>
            .object (Keyed.sorted_ofPairs _) fun member hmember =>
              h.members hmembers member (Keyed.mem_of_mem_ofPairs hmember)
    · exact fits_of_readNumber hread depth
    · exact fits_of_readNumber hread depth
    · exact fits_of_map hread fun _ _ => .null
    · exact fits_of_map hread fun _ _ => .bool
    · exact fits_of_map hread fun _ _ => .bool

/-- Items fit when the first one does and those behind it do. -/
theorem ReadsFitting.items_succ (h : ReadsFitting fuel) {items : List Json}
    (hread : readItems (fuel + 1) depth text = .ok (items, rest)) :
    ∀ item ∈ items, Fits depth item := by
  rw [readItems] at hread
  split at hread
  · cases hread
  · next hitem =>
    have hfirst := h.value hitem
    split at hread
    · cases hread
    · cases hread
      exact List.forall_mem_singleton.mpr hfirst
    · split at hread
      · cases hread
      · cases hread
      · obtain ⟨_, hmore, heq⟩ := map_eq_ok_iff.mp hread
        cases heq
        exact List.forall_mem_cons.mpr ⟨hfirst, h.items hmore⟩
    · cases hread

/-- Members fit when the first one does and those behind it do. -/
theorem ReadsFitting.members_succ (h : ReadsFitting fuel) {members : List (String × Json)}
    (hread : readMembers (fuel + 1) depth text = .ok (members, rest)) :
    ∀ member ∈ members, Fits depth member.2 := by
  rw [readMembers.eq_def] at hread
  dsimp only at hread
  split at hread
  · split at hread
    · cases hread
    · split at hread
      · cases hread
      · split at hread
        · cases hread
        · next hvalue =>
          have hfirst := h.value hvalue
          split at hread
          · cases hread
          · cases hread
            exact List.forall_mem_singleton.mpr hfirst
          · split at hread
            · cases hread
            · cases hread
            · obtain ⟨_, hmore, heq⟩ := map_eq_ok_iff.mp hread
              cases heq
              exact List.forall_mem_cons.mpr ⟨hfirst, h.members hmore⟩
          · cases hread
      · cases hread
  · cases hread

/-- Whatever is read fits into the levels that are left. -/
theorem readsFitting (fuel : Nat) : ReadsFitting fuel := by
  induction fuel with
  | zero => exact ⟨nofun, nofun, nofun⟩
  | succ fuel ih => exact ⟨ih.value_succ, ih.items_succ, ih.members_succ⟩

/-- A text is read as a value that nests no deeper than the limit, with the names in each object in
increasing order. -/
theorem fits_of_parseChars {limit : Nat} {v : Json} (hread : parseChars limit text = .ok v) :
    Fits limit v := by
  rw [parseChars] at hread
  split at hread
  · cases hread
  · next hvalue =>
    split at hread
    · cases hread
      exact (readsFitting _).value hvalue
    · cases hread

end InventoryQuery.Json
