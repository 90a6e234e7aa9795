import InventoryQuery.Json.Balance
import InventoryQuery.Proofs.Json.ReadBack
import InventoryQuery.Text.Blank

/-!
# Compact texts are balanced

The compact text of a plain value is scanned from any place outside strings back to that place,
however deep the value nests and whatever its strings hold. On the way no bracket is closed that was
open at the start, there is no blank outside strings, and no character below the space at all. The
text of a list is therefore one line, on which its first bracket stays open up to the last
character.
-/

namespace InventoryQuery.Json

open Text (isBlank)

/-- How a scan passes a text, without closing brackets below the floor. It meets no blanks outside
strings, and no characters below the space. -/
inductive Passes (floor : Nat) : (start : Place) → (text : List Char) → (stop : Place) → Prop
  /-- The scan stays where it is. -/
  | nil {place : Place} : Passes floor place [] place
  /-- The scan takes one character and passes the others. -/
  | cons {place next stop : Place} {c : Char} {text : List Char} (hnext : place.next? c = some next)
    (hfloor : floor ≤ next.depth) (hprintable : 0x20 ≤ c.toNat)
    (hsolid : place.inString = false → isBlank c = false) (hrest : Passes floor next text stop) :
    Passes floor place (c :: text) stop

namespace Passes

variable {floor : Nat} {start place stop : Place} {a b text : List Char}

/-- Two texts are passed one behind the other. -/
theorem append (ha : Passes floor start a place) (hb : Passes floor place b stop) :
    Passes floor start (a ++ b) stop := by
  induction ha with
  | nil => exact hb
  | cons hnext hfloor hprintable hsolid _ ih => exact .cons hnext hfloor hprintable hsolid (ih hb)

/-- What is passed above a floor is passed above a lower one. -/
theorem mono (h : Passes floor start text stop) {lower : Nat} (hlower : lower ≤ floor) :
    Passes lower start text stop := by
  induction h with
  | nil => exact .nil
  | cons hnext hfloor hprintable hsolid _ ih =>
    exact .cons hnext (Nat.le_trans hlower hfloor) hprintable hsolid ih

/-- A text is passed in two parts. -/
theorem split (h : Passes floor start (a ++ b) stop) :
    ∃ place, Passes floor start a place ∧ Passes floor place b stop := by
  induction a generalizing start with
  | nil => exact ⟨start, .nil, h⟩
  | cons c a ih =>
    cases h with
    | cons hnext hfloor hprintable hsolid hrest =>
      obtain ⟨place, ha, hb⟩ := ih hrest
      exact ⟨place, .cons hnext hfloor hprintable hsolid ha, hb⟩

/-- The scan ends where the passage does. -/
theorem after?_eq (h : Passes floor start text stop) : start.after? text = some stop := by
  induction h with
  | nil => rfl
  | cons hnext _ _ _ _ ih =>
    rw [Place.after?, List.foldlM_cons, hnext]
    exact ih

/-- A passage that starts above the floor ends above it. -/
theorem floor_le (h : Passes floor start text stop) (hstart : floor ≤ start.depth) :
    floor ≤ stop.depth := by
  induction h with
  | nil => exact hstart
  | cons _ hfloor _ _ _ ih => exact ih hfloor

/-- No character below the space is passed. -/
theorem printable (h : Passes floor start text stop) : ∀ c ∈ text, 0x20 ≤ c.toNat := by
  induction h with
  | nil => simp
  | cons _ _ hprintable _ _ ih => exact List.forall_mem_cons.mpr ⟨hprintable, ih⟩

end Passes

/-- The place at a depth outside strings. -/
def outsideAt (depth : Nat) : Place := ⟨depth, false, false⟩

/-- The place at a depth within a string. -/
def withinAt (depth : Nat) : Place := ⟨depth, true, false⟩

/-- Characters that leave a scan where it is are passed. -/
theorem passes_of_stay {floor : Nat} {place : Place} {text : List Char}
    (hfloor : floor ≤ place.depth) (hstay : ∀ c ∈ text, place.next? c = some place)
    (hprintable : ∀ c ∈ text, 0x20 ≤ c.toNat)
    (hsolid : place.inString = false → ∀ c ∈ text, isBlank c = false) :
    Passes floor place text place := by
  induction text with
  | nil => exact .nil
  | cons c text ih =>
    rw [List.forall_mem_cons] at hstay hprintable
    have hrest := ih hstay.2 hprintable.2 fun hout d hd => hsolid hout d (.tail c hd)
    exact .cons hstay.1 hfloor hprintable.1 (fun hout => hsolid hout c (.head text)) hrest

/-- Characters other than the marks of a string are passed within one. -/
theorem passes_within (depth : Nat) {text : List Char}
    (htext : ∀ c ∈ text, c ≠ '"' ∧ c ≠ '\\' ∧ 0x20 ≤ c.toNat) :
    Passes depth (withinAt depth) text (withinAt depth) := by
  apply passes_of_stay (Nat.le_refl depth)
  · intro c hc
    obtain ⟨hquote, hbackslash, _⟩ := htext c hc
    simp [Place.next?, withinAt, hquote, hbackslash]
  · exact fun c hc => (htext c hc).2.2
  · exact nofun

/-- Characters other than quotation marks and brackets are passed outside strings, when they are no
blanks. -/
theorem passes_outside (depth : Nat) {text : List Char}
    (htext : ∀ c ∈ text, c ≠ '"' ∧ c ≠ '[' ∧ c ≠ ']' ∧ 0x20 ≤ c.toNat ∧ isBlank c = false) :
    Passes depth (outsideAt depth) text (outsideAt depth) := by
  apply passes_of_stay (Nat.le_refl depth)
  · intro c hc
    obtain ⟨hquote, hopen, hclose, _⟩ := htext c hc
    simp [Place.next?, outsideAt, hquote, hopen, hclose]
  · exact fun c hc => (htext c hc).2.2.2.1
  · exact fun _ c hc => (htext c hc).2.2.2.2

/-- A backslash is passed within a string together with the character behind it. -/
theorem passes_escape (depth : Nat) {c : Char} (hprintable : 0x20 ≤ c.toNat) :
    Passes depth (withinAt depth) ['\\', c] (withinAt depth) := by
  have hstart : (withinAt depth).next? '\\' = some ⟨depth, true, true⟩ := rfl
  have hend : (⟨depth, true, true⟩ : Place).next? c = some (withinAt depth) := rfl
  exact .cons hstart (Nat.le_refl depth) (by decide) nofun
    (.cons hend (Nat.le_refl depth) hprintable nofun .nil)

/-- A hexadecimal digit is printable and no mark of a string. -/
theorem lowerHexDigit_table : ∀ n < 16, Text.lowerHexDigit n ≠ '"' ∧
    Text.lowerHexDigit n ≠ '\\' ∧ 0x20 ≤ (Text.lowerHexDigit n).toNat := by
  decide

/-- A character is passed within a string as it is written there. -/
theorem passes_escapeChar (depth : Nat) (c : Char) :
    Passes depth (withinAt depth) (escapeChar c) (withinAt depth) := by
  rw [escapeChar]
  split_ifs with hquote hbackslash hb hf hn hr ht hlow
  any_goals exact passes_escape depth (by decide)
  · have hhigh := lowerHexDigit_table (c.toNat / 16) (by omega)
    have hrest := lowerHexDigit_table (c.toNat % 16) (by omega)
    have hdigits : Passes depth (withinAt depth)
        ['0', '0', Text.lowerHexDigit (c.toNat / 16), Text.lowerHexDigit (c.toNat % 16)]
        (withinAt depth) := by
      apply passes_within
      simp [hhigh, hrest]
    exact (passes_escape depth (by decide)).append hdigits
  · apply passes_within
    simpa using ⟨hquote, hbackslash, Nat.le_of_not_lt hlow⟩

/-- The literal of a string is passed, whatever the string holds. -/
theorem passes_quote (depth : Nat) (s : List Char) :
    Passes depth (outsideAt depth) (quote s) (outsideAt depth) := by
  have hopen : (outsideAt depth).next? '"' = some (withinAt depth) := rfl
  have hclose : (withinAt depth).next? '"' = some (outsideAt depth) := rfl
  have hbody : Passes depth (withinAt depth) (s.flatMap escapeChar) (withinAt depth) := by
    induction s with
    | nil => exact .nil
    | cons c s ih =>
      rw [List.flatMap_cons]
      exact (passes_escapeChar depth c).append ih
  rw [quote]
  exact .cons hopen (Nat.le_refl depth) (by decide) (fun _ => by decide)
    (hbody.append (.cons hclose (Nat.le_refl depth) (by decide) (fun _ => by decide) .nil))

/-- A bracket is passed that opens above what is passed up to its closing one. -/
theorem passes_brackets {depth : Nat} {text : List Char}
    (htext : Passes (depth + 1) (outsideAt (depth + 1)) text (outsideAt (depth + 1))) :
    Passes depth (outsideAt depth) ('[' :: (text ++ [']'])) (outsideAt depth) := by
  have hopen : (outsideAt depth).next? '[' = some (outsideAt (depth + 1)) := rfl
  have hclose : (outsideAt (depth + 1)).next? ']' = some (outsideAt depth) := rfl
  exact .cons hopen (Nat.le_succ depth) (by decide) (fun _ => by decide)
    ((htext.mono (Nat.le_succ depth)).append
      (.cons hclose (Nat.le_refl depth) (by decide) (fun _ => by decide) .nil))

mutual

/-- The compact text of a plain value is passed. -/
theorem passes_print (depth : Nat) : ∀ {v : Json}, v.isPlain = true →
    Passes depth (outsideAt depth) v.print (outsideAt depth)
  | .bool true, _ => passes_outside depth (by simp [print, isBlank])
  | .bool false, _ => passes_outside depth (by simp [print, isBlank])
  | .string s, _ => passes_quote depth s.toList
  | .array _, hv => passes_brackets (passes_printItems (depth + 1) hv)

/-- The compact texts of plain items are passed with the commas between them. -/
theorem passes_printItems (depth : Nat) : ∀ {items : List Json}, arePlain items = true →
    Passes depth (outsideAt depth) (printItems items) (outsideAt depth)
  | [], _ => .nil
  | [item], hitems => by
    rw [arePlain, Bool.and_eq_true] at hitems
    exact passes_print depth hitems.1
  | item :: second :: more, hitems => by
    rw [arePlain, Bool.and_eq_true] at hitems
    rw [printItems_cons_cons, ← List.singleton_append]
    exact (passes_print depth hitems.1).append
      ((passes_outside depth (by simp [isBlank])).append (passes_printItems depth hitems.2))

end

/-- When a text is one line of balanced compact text. -/
structure IsCompact (text : List Char) : Prop where
  /-- Every bracket is closed after it is opened, and every string is. -/
  balanced : isBalanced text = true
  /-- A bracket is open at every place inside the text. -/
  isOpen : ∀ before after, text = before ++ after → before ≠ [] → after ≠ [] →
    ∃ place, Place.after? {} before = some place ∧ 0 < place.depth
  /-- There are no characters below the space. -/
  printable : ∀ c ∈ text, 0x20 ≤ c.toNat
  /-- There are no blanks outside strings. -/
  solid : ∀ before c after place, text = before ++ c :: after →
    Place.after? {} before = some place → place.inString = false → isBlank c = false

/-- The compact text of a plain list is one line of balanced compact text. -/
theorem isCompact_print {items : List Json} (hitems : arePlain items = true) :
    IsCompact (print (.array items)) := by
  have hbody := passes_printItems 1 hitems
  have htext : Passes 0 {} (print (.array items)) {} := passes_brackets hbody
  constructor
  · exact decide_eq_true htext.after?_eq
  · intro before after hsplit hbefore hafter
    rw [print] at hsplit
    obtain ⟨c, before, rfl⟩ := List.exists_cons_of_ne_nil hbefore
    rw [← List.dropLast_concat_getLast hafter, List.cons_append, ← List.append_assoc,
      List.cons.injEq] at hsplit
    obtain ⟨rfl, hsplit⟩ := hsplit
    rw [(List.append_inj' hsplit rfl).1] at hbody
    obtain ⟨place, hreached, _⟩ := hbody.split
    exact ⟨place, hreached.after?_eq, hreached.floor_le (Nat.le_refl 1)⟩
  · exact htext.printable
  · rintro before c after place hsplit hplace hout
    rw [hsplit] at htext
    obtain ⟨reached, hbefore, hafter⟩ := htext.split
    obtain rfl : reached = place := Option.some.inj (hbefore.after?_eq.symm.trans hplace)
    cases hafter with
    | cons _ _ _ hsolid _ => exact hsolid hout

end InventoryQuery.Json
