import InventoryQuery.Proofs.Json.Strings

/-!
# Reading back compact texts

Queries are built from strings and truth values by lists alone. The compact text of such a value is
read back as the value itself, in front of any other text, as soon as the reader allows as many
levels as the value nests. The compact text of such a value therefore stands for no other.
-/

namespace InventoryQuery.Json

mutual

/-- Whether a value is built from strings and truth values by lists alone. -/
def isPlain : Json → Bool
  | .bool _ | .string _ => true
  | .array items => arePlain items
  | _ => false

/-- Whether all items are built from strings and truth values by lists alone. -/
def arePlain : List Json → Bool
  | [] => true
  | item :: items => isPlain item && arePlain items

end

/-- The text of a plain value starts with a character that is neither a space nor a closing
bracket. -/
theorem print_eq_cons {v : Json} (hv : v.isPlain = true) :
    ∃ c text, v.print = c :: text ∧ isSpace c = false ∧ c ≠ ']' := by
  cases v with
  | bool b =>
    cases b
    · exact ⟨'f', _, rfl, by decide, by decide⟩
    · exact ⟨'t', _, rfl, by decide, by decide⟩
  | string s => exact ⟨'"', _, by rw [print, quote], by decide, by decide⟩
  | array items => exact ⟨'[', _, by rw [print], by decide, by decide⟩
  | null => simp [isPlain] at hv
  | number n => simp [isPlain] at hv
  | object members => simp [isPlain] at hv

/-- No space is skipped in front of a character that is none. -/
theorem skipSpace_cons {c : Char} {text : List Char} (hc : isSpace c = false) :
    skipSpace (c :: text) = c :: text := by
  simp [skipSpace, hc]

/-- A string in front of a text is read back. -/
theorem readValue_string {fuel depth : Nat} (s : String) (rest : List Char) :
    readValue (fuel + 1) depth (print (.string s) ++ rest) = .ok (.string s, rest) := by
  rw [print, quote, readValue, List.cons_append, skipSpace_cons (by decide)]
  simp only [List.append_assoc, List.cons_append, List.nil_append, if_pos, readString_quoted]
  simp [Except.map]

/-- A truth value in front of a text is read back. -/
theorem readValue_bool {fuel depth : Nat} (b : Bool) (rest : List Char) :
    readValue (fuel + 1) depth (print (.bool b) ++ rest) = .ok (.bool b, rest) := by
  cases b <;> rw [print, readValue, List.cons_append, skipSpace_cons (by decide)] <;> rfl

/-- An empty list in front of a text is read back. -/
theorem readValue_array_nil {fuel depth : Nat} (rest : List Char) :
    readValue (fuel + 1) (depth + 1) (print (.array []) ++ rest) = .ok (.array [], rest) := by
  rw [print, readValue, List.cons_append, skipSpace_cons (by decide)]
  rfl

/-- A list is read by its items, which start behind the space after the bracket. -/
theorem readValue_array_of_skipSpace {fuel depth : Nat} {text more : List Char} {c : Char}
    (hskip : skipSpace text = c :: more) (hclose : c ≠ ']') :
    readValue (fuel + 1) (depth + 1) ('[' :: text) =
      (readItems fuel depth (c :: more)).map (fun (items, rest) => (.array items, rest)) := by
  rw [readValue, skipSpace_cons (by decide)]
  simp only [hskip]
  simp [hclose]

/-- A list in front of a text is read by its items. -/
theorem readValue_array {fuel depth : Nat} {text : List Char} {c : Char}
    (hspace : isSpace c = false) (hclose : c ≠ ']') :
    readValue (fuel + 1) (depth + 1) ('[' :: c :: text) =
      (readItems fuel depth (c :: text)).map (fun (items, rest) => (.array items, rest)) :=
  readValue_array_of_skipSpace (skipSpace_cons hspace) hclose

/-- The last item of a list stands in front of the closing bracket, with space between them. -/
theorem readItems_last_of_skipSpace {fuel depth : Nat} {item : Json} {text left rest : List Char}
    (hread : readValue fuel depth text = .ok (item, left)) (hskip : skipSpace left = ']' :: rest) :
    readItems (fuel + 1) depth text = .ok ([item], rest) := by
  simp only [readItems, hread, hskip]

/-- The last item of a list stands in front of the closing bracket. -/
theorem readItems_last {fuel depth : Nat} {item : Json} {text rest : List Char}
    (hread : readValue fuel depth text = .ok (item, ']' :: rest)) :
    readItems (fuel + 1) depth text = .ok ([item], rest) :=
  readItems_last_of_skipSpace hread (skipSpace_cons (by decide))

/-- An item of a list in front of a comma is followed by other items, which start behind the space
after the comma. -/
theorem readItems_next_of_skipSpace {fuel depth : Nat} {item : Json} {text left rest : List Char}
    {c : Char} (hread : readValue fuel depth text = .ok (item, ',' :: left))
    (hskip : skipSpace left = c :: rest) (hclose : c ≠ ']') :
    readItems (fuel + 1) depth text =
      (readItems fuel depth (c :: rest)).map (fun (items, rest) => (item :: items, rest)) := by
  simp only [readItems, hread]
  rw [skipSpace_cons (by decide)]
  simp only [hskip]
  simp [hclose]

/-- An item of a list in front of a comma is followed by other items. -/
theorem readItems_next {fuel depth : Nat} {item : Json} {text rest : List Char} {c : Char}
    (hread : readValue fuel depth text = .ok (item, ',' :: c :: rest))
    (hspace : isSpace c = false) (hclose : c ≠ ']') :
    readItems (fuel + 1) depth text =
      (readItems fuel depth (c :: rest)).map (fun (items, rest) => (item :: items, rest)) :=
  readItems_next_of_skipSpace hread (skipSpace_cons hspace) hclose

/-- Two items or more are written as the first one, a comma and the others. -/
theorem printItems_cons_cons (item second : Json) (more : List Json) :
    printItems (item :: second :: more) = item.print ++ ',' :: printItems (second :: more) := by
  simp [printItems]

/-- The text of plain items starts with a character that is neither a space nor a closing
bracket. -/
theorem printItems_eq_cons {items : List Json} (hne : items ≠ []) (hitems : arePlain items = true) :
    ∃ c text, printItems items = c :: text ∧ isSpace c = false ∧ c ≠ ']' := by
  match items with
  | [item] =>
    simp only [arePlain, Bool.and_true] at hitems
    simpa only [printItems] using print_eq_cons hitems
  | item :: second :: more =>
    simp only [arePlain, Bool.and_eq_true] at hitems
    obtain ⟨c, text, hprint, hspace, hclose⟩ := print_eq_cons hitems.1
    exact ⟨c, text ++ ',' :: printItems (second :: more), by simp [printItems, hprint], hspace,
      hclose⟩

/-- The text of a list in front of another is read by that of its items. -/
theorem readValue_print_array {items : List Json} (hne : items ≠ [])
    (hitems : arePlain items = true) (fuel depth : Nat) (rest : List Char) :
    readValue (fuel + 1) (depth + 1) (print (.array items) ++ rest) =
      (readItems fuel depth (printItems items ++ ']' :: rest)).map
        (fun (items, rest) => (.array items, rest)) := by
  obtain ⟨c, text, htext, hspace, hclose⟩ := printItems_eq_cons hne hitems
  rw [print, htext, List.cons_append, List.append_assoc, List.cons_append]
  simp only [List.cons_append, List.nil_append]
  rw [readValue_array hspace hclose]

/-- Items of which the first one is read are read by the text of the others. -/
theorem readItems_printItems_cons {fuel depth : Nat} {item second : Json} {more : List Json}
    {rest : List Char} (hmore : arePlain (second :: more) = true)
    (hitem : readValue fuel depth
        (item.print ++ ',' :: (printItems (second :: more) ++ ']' :: rest)) =
      .ok (item, ',' :: (printItems (second :: more) ++ ']' :: rest))) :
    readItems (fuel + 1) depth (printItems (item :: second :: more) ++ ']' :: rest) =
      (readItems fuel depth (printItems (second :: more) ++ ']' :: rest)).map
        (fun (items, rest) => (item :: items, rest)) := by
  obtain ⟨c, text, htext, hspace, hclose⟩ :=
    printItems_eq_cons (List.cons_ne_nil second more) hmore
  rw [printItems_cons_cons, List.append_assoc, List.cons_append]
  rw [htext, List.cons_append] at hitem ⊢
  exact readItems_next hitem hspace hclose

mutual

/-- A plain value in front of a text is read back, when it nests no deeper than is allowed. -/
theorem readValue_print : ∀ {v : Json}, v.isPlain = true → ∀ {fuel depth : Nat} {rest : List Char},
    2 * v.print.length ≤ fuel → v.depth ≤ depth →
    readValue fuel depth (v.print ++ rest) = .ok (v, rest)
  | .bool b, _, fuel + 1, _, rest, _, _ => readValue_bool b rest
  | .string s, _, fuel + 1, _, rest, _, _ => readValue_string s rest
  | .array [], _, fuel + 1, depth + 1, rest, _, _ => readValue_array_nil rest
  | .array (item :: items), hv, fuel + 1, depth + 1, rest, hfuel, hdepth => by
    simp only [isPlain] at hv
    simp only [print, List.length_cons, List.length_append, List.length_nil] at hfuel
    simp only [Json.depth] at hdepth
    rw [readValue_print_array (List.cons_ne_nil _ _) hv,
      readItems_printItems (List.cons_ne_nil _ _) hv (by omega) (by omega)]
    rfl
  | v, hv, 0, _, _, hfuel, _ => by
    obtain ⟨_, _, hprint, _, _⟩ := print_eq_cons hv
    simp [hprint] at hfuel
  | .array items, _, _, 0, _, _, hdepth => by simp [Json.depth] at hdepth

/-- Plain items in front of a closing bracket are read back. -/
theorem readItems_printItems : ∀ {items : List Json}, items ≠ [] → arePlain items = true →
    ∀ {fuel depth : Nat} {rest : List Char}, 2 * (printItems items).length + 1 ≤ fuel →
    depthOfItems items ≤ depth →
    readItems fuel depth (printItems items ++ ']' :: rest) = .ok (items, rest)
  | [item], _, hitems, fuel + 1, depth, rest, hfuel, hdepth => by
    simp only [arePlain, Bool.and_true] at hitems
    simp only [printItems] at hfuel ⊢
    simp only [depthOfItems, Nat.max_zero] at hdepth
    exact readItems_last (readValue_print hitems (by omega) hdepth)
  | item :: second :: more, _, hitems, fuel + 1, depth, rest, hfuel, hdepth => by
    rw [arePlain, Bool.and_eq_true] at hitems
    rw [depthOfItems] at hdepth
    rw [printItems_cons_cons, List.length_append, List.length_cons] at hfuel
    have hmore : readItems fuel depth (printItems (second :: more) ++ ']' :: rest) =
        .ok (second :: more, rest) :=
      readItems_printItems (List.cons_ne_nil second more) hitems.2 (by omega) (by omega)
    rw [readItems_printItems_cons hitems.2 (readValue_print hitems.1 (by omega) (by omega)), hmore]
    rfl

end

/-- A plain value that nests no deeper than is allowed is read back from its compact text. -/
theorem parseChars_print {v : Json} (hv : v.isPlain = true) {limit : Nat} (hlimit : v.depth ≤ limit) :
    parseChars limit v.print = .ok v := by
  have hread : readValue (2 * v.print.length + 2) limit (v.print ++ []) = .ok (v, []) :=
    readValue_print hv (by omega) hlimit
  rw [List.append_nil] at hread
  rw [parseChars, hread]
  rfl

/-- No two plain values have the same compact text. -/
theorem compact_injective {a b : Json} (ha : a.isPlain = true) (hb : b.isPlain = true)
    (htext : a.compact = b.compact) : a = b := by
  have hprint : a.print = b.print := String.ofList_injective htext
  have hread := parseChars_print ha (Nat.le_max_left a.depth b.depth)
  rw [hprint, parseChars_print hb (Nat.le_max_right a.depth b.depth)] at hread
  exact (Except.ok.inj hread).symm

end InventoryQuery.Json
