import InventoryQuery.Proofs.Json.ReadBack

/-!
# The limit on nesting

The reader refuses the text of a plain value that nests deeper than is allowed. It reads the items
of a list in order, and the first one that nests too deep ends the reading at the bracket beyond
the limit. Together with `Proofs/Json/ReadBack` this makes the limit exact.
-/

namespace InventoryQuery.Json

/-- Whether a text is refused because it nests too deep. -/
def IsTooDeep {α : Type} (result : Except Fault α) : Prop :=
  ∃ fault, result = .error fault ∧ fault.cause = .tooDeep

/-- What is made of a refused text is refused. -/
theorem IsTooDeep.map {α β : Type} {result : Except Fault α} (h : IsTooDeep result) (f : α → β) :
    IsTooDeep (result.map f) := by
  obtain ⟨fault, rfl, hcause⟩ := h
  exact ⟨fault, rfl, hcause⟩

/-- No list is read where no level is left. -/
theorem readValue_array_tooDeep (fuel : Nat) (text : List Char) :
    IsTooDeep (readValue (fuel + 1) 0 ('[' :: text)) := by
  refine ⟨.onNext .tooDeep ('[' :: text), ?_, rfl⟩
  rw [readValue, skipSpace_cons (by decide)]
  rfl

/-- Items are refused when the first one is. -/
theorem readItems_tooDeep_of_readValue {fuel depth : Nat} {text : List Char}
    (hread : IsTooDeep (readValue fuel depth text)) :
    IsTooDeep (readItems (fuel + 1) depth text) := by
  obtain ⟨fault, hfault, hcause⟩ := hread
  refine ⟨fault, ?_, hcause⟩
  rw [readItems, hfault]

mutual

/-- A plain value that nests deeper than is allowed is refused in front of any text. -/
theorem readValue_print_tooDeep : ∀ {v : Json}, v.isPlain = true → ∀ {fuel depth : Nat}
    {rest : List Char}, 2 * v.print.length ≤ fuel → depth < v.depth →
    IsTooDeep (readValue fuel depth (v.print ++ rest))
  | .array _, _, fuel + 1, 0, _, _, _ => by
    rw [print, List.cons_append]
    exact readValue_array_tooDeep fuel _
  | .array [], _, _, depth + 1, _, _, hdepth => by simp [Json.depth, depthOfItems] at hdepth
  | .array (item :: items), hv, fuel + 1, depth + 1, rest, hfuel, hdepth => by
    simp only [isPlain] at hv
    simp only [print, List.length_cons, List.length_append, List.length_nil] at hfuel
    simp only [Json.depth] at hdepth
    rw [readValue_print_array (List.cons_ne_nil _ _) hv]
    exact (readItems_printItems_tooDeep (List.cons_ne_nil _ _) hv (by omega) (by omega)).map _
  | v, hv, 0, _, _, hfuel, _ => by
    obtain ⟨_, _, hprint, _, _⟩ := print_eq_cons hv
    simp [hprint] at hfuel
  | .bool _, _, _, _, _, _, hdepth => by simp [Json.depth] at hdepth
  | .string _, _, _, _, _, _, hdepth => by simp [Json.depth] at hdepth

/-- Plain items, of which one nests deeper than is allowed, are refused in front of a closing
bracket. -/
theorem readItems_printItems_tooDeep : ∀ {items : List Json}, items ≠ [] → arePlain items = true →
    ∀ {fuel depth : Nat} {rest : List Char}, 2 * (printItems items).length + 1 ≤ fuel →
    depth < depthOfItems items →
    IsTooDeep (readItems fuel depth (printItems items ++ ']' :: rest))
  | [item], _, hitems, fuel + 1, depth, rest, hfuel, hdepth => by
    simp only [arePlain, Bool.and_true] at hitems
    simp only [printItems] at hfuel ⊢
    simp only [depthOfItems, Nat.max_zero] at hdepth
    exact readItems_tooDeep_of_readValue (readValue_print_tooDeep hitems (by omega) hdepth)
  | item :: second :: more, _, hitems, fuel + 1, depth, rest, hfuel, hdepth => by
    rw [arePlain, Bool.and_eq_true] at hitems
    rw [depthOfItems] at hdepth
    rw [printItems_cons_cons, List.length_append, List.length_cons] at hfuel
    by_cases hitem : depth < item.depth
    · rw [printItems_cons_cons, List.append_assoc, List.cons_append]
      exact readItems_tooDeep_of_readValue (readValue_print_tooDeep hitems.1 (by omega) hitem)
    · have hread : readValue fuel depth
          (item.print ++ ',' :: (printItems (second :: more) ++ ']' :: rest)) =
          .ok (item, ',' :: (printItems (second :: more) ++ ']' :: rest)) :=
        readValue_print hitems.1 (by omega) (by omega)
      rw [readItems_printItems_cons hitems.2 hread]
      exact (readItems_printItems_tooDeep (List.cons_ne_nil second more) hitems.2 (by omega)
        (by omega)).map _

end

/-- The compact text of a plain value that nests deeper than is allowed is refused. -/
theorem parseChars_print_tooDeep {v : Json} (hv : v.isPlain = true) {limit : Nat}
    (hlimit : limit < v.depth) : IsTooDeep (parseChars limit v.print) := by
  have hread : IsTooDeep (readValue (2 * v.print.length + 2) limit (v.print ++ [])) :=
    readValue_print_tooDeep hv (by omega) hlimit
  rw [List.append_nil] at hread
  obtain ⟨fault, hfault, hcause⟩ := hread
  refine ⟨fault, ?_, hcause⟩
  rw [parseChars, hfault]

end InventoryQuery.Json
