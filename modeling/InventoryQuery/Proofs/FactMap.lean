import InventoryQuery.FactMap
import InventoryQuery.Proofs.Keyed
import InventoryQuery.Proofs.Row.Sequence
import Mathlib.Data.List.Induction
import Mathlib.Data.List.Perm.Basic

/-!
# Facts of some rows

What is in the map of some rows: for each fact of a node the value of the last row that reports it,
and nothing else. Facts and nodes are in increasing order, so that the map is determined by its
values, and rows that report different facts may come in any order.
-/

namespace InventoryQuery

/-- What a row reports a value for: the name of a fact and the name of a node. -/
def FactRow.key (row : FactRow) : String × String := (row.name, row.certname)

/-- The last of some rows for a fact of a node. -/
def lastRow? (rows : List FactRow) (key : String × String) : Option FactRow :=
  (rows.filter fun row => row.key = key).getLast?

/-- There is a last row for a fact of a node if there is a row for it. -/
theorem isSome_lastRow?_iff {rows : List FactRow} {key : String × String} :
    (lastRow? rows key).isSome = true ↔ ∃ row ∈ rows, row.key = key := by
  rw [lastRow?, List.getLast?_isSome, ne_eq, List.filter_eq_nil_iff]
  simp only [decide_eq_true_eq, not_forall, not_not, exists_prop]

/-- The last row for a fact of a node is one of the rows, and is for it. -/
theorem mem_of_lastRow? {rows : List FactRow} {key : String × String} {row : FactRow}
    (h : lastRow? rows key = some row) : row ∈ rows ∧ row.key = key := by
  have hmem := List.mem_of_getLast? h
  rwa [List.mem_filter, decide_eq_true_eq] at hmem

namespace FactMap

variable {rows : List FactRow}

/-- A row sets the value of its own fact of its own node, and no other. -/
theorem value?_insertRow (facts : FactMap) (row : FactRow) (fact certname : String) :
    (facts.insertRow row).value? fact certname =
      if row.key = (fact, certname) then some row.value else facts.value? fact certname := by
  have hkey : row.key = (fact, certname) ↔ row.name = fact ∧ row.certname = certname :=
    Prod.mk_inj
  rw [value?, insertRow, Keyed.find?_insert]
  by_cases hname : row.name = fact
  · subst hname
    rw [if_pos rfl, Option.bind_some, Keyed.find?_insert, value?]
    simp only [hkey, true_and]
    cases Keyed.find? row.name facts <;> rfl
  · rw [if_neg hname, if_neg fun h => hname (hkey.mp h).1, value?]

/-- One more row is taken into the map of the rows before it. -/
theorem ofRows_append_singleton (rows : List FactRow) (row : FactRow) :
    ofRows (rows ++ [row]) = (ofRows rows).insertRow row := by
  rw [ofRows, List.foldl_append]
  rfl

/-- The map has the value of the last row for each fact of each node. -/
theorem value?_ofRows (rows : List FactRow) (fact certname : String) :
    (ofRows rows).value? fact certname = (lastRow? rows (fact, certname)).map FactRow.value := by
  induction rows using List.reverseRecOn with
  | nil => rfl
  | append_singleton rows row ih =>
    rw [ofRows_append_singleton, value?_insertRow, ih, lastRow?, lastRow?, List.filter_append]
    by_cases hkey : row.key = (fact, certname)
    · rw [if_pos hkey, List.filter_singleton, decide_eq_true hkey]
      simp
    · rw [if_neg hkey, List.filter_singleton, decide_eq_false hkey]
      simp

/-- Every value in the map is that of a row. -/
theorem exists_row_of_value? {fact certname : String} {value : Json}
    (h : (ofRows rows).value? fact certname = some value) : ∃ row ∈ rows, row.value = value := by
  rw [value?_ofRows, Option.map_eq_some_iff] at h
  obtain ⟨row, hlast, hvalue⟩ := h
  exact ⟨row, (mem_of_lastRow? hlast).1, hvalue⟩

/-- Where no two rows are for the same fact of the same node, the values are those of all rows. -/
theorem value?_ofRows_eq_some_iff (hdistinct : (rows.map FactRow.key).Nodup) {fact certname : String}
    {value : Json} :
    (ofRows rows).value? fact certname = some value ↔
      ∃ row ∈ rows, row.key = (fact, certname) ∧ row.value = value := by
  rw [value?_ofRows, Option.map_eq_some_iff]
  constructor
  · rintro ⟨row, hlast, rfl⟩
    obtain ⟨hrow, hkey⟩ := mem_of_lastRow? hlast
    exact ⟨row, hrow, hkey, rfl⟩
  · rintro ⟨row, hrow, hkey, rfl⟩
    obtain ⟨last, hlast⟩ := Option.isSome_iff_exists.mp (isSome_lastRow?_iff.mpr ⟨row, hrow, hkey⟩)
    obtain ⟨hlastRow, hlastKey⟩ := mem_of_lastRow? hlast
    obtain rfl : last = row :=
      List.inj_on_of_nodup_map hdistinct hlastRow hrow (hlastKey.trans hkey.symm)
    exact ⟨last, hlast, rfl⟩

/-- When the facts of a map increase strictly in the order of bytes, and so do the nodes for each of
them, of which there is at least one. -/
structure IsOrdered (facts : FactMap) : Prop where
  facts_increase : Text.IncreaseInBytes (facts.map Prod.fst)
  nodes_increase : ∀ fact nodes, (fact, nodes) ∈ facts → Text.IncreaseInBytes (nodes.map Prod.fst)
  nodes_ne_nil : ∀ fact nodes, (fact, nodes) ∈ facts → nodes ≠ []

/-- The empty map is in order. -/
theorem isOrdered_nil : IsOrdered [] :=
  ⟨List.Pairwise.nil, fun _ _ h => absurd h List.not_mem_nil, fun _ _ h => absurd h List.not_mem_nil⟩

/-- A row keeps a map in order. -/
theorem IsOrdered.insertRow {facts : FactMap} (h : facts.IsOrdered) (row : FactRow) :
    (facts.insertRow row).IsOrdered := by
  have hfacts := Keyed.sorted_iff_bytes.mpr h.facts_increase
  have hnodes : Keyed.Sorted ((Keyed.find? row.name facts).getD []) := by
    cases hfind : Keyed.find? row.name facts with
    | none => exact Keyed.sorted_nil
    | some nodes => exact Keyed.sorted_iff_bytes.mpr (h.nodes_increase _ _ (Keyed.mem_of_find? hfind))
  refine ⟨Keyed.sorted_iff_bytes.mp hfacts.insert, fun fact nodes hmem => ?_, fun fact nodes hmem => ?_⟩
  · rcases Keyed.mem_insert hmem with hnew | hold
    · obtain ⟨rfl, rfl⟩ := Prod.mk.inj hnew
      exact Keyed.sorted_iff_bytes.mp hnodes.insert
    · exact h.nodes_increase fact nodes hold
  · rcases Keyed.mem_insert hmem with hnew | hold
    · obtain ⟨rfl, rfl⟩ := Prod.mk.inj hnew
      exact Keyed.insert_ne_nil
    · exact h.nodes_ne_nil fact nodes hold

/-- The map of some rows is in order. -/
theorem isOrdered_ofRows (rows : List FactRow) : (ofRows rows).IsOrdered := by
  induction rows using List.reverseRecOn with
  | nil => exact isOrdered_nil
  | append_singleton rows row ih =>
    rw [ofRows_append_singleton]
    exact ih.insertRow row

/-- A fact that is in a map has a value for some node. -/
theorem IsOrdered.exists_value? {facts : FactMap} (h : facts.IsOrdered) {fact : String}
    {nodes : Keyed Json} (hfind : Keyed.find? fact facts = some nodes) :
    ∃ certname value, facts.value? fact certname = some value := by
  obtain ⟨⟨certname, value⟩, rest, rfl⟩ :=
    List.exists_cons_of_ne_nil (h.nodes_ne_nil _ _ (Keyed.mem_of_find? hfind))
  exact ⟨certname, value, by rw [value?, hfind, Option.bind_some, Keyed.find?, if_pos rfl]⟩

/-- What is at a node for a fact is its value there. -/
theorem IsOrdered.value?_eq_some {facts : FactMap} (h : facts.IsOrdered) {fact certname : String}
    {nodes : Keyed Json} {value : Json} (hnodes : (fact, nodes) ∈ facts)
    (hvalue : (certname, value) ∈ nodes) : facts.value? fact certname = some value := by
  have hfacts := Keyed.sorted_iff_bytes.mpr h.facts_increase
  have hsorted := Keyed.sorted_iff_bytes.mpr (h.nodes_increase fact nodes hnodes)
  rw [value?, hfacts.mem_iff.mp hnodes, Option.bind_some, hsorted.mem_iff.mp hvalue]

/-- Maps in order are equal when they have the same values. -/
theorem IsOrdered.ext {facts others : FactMap} (h : facts.IsOrdered) (hothers : others.IsOrdered)
    (hvalues : ∀ fact certname, facts.value? fact certname = others.value? fact certname) :
    facts = others := by
  refine Keyed.Sorted.ext (Keyed.sorted_iff_bytes.mpr h.facts_increase)
    (Keyed.sorted_iff_bytes.mpr hothers.facts_increase) fun fact => ?_
  cases hfind : Keyed.find? fact facts with
  | none =>
    cases hother : Keyed.find? fact others with
    | none => rfl
    | some nodes =>
      obtain ⟨certname, value, hvalue⟩ := hothers.exists_value? hother
      rw [← hvalues, value?, hfind] at hvalue
      contradiction
  | some nodes =>
    cases hother : Keyed.find? fact others with
    | none =>
      obtain ⟨certname, value, hvalue⟩ := h.exists_value? hfind
      rw [hvalues, value?, hother] at hvalue
      contradiction
    | some otherNodes =>
      have hnodes := h.nodes_increase _ _ (Keyed.mem_of_find? hfind)
      have hotherNodes := hothers.nodes_increase _ _ (Keyed.mem_of_find? hother)
      refine congrArg some (Keyed.Sorted.ext (Keyed.sorted_iff_bytes.mpr hnodes)
        (Keyed.sorted_iff_bytes.mpr hotherNodes) fun certname => ?_)
      have hvalue := hvalues fact certname
      rwa [value?, value?, hfind, hother] at hvalue

/-- Rows that are for different facts or nodes have the same map in any order. -/
theorem ofRows_eq_of_perm (hdistinct : (rows.map FactRow.key).Nodup) {others : List FactRow}
    (hperm : others.Perm rows) : ofRows others = ofRows rows := by
  have hothers : (others.map FactRow.key).Nodup := (hperm.map _).nodup_iff.mpr hdistinct
  refine (isOrdered_ofRows others).ext (isOrdered_ofRows rows) fun fact certname => ?_
  refine Option.ext fun value => ?_
  rw [value?_ofRows_eq_some_iff hothers, value?_ofRows_eq_some_iff hdistinct]
  simp only [hperm.mem_iff]

end FactMap

/-- The items of an answer are read as the same rows in any order. -/
theorem exists_factRows_of_perm {items others : List Json} {rows : List FactRow}
    (hrows : factRows (.array items) = .ok rows) (hperm : others.Perm items) :
    ∃ otherRows, factRows (.array others) = .ok otherRows ∧ otherRows.Perm rows := by
  rw [factRows, Row.readRows_eq_mapM, mapM_eq_ok_iff] at hrows
  obtain ⟨otherRows, hread, hsame⟩ := List.perm_comp_forall₂ hperm hrows
  refine ⟨otherRows, ?_, hsame⟩
  rw [factRows, Row.readRows_eq_mapM, mapM_eq_ok_iff]
  exact hread

end InventoryQuery
