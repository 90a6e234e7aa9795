import InventoryQuery.Client
import InventoryQuery.Proofs.Results

/-!
# Rows one by one

The rows of an answer are read one by one and in order. An answer is read when each of its items is,
and it is refused for the first item that is no row, so that no item is left out. Two arrays that
are joined are read one after the other, and what is no array is read like the array of it alone.
-/

namespace InventoryQuery

namespace Row

variable {α : Type} {read : Json → Except ShapeError α}

/-- What the rows of an answer are read from: the items of an array, or else the answer itself. -/
def items : Json → List Json
  | .array items => items
  | single => [single]

@[simp] theorem items_array (values : List Json) : items (.array values) = values := rfl

/-- An answer that is no array is its only item. -/
theorem items_of_ne_array {answer : Json} (h : ∀ values, answer ≠ .array values) :
    items answer = [answer] := by
  cases answer with
  | array values => exact absurd rfl (h values)
  | _ => rfl

/-- The rows of an answer are read by the steps for each of its items. -/
theorem readRows_eq_mapM (read : Json → Except ShapeError α) (answer : Json) :
    readRows read answer = (items answer).mapM read := by
  cases answer with
  | array values => rfl
  | _ => exact (mapM_singleton read _).symm

/-- When the rows of answers are read one by one. -/
structure AreReadOneByOne (read : Json → Except ShapeError α)
    (rows : Json → Except ShapeError (List α)) : Prop where
  /-- An answer is read when each item is, as the rows of the items in their order. -/
  ok_iff : ∀ answer decoded, rows answer = .ok decoded ↔
    List.Forall₂ (fun item row => read item = .ok row) (items answer) decoded
  /-- An answer is refused for the first item that is refused. -/
  error_iff : ∀ answer e, rows answer = .error e ↔ FirstFailure read (items answer) e
  /-- Two arrays that are joined are read one after the other. -/
  append : ∀ xs ys, rows (.array (xs ++ ys)) =
    (rows (.array xs)).bind fun before => (rows (.array ys)).map (before ++ ·)
  /-- What is no array is read like the array of it alone. -/
  bare : ∀ value, (∀ values, value ≠ .array values) → rows value = rows (.array [value])

/-- The rows of answers are read one by one, however a row is read. -/
theorem areReadOneByOne_readRows (read : Json → Except ShapeError α) :
    AreReadOneByOne read (readRows read) where
  ok_iff answer rows := by rw [readRows_eq_mapM, mapM_eq_ok_iff]
  error_iff answer e := by rw [readRows_eq_mapM, mapM_eq_error_iff]
  append xs ys := by
    rw [readRows_eq_mapM, readRows_eq_mapM, readRows_eq_mapM]
    exact mapM_append_eq read xs ys
  bare value hvalue := by
    rw [readRows_eq_mapM, readRows_eq_mapM, items_of_ne_array hvalue, items_array]

end Row

/-- The names of the nodes of an answer are those of its items, one for each. -/
theorem forall₂_of_nodeNames {answer : Json} {names : List String}
    (h : nodeNames answer = .ok names) :
    List.Forall₂ (fun item name => ∃ row, NodeRow.ofJson item = .ok row ∧ row.name = name)
      (Row.items answer) names := by
  obtain ⟨rows, hrows, rfl⟩ := map_eq_ok_iff.mp h
  have hitems := ((Row.areReadOneByOne_readRows NodeRow.ofJson).ok_iff answer rows).mp hrows
  rw [List.forall₂_map_right_iff]
  exact hitems.imp fun item row hrow => ⟨row, hrow, rfl⟩

/-- The rows of both endpoints are read one by one. Hence the names of the nodes of an
answer are those of its items, one for each and in their order, and an item anywhere that is
no row is not left out: names and facts are refused for the first such item, and so is every
call that gets the answer. -/
theorem rows_areReadOneByOne :
    Row.AreReadOneByOne NodeRow.ofJson nodeRows ∧ Row.AreReadOneByOne FactRow.ofJson factRows ∧
      (∀ answer names, nodeNames answer = .ok names →
        List.Forall₂ (fun item name => ∃ row, NodeRow.ofJson item = .ok row ∧ row.name = name)
          (Row.items answer) names) ∧
      (∀ answer, (∃ item ∈ Row.items answer, ∃ e, NodeRow.ofJson item = .error e) →
        ∃ e, FirstFailure NodeRow.ofJson (Row.items answer) e ∧ nodeNames answer = .error e ∧
          ∀ (ρ : Type) (transport : Transport ρ) (query : Option Predicate),
            (transport.get Endpoint.nodes.path
              (query.map (Predicate.render · .nodes))).result = .ok answer →
            (Client.nodes transport query).result = .error (.shape e)) ∧
      ∀ answer, (∃ item ∈ Row.items answer, ∃ e, FactRow.ofJson item = .error e) →
        ∃ e, FirstFailure FactRow.ofJson (Row.items answer) e ∧ FactMap.ofAnswer answer = .error e ∧
          ∀ (ρ : Type) (transport : Transport ρ) (names : List String) (query : Option Predicate),
            (transport.get Endpoint.facts.path
              ((factsQuery names query).map (Predicate.render · .facts))).result = .ok answer →
            (Client.facts transport names query).result = .error (.shape e) := by
  have hnodes := Row.areReadOneByOne_readRows NodeRow.ofJson
  have hfacts := Row.areReadOneByOne_readRows FactRow.ofJson
  refine ⟨hnodes, hfacts, fun answer names => forall₂_of_nodeNames, ?_, ?_⟩
  · intro answer hrefused
    obtain ⟨e, hfirst⟩ := exists_firstFailure hrefused
    have hnames : nodeNames answer = .error e :=
      map_eq_error_iff.mpr ((hnodes.error_iff answer e).mpr hfirst)
    refine ⟨e, hfirst, hnames, fun ρ transport query hanswer => ?_⟩
    rw [Client.result_nodes hanswer, hnames, mapError_error]
  · intro answer hrefused
    obtain ⟨e, hfirst⟩ := exists_firstFailure hrefused
    have hmap : FactMap.ofAnswer answer = .error e :=
      map_eq_error_iff.mpr ((hfacts.error_iff answer e).mpr hfirst)
    refine ⟨e, hfirst, hmap, fun ρ transport names query hanswer => ?_⟩
    rw [Client.result_facts hanswer, hmap, mapError_error]

/-- A node between two items that are none. -/
def interruptedAnswer : Json :=
  .array [.object [("name", .string "web")], .object [("certname", .string "db")], .null]

/-- The second item lacks a name and the third one is nothing at all; the second one counts. -/
theorem rows_areReadOneByOne_interruptedAnswer :
    FirstFailure NodeRow.ofJson (Row.items interruptedAnswer) (.missingField "name") ∧
      nodeNames interruptedAnswer = .error (.missingField "name") ∧
      nodeRows (.string "web") = nodeRows (.array [.string "web"]) := by
  obtain ⟨hnodes, -, -, hrefused, -⟩ := rows_areReadOneByOne
  have hitem : ∃ item ∈ Row.items interruptedAnswer, ∃ e, NodeRow.ofJson item = .error e :=
    ⟨.null, by simp [interruptedAnswer], _, rfl⟩
  obtain ⟨e, hfirst, hnames, -⟩ := hrefused interruptedAnswer hitem
  have hreason : nodeNames interruptedAnswer = .error (.missingField "name") := rfl
  obtain rfl : .missingField "name" = e := Except.error.inj (hreason.symm.trans hnames)
  exact ⟨hfirst, hnames, hnodes.bare _ fun _ => Json.noConfusion⟩

end InventoryQuery
