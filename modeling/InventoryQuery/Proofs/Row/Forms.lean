import InventoryQuery.Proofs.Results
import InventoryQuery.Proofs.Row.Walk

/-!
# The forms of a row

A row is written as an object or as the array of its fields. Both forms say for each field which
value it has, if any, and a row is read when these values are those of its own fields. The members
of an object are looked at in the order of their names and the items of an array in that of the
fields, so the two forms may be refused for different reasons, but they are read alike.
-/

namespace InventoryQuery

namespace Row

/-- An optional text as it is written in a row. -/
def textOrNull : Option String → Json
  | none => .null
  | some s => .string s

/-- The value of a field in an array, which is the item at the place of the field. -/
def item? (fields : List String) (items : List Json) (field : String) : Option Json :=
  items[fields.idxOf field]?

/-- Fields with their values as the members of an object. -/
def membersOf (fields : List String) (values : List Json) : Keyed Json :=
  Keyed.ofPairs (fields.zip values)

/-- The members increase by name. -/
theorem sorted_membersOf (fields : List String) (values : List Json) :
    Keyed.Sorted (membersOf fields values) := Keyed.sorted_ofPairs _

/-- The members of an object have the values that the items of an array have for the same fields. -/
theorem find?_membersOf {fields : List String} (hfields : fields.Nodup) {field : String}
    (hfield : field ∈ fields) (items : List Json) :
    Keyed.find? field (membersOf fields items) = item? fields items field :=
  Keyed.find?_ofPairs_zip hfields hfield items

/-- A text is read from itself alone. -/
theorem readText_eq_ok_iff {value : Json} {s : String} :
    readText value = .ok s ↔ value = .string s := by
  cases value <;> simp [readText]

/-- An optional text is read from what it is written as. -/
theorem readOptionalText_eq_ok_iff {value : Json} {text : Option String} :
    readOptionalText value = .ok text ↔ value = textOrNull text := by
  cases value <;> cases text <;> simp [readOptionalText, readText, textOrNull, Except.map]

/-- A field that may be missing is read like null when it is. -/
theorem lookUp_readOptionalText (field : String) (members : Keyed Json) :
    lookUp readOptionalText field members =
      readOptionalText ((Keyed.find? field members).getD .null) := by
  rw [lookUp]
  cases Keyed.find? field members <;> rfl

/-- An item that may be missing is read like null when it is. -/
theorem optionalItem_drop (items : List Json) (place : Nat) :
    optionalItem (items.drop place) = readOptionalText (items[place]?.getD .null) := by
  rw [← List.head?_drop]
  cases items.drop place <;> rfl

/-- A text that must not be missing is found as itself. -/
theorem lookUp_readRequiredText_eq_ok_some_iff {field s : String} {members : Keyed Json} :
    lookUp readRequiredText field members = .ok (some s) ↔
      Keyed.find? field members = some (.string s) := by
  rw [lookUp]
  cases Keyed.find? field members with
  | none => simp
  | some value => simp [readRequiredText, map_eq_ok_iff, readText_eq_ok_iff]

/-- Any value is found as itself. -/
theorem lookUp_readRequired (field : String) (members : Keyed Json) :
    lookUp readRequired field members = .ok (Keyed.find? field members) := by
  rw [lookUp]
  cases Keyed.find? field members <;> rfl

/-- What must not be missing is there. -/
theorem require_eq_ok_iff {α : Type} {name : String} {found : Option α} {value : α} :
    require name found = .ok value ↔ found = some value := by
  cases found <;> simp [require]

/-- An array is not refused for its length when it has no more items than there are fields. -/
theorem refuseLonger_eq_ok_iff {items : List Json} {fields : Nat} :
    refuseLonger items fields = .ok () ↔ items.length ≤ fields := by
  rw [refuseLonger]
  split
  · simp; omega
  · simp; omega

/-- When rows are read from the values of their fields, given the fields that a row must have, those
that it may lack and when some values are those of a row. -/
structure ReadsFields {α : Type} (read : Json → Except ShapeError α)
    (required optional : List String) (isGivenBy : α → (String → Option Json) → Prop) : Prop where
  /-- A row is read from the members of an object that give it. -/
  object : ∀ members row, Keyed.Sorted members →
    (read (.object members) = .ok row ↔ isGivenBy row fun field => Keyed.find? field members)
  /-- A row is read from the items of an array that give it and are not more than the fields. -/
  array : ∀ items row, read (.array items) = .ok row ↔
    isGivenBy row (item? (required ++ optional) items) ∧
      items.length ≤ (required ++ optional).length
  /-- Only the values of the fields count. -/
  congr : ∀ row value? other?, (∀ field ∈ required ++ optional, other? field = value? field) →
    isGivenBy row value? → isGivenBy row other?
  /-- A row is given by no values that lack one that it must have. -/
  present : ∀ row value?, isGivenBy row value? → ∀ field ∈ required, value? field ≠ none

namespace ReadsFields

variable {α : Type} {read : Json → Except ShapeError α} {required optional : List String}
  {isGivenBy : α → (String → Option Json) → Prop}

/-- The items of an array are read as the same row as the members of an object to which they are
assigned in the order of the fields. -/
theorem positional (h : ReadsFields read required optional isGivenBy)
    (hfields : (required ++ optional).Nodup) {items : List Json}
    (hlength : items.length ≤ (required ++ optional).length) (row : α) :
    read (.array items) = .ok row ↔
      read (.object (membersOf (required ++ optional) items)) = .ok row := by
  have hsame : ∀ field ∈ required ++ optional,
      Keyed.find? field (membersOf (required ++ optional) items) =
        item? (required ++ optional) items field :=
    fun field hfield => find?_membersOf hfields hfield items
  rw [h.array, h.object _ _ (sorted_membersOf _ _), and_iff_left hlength]
  constructor
  · exact h.congr row _ _ hsame
  · exact h.congr row _ _ fun field hfield => (hsame field hfield).symm

/-- No row is read from too few items or from too many: with too few of them the first field that is
left is one that must be there. -/
theorem refused (h : ReadsFields read required optional isGivenBy)
    (hfields : (required ++ optional).Nodup) {items : List Json}
    (hlength : items.length < required.length ∨ (required ++ optional).length < items.length) :
    ∃ e, read (.array items) = .error e := by
  cases hread : read (.array items) with
  | error e => exact ⟨e, rfl⟩
  | ok row =>
    obtain ⟨hgiven, hatMost⟩ := (h.array items row).mp hread
    rcases hlength with hfew | hmany
    · have hplace : items.length < (required ++ optional).length := by
        rw [List.length_append]
        omega
      have hleft : (required ++ optional)[items.length] ∈ required := by
        rw [List.getElem_append_left hfew]
        exact List.getElem_mem hfew
      have hnone :
          item? (required ++ optional) items (required ++ optional)[items.length] = none := by
        rw [item?, hfields.idxOf_getElem]
        exact List.getElem?_eq_none (Nat.le_refl _)
      exact absurd hnone (h.present row _ hgiven _ hleft)
    · omega

end ReadsFields

end Row

open Row

namespace NodeRow

/-- The fields that a row must have. -/
def requiredFields : List String := ["name"]

/-- The fields that a row may lack, in the order of an array. -/
def optionalFields : List String :=
  ["deactivated", "catalog_timestamp", "facts_timestamp", "report_timestamp"]

/-- The fields of a row in the order of an array. -/
def fields : List String := requiredFields ++ optionalFields

/-- When the values of some fields, of which those that may be missing count as null, are those of a
row. -/
structure IsGivenBy (row : NodeRow) (value? : String → Option Json) : Prop where
  name : value? "name" = some (.string row.name)
  deactivated : (value? "deactivated").getD .null = textOrNull row.deactivated
  catalogTimestamp : (value? "catalog_timestamp").getD .null = textOrNull row.catalogTimestamp
  factsTimestamp : (value? "facts_timestamp").getD .null = textOrNull row.factsTimestamp
  reportTimestamp : (value? "report_timestamp").getD .null = textOrNull row.reportTimestamp

/-- A row is read from the members of an object that gives it. -/
theorem ofMembers_eq_ok_iff {members : Keyed Json} (hmembers : Keyed.Sorted members)
    {row : NodeRow} :
    ofMembers members = .ok row ↔ row.IsGivenBy fun field => Keyed.find? field members := by
  rw [ofMembers_eq_ofFields hmembers]
  constructor
  · intro h
    obtain ⟨catalogTimestamp, hcatalog, h⟩ := bind_eq_ok_iff.mp h
    obtain ⟨deactivated, hdeactivated, h⟩ := bind_eq_ok_iff.mp h
    obtain ⟨factsTimestamp, hfacts, h⟩ := bind_eq_ok_iff.mp h
    obtain ⟨found, hfound, h⟩ := bind_eq_ok_iff.mp h
    obtain ⟨reportTimestamp, hreport, h⟩ := bind_eq_ok_iff.mp h
    obtain ⟨name, hname, h⟩ := bind_eq_ok_iff.mp h
    cases h
    rw [require_eq_ok_iff] at hname
    rw [hname] at hfound
    rw [lookUp_readOptionalText, readOptionalText_eq_ok_iff] at hcatalog hdeactivated hfacts hreport
    exact ⟨lookUp_readRequiredText_eq_ok_some_iff.mp hfound, hdeactivated, hcatalog, hfacts,
      hreport⟩
  · rintro ⟨hname, hdeactivated, hcatalog, hfacts, hreport⟩
    rw [← readOptionalText_eq_ok_iff, ← lookUp_readOptionalText]
      at hdeactivated hcatalog hfacts hreport
    rw [ofFields, hcatalog, hdeactivated, hfacts, lookUp_readRequiredText_eq_ok_some_iff.mpr hname,
      hreport]
    rfl

/-- A row is read from the items of an array that gives it and has no further items. -/
theorem ofItems_eq_ok_iff {items : List Json} {row : NodeRow} :
    ofItems items = .ok row ↔ row.IsGivenBy (item? fields items) ∧ items.length ≤ 5 := by
  cases items with
  | nil =>
    refine iff_of_false nofun ?_
    rintro ⟨⟨hname, -, -, -, -⟩, -⟩
    cases hname
  | cons first rest =>
    constructor
    · intro h
      obtain ⟨name, hname, h⟩ := bind_eq_ok_iff.mp h
      obtain ⟨deactivated, hdeactivated, h⟩ := bind_eq_ok_iff.mp h
      obtain ⟨catalogTimestamp, hcatalog, h⟩ := bind_eq_ok_iff.mp h
      obtain ⟨factsTimestamp, hfacts, h⟩ := bind_eq_ok_iff.mp h
      obtain ⟨reportTimestamp, hreport, h⟩ := bind_eq_ok_iff.mp h
      obtain ⟨⟨⟩, hlength, h⟩ := bind_eq_ok_iff.mp h
      cases h
      rw [readText_eq_ok_iff] at hname
      change optionalItem (rest.drop 0) = _ at hdeactivated
      rw [optionalItem_drop, readOptionalText_eq_ok_iff] at hdeactivated hcatalog hfacts hreport
      exact ⟨⟨congrArg some hname, hdeactivated, hcatalog, hfacts, hreport⟩,
        refuseLonger_eq_ok_iff.mp hlength⟩
    · rintro ⟨⟨hfirst, hsecond, hthird, hfourth, hfifth⟩, hlength⟩
      have hname := readText_eq_ok_iff.mpr (Option.some.inj hfirst)
      have hdeactivated := (optionalItem_drop rest 0).trans (readOptionalText_eq_ok_iff.mpr hsecond)
      have hcatalog := (optionalItem_drop rest 1).trans (readOptionalText_eq_ok_iff.mpr hthird)
      have hfacts := (optionalItem_drop rest 2).trans (readOptionalText_eq_ok_iff.mpr hfourth)
      have hreport := (optionalItem_drop rest 3).trans (readOptionalText_eq_ok_iff.mpr hfifth)
      rw [List.drop_zero] at hdeactivated
      rw [ofItems, hname, hdeactivated, hcatalog, hfacts, hreport,
        refuseLonger_eq_ok_iff.mpr hlength]
      rfl

/-- Objects are read as the same row or refused for the same reason when they agree on the fields,
where a null agrees with a missing field that may be missing. -/
theorem ofMembers_congr {members others : Keyed Json} (hmembers : Keyed.Sorted members)
    (hothers : Keyed.Sorted others)
    (hrequired : ∀ field ∈ requiredFields, Keyed.find? field members = Keyed.find? field others)
    (hoptional : ∀ field ∈ optionalFields,
      (Keyed.find? field members).getD .null = (Keyed.find? field others).getD .null) :
    ofMembers members = ofMembers others := by
  have htext : ∀ field ∈ optionalFields,
      lookUp readOptionalText field members = lookUp readOptionalText field others := by
    intro field hfield
    rw [lookUp_readOptionalText, lookUp_readOptionalText, hoptional field hfield]
  have hname : lookUp readRequiredText "name" members = lookUp readRequiredText "name" others := by
    rw [lookUp, lookUp, hrequired "name" (by decide)]
  rw [ofMembers_eq_ofFields hmembers, ofMembers_eq_ofFields hothers, ofFields, ofFields, hname,
    htext "deactivated" (by decide), htext "catalog_timestamp" (by decide),
    htext "facts_timestamp" (by decide), htext "report_timestamp" (by decide)]

/-- An object with a null for a missing field that may be missing is read like the one without. -/
theorem ofMembers_insert_null {field : String} (hfield : field ∈ optionalFields)
    {members : Keyed Json} (hmembers : Keyed.Sorted members) (hmissing : Keyed.find? field members = none) :
    ofMembers (Keyed.insert field .null members) = ofMembers members := by
  have hoptional : ∀ other ∈ requiredFields, other ∉ optionalFields := by decide
  refine ofMembers_congr hmembers.insert hmembers (fun other hother => ?_) fun other _ => ?_
  · have hne : field ≠ other := fun hsame => hoptional other hother (hsame ▸ hfield)
    rw [Keyed.find?_insert, if_neg hne]
  · rw [Keyed.find?_insert]
    by_cases hsame : field = other
    · rw [if_pos hsame, ← hsame, hmissing, Option.getD_some, Option.getD_none]
    · rw [if_neg hsame]

/-- The fields of a row as the items of an array. -/
def toItems (row : NodeRow) : List Json :=
  [.string row.name, textOrNull row.deactivated, textOrNull row.catalogTimestamp,
    textOrNull row.factsTimestamp, textOrNull row.reportTimestamp]

/-- A row is read from its fields. -/
theorem ofItems_toItems (row : NodeRow) : ofItems row.toItems = .ok row :=
  ofItems_eq_ok_iff.mpr ⟨⟨rfl, rfl, rfl, rfl, rfl⟩, Nat.le_refl 5⟩

/-- Rows are read from the values of their fields. -/
theorem readsFields : ReadsFields ofJson requiredFields optionalFields IsGivenBy where
  object members row hmembers := ofMembers_eq_ok_iff hmembers
  array items row := ofItems_eq_ok_iff
  congr row value? other? hsame h :=
    { name := (hsame _ (by decide)).trans h.name
      deactivated := by rw [hsame _ (by decide), h.deactivated]
      catalogTimestamp := by rw [hsame _ (by decide), h.catalogTimestamp]
      factsTimestamp := by rw [hsame _ (by decide), h.factsTimestamp]
      reportTimestamp := by rw [hsame _ (by decide), h.reportTimestamp] }
  present row value? h := by
    simp [requiredFields, h.name]

end NodeRow

namespace FactRow

/-- The fields of a row in the order of an array; a row must have them all. -/
def requiredFields : List String := ["certname", "name", "value"]

/-- When the values of some fields are those of a row. -/
structure IsGivenBy (row : FactRow) (value? : String → Option Json) : Prop where
  certname : value? "certname" = some (.string row.certname)
  name : value? "name" = some (.string row.name)
  value : value? "value" = some row.value

/-- A row is read from the members of an object that gives it. -/
theorem ofMembers_eq_ok_iff {members : Keyed Json} (hmembers : Keyed.Sorted members)
    {row : FactRow} :
    ofMembers members = .ok row ↔ row.IsGivenBy fun field => Keyed.find? field members := by
  rw [ofMembers_eq_ofFields hmembers]
  constructor
  · intro h
    obtain ⟨foundCertname, hfoundCertname, h⟩ := bind_eq_ok_iff.mp h
    obtain ⟨foundName, hfoundName, h⟩ := bind_eq_ok_iff.mp h
    obtain ⟨foundValue, hfoundValue, h⟩ := bind_eq_ok_iff.mp h
    obtain ⟨certname, hcertname, h⟩ := bind_eq_ok_iff.mp h
    obtain ⟨name, hname, h⟩ := bind_eq_ok_iff.mp h
    obtain ⟨value, hvalue, h⟩ := bind_eq_ok_iff.mp h
    cases h
    rw [require_eq_ok_iff] at hcertname hname hvalue
    rw [hcertname, lookUp_readRequiredText_eq_ok_some_iff] at hfoundCertname
    rw [hname, lookUp_readRequiredText_eq_ok_some_iff] at hfoundName
    rw [hvalue, lookUp_readRequired, Except.ok.injEq] at hfoundValue
    exact ⟨hfoundCertname, hfoundName, hfoundValue⟩
  · rintro ⟨hcertname, hname, hvalue⟩
    rw [← lookUp_readRequiredText_eq_ok_some_iff] at hcertname hname
    rw [ofFields, hcertname, hname, lookUp_readRequired, hvalue]
    rfl

/-- A row is read from the items of an array that gives it and has no further items. -/
theorem ofItems_eq_ok_iff {items : List Json} {row : FactRow} :
    ofItems items = .ok row ↔ row.IsGivenBy (item? requiredFields items) ∧ items.length ≤ 3 := by
  match items with
  | [] => exact iff_of_false nofun fun h => nomatch h.1.value
  | [first] =>
    refine iff_of_false (fun h => ?_) fun h => nomatch h.1.value
    obtain ⟨_, _, h⟩ := bind_eq_ok_iff.mp h
    cases h
  | [first, second] =>
    refine iff_of_false (fun h => ?_) fun h => nomatch h.1.value
    obtain ⟨_, _, h⟩ := bind_eq_ok_iff.mp h
    obtain ⟨_, _, h⟩ := bind_eq_ok_iff.mp h
    cases h
  | first :: second :: value :: rest =>
    constructor
    · intro h
      obtain ⟨certname, hcertname, h⟩ := bind_eq_ok_iff.mp h
      obtain ⟨name, hname, h⟩ := bind_eq_ok_iff.mp h
      obtain ⟨⟨⟩, hlength, h⟩ := bind_eq_ok_iff.mp h
      cases h
      rw [readText_eq_ok_iff] at hcertname hname
      exact ⟨⟨congrArg some hcertname, congrArg some hname, rfl⟩, refuseLonger_eq_ok_iff.mp hlength⟩
    · rintro ⟨⟨hfirst, hsecond, hthird⟩, hlength⟩
      have hcertname := readText_eq_ok_iff.mpr (Option.some.inj hfirst)
      have hname := readText_eq_ok_iff.mpr (Option.some.inj hsecond)
      obtain rfl : value = row.value := Option.some.inj hthird
      rw [ofItems, hcertname, hname, refuseLonger_eq_ok_iff.mpr hlength]
      rfl

/-- Objects are read as the same row or refused for the same reason when they agree on the
fields. -/
theorem ofMembers_congr {members others : Keyed Json} (hmembers : Keyed.Sorted members)
    (hothers : Keyed.Sorted others)
    (hrequired : ∀ field ∈ requiredFields, Keyed.find? field members = Keyed.find? field others) :
    ofMembers members = ofMembers others := by
  rw [ofMembers_eq_ofFields hmembers, ofMembers_eq_ofFields hothers, ofFields, ofFields]
  simp only [lookUp]
  rw [hrequired "certname" (by decide), hrequired "name" (by decide), hrequired "value" (by decide)]

/-- The fields of a row as the items of an array. -/
def toItems (row : FactRow) : List Json := [.string row.certname, .string row.name, row.value]

/-- A row is read from its fields. -/
theorem ofItems_toItems (row : FactRow) : ofItems row.toItems = .ok row :=
  ofItems_eq_ok_iff.mpr ⟨⟨rfl, rfl, rfl⟩, Nat.le_refl 3⟩

/-- Rows are read from the values of their fields. -/
theorem readsFields : ReadsFields ofJson requiredFields [] IsGivenBy where
  object members row hmembers := ofMembers_eq_ok_iff hmembers
  array items row := ofItems_eq_ok_iff
  congr row value? other? hsame h :=
    { certname := (hsame _ (by decide)).trans h.certname
      name := (hsame _ (by decide)).trans h.name
      value := (hsame _ (by decide)).trans h.value }
  present row value? h := by
    simp [requiredFields, h.certname, h.name, h.value]

end FactRow

namespace Row

/-- When the forms of a row are read alike, given the fields that a row must have and those that it
may lack, both in the order of an array. -/
structure FormsAgree {α : Type} (read : Json → Except ShapeError α)
    (required optional : List String) : Prop where
  /-- Members that are no fields may be added to an object and removed from it: it is read as the
  same row or refused for the same reason. -/
  others : ∀ members others : Keyed Json, Keyed.Sorted members → Keyed.Sorted others →
    (∀ field ∈ required ++ optional, Keyed.find? field members = Keyed.find? field others) →
      read (.object members) = read (.object others)
  /-- A field that may be missing may as well be null. -/
  null : ∀ field ∈ optional, ∀ members : Keyed Json, Keyed.Sorted members →
    Keyed.find? field members = none →
      read (.object (Keyed.insert field .null members)) = read (.object members)
  /-- An array of the fields that a row must have, and of further ones in their order, is read as
  the same row as the object that assigns its items to these fields, and one is refused when the
  other is. -/
  positional : ∀ items row, required.length ≤ items.length →
    items.length ≤ (required ++ optional).length →
      (read (.array items) = .ok row ↔
        read (.object (membersOf (required ++ optional) items)) = .ok row)
  /-- Every row is read from some array with an item for each field. -/
  written : ∀ row, ∃ items, items.length = (required ++ optional).length ∧
    read (.array items) = .ok row
  /-- An array with fewer items or with more is refused. -/
  refused : ∀ items, items.length < required.length ∨ (required ++ optional).length < items.length →
    ∃ e, read (.array items) = .error e

end Row

/-- The forms of the rows of both endpoints are read alike: objects whatever else they hold, objects
with nulls, and arrays of as many items as there are fields, or as few as must be there. -/
theorem rows_formsAgree :
    FormsAgree NodeRow.ofJson NodeRow.requiredFields NodeRow.optionalFields ∧
      FormsAgree FactRow.ofJson FactRow.requiredFields [] := by
  constructor
  · constructor
    · intro members others hmembers hothers hsame
      refine NodeRow.ofMembers_congr hmembers hothers (fun field hfield => ?_)
        fun field hfield => ?_
      · exact hsame field (List.mem_append_left _ hfield)
      · rw [hsame field (List.mem_append_right _ hfield)]
    · exact fun field hfield members => NodeRow.ofMembers_insert_null hfield
    · exact fun items row _ hlength => NodeRow.readsFields.positional (by decide) hlength row
    · exact fun row => ⟨row.toItems, rfl, row.ofItems_toItems⟩
    · exact fun items => NodeRow.readsFields.refused (by decide)
  · constructor
    · exact fun members others => FactRow.ofMembers_congr
    · exact fun field hfield => absurd hfield List.not_mem_nil
    · exact fun items row _ hlength => FactRow.readsFields.positional (by decide) hlength row
    · exact fun row => ⟨row.toItems, rfl, row.ofItems_toItems⟩
    · exact fun items => FactRow.readsFields.refused (by decide)

/-- The name of a node and the time of its catalog in the order of an array, where the field between
them is null. -/
def catalogItems : List Json := [.string "web", .null, .string "2014-08-08"]

/-- The members that these items are assigned to. -/
def catalogMembers : Keyed Json :=
  [("catalog_timestamp", .string "2014-08-08"), ("deactivated", .null), ("name", .string "web")]

/-- The same members without the null and with one that is no field. -/
def zonedMembers : Keyed Json :=
  [("catalog_timestamp", .string "2014-08-08"), ("name", .string "web"), ("zone", .null)]

/-- The row is read from the array, from the object and from the object without the null and with a
member that is no field. An array with six items is no row. -/
theorem rows_formsAgree_catalogItems :
    NodeRow.ofJson (.array catalogItems) =
        .ok { name := "web", catalogTimestamp := some "2014-08-08" } ∧
      NodeRow.ofJson (.object catalogMembers) = NodeRow.ofJson (.object zonedMembers) ∧
      ∃ e, NodeRow.ofJson (.array (catalogItems ++ catalogItems)) = .error e := by
  obtain ⟨⟨hothers, hnull, hpositional, -, hrefused⟩, -⟩ := rows_formsAgree
  have hobject : NodeRow.ofJson (.object catalogMembers) =
      .ok { name := "web", catalogTimestamp := some "2014-08-08" } := rfl
  have hsorted : Keyed.Sorted [("catalog_timestamp", Json.string "2014-08-08"),
      ("name", .string "web")] := by
    unfold Keyed.Sorted
    decide
  have hzoned : Keyed.Sorted zonedMembers := by
    unfold Keyed.Sorted
    decide
  refine ⟨(hpositional catalogItems _ (by decide) (by decide)).mpr hobject, ?_, ?_⟩
  · have hinserted := hnull "deactivated" (by decide) _ hsorted rfl
    exact hinserted.trans (hothers _ _ hsorted hzoned (by decide))
  · exact hrefused _ (.inr (by decide))

end InventoryQuery
