import InventoryQuery.Proofs.Keyed
import InventoryQuery.Row.Basic

/-!
# Walking over the members of an object

An object is read in one walk over its members, which increase by name. Members that are no fields
are passed over, so the walk comes to looking up the fields one after the other, in increasing order
of their names and not in the order in which they are declared.
-/

namespace InventoryQuery

namespace Row

variable {Found α : Type} {add : Found → String × Json → Except ShapeError Found}
  {members : Keyed Json} {found : Found} {field : String}

/-- Look up a field in an object and read its value, if it has one. -/
def lookUp (read : Json → Except ShapeError (Option α)) (field : String) (members : Keyed Json) :
    Except ShapeError (Option α) :=
  match Keyed.find? field members with
  | none => .ok none
  | some value => read value

/-- Add the member for a field, if there is one, to what was found before it. -/
def addField (add : Found → String × Json → Except ShapeError Found) (members : Keyed Json)
    (found : Found) (field : String) : Except ShapeError Found :=
  match Keyed.find? field members with
  | none => .ok found
  | some value => add found (field, value)

/-- A walk over the members of an object that passes over those that are no fields adds the members
for the fields in increasing order of their names. -/
theorem foldlM_add {fields : List String} (hfields : fields.Pairwise (· < ·))
    (hother : ∀ found member, member.1 ∉ fields → add found member = .ok found)
    (hmembers : Keyed.Sorted members) (found : Found) :
    members.foldlM add found = fields.foldlM (addField add members) found := by
  have hadd : add = fun found member =>
      if decide (member.1 ∈ fields) = true then add found member else pure found := by
    funext found member
    by_cases hfield : member.1 ∈ fields
    · rw [if_pos (decide_eq_true hfield)]
    · rw [if_neg (by simpa using hfield)]
      exact hother found member hfield
  calc members.foldlM add found
      = members.foldlM (fun found member =>
          if decide (member.1 ∈ fields) = true then add found member else pure found) found := by
        rw [← hadd]
    _ = (members.filter fun member => decide (member.1 ∈ fields)).foldlM add found :=
        List.foldlM_filter.symm
    _ = (fields.filterMap fun field =>
          (Keyed.find? field members).map (field, ·)).foldlM add found := by
        rw [hmembers.filter_mem hfields]
    _ = fields.foldlM (addField add members) found := by
        rw [List.foldlM_filterMap]
        congr 1
        funext found field
        rw [addField]
        cases Keyed.find? field members <;> rfl

/-- A walk that adds the member for a field goes on as one that looks the field up and sets it to
what it is read as. -/
theorem addField_bind {β : Type} {read : Json → Except ShapeError (Option α)}
    {next : Found → Except ShapeError β} {goOn : Option α → Except ShapeError β}
    (set : Option α → Found) (hnone : set none = found)
    (hsome : ∀ value, (read value).map set = add found (field, value))
    (hnext : ∀ text, next (set text) = goOn text) :
    addField add members found field >>= next = lookUp read field members >>= goOn := by
  rw [addField, lookUp]
  cases Keyed.find? field members with
  | none =>
    change next found = goOn none
    rw [← hnone, hnext]
  | some value =>
    dsimp only
    rw [← hsome]
    cases read value with
    | error e => rfl
    | ok text => exact hnext text

/-- A text that must not be missing, as it is looked up. -/
def readRequiredText (value : Json) : Except ShapeError (Option String) := (readText value).map some

/-- A text that must not be missing is set as one that was found. -/
theorem map_readRequiredText (set : Option String → Found) (value : Json) :
    (readRequiredText value).map set = (readText value).map fun s => set (some s) := by
  rw [readRequiredText]
  cases readText value <;> rfl

/-- Any value that must not be missing, as it is looked up. -/
def readRequired (value : Json) : Except ShapeError (Option Json) := .ok (some value)

end Row

open Row

namespace NodeRow

/-- The names of the fields in increasing order. -/
def sortedFields : List String :=
  ["catalog_timestamp", "deactivated", "facts_timestamp", "name", "report_timestamp"]

/-- A member that is no field is passed over. -/
theorem Found.add_of_notMem (found : Found) (member : String × Json)
    (hmember : member.1 ∉ sortedFields) : found.add member = .ok found := by
  simp only [sortedFields, List.mem_cons, List.not_mem_nil, or_false, not_or] at hmember
  rw [Found.add]
  split <;> first | rfl | simp_all

/-- Look up the fields of a row in an object, in increasing order of their names. -/
def ofFields (members : Keyed Json) : Except ShapeError NodeRow := do
  let catalogTimestamp ← lookUp readOptionalText "catalog_timestamp" members
  let deactivated ← lookUp readOptionalText "deactivated" members
  let factsTimestamp ← lookUp readOptionalText "facts_timestamp" members
  let name ← lookUp readRequiredText "name" members
  let reportTimestamp ← lookUp readOptionalText "report_timestamp" members
  let name ← require "name" name
  return { name, deactivated, catalogTimestamp, factsTimestamp, reportTimestamp }

/-- A row is read from the members of an object by looking up its fields. -/
theorem ofMembers_eq_ofFields {members : Keyed Json} (hmembers : Keyed.Sorted members) :
    ofMembers members = ofFields members := by
  rw [ofMembers, foldlM_add (by decide) Found.add_of_notMem hmembers, ofFields, sortedFields]
  simp only [List.foldlM_cons, List.foldlM_nil, bind_assoc, pure_bind]
  refine addField_bind (fun text => { catalogTimestamp := text }) rfl (fun _ => rfl) ?_
  intro catalogTimestamp
  refine addField_bind (fun text => { catalogTimestamp, deactivated := text }) rfl (fun _ => rfl) ?_
  intro deactivated
  refine addField_bind (fun text => { catalogTimestamp, deactivated, factsTimestamp := text }) rfl
    (fun _ => rfl) ?_
  intro factsTimestamp
  refine addField_bind
    (fun text => { name := text, catalogTimestamp, deactivated, factsTimestamp }) rfl
    (map_readRequiredText _) ?_
  intro name
  refine addField_bind
    (fun text =>
      { name, catalogTimestamp, deactivated, factsTimestamp, reportTimestamp := text }) rfl
    (fun _ => rfl) ?_
  intro reportTimestamp
  rfl

end NodeRow

namespace FactRow

/-- The names of the fields in increasing order. -/
def sortedFields : List String := ["certname", "name", "value"]

/-- A member that is no field is passed over. -/
theorem Found.add_of_notMem (found : Found) (member : String × Json)
    (hmember : member.1 ∉ sortedFields) : found.add member = .ok found := by
  simp only [sortedFields, List.mem_cons, List.not_mem_nil, or_false, not_or] at hmember
  rw [Found.add]
  split <;> first | rfl | simp_all

/-- Look up the fields of a row in an object. -/
def ofFields (members : Keyed Json) : Except ShapeError FactRow := do
  let certname ← lookUp readRequiredText "certname" members
  let name ← lookUp readRequiredText "name" members
  let value ← lookUp readRequired "value" members
  let certname ← require "certname" certname
  let name ← require "name" name
  let value ← require "value" value
  return { certname, name, value }

/-- A row is read from the members of an object by looking up its fields. -/
theorem ofMembers_eq_ofFields {members : Keyed Json} (hmembers : Keyed.Sorted members) :
    ofMembers members = ofFields members := by
  rw [ofMembers, foldlM_add (by decide) Found.add_of_notMem hmembers, ofFields, sortedFields]
  simp only [List.foldlM_cons, List.foldlM_nil, bind_assoc, pure_bind]
  refine addField_bind (fun text => { certname := text }) rfl
    (map_readRequiredText _) ?_
  intro certname
  refine addField_bind (fun text => { certname, name := text }) rfl
    (map_readRequiredText _) ?_
  intro name
  refine addField_bind (fun value => { certname, name, value }) rfl (fun _ => rfl) ?_
  intro value
  rfl

end FactRow

end InventoryQuery
