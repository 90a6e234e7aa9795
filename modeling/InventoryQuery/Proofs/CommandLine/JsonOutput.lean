import InventoryQuery.Proofs.CommandLine.FactOutput
import InventoryQuery.Proofs.Json.Indented
import InventoryQuery.Proofs.Row.Forms

/-!
# JSON that is printed

What a run prints as JSON is read back by the reader of the answers of servers. The value of a fact
stands two levels below the array of the rows, in an array or an object for its row, and two levels
below the object of the facts, in the object of their nodes. So whatever is read within the limit on
nesting is printed within it.
-/

namespace InventoryQuery

open Json (Fits)

/-- The value of a row is an item of the row or the value of a member. -/
theorem FactRow.value_mem {item : Json} {row : FactRow} (hrow : FactRow.ofJson item = .ok row)
    {depth : Nat} (hfits : Fits depth item) :
    (∃ items, item = .array items ∧ row.value ∈ items) ∨
      ∃ members, item = .object members ∧ ("value", row.value) ∈ members := by
  cases hfits with
  | array => exact .inl ⟨_, rfl, List.mem_of_getElem? (FactRow.ofItems_eq_ok_iff.mp hrow).1.value⟩
  | object hnames =>
    have hvalue := ((FactRow.ofMembers_eq_ok_iff hnames).mp hrow).value
    exact .inr ⟨_, rfl, Keyed.mem_of_find? hvalue⟩
  | _ => cases hrow

/-- The value of a row nests one level less than the row. -/
theorem FactRow.fits_value {item : Json} {row : FactRow} (hrow : FactRow.ofJson item = .ok row)
    {depth : Nat} (hfits : Fits (depth + 1) item) : Fits depth row.value := by
  rcases FactRow.value_mem hrow hfits with ⟨items, rfl, hmem⟩ | ⟨members, rfl, hmem⟩
  · cases hfits with
    | array hitems => exact hitems _ hmem
  · cases hfits with
    | object _ hmembers => exact hmembers _ hmem

/-- The numbers of the value of a row are numbers of the row. -/
theorem FactRow.hasWholeNumbers_value {item : Json} {row : FactRow}
    (hrow : FactRow.ofJson item = .ok row) {depth : Nat} (hfits : Fits depth item)
    (hwhole : item.HasWholeNumbers) : row.value.HasWholeNumbers := by
  rcases FactRow.value_mem hrow hfits with ⟨items, rfl, hmem⟩ | ⟨members, rfl, hmem⟩
  · exact Json.hasWholeNumbers_array_iff.mp hwhole _ hmem
  · exact Json.hasWholeNumbers_object_iff.mp hwhole _ hmem

namespace FactMap

variable {facts : FactMap}

/-- The object of the facts nests two levels more than their values. -/
theorem fits_toJson (hordered : facts.IsOrdered) {depth : Nat}
    (hvalues : ∀ {fact certname value}, facts.value? fact certname = some value →
      Fits depth value) : Fits (depth + 2) facts.toJson := by
  refine .object ?names (List.forall_mem_map.mpr ?members)
  case names =>
    rw [Keyed.Sorted, List.map_map]
    exact Keyed.sorted_iff_bytes.mpr hordered.facts_increase
  case members =>
    rintro ⟨fact, nodes⟩ hnodes
    have hincrease := Keyed.sorted_iff_bytes.mpr (hordered.nodes_increase fact nodes hnodes)
    exact .object hincrease fun _ hvalue => hvalues (hordered.value?_eq_some hnodes hvalue)

/-- The numbers of the object of the facts are those of their values. -/
theorem hasWholeNumbers_toJson (hordered : facts.IsOrdered)
    (hvalues : ∀ {fact certname value}, facts.value? fact certname = some value →
      value.HasWholeNumbers) : facts.toJson.HasWholeNumbers := by
  refine Json.hasWholeNumbers_object_iff.mpr (List.forall_mem_map.mpr ?_)
  rintro ⟨fact, nodes⟩ hnodes
  exact Json.hasWholeNumbers_object_iff.mpr fun _ hvalue =>
    hvalues (hordered.value?_eq_some hnodes hvalue)

/-- A value in the map of some items is that of one of them. -/
theorem exists_item_of_value? {items : List Json} (hfacts : ofAnswer (.array items) = .ok facts)
    {fact certname : String} {value : Json} (hvalue : facts.value? fact certname = some value) :
    ∃ item ∈ items, ∃ row, FactRow.ofJson item = .ok row ∧ row.value = value := by
  obtain ⟨rows, hrows, rfl⟩ := map_eq_ok_iff.mp hfacts
  obtain ⟨row, hmem, hrow⟩ := exists_row_of_value? hvalue
  rw [factRows, Row.readRows_eq_mapM] at hrows
  obtain ⟨item, hitem, hread⟩ := exists_mem_of_mapM hrows hmem
  exact ⟨item, hitem, row, hread, hrow⟩

/-- The object of the facts in an array nests no deeper than what the array fits into. -/
theorem fits_toJson_of_ofAnswer {items : List Json} (hfacts : ofAnswer (.array items) = .ok facts)
    {depth : Nat} (hfits : Fits (depth + 2) (.array items)) : Fits (depth + 2) facts.toJson := by
  obtain ⟨rows, -, rfl⟩ := map_eq_ok_iff.mp hfacts
  refine fits_toJson (isOrdered_ofRows rows) fun hvalue => ?_
  obtain ⟨item, hmem, row, hrow, rfl⟩ := exists_item_of_value? hfacts hvalue
  cases hfits with
  | array hitems => exact FactRow.fits_value hrow (hitems item hmem)

/-- The numbers of the object of the facts in an array are numbers of the array. -/
theorem hasWholeNumbers_toJson_of_ofAnswer {items : List Json}
    (hfacts : ofAnswer (.array items) = .ok facts) {depth : Nat}
    (hfits : Fits depth (.array items)) (hwhole : (Json.array items).HasWholeNumbers) :
    facts.toJson.HasWholeNumbers := by
  obtain ⟨rows, -, rfl⟩ := map_eq_ok_iff.mp hfacts
  refine hasWholeNumbers_toJson (isOrdered_ofRows rows) fun hvalue => ?_
  obtain ⟨item, hmem, row, hrow, rfl⟩ := exists_item_of_value? hfacts hvalue
  cases hfits with
  | array hitems =>
    exact FactRow.hasWholeNumbers_value hrow (hitems item hmem)
      (Json.hasWholeNumbers_array_iff.mp hwhole item hmem)

end FactMap

namespace CommandLine

/-- A value that may have been read as an answer is read back from its lines. -/
theorem parse_lines_pretty {v : Json} (hfits : Fits Json.nestingLimit v)
    (hwhole : v.HasWholeNumbers) : Json.parse (lines [v.pretty]) = .ok v := by
  have htext : (lines [v.pretty]).toList = v.printIndented 0 ++ ['\n'] := by
    simp [lines, Json.pretty, String.join]
  rw [Json.parse, htext, Json.parseChars_printIndented hfits hwhole]

/-- Names that are printed as JSON are read back. -/
theorem parse_printNodes (names : List String) :
    Json.parse (Format.json.printNodes names) = .ok (.array (names.map .string)) := by
  refine parse_lines_pretty (.array (List.forall_mem_map.mpr fun _ _ => .string)) ?_
  exact Json.hasWholeNumbers_array_iff.mpr
    (List.forall_mem_map.mpr fun s _ => Json.hasWholeNumbers_string s)

/-- The facts of an answer that is an array of rows are read back when they are printed as JSON. -/
theorem parse_printFacts {body : String} {items : List Json} {facts : FactMap}
    (hbody : Json.parse body = .ok (.array items)) (hwhole : (Json.array items).HasWholeNumbers)
    (hfacts : FactMap.ofAnswer (.array items) = .ok facts) :
    Json.parse (Format.json.printFacts facts) = .ok facts.toJson := by
  have hfits : Fits (125 + 2) (.array items) := Json.fits_of_parseChars hbody
  exact parse_lines_pretty (FactMap.fits_toJson_of_ofAnswer hfacts hfits)
    (FactMap.hasWholeNumbers_toJson_of_ofAnswer hfacts hfits hwhole)

/-- A task that asks for nodes ends with the text of the names that are answered. -/
theorem Task.result_perform_nodes {surroundings : Surroundings} {target : Target}
    {words : List String} {query : Option Predicate} {transport : Transport Http.Request}
    {answer : Json} {names : List String} (format : Format) (hquery : readFilter words = .ok query)
    (htransport : (target.transport surroundings).result = .ok transport)
    (hanswer : (transport.get Endpoint.nodes.path
      (query.map (Predicate.render · .nodes))).result = .ok answer)
    (hnames : nodeNames answer = .ok names) :
    ((Task.nodes target format words).perform surroundings).result =
      .ok (format.printNodes names) := by
  have hclient : (Client.nodes transport query).result = .ok names := by
    rw [Client.result_nodes hanswer, hnames, mapError_ok]
  rw [Task.perform, hquery, Activity.ofExcept_ok_bind, Activity.result_bind_ok htransport,
    Activity.result_bind_ok hclient]
  rfl

/-- When a run ends well and prints what is read as a value. -/
def Outcome.PrintsJson (outcome : Outcome) (value : Json) : Prop :=
  outcome.code = 0 ∧ Json.parse outcome.output = .ok value

/-- What is printed as JSON is read back. When a server replies with success and a body that is read
as an answer, a run that asks for nodes in JSON ends well and prints the array of the names in the
answer; if the answer is an array of rows and its numbers are what integers are read as, a run that
asks for facts in JSON ends well and prints the object of their map. -/
theorem json_isReadBack {body : String} {answer : Json} (hbody : Json.parse body = .ok answer) :
    (∀ names, nodeNames answer = .ok names →
      ∀ arguments target words query surroundings,
        Task.ofArguments arguments = .ok (.nodes target .json words) →
          readFilter words = .ok query →
            IsRepliedWith surroundings target .nodes (query.map (Predicate.render · .nodes)) body →
              (run surroundings arguments).PrintsJson (.array (names.map .string))) ∧
    (∀ items facts, answer = .array items → answer.HasWholeNumbers →
      FactMap.ofAnswer answer = .ok facts →
        ∀ arguments target names words query surroundings,
          Task.ofArguments arguments = .ok (.facts target names .json words) →
            readFilter words = .ok query →
              IsRepliedWith surroundings target .facts
                  ((factsQuery names query).map (Predicate.render · .facts)) body →
                (run surroundings arguments).PrintsJson facts.toJson) := by
  constructor
  · intro names hnames arguments target words query surroundings htask hquery hreplied
    obtain ⟨transport, htransport, hanswer⟩ := hreplied.exists_transport hbody
    obtain ⟨hcode, houtput⟩ := Outcome.ofActivity_of_result_eq
      (Task.result_perform_nodes .json hquery htransport hanswer hnames)
    rw [← run_of_task htask] at hcode houtput
    exact ⟨hcode, houtput ▸ parse_printNodes names⟩
  · rintro items facts rfl hwhole hfacts arguments target names words query surroundings htask
      hquery hreplied
    obtain ⟨transport, htransport, hanswer⟩ := hreplied.exists_transport hbody
    have hanswered : IsAnswered surroundings target names words (.array items) :=
      ⟨query, transport, hquery, htransport, hanswer⟩
    obtain ⟨hcode, houtput⟩ :=
      isPrintedAs_of_ofAnswer hfacts arguments target names .json words surroundings htask hanswered
    exact ⟨hcode, houtput ▸ parse_printFacts hbody hwhole hfacts⟩

/-- The arguments with which the server is asked for something in JSON. -/
def jsonArguments (command : String) : List String :=
  [command, "--config", "pdq.toml", "-u", "http://[::1]:47123/", "-f", "json"]

/-- A fact whose value holds the least integer and the greatest one that are kept. -/
def boundsBody : String :=
  "[\x7b\"certname\": \"web\", \"name\": \"os\", " ++
    "\"value\": [-9223372036854775808, \x7b\"n\": 18446744073709551615\x7d]\x7d]"

/-- The value of this fact. -/
def boundsValue : Json :=
  .array [.number (.integer (-9223372036854775808)),
    .object [("n", .number (.integer 18446744073709551615))]]

/-- The row of this fact. -/
def boundsAnswer : Json :=
  .array [.object [("certname", .string "web"), ("name", .string "os"), ("value", boundsValue)]]

/-- The fact is printed with its value as an object of objects, and its name as that of a node. -/
theorem json_isReadBack_boundsBody :
    (run (replyingText boundsBody) (jsonArguments "nodes")).PrintsJson (.array [.string "os"]) ∧
      (run (replyingText boundsBody) (jsonArguments "facts")).PrintsJson
        (.object [("os", .object [("web", boundsValue)])]) := by
  have hbody : Json.parse boundsBody = .ok boundsAnswer := by decide +kernel
  have hbytes : Text.decodeLossy (Text.bytes boundsBody.toList) = boundsBody := by decide +kernel
  have hwhole : boundsAnswer.HasWholeNumbers := by
    simp [boundsAnswer, boundsValue, Json.hasWholeNumbers_array_iff,
      Json.hasWholeNumbers_object_iff, Json.hasWholeNumbers_number_iff,
      Json.hasWholeNumbers_string, Json.Number.IsWhole]
  obtain ⟨hnodes, hfacts⟩ := json_isReadBack hbody
  constructor
  · exact hnodes ["os"] rfl _ localTarget [] none _ rfl rfl (isRepliedWith_replyingText hbytes _)
  · exact hfacts _ [("os", [("web", boundsValue)])] rfl hwhole rfl _ localTarget [] [] none _ rfl
      rfl (isRepliedWith_replyingText hbytes _)

end CommandLine

end InventoryQuery
