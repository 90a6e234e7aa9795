import InventoryQuery.Proofs.CommandLine.CleanFailure
import InventoryQuery.Proofs.FactMap
import InventoryQuery.Proofs.Json.ReadBack

/-!
# Facts as they are printed

What a run prints that asks for facts and gets an answer: the map of the rows of the answer, in
which each fact of a node has the value of its last row. As the map does not depend on the order of
rows for different facts or nodes, neither does what is printed.
-/

namespace InventoryQuery.CommandLine

/-- A run of a task that ends with a text prints it. -/
theorem Outcome.ofActivity_of_result_eq {activity : Activity Http.Request String} {output : String}
    (hresult : activity.result = .ok output) :
    (Outcome.ofActivity activity).code = 0 ∧ (Outcome.ofActivity activity).output = output := by
  rw [Outcome.ofActivity, hresult]
  exact ⟨rfl, rfl⟩

/-- When a server replies with success and a body to what is asked of an endpoint in some
surroundings: there is a way to the server, a URL for the endpoint and a reply to the query. -/
def IsRepliedWith (surroundings : Surroundings) (target : Target) (endpoint : Endpoint)
    (query : Option String) (body : String) : Prop :=
  ∃ (server : Http.Server) (url : Url) (reply : Http.Reply),
    (target.transport surroundings).result = .ok (server.transport surroundings.network) ∧
      server.urlFor endpoint.path = .ok url ∧
      (Http.exchange surroundings.network (Http.withQuery url query)).result = .ok reply ∧
      Http.isSuccess reply.status = true ∧ reply.text? = some body

/-- A body that is read answers the query that it is a reply to. -/
theorem IsRepliedWith.exists_transport {surroundings : Surroundings} {target : Target}
    {endpoint : Endpoint} {query : Option String} {body : String}
    (h : IsRepliedWith surroundings target endpoint query body) {answer : Json}
    (hbody : Json.parse body = .ok answer) :
    ∃ transport, (target.transport surroundings).result = .ok transport ∧
      (transport.get endpoint.path query).result = .ok answer := by
  obtain ⟨server, url, reply, htransport, hurl, hreply, hsuccess, htext⟩ := h
  refine ⟨_, htransport, (Http.result_get hurl hreply hsuccess htext).trans ?_⟩
  rw [hbody, mapError_ok]

/-- When what is asked for facts in some surroundings is answered: the words of the filter are read,
there is a way to the server, and it leads to the answer. -/
def IsAnswered (surroundings : Surroundings) (target : Target) (names words : List String)
    (answer : Json) : Prop :=
  ∃ query transport, readFilter words = .ok query ∧
    (target.transport surroundings).result = .ok transport ∧
    (transport.get Endpoint.facts.path
      ((factsQuery names query).map (Predicate.render · .facts))).result = .ok answer

/-- A task that asks for facts ends with the text of the rows that are answered. -/
theorem Task.result_perform_facts {surroundings : Surroundings} {target : Target}
    {names words : List String} {answer : Json} {facts : FactMap} (format : Format)
    (hanswered : IsAnswered surroundings target names words answer)
    (hfacts : FactMap.ofAnswer answer = .ok facts) :
    ((Task.facts target names format words).perform surroundings).result =
      .ok (format.printFacts facts) := by
  obtain ⟨query, transport, hquery, htransport, hanswer⟩ := hanswered
  have hclient : (Client.facts transport names query).result = .ok facts := by
    rw [Client.result_facts hanswer, hfacts, mapError_ok]
  rw [Task.perform, hquery, Activity.ofExcept_ok_bind, Activity.result_bind_ok htransport,
    Activity.result_bind_ok hclient]
  rfl

/-- When every run that asks for facts and gets the answer prints the map. -/
def IsPrintedAs (answer : Json) (facts : FactMap) : Prop :=
  ∀ arguments target names format words surroundings,
    Task.ofArguments arguments = .ok (.facts target names format words) →
      IsAnswered surroundings target names words answer →
        (run surroundings arguments).code = 0 ∧
          (run surroundings arguments).output = format.printFacts facts

/-- Every run that gets an answer with rows prints the map of them. -/
theorem isPrintedAs_of_ofAnswer {answer : Json} {facts : FactMap}
    (hfacts : FactMap.ofAnswer answer = .ok facts) : IsPrintedAs answer facts := by
  intro arguments target names format words surroundings htask hanswered
  rw [run_of_task htask]
  exact Outcome.ofActivity_of_result_eq (Task.result_perform_facts format hanswered hfacts)

/-- The facts of an answer are those of its last rows. The map has a value for a fact of a node
exactly when some row is for it, and then the value of the last of these rows. No fact is without
nodes, and facts and nodes increase strictly in the order of bytes. If no two rows are for the same
fact of the same node, every row is kept, and an answer with the rows in another order has the same
map and is printed like it. -/
theorem facts_are_last_rows {answer : Json} {rows : List FactRow} (hrows : factRows answer = .ok rows) :
    ∃ facts, FactMap.ofAnswer answer = .ok facts ∧
      (∀ fact certname,
        ((facts.value? fact certname).isSome = true ↔ ∃ row ∈ rows, row.key = (fact, certname)) ∧
          facts.value? fact certname = (lastRow? rows (fact, certname)).map FactRow.value) ∧
      facts.IsOrdered ∧ IsPrintedAs answer facts ∧
      ((rows.map FactRow.key).Nodup →
        (∀ row ∈ rows, facts.value? row.name row.certname = some row.value) ∧
          (∀ other otherRows, factRows other = .ok otherRows → otherRows.Perm rows →
            FactMap.ofAnswer other = .ok facts ∧ IsPrintedAs other facts) ∧
          ∀ items others, answer = .array items → others.Perm items →
            FactMap.ofAnswer (.array others) = .ok facts ∧ IsPrintedAs (.array others) facts) := by
  have hfacts : FactMap.ofAnswer answer = .ok (FactMap.ofRows rows) := by
    rw [FactMap.ofAnswer, hrows]
    rfl
  refine ⟨_, hfacts, fun fact certname => ?_, FactMap.isOrdered_ofRows rows,
    isPrintedAs_of_ofAnswer hfacts, fun hdistinct => ?_⟩
  · have hvalue := FactMap.value?_ofRows rows fact certname
    refine ⟨?_, hvalue⟩
    rw [hvalue, Option.isSome_map, isSome_lastRow?_iff]
  · have hreordered (other : Json) (otherRows : List FactRow) (hother : factRows other = .ok otherRows)
        (hperm : otherRows.Perm rows) :
        FactMap.ofAnswer other = .ok (FactMap.ofRows rows) ∧
          IsPrintedAs other (FactMap.ofRows rows) := by
      have hsame : FactMap.ofAnswer other = .ok (FactMap.ofRows rows) := by
        rw [← FactMap.ofRows_eq_of_perm hdistinct hperm, FactMap.ofAnswer, hother]
        rfl
      exact ⟨hsame, isPrintedAs_of_ofAnswer hsame⟩
    refine ⟨fun row hrow => ?_, hreordered, ?_⟩
    · exact (FactMap.value?_ofRows_eq_some_iff hdistinct).mpr ⟨row, hrow, rfl, rfl⟩
    · rintro items others rfl hperm
      obtain ⟨otherRows, hother, hotherRows⟩ := exists_factRows_of_perm hrows hperm
      exact hreordered _ otherRows hother hotherRows

/-- The arguments with which the server on the local machine is asked for all facts. -/
def localArguments : List String := ["facts", "--config", "pdq.toml", "-u", "http://[::1]:47123/"]

/-- Surroundings without files and variables in which every server replies with the same text. -/
def replyingText (body : String) : Surroundings :=
  ⟨{}, {}, fun _ _ => some fun _ => { body := Text.bytes body.toList }⟩

/-- In these surroundings every endpoint is replied to with the text if it is read back from its
bytes. -/
theorem isRepliedWith_replyingText {body : String}
    (hbytes : Text.decodeLossy (Text.bytes body.toList) = body) (endpoint : Endpoint) :
    IsRepliedWith (replyingText body) localTarget endpoint none body := by
  have hurl : (Http.localServer "/v3").urlFor endpoint.path =
      .ok { (Http.localServer "/v3").base with path := ("/v3" ++ endpoint.path).toList } := by
    cases endpoint <;> rfl
  have hreply : (Http.exchange (replyingText body).network
      { (Http.localServer "/v3").base with path := ("/v3" ++ endpoint.path).toList }).result =
        .ok { body := Text.bytes body.toList } := by
    cases endpoint <;> exact Http.result_exchange (by decide) rfl rfl rfl
  exact ⟨Http.localServer "/v3", _, _, result_transport_localTarget _, hurl, hreply, rfl,
    congrArg some hbytes⟩

/-- Surroundings without files and variables in which every server replies with the same value. -/
def replying (answer : Json) : Surroundings :=
  ⟨{}, {}, fun _ _ => some fun _ => { body := Text.bytes answer.print }⟩

/-- In these surroundings a question is answered with the value if it is read back from its
bytes. -/
theorem isAnswered_replying {answer : Json} (hplain : answer.isPlain = true)
    (hdepth : answer.depth ≤ Json.nestingLimit)
    (hbytes : Text.decodeLossy (Text.bytes answer.print) = String.ofList answer.print) :
    IsAnswered (replying answer) localTarget [] [] answer := by
  have htext : replying answer = replyingText (String.ofList answer.print) := by
    rw [replyingText, String.toList_ofList]
    rfl
  have hbody : Json.parse (String.ofList answer.print) = .ok answer := by
    rw [Json.parse, String.toList_ofList, Json.parseChars_print hplain hdepth]
  have hread : Text.decodeLossy (Text.bytes (String.ofList answer.print).toList) =
      String.ofList answer.print := by
    rwa [String.toList_ofList]
  rw [htext]
  obtain ⟨transport, htransport, hanswer⟩ :=
    (isRepliedWith_replyingText hread .facts).exists_transport hbody
  exact ⟨none, transport, rfl, htransport, hanswer⟩

/-- The row of a fact of a node whose value is a text, as it is answered. -/
def textRow (certname name value : String) : Json :=
  .array [.string certname, .string name, .string value]

/-- Three facts, in an order that is not that of the bytes of their names. -/
def mixedAnswer : Json :=
  .array [textRow "web" "os" "bsd", textRow "Zoo" "os" "linux", textRow "web" "Cpus" "2"]

/-- The same facts with the last row moved to the front. -/
def movedAnswer : Json :=
  .array [textRow "web" "Cpus" "2", textRow "web" "os" "bsd", textRow "Zoo" "os" "linux"]

/-- The lines of the facts, of which those in capitals come first. -/
def mixedLines : String := "web\tCpus\t2\nZoo\tos\tlinux\nweb\tos\tbsd\n"

/-- A fact that is answered twice has its second value, and three facts are printed in the order of
bytes, in whichever order they are answered. -/
theorem facts_are_last_rows_mixedAnswer :
    (∃ facts, FactMap.ofAnswer (.array
        [textRow "web" "os" "bsd", textRow "Zoo" "os" "linux", textRow "web" "os" "hurd"]) = .ok facts ∧
      facts.value? "os" "web" = some (.string "hurd") ∧ facts.value? "os" "db" = none) ∧
    (run (replying mixedAnswer) localArguments).output = mixedLines ∧
      (run (replying movedAnswer) localArguments).output = mixedLines := by
  have htwice : factRows (.array
      [textRow "web" "os" "bsd", textRow "Zoo" "os" "linux", textRow "web" "os" "hurd"]) =
        .ok [⟨"web", "os", .string "bsd"⟩, ⟨"Zoo", "os", .string "linux"⟩, ⟨"web", "os", .string "hurd"⟩] :=
    rfl
  have hmixed : factRows mixedAnswer =
      .ok [⟨"web", "os", .string "bsd"⟩, ⟨"Zoo", "os", .string "linux"⟩, ⟨"web", "Cpus", .string "2"⟩] := rfl
  have htask : Task.ofArguments localArguments = .ok (.facts localTarget [] .text []) := rfl
  constructor
  · obtain ⟨facts, hfacts, hvalues, -⟩ := facts_are_last_rows htwice
    refine ⟨facts, hfacts, ?_, ?_⟩
    · rw [(hvalues "os" "web").2]
      rfl
    · rw [(hvalues "os" "db").2]
      rfl
  · obtain ⟨facts, hfacts, -, -, hprinted, hdistinct⟩ := facts_are_last_rows hmixed
    obtain ⟨-, -, hmoved⟩ := hdistinct (by decide)
    have hmovedPrinted := (hmoved _ [textRow "web" "Cpus" "2", textRow "web" "os" "bsd",
      textRow "Zoo" "os" "linux"] rfl (by decide)).2
    have hlines : Format.text.printFacts facts = mixedLines := by
      obtain rfl : [("Cpus", [("web", .string "2")]), ("os", [("Zoo", .string "linux"), ("web", .string "bsd")])] = facts :=
        Except.ok.inj hfacts
      decide
    constructor
    · rw [← hlines]
      exact (hprinted _ _ _ _ _ _ htask (isAnswered_replying (by decide) (by decide) (by decide +kernel))).2
    · rw [← hlines]
      exact (hmovedPrinted _ _ _ _ _ _ htask (isAnswered_replying (by decide) (by decide) (by decide +kernel))).2

end InventoryQuery.CommandLine
