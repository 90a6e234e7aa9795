import InventoryQuery.CommandLine.Run
import InventoryQuery.Proofs.Filter.Grammar
import InventoryQuery.Proofs.Http.Requests

/-!
# Runs that fail

A run reads its filter before anything else and prints only when all went well. So a run that fails
leaves nothing on its output, a filter that cannot be read is reported without a look at the
configuration or the server, and a query is rendered without either. A run puts one query to a
server at most, by one request unless the replies lead to others.
-/

namespace InventoryQuery.CommandLine

/-- The words of a task's filter. -/
def Task.words : Task → List String
  | .nodes _ _ words | .facts _ _ _ words | .render _ words => words

/-- Finding the way to the server involves no request. -/
theorem Target.requests_transport (target : Target) (surroundings : Surroundings) :
    (target.transport surroundings).requests = [] := by
  unfold Target.transport
  cases target.effectiveConfig surroundings.files surroundings.environment with
  | error e => rfl
  | ok config =>
    rw [Activity.ofExcept_ok_bind, Activity.requests_write_bind]
    cases Http.Server.ofConfig surroundings.files config <;> rfl

/-- The way to the server leads to a server on the network. -/
theorem Target.exists_server_of_transport {target : Target} {surroundings : Surroundings}
    {transport : Transport Http.Request}
    (htransport : (target.transport surroundings).result = .ok transport) :
    ∃ server : Http.Server, transport = server.transport surroundings.network := by
  obtain ⟨config, -, htransport⟩ := Activity.exists_of_result_bind htransport
  obtain ⟨-, -, htransport⟩ := Activity.exists_of_result_bind htransport
  obtain ⟨server, -, htransport⟩ := Activity.exists_of_result_bind htransport
  exact ⟨server, (Except.ok.inj htransport).symm⟩

/-- What is done once the way to the server is known makes the requests of a trail if it does for
every server on the network. -/
theorem Target.isTrail_bind {target : Target} {surroundings : Surroundings} {α : Type}
    {next : Transport Http.Request → Activity Http.Request α}
    (hnext : ∀ server : Http.Server,
      Http.IsTrail surroundings.network (next (server.transport surroundings.network)).requests) :
    Http.IsTrail surroundings.network (target.transport surroundings >>= next).requests := by
  have hnone := target.requests_transport surroundings
  cases htransport : (target.transport surroundings).result with
  | error e =>
    rw [Activity.requests_bind_error htransport, hnone]
    exact .nothing
  | ok transport =>
    obtain ⟨server, rfl⟩ := Target.exists_server_of_transport htransport
    rw [Activity.requests_bind_ok htransport, hnone, List.nil_append]
    exact hnext server

/-- A task whose filter cannot be read fails with the reason before it does anything else. -/
theorem Task.perform_of_readFilter_error {task : Task} {reason : Error}
    (hfilter : readFilter task.words = .error reason) (surroundings : Surroundings) :
    task.perform surroundings = .fail reason := by
  cases task <;> simp only [Task.words] at hfilter <;>
    rw [Task.perform, hfilter, Activity.ofExcept_error_bind]

/-- A query is rendered alike in all surroundings, and without a request. -/
theorem Task.perform_render (context : Endpoint) (words : List String)
    (surroundings : Surroundings) :
    (Task.render context words).perform surroundings =
      .ofExcept (match readFilter words with
        | .error reason => .error reason
        | .ok none => .error (.filter .noFilter)
        | .ok (some query) => .ok (lines [query.render context])) := by
  rw [Task.perform]
  cases readFilter words with
  | error reason => rfl
  | ok query => cases query <;> rfl

/-- A task makes the requests of a trail, whatever the server replies. -/
theorem Task.isTrail_perform (task : Task) (surroundings : Surroundings) :
    Http.IsTrail surroundings.network (task.perform surroundings).requests := by
  cases hfilter : readFilter task.words with
  | error reason =>
    rw [Task.perform_of_readFilter_error hfilter]
    exact .nothing
  | ok query =>
    cases task with
    | nodes target format words =>
      rw [Task.words] at hfilter
      rw [Task.perform, hfilter, Activity.ofExcept_ok_bind]
      refine Target.isTrail_bind fun server => ?_
      rw [Activity.requests_bind_of_forall_eq_nil (fun _ => rfl), Client.requests_nodes]
      exact Http.isTrail_get server _ _ _
    | facts target names format words =>
      rw [Task.words] at hfilter
      rw [Task.perform, hfilter, Activity.ofExcept_ok_bind]
      refine Target.isTrail_bind fun server => ?_
      rw [Activity.requests_bind_of_forall_eq_nil (fun _ => rfl), Client.requests_facts]
      exact Http.isTrail_get server _ _ _
    | render context words =>
      rw [Task.perform_render]
      exact .nothing

/-- A run for a task makes the requests of the task. -/
theorem Outcome.requests_ofActivity (activity : Activity Http.Request String) :
    (Outcome.ofActivity activity).requests = activity.requests := by
  unfold Outcome.ofActivity
  cases activity.result <;> rfl

/-- A run that ends with the code of a failure has printed nothing. -/
theorem Outcome.output_ofActivity {activity : Activity Http.Request String}
    (hcode : (Outcome.ofActivity activity).code = 1) :
    (Outcome.ofActivity activity).output = "" := by
  unfold Outcome.ofActivity at hcode ⊢
  cases hresult : activity.result with
  | ok output =>
    rw [hresult] at hcode
    exact absurd hcode Nat.zero_ne_one
  | error e => rfl

/-- A run with arguments that ask for a task is a run of the task. -/
theorem run_of_task {arguments : List String} {task : Task}
    (htask : Task.ofArguments arguments = .ok task) (surroundings : Surroundings) :
    run surroundings arguments = .ofActivity (task.perform surroundings) := by
  rw [run, htask]

/-- However a run of a task goes, it prints nothing if it ends with the code of a failure, and each of
its requests but the first asks for what the reply to the one before it names. So it makes eleven
requests at most, and one at most where no reply names a place to ask instead. If its filter cannot
be read, all that is left of it is the reason, whatever the options, the environment, the files and
the server are. If it renders a query, it makes no request, and it ends like any other run that
renders the same words for the same endpoint. -/
theorem run_fails_cleanly {arguments : List String} {task : Task}
    (htask : Task.ofArguments arguments = .ok task) (surroundings : Surroundings) :
    (((run surroundings arguments).code = 1 → (run surroundings arguments).output = "") ∧
      Http.IsTrail surroundings.network (run surroundings arguments).requests ∧
      (run surroundings arguments).requests.length ≤ Http.maxRedirects + 1 ∧
      (surroundings.network.NeverRedirects →
        (run surroundings arguments).requests.length ≤ 1)) ∧
    (∀ reason, Filter.parse (" ".intercalate task.words) = .error reason →
      run surroundings arguments = { message := "Error: " ++ reason.message ++ "\n", code := 1 }) ∧
    (∀ context words, task = .render context words →
      (run surroundings arguments).requests = [] ∧
        ∀ (others : Surroundings) (otherArguments : List String),
          Task.ofArguments otherArguments = .ok task →
            run others otherArguments = run surroundings arguments) := by
  have htrail : Http.IsTrail surroundings.network (run surroundings arguments).requests := by
    rw [run_of_task htask, Outcome.requests_ofActivity]
    exact task.isTrail_perform surroundings
  refine ⟨⟨?_, htrail, htrail.length_le, htrail.length_le_one⟩, ?_, ?_⟩
  · rw [run_of_task htask]
    exact Outcome.output_ofActivity
  · intro reason hreason
    rw [run_of_task htask, Task.perform_of_readFilter_error hreason]
    simp [Outcome.ofActivity, Activity.fail, Activity.ofExcept, lines, String.join]
  · rintro context words rfl
    rw [run_of_task htask, Outcome.requests_ofActivity, Task.perform_render]
    refine ⟨rfl, ?_⟩
    intro others otherArguments hother
    rw [run_of_task hother, Task.perform_render]

/-- A run that finds neither files nor variables nor a server. -/
def nowhere : Surroundings := ⟨{}, {}, .empty⟩

/-- Facts asked for with a presence test that lacks its name. -/
def namelessArguments : List String := ["facts", "-u", "http://db/", "has:"]

/-- A name rendered for the fact endpoint. -/
def renderArguments : List String := ["render", "-c", "facts", "web"]

/-- Where there is not even a place for a configuration, the nameless test is what is reported, and
a query is rendered as it is where there is a variable that names a configuration. -/
theorem run_fails_cleanly_nowhere :
    run nowhere namelessArguments =
        { message := "Error: Invalid filter: 'has:' needs a fact name\n", code := 1 } ∧
      (run nowhere renderArguments).requests = [] ∧
      run ⟨{}, { values := [("PDQ_CONFIG", "/etc")] }, .empty⟩ ["render", "web", "--context=facts"] =
        run nowhere renderArguments := by
  have hnameless : Task.ofArguments namelessArguments =
      .ok (.facts ⟨some "http://db/", none⟩ [] .text ["has:"]) := rfl
  have hrender : Task.ofArguments renderArguments = .ok (.render .facts ["web"]) := rfl
  have hreason : Filter.parse (" ".intercalate ["has:"]) = .error (.filter .presenceWithoutName) := by
    have hterms : Filter.terms (" ".intercalate ["has:"]).toList = ["has:".toList] := by decide
    rw [Filter.parse, hterms, List.mapM_cons,
      Filter.readTerm_condition (by decide) (by decide)]
    rfl
  have hrendered := (run_fails_cleanly hrender nowhere).2.2 .facts ["web"] rfl
  refine ⟨?_, hrendered.1, hrendered.2 _ _ rfl⟩
  rw [(run_fails_cleanly hnameless nowhere).2.1 _ hreason]
  rfl

/-- What the command line says about the server on the local machine. -/
def localTarget : Target := ⟨some "http://[::1]:47123/", some "pdq.toml"⟩

/-- On a machine without files and variables this leads to the server. -/
theorem result_transport_localTarget (network : Http.Network) :
    (localTarget.transport ⟨{}, {}, network⟩).result =
      .ok ((Http.localServer "/v3").transport network) := by
  have hconfig : localTarget.effectiveConfig {} {} = .ok { url := "http://[::1]:47123/" } := rfl
  have hauthorities : Credentials.areAuthorities [] = true := by decide +kernel
  have hserver : Http.Server.ofConfig {} { url := "http://[::1]:47123/" } =
      .ok (Http.localServer "/v3") := by
    change (if true && Credentials.areAuthorities [] then _ else _) = _
    rw [hauthorities]
    rfl
  rw [Target.transport]
  refine (Activity.result_bind_ok hconfig _).trans ?_
  refine (Activity.result_bind_ok rfl _).trans ?_
  exact Activity.result_bind_ok hserver _

/-- A run may make more than one request: where every reply names the root to ask for instead, a run
that asks for nodes makes eleven. -/
theorem not_forall_length_requests_le_one :
    ¬ ∀ (arguments : List String) (task : Task) (surroundings : Surroundings),
      Task.ofArguments arguments = .ok task →
        (run surroundings arguments).requests.length ≤ 1 := by
  intro h
  have htask : Task.ofArguments ["nodes", "--config", "pdq.toml", "-u", "http://[::1]:47123/"] =
      .ok (.nodes localTarget .text []) := rfl
  have hnodes : (Client.nodes ((Http.localServer "/v3").transport Http.redirecting)
      none).requests.length = 11 := by decide +kernel
  have hlength := h _ _ ⟨{}, {}, Http.redirecting⟩ htask
  have hquery : readFilter [] = .ok none := rfl
  rw [run_of_task htask, Outcome.requests_ofActivity, Task.perform, hquery,
    Activity.ofExcept_ok_bind,
    Activity.requests_bind_ok (result_transport_localTarget Http.redirecting),
    Target.requests_transport, List.nil_append,
    Activity.requests_bind_of_forall_eq_nil (fun _ => rfl), hnodes] at hlength
  exact absurd hlength (by decide)

end InventoryQuery.CommandLine
