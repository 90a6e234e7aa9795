import InventoryQuery.CommandLine.Arguments
import InventoryQuery.Config.Store
import InventoryQuery.Filter.Parser
import InventoryQuery.Http.Connection

/-!
# Runs

What a run of the program does for its arguments: the requests that it makes, what it prints, and
the code with which it ends. The filter is read before anything else, and nothing is printed unless
all went well.
-/

namespace InventoryQuery.CommandLine

/-- What a run finds: the files, the environment of its user, and the network. -/
structure Surroundings where
  files : Files.System
  environment : Environment
  network : Http.Network

/-- The path of the configuration that a run uses: the one that the command line names or else the
one that the environment leads to. -/
def Target.configPath (target : Target) (environment : Environment) : Except Error RawText :=
  match target.config with
  | some path => .ok path
  | none => Config.location environment

/-- The configuration in the file that a run uses, with what the environment asks for. -/
def Target.loadedConfig (target : Target) (files : Files.System) (environment : Environment) :
    Except Error Config :=
  match target.config with
  | some path => (Config.loadFrom files path).map (Config.withEnvironment · environment)
  | none => Config.load files environment

/-- The configuration that a run uses. The URL of the command line counts more than that of the
environment, which counts more than the one in the file. -/
def Target.effectiveConfig (target : Target) (files : Files.System) (environment : Environment) :
    Except Error Config :=
  (target.loadedConfig files environment).map fun config =>
    { config with url := target.url.getD config.url }

/-- The way to the server that a run uses. -/
def Target.transport (target : Target) (surroundings : Surroundings) :
    Activity Http.Request (Transport Http.Request) := do
  let config ← .ofExcept (target.effectiveConfig surroundings.files surroundings.environment)
  .write .debug ("using PuppetDB at " ++ config.url)
  let server ← .ofExcept (Http.Server.ofConfig surroundings.files config)
  return server.transport surroundings.network

/-- Read the words of a filter, between which there are spaces. -/
def readFilter (words : List String) : Except Error (Option Predicate) :=
  Filter.parse (" ".intercalate words)

/-- Text lines, each with its end. -/
def lines (texts : List String) : String := String.join (texts.map (· ++ "\n"))

/-- The names of nodes as they are printed. -/
def Format.printNodes (names : List String) : Format → String
  | .text => lines names
  | .json => lines [Json.pretty (.array (names.map .string))]

/-- A value as it is printed in a line: a text as it is, and any other value as JSON. -/
def valueText : Json → String
  | .string text => text
  | value => value.compact

/-- Facts as they are printed, in text a line for each fact of each node. -/
def Format.printFacts (facts : FactMap) : Format → String
  | .text =>
    lines (facts.flatMap fun (fact, nodes) =>
      nodes.map fun (certname, value) => certname ++ "\t" ++ fact ++ "\t" ++ valueText value)
  | .json => lines [facts.toJson.pretty]

/-- Perform a task. The result is the text to print. -/
def Task.perform (surroundings : Surroundings) : Task → Activity Http.Request String
  | .nodes target format filter => do
    let query ← .ofExcept (readFilter filter)
    let transport ← target.transport surroundings
    let names ← Client.nodes transport query
    return format.printNodes names
  | .facts target names format filter => do
    let query ← .ofExcept (readFilter filter)
    let transport ← target.transport surroundings
    let facts ← Client.facts transport names query
    return format.printFacts facts
  | .render context filter => do
    match ← .ofExcept (readFilter filter) with
    | some query => return lines [query.render context]
    | none => .fail (.filter .noFilter)

/-- What is left of a run: the requests that it made, what it logged, what it printed, the message
of its error, and its code. -/
structure Outcome where
  requests : List Http.Request := []
  log : List LogEntry := []
  output : String := ""
  message : String := ""
  code : Nat
  deriving DecidableEq, Repr

/-- The name and the version of the program. -/
def versionText : String := lines ["pdq 0.1.0"]

/-- How the program is used. -/
def helpText : String :=
  lines
    ["pdq: list nodes and facts that match a filter", "",
      "Usage: pdq [-u URL] [--config PATH] COMMAND [OPTIONS] [FILTER]...", "", "Commands:",
      "  nodes, n   list the nodes that match the filter",
      "  facts, f   show the facts of the nodes that match the filter",
      "  render     print the query that the filter stands for",
      "  help       print this text", "", "Options:",
      "  -u, --url URL                the server, in place of the configured one",
      "  --config PATH                the file with the configuration",
      "  -f, --format text|json       the form of the answer (nodes, facts)",
      "  -n, --fact NAME              a fact to show, may be repeated (facts)",
      "  -c, --context nodes|facts    the endpoint to render for (render)",
      "  -h, --help                   print this text", "  -V, --version                print the version"]

/-- The outcome of a task from what it did. -/
def Outcome.ofActivity (activity : Activity Http.Request String) : Outcome :=
  match activity.result with
  | .ok output => { requests := activity.requests, log := activity.log, output, code := 0 }
  | .error e =>
    { requests := activity.requests
      log := activity.log
      message := lines ["Error: " ++ e.message]
      code := 1 }

/-- The outcome of arguments that lead to no task. -/
def Outcome.ofStop : Stop → Outcome
  | .usage => { message := lines ["error: unexpected arguments", "", helpText], code := 2 }
  | .help => { output := helpText, code := 0 }
  | .version => { output := versionText, code := 0 }

/-- Run the program with arguments. -/
def run (surroundings : Surroundings) (arguments : List String) : Outcome :=
  match Task.ofArguments arguments with
  | .error stop => .ofStop stop
  | .ok task => .ofActivity (task.perform surroundings)

end InventoryQuery.CommandLine
