import InventoryQuery.CommandLine.Run
import Std.Async.DNS
import Std.Async.System
import Std.Async.TCP

/-!
# The program

The outer layer of a run: it gathers the variables and the files that the run may look at, makes
the requests that the run asks for, and prints what is left of the run. Which request comes next
depends on the replies to those before it, so the run is repeated with the replies that are known
until it asks for nothing more. Connections are not encrypted.
-/

namespace InventoryQuery.Main

open Std.Async Std.Net

/-- The variables that a run may look at, and the home directory of the user. -/
def readEnvironment : IO Environment := do
  let mut values : Keyed RawText := []
  for name in ["HOME", "PDQ_CONFIG", "PUPPETDB_URL", "XDG_CONFIG_HOME"] do
    if let some value ← IO.getEnv name then
      values := Keyed.insert name value values
  let user ← System.getCurrentUser.toBaseIO
  let home := user.toOption.bind fun user => user.homeDir.map fun directory => directory.toString
  return { values, userHome := home.map RawText.ofText }

/-- The files with what stands at a path. What cannot be read counts as a directory, unless the way
there leads through a file. -/
def addPath (files : Files.System) (path : RawText) : IO Files.System := do
  let parsed := Files.Path.ofRaw path
  match ← (IO.FS.readBinFile path.shown).toBaseIO with
  | .ok content => return files.putAlong parsed (.file content)
  | .error (.noFileOrDirectory ..) => return files
  | .error (.inappropriateType _ code _) =>
    return if code = 21 then files.putAlong parsed .directory else files
  | .error _ => return files.putAlong parsed .directory

/-- The files that a task may look at: the configuration, and the certificates and the key that it
names. -/
def readFiles (environment : Environment) (task : CommandLine.Task) : IO Files.System := do
  let directory ← IO.currentDir
  let unread : Files.System := { workingDirectory := (Files.Path.ofRaw directory.toString).names }
  match task.target? with
  | none => return unread
  | some target =>
    match target.configPath environment with
    | .error _ => return unread
    | .ok path =>
      let files ← addPath unread path
      match target.effectiveConfig files environment with
      | .error _ => return files
      | .ok config => config.paths.foldlM addPath files

/-- The addresses of a host. -/
def addressesOf (host : Url.Host) : Async (Array IPAddr) :=
  match host with
  | .domain name => DNS.getAddrInfo name ""
  | .ipv4 address =>
    return #[.v4 ⟨Vector.ofFn fun i => UInt8.ofNat (address / Nat.pow 256 (3 - i.val))⟩]
  | .ipv6 pieces =>
    return #[.v6 ⟨Vector.ofFn fun i => UInt16.ofNat (pieces.getD i.val 0)⟩]

/-- Everything that arrives on a connection until it is closed. -/
partial def receiveAll (socket : TCP.Socket.Client) (received : ByteArray) : Async ByteArray := do
  match ← socket.recv? 65536 with
  | some bytes => receiveAll socket (received ++ bytes)
  | none => return received

/-- Make a request. -/
def ask (request : Http.Request) : Async (Option Http.Reply) := do
  let port := UInt16.ofNat request.address.port
  match (← addressesOf request.address.host)[0]? with
  | none => return none
  | some address =>
    let socket ← TCP.Socket.Client.mk
    socket.connect (match address with
      | .v4 address => .v4 ⟨address, port⟩
      | .v6 address => .v6 ⟨address, port⟩)
    socket.send ⟨request.toBytes.toArray⟩
    return Http.Reply.ofBytes? (← receiveAll socket .empty).toList

/-- The reply to a request, if one arrives. -/
def replyTo (request : Http.Request) : IO (Option Http.Reply) := do
  if request.address.secure then return none
  else return (← (ask request).block.toBaseIO).toOption.bind id

/-- The network that a run sees when the replies to its first requests are known: what is asked for
after them is replied to as well if `next` is given. -/
def networkOf (replies : List (Option Http.Reply)) (next : Option Http.Reply) : Http.Network :=
  fun earlier _ => (replies.getD earlier.length next).map fun reply _ => reply

/-- Make the requests of a run one after the other, of which there are no more than a limit besides
those whose replies are known. -/
def gatherReplies (perform : Http.Network → CommandLine.Outcome) :
    Nat → List (Option Http.Reply) → IO (List (Option Http.Reply))
  | 0, replies => return replies
  | limit + 1, replies =>
    match (perform (networkOf replies (some {}))).requests[replies.length]? with
    | none => return replies
    | some request => do gatherReplies perform limit (replies ++ [← replyTo request])

/-- Run the program with arguments. -/
def run (arguments : List String) : IO CommandLine.Outcome := do
  let environment ← readEnvironment
  match CommandLine.Task.ofArguments arguments with
  | .error stop => return .ofStop stop
  | .ok task =>
    let files ← readFiles environment task
    let perform (network : Http.Network) : CommandLine.Outcome :=
      .ofActivity (task.perform ⟨files, environment, network⟩)
    let replies ← gatherReplies perform (Http.maxRedirects + 1) []
    return perform (networkOf replies none)

end InventoryQuery.Main

open InventoryQuery in
/-- Run the program and print what is left of the run. -/
def main (arguments : List String) : IO UInt32 := do
  let outcome ← Main.run arguments
  for entry in outcome.log do
    if entry.level = .warn then
      IO.eprintln entry.toText
  IO.print outcome.output
  IO.eprint outcome.message
  return UInt32.ofNat outcome.code
