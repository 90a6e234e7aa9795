import InventoryQuery.Client
import InventoryQuery.Http.Network
import InventoryQuery.Json.Reader

/-!
# Queries over HTTP

A query is put to a server by asking for a URL: the version of the interface and the path of the
endpoint, relative to the address of the server. A path that starts with a slash replaces the path
of that address. The query goes along as the parameter `query`.
-/

namespace InventoryQuery.Http

/-- A server to which queries are put. -/
structure Server where
  base : Url
  apiVersion : String
  deriving DecidableEq, Repr

/-- The URL for a path below the version of the interface. -/
def Server.urlFor (server : Server) (path : String) : Except Url.Error Url :=
  server.base.join (server.apiVersion ++ path)

/-- The URL with one more parameter at the end of its query. -/
def withParameter (url : Url) (name value : String) : Url :=
  let parameter := Text.formEncode name.toList ++ '=' :: Text.formEncode value.toList
  match url.query with
  | some (c :: query) => { url with query := some (c :: query ++ '&' :: parameter) }
  | _ => { url with query := some parameter }

/-- The error for a reply that does not report success. A body that is cut short counts as
empty. -/
def refuse (url : Url) (reply : Reply) : Activity Request Json := do
  let body ←
    match reply.text? with
    | some body => pure body
    | none =>
      .write .warn
        ("could not read error body from " ++ url.toText ++ ": error decoding response body")
      pure ""
  .write .warn ("GET " ++ url.toText ++ " failed with " ++ statusText reply.status)
  .fail (.status reply.status body)

/-- Put a query to a server. -/
def Server.get (server : Server) (network : Network) (path : String) (query : Option String) :
    Activity Request Json := do
  let url ← .ofExcept ((server.urlFor path).mapError .url)
  .write .debug ("GET " ++ url.toText ++ " query=" ++ query.getD "<none>")
  let requested :=
    match query with
    | some query => withParameter url "query" query
    | none => url
  let reply ← exchange network requested
  if isSuccess reply.status then
    match reply.text? with
    | none => .fail .exchange
    | some body => .ofExcept ((Json.parse body).mapError (fun fault => .notJson fault body))
  else refuse url reply

/-- The transport that puts queries to a server. -/
def Server.transport (server : Server) (network : Network) : Transport Request :=
  ⟨server.get network⟩

end InventoryQuery.Http
