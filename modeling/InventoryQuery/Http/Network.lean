import InventoryQuery.Activity
import InventoryQuery.Http.Reply
import InventoryQuery.Http.Request
import InventoryQuery.Url.Parser

/-!
# Networks

What a client can see of the network: which addresses accept a connection, and what the servers
there reply. A URL is asked for by one request, unless the reply names another URL: then that one is
asked for instead, and so on, up to a limit.
-/

namespace InventoryQuery.Http

/-- The servers that can be reached. After some requests, an address that accepts a connection has a
reply to one more. -/
abbrev Network := List Request → Address → Option (Request → Reply)

/-- The network on which no address accepts a connection. -/
def Network.empty : Network := fun _ _ => none

/-- Make a request after some others and receive the reply. -/
def Network.ask (network : Network) (earlier : List Request) (request : Request) :
    Activity Request Reply :=
  match network earlier request.address with
  | none => .fail .exchange
  | some answer => do
    .send request
    match (answer request).received? with
    | none => .fail .exchange
    | some reply => return reply

/-- The address that the URL of a web server names. -/
def addressOf? (url : Url) : Option Address :=
  if url.scheme = "http" || url.scheme = "https" then
    url.authority.bind fun authority =>
      authority.host.bind fun host =>
        (authority.port <|> Url.defaultPort? url.scheme).map fun port =>
          ⟨url.scheme = "https", host, port⟩
  else none

/-- The target of a request for a URL: its path and its query. -/
def targetOf (url : Url) : String :=
  String.ofList (url.path ++ Url.markedText '?' url.query)

/-- The request for a URL on behalf of a user. -/
def requestFor? (url : Url) (user : Option (String × String)) : Option Request :=
  (addressOf? url).map fun address => ⟨address, targetOf url, user⟩

/-- The number of characters that the URL of a request may have. -/
def maxUrlLength : Nat := 65534

/-- Whether a URL is short enough for a request. -/
def fits (url : Url) : Bool := url.toChars.length ≤ maxUrlLength

/-- The URL to ask for instead of one that is replied to, if the reply names one that can be asked
for. -/
def Reply.next? (reply : Reply) (url : Url) : Option Url :=
  if isRedirect reply.status then
    (reply.location.bind RawText.text?).bind fun location => (url.join location).toOption.filter fits
  else none

/-- The user on whose behalf the next URL is asked for: the same as before on the same host and port,
and nobody elsewhere. -/
def userFor (user : Option (String × String)) (url next : Url) : Option (String × String) :=
  let hostAndPort? (url : Url) : Option (Url.Host × Nat) :=
    (addressOf? url).map fun address => (address.host, address.port)
  if hostAndPort? next = hostAndPort? url then user else none

/-- Ask for a URL after some requests, and go on after the request with another URL if the reply names
one. -/
def Network.askFor (network : Network) (earlier : List Request) (user : Option (String × String))
    (url : Url) (goOn : Request → Url → Activity Request Reply) : Activity Request Reply :=
  match requestFor? url user with
  | none => .fail .exchange
  | some request => do
    let reply ← network.ask earlier request
    match reply.next? url with
    | none => return reply
    | some next => goOn request next

/-- Ask for a URL after some requests, and for the URLs that the replies name instead, of which there
may be no more than a limit. The last reply counts. -/
def Network.follow (network : Network) (limit : Nat) (earlier : List Request)
    (user : Option (String × String)) (url : Url) : Activity Request Reply :=
  match limit with
  | 0 => network.askFor earlier user url fun _ _ => .fail .exchange
  | limit + 1 =>
    network.askFor earlier user url fun request next =>
      network.follow limit (earlier ++ [request]) (userFor user url next) next

/-- How often a reply may name another URL to ask for instead. -/
def maxRedirects : Nat := 10

/-- The text that a part of a URL stands for, if it is one. -/
def decodedPart? (part : String) : Option String :=
  (RawText.mk (Text.percentDecode part.toList)).text?

/-- The user and the password in a URL, if either of them is there and the user is a text. -/
def userOf? (url : Url) : Option (String × String) := do
  let authority ← url.authority
  let username ← decodedPart? authority.username
  let password := (decodedPart? authority.password).getD ""
  if username.isEmpty && password.isEmpty then none else some (username, password)

/-- The URL as it is asked for: without the user and the password if they are sent apart from it. -/
def askedFor (url : Url) : Url :=
  if (userOf? url).isSome then
    { url with
      authority := url.authority.map fun authority =>
        { authority with username := "", password := "" } }
  else url

/-- Ask for a URL and receive the reply that counts. -/
def exchange (network : Network) (url : Url) : Activity Request Reply :=
  if fits (askedFor url) then network.follow maxRedirects [] (userOf? url) (askedFor url)
  else .fail .exchange

end InventoryQuery.Http
