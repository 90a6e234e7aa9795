import InventoryQuery.Credentials.Base64
import InventoryQuery.Url.Basic

/-!
# Requests

What is asked of a server, and the bytes that go over the connection to it.
-/

namespace InventoryQuery.Http

/-- Where to connect to, and whether the connection is encrypted. -/
structure Address where
  secure : Bool
  host : Url.Host
  port : Nat
  deriving DecidableEq, Repr

/-- The host and the port as the head of a request names them. The port that the scheme implies is
left out. -/
def Address.toText (address : Address) : List Char :=
  let implied := if address.secure then 443 else 80
  address.host.toText ++ if address.port = implied then [] else ':' :: decimalDigits address.port

/-- A request: the server to ask, the path and query to ask it for, and the user who asks, with the
password. -/
structure Request where
  address : Address
  target : String
  user : Option (String × String) := none
  deriving DecidableEq, Repr

/-- The text of a request. -/
def Request.toText (request : Request) : String := "GET " ++ request.target

/-- The line that tells the server who asks. -/
def authorizationLine (user : String × String) : List UInt8 :=
  "authorization: Basic ".toUTF8.toList ++
    Credentials.Base64.encode (user.1 ++ ":" ++ user.2).toUTF8.toList

/-- The bytes of a request on a connection that is used once. -/
def Request.toBytes (request : Request) : List UInt8 :=
  let lines :=
    ("GET " ++ request.target ++ " HTTP/1.1").toUTF8.toList ::
      ("host: " ++ String.ofList request.address.toText).toUTF8.toList ::
      "accept: */*".toUTF8.toList :: "connection: close".toUTF8.toList ::
      (request.user.map authorizationLine).toList ++ [[]]
  lines.flatMap (· ++ [13, 10])

end InventoryQuery.Http
