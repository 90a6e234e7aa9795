import InventoryQuery.Number.Text
import InventoryQuery.Text.Form

/-!
# URLs

A URL in its parts, and its text. The parts are held in the form in which they are written, with
every character that needs it percent-encoded.
-/

namespace InventoryQuery

namespace Url

/-- The host of a URL. -/
inductive Host where
  | domain (name : String)
  /-- The address as one number of 32 bits. -/
  | ipv4 (address : Nat)
  /-- The address as eight pieces of 16 bits. -/
  | ipv6 (pieces : List Nat)
  deriving DecidableEq, Repr

/-- The user, the host and the port of a URL. A host may be missing, and so may a port; the port
that the scheme implies is left out. -/
structure Authority where
  username : String := ""
  password : String := ""
  host : Option Host := none
  port : Option Nat := none
  deriving DecidableEq, Repr

/-- What the scheme of a URL says about its syntax. -/
inductive Kind where
  /-- The scheme of files. -/
  | file
  /-- The schemes of the web, which always have a host. -/
  | web
  /-- Any other scheme. -/
  | other
  deriving DecidableEq, Repr

/-- The kind of a scheme in lower case. -/
def Kind.ofScheme (scheme : String) : Kind :=
  if scheme = "file" then .file
  else if scheme = "http" || scheme = "https" || scheme = "ws" || scheme = "wss" ||
      scheme = "ftp" then .web
  else .other

/-- Whether a backslash counts as a slash. -/
def Kind.isSpecial : Kind → Bool
  | .other => false
  | _ => true

/-- The port that a scheme implies. -/
def defaultPort? (scheme : String) : Option Nat :=
  if scheme = "http" || scheme = "ws" then some 80
  else if scheme = "https" || scheme = "wss" then some 443
  else if scheme = "ftp" then some 21
  else none

end Url

/-- A URL. A path that does not start with a slash is opaque: nothing is relative to it. -/
structure Url where
  scheme : String
  authority : Option Url.Authority := none
  path : List Char := []
  query : Option (List Char) := none
  fragment : Option (List Char) := none
  deriving DecidableEq, Repr

namespace Url

/-- The kind of the URL's scheme. -/
def kind (url : Url) : Kind := .ofScheme url.scheme

/-- Whether nothing can be relative to the URL. -/
def isOpaque (url : Url) : Bool := url.authority.isNone && url.path.head? != some '/'

/-- The URL without its fragment. -/
def withoutFragment (url : Url) : Url := { url with fragment := none }

/-- The four numbers of an address of 32 bits. -/
def ipv4Text (address : Nat) : List Char :=
  decimalDigits (address / Nat.pow 2 24 % 256) ++ '.' :: decimalDigits (address / Nat.pow 2 16 % 256) ++
    '.' :: decimalDigits (address / Nat.pow 2 8 % 256) ++ '.' :: decimalDigits (address % 256)

/-- The number of zeros in front of a list. -/
def leadingZeros (pieces : List Nat) : Nat := (pieces.takeWhile (· == 0)).length

/-- The start and the length of the longest run of zeros, the first of several. -/
def longestZeros (pieces : List Nat) : Nat × Nat :=
  (List.range pieces.length).foldl
    (fun best start =>
      let length := leadingZeros (pieces.drop start)
      if length > best.2 then (start, length) else best)
    (0, 0)

/-- Pieces in hexadecimal, between colons. -/
def piecesText : List Nat → List Char
  | [] => []
  | [piece] => Text.lowerHex piece
  | piece :: pieces => Text.lowerHex piece ++ ':' :: piecesText pieces

/-- An address of eight pieces. The longest run of two zeros or more is left out. -/
def ipv6Text (pieces : List Nat) : List Char :=
  let (start, length) := longestZeros pieces
  if length < 2 then piecesText pieces
  else piecesText (pieces.take start) ++ ':' :: ':' :: piecesText (pieces.drop (start + length))

/-- The text of a host. -/
def Host.toText : Host → List Char
  | .domain name => name.toList
  | .ipv4 address => ipv4Text address
  | .ipv6 pieces => '[' :: ipv6Text pieces ++ [']']

/-- The text of the user and the password with what separates them from the host. -/
def Authority.userText (authority : Authority) : List Char :=
  let password := authority.password.toList
  let username := authority.username.toList
  if username.isEmpty && password.isEmpty then []
  else if password.isEmpty then username ++ ['@']
  else username ++ ':' :: password ++ ['@']

/-- The text of the host and the port. -/
def Authority.hostText (authority : Authority) : List Char :=
  (authority.host.map Host.toText).getD [] ++
    match authority.port with
    | some port => ':' :: decimalDigits port
    | none => []

/-- The text between the scheme and the path. Where there is no authority, two slashes at the
start of the path must not look like one. -/
def authorityText (url : Url) : List Char :=
  match url.authority with
  | some authority => '/' :: '/' :: authority.userText ++ authority.hostText
  | none =>
    match url.path with
    | '/' :: '/' :: _ => ['/', '.']
    | _ => []

/-- The text of a part that may be missing, behind its mark. -/
def markedText (mark : Char) : Option (List Char) → List Char
  | some part => mark :: part
  | none => []

/-- The characters of the URL. -/
def toChars (url : Url) : List Char :=
  url.scheme.toList ++ ':' :: url.authorityText ++ url.path ++ markedText '?' url.query ++
    markedText '#' url.fragment

/-- The text of the URL. -/
def toText (url : Url) : String := String.ofList url.toChars

end Url

end InventoryQuery
