import InventoryQuery.RawText
import InventoryQuery.Toml.Reader
import InventoryQuery.Toml.Writer

/-!
# Configurations

Where the server is and how it is to be talked to, and the TOML text of a configuration. A key
that is missing from a text takes its default, whatever the other keys hold; keys that mean
nothing here are ignored. The paths of files need not be text, but only those that are can be
written.
-/

namespace InventoryQuery

/-- How to reach the server. -/
structure Config where
  /-- The URL of the server. -/
  url : String := "http://localhost:8080/"
  /-- The version of the interface, in front of the path of an endpoint. -/
  apiVersion : String := "/v3"
  /-- How long an answer may take, in seconds. -/
  timeoutSecs : Nat := 2
  /-- The file with the client's certificate. -/
  cert : Option RawText := none
  /-- The file with the private key, unless the certificate's file holds it too. -/
  key : Option RawText := none
  /-- The file with one more certificate to trust. -/
  caCert : Option RawText := none
  deriving DecidableEq, Repr

namespace Config

/-- The paths of the files that a configuration names. -/
def paths (config : Config) : List RawText :=
  [config.cert, config.key, config.caCert].filterMap id

/-- The defaults with a URL. -/
def withUrl (url : String) : Config := { url }

/-- The text at a key, or a default if there is none; `none` if the value is no text. -/
def textAt? (key default : String) (entries : Toml.Entries) : Option String :=
  match entries.find? key with
  | none => some default
  | some (.string value) => some value
  | some _ => none

/-- The path at a key, if there is one; `none` if the value is no text. -/
def pathAt? (key : String) (entries : Toml.Entries) : Option (Option RawText) :=
  match entries.find? key with
  | none => some none
  | some (.string value) => some (some value)
  | some _ => none

/-- The natural number at a key, or a default if there is none; `none` if the value is no natural
number. -/
def naturalAt? (key : String) (default : Nat) (entries : Toml.Entries) : Option Nat :=
  match entries.find? key with
  | none => some default
  | some (.integer value) => if value < 0 then none else some value.toNat
  | some _ => none

/-- The configuration that a table describes. -/
def ofEntries? (entries : Toml.Entries) : Option Config := do
  let default : Config := {}
  let url ← textAt? "url" default.url entries
  let apiVersion ← textAt? "api_version" default.apiVersion entries
  let timeoutSecs ← naturalAt? "timeout_secs" default.timeoutSecs entries
  let cert ← pathAt? "cert" entries
  let key ← pathAt? "key" entries
  let caCert ← pathAt? "ca_cert" entries
  return { url, apiVersion, timeoutSecs, cert, key, caCert }

/-- The configuration that a text describes. -/
def ofText? (text : String) : Option Config := (Toml.parse? text).bind ofEntries?

/-- The line of a key with a text. -/
def textLine (key value : String) : List Char :=
  Toml.line key.toList (Toml.stringLiteral value.toList)

/-- The line of a key with a path, if there is one; `none` if the path is no text. -/
def pathLine? (key : String) : Option RawText → Option (List Char)
  | none => some []
  | some path => path.text?.map (textLine key)

/-- The text of a configuration; there is none if the number of seconds is too great or a path is no
text. -/
def toText? (config : Config) : Option String := do
  let seconds ← Toml.naturalLiteral? config.timeoutSecs
  let cert ← pathLine? "cert" config.cert
  let key ← pathLine? "key" config.key
  let caCert ← pathLine? "ca_cert" config.caCert
  return String.ofList (textLine "url" config.url ++ textLine "api_version" config.apiVersion ++
    Toml.line "timeout_secs".toList seconds ++ cert ++ key ++ caCert)

end Config

end InventoryQuery
