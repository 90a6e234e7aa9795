import InventoryQuery.Config.Error
import InventoryQuery.Files.Error
import InventoryQuery.Filter.Error
import InventoryQuery.Json.Fault
import InventoryQuery.Predicate.Render
import InventoryQuery.Row.Shape
import InventoryQuery.Url.Error

/-!
# Errors

Everything that can go wrong between a filter and its answer, and the wording under which it is
reported.
-/

namespace InventoryQuery

/-- Why a query could not be built, sent or answered. -/
inductive Error where
  /-- A predicate has no name-value filter. -/
  | unsupported (reason : Predicate.NoNameValueFilter)
  /-- A connective without members. -/
  | emptyGroup (connective : Connective)
  /-- A filter that cannot be read. -/
  | filter (reason : Filter.Error)
  /-- A configuration that cannot be used. -/
  | config (reason : Config.Error)
  /-- A file or directory that cannot be used. -/
  | file (reason : Files.Error)
  /-- The exchange with the server could not be prepared or completed. -/
  | exchange
  /-- An address that is not a URL. -/
  | url (reason : Url.Error)
  /-- The server refused the request. -/
  | status (code : Nat) (body : String)
  /-- The answer of the server is not JSON. -/
  | notJson (fault : Json.Fault) (text : String)
  /-- The answer of the server has an unexpected shape. -/
  | shape (reason : Row.ShapeError)
  deriving DecidableEq, Inhabited, Repr

/-- What a predicate without a name-value filter is. -/
def Predicate.NoNameValueFilter.message : Predicate.NoNameValueFilter → String
  | nodeMatch => "name-value filter for a node match"
  | connective => "name-value filter for a boolean connective"

/-- The wording under which an error is reported. -/
def Error.message : Error → String
  | unsupported reason => "Unsupported operation: " ++ reason.message
  | emptyGroup connective => "'" ++ connective.word ++ "' needs at least one predicate"
  | filter reason => "Invalid filter: " ++ reason.message
  | config reason => "Configuration error: " ++ reason.message
  | file reason => "IO error: " ++ reason.message
  | exchange => "HTTP error"
  | url reason => "Invalid URL: " ++ reason.message
  | status code body =>
    "PuppetDB returned HTTP " ++ String.ofList (decimalDigits code) ++ ": " ++ body
  | notJson fault text => "JSON error: " ++ fault.message text
  | shape reason => "JSON error: " ++ reason.message

end InventoryQuery
