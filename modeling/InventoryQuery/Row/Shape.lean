import InventoryQuery.Json.Printer
import InventoryQuery.Text.Quoted

/-!
# Values of an unexpected shape

Why a JSON value is not the row that it should be, and the wording of the reason. The wording
shows a scalar by its value and an array or object by its kind alone.
-/

namespace InventoryQuery.Row

/-- What a row or a field is expected to be. -/
inductive Expected where
  | string
  | nodeRow
  | factRow
  deriving DecidableEq, Repr

/-- The wording of an expectation. -/
def Expected.message : Expected → String
  | string => "a string"
  | nodeRow => "struct NodeRow"
  | factRow => "struct FactRow"

/-- Why a value is not a row. -/
inductive ShapeError where
  /-- The value or a field is of another kind. -/
  | wrongType (found : Json) (expected : Expected)
  /-- An object lacks a field. -/
  | missingField (name : String)
  /-- An array ends before the row is complete. -/
  | tooShort (length : Nat) (expected : Expected) (fields : Nat)
  /-- An array holds more items than the row has fields. -/
  | tooLong (length : Nat)
  deriving DecidableEq, Repr

/-- How a value of an unexpected kind is shown. -/
def describe : Json → String
  | .null => "null"
  | .bool true => "boolean `true`"
  | .bool false => "boolean `false`"
  | .number (.integer n) => "integer `" ++ String.ofList (decimalInteger n) ++ "`"
  | .number (.double x) => "floating point `" ++ String.ofList x.toText ++ "`"
  | .string s => "string " ++ Text.quoted s
  | .array _ => "sequence"
  | .object _ => "map"

/-- A natural number in decimal. -/
def ShapeError.count (n : Nat) : String := String.ofList (decimalDigits n)

/-- The wording of a reason. -/
def ShapeError.message : ShapeError → String
  | wrongType found expected =>
    "invalid type: " ++ describe found ++ ", expected " ++ expected.message
  | missingField name => "missing field `" ++ name ++ "`"
  | tooShort length expected fields =>
    "invalid length " ++ count length ++ ", expected " ++ expected.message ++ " with " ++
      count fields ++ " elements"
  | tooLong length => "invalid length " ++ count length ++ ", expected fewer elements in array"

end InventoryQuery.Row
