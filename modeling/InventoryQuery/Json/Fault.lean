import InventoryQuery.Number.Text

/-!
# Texts that are not JSON

Why a text is not JSON, where that shows, and the wording of both. A text that ends inside a value
is told apart from one that breaks the grammar or a limit. A place is given by its line and by the
number of bytes before it on that line.
-/

namespace InventoryQuery.Json

/-- Why a text is not JSON. -/
inductive Cause where
  | endOfValue
  | endOfList
  | endOfObject
  | endOfString
  | expectedValue
  | expectedWord
  | expectedColon
  | expectedListEnd
  | expectedObjectEnd
  | expectedName
  | trailingComma
  | trailingText
  | badNumber
  | numberOutOfRange
  | badEscape
  | loneSurrogate
  | missingSurrogate
  | rawControl
  | tooDeep
  deriving DecidableEq, Repr

namespace Cause

/-- Whether the text ended inside a value. -/
def endedEarly : Cause → Bool
  | endOfValue | endOfList | endOfObject | endOfString => true
  | _ => false

/-- The wording of a cause. -/
def message : Cause → String
  | endOfValue => "EOF while parsing a value"
  | endOfList => "EOF while parsing a list"
  | endOfObject => "EOF while parsing an object"
  | endOfString => "EOF while parsing a string"
  | expectedValue => "expected value"
  | expectedWord => "expected ident"
  | expectedColon => "expected `:`"
  | expectedListEnd => "expected `,` or `]`"
  | expectedObjectEnd => "expected `,` or `\x7d`"
  | expectedName => "key must be a string"
  | trailingComma => "trailing comma"
  | trailingText => "trailing characters"
  | badNumber => "invalid number"
  | numberOutOfRange => "number out of range"
  | badEscape => "invalid escape"
  | loneSurrogate => "lone leading surrogate in hex escape"
  | missingSurrogate => "unexpected end of hex escape"
  | rawControl => "control character (\\u0000-\\u001F) found while parsing a string"
  | tooDeep => "recursion limit exceeded"

end Cause

/-- The number of bytes of a text. -/
def byteCount (text : List Char) : Nat := text.foldr (fun c total => c.utf8Size + total) 0

/-- A cause and the place where it shows, as the number of bytes from there to the end. -/
structure Fault where
  cause : Cause
  remaining : Nat
  deriving DecidableEq, Repr

namespace Fault

/-- A fault that shows before the rest of the text. -/
def before (cause : Cause) (rest : List Char) : Fault := ⟨cause, byteCount rest⟩

/-- A fault that shows at the first byte of the rest of the text, and is placed after it. -/
def onNext (cause : Cause) (rest : List Char) : Fault := ⟨cause, byteCount rest - 1⟩

/-- The line and the column of a place in a text, from the bytes before it. -/
def lineAndColumn (bytes : List UInt8) : Nat × Nat :=
  (bytes.count 10 + 1, (bytes.reverse.takeWhile (· != 10)).length)

/-- The wording of a fault of a text. -/
def message (fault : Fault) (text : String) : String :=
  let bytes := text.toUTF8.toList
  let (line, column) := lineAndColumn (bytes.take (bytes.length - fault.remaining))
  fault.cause.message ++ " at line " ++ String.ofList (decimalDigits line) ++ " column " ++
    String.ofList (decimalDigits column)

end Fault

end InventoryQuery.Json
