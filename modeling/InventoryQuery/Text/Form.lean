import InventoryQuery.Text.Hex
import InventoryQuery.Text.Utf8

/-!
# Percent encoding

Texts in which a byte may be written as a percent sign and two hexadecimal digits, and the form
encoding of the value of a query parameter, which also writes a space as a plus sign.
-/

namespace InventoryQuery.Text

/-- A byte as a percent sign and two digits. -/
def percentEncodeByte (byte : UInt8) : List Char :=
  ['%', upperHexDigit (byte.toNat / 16), upperHexDigit (byte.toNat % 16)]

/-- A character as percent-encoded bytes. -/
def percentEncodeChar (c : Char) : List Char :=
  (String.utf8EncodeChar c).flatMap percentEncodeByte

/-- A text in which the characters of a class are percent-encoded. -/
def percentEncode (encoded : Char → Bool) (text : List Char) : List Char :=
  text.flatMap (fun c => if encoded c then percentEncodeChar c else [c])

/-- The bytes of a text in which percent-encoded bytes are decoded. A percent sign that is not
followed by two digits stands for itself. -/
def percentDecode : List Char → List UInt8
  | [] => []
  | [c] => String.utf8EncodeChar c
  | [c, d] => String.utf8EncodeChar c ++ String.utf8EncodeChar d
  | c :: high :: low :: rest =>
    if c = '%' then
      match hexValue? high, hexValue? low with
      | some h, some l => UInt8.ofNat (16 * h + l) :: percentDecode rest
      | _, _ => String.utf8EncodeChar c ++ percentDecode (high :: low :: rest)
    else String.utf8EncodeChar c ++ percentDecode (high :: low :: rest)

/-- The characters that stand for themselves in the value of a query parameter. -/
def isFormPlain (c : Char) : Bool :=
  c.isAlphanum || c == '*' || c == '-' || c == '.' || c == '_'

/-- A character of the value of a query parameter. -/
def formEncodeChar (c : Char) : List Char :=
  if c = ' ' then ['+'] else if isFormPlain c then [c] else percentEncodeChar c

/-- A text as the value of a query parameter. -/
def formEncode (text : List Char) : List Char := text.flatMap formEncodeChar

/-- The bytes of the value of a query parameter. -/
def formBytes (value : List Char) : List UInt8 :=
  percentDecode (value.map (fun c => if c = '+' then ' ' else c))

/-- The text that the value of a query parameter stands for; `none` if it is no text. -/
def formDecode? (value : List Char) : Option String := String.fromUTF8? ⟨(formBytes value).toArray⟩

end InventoryQuery.Text
