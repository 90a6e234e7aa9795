import InventoryQuery.Text.Composition
import InventoryQuery.Text.Form
import InventoryQuery.Text.Punycode
import InventoryQuery.Url.Domain.Direction
import InventoryQuery.Url.Domain.Joiner
import InventoryQuery.Url.Domain.Mapping
import InventoryQuery.Url.Domain.Refused

/-!
# Names of hosts

How the name of a host is written in ASCII. A name consists of labels between dots. The characters
of a label are replaced by the ones that they stand for, and a label that is not plain then is
written in Punycode behind a mark. A label that comes with the mark has to stand for one that would
be written like that.
-/

namespace InventoryQuery.Url

namespace Domain

/-- The text with every character replaced by those that it stands for; `none` if one is refused. -/
def replaceAll? (text : List Char) : Option (List Char) :=
  text.flatMapM fun c => if isRefused c then none else some ((mapping? c).getD [c])

/-- The characters of ASCII that no name holds. -/
def isForbidden (c : Char) : Bool :=
  c.toNat ≤ 0x20 || c.toNat == 0x7f ||
    [0x23, 0x25, 0x2f, 0x3a, 0x3c, 0x3e, 0x3f, 0x40, 0x5b, 0x5c, 0x5d, 0x5e, 0x7c].contains c.toNat

/-- The mark in front of a label in Punycode. -/
def mark : List Char := "xn--".toList

/-- Whether a text is plain. -/
def isPlain (text : List Char) : Bool := text.all Text.Punycode.isPlain

/-- The number of characters that a label may have that is not plain. -/
def maxLabelLength : Nat := 1000

/-- The number of characters that a label in Punycode may have behind the mark. -/
def maxCodeLength : Nat := 2000

/-- Whether a label may stand in a name. -/
def isAllowed (label : List Char) : Bool :=
  !label.any isForbidden && !((label.head?.map Text.isMark).getD false) && joinersFit [] label

/-- The label that a code stands for. It must not be plain, start with the mark, or hold what would
be replaced. -/
def decodeLabel? (code : List Char) : Option (List Char) := do
  guard (code.length ≤ maxCodeLength)
  let label ← Text.Punycode.decode? code
  guard (!isPlain label && !mark.isPrefixOf label)
  guard (label.all (fun c => !isRefused c && (mapping? c).isNone))
  guard (Text.compose label = label)
  return label

/-- A label, both in characters and as it is written in ASCII. -/
structure Label where
  characters : List Char
  written : List Char
  deriving DecidableEq, Repr

/-- The label with the characters of a text in which nothing is left to be replaced. -/
def Label.ofText? (text : List Char) : Option Label := do
  let label : Label ←
    if mark.isPrefixOf text then do
      guard (isPlain text)
      pure ⟨← decodeLabel? (text.drop mark.length), text⟩
    else if isPlain text then pure ⟨text, text⟩
    else do
      guard (text.length ≤ maxLabelLength)
      pure ⟨text, mark ++ Text.Punycode.encode text⟩
  guard (isAllowed label.characters)
  return label

end Domain

open Domain in
/-- The name of a host in ASCII. -/
def asciiDomain? (text : List Char) : Option (List Char) := do
  let name := (Text.decodeLossy (Text.percentDecode text)).toList
  let replaced ← replaceAll? name
  let labels ← ((Text.compose replaced).splitOn '.').mapM Label.ofText?
  if labels.any (fun label => hasRightToLeft label.characters) then
    guard (labels.all (fun label => label.characters.isEmpty || hasOneDirection label.characters))
  return Text.joinWith '.' (labels.map Label.written)

end InventoryQuery.Url
