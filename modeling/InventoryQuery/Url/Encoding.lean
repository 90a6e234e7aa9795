import InventoryQuery.Text.Form

/-!
# Characters that a URL encodes

Which characters of the parts of a URL are percent-encoded. Characters beyond ASCII and controls
always are; the parts differ in what else would be taken for a separator.
-/

namespace InventoryQuery.Url

/-- Controls and characters beyond ASCII. -/
def isControlOrWide (c : Char) : Bool := c.toNat < 0x20 || c.toNat ≥ 0x7f

/-- The characters that are encoded in a fragment. -/
def encodedInFragment (c : Char) : Bool :=
  isControlOrWide c || c == ' ' || c == '"' || c == '<' || c == '>' || c == '`'

/-- The characters that are encoded in a path. -/
def encodedInPath (c : Char) : Bool :=
  encodedInFragment c || c == '#' || c == '?' || c == '\x7b' || c == '\x7d'

/-- The characters that are encoded in a user name or a password. -/
def encodedInUser (c : Char) : Bool :=
  encodedInPath c || c == '/' || c == ':' || c == ';' || c == '=' || c == '@' || c == '[' ||
    c == '\\' || c == ']' || c == '^' || c == '|'

/-- The characters that are encoded in a query; the schemes of the web add the apostrophe. -/
def encodedInQuery (special : Bool) (c : Char) : Bool :=
  isControlOrWide c || c == ' ' || c == '"' || c == '#' || c == '<' || c == '>' ||
    (special && c == '\'')

end InventoryQuery.Url
