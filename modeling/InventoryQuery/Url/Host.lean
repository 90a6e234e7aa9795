import InventoryQuery.Url.Address
import InventoryQuery.Url.Basic
import InventoryQuery.Url.Domain
import InventoryQuery.Url.Encoding
import InventoryQuery.Url.Error

/-!
# Hosts

How the host of a URL is read: a name, an IPv4 address written in numbers, or an IPv6 address in
square brackets. For a scheme that is not special the name is kept as it is written.
-/

namespace InventoryQuery.Url

/-- An IPv6 address that starts with an opening bracket. -/
def readBracketed (text : List Char) : Except Error Host :=
  if text.getLast? = some ']' then
    match ipv6Address? (text.drop 1).dropLast with
    | some pieces => .ok (.ipv6 pieces)
    | none => .error .badIpv6Address
  else .error .badIpv6Address

/-- The host of a special scheme. -/
def readHost (text : List Char) : Except Error Host :=
  if text.head? = some '[' then readBracketed text
  else
    match asciiDomain? text with
    | none => .error .badInternationalName
    | some [] => .error .emptyHost
    | some name =>
      if endsInNumber name then
        match ipv4Address? name with
        | some address => .ok (.ipv4 address)
        | none => .error .badIpv4Address
      else .ok (.domain (String.ofList name))

/-- The characters that no host may hold. -/
def isForbiddenInHost (c : Char) : Bool :=
  [0x00, 0x09, 0x0a, 0x0d, 0x20, 0x23, 0x2f, 0x3a, 0x3c, 0x3e, 0x3f, 0x40, 0x5b, 0x5c, 0x5d, 0x5e,
    0x7c].contains c.toNat

/-- The host of a scheme that is not special. -/
def readOpaqueHost (text : List Char) : Except Error Host :=
  if text.head? = some '[' then readBracketed text
  else if text.any isForbiddenInHost then .error .badHostCharacter
  else .ok (.domain (String.ofList (Text.percentEncode isControlOrWide text)))

end InventoryQuery.Url
