/-!
# Refused URLs

Why a text is not a URL, and the wording of the reason.
-/

namespace InventoryQuery.Url

/-- Why a text is not a URL. -/
inductive Error where
  | emptyHost
  | badInternationalName
  | badPort
  | badIpv4Address
  | badIpv6Address
  | badHostCharacter
  | relativeWithoutBase
  | relativeToOpaqueBase
  deriving DecidableEq, Repr

/-- The wording of a reason. -/
def Error.message : Error → String
  | emptyHost => "empty host"
  | badInternationalName => "invalid international domain name"
  | badPort => "invalid port number"
  | badIpv4Address => "invalid IPv4 address"
  | badIpv6Address => "invalid IPv6 address"
  | badHostCharacter => "invalid domain character"
  | relativeWithoutBase => "relative URL without a base"
  | relativeToOpaqueBase => "relative URL with a cannot-be-a-base base"

end InventoryQuery.Url
