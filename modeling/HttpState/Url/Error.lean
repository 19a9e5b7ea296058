/-!
# Why a text is no URL
-/

namespace HttpState.Url

/-- What is wrong with a text that is no URL. -/
inductive Error where
  | emptyHost
  /-- The host is no domain name. -/
  | invalidDomainName
  | invalidPort
  | invalidIpv4
  | invalidIpv6
  /-- The host of a scheme without domain names holds a character that no host holds. -/
  | invalidDomainCharacter
  /-- The text does not begin with a scheme. -/
  | noScheme
  deriving DecidableEq, Repr

/-- The wording of an error. -/
def Error.message : Error → String
  | .emptyHost => "empty host"
  | .invalidDomainName => "invalid international domain name"
  | .invalidPort => "invalid port number"
  | .invalidIpv4 => "invalid IPv4 address"
  | .invalidIpv6 => "invalid IPv6 address"
  | .invalidDomainCharacter => "invalid domain character"
  | .noScheme => "relative URL without a base"

end HttpState.Url
