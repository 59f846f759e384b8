set_option autoImplicit false

/-! # Errors of URLs

Why a text is no URL.
-/

namespace SurfaceBridge

namespace Url

/-- Why a text is no URL. -/
inductive UrlError where
  | emptyHost
  | invalidDomainName
  | invalidPort
  | invalidIpv4
  | invalidIpv6
  | invalidHostCharacter
  | relativeWithoutBase
deriving DecidableEq

/-- The sentence for an error. -/
def UrlError.message : UrlError → String
  | emptyHost => "empty host"
  | invalidDomainName => "invalid international domain name"
  | invalidPort => "invalid port number"
  | invalidIpv4 => "invalid IPv4 address"
  | invalidIpv6 => "invalid IPv6 address"
  | invalidHostCharacter => "invalid domain character"
  | relativeWithoutBase => "relative URL without a base"

end Url

end SurfaceBridge
