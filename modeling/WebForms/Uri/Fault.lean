/-!
# Why a text is no URI

## Main definitions

* `UriFault`, `UriFault.message` — what is wrong with a text, and what is said of it
-/

namespace WebForms

/-- Why a text is no URI. -/
inductive UriFault where
  /-- It does not begin with a scheme. -/
  | noScheme
  | noHost
  /-- The host is no domain name. -/
  | badDomain
  /-- The host holds a character that stands in no host. -/
  | badCharacter
  /-- The number behind the host is no number or too large. -/
  | badNumber
  | badIpv4
  | badIpv6
  deriving DecidableEq, Repr

/-- What is said of a text that is no URI. -/
def UriFault.message : UriFault → String
  | noScheme => "relative URL without a base"
  | noHost => "empty host"
  | badDomain => "invalid international domain name"
  | badCharacter => "invalid domain character"
  | badNumber => "invalid port number"
  | badIpv4 => "invalid IPv4 address"
  | badIpv6 => "invalid IPv6 address"

end WebForms
