/-!
# Why a text is no URI
-/

namespace Muster.Uri

/-- Why a text is refused as a URI. -/
inductive Fault
  /-- There is no scheme, so the text could only be read relative to another URI. -/
  | relative
  /-- A host is needed and there is none. -/
  | emptyHost
  /-- Brackets hold no IPv6 address, or are not closed. -/
  | invalidIpv6
  /-- The host ends in a number and is no IPv4 address. -/
  | invalidIpv4
  /-- The port is no number of sixteen bits. -/
  | invalidPort
  /-- The host holds a character that no host may hold. -/
  | invalidHostCharacter
  /-- The host of a special scheme is no domain name. -/
  | invalidDomainName
  deriving DecidableEq

/-- The cause in words. -/
def Fault.message : Fault → String
  | .relative => "relative URL without a base"
  | .emptyHost => "empty host"
  | .invalidIpv6 => "invalid IPv6 address"
  | .invalidIpv4 => "invalid IPv4 address"
  | .invalidPort => "invalid port number"
  | .invalidHostCharacter => "invalid domain character"
  | .invalidDomainName => "invalid international domain name"

end Muster.Uri
