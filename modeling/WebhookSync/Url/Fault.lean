/-!
# Faults of addresses

Why a text is no address.
-/

namespace WebhookSync.Url

/-- Why a text is no address. -/
inductive Fault where
  | emptyHost
  | invalidInternationalName
  | invalidPort
  | invalidIpv4
  | invalidIpv6
  | invalidHostCharacter
  /-- the text has no scheme and there is nothing that it could be relative to -/
  | relativeWithoutBase
  /-- the text is relative to an address that nothing can be relative to -/
  | relativeToOpaque
deriving DecidableEq, Repr

/-- The text of a fault. -/
def Fault.message : Fault → String
  | emptyHost => "empty host"
  | invalidInternationalName => "invalid international domain name"
  | invalidPort => "invalid port number"
  | invalidIpv4 => "invalid IPv4 address"
  | invalidIpv6 => "invalid IPv6 address"
  | invalidHostCharacter => "invalid domain character"
  | relativeWithoutBase => "relative URL without a base"
  | relativeToOpaque => "relative URL with a cannot-be-a-base base"

end WebhookSync.Url
