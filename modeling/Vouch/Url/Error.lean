/-!
# Why a text is no URL
-/

namespace Vouch.Url

/-- Why a text is no URL, or cannot be resolved against one. -/
inductive ParseError where
  | emptyHost
  -- The host is no domain name.
  | badDomain
  | badPort
  | badIpv4
  | badIpv6
  -- The host of a scheme without special rules has a forbidden character.
  | badHostChar
  -- The text has no scheme.
  | relativeWithoutBase
  -- The base has no path that a reference could be resolved against.
  | cannotBeABase
  deriving DecidableEq, Repr

def ParseError.message : ParseError → String
  | .emptyHost => "empty host"
  | .badDomain => "invalid international domain name"
  | .badPort => "invalid port number"
  | .badIpv4 => "invalid IPv4 address"
  | .badIpv6 => "invalid IPv6 address"
  | .badHostChar => "invalid domain character"
  | .relativeWithoutBase => "relative URL without a base"
  | .cannotBeABase => "relative URL with a cannot-be-a-base base"

end Vouch.Url
