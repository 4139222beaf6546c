import Vouch.Idna.Domain
import Vouch.Url.Ipv4
import Vouch.Url.Ipv6
import Vouch.Url.Percent

/-!
# Hosts

A host is an IPv6 address between brackets, an IPv4 address or a domain.  Domains are
percent-decoded and brought into the ASCII form of international names.  Schemes without special
rules keep their hosts as they are, percent-encoded.
-/

namespace Vouch.Url

-- The characters that no domain may hold.
def isForbiddenInDomain (c : Char) : Bool :=
  c.toNat ≤ 0x20 || c.toNat = 0x7F
    || ['#', '%', '/', ':', '<', '>', '?', '@', '[', '\\', ']', '^', '|'].contains c

-- The characters that no host of a scheme without special rules may hold.
def isForbiddenInHost (c : Char) : Bool :=
  ['\x00', '\t', '\n', '\r', ' ', '#', '/', ':', '<', '>', '?', '@', '[', '\\', ']', '^', '|']
    |>.contains c

-- The usual form of an address between brackets, if the host begins with one.
def bracketed? (host : List Char) : Option (Except ParseError (List Char)) :=
  match host with
  | '[' :: rest =>
    if host.getLast? = some ']' then some (Ipv6.normalize rest.dropLast)
    else some (.error .badIpv6)
  | _ => none

/-- The usual form of a host of a special scheme. -/
def normalizeHost (host : List Char) : Except ParseError (List Char) :=
  match bracketed? host with
  | some result => result
  | none =>
    match Bytes.toText? (percentDecode (Text.encodeUtf8 host)) with
    | none => .error .badDomain
    | some decoded =>
      match Idna.toAscii? decoded.toList with
      | none => .error .badDomain
      | some domain =>
        if domain.any isForbiddenInDomain then .error .badDomain
        else if domain.isEmpty then .error .emptyHost
        else if Ipv4.isIntended domain then Ipv4.normalize domain
        else .ok domain

/-- The usual form of a host of another scheme. -/
def normalizePlainHost (host : List Char) : Except ParseError (List Char) :=
  match bracketed? host with
  | some result => result
  | none =>
    if host.any isForbiddenInHost then .error .badHostChar
    else .ok (percentEncode .control host)

end Vouch.Url
