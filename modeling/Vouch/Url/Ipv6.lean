import Vouch.Json.Token
import Vouch.Text.Split
import Vouch.Url.Error

/-!
# IPv6 addresses in URLs

An address has eight pieces of sixteen bits, in hexadecimal and separated by colons.  Two colons
once stand for as many zero pieces as are missing, at least one, and the last two pieces may be
written as an IPv4 address.
-/

namespace Vouch.Url.Ipv6

-- A piece of up to four digits.
def piece? (cs : List Char) : Option Nat :=
  if cs.isEmpty ∨ 4 < cs.length then none
  else cs.foldlM (fun n c => (Json.hexValue? c).map fun d => 16 * n + d) 0

-- A decimal byte without leading zeros.
def byte? (cs : List Char) : Option Nat :=
  if Json.isIntegerPart cs && Json.digitsValue cs ≤ 255 then some (Json.digitsValue cs) else none

-- The two pieces that an IPv4 address stands for.
def dotted? (cs : List Char) : Option (List Nat) := do
  match ← (Text.fields '.' cs).mapM byte? with
  | [a, b, c, d] => return [256 * a + b, 256 * c + d]
  | _ => none

-- The pieces of fields, the last of which may be an IPv4 address.
def pieces? : List (List Char) → Option (List Nat)
  | [] => some []
  | [last] => if last.contains '.' then dotted? last else (piece? last).map fun n => [n]
  | field :: rest => do
    let n ← piece? field
    let more ← pieces? rest
    return n :: more

-- The parts before and after the first two colons.
def splitGap? : List Char → Option (List Char × List Char)
  | ':' :: ':' :: rest => some ([], rest)
  | c :: rest => (splitGap? rest).map fun (before, after) => (c :: before, after)
  | [] => none

-- The pieces of a part that may be empty.
def partPieces? (cs : List Char) : Option (List Nat) :=
  if cs.isEmpty then some [] else pieces? (Text.fields ':' cs)

/-- The eight pieces of an address. -/
def parse? (cs : List Char) : Option (List Nat) := do
  match splitGap? cs with
  | none =>
    let pieces ← pieces? (Text.fields ':' cs)
    if pieces.length = 8 then return pieces else none
  | some (before, after) =>
    if before.contains '.' then none
    else
      let before ← partPieces? before
      let after ← partPieces? after
      let size := before.length + after.length
      if size ≤ 7 then return before ++ List.replicate (8 - size) 0 ++ after else none

-- The length of the run of zeros that a list begins with.
def zeroRun (pieces : List Nat) : Nat :=
  (pieces.takeWhile (· = 0)).length

/-- The first of the longest runs of zeros, as its start and length. -/
def longestRun (pieces : List Nat) : Nat × Nat :=
  (List.range pieces.length).foldl
    (fun best i =>
      let n := zeroRun (pieces.drop i)
      if best.2 < n then (i, n) else best)
    (0, 0)

-- The pieces, separated by colons.
def joinPieces (pieces : List Nat) : List Char :=
  [':'].intercalate (pieces.map (Nat.toDigits 16))

/-- The usual form of an address: the first of the longest runs of at least two zeros is left
out. -/
def render (pieces : List Nat) : List Char :=
  let (start, size) := longestRun pieces
  if size < 2 then joinPieces pieces
  else joinPieces (pieces.take start) ++ [':', ':'] ++ joinPieces (pieces.drop (start + size))

/-- The usual form of the address between the brackets of a host. -/
def normalize (cs : List Char) : Except ParseError (List Char) :=
  match parse? cs with
  | some pieces => .ok ('[' :: render pieces ++ [']'])
  | none => .error .badIpv6

end Vouch.Url.Ipv6
