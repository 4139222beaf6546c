import Vouch.Json.Token
import Vouch.Text.Split
import Vouch.Url.Error

/-!
# IPv4 addresses in URLs

A host whose last label is a number is an IPv4 address.  Each of its up to four numbers may be
decimal, octal or hexadecimal, and the last one fills all the bytes that are left.
-/

namespace Vouch.Url.Ipv4

/-- The value of a digit in a base of up to sixteen. -/
def digitValue? (base : Nat) (c : Char) : Option Nat :=
  (Json.hexValue? c).bind fun n => if n < base then some n else none

-- The number that digits in a base stand for.
def numeral? (base : Nat) (cs : List Char) : Option Nat :=
  cs.foldlM (fun n c => (digitValue? base c).map fun d => base * n + d) 0

-- The number a label stands for, if it is one.
def number? (label : List Char) : Option Nat :=
  match label with
  | [] => none
  | '0' :: 'x' :: rest => numeral? 16 rest
  | '0' :: 'X' :: rest => numeral? 16 rest
  | '0' :: c :: rest => numeral? 8 (c :: rest)
  | _ => numeral? 10 label

/-- The labels of a domain, without the empty one after a final dot. -/
def labels (domain : List Char) : List (List Char) :=
  let labels := Text.fields '.' domain
  if labels.getLast? = some [] then labels.dropLast else labels

/-- Whether a domain has to be an IPv4 address. -/
def isIntended (domain : List Char) : Bool :=
  match (labels domain).getLast? with
  | none => false
  | some last =>
    (!last.isEmpty && last.all Char.isDigit) || (number? last).isSome

-- The value of an address from its numbers: all but the last are bytes.
def combine? : List Nat → Option Nat
  | [] => none
  | numbers =>
    let leading := numbers.dropLast
    let last := numbers.getLastD 0
    let limit := Nat.pow 256 (5 - numbers.length)
    if 4 < numbers.length ∨ leading.any (255 < ·) ∨ limit ≤ last then none
    else some ((leading.foldl (fun n byte => 256 * n + byte) 0) * limit + last)

/-- The usual form of an address: four decimal numbers. -/
def render (address : Nat) : List Char :=
  (Nat.toDigits 10 (address / 0x1000000)) ++ '.' ::
    (Nat.toDigits 10 (address / 0x10000 % 256)) ++ '.' ::
    (Nat.toDigits 10 (address / 0x100 % 256)) ++ '.' ::
    (Nat.toDigits 10 (address % 256))

/-- The usual form of the address that a domain is. -/
def normalize (domain : List Char) : Except ParseError (List Char) :=
  match ((labels domain).mapM number?).bind combine? with
  | some address => .ok (render address)
  | none => .error .badIpv4

end Vouch.Url.Ipv4
