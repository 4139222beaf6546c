import Vouch.Json.Token
import Vouch.Text.Split
import Vouch.Toml.Value

/-!
# TOML numbers, dates and words

A word is a run of characters up to a blank, a line end, a comment or a punctuation mark.  It is a
truth value, a number, a date or a time.  Integers have 64 bits with a sign; a float that is too
large is refused unless it is negative; dates and times have to exist.
-/

namespace Vouch.Toml

-- The digits of a run in which an underscore may stand between two digits.
def groupedDigits? (isDigit : Char → Bool) (cs : List Char) : Option (List Char) :=
  let groups := Text.fields '_' cs
  if groups.all fun group => !group.isEmpty && group.all isDigit then some groups.flatten else none

-- The digits of a number that does not begin with a superfluous zero.
def wholeDigits? (cs : List Char) : Option (List Char) := do
  let digits ← groupedDigits? Char.isDigit cs
  if cs.head? = some '0' ∧ cs.length ≠ 1 then none else some digits

-- Whether a number has a minus sign, and the rest of it.
def splitSign : List Char → Bool × List Char
  | '-' :: rest => (true, rest)
  | '+' :: rest => (false, rest)
  | cs => (false, cs)

-- The number that digits of a base stand for.
def valueOfDigits (base : Nat) (cs : List Char) : Nat :=
  cs.foldl (fun n c => base * n + (Json.hexValue? c).getD 0) 0

-- The digits of a base below sixteen or of sixteen.
def isDigitOf (base : Nat) (c : Char) : Bool :=
  (Json.hexValue? c).any (· < base)

/-- The first natural number that is too large for 64 bits with a sign. -/
def signedLimit : Nat := 0x8000000000000000

/-- An integer, if it fits into 64 bits. -/
def word64? (n : Int) : Option Int :=
  if -signedLimit ≤ n ∧ n < signedLimit then some n else none

-- An integer in one of the bases whose numbers have a mark and no sign.
def readMarked? (base : Nat) (cs : List Char) : Option Int := do
  let digits ← groupedDigits? (isDigitOf base) cs
  word64? (valueOfDigits base digits)

def readInteger? : List Char → Option Int
  | '0' :: 'x' :: cs => readMarked? 16 cs
  | '0' :: 'o' :: cs => readMarked? 8 cs
  | '0' :: 'b' :: cs => readMarked? 2 cs
  | cs => do
    let (negative, cs) := splitSign cs
    let n : Int := valueOfDigits 10 (← wholeDigits? cs)
    word64? (if negative then -n else n)

-- Whether `digits`, with the decimal point moved by `scale` places, is too large for a double:
-- nearer to 2 ^ 1024 than to the double below.
def isTooLarge (digits : List Char) (scale : Int) : Bool :=
  let digits := digits.dropWhile (· = '0')
  let places : Int := digits.length + scale
  let limit := Nat.pow 2 1024 - Nat.pow 2 970
  let n := valueOfDigits 10 digits
  if digits.isEmpty || places < 300 then false
  else if 400 < places then true
  else if 0 ≤ scale then limit ≤ n * Nat.pow 10 scale.toNat
  else limit * Nat.pow 10 (-scale).toNat ≤ n

-- The exponent of a float.
def readExponent? (cs : List Char) : Option Int := do
  let (negative, cs) := splitSign cs
  let n : Int := valueOfDigits 10 (← groupedDigits? Char.isDigit cs)
  return if negative then -n else n

def isFloat (cs : List Char) : Bool :=
  let (negative, cs) := splitSign cs
  if cs = "inf".toList ∨ cs = "nan".toList then true
  else
    let isMark (c : Char) : Bool := c = 'e' || c = 'E'
    let mantissa := cs.takeWhile fun c => !isMark c
    let scale := cs.drop mantissa.length
    let whole := mantissa.takeWhile (· ≠ '.')
    let fraction := mantissa.drop whole.length
    let result : Option Bool := do
      let wholeDigits ← wholeDigits? whole
      let fractionDigits ←
        if fraction.isEmpty then some [] else groupedDigits? Char.isDigit fraction.tail
      let exponent ← if scale.isEmpty then some 0 else readExponent? scale.tail
      guard !(fraction.isEmpty && scale.isEmpty)
      return negative || !isTooLarge (wholeDigits ++ fractionDigits)
        (exponent - fractionDigits.length)
    result.getD false

-- The number that exactly `width` digits write.
def fixedDigits? (width : Nat) (cs : List Char) : Option Nat :=
  if cs.length = width ∧ cs.all Char.isDigit then some (valueOfDigits 10 cs) else none

-- The number of days of a month.
def daysOf (year month : Nat) : Nat :=
  if month = 2 then
    if year % 4 = 0 ∧ (year % 100 ≠ 0 ∨ year % 400 = 0) then 29 else 28
  else if [4, 6, 9, 11].contains month then 30
  else 31

def isDate (cs : List Char) : Bool :=
  match Text.fields '-' cs with
  | [year, month, day] =>
    match fixedDigits? 4 year, fixedDigits? 2 month, fixedDigits? 2 day with
    | some year, some month, some day =>
      1 ≤ month && month ≤ 12 && 1 ≤ day && day ≤ daysOf year month
    | _, _, _ => false
  | _ => false

-- Whether a word is a time of day without seconds.
def isHourMinute (cs : List Char) : Bool :=
  match Text.fields ':' cs with
  | [hour, minute] => (fixedDigits? 2 hour).any (· < 24) && (fixedDigits? 2 minute).any (· < 60)
  | _ => false

-- Whether a word is a time of day; there may be a leap second and a fraction of one.
def isTime (cs : List Char) : Bool :=
  let fraction := cs.drop 8
  isHourMinute (cs.take 5)
    && (cs.drop 5).head? = some ':'
    && (fixedDigits? 2 ((cs.drop 6).take 2)).any (· ≤ 60)
    && (fraction.isEmpty || (fraction.head? = some '.' && Json.isDigits fraction.tail))

-- Whether a word is an offset from universal time.
def isOffset : List Char → Bool
  | ['Z'] => true
  | ['z'] => true
  | '+' :: cs => isHourMinute cs
  | '-' :: cs => isHourMinute cs
  | _ => false

-- Whether a word is a time, perhaps with an offset.
def isTimeWithOffset (cs : List Char) : Bool :=
  let isMark (c : Char) : Bool := ['Z', 'z', '+', '-'].contains c
  let time := cs.takeWhile fun c => !isMark c
  let offset := cs.dropWhile fun c => !isMark c
  isTime time && (offset.isEmpty || isOffset offset)

-- Whether a word is a date, a time or both.
def isMoment (cs : List Char) : Bool :=
  let rest := cs.drop 10
  isTime cs ||
    isDate (cs.take 10) &&
      (rest.isEmpty || ((rest.head? = some 'T' || rest.head? = some 't') &&
        isTimeWithOffset rest.tail))

def endsWord (c : Char) : Bool :=
  [' ', '\t', '\n', '#', ',', ']', '\x7d'].contains c

-- The value that a word is.
def ofWord? (cs : List Char) : Option Toml :=
  if cs = "true".toList then some (.bool true)
  else if cs = "false".toList then some (.bool false)
  else
    match readInteger? cs with
    | some n => some (.integer n)
    | none =>
      if isFloat cs then some .float else if isMoment cs then some .moment else none

/-- Reads a word.  After a date and a blank there may be a time, which belongs to it. -/
def readWord (cs : List Char) : Option (Toml × List Char) := do
  let word := cs.takeWhile fun c => !endsWord c
  let after := cs.dropWhile fun c => !endsWord c
  let time := after.tail.takeWhile fun c => !endsWord c
  if isDate word && after.head? = some ' ' && !time.isEmpty then
    if isTimeWithOffset time then return (.moment, after.tail.drop time.length) else none
  else
    return (← ofWord? word, after)

end Vouch.Toml
