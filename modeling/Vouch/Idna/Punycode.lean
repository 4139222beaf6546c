/-!
# Punycode

A label with characters outside ASCII is written in ASCII: first its ASCII characters, then, after
a hyphen, digits in base 36 that say where the other characters go.  Those are inserted in the
order of their code points, each by the distance from the one before, counted over all code points
and positions passed on the way.  A distance is a number of variable length whose digit weights
adapt to the sizes seen so far.
-/

namespace Vouch.Idna.Punycode

/-- The first code point outside ASCII. -/
def firstCode : Nat := 128

-- The bias before the first distance.
def firstBias : Nat := 72

/-- The digit for a value below 36. -/
def digit (n : Nat) : Char :=
  if n < 26 then Char.ofNat (97 + n) else Char.ofNat (22 + n)

/-- The value of a digit, in either case. -/
def value? (c : Char) : Option Nat :=
  if 'a' ≤ c ∧ c ≤ 'z' then some (c.toNat - 97)
  else if 'A' ≤ c ∧ c ≤ 'Z' then some (c.toNat - 65)
  else if '0' ≤ c ∧ c ≤ '9' then some (c.toNat - 22)
  else none

-- The value from which a digit is not the last of its number.  `k` is its weight's exponent, in
-- steps of 36.
def threshold (k bias : Nat) : Nat :=
  if k ≤ bias then 1 else if bias + 26 ≤ k then 26 else k - bias

theorem threshold_bounds (k bias : Nat) : 1 ≤ threshold k bias ∧ threshold k bias ≤ 26 := by
  unfold threshold
  split
  · omega
  · split <;> omega

-- Divides until the distance is small, counting the steps by 36.
def reduce (delta k : Nat) : Nat × Nat :=
  if 455 < delta then reduce (delta / 35) (k + 36) else (delta, k)
termination_by delta
decreasing_by omega

-- The bias after a distance, for a text of `count` characters so far.
def adapt (delta count : Nat) (first : Bool) : Nat :=
  let delta := if first then delta / 700 else delta / 2
  let (delta, k) := reduce (delta + delta / count) 0
  k + 36 * delta / (delta + 38)

-- The digits of a number of variable length.
def encodeNumber (bias q k : Nat) : List Char :=
  let t := threshold k bias
  if q < t then [digit q]
  else digit (t + (q - t) % (36 - t)) :: encodeNumber bias ((q - t) / (36 - t)) (k + 36)
termination_by q
decreasing_by
  have h := threshold_bounds k bias
  have hle := Nat.div_le_self (q - threshold k bias) (36 - threshold k bias)
  simp only [t] at *
  omega

/-- Where the writing of a label stands. -/
structure Writer where
  code : Nat
  delta : Nat
  bias : Nat
  count : Nat
  out : List Char

-- Passes one character of the label while those with code point `m` are inserted.
def Writer.pass (basic m : Nat) (w : Writer) (c : Char) : Writer :=
  if c.toNat < m then
    { w with delta := w.delta + 1 }
  else if c.toNat = m then
    { w with
      out := w.out ++ encodeNumber w.bias w.delta 36
      bias := adapt w.delta (w.count + 1) (w.count == basic)
      delta := 0
      count := w.count + 1 }
  else
    w

/-- Inserts the characters with code point `m`. -/
def Writer.insert (basic : Nat) (label : List Char) (w : Writer) (m : Nat) : Writer :=
  let w := { w with delta := w.delta + (m - w.code) * (w.count + 1), code := m }
  let w := label.foldl (Writer.pass basic m) w
  { w with delta := w.delta + 1, code := m + 1 }

/-- The ASCII form of a label, without the mark that says it is one. -/
def encode (label : List Char) : List Char :=
  let basic := label.filter fun c => c.toNat < firstCode
  let others := ((label.filter fun c => firstCode ≤ c.toNat).map Char.toNat).eraseDups.mergeSort
  let head := if basic.isEmpty then [] else basic ++ ['-']
  (others.foldl (Writer.insert basic.length label)
    ⟨firstCode, 0, firstBias, basic.length, head⟩).out

/-- Where the reading of a label stands: the label so far, the code point and the position of the
last insertion, the distance read so far and the weight of its next digit. -/
structure Reader where
  label : List Char
  code : Nat
  position : Nat
  bias : Nat
  distance : Nat
  weight : Nat
  k : Nat

/-- The greatest number that may occur. -/
def limit : Nat := 0xFFFFFFFF

def Reader.step (r : Reader) (c : Char) : Option Reader := do
  let value ← value? c
  let distance := r.distance + value * r.weight
  if limit < r.position + distance then none
  else
    let t := threshold r.k r.bias
    if value < t then
      let total := r.position + distance
      let size := r.label.length + 1
      let code := r.code + total / size
      let position := total % size
      if h : code.isValidChar then
        some
          { label := r.label.take position ++ Char.ofNatAux code h :: r.label.drop position
            code
            position := position + 1
            bias := adapt distance size (r.position == 0)
            distance := 0
            weight := 1
            k := 36 }
      else
        none
    else
      let weight := r.weight * (36 - t)
      if limit < weight then none else some { r with distance, weight, k := r.k + 36 }

-- The parts before and after the last hyphen.  A hyphen with nothing before it separates nothing,
-- and all is the second part then.
def splitHyphen (cs : List Char) : List Char × List Char :=
  let after := (cs.reverse.takeWhile (· ≠ '-')).reverse
  if cs.length ≤ after.length + 1 then ([], cs)
  else (cs.take (cs.length - after.length - 1), after)

/-- The label of an ASCII form. -/
def decode? (cs : List Char) : Option (List Char) := do
  let (basic, digits) := splitHyphen cs
  if basic.any fun c => firstCode ≤ c.toNat then none
  else
    let r ← digits.foldlM Reader.step ⟨basic, firstCode, 0, firstBias, 0, 1, 36⟩
    if r.k = 36 then some r.label else none

end Vouch.Idna.Punycode
