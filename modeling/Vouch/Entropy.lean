import Vouch.Identifier

/-!
# Randomness

Random bytes are drawn one after another from an endless sequence.  Where the sequence comes
from, be it the operating system or a seeded generator, does not matter to those who draw.
-/

namespace Vouch

/-- An endless sequence of bytes, and how many of them have been drawn. -/
structure Entropy where
  byteAt : Nat → UInt8
  drawn : Nat

namespace Entropy

/-- The next `n` bytes, and what remains. -/
def draw (n : Nat) (e : Entropy) : Bytes × Entropy :=
  ((List.range n).map fun i => e.byteAt (e.drawn + i), { e with drawn := e.drawn + n })

theorem length_draw (n : Nat) (e : Entropy) : (e.draw n).1.length = n := by
  simp [draw]

def drawId (kind : IdKind) (e : Entropy) : Id kind × Entropy :=
  (⟨(e.draw Id.size).1, by simp [length_draw, Id.size]⟩, (e.draw Id.size).2)

/-- The sequence that begins with the given bytes; zeros follow. -/
def ofBytes (bs : ByteArray) : Entropy where
  byteAt i := if h : i < bs.size then bs[i] else 0
  drawn := 0

/-- The `i`-th word of the SplitMix64 generator. -/
def splitMixWord (seed : UInt64) (i : Nat) : UInt64 :=
  let z := seed + 0x9E3779B97F4A7C15 * UInt64.ofNat (i + 1)
  let z := (z ^^^ (z >>> 30)) * 0xBF58476D1CE4E5B9
  let z := (z ^^^ (z >>> 27)) * 0x94D049BB133111EB
  z ^^^ (z >>> 31)

/-- The bytes of the SplitMix64 generator, each word with its lowest byte first. -/
def splitMix (seed : UInt64) : Entropy where
  byteAt i := (splitMixWord seed (i / 8) >>> UInt64.ofNat (8 * (i % 8))).toUInt8
  drawn := 0

end Entropy

end Vouch
