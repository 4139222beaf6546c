/-!
# Points in time

Time is counted in whole seconds since the epoch, in 64 bits.  Sums and differences stop at the
ends of that range instead of wrapping.
-/

namespace Vouch

/-- A point in time, as seconds since the epoch. -/
structure Timestamp where
  secs : UInt64
  deriving DecidableEq, Repr, Inhabited

namespace Timestamp

def epoch : Timestamp := ⟨0⟩

/-- This time moved forward, or the last representable time. -/
def plus (t : Timestamp) (secs : UInt64) : Timestamp :=
  if t.secs.toNat + secs.toNat < UInt64.size then ⟨t.secs + secs⟩ else ⟨0xFFFFFFFFFFFFFFFF⟩

/-- The seconds from this time to `now`, zero if `now` is earlier. -/
def elapsedSince (t now : Timestamp) : UInt64 :=
  if t.secs ≤ now.secs then now.secs - t.secs else 0

/-- The seconds from `now` to this time, zero once it has passed. -/
def remainingFrom (t now : Timestamp) : UInt64 :=
  if now.secs ≤ t.secs then t.secs - now.secs else 0

/-- Whether this time, read as a deadline, has passed; the deadline itself counts as passed. -/
def isReached (t now : Timestamp) : Bool :=
  t.secs ≤ now.secs

def display (t : Timestamp) : String :=
  toString t.secs.toNat ++ "s"

theorem isReached_iff (t now : Timestamp) :
    t.isReached now = true ↔ t.secs.toNat ≤ now.secs.toNat := by
  simp [isReached, UInt64.le_iff_toNat_le]

-- The sum, in natural numbers, cut off at the last representable time.
theorem toNat_plus (t : Timestamp) (secs : UInt64) :
    (t.plus secs).secs.toNat = min (t.secs.toNat + secs.toNat) (UInt64.size - 1) := by
  have ht := t.secs.toNat_lt
  unfold plus
  split
  · simp only [UInt64.toNat_add, UInt64.size] at *
    omega
  · simp only [UInt64.reduceToNat, UInt64.size] at *
    omega

end Timestamp

end Vouch
