/-!
# Verification policy

How long a challenge lasts and how many wrong codes it survives.
-/

namespace Vouch

/-- The limits that every challenge is issued with. -/
structure Policy where
  -- How long the token and the code are good for, in seconds.
  challengeLifespan : UInt64
  -- How long the flow in the browser is open, in seconds.
  flowLifespan : UInt64
  -- How many wrong codes end a challenge; unbounded if absent.
  maxAttempts : Option UInt32
  deriving DecidableEq, Repr

/-- One hour each, and five wrong codes. -/
def Policy.standard : Policy := ⟨3600, 3600, some 5⟩

end Vouch
