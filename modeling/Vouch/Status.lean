/-!
# Where addresses and challenges stand

The trust in an address, the state of a challenge and the reason why a challenge ended.
-/

namespace Vouch

/-- The trust in an address. -/
inductive AddressStatus where
  -- No challenge was issued for the current value.
  | unverified
  -- A challenge is open for the current value.
  | pending
  -- A challenge for the current value was completed.
  | completed
  -- The last challenge ran out of time or attempts.
  | expiredAttempt
  deriving DecidableEq, Repr

def AddressStatus.name : AddressStatus → String
  | .unverified => "unverified"
  | .pending => "pending"
  | .completed => "completed"
  | .expiredAttempt => "expired-attempt"

/-- The state of a challenge.  An active challenge ends in one of the other two states and stays
there. -/
inductive ChallengeState where
  | active
  | completed
  | expired
  deriving DecidableEq, Repr

namespace ChallengeState

def name : ChallengeState → String
  | .active => "active"
  | .completed => "completed"
  | .expired => "expired"

def diagnostic : ChallengeState → String
  | .active => "Active"
  | .completed => "Completed"
  | .expired => "Expired"

/-- Whether a state is never left. -/
def isTerminal (state : ChallengeState) : Bool :=
  state != .active

end ChallengeState

/-- Why a challenge expired. -/
inductive ExpiredReason where
  -- Its time, or the time of its flow, ran out.
  | elapsed
  -- A newer challenge was issued for the same address.
  | superseded
  -- The allowed number of wrong codes was used up.
  | attemptsExhausted
  -- The value of the address was edited.
  | addressChanged
  deriving DecidableEq, Repr

namespace ExpiredReason

def name : ExpiredReason → String
  | .elapsed => "elapsed"
  | .superseded => "superseded"
  | .attemptsExhausted => "attempts-exhausted"
  | .addressChanged => "address-changed"

def diagnostic : ExpiredReason → String
  | .elapsed => "Elapsed"
  | .superseded => "Superseded"
  | .attemptsExhausted => "AttemptsExhausted"
  | .addressChanged => "AddressChanged"

end ExpiredReason

end Vouch
