import Vouch.Challenge

/-!
# Flows

A flow is what a browser sees of a challenge: where it stands, but neither token nor code.  It is
read without changing anything, so an old link has a stable answer.
-/

namespace Vouch

/-- Where a flow stands. -/
inductive FlowPhase where
  -- The code can still be entered.
  | awaitingCode
  | completed
  | expired (reason : ExpiredReason)
  deriving DecidableEq, Repr

def FlowPhase.name : FlowPhase → String
  | .awaitingCode => "awaiting-code"
  | .completed => "completed"
  | .expired _ => "expired"

/-- What can be seen of a flow. -/
structure FlowState where
  flow : FlowId
  identity : IdentityId
  address : AddressId
  channel : Channel
  value : Contact
  phase : FlowPhase
  issuedAt : Timestamp
  expiresAt : Timestamp
  flowExpiresAt : Timestamp
  attemptsRemaining : Option UInt32
  deriving DecidableEq, Repr

/-- Where a challenge stands by itself.  One whose time has run out has expired, even if that was
not written down yet. -/
def Challenge.phase (c : Challenge) (now : Timestamp) : FlowPhase :=
  match c.state with
  | .completed => .completed
  | .expired => .expired (c.expiredReason.getD .elapsed)
  | .active => if c.isLive now then .awaitingCode else .expired .elapsed

/-- Where a challenge stands with regard to its address.  A completed challenge that does
not speak for it, because the slot was rebound, has expired. -/
def Challenge.phaseFor (c : Challenge) (a : Address) (now : Timestamp) : FlowPhase :=
  if c.phase now = .completed ∧ c.vouchesFor a = false then .expired .addressChanged
  else c.phase now

namespace FlowState

/-- The view of a challenge in a phase. -/
def ofPhase (c : Challenge) (phase : FlowPhase) : FlowState where
  flow := c.id
  identity := c.identity
  address := c.address
  channel := c.channel
  value := c.value
  phase
  issuedAt := c.issuedAt
  expiresAt := c.expiresAt
  flowExpiresAt := c.flowExpiresAt
  attemptsRemaining := c.attemptsRemaining

/-- The view of a challenge by itself. -/
def ofChallenge (c : Challenge) (now : Timestamp) : FlowState :=
  ofPhase c (c.phase now)

/-- The view of a challenge with regard to its address. -/
def againstAddress (c : Challenge) (a : Address) (now : Timestamp) : FlowState :=
  ofPhase c (c.phaseFor a now)

def isExpired (state : FlowState) : Bool :=
  match state.phase with
  | .expired _ => true
  | _ => false

end FlowState

/-- What is needed to offer another challenge in place of an expired flow. -/
structure ExpiredContext where
  flow : FlowId
  identity : IdentityId
  -- The value that the flow was for.
  challengeValue : Contact
  -- The address as it is now, which may have another value.
  address : Address
  reason : ExpiredReason
  deriving DecidableEq, Repr

def ExpiredContext.ofChallenge (c : Challenge) (address : Address) (reason : ExpiredReason) :
    ExpiredContext where
  flow := c.id
  identity := c.identity
  challengeValue := c.value
  address
  reason

end Vouch
