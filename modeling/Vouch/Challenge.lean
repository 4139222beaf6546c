import Vouch.Address
import Vouch.Policy
import Vouch.Text.Quoted

/-!
# Challenges

A challenge is one attempt to prove control of an address, bounded in time and in wrong answers.
Its identifier is also the handle of the flow that a browser follows.  Challenges are never
deleted.

The rules by which a completion or a wrong code changes a challenge and its address are functions
on the two records, so every store applies the same rules.
-/

namespace Vouch

/-- One attempt to prove control of an address. -/
structure Challenge where
  id : FlowId
  address : AddressId
  identity : IdentityId
  channel : Channel
  -- The value whose control is proved.
  value : Contact
  -- The secret in the link, which only finds the flow.
  token : String
  -- The secret that authorises completion.
  code : String
  issuedAt : Timestamp
  -- The end of the token's and the code's time.
  expiresAt : Timestamp
  -- The end of the flow's time.
  flowExpiresAt : Timestamp
  state : ChallengeState
  expiredReason : Option ExpiredReason
  -- How many more wrong codes are allowed; unbounded if absent.
  attemptsRemaining : Option UInt32
  completedAt : Option Timestamp
  deriving DecidableEq, Repr

namespace Challenge

/-- An active challenge for an address, as the policy has it. -/
def issue (id : FlowId) (address : Address) (token code : String) (policy : Policy)
    (now : Timestamp) : Challenge where
  id
  address := address.id
  identity := address.identity
  channel := address.channel
  value := address.value
  token
  code
  issuedAt := now
  expiresAt := now.plus policy.challengeLifespan
  flowExpiresAt := now.plus policy.flowLifespan
  state := .active
  expiredReason := none
  attemptsRemaining := policy.maxAttempts
  completedAt := none

def slot (c : Challenge) : Slot := ⟨c.identity, c.channel⟩

/-- Whether the challenge has not ended. -/
def isActive (c : Challenge) : Bool :=
  c.state = .active

/-- Whether the token's and the code's time has run out. -/
def tokenElapsed (c : Challenge) (now : Timestamp) : Bool :=
  c.expiresAt.isReached now

/-- Whether the flow's time has run out. -/
def flowElapsed (c : Challenge) (now : Timestamp) : Bool :=
  c.flowExpiresAt.isReached now

/-- Active, with time left on both counts. -/
def isLive (c : Challenge) (now : Timestamp) : Bool :=
  c.isActive && !c.tokenElapsed now && !c.flowElapsed now

/-- Whether the challenge has expired, be it recorded or only by the clock. -/
def isExpiredAt (c : Challenge) (now : Timestamp) : Bool :=
  match c.state with
  | .expired => true
  | .active => !c.isLive now
  | .completed => false

/-- Whether this completed challenge speaks for the address: the address has its value and is
verified, by whichever challenge that was. -/
def vouchesFor (c : Challenge) (a : Address) : Bool :=
  c.state = .completed && c.address = a.id && c.value = a.value && a.verified

/-- Ends an active challenge; one that has ended stays as it is. -/
def expire (c : Challenge) (reason : ExpiredReason) : Challenge :=
  if c.isActive then { c with state := .expired, expiredReason := some reason } else c

def markCompleted (c : Challenge) (now : Timestamp) : Challenge :=
  { c with state := .completed, completedAt := some now }

def withAttempts (c : Challenge) (remaining : UInt32) : Challenge :=
  { c with attemptsRemaining := some remaining }

@[simp] theorem id_expire (c : Challenge) (reason : ExpiredReason) :
    (c.expire reason).id = c.id := by
  unfold expire
  split <;> rfl

@[simp] theorem address_expire (c : Challenge) (reason : ExpiredReason) :
    (c.expire reason).address = c.address := by
  unfold expire
  split <;> rfl

@[simp] theorem value_expire (c : Challenge) (reason : ExpiredReason) :
    (c.expire reason).value = c.value := by
  unfold expire
  split <;> rfl

-- An expired challenge is not active.
@[simp] theorem isActive_expire (c : Challenge) (reason : ExpiredReason) :
    (c.expire reason).isActive = false := by
  unfold expire
  split
  · rfl
  · simp_all

/-- What is shown of an absent or a present value. -/
def diagnosticOption : Option String → String
  | none => "None"
  | some s => "Some(" ++ s ++ ")"

/-- The form used in diagnostics, which shows neither token nor code. -/
def diagnostic (c : Challenge) : String :=
  "Challenge \x7b id: " ++ c.id.diagnostic
    ++ ", address_id: " ++ c.address.diagnostic
    ++ ", identity_id: IdentityId(" ++ Text.quoted c.identity.name
    ++ "), address_value: AddressValue(" ++ Text.quoted c.value.text
    ++ "), state: " ++ c.state.diagnostic
    ++ ", expired_reason: " ++ diagnosticOption (c.expiredReason.map (·.diagnostic))
    ++ ", expires_at: Timestamp(" ++ toString c.expiresAt.secs.toNat
    ++ "), flow_expires_at: Timestamp(" ++ toString c.flowExpiresAt.secs.toNat
    ++ "), attempts_remaining: "
    ++ diagnosticOption (c.attemptsRemaining.map fun n => toString n.toNat)
    ++ ", .. \x7d"

end Challenge

/-- What became of a record that was put into its slot. -/
inductive Upserted where
  -- The slot was empty and holds the new record now.
  | created (address : Address)
  -- The slot held this value already.
  | unchanged (address : Address)
  -- The slot held another value and points at the new one now; `expired` are the challenges that
  -- were active for the old value.
  | rebound (address : Address) (expired : List Challenge)
  deriving DecidableEq, Repr

def Upserted.address : Upserted → Address
  | .created a => a
  | .unchanged a => a
  | .rebound a _ => a

/-- What became of an attempt to complete a challenge. -/
inductive Completion where
  -- The challenge is completed and the address verified, now.
  | completed (address : Address)
  -- The challenge had been completed for the current value before.
  | alreadyCompleted (address : Address)
  -- The challenge cannot be completed, or was completed for a value that the slot has lost.
  | expired (challenge : Challenge)
  deriving DecidableEq, Repr

/-- What became of a challenge that met a wrong code. -/
inductive FailedAttempt where
  -- The challenge stays active; so many wrong codes are still allowed.
  | remaining (attempts : Option UInt32)
  -- That was the last wrong code allowed.
  | exhausted
  -- The challenge had ended before.
  | notActive (state : ChallengeState)
  deriving DecidableEq, Repr

/-- A challenge together with the address it belongs to. -/
structure Attempt where
  challenge : Challenge
  address : Address
  deriving DecidableEq, Repr

namespace Attempt

/-- Completes the challenge if it is active, in time and for the value the address has.  An
active challenge that fails one of these tests ends. -/
def complete (p : Attempt) (now : Timestamp) : Completion × Attempt :=
  match p.challenge.state with
  | .completed =>
    if p.challenge.vouchesFor p.address then (.alreadyCompleted p.address, p)
    else (.expired p.challenge, p)
  | .expired => (.expired p.challenge, p)
  | .active =>
    if p.challenge.tokenElapsed now || p.challenge.flowElapsed now then
      let c := p.challenge.expire .elapsed
      (.expired c, ⟨c, p.address.markAttemptExpired c.value now⟩)
    else if p.challenge.address ≠ p.address.id ∨ p.challenge.value ≠ p.address.value then
      let c := p.challenge.expire .addressChanged
      (.expired c, ⟨c, p.address⟩)
    else
      let a := p.address.markVerified now
      (.completed a, ⟨p.challenge.markCompleted now, a⟩)

/-- Counts a wrong code against the bound, if there is one.  The last one allowed ends the
challenge. -/
def fail (p : Attempt) (now : Timestamp) : FailedAttempt × Attempt :=
  if p.challenge.isActive then
    match p.challenge.attemptsRemaining with
    | none => (.remaining none, p)
    | some n =>
      let left := if n = 0 then 0 else n - 1
      let c := p.challenge.withAttempts left
      if left = 0 then
        let c := c.expire .attemptsExhausted
        (.exhausted, ⟨c, p.address.markAttemptExpired c.value now⟩)
      else
        (.remaining (some left), ⟨c, p.address⟩)
  else
    (.notActive p.challenge.state, p)

/-- Ends the challenge if it is active.  The address notes that, unless a newer challenge has
taken over. -/
def expire (p : Attempt) (reason : ExpiredReason) (now : Timestamp) : Attempt :=
  let c := p.challenge.expire reason
  if p.challenge.isActive ∧ reason ≠ .superseded then
    ⟨c, p.address.markAttemptExpired c.value now⟩
  else
    ⟨c, p.address⟩

end Attempt

end Vouch
