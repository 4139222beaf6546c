import Vouch.Engine.World

/-!
# Answering a challenge

A link is opened with its token, which only shows where the flow stands.  The code completes the
challenge.
-/

namespace Vouch

/-- What came of a right code. -/
inductive SubmitOutcome where
  -- The address is verified from now on.
  | verified (address : Address)
  -- The flow had been completed before.
  | alreadyVerified (address : Address)
  deriving DecidableEq, Repr

def SubmitOutcome.address : SubmitOutcome → Address
  | .verified a => a
  | .alreadyVerified a => a

namespace Engine

open Vouch.Action

variable {σ ι τ : Type} [VerificationStore σ]

def openLink (flow : FlowId) (token : String) : Action σ ι τ FlowState := do
  let c ← challenge flow
  if !Secret.verify c.token token then
    throw .notFound
  let now ← now
  match c.state with
  | .completed =>
    if c.vouchesFor (← addressOf c) then
      return .ofChallenge c now
    else
      expiredFlow c
  | .active => if c.isLive now then return .ofChallenge c now else expireElapsed c
  | .expired => expiredFlow c

/-- Counts a wrong code. -/
def rejectCode (flow : FlowId) : Action σ ι τ SubmitOutcome := do
  match ← changeStore (VerificationStore.failAttempt flow (← now)) with
  | .remaining attempts => throw (.invalidCode attempts)
  | .exhausted => throw .attemptsExhausted
  | .notActive _ => expiredFlow (← challenge flow)

/-- Takes a right code. -/
def acceptCode (flow : FlowId) : Action σ ι τ SubmitOutcome := do
  match ← changeStore (VerificationStore.complete flow (← now)) with
  | .completed a => return .verified a
  | .alreadyCompleted a => return .alreadyVerified a
  | .expired c => expiredFlow c

/-- Enters the code for a flow.  The time counts before the code, so a flow that has run out of it
answers so whatever the code is. -/
def submit (flow : FlowId) (code : String) : Action σ ι τ SubmitOutcome := do
  let c ← challenge flow
  let isRight := Secret.verify c.code code
  match c.state with
  | .expired =>
    if c.expiredReason = some .attemptsExhausted then throw .attemptsExhausted else expiredFlow c
  | .completed => if isRight then acceptCode flow else throw (.invalidCode c.attemptsRemaining)
  | .active =>
    if !c.isLive (← now) then expireElapsed c
    else if isRight then acceptCode flow
    else rejectCode flow

/-- Ends every challenge whose time has run out, and counts them.  This changes no answer: the
time also counts wherever a challenge is looked at. -/
def sweep : Action σ ι τ Nat := do
  let now ← now
  let elapsed := (← readStore VerificationStore.active).filter fun c => !c.isLive now
  let ended ← elapsed.mapM fun c => changeStore (VerificationStore.expire c.id .elapsed now)
  return (ended.filter fun c => c.state = .expired).length

def addressIn (slot : Slot) : Action σ ι τ (Option Address) :=
  readStore (VerificationStore.addressIn? slot)

def addressesOf (id : IdentityId) : Action σ ι τ (List Address) :=
  readStore (VerificationStore.addressesOf id)

/-- Every challenge ever issued for an address, oldest first. -/
def history (address : AddressId) : Action σ ι τ (List Challenge) :=
  readStore (VerificationStore.history address)

/-- Where a flow stands. -/
def resume (flow : FlowId) : Action σ ι τ FlowState := do
  let c ← challenge flow
  let a ← addressOf c
  return .againstAddress c a (← now)

/-- The context of a flow that has expired. -/
def expiredContext (flow : FlowId) : Action σ ι τ ExpiredContext := do
  let c ← challenge flow
  let a ← addressOf c
  match c.phaseFor a (← now) with
  | .expired reason => return .ofChallenge c a reason
  | _ => throw (.flowNotExpired flow)

end Engine

end Vouch
