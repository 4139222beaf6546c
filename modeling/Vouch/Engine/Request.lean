import Vouch.Engine.World

/-!
# Requests

A request makes sure that an address has exactly one live challenge and mails its link.  A live
challenge is mailed again as it is; one that has run out of time is replaced.
-/

namespace Vouch

/-- What came of a request. -/
inductive RequestOutcome where
  -- A new challenge was issued and mailed.
  | issued (flow : FlowId)
  -- The live challenge was mailed again.
  | resent (flow : FlowId)
  -- The address is verified; nothing was mailed.
  | alreadyVerified
  deriving DecidableEq, Repr

def RequestOutcome.flow? : RequestOutcome → Option FlowId
  | .issued flow => some flow
  | .resent flow => some flow
  | .alreadyVerified => none

namespace Engine

open Vouch.Action

variable {σ ι τ : Type}

def declaredAddresses [IdentityStore ι] (id : IdentityId) :
    Action σ ι τ (List DeclaredAddress) :=
  return (← identity id).traits.addresses

variable [MailTransport τ]

/-- Mails the link of a challenge, if the public address admits links. -/
def mailLink (e : Engine) (c : Challenge) : Action σ ι τ Unit :=
  match e.publicUrl.link c.id c.token with
  | .ok url => send (.verification c.value url.render c.code)
  | .error _ => pure ()

variable [VerificationStore σ]

/-- Issues a challenge for an address and mails its link. -/
def issueChallenge (e : Engine) (a : Address) : Action σ ι τ FlowId := do
  let flow ← draw (Entropy.drawId .flow)
  let secret ← draw (Secret.issue a.channel flow)
  let c := Challenge.issue flow a secret.token secret.code e.policy (← now)
  let _ ← changeStore (VerificationStore.create c)
  e.mailLink c
  return flow

/-- Makes sure that a slot holds a value and that the address has a live challenge, unless it is
verified. -/
def ensureChallenge (e : Engine) (slot : Slot) (value : Contact) :
    Action σ ι τ RequestOutcome := do
  let now ← now
  let id ← draw (Entropy.drawId .address)
  let upserted ← changeStore (VerificationStore.upsert (.fresh id slot value now))
  let a := upserted.address
  if a.verified then
    return .alreadyVerified
  match ← readStore (VerificationStore.activeFor? a.id) with
  | none => return .issued (← e.issueChallenge a)
  | some c =>
    if c.isLive now ∧ c.value = a.value then
      e.mailLink c
      return .resent c.id
    else
      let _ ← changeStore (VerificationStore.expire c.id .elapsed now)
      return .issued (← e.issueChallenge a)

/-- Requests verification for everyone who has an address with this value.  If nobody has, the
value is sent a notice instead, so that the answer does not tell whether there is an account. -/
def requestByValue (e : Engine) (channel : Channel) (raw : String) :
    Action σ ι τ (List RequestOutcome) := do
  let value ← ofExcept ((Contact.parse channel raw).mapError .invalidAddress)
  let owners ← readStore (VerificationStore.addressesWith channel value)
  if owners.isEmpty then
    send (.unknownAddress value)
    return []
  else
    owners.mapM fun owner => e.ensureChallenge ⟨owner.identity, channel⟩ value

variable [IdentityStore ι]

/-- Requests verification of an address that the identity declares. -/
def request (e : Engine) (id : IdentityId) (declared : DeclaredAddress) :
    Action σ ι τ RequestOutcome := do
  let identity ← identity id
  if identity.traits.address? declared.channel = some declared.value then
    e.ensureChallenge ⟨id, declared.channel⟩ declared.value
  else
    throw (.undeclaredAddress id declared.value)

/-- Takes note that an identity declares an address, in place of the one it declared before on the
channel.  A new value is not trusted until a challenge for it is completed. -/
def traitsChanged (e : Engine) (id : IdentityId) (declared : DeclaredAddress) :
    Action σ ι τ RequestOutcome := do
  let identity ← identity id
  if identity.traits.address? declared.channel ≠ some declared.value then
    updateTraits id (identity.traits.setAddress declared.channel declared.value)
  e.ensureChallenge ⟨id, declared.channel⟩ declared.value

/-- Requests verification of every declared address; run after an identity was registered. -/
def afterRegistration (e : Engine) (id : IdentityId) : Action σ ι τ (List RequestOutcome) := do
  (← declaredAddresses id).mapM fun declared => e.request id declared

/-- Takes note of every declared address; run after an identity's settings were edited. -/
def afterSettings (e : Engine) (id : IdentityId) : Action σ ι τ (List RequestOutcome) := do
  (← declaredAddresses id).mapM fun declared => e.traitsChanged id declared

end Engine

end Vouch
