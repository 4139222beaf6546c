import Vouch.Engine.Error
import Vouch.Entropy
import Vouch.Link
import Vouch.Secret
import Vouch.Transport

/-!
# What the engine works on

The engine reads and changes a world: a store of addresses and challenges, a store of identities,
a transport for mail, the clock and the sequence of random bytes.  An operation that fails keeps
the changes it made before.
-/

namespace Vouch

/-- What the operations of the engine see and change. -/
structure World (σ ι τ : Type) where
  store : σ
  identities : ι
  mailer : τ
  now : Timestamp
  entropy : Entropy

/-- An operation on a world. -/
abbrev Action (σ ι τ : Type) := EStateM VerificationError (World σ ι τ)

/-- How challenges are issued: where links lead and which limits hold. -/
structure Engine where
  publicUrl : PublicUrl
  policy : Policy

namespace Action

variable {σ ι τ α : Type}

def readStore (read : σ → Except StoreError α) : Action σ ι τ α := do
  ofExcept ((read (← get).store).mapError .store)

def changeStore (change : σ → Except StoreError (α × σ)) : Action σ ι τ α := do
  let world ← get
  let (a, store) ← ofExcept ((change world.store).mapError .store)
  set { world with store }
  return a

def identity [IdentityStore ι] (id : IdentityId) : Action σ ι τ Identity := do
  match ← ofExcept ((IdentityStore.identity? id (← get).identities).mapError .store) with
  | some identity => return identity
  | none => throw (.identityNotFound id)

def updateTraits [IdentityStore ι] (id : IdentityId) (traits : Traits) : Action σ ι τ Unit := do
  let world ← get
  let identities ←
    ofExcept ((IdentityStore.updateTraits id traits world.identities).mapError .store)
  set { world with identities }

def now : Action σ ι τ Timestamp :=
  return (← get).now

def draw (f : Entropy → α × Entropy) : Action σ ι τ α := do
  let world ← get
  let (a, entropy) := f world.entropy
  set { world with entropy }
  return a

/-- Hands a message to the transport.  A message that is not taken is lost; a later request mails
it again. -/
def send [MailTransport τ] (mail : Mail) : Action σ ι τ Unit :=
  modify fun world =>
    match MailTransport.send mail world.now world.mailer with
    | .ok mailer => { world with mailer }
    | .error _ => world

def challenge [VerificationStore σ] (flow : FlowId) : Action σ ι τ Challenge := do
  match ← readStore (VerificationStore.challenge? flow) with
  | some c => return c
  | none => throw .notFound

def addressOf [VerificationStore σ] (c : Challenge) : Action σ ι τ Address := do
  match ← readStore (VerificationStore.address? c.address) with
  | some a => return a
  | none => throw (.store (.corruption (.challengeWithoutAddress c.id c.address)))

/-- Answers that a challenge has expired.  A completed challenge is answered for only after its
slot was rebound. -/
def expiredFlow [VerificationStore σ] (c : Challenge) : Action σ ι τ α := do
  let a ← addressOf c
  throw (.expiredFlow (.ofChallenge c a (c.expiredReason.getD .addressChanged)))

/-- Ends a challenge whose time has run out, and answers that it has expired. -/
def expireElapsed [VerificationStore σ] (c : Challenge) : Action σ ι τ α := do
  let c ← changeStore (VerificationStore.expire c.id .elapsed (← now))
  expiredFlow c

end Action

end Vouch
