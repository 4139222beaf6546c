import Vouch.Config
import Vouch.Courier
import Vouch.Durable.Environment
import Vouch.Engine.Request

/-!
# The node

A node is an engine on the durable stores, whose mail goes into the durable outbox.
-/

namespace Vouch

/-- Why a node could not be opened, or not do what it was asked. -/
inductive NodeError where
  | verification (cause : VerificationError)
  | store (cause : StoreError)
  | database (cause : Durable.EnvironmentError)
  | invalidAddress (cause : InputError)
  | publicUrl (cause : Url.ParseError)
  | mail (cause : MailError)
  | config (fault : String)
  deriving DecidableEq, Repr

namespace NodeError

def message : NodeError → String
  | .verification cause => "verification error: " ++ cause.message
  | .store cause => "store error: " ++ cause.message
  | .database cause => "LMDB error: " ++ cause.message
  | .invalidAddress cause => "invalid address: " ++ cause.message
  | .publicUrl cause => "invalid public URL: " ++ cause.message
  | .mail cause => "mail error: " ++ cause.message
  | .config fault => "config error: " ++ fault

/-- The error that ended a delivery. -/
def ofDelivery : DeliveryError → NodeError
  | .store cause => .store cause
  | .mail cause => .mail cause

end NodeError

/-- What the operations of a node see and change, whatever takes its mail. -/
abbrev NodeWorld (τ : Type) := World Durable.Ledger Durable.IdentityFile τ

namespace Node

def engine (config : Config) : Except NodeError Engine := do
  let publicUrl ← (PublicUrl.parse config.publicUrl).mapError .publicUrl
  return { publicUrl, policy := config.policy }

variable {τ : Type} [MailTransport τ]

/-- Adds an identity that declares one address, unless there is one of that name already. -/
def createIdentity (identity : Identity) : EStateM NodeError (NodeWorld τ) Unit := do
  let world ← get
  match Durable.IdentityFile.create identity world.identities with
  | .ok identities => set { world with identities }
  | .error (.duplicate _) => return
  | .error e => throw (.store e)

/-- Registers an identity with an email address and requests verification of what it declares. -/
def register (e : Engine) (id : IdentityId) (email : String) :
    EStateM NodeError (NodeWorld τ) (List RequestOutcome) := do
  let value ← ofExcept ((Contact.parse .email email).mapError .invalidAddress)
  createIdentity ⟨id, ⟨[⟨.email, value⟩]⟩⟩
  (e.afterRegistration id).adaptExcept .verification

/-- Takes note of an identity's new email address. -/
def changeEmail (e : Engine) (id : IdentityId) (email : String) :
    EStateM NodeError (NodeWorld τ) RequestOutcome := do
  let value ← ofExcept ((Contact.parse .email email).mapError .invalidAddress)
  (e.traitsChanged id ⟨.email, value⟩).adaptExcept .verification

end Node

end Vouch
