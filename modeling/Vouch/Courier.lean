import Vouch.Transport

/-!
# The courier

The courier delivers the messages that wait in an outbox, oldest first.  It stops at the first
message that the transport does not take; that one and those after it keep waiting.
-/

namespace Vouch

/-- Why a delivery ended early. -/
inductive DeliveryError where
  | store (cause : StoreError)
  | mail (cause : MailError)
  deriving DecidableEq, Repr

/-- An outbox and the transport that its messages are delivered through. -/
structure Courier (μ τ : Type) where
  outbox : μ
  transport : τ

namespace Courier

variable {μ τ : Type} [MessageStore μ] [MailTransport τ]

/-- Delivers a message and notes that in the outbox. -/
def deliver (now : Timestamp) (message : QueuedMessage) :
    EStateM DeliveryError (Courier μ τ) Unit := do
  let courier ← get
  match MailTransport.send message.mail now courier.transport with
  | .error e => throw (.mail e)
  | .ok transport =>
    set { courier with transport }
    match MessageStore.markSent message.id courier.outbox with
    | .error e => throw (.store e)
    | .ok outbox => set (⟨outbox, transport⟩ : Courier μ τ)

/-- Delivers the messages that wait, and counts them. -/
def dispatch (now : Timestamp) : EStateM DeliveryError (Courier μ τ) Nat := do
  match MessageStore.messages (some .queued) (← get).outbox with
  | .error e => throw (.store e)
  | .ok messages =>
    messages.forM (deliver now)
    return messages.length

end Courier

end Vouch
