import Vouch.Store

/-!
# Transports

A transport takes messages that are to be sent.  One of them keeps what it takes, for looking at;
the other puts it into an outbox, from where a courier delivers it later.
-/

namespace Vouch

/-- Something that takes messages to be sent. -/
class MailTransport (τ : Type) where
  /-- Takes a message, or says why not. -/
  send : Mail → Timestamp → τ → Except MailError τ

/-- A transport that keeps what it takes, and can be made to fail. -/
structure MailRecorder where
  sent : List Mail
  failing : Bool
  deriving DecidableEq, Repr

namespace MailRecorder

def empty : MailRecorder := ⟨[], false⟩

instance : MailTransport MailRecorder where
  send mail _ recorder :=
    if recorder.failing then .error (.transport "null transport is failing")
    else .ok { recorder with sent := recorder.sent ++ [mail] }

/-- The link in the last message with a link for a recipient. -/
def lastLink? (recorder : MailRecorder) (contact : Contact) : Option String :=
  recorder.sent.reverse.findSome? fun
    | .verification recipient url _ => if recipient = contact then some url else none
    | .unknownAddress _ => none

end MailRecorder

structure OutboxTransport (μ : Type) where
  outbox : μ

instance {μ : Type} [MessageStore μ] : MailTransport (OutboxTransport μ) where
  send mail now transport :=
    match MessageStore.enqueue mail now transport.outbox with
    | .ok (_, outbox) => .ok ⟨outbox⟩
    | .error e => .error (.transport e.message)

end Vouch
