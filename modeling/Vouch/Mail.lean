import Vouch.Contact
import Vouch.Time

/-!
# Mail

The two messages that are sent, and the queue entries that wait for delivery.
-/

namespace Vouch

/-- A message to be sent, with the data its text needs. -/
inductive Mail where
  -- The link to a flow and the code to enter there, for the owner of an address.
  | verification (recipient : Contact) (url : String) (code : String)
  -- A notice that someone asked to verify an address nobody has declared.
  | unknownAddress (recipient : Contact)
  deriving DecidableEq, Repr

namespace Mail

def recipient : Mail → Contact
  | .verification recipient _ _ => recipient
  | .unknownAddress recipient => recipient

/-- The name of the message's template. -/
def kind : Mail → String
  | .verification .. => "verification_valid"
  | .unknownAddress .. => "verification_invalid"

end Mail

/-- Whether a message has been delivered. -/
inductive MessageStatus where
  | queued
  | sent
  deriving DecidableEq, Repr

def MessageStatus.name : MessageStatus → String
  | .queued => "queued"
  | .sent => "sent"

/-- A message in the outbox. -/
structure QueuedMessage where
  -- The position in the outbox, counted from one.
  id : UInt64
  mail : Mail
  status : MessageStatus
  createdAt : Timestamp
  deriving DecidableEq, Repr

/-- Why a transport did not take a message. -/
inductive MailError where
  | transport (reason : String)
  | rejected (reason : String)
  deriving DecidableEq, Repr

def MailError.message : MailError → String
  | .transport reason => "mail transport error: " ++ reason
  | .rejected reason => "message rejected: " ++ reason

end Vouch
