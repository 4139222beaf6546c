import Vouch.Contact
import Vouch.Status
import Vouch.Time

/-!
# Verifiable addresses

An identity holds at most one address per channel, in its slot for that channel.  Editing the
declared value rebinds the record in the slot; a second record never appears.
-/

namespace Vouch

/-- The place an identity has for its address on a channel. -/
structure Slot where
  identity : IdentityId
  channel : Channel
  deriving DecidableEq, Repr

/-- An address that is trusted only after proof of control. -/
structure Address where
  id : AddressId
  identity : IdentityId
  channel : Channel
  value : Contact
  status : AddressStatus
  -- True only after a challenge for the current value was completed.
  verified : Bool
  -- The first successful verification; later edits keep it.
  verifiedAt : Option Timestamp
  createdAt : Timestamp
  updatedAt : Timestamp
  deriving DecidableEq, Repr

namespace Address

def fresh (id : AddressId) (slot : Slot) (value : Contact) (now : Timestamp) : Address where
  id
  identity := slot.identity
  channel := slot.channel
  value
  status := .unverified
  verified := false
  verifiedAt := none
  createdAt := now
  updatedAt := now

def slot (a : Address) : Slot := ⟨a.identity, a.channel⟩

/-- Points the record at a new value.  Trust does not carry over. -/
def rebind (a : Address) (value : Contact) (now : Timestamp) : Address :=
  { a with value, verified := false, status := .unverified, updatedAt := now }

def markPending (a : Address) (now : Timestamp) : Address :=
  { a with status := if a.verified then a.status else .pending, updatedAt := now }

/-- Notes that a challenge for `value` can no longer be completed.  That means nothing for a
verified address, nor if the record has another value by now. -/
def markAttemptExpired (a : Address) (value : Contact) (now : Timestamp) : Address :=
  if a.verified ∨ value ≠ a.value then a
  else { a with status := .expiredAttempt, updatedAt := now }

def markVerified (a : Address) (now : Timestamp) : Address :=
  { a with
    verified := true
    status := .completed
    verifiedAt := some (a.verifiedAt.getD now)
    updatedAt := now }

@[simp] theorem id_rebind (a : Address) (value : Contact) (now : Timestamp) :
    (a.rebind value now).id = a.id := rfl

@[simp] theorem id_markPending (a : Address) (now : Timestamp) :
    (a.markPending now).id = a.id := rfl

@[simp] theorem id_markVerified (a : Address) (now : Timestamp) :
    (a.markVerified now).id = a.id := rfl

@[simp] theorem id_markAttemptExpired (a : Address) (value : Contact) (now : Timestamp) :
    (a.markAttemptExpired value now).id = a.id := by
  unfold markAttemptExpired
  split <;> rfl

@[simp] theorem value_markAttemptExpired (a : Address) (value : Contact) (now : Timestamp) :
    (a.markAttemptExpired value now).value = a.value := by
  unfold markAttemptExpired
  split <;> rfl

end Address

end Vouch
