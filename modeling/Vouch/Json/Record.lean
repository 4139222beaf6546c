import Vouch.Challenge
import Vouch.Identity
import Vouch.Json.Value
import Vouch.LogFormat
import Vouch.Mail

/-!
# Records as JSON

A record is an object with its fields in order, or an array of them; an absent value is `null`.
Reading an object passes over unknown members and refuses a repeated one; a member whose value
may be absent may be missing.  Nothing is normalised or validated beyond the shape.
-/

namespace Vouch

namespace Json

/-- The fields of a record by name. -/
abbrev Fields := List (String × Json)

/-- The fields with the given names, from an object or from an array that has all of them. -/
def fields? (names : List String) : Json → Option Fields
  | .object members =>
    let known := members.filter fun member => names.contains member.1
    if (known.map (·.1)).Nodup then some known else none
  | .array items => if items.length = names.length then some (names.zip items) else none
  | _ => none

-- The value of a field that must be there.
def Fields.required {α : Type} (fields : Fields) (name : String) (read : Json → Option α) :
    Option α :=
  (fields.lookup name).bind read

-- A value that may be `null`.
def optional? {α : Type} (read : Json → Option α) : Json → Option (Option α)
  | .null => some none
  | j => (read j).map some

-- The value of a field that may be `null` or missing.
def Fields.optional {α : Type} (fields : Fields) (name : String) (read : Json → Option α) :
    Option (Option α) :=
  match fields.lookup name with
  | none => some none
  | some j => optional? read j

/-- The value of a field that may be missing and has a default. -/
def Fields.setting {α : Type} (fields : Fields) (name : String) (read : Json → Option α)
    (default : α) : Option α :=
  match fields.lookup name with
  | none => some default
  | some j => read j

def text? : Json → Option String
  | .text s => some s
  | _ => none

def bool? : Json → Option Bool
  | .bool b => some b
  | _ => none

def below? (bound : Nat) : Json → Option Nat
  | .number n => if n < bound then some n else none
  | _ => none

def word64? (j : Json) : Option UInt64 :=
  (j.below? UInt64.size).map UInt64.ofNat

def word32? (j : Json) : Option UInt32 :=
  (j.below? UInt32.size).map UInt32.ofNat

def ofWord64 (n : UInt64) : Json := .number n.toNat

def ofWord32 (n : UInt32) : Json := .number n.toNat

-- The items of an array, each read in the same way.
def list? {α : Type} (read : Json → Option α) : Json → Option (List α)
  | .array items => items.mapM read
  | _ => none

def ofList {α : Type} (encode : α → Json) (values : List α) : Json :=
  .array (values.map encode)

-- One of several values by its name, which may also be the only member of an object whose value is
-- `null`.
def oneOf? {α : Type} (values : List α) (name : α → String) : Json → Option α
  | .text s => values.find? fun value => name value = s
  | .object [(s, .null)] => values.find? fun value => name value = s
  | _ => none

def ofBytes (bs : Bytes) : Json :=
  .array (bs.map fun b => .number b.toNat)

def bytes? : Json → Option Bytes :=
  list? fun j => (j.below? 256).map UInt8.ofNat

end Json

open Json

namespace Channel

def all : List Channel := [.email]

def toJson (channel : Channel) : Json := .text channel.name

def ofJson? : Json → Option Channel := oneOf? all name

end Channel

namespace AddressStatus

/-- All statuses, in the order of their stored numbers. -/
def all : List AddressStatus := [.unverified, .pending, .completed, .expiredAttempt]

def toJson (status : AddressStatus) : Json := .text status.name

def ofJson? : Json → Option AddressStatus := oneOf? all name

end AddressStatus

namespace ChallengeState

/-- All states, in the order of their stored numbers. -/
def all : List ChallengeState := [.active, .completed, .expired]

def toJson (state : ChallengeState) : Json := .text state.name

def ofJson? : Json → Option ChallengeState := oneOf? all name

end ChallengeState

namespace ExpiredReason

/-- All reasons, in the order of their stored numbers. -/
def all : List ExpiredReason := [.elapsed, .superseded, .attemptsExhausted, .addressChanged]

def toJson (reason : ExpiredReason) : Json := .text reason.name

def ofJson? : Json → Option ExpiredReason := oneOf? all name

end ExpiredReason

namespace MessageStatus

/-- All statuses, in the order of their stored numbers. -/
def all : List MessageStatus := [.queued, .sent]

def toJson (status : MessageStatus) : Json := .text status.name

def ofJson? : Json → Option MessageStatus := oneOf? all name

end MessageStatus

namespace LogFormat

/-- All formats, in the order of their stored numbers. -/
def all : List LogFormat := [.human, .json]

def toJson (format : LogFormat) : Json := .text format.name

def ofJson? : Json → Option LogFormat := oneOf? all name

end LogFormat

namespace Timestamp

def toJson (t : Timestamp) : Json := ofWord64 t.secs

def ofJson? (j : Json) : Option Timestamp := (word64? j).map Timestamp.mk

end Timestamp

namespace Id

variable {kind : IdKind}

def toJson (id : Id kind) : Json := Json.ofBytes id.bytes

def ofJson? (j : Json) : Option (Id kind) :=
  (bytes? j).bind fun bs => (Id.ofBytes kind bs).toOption

end Id

namespace IdentityId

def toJson (id : IdentityId) : Json := .text id.name

def ofJson? (j : Json) : Option IdentityId := (text? j).map IdentityId.mk

end IdentityId

namespace Contact

def toJson (value : Contact) : Json := .text value.text

def ofJson? (j : Json) : Option Contact := (text? j).map Contact.mk

end Contact

namespace DeclaredAddress

def toJson (declared : DeclaredAddress) : Json :=
  .object [("via", declared.channel.toJson), ("value", declared.value.toJson)]

def ofJson? (j : Json) : Option DeclaredAddress := do
  let fields ← fields? ["via", "value"] j
  let channel ← fields.required "via" Channel.ofJson?
  let value ← fields.required "value" Contact.ofJson?
  return { channel, value }

end DeclaredAddress

namespace Traits

def toJson (traits : Traits) : Json :=
  .object [("addresses", ofList DeclaredAddress.toJson traits.addresses)]

def ofJson? (j : Json) : Option Traits := do
  let fields ← fields? ["addresses"] j
  let addresses ← fields.required "addresses" (list? DeclaredAddress.ofJson?)
  return { addresses }

end Traits

namespace Identity

def toJson (identity : Identity) : Json :=
  .object [("id", identity.id.toJson), ("traits", identity.traits.toJson)]

def ofJson? (j : Json) : Option Identity := do
  let fields ← fields? ["id", "traits"] j
  let id ← fields.required "id" IdentityId.ofJson?
  let traits ← fields.required "traits" Traits.ofJson?
  return { id, traits }

end Identity

namespace Policy

def toJson (policy : Policy) : Json :=
  .object [
    ("challenge_lifespan_secs", ofWord64 policy.challengeLifespan),
    ("flow_lifespan_secs", ofWord64 policy.flowLifespan),
    ("max_attempts", ofOption ofWord32 policy.maxAttempts)]

def ofJson? (j : Json) : Option Policy := do
  let fields ← fields? ["challenge_lifespan_secs", "flow_lifespan_secs", "max_attempts"] j
  let challengeLifespan ← fields.required "challenge_lifespan_secs" word64?
  let flowLifespan ← fields.required "flow_lifespan_secs" word64?
  let maxAttempts ← fields.optional "max_attempts" word32?
  return { challengeLifespan, flowLifespan, maxAttempts }

end Policy

namespace Address

def fieldNames : List String :=
  ["id", "identity_id", "via", "value", "status", "verified", "verified_at", "created_at",
    "updated_at"]

def toJson (a : Address) : Json :=
  .object [
    ("id", a.id.toJson),
    ("identity_id", a.identity.toJson),
    ("via", a.channel.toJson),
    ("value", a.value.toJson),
    ("status", a.status.toJson),
    ("verified", .bool a.verified),
    ("verified_at", ofOption Timestamp.toJson a.verifiedAt),
    ("created_at", a.createdAt.toJson),
    ("updated_at", a.updatedAt.toJson)]

def ofJson? (j : Json) : Option Address := do
  let fields ← fields? fieldNames j
  let id ← fields.required "id" Id.ofJson?
  let identity ← fields.required "identity_id" IdentityId.ofJson?
  let channel ← fields.required "via" Channel.ofJson?
  let value ← fields.required "value" Contact.ofJson?
  let status ← fields.required "status" AddressStatus.ofJson?
  let verified ← fields.required "verified" bool?
  let verifiedAt ← fields.optional "verified_at" Timestamp.ofJson?
  let createdAt ← fields.required "created_at" Timestamp.ofJson?
  let updatedAt ← fields.required "updated_at" Timestamp.ofJson?
  return {
    id, identity, channel, value, status, verified, verifiedAt, createdAt, updatedAt }

end Address

namespace Challenge

def fieldNames : List String :=
  ["id", "address_id", "identity_id", "via", "address_value", "token", "code", "issued_at",
    "expires_at", "flow_expires_at", "state", "expired_reason", "attempts_remaining",
    "completed_at"]

def toJson (c : Challenge) : Json :=
  .object [
    ("id", c.id.toJson),
    ("address_id", c.address.toJson),
    ("identity_id", c.identity.toJson),
    ("via", c.channel.toJson),
    ("address_value", c.value.toJson),
    ("token", .text c.token),
    ("code", .text c.code),
    ("issued_at", c.issuedAt.toJson),
    ("expires_at", c.expiresAt.toJson),
    ("flow_expires_at", c.flowExpiresAt.toJson),
    ("state", c.state.toJson),
    ("expired_reason", ofOption ExpiredReason.toJson c.expiredReason),
    ("attempts_remaining", ofOption ofWord32 c.attemptsRemaining),
    ("completed_at", ofOption Timestamp.toJson c.completedAt)]

def ofJson? (j : Json) : Option Challenge := do
  let fields ← fields? fieldNames j
  let id ← fields.required "id" Id.ofJson?
  let address ← fields.required "address_id" Id.ofJson?
  let identity ← fields.required "identity_id" IdentityId.ofJson?
  let channel ← fields.required "via" Channel.ofJson?
  let value ← fields.required "address_value" Contact.ofJson?
  let token ← fields.required "token" text?
  let code ← fields.required "code" text?
  let issuedAt ← fields.required "issued_at" Timestamp.ofJson?
  let expiresAt ← fields.required "expires_at" Timestamp.ofJson?
  let flowExpiresAt ← fields.required "flow_expires_at" Timestamp.ofJson?
  let state ← fields.required "state" ChallengeState.ofJson?
  let expiredReason ← fields.optional "expired_reason" ExpiredReason.ofJson?
  let attemptsRemaining ← fields.optional "attempts_remaining" word32?
  let completedAt ← fields.optional "completed_at" Timestamp.ofJson?
  return {
    id, address, identity, channel, value, token, code, issuedAt, expiresAt, flowExpiresAt,
    state, expiredReason, attemptsRemaining, completedAt }

end Challenge

namespace Mail

def toJson (mail : Mail) : Json :=
  let content :=
    match mail with
    | .verification recipient url code =>
      [("to", recipient.toJson), ("verification_url", .text url), ("code", .text code)]
    | .unknownAddress recipient => [("to", recipient.toJson)]
  .object [(mail.kind, .object content)]

def ofJson? : Json → Option Mail
  | .object [("verification_valid", content)] => do
    let fields ← fields? ["to", "verification_url", "code"] content
    let recipient ← fields.required "to" Contact.ofJson?
    let url ← fields.required "verification_url" text?
    let code ← fields.required "code" text?
    return .verification recipient url code
  | .object [("verification_invalid", content)] => do
    let fields ← fields? ["to"] content
    let recipient ← fields.required "to" Contact.ofJson?
    return .unknownAddress recipient
  | _ => none

end Mail

namespace QueuedMessage

def toJson (message : QueuedMessage) : Json :=
  .object [
    ("id", ofWord64 message.id),
    ("template", message.mail.toJson),
    ("status", message.status.toJson),
    ("created_at", message.createdAt.toJson)]

def ofJson? (j : Json) : Option QueuedMessage := do
  let fields ← fields? ["id", "template", "status", "created_at"] j
  let id ← fields.required "id" word64?
  let mail ← fields.required "template" Mail.ofJson?
  let status ← fields.required "status" MessageStatus.ofJson?
  let createdAt ← fields.required "created_at" Timestamp.ofJson?
  return { id, mail, status, createdAt }

end QueuedMessage

end Vouch
