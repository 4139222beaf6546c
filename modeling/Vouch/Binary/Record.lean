import Vouch.Binary.Codec
import Vouch.Json.Record

/-!
# Records as bytes

The stored form of every record: its fields one after the other, without names or padding.
-/

namespace Vouch

open Binary

def Channel.codec : Codec Channel := .oneOf Channel.all

def AddressStatus.codec : Codec AddressStatus := .oneOf AddressStatus.all

def ChallengeState.codec : Codec ChallengeState := .oneOf ChallengeState.all

def ExpiredReason.codec : Codec ExpiredReason := .oneOf ExpiredReason.all

def MessageStatus.codec : Codec MessageStatus := .oneOf MessageStatus.all

def LogFormat.codec : Codec LogFormat := .oneOf LogFormat.all

def Timestamp.codec : Codec Timestamp := Codec.word64.map Timestamp.mk Timestamp.secs

def Id.codec (kind : IdKind) : Codec (Id kind) :=
  (Codec.bytes 16).map (fun bs => ⟨bs.1, bs.2⟩) fun id => ⟨id.bytes, id.length_bytes⟩

def IdentityId.codec : Codec IdentityId := Codec.text.map IdentityId.mk IdentityId.name

def Contact.codec : Codec Contact := Codec.text.map Contact.mk Contact.text

def DeclaredAddress.codec : Codec DeclaredAddress :=
  (Channel.codec.pair Contact.codec).map (fun (channel, value) => { channel, value })
    fun declared => (declared.channel, declared.value)

def Traits.codec : Codec Traits :=
  (Codec.list DeclaredAddress.codec).map Traits.mk Traits.addresses

def Identity.codec : Codec Identity :=
  (IdentityId.codec.pair Traits.codec).map (fun (id, traits) => { id, traits })
    fun identity => (identity.id, identity.traits)

def Policy.codec : Codec Policy :=
  (Codec.word64.pair (Codec.word64.pair (.option .word32))).map
    (fun (challengeLifespan, flowLifespan, maxAttempts) =>
      { challengeLifespan, flowLifespan, maxAttempts })
    fun policy => (policy.challengeLifespan, policy.flowLifespan, policy.maxAttempts)

def Address.codec : Codec Address :=
  ((Id.codec .address).pair <|
    IdentityId.codec.pair <|
    Channel.codec.pair <|
    Contact.codec.pair <|
    AddressStatus.codec.pair <|
    Codec.bool.pair <|
    (Codec.option Timestamp.codec).pair <|
    Timestamp.codec.pair Timestamp.codec).map
    (fun (id, identity, channel, value, status, verified, verifiedAt, createdAt, updatedAt) =>
      { id, identity, channel, value, status, verified, verifiedAt, createdAt, updatedAt })
    fun a =>
      (a.id, a.identity, a.channel, a.value, a.status, a.verified, a.verifiedAt, a.createdAt,
        a.updatedAt)

def Challenge.codec : Codec Challenge :=
  ((Id.codec .flow).pair <|
    (Id.codec .address).pair <|
    IdentityId.codec.pair <|
    Channel.codec.pair <|
    Contact.codec.pair <|
    Codec.text.pair <|
    Codec.text.pair <|
    Timestamp.codec.pair <|
    Timestamp.codec.pair <|
    Timestamp.codec.pair <|
    ChallengeState.codec.pair <|
    (Codec.option ExpiredReason.codec).pair <|
    (Codec.option Codec.word32).pair (Codec.option Timestamp.codec)).map
    (fun (id, address, identity, channel, value, token, code, issuedAt, expiresAt, flowExpiresAt,
        state, expiredReason, attemptsRemaining, completedAt) =>
      { id, address, identity, channel, value, token, code, issuedAt, expiresAt, flowExpiresAt,
        state, expiredReason, attemptsRemaining, completedAt })
    fun c =>
      (c.id, c.address, c.identity, c.channel, c.value, c.token, c.code, c.issuedAt, c.expiresAt,
        c.flowExpiresAt, c.state, c.expiredReason, c.attemptsRemaining, c.completedAt)

/-- The stored form of a message: the number of its template, then what that template needs. -/
def Mail.codec : Codec Mail where
  encode
    | .verification recipient url code =>
      (Codec.natural 4).encode 0 ++
        (Contact.codec.pair (Codec.text.pair Codec.text)).encode (recipient, url, code)
    | .unknownAddress recipient => (Codec.natural 4).encode 1 ++ Contact.codec.encode recipient
  decode bs :=
    match (Codec.natural 4).decode bs with
    | some (0, rest) =>
      ((Contact.codec.pair (Codec.text.pair Codec.text)).decode rest).map
        fun ((recipient, url, code), rest) => (.verification recipient url code, rest)
    | some (1, rest) =>
      (Contact.codec.decode rest).map fun (recipient, rest) => (.unknownAddress recipient, rest)
    | _ => none

def QueuedMessage.codec : Codec QueuedMessage :=
  (Codec.word64.pair (Mail.codec.pair (MessageStatus.codec.pair Timestamp.codec))).map
    (fun (id, mail, status, createdAt) => { id, mail, status, createdAt })
    fun message => (message.id, message.mail, message.status, message.createdAt)

end Vouch
