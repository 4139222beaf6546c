import Vouch.Binary.Record

/-!
# The form of stored records

What a record consists of, apart from how it is written: numbers and texts, values that may be
absent, alternatives, lists, and fields one after the other.  One rule says which bytes each of
these becomes.  The codec of every stored record writes its fields in their order by that rule.
-/

namespace Vouch

namespace Binary

/-- What is to be written. -/
inductive Datum where
  | bool (b : Bool)
  | byte (b : UInt8)
  | word32 (n : UInt32)
  | word64 (n : UInt64)
  | text (s : String)
  | absent
  | present (d : Datum)
  -- An alternative by its number, and what belongs to it.
  | alternative (number : UInt32) (fields : List Datum)
  -- Fields of fixed number.
  | record (fields : List Datum)
  | list (items : List Datum)

mutual

/-- Numbers have a fixed width and their lowest byte first.  One byte says whether something is
true or there; an alternative begins with its number in 32 bits, a text or a list with its length
in 64. -/
def Datum.bytes : Datum → Bytes
  | .bool b => [if b then 1 else 0]
  | .byte b => [b]
  | .word32 n => Bytes.littleEndian 4 n.toNat
  | .word64 n => Bytes.littleEndian 8 n.toNat
  | .text s => Bytes.littleEndian 8 (Bytes.ofText s).length ++ Bytes.ofText s
  | .absent => [0]
  | .present d => 1 :: d.bytes
  | .alternative number fields => Bytes.littleEndian 4 number.toNat ++ Datum.allBytes fields
  | .record fields => Datum.allBytes fields
  | .list items => Bytes.littleEndian 8 items.length ++ Datum.allBytes items

-- The bytes of one thing after the other.
def Datum.allBytes : List Datum → Bytes
  | [] => []
  | d :: rest => d.bytes ++ Datum.allBytes rest

end

section Datum

variable (d : Datum) (ds : List Datum)

theorem Datum.allBytes_cons : Datum.allBytes (d :: ds) = d.bytes ++ Datum.allBytes ds := rfl

theorem Datum.allBytes_singleton : Datum.allBytes [d] = d.bytes := List.append_nil _

theorem Datum.bytes_present : (Datum.present d).bytes = 1 :: d.bytes := rfl

theorem Datum.bytes_alternative (number : UInt32) : (Datum.alternative number ds).bytes =
    Bytes.littleEndian 4 number.toNat ++ Datum.allBytes ds := rfl

theorem Datum.bytes_record : (Datum.record ds).bytes = Datum.allBytes ds := rfl

theorem Datum.bytes_list : (Datum.list ds).bytes =
    Bytes.littleEndian 8 ds.length ++ Datum.allBytes ds := rfl

theorem Datum.allBytes_eq_flatMap : Datum.allBytes ds = ds.flatMap bytes := by
  induction ds with
  | nil => rfl
  | cons d ds ih => rw [allBytes_cons, ih, List.flatMap_cons]

end Datum

/-- What may be absent. -/
def Datum.option {α : Type} (datum : α → Datum) : Option α → Datum
  | none => .absent
  | some a => .present (datum a)

end Binary

open Binary

/-! ## The parts of records -/

def Channel.datum : Channel → Datum
  | .email => .alternative 0 []

def AddressStatus.datum : AddressStatus → Datum
  | .unverified => .alternative 0 []
  | .pending => .alternative 1 []
  | .completed => .alternative 2 []
  | .expiredAttempt => .alternative 3 []

def ChallengeState.datum : ChallengeState → Datum
  | .active => .alternative 0 []
  | .completed => .alternative 1 []
  | .expired => .alternative 2 []

def ExpiredReason.datum : ExpiredReason → Datum
  | .elapsed => .alternative 0 []
  | .superseded => .alternative 1 []
  | .attemptsExhausted => .alternative 2 []
  | .addressChanged => .alternative 3 []

def MessageStatus.datum : MessageStatus → Datum
  | .queued => .alternative 0 []
  | .sent => .alternative 1 []

def Timestamp.datum (t : Timestamp) : Datum := .word64 t.secs

def Id.datum {kind : IdKind} (id : Id kind) : Datum := .record (id.bytes.map .byte)

def IdentityId.datum (id : IdentityId) : Datum := .text id.name

def Contact.datum (value : Contact) : Datum := .text value.text

def DeclaredAddress.datum (declared : DeclaredAddress) : Datum :=
  .record [declared.channel.datum, declared.value.datum]

def Traits.datum (traits : Traits) : Datum :=
  .record [.list (traits.addresses.map DeclaredAddress.datum)]

def Identity.datum (i : Identity) : Datum := .record [i.id.datum, i.traits.datum]

def Address.datum (a : Address) : Datum :=
  .record [a.id.datum, a.identity.datum, a.channel.datum, a.value.datum, a.status.datum,
    .bool a.verified, .option Timestamp.datum a.verifiedAt, a.createdAt.datum, a.updatedAt.datum]

def Challenge.datum (c : Challenge) : Datum :=
  .record [c.id.datum, c.address.datum, c.identity.datum, c.channel.datum, c.value.datum,
    .text c.token, .text c.code, c.issuedAt.datum, c.expiresAt.datum, c.flowExpiresAt.datum,
    c.state.datum, .option ExpiredReason.datum c.expiredReason,
    .option .word32 c.attemptsRemaining, .option Timestamp.datum c.completedAt]

def Mail.datum : Mail → Datum
  | .verification recipient url code => .alternative 0 [recipient.datum, .text url, .text code]
  | .unknownAddress recipient => .alternative 1 [recipient.datum]

def QueuedMessage.datum (message : QueuedMessage) : Datum :=
  .record [.word64 message.id, message.mail.datum, message.status.datum, message.createdAt.datum]

/-! ## Codecs write that form -/

namespace Binary.Codec

variable {α β : Type}

/-- The codec writes what the value consists of. -/
def Writes (c : Codec α) (datum : α → Datum) : Prop :=
  ∀ a, c.encode a = (datum a).bytes

/-- The codec writes fields one after the other. -/
def WritesFields (c : Codec α) (fields : α → List Datum) : Prop :=
  ∀ a, c.encode a = Datum.allBytes (fields a)

variable {c : Codec α} {d : Codec β} {datum : α → Datum} {fields : β → List Datum}

theorem Writes.single (h : c.Writes datum) : c.WritesFields fun a => [datum a] := fun a => by
  rw [Datum.allBytes_singleton, h a]

-- One field, then the others.
theorem Writes.pair (h : c.Writes datum) (h' : d.WritesFields fields) :
    (c.pair d).WritesFields fun p => datum p.1 :: fields p.2 := fun p => by
  rw [Datum.allBytes_cons, ← h p.1, ← h' p.2]
  rfl

theorem WritesFields.record {γ : Type} {into : β → γ} {back : γ → β} (h : d.WritesFields fields) :
    (d.map into back).Writes fun r => .record (fields (back r)) := fun r => by
  rw [Datum.bytes_record, ← h (back r)]
  rfl

theorem word32_writes : word32.Writes .word32 := fun _ => rfl

theorem word64_writes : word64.Writes .word64 := fun _ => rfl

theorem bool_writes : bool.Writes .bool := fun b => by
  cases b <;> rfl

theorem text_writes : text.Writes .text := fun _ => rfl

theorem option_writes (h : c.Writes datum) : (option c).Writes (.option datum) := by
  intro o
  cases o with
  | none => rfl
  | some a =>
    rw [Datum.option, Datum.bytes_present, ← h a]
    rfl

theorem list_writes (h : c.Writes datum) :
    (list c).Writes fun as => .list (as.map datum) := by
  intro as
  have hitems : as.flatMap c.encode = Datum.allBytes (as.map datum) := by
    rw [Datum.allBytes_eq_flatMap, List.flatMap_map, funext h]
  rw [Datum.bytes_list, ← hitems, List.length_map]
  rfl

-- The number of a value is its place among all values.
theorem oneOf_writes [DecidableEq α] {values : List α} (hsize : values.length < UInt32.size)
    (h : ∀ a, datum a = .alternative (UInt32.ofNat (values.idxOf a)) []) :
    (oneOf values).Writes datum := by
  intro a
  have hfits : values.idxOf a < UInt32.size := Nat.lt_of_le_of_lt List.idxOf_le_length hsize
  rw [h a, Datum.bytes_alternative, UInt32.toNat_ofNat_of_lt' hfits]
  exact (List.append_nil _).symm

end Binary.Codec

open Binary.Codec

theorem Channel.codec_writes : Channel.codec.Writes Channel.datum :=
  oneOf_writes (by decide) fun channel => by cases channel; rfl

theorem AddressStatus.codec_writes : AddressStatus.codec.Writes AddressStatus.datum :=
  oneOf_writes (by decide) fun status => by cases status <;> rfl

theorem ChallengeState.codec_writes : ChallengeState.codec.Writes ChallengeState.datum :=
  oneOf_writes (by decide) fun state => by cases state <;> rfl

theorem ExpiredReason.codec_writes : ExpiredReason.codec.Writes ExpiredReason.datum :=
  oneOf_writes (by decide) fun reason => by cases reason <;> rfl

theorem MessageStatus.codec_writes : MessageStatus.codec.Writes MessageStatus.datum :=
  oneOf_writes (by decide) fun status => by cases status <;> rfl

theorem Timestamp.codec_writes : Timestamp.codec.Writes Timestamp.datum := fun t =>
  word64_writes t.secs

theorem Id.codec_writes {kind : IdKind} : (Id.codec kind).Writes Id.datum := fun id => by
  have hbytes : ∀ bs : Bytes, Datum.allBytes (bs.map .byte) = bs := by
    intro bs
    rw [Datum.allBytes_eq_flatMap, List.flatMap_map]
    exact List.flatMap_singleton' bs
  rw [Id.datum, Datum.bytes_record, hbytes]
  rfl

theorem IdentityId.codec_writes : IdentityId.codec.Writes IdentityId.datum := fun id =>
  text_writes id.name

theorem Contact.codec_writes : Contact.codec.Writes Contact.datum := fun value =>
  text_writes value.text

theorem DeclaredAddress.codec_writes : DeclaredAddress.codec.Writes DeclaredAddress.datum :=
  (Channel.codec_writes.pair Contact.codec_writes.single).record

theorem Traits.codec_writes : Traits.codec.Writes Traits.datum :=
  (list_writes DeclaredAddress.codec_writes).single.record

theorem Identity.codec_writes : Identity.codec.Writes Identity.datum :=
  (IdentityId.codec_writes.pair Traits.codec_writes.single).record

theorem Address.codec_writes : Address.codec.Writes Address.datum :=
  (Id.codec_writes.pair <|
    IdentityId.codec_writes.pair <|
    Channel.codec_writes.pair <|
    Contact.codec_writes.pair <|
    AddressStatus.codec_writes.pair <|
    bool_writes.pair <|
    (option_writes Timestamp.codec_writes).pair <|
    Timestamp.codec_writes.pair Timestamp.codec_writes.single).record

theorem Challenge.codec_writes : Challenge.codec.Writes Challenge.datum :=
  (Id.codec_writes.pair <|
    Id.codec_writes.pair <|
    IdentityId.codec_writes.pair <|
    Channel.codec_writes.pair <|
    Contact.codec_writes.pair <|
    text_writes.pair <|
    text_writes.pair <|
    Timestamp.codec_writes.pair <|
    Timestamp.codec_writes.pair <|
    Timestamp.codec_writes.pair <|
    ChallengeState.codec_writes.pair <|
    (option_writes ExpiredReason.codec_writes).pair <|
    (option_writes word32_writes).pair (option_writes Timestamp.codec_writes).single).record

theorem Mail.codec_writes : Mail.codec.Writes Mail.datum := by
  intro mail
  cases mail with
  | verification recipient url code =>
    rw [Mail.datum, Datum.bytes_alternative,
      ← Contact.codec_writes.pair (text_writes.pair text_writes.single) (recipient, url, code)]
    rfl
  | unknownAddress recipient =>
    rw [Mail.datum, Datum.bytes_alternative, ← Contact.codec_writes.single recipient]
    rfl

theorem QueuedMessage.codec_writes : QueuedMessage.codec.Writes QueuedMessage.datum :=
  (word64_writes.pair <|
    Mail.codec_writes.pair <|
    MessageStatus.codec_writes.pair Timestamp.codec_writes.single).record

end Vouch
