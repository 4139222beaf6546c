import Vouch.Binary.Record

/-!
# Stored records read back

A codec reads a value back if its decoder, given the encoding and whatever follows, returns the
value and what follows.  Each combinator passes this on from its parts.  Lengths are written in 64
bits, so a text reads back if it is shorter than that allows; nothing else can go wrong.
-/

namespace Vouch

namespace Binary.Codec

variable {α β : Type}

/-- The decoder returns the value, and what followed its encoding. -/
def ReadsBack (c : Codec α) (a : α) : Prop :=
  ∀ rest, c.decode (c.encode a ++ rest) = some (a, rest)

theorem splitAt?_append {n : Nat} {bs : Bytes} (h : bs.length = n) (rest : Bytes) :
    splitAt? n (bs ++ rest) = some (bs, rest) := by
  subst h
  rw [splitAt?, if_pos (by simp), List.splitAt_eq, List.take_left, List.drop_left]

theorem natural_readsBack {width n : Nat} (h : n < Nat.pow 256 width) :
    (natural width).ReadsBack n := by
  intro rest
  simp only [natural, splitAt?_append (Bytes.length_littleEndian width n), Option.map_some,
    Bytes.ofLittleEndian_littleEndian, Nat.mod_eq_of_lt h]

theorem map_readsBack {c : Codec α} {into : α → β} {back : β → α} {b : β}
    (h : c.ReadsBack (back b)) (hb : into (back b) = b) : (c.map into back).ReadsBack b := by
  intro rest
  simp only [map, h rest, Option.map_some, hb]

theorem filterMap_readsBack {c : Codec α} {into : α → Option β} {back : β → α} {b : β}
    (h : c.ReadsBack (back b)) (hb : into (back b) = some b) :
    (c.filterMap into back).ReadsBack b := by
  intro rest
  simp only [filterMap, h rest, hb, Option.map_some]

theorem pair_readsBack {c : Codec α} {d : Codec β} {a : α} {b : β} (ha : c.ReadsBack a)
    (hb : d.ReadsBack b) : (c.pair d).ReadsBack (a, b) := by
  intro rest
  simp only [pair, List.append_assoc, ha (d.encode b ++ rest), hb rest]

theorem word32_readsBack (n : UInt32) : word32.ReadsBack n :=
  map_readsBack (natural_readsBack n.toNat_lt) UInt32.ofNat_toNat

theorem word64_readsBack (n : UInt64) : word64.ReadsBack n :=
  map_readsBack (natural_readsBack n.toNat_lt) UInt64.ofNat_toNat

theorem bool_readsBack (b : Bool) : bool.ReadsBack b := by
  cases b
  · exact filterMap_readsBack (natural_readsBack (by decide)) rfl
  · exact filterMap_readsBack (natural_readsBack (by decide)) rfl

theorem bytes_readsBack {size : Nat} (bs : { bs : Bytes // bs.length = size }) :
    (bytes size).ReadsBack bs := by
  intro rest
  obtain ⟨bs, h⟩ := bs
  subst h
  simp [bytes]

-- A text whose length fits in 64 bits reads back.
theorem text_readsBack {s : String} (h : (Bytes.ofText s).length < UInt64.size) :
    text.ReadsBack s := by
  intro rest
  have hlength : (natural 8).ReadsBack (Bytes.ofText s).length := natural_readsBack h
  simp only [text, List.append_assoc, hlength (Bytes.ofText s ++ rest), splitAt?_append rfl,
    Bytes.toText?_ofText, Option.map_some]

theorem option_readsBack {c : Codec α} {o : Option α} (h : ∀ a, o = some a → c.ReadsBack a) :
    (option c).ReadsBack o := by
  intro rest
  cases o with
  | none => rfl
  | some a =>
    show ((c.decode (c.encode a ++ rest)).map _) = _
    rw [h a rfl rest]
    rfl

-- Values that read back one by one read back one after the other.
theorem decodeMany_flatMap {c : Codec α} {as : List α} (h : ∀ a ∈ as, c.ReadsBack a)
    (rest : Bytes) : decodeMany c as.length (as.flatMap c.encode ++ rest) = some (as, rest) := by
  induction as with
  | nil => rfl
  | cons a as ih =>
    simp only [List.length_cons, List.flatMap_cons, List.append_assoc, decodeMany,
      h a List.mem_cons_self (as.flatMap c.encode ++ rest),
      ih fun b hb => h b (List.mem_cons_of_mem _ hb), Option.map_some]

theorem list_readsBack {c : Codec α} {as : List α} (hlength : as.length < UInt64.size)
    (h : ∀ a ∈ as, c.ReadsBack a) : (list c).ReadsBack as := by
  intro rest
  have hnumber : (natural 8).ReadsBack as.length := natural_readsBack hlength
  simp only [list, List.append_assoc, hnumber (as.flatMap c.encode ++ rest),
    decodeMany_flatMap h rest]

-- A listed value is found again under its number.
theorem oneOf_readsBack [DecidableEq α] {values : List α} {a : α} (ha : a ∈ values)
    (hsize : values.length < UInt32.size) : (oneOf values).ReadsBack a := by
  have hidx := List.idxOf_lt_length_of_mem ha
  apply filterMap_readsBack
  · exact natural_readsBack (Nat.lt_trans hidx hsize)
  · rw [List.getElem?_eq_getElem hidx, List.getElem_idxOf]

theorem decodeStart?_encode {c : Codec α} {a : α} (h : c.ReadsBack a) :
    c.decodeStart? (c.encode a) = some a := by
  have hnil := h []
  rw [List.append_nil] at hnil
  rw [decodeStart?, hnil]
  rfl

end Binary.Codec

open Binary.Codec

theorem Channel.codec_readsBack (channel : Channel) : Channel.codec.ReadsBack channel :=
  oneOf_readsBack (by cases channel; decide) (by decide)

theorem AddressStatus.codec_readsBack (status : AddressStatus) :
    AddressStatus.codec.ReadsBack status :=
  oneOf_readsBack (by cases status <;> decide) (by decide)

theorem ChallengeState.codec_readsBack (state : ChallengeState) :
    ChallengeState.codec.ReadsBack state :=
  oneOf_readsBack (by cases state <;> decide) (by decide)

theorem ExpiredReason.codec_readsBack (reason : ExpiredReason) :
    ExpiredReason.codec.ReadsBack reason :=
  oneOf_readsBack (by cases reason <;> decide) (by decide)

theorem Timestamp.codec_readsBack (t : Timestamp) : Timestamp.codec.ReadsBack t :=
  map_readsBack (word64_readsBack t.secs) rfl

theorem Id.codec_readsBack {kind : IdKind} (id : Id kind) : (Id.codec kind).ReadsBack id :=
  map_readsBack (bytes_readsBack _) rfl

/-- Whether the length of a text fits in 64 bits, as that of every text in memory does. -/
def TextFits (s : String) : Prop := (Bytes.ofText s).length < UInt64.size

theorem IdentityId.codec_readsBack {id : IdentityId} (h : TextFits id.name) :
    IdentityId.codec.ReadsBack id :=
  map_readsBack (text_readsBack h) rfl

theorem Contact.codec_readsBack {value : Contact} (h : TextFits value.text) :
    Contact.codec.ReadsBack value :=
  map_readsBack (text_readsBack h) rfl

theorem DeclaredAddress.codec_readsBack {declared : DeclaredAddress}
    (h : TextFits declared.value.text) : DeclaredAddress.codec.ReadsBack declared :=
  map_readsBack (pair_readsBack (Channel.codec_readsBack _) (Contact.codec_readsBack h)) rfl

/-- Whether the number of declarations and the lengths of their texts fit. -/
structure Traits.TextsFit (traits : Traits) : Prop where
  number : traits.addresses.length < UInt64.size
  values : ∀ declared ∈ traits.addresses, TextFits declared.value.text

theorem Traits.codec_readsBack {traits : Traits} (h : traits.TextsFit) :
    Traits.codec.ReadsBack traits :=
  map_readsBack (list_readsBack h.number fun declared hdeclared =>
    DeclaredAddress.codec_readsBack (h.values declared hdeclared)) rfl

theorem Identity.codec_readsBack {i : Identity} (hname : TextFits i.id.name)
    (htraits : i.traits.TextsFit) : Identity.codec.ReadsBack i :=
  map_readsBack
    (pair_readsBack (IdentityId.codec_readsBack hname) (Traits.codec_readsBack htraits)) rfl

structure Address.TextsFit (a : Address) : Prop where
  identity : TextFits a.identity.name
  value : TextFits a.value.text

theorem Address.codec_readsBack {a : Address} (h : a.TextsFit) : Address.codec.ReadsBack a := by
  refine map_readsBack ?_ rfl
  refine pair_readsBack (Id.codec_readsBack _) ?_
  refine pair_readsBack (IdentityId.codec_readsBack h.identity) ?_
  refine pair_readsBack (Channel.codec_readsBack _) ?_
  refine pair_readsBack (Contact.codec_readsBack h.value) ?_
  refine pair_readsBack (AddressStatus.codec_readsBack _) ?_
  refine pair_readsBack (bool_readsBack _) ?_
  refine pair_readsBack (option_readsBack fun t _ => Timestamp.codec_readsBack t) ?_
  exact pair_readsBack (Timestamp.codec_readsBack _) (Timestamp.codec_readsBack _)

structure Challenge.TextsFit (c : Challenge) : Prop where
  identity : TextFits c.identity.name
  value : TextFits c.value.text
  token : TextFits c.token
  code : TextFits c.code

theorem Challenge.codec_readsBack {c : Challenge} (h : c.TextsFit) :
    Challenge.codec.ReadsBack c := by
  refine map_readsBack ?_ rfl
  refine pair_readsBack (Id.codec_readsBack _) ?_
  refine pair_readsBack (Id.codec_readsBack _) ?_
  refine pair_readsBack (IdentityId.codec_readsBack h.identity) ?_
  refine pair_readsBack (Channel.codec_readsBack _) ?_
  refine pair_readsBack (Contact.codec_readsBack h.value) ?_
  refine pair_readsBack (text_readsBack h.token) ?_
  refine pair_readsBack (text_readsBack h.code) ?_
  refine pair_readsBack (Timestamp.codec_readsBack _) ?_
  refine pair_readsBack (Timestamp.codec_readsBack _) ?_
  refine pair_readsBack (Timestamp.codec_readsBack _) ?_
  refine pair_readsBack (ChallengeState.codec_readsBack _) ?_
  refine pair_readsBack (option_readsBack fun reason _ => ExpiredReason.codec_readsBack reason) ?_
  exact pair_readsBack (option_readsBack fun n _ => word32_readsBack n)
    (option_readsBack fun t _ => Timestamp.codec_readsBack t)

theorem MessageStatus.codec_readsBack (status : MessageStatus) :
    MessageStatus.codec.ReadsBack status :=
  oneOf_readsBack (by cases status <;> decide) (by decide)

/-- Whether the lengths of all texts of a mail fit. -/
def Mail.TextsFit : Mail → Prop
  | .verification recipient url code => TextFits recipient.text ∧ TextFits url ∧ TextFits code
  | .unknownAddress recipient => TextFits recipient.text

theorem Mail.codec_readsBack {mail : Mail} (h : mail.TextsFit) : Mail.codec.ReadsBack mail := by
  intro rest
  -- first the number of the template is read, then what belongs to it
  cases mail with
  | verification recipient url code =>
    obtain ⟨hrecipient, hurl, hcode⟩ := h
    have hparts := pair_readsBack (Contact.codec_readsBack hrecipient)
      (pair_readsBack (text_readsBack hurl) (text_readsBack hcode)) rest
    have hnumber : (natural 4).ReadsBack 0 := natural_readsBack (by decide)
    simp only [Mail.codec, List.append_assoc, hnumber _, hparts, Option.map_some]
  | unknownAddress recipient =>
    have hrecipient := Contact.codec_readsBack h rest
    have hnumber : (natural 4).ReadsBack 1 := natural_readsBack (by decide)
    simp only [Mail.codec, List.append_assoc, hnumber _, hrecipient, Option.map_some]

theorem QueuedMessage.codec_readsBack {message : QueuedMessage} (h : message.mail.TextsFit) :
    QueuedMessage.codec.ReadsBack message := by
  refine map_readsBack ?_ rfl
  refine pair_readsBack (word64_readsBack _) ?_
  refine pair_readsBack (Mail.codec_readsBack h) ?_
  exact pair_readsBack (MessageStatus.codec_readsBack _) (Timestamp.codec_readsBack _)

end Vouch
