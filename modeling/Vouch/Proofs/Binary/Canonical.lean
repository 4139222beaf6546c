import Vouch.Durable.Layout
import Vouch.Proofs.Binary.Format
import Vouch.Proofs.Binary.ReadBack

/-!
# Nothing else is read

A byte string is read as a record only if it begins with what is written for that record.  Each
combinator passes this on from its parts, and with the other direction, that what is written is
read back, it says exactly which byte strings are read and as what.
-/

namespace Vouch

namespace Binary.Codec

variable {α β : Type}

/-- What the decoder returns has a property, and stands at the beginning of what was read. -/
def ReadsOnly (c : Codec α) (Fits : α → Prop) : Prop :=
  ∀ ⦃bs a rest⦄, c.decode bs = some (a, rest) → Fits a ∧ bs = c.encode a ++ rest

variable {c : Codec α} {d : Codec β} {Fits : α → Prop} {Fits' : β → Prop}

theorem splitAt?_eq_some {n : Nat} {bs front rest : Bytes} (h : splitAt? n bs = some (front, rest)) :
    front.length = n ∧ bs = front ++ rest := by
  rw [splitAt?] at h
  split at h
  · rename_i hn
    rw [List.splitAt_eq] at h
    cases h
    exact ⟨List.length_take_of_le hn, (List.take_append_drop n bs).symm⟩
  · cases h

theorem ofLittleEndian_lt (bs : Bytes) : Bytes.ofLittleEndian bs < Nat.pow 256 bs.length := by
  induction bs with
  | nil => decide
  | cons b bs ih =>
    have hb := b.toNat_lt
    have hpow : Nat.pow 256 (b :: bs).length = 256 * Nat.pow 256 bs.length := Nat.mul_comm _ _
    rw [Bytes.ofLittleEndian, hpow]
    omega

theorem natural_readsOnly (width : Nat) :
    (natural width).ReadsOnly fun n => n < Nat.pow 256 width := by
  intro bs n rest h
  obtain ⟨⟨number, after⟩, hsplit, hread⟩ := Option.map_eq_some_iff.mp h
  obtain ⟨rfl, rfl⟩ := Prod.mk.inj hread
  obtain ⟨rfl, rfl⟩ := splitAt?_eq_some hsplit
  refine ⟨ofLittleEndian_lt number, ?_⟩
  show number ++ after = Bytes.littleEndian number.length (Bytes.ofLittleEndian number) ++ after
  rw [Bytes.littleEndian_ofLittleEndian]

theorem map_readsOnly {into : α → β} {back : β → α} (h : c.ReadsOnly Fits)
    (hback : ∀ a, Fits a → back (into a) = a ∧ Fits' (into a)) :
    (c.map into back).ReadsOnly Fits' := by
  intro bs b rest hread
  obtain ⟨⟨a, after⟩, hdecode, hresult⟩ := Option.map_eq_some_iff.mp hread
  obtain ⟨rfl, rfl⟩ := Prod.mk.inj hresult
  obtain ⟨hfits, hbs⟩ := h hdecode
  obtain ⟨hsame, hfits'⟩ := hback a hfits
  refine ⟨hfits', ?_⟩
  show bs = c.encode (back (into a)) ++ after
  rw [hsame, hbs]

theorem filterMap_readsOnly {into : α → Option β} {back : β → α} (h : c.ReadsOnly Fits)
    (hback : ∀ a b, Fits a → into a = some b → back b = a ∧ Fits' b) :
    (c.filterMap into back).ReadsOnly Fits' := by
  intro bs b rest hread
  simp only [filterMap] at hread
  split at hread
  · cases hread
  · rename_i a after hdecode
    obtain ⟨b', hinto, hresult⟩ := Option.map_eq_some_iff.mp hread
    obtain ⟨rfl, rfl⟩ := Prod.mk.inj hresult
    obtain ⟨hfits, hbs⟩ := h hdecode
    obtain ⟨hsame, hfits'⟩ := hback a b' hfits hinto
    refine ⟨hfits', ?_⟩
    show bs = c.encode (back b') ++ after
    rw [hsame, hbs]

theorem pair_readsOnly (h : c.ReadsOnly Fits) (h' : d.ReadsOnly Fits') :
    (c.pair d).ReadsOnly fun p => Fits p.1 ∧ Fits' p.2 := by
  intro bs p rest hread
  simp only [pair] at hread
  split at hread
  · cases hread
  · rename_i a after hfirst
    split at hread
    · cases hread
    · rename_i b after' hsecond
      cases hread
      obtain ⟨ha, rfl⟩ := h hfirst
      obtain ⟨hb, rfl⟩ := h' hsecond
      exact ⟨⟨ha, hb⟩, (List.append_assoc _ _ _).symm⟩

theorem word32_readsOnly : word32.ReadsOnly fun _ => True :=
  map_readsOnly (natural_readsOnly 4) fun _ hn => ⟨UInt32.toNat_ofNat_of_lt' hn, trivial⟩

theorem word64_readsOnly : word64.ReadsOnly fun _ => True :=
  map_readsOnly (natural_readsOnly 8) fun _ hn => ⟨UInt64.toNat_ofNat_of_lt' hn, trivial⟩

theorem bool_readsOnly : bool.ReadsOnly fun _ => True := by
  refine filterMap_readsOnly (natural_readsOnly 1) fun n b _ hb => ⟨?_, trivial⟩
  split at hb
  · rename_i hzero
    cases hb
    exact hzero.symm
  · split at hb
    · rename_i hone
      cases hb
      exact hone.symm
    · cases hb

theorem bytes_readsOnly (size : Nat) : (bytes size).ReadsOnly fun _ => True := by
  intro bs content rest h
  simp only [bytes] at h
  split at h
  · cases h
    exact ⟨trivial, (List.take_append_drop size bs).symm⟩
  · cases h

theorem text_readsOnly : text.ReadsOnly TextFits := by
  intro bs s rest h
  simp only [text] at h
  split at h
  · cases h
  · rename_i size after hsize
    split at h
    · cases h
    · rename_i content after' hcontent
      obtain ⟨s', htext, hresult⟩ := Option.map_eq_some_iff.mp h
      obtain ⟨rfl, rfl⟩ := Prod.mk.inj hresult
      obtain ⟨hfits, rfl⟩ := natural_readsOnly 8 hsize
      obtain ⟨rfl, rfl⟩ := splitAt?_eq_some hcontent
      have hbytes := Bytes.ofText_of_toText? htext
      refine ⟨?_, ?_⟩
      · rw [TextFits, hbytes]
        exact hfits
      · simp only [text, hbytes, List.append_assoc]

theorem option_readsOnly (h : c.ReadsOnly Fits) :
    (option c).ReadsOnly fun o => ∀ a, o = some a → Fits a := by
  intro bs o rest hread
  simp only [option] at hread
  split at hread
  · cases hread
    exact ⟨fun _ ha => (nomatch ha), rfl⟩
  · obtain ⟨⟨a, after⟩, hdecode, hresult⟩ := Option.map_eq_some_iff.mp hread
    obtain ⟨rfl, rfl⟩ := Prod.mk.inj hresult
    obtain ⟨ha, rfl⟩ := h hdecode
    exact ⟨fun _ hsome => Option.some.inj hsome ▸ ha, rfl⟩
  · cases hread

-- So many values are read as stand there, one after the other.
theorem decodeMany_eq_some (h : c.ReadsOnly Fits) {n : Nat} {bs rest : Bytes} {as : List α}
    (hread : decodeMany c n bs = some (as, rest)) :
    as.length = n ∧ (∀ a ∈ as, Fits a) ∧ bs = as.flatMap c.encode ++ rest := by
  induction n generalizing bs as with
  | zero =>
    cases hread
    exact ⟨rfl, fun _ ha => (nomatch ha), rfl⟩
  | succ n ih =>
    rw [decodeMany] at hread
    split at hread
    · cases hread
    · rename_i a after hfirst
      obtain ⟨⟨as', after'⟩, hmore, hresult⟩ := Option.map_eq_some_iff.mp hread
      obtain ⟨rfl, rfl⟩ := Prod.mk.inj hresult
      obtain ⟨ha, rfl⟩ := h hfirst
      obtain ⟨rfl, has, rfl⟩ := ih hmore
      refine ⟨rfl, List.forall_mem_cons.mpr ⟨ha, has⟩, ?_⟩
      rw [List.flatMap_cons, List.append_assoc]

theorem list_readsOnly (h : c.ReadsOnly Fits) :
    (list c).ReadsOnly fun as => as.length < UInt64.size ∧ ∀ a ∈ as, Fits a := by
  intro bs as rest hread
  simp only [list] at hread
  split at hread
  · cases hread
  · rename_i n after hn
    obtain ⟨hlt, rfl⟩ := natural_readsOnly 8 hn
    obtain ⟨rfl, has, rfl⟩ := decodeMany_eq_some h hread
    exact ⟨⟨hlt, has⟩, (List.append_assoc _ _ _).symm⟩

-- Each number stands for one value only.
theorem oneOf_readsOnly [DecidableEq α] {values : List α} (hnodup : values.Nodup) :
    (oneOf values).ReadsOnly fun _ => True := by
  refine filterMap_readsOnly (natural_readsOnly 4) fun n a _ ha => ⟨?_, trivial⟩
  obtain ⟨hn, rfl⟩ := List.getElem?_eq_some_iff.mp ha
  exact hnodup.idxOf_getElem n hn

/-! ## Codecs that read exactly what they write -/

/-- What is written is read back, whatever follows, and nothing else is read. -/
structure Exact (c : Codec α) (Fits : α → Prop) : Prop where
  readsBack : ∀ {a}, Fits a → c.ReadsBack a
  readsOnly : c.ReadsOnly Fits

namespace Exact

variable (h : c.Exact Fits) {a b : α} {bs rest : Bytes}
include h

theorem decode_eq_some_iff : c.decode bs = some (a, rest) ↔ Fits a ∧ bs = c.encode a ++ rest := by
  refine ⟨fun hread => h.readsOnly hread, ?_⟩
  rintro ⟨ha, rfl⟩
  exact h.readsBack ha rest

/-- A byte string is read as a value just if it begins with what is written for it. -/
theorem decodeStart?_eq_some_iff : c.decodeStart? bs = some a ↔ Fits a ∧ c.encode a <+: bs := by
  rw [decodeStart?, Option.map_eq_some_iff]
  constructor
  · rintro ⟨⟨b, rest⟩, hread, rfl⟩
    obtain ⟨hb, rfl⟩ := h.decode_eq_some_iff.mp hread
    exact ⟨hb, List.prefix_append _ _⟩
  · rintro ⟨ha, rest, rfl⟩
    exact ⟨(a, rest), h.readsBack ha rest, rfl⟩

/-- What is written for one value does not begin what is written for another. -/
theorem eq_of_begins (ha : Fits a) (hb : Fits b) (hbegins : c.encode a <+: c.encode b) :
    a = b := by
  have hread := h.decodeStart?_eq_some_iff.mpr ⟨ha, hbegins⟩
  rw [h.decodeStart?_eq_some_iff.mpr ⟨hb, List.prefix_rfl⟩] at hread
  exact (Option.some.inj hread).symm

end Exact

end Binary.Codec

open Binary.Codec

/-! ## The parts of records -/

theorem Channel.codec_readsOnly : Channel.codec.ReadsOnly fun _ => True :=
  oneOf_readsOnly (by decide)

theorem AddressStatus.codec_readsOnly : AddressStatus.codec.ReadsOnly fun _ => True :=
  oneOf_readsOnly (by decide)

theorem ChallengeState.codec_readsOnly : ChallengeState.codec.ReadsOnly fun _ => True :=
  oneOf_readsOnly (by decide)

theorem ExpiredReason.codec_readsOnly : ExpiredReason.codec.ReadsOnly fun _ => True :=
  oneOf_readsOnly (by decide)

theorem MessageStatus.codec_readsOnly : MessageStatus.codec.ReadsOnly fun _ => True :=
  oneOf_readsOnly (by decide)

theorem Timestamp.codec_readsOnly : Timestamp.codec.ReadsOnly fun _ => True :=
  map_readsOnly word64_readsOnly fun _ _ => ⟨rfl, trivial⟩

theorem Id.codec_readsOnly {kind : IdKind} : (Id.codec kind).ReadsOnly fun _ => True :=
  map_readsOnly (bytes_readsOnly 16) fun _ _ => ⟨rfl, trivial⟩

theorem IdentityId.codec_readsOnly : IdentityId.codec.ReadsOnly fun id => TextFits id.name :=
  map_readsOnly text_readsOnly fun _ hs => ⟨rfl, hs⟩

theorem Contact.codec_readsOnly : Contact.codec.ReadsOnly fun value => TextFits value.text :=
  map_readsOnly text_readsOnly fun _ hs => ⟨rfl, hs⟩

theorem DeclaredAddress.codec_readsOnly :
    DeclaredAddress.codec.ReadsOnly fun declared => TextFits declared.value.text :=
  map_readsOnly (pair_readsOnly Channel.codec_readsOnly Contact.codec_readsOnly)
    fun _ hfits => ⟨rfl, hfits.2⟩

theorem Traits.codec_readsOnly : Traits.codec.ReadsOnly Traits.TextsFit :=
  map_readsOnly (list_readsOnly DeclaredAddress.codec_readsOnly)
    fun _ hfits => ⟨rfl, hfits.1, hfits.2⟩

theorem Mail.codec_readsOnly : Mail.codec.ReadsOnly Mail.TextsFit := by
  intro bs mail rest h
  simp only [Mail.codec] at h
  split at h
  · -- a link and a code
    rename_i after hnumber
    obtain ⟨⟨⟨recipient, url, code⟩, after'⟩, hparts, hresult⟩ := Option.map_eq_some_iff.mp h
    obtain ⟨rfl, rfl⟩ := Prod.mk.inj hresult
    obtain ⟨-, rfl⟩ := natural_readsOnly 4 hnumber
    obtain ⟨⟨hrecipient, hurl, hcode⟩, rfl⟩ :=
      pair_readsOnly Contact.codec_readsOnly (pair_readsOnly text_readsOnly text_readsOnly) hparts
    exact ⟨⟨hrecipient, hurl, hcode⟩, (List.append_assoc _ _ _).symm⟩
  · -- a notice
    rename_i after hnumber
    obtain ⟨⟨recipient, after'⟩, hparts, hresult⟩ := Option.map_eq_some_iff.mp h
    obtain ⟨rfl, rfl⟩ := Prod.mk.inj hresult
    obtain ⟨-, rfl⟩ := natural_readsOnly 4 hnumber
    obtain ⟨hrecipient, rfl⟩ := Contact.codec_readsOnly hparts
    exact ⟨hrecipient, (List.append_assoc _ _ _).symm⟩
  · cases h

/-! ## Records -/

/-- Whether the lengths of all texts of an identity fit. -/
structure Identity.TextsFit (i : Identity) : Prop where
  name : TextFits i.id.name
  traits : i.traits.TextsFit

theorem Address.codec_exact : Address.codec.Exact Address.TextsFit where
  readsBack h := Address.codec_readsBack h
  readsOnly := by
    refine map_readsOnly (pair_readsOnly Id.codec_readsOnly <|
      pair_readsOnly IdentityId.codec_readsOnly <|
      pair_readsOnly Channel.codec_readsOnly <|
      pair_readsOnly Contact.codec_readsOnly <|
      pair_readsOnly AddressStatus.codec_readsOnly <|
      pair_readsOnly bool_readsOnly <|
      pair_readsOnly (option_readsOnly Timestamp.codec_readsOnly) <|
      pair_readsOnly Timestamp.codec_readsOnly Timestamp.codec_readsOnly) fun fields hfits => ?_
    obtain ⟨-, hidentity, -, hvalue, -⟩ := hfits
    exact ⟨rfl, hidentity, hvalue⟩

theorem Challenge.codec_exact : Challenge.codec.Exact Challenge.TextsFit where
  readsBack h := Challenge.codec_readsBack h
  readsOnly := by
    refine map_readsOnly (pair_readsOnly Id.codec_readsOnly <|
      pair_readsOnly Id.codec_readsOnly <|
      pair_readsOnly IdentityId.codec_readsOnly <|
      pair_readsOnly Channel.codec_readsOnly <|
      pair_readsOnly Contact.codec_readsOnly <|
      pair_readsOnly text_readsOnly <|
      pair_readsOnly text_readsOnly <|
      pair_readsOnly Timestamp.codec_readsOnly <|
      pair_readsOnly Timestamp.codec_readsOnly <|
      pair_readsOnly Timestamp.codec_readsOnly <|
      pair_readsOnly ChallengeState.codec_readsOnly <|
      pair_readsOnly (option_readsOnly ExpiredReason.codec_readsOnly) <|
      pair_readsOnly (option_readsOnly word32_readsOnly)
        (option_readsOnly Timestamp.codec_readsOnly)) fun fields hfits => ?_
    obtain ⟨-, -, hidentity, -, hvalue, htoken, hcode, -⟩ := hfits
    exact ⟨rfl, hidentity, hvalue, htoken, hcode⟩

theorem Identity.codec_exact : Identity.codec.Exact Identity.TextsFit where
  readsBack h := Identity.codec_readsBack h.name h.traits
  readsOnly := map_readsOnly (pair_readsOnly IdentityId.codec_readsOnly Traits.codec_readsOnly)
    fun _ hfits => ⟨rfl, hfits.1, hfits.2⟩

theorem QueuedMessage.codec_exact :
    QueuedMessage.codec.Exact fun message => message.mail.TextsFit where
  readsBack h := QueuedMessage.codec_readsBack h
  readsOnly := map_readsOnly (pair_readsOnly word64_readsOnly <|
    pair_readsOnly Mail.codec_readsOnly <|
    pair_readsOnly MessageStatus.codec_readsOnly Timestamp.codec_readsOnly)
    fun _ hfits => ⟨rfl, hfits.2.1⟩

/-! ## What the store reads -/

/-- The store writes a record in the form of stored records, reads it back whatever follows it, and
reads nothing else.  So no two records are written alike, and what is written for one does not
begin what is written for another. -/
structure Durable.StoredExactly {α : Type} (codec : Binary.Codec α) (datum : α → Binary.Datum)
    (Fits : α → Prop) : Prop where
  form : ∀ r, codec.encode r = (datum r).bytes
  readsBack : ∀ r rest, Fits r → decode codec (codec.encode r ++ rest) = .ok r
  reads : ∀ bs r, decode codec bs = .ok r ↔ Fits r ∧ codec.encode r <+: bs
  refuses : ∀ bs, decode codec bs = .error .encoding ↔ ∀ r, Fits r → ¬codec.encode r <+: bs
  apart : ∀ r r', Fits r → Fits r' → codec.encode r <+: codec.encode r' → r = r'

theorem Binary.Codec.Exact.storedExactly {α : Type} {c : Binary.Codec α} {datum : α → Datum}
    {Fits : α → Prop} (h : c.Exact Fits) (hform : c.Writes datum) :
    Durable.StoredExactly c datum Fits := by
  have hreads : ∀ bs r, Durable.decode c bs = .ok r ↔ Fits r ∧ c.encode r <+: bs := by
    intro bs r
    rw [← h.decodeStart?_eq_some_iff, Durable.decode]
    cases c.decodeStart? bs <;> simp
  refine ⟨hform, fun r rest hr => (hreads _ r).mpr ⟨hr, List.prefix_append _ _⟩, hreads, ?_,
    fun r r' => h.eq_of_begins⟩
  intro bs
  -- an answer is a record or a refusal, and which records are answered is known
  constructor
  · intro hrefused r hr hbegins
    rw [(hreads bs r).mpr ⟨hr, hbegins⟩] at hrefused
    cases hrefused
  · intro hnone
    cases hread : Durable.decode c bs with
    | ok r => exact absurd ((hreads bs r).mp hread).2 (hnone r ((hreads bs r).mp hread).1)
    | error e =>
      rw [Durable.decode] at hread
      split at hread
      · cases hread
      · cases hread
        rfl

/-- Every record of the store is stored exactly. -/
theorem Durable.records_storedExactly :
    StoredExactly Address.codec Address.datum Address.TextsFit ∧
    StoredExactly Challenge.codec Challenge.datum Challenge.TextsFit ∧
    StoredExactly Identity.codec Identity.datum Identity.TextsFit ∧
    StoredExactly QueuedMessage.codec QueuedMessage.datum fun message => message.mail.TextsFit :=
  ⟨Address.codec_exact.storedExactly Address.codec_writes,
    Challenge.codec_exact.storedExactly Challenge.codec_writes,
    Identity.codec_exact.storedExactly Identity.codec_writes,
    QueuedMessage.codec_exact.storedExactly QueuedMessage.codec_writes⟩

/-- A notice that was sent, with other bytes after it, is read from them. -/
theorem Durable.decode_notice_sent :
    let notice : QueuedMessage := ⟨7, .unknownAddress ⟨"ann@home"⟩, .sent, ⟨300⟩⟩
    notice.mail.TextsFit ∧
      QueuedMessage.codec.encode notice =
        [7, 0, 0, 0, 0, 0, 0, 0] ++ [1, 0, 0, 0] ++ [8, 0, 0, 0, 0, 0, 0, 0] ++
          [97, 110, 110, 64, 104, 111, 109, 101] ++ [1, 0, 0, 0] ++ [44, 1, 0, 0, 0, 0, 0, 0] ∧
      decode QueuedMessage.codec (QueuedMessage.codec.encode notice ++ [0, 255]) = .ok notice := by
  intro notice
  have hfits : notice.mail.TextsFit := by
    show TextFits "ann@home"
    unfold TextFits
    decide
  exact ⟨hfits, by decide, records_storedExactly.2.2.2.readsBack notice [0, 255] hfits⟩

end Vouch
