import Vouch.Proofs.Binary.ReadBack
import Vouch.Proofs.Durable.ByteMap

/-!
# Keys keep records apart

Different slots, addresses and challenges have different keys, and among keys short enough to be
written a listing finds exactly those that were made from what it asks for.  The keys of an
address's history are in the order of their numbers.
-/

namespace Vouch

namespace Bytes

theorem startsWith_iff {bs p : Bytes} : bs.startsWith p = true ↔ ∃ rest, bs = p ++ rest := by
  rw [startsWith, List.isPrefixOf_iff_prefix]
  constructor
  · rintro ⟨rest, h⟩
    exact ⟨rest, h.symm⟩
  · rintro ⟨rest, h⟩
    exact ⟨rest, h.symm⟩

theorem ofText_injective {s t : String} (h : ofText s = ofText t) : s = t := by
  have hs := toText?_ofText s
  rw [h, toText?_ofText] at hs
  exact (Option.some.inj hs).symm

-- What is written before two byte strings does not change their order.
theorem lt_append (p a b : Bytes) : lt (p ++ a) (p ++ b) = lt a b := by
  induction p with
  | nil => rfl
  | cons x p ih =>
    show (decide (x < x) || (x == x && lt (p ++ a) (p ++ b))) = lt a b
    simp [ih]

-- Byte strings of one length are ordered before what follows them is looked at.
theorem lt_append_of_lt {a b : Bytes} (hlength : a.length = b.length) (h : lt a b = true)
    (x y : Bytes) : lt (a ++ x) (b ++ y) = true := by
  induction a generalizing b with
  | nil =>
    cases b with
    | nil => cases h
    | cons _ _ => cases hlength
  | cons a as ih =>
    cases b with
    | nil => cases hlength
    | cons b bs =>
      simp only [lt, Bool.or_eq_true, Bool.and_eq_true, decide_eq_true_eq] at h
      simp only [List.cons_append, lt, Bool.or_eq_true, Bool.and_eq_true, decide_eq_true_eq]
      rcases h with hlt | ⟨heq, hlt⟩
      · exact .inl hlt
      · exact .inr ⟨heq, ih (Nat.succ.inj hlength) hlt⟩

theorem bigEndian_succ (width n : Nat) :
    bigEndian (width + 1) n = bigEndian width (n / 256) ++ [UInt8.ofNat n] := by
  simp only [bigEndian, littleEndian, List.reverse_cons]

-- Numbers that fit are ordered as their bytes are.
theorem lt_bigEndian {width s t : Nat} (hst : s < t) (ht : t < Nat.pow 256 width) :
    lt (bigEndian width s) (bigEndian width t) = true := by
  induction width generalizing s t with
  | zero =>
    have hone : Nat.pow 256 0 = 1 := rfl
    omega
  | succ width ih =>
    rw [bigEndian_succ, bigEndian_succ]
    have hhigh : t / 256 < Nat.pow 256 width := by
      rw [Nat.div_lt_iff_lt_mul (by decide)]
      exact ht
    rcases Nat.lt_or_ge (s / 256) (t / 256) with hlt | hge
    · -- the bytes before the last decide
      exact lt_append_of_lt (by rw [length_bigEndian, length_bigEndian]) (ih hlt hhigh) _ _
    · have heq : s / 256 = t / 256 := by omega
      have hlow : UInt8.ofNat s < UInt8.ofNat t := by
        rw [UInt8.lt_iff_toNat_lt, UInt8.toNat_ofNat', UInt8.toNat_ofNat']
        omega
      rw [heq, lt_append]
      simp [lt, hlow]

-- A number that fits is read back.
theorem bigEndian_injective {width s t : Nat} (hs : s < Nat.pow 256 width)
    (ht : t < Nat.pow 256 width) (h : bigEndian width s = bigEndian width t) : s = t := by
  have hback := congrArg ofBigEndian h
  rw [ofBigEndian_bigEndian, ofBigEndian_bigEndian, Nat.mod_eq_of_lt hs, Nat.mod_eq_of_lt ht]
    at hback
  exact hback

end Bytes

theorem Id.bytes_ne_nil {kind : IdKind} (id : Id kind) : id.bytes.isEmpty = false := by
  have h := id.length_bytes
  cases hb : id.bytes with
  | nil => rw [hb] at h; cases h
  | cons _ _ => rfl

theorem IdentityId.bytes_injective {a b : IdentityId} (h : a.bytes = b.bytes) : a = b := by
  cases a
  cases b
  rw [IdentityId.mk.injEq]
  exact Bytes.ofText_injective h

theorem Contact.bytes_injective {v w : Contact} (h : Bytes.ofText v.text = Bytes.ofText w.text) :
    v = w := by
  cases v
  cases w
  rw [Contact.mk.injEq]
  exact Bytes.ofText_injective h

namespace ByteMap

variable {kind : IdKind}

theorem get?_insert_id (m : ByteMap) (a b : Id kind) (v : Bytes) :
    (m.insert a.bytes v).get? b.bytes = if b = a then some v else m.get? b.bytes := by
  rw [get?_insert]
  by_cases h : b = a
  · rw [if_pos h, if_pos (congrArg _ h)]
  · rw [if_neg h, if_neg fun he => h (Id.eq_of_bytes_eq he)]

theorem get?_erase_id (m : ByteMap) (a b : Id kind) :
    (m.erase a.bytes).get? b.bytes = if b = a then none else m.get? b.bytes := by
  rw [get?_erase]
  by_cases h : b = a
  · rw [if_pos h, if_pos (congrArg _ h)]
  · rw [if_neg h, if_neg fun he => h (Id.eq_of_bytes_eq he)]

end ByteMap

namespace Durable

theorem length_sized (part : Bytes) : (sized part).length = 2 + part.length := by
  rw [sized, List.length_append, Bytes.length_bigEndian]

-- A part after its length is told from another one, whatever follows, if the lengths fit.
theorem sized_append_injective {a b x y : Bytes} (ha : a.length < 65536) (hb : b.length < 65536)
    (h : sized a ++ x = sized b ++ y) : a = b ∧ x = y := by
  simp only [sized, List.append_assoc] at h
  obtain ⟨hsize, hrest⟩ := List.append_inj h
    (by rw [Bytes.length_bigEndian, Bytes.length_bigEndian])
  have hlength := Bytes.bigEndian_injective (by exact ha) (by exact hb) hsize
  exact List.append_inj hrest hlength

theorem tag_injective {c d : Channel} (_ : c.tag = d.tag) : c = d := by
  cases c
  cases d
  rfl

/-! ## Slots -/

theorem identityPrefix_ne_nil (identity : IdentityId) :
    (identityPrefix identity).isEmpty = false := rfl

theorem slotKey_injective {s t : Slot} (h : slotKey s = slotKey t) : s = t := by
  obtain ⟨hidentity, htag⟩ := List.append_inj' h rfl
  have hbytes : s.identity.bytes = t.identity.bytes := by
    -- the keys are equally long, so the names are
    have hlength := congrArg List.length hidentity
    simp only [identityPrefix, length_sized] at hlength
    refine (List.append_inj hidentity ?_).2
    rw [Bytes.length_bigEndian, Bytes.length_bigEndian]
  cases s
  cases t
  rw [Slot.mk.injEq]
  exact ⟨IdentityId.bytes_injective hbytes, tag_injective (List.cons.inj htag).1⟩

theorem length_slotKey (s : Slot) : (slotKey s).length = 3 + s.identity.bytes.length := by
  simp only [slotKey, identityPrefix, List.length_append, length_sized, List.length_singleton]
  omega

-- The slots of an identity are found under its beginning.
theorem slotKey_startsWith_iff {s : Slot} (h : (slotKey s).length ≤ maxKeySize)
    (identity : IdentityId) :
    (slotKey s).startsWith (identityPrefix identity) = true ↔ s.identity = identity := by
  rw [Bytes.startsWith_iff]
  constructor
  · rintro ⟨rest, hrest⟩
    have hlength := congrArg List.length hrest
    rw [length_slotKey] at h
    rw [length_slotKey, identityPrefix, List.length_append, length_sized] at hlength
    have hmax : maxKeySize = 511 := rfl
    exact IdentityId.bytes_injective (sized_append_injective (by omega) (by omega) hrest).1
  · rintro rfl
    exact ⟨_, rfl⟩

/-! ## Values -/

theorem valuePrefix_ne_nil (channel : Channel) (value : Contact) :
    (valuePrefix channel value).isEmpty = false := rfl

theorem length_valueKey (channel : Channel) (value : Contact) (id : AddressId) :
    (valueKey channel value id).length = 19 + (Bytes.ofText value.text).length := by
  simp only [valueKey, valuePrefix, List.cons_append, List.length_cons, List.length_append,
    length_sized, id.length_bytes]
  omega

theorem valueKey_injective {c d : Channel} {v w : Contact} {a b : AddressId}
    (h : valueKey c v a = valueKey d w b) : c = d ∧ v = w ∧ a = b := by
  obtain ⟨hfront, hid⟩ := List.append_inj' h (by rw [a.length_bytes, b.length_bytes])
  obtain ⟨htag, hsized⟩ := List.cons.inj hfront
  have hbytes := (List.append_inj hsized
    (by rw [Bytes.length_bigEndian, Bytes.length_bigEndian])).2
  exact ⟨tag_injective htag, Contact.bytes_injective hbytes, Id.eq_of_bytes_eq hid⟩

-- The addresses bound to a value are found under its beginning.
theorem valueKey_startsWith_iff {c : Channel} {v : Contact} {id : AddressId}
    (h : (valueKey c v id).length ≤ maxKeySize) (d : Channel) (w : Contact) :
    (valueKey c v id).startsWith (valuePrefix d w) = true ↔ c = d ∧ v = w := by
  rw [Bytes.startsWith_iff]
  constructor
  · rintro ⟨rest, hrest⟩
    have hlength := congrArg List.length hrest
    rw [length_valueKey] at h
    rw [length_valueKey, valuePrefix, List.length_append, List.length_cons, length_sized]
      at hlength
    have hmax : maxKeySize = 511 := rfl
    obtain ⟨htag, hsized⟩ := List.cons.inj hrest
    have hbytes := (sized_append_injective (by omega) (by omega) hsized).1
    exact ⟨tag_injective htag, Contact.bytes_injective hbytes⟩
  · rintro ⟨rfl, rfl⟩
    exact ⟨_, rfl⟩

/-! ## Histories -/

theorem length_historyKey (a : AddressId) (n : UInt64) : (historyKey a n).length = 24 := by
  rw [historyKey, List.length_append, a.length_bytes, Bytes.length_bigEndian]

-- An address's history is found under its identifier.
theorem historyKey_startsWith_iff (a b : AddressId) (n : UInt64) :
    (historyKey a n).startsWith b.bytes = true ↔ a = b := by
  rw [Bytes.startsWith_iff]
  constructor
  · rintro ⟨rest, hrest⟩
    exact Id.eq_of_bytes_eq
      (List.append_inj hrest (by rw [a.length_bytes, b.length_bytes])).1
  · rintro rfl
    exact ⟨_, rfl⟩

theorem historyKey_lt (a : AddressId) {m n : UInt64} (h : m < n) :
    Bytes.lt (historyKey a m) (historyKey a n) = true := by
  rw [historyKey, historyKey, Bytes.lt_append]
  exact Bytes.lt_bigEndian (UInt64.lt_iff_toNat_lt.mp h) n.toNat_lt

theorem decodeId_bytes {kind : IdKind} (id : Id kind) : decodeId kind id.bytes = .ok id := by
  simp only [decodeId, Id.ofBytes, dif_pos id.length_bytes]

end Durable

end Vouch
