import Vouch.Identifier
import Vouch.Proofs.Text.Utf8

/-!
# The hexadecimal form of identifiers

Two digits are written for each byte.  Reading them in either case gives the byte back, and nothing
else is read.
-/

namespace Vouch

namespace Hex

theorem digit_plain : ∀ n < 16, (digit n).toNat < 128 ∧ (digit n).toLower = digit n := by
  decide

theorem encodeChars_cons (b : UInt8) (bs : Bytes) :
    encodeChars (b :: bs) = digit (b.toNat / 16) :: digit (b.toNat % 16) :: encodeChars bs := rfl

theorem mem_encodeChars {bs : Bytes} {c : Char} (h : c ∈ encodeChars bs) :
    ∃ n < 16, c = digit n := by
  obtain ⟨b, -, hc⟩ := List.mem_flatMap.mp h
  have hb := b.toNat_lt
  rcases List.mem_cons.mp hc with rfl | hc
  · exact ⟨b.toNat / 16, by omega, rfl⟩
  · exact ⟨b.toNat % 16, by omega, List.mem_singleton.mp hc⟩

theorem ascii_of_mem_encodeChars {bs : Bytes} {c : Char} (h : c ∈ encodeChars bs) :
    c.toNat < 128 := by
  obtain ⟨n, hn, rfl⟩ := mem_encodeChars h
  exact (digit_plain n hn).1

theorem length_encodeChars (bs : Bytes) : (encodeChars bs).length = 2 * bs.length := by
  induction bs with
  | nil => rfl
  | cons b bs ih =>
    rw [encodeChars_cons, List.length_cons, List.length_cons, List.length_cons, ih]
    omega

/-! ## Digits of either case -/

-- Characters outside ASCII have no other case here.
theorem ascii_of_toLower {c : Char} (h : c.toLower.toNat < 128) : c.toNat < 128 := by
  by_cases hupper : 'A'.val ≤ c.val ∧ c.val ≤ 'Z'.val
  · exact Nat.lt_of_le_of_lt hupper.2 (by decide)
  · have hsame : c.toLower = c := dif_neg hupper
    rwa [hsame] at h

theorem lower_encodeChars (bs : Bytes) : (encodeChars bs).map Char.toLower = encodeChars bs := by
  refine (List.map_congr_left fun c hc => ?_).trans (List.map_id _)
  obtain ⟨n, hn, rfl⟩ := mem_encodeChars hc
  exact (digit_plain n hn).2

theorem readDigit_lower {c : Char} {n : Nat} (hn : n < 16) (hc : c.toLower = digit n)
    (index : Nat) : readDigit (UInt8.ofNat c.toNat) index = .ok n := by
  have hascii := ascii_of_toLower (c := c) (hc ▸ (digit_plain n hn).1)
  have hvalue : value? (UInt8.ofNat c.toNat) = some n :=
    Text.forall_ascii (p := fun c => ∀ n < 16, c.toLower = digit n →
      value? (UInt8.ofNat c.toNat) = some n) (by decide) hascii n hn hc
  rw [readDigit, hvalue]

theorem ascii_of_value? {b : UInt8} {n : Nat} (h : value? b = some n) : b.toNat < 128 := by
  unfold value? at h
  dsimp only at h
  split at h
  · omega
  split at h
  · omega
  split at h
  · omega
  · cases h

theorem lower_of_readDigit {b : UInt8} {index n : Nat} (h : readDigit b index = .ok n) :
    n < 16 ∧ ∃ c : Char, c.toNat < 128 ∧ UInt8.ofNat c.toNat = b ∧ c.toLower = digit n := by
  have hall : ∀ m < 128, ∀ n ∈ value? (UInt8.ofNat m), n < 16 ∧ (Char.ofNat m).toNat = m ∧
      (Char.ofNat m).toLower = digit n := by decide
  rw [readDigit] at h
  split at h
  · rename_i m hvalue
    cases h
    have hascii := ascii_of_value? hvalue
    obtain ⟨hn, hcode, hlower⟩ := hall b.toNat hascii n (by
      rw [UInt8.ofNat_toNat]
      exact hvalue)
    exact ⟨hn, Char.ofNat b.toNat, by omega, by rw [hcode, UInt8.ofNat_toNat], hlower⟩
  · cases h

theorem decodePairs_lower {cs : List Char} {bs : Bytes} (h : cs.map Char.toLower = encodeChars bs)
    (index : Nat) : decodePairs index (cs.map fun c => UInt8.ofNat c.toNat) = .ok bs := by
  induction bs generalizing cs index with
  | nil =>
    rw [List.map_eq_nil_iff.mp h]
    rfl
  | cons b bs ih =>
    have hb := b.toNat_lt
    obtain ⟨high, cs, rfl, hhigh, h⟩ := List.map_eq_cons_iff.mp h
    obtain ⟨low, cs, rfl, hlow, h⟩ := List.map_eq_cons_iff.mp h
    have hback : UInt8.ofNat (16 * (b.toNat / 16) + b.toNat % 16) = b := by
      rw [Nat.div_add_mod, UInt8.ofNat_toNat]
    simp only [List.map_cons, decodePairs, readDigit_lower (by omega) hhigh,
      readDigit_lower (by omega) hlow, ih h, hback]

theorem lower_of_decodePairs {digits bs : Bytes} {index : Nat} (heven : digits.length % 2 = 0)
    (h : decodePairs index digits = .ok bs) :
    ∃ cs : List Char, (∀ c ∈ cs, c.toNat < 128) ∧ (cs.map fun c => UInt8.ofNat c.toNat) = digits ∧
      cs.map Char.toLower = encodeChars bs := by
  fun_induction decodePairs index digits generalizing bs with
  | case1 => cases h
  | case2 => cases h
  | case3 => cases h
  | case4 index high low rest n hhigh m hlow more hmore ih =>
    cases h
    have hrest : rest.length % 2 = 0 := by
      rw [List.length_cons, List.length_cons] at heven
      omega
    obtain ⟨cs, hascii, hdigits, hlower⟩ := ih hrest hmore
    obtain ⟨hn, c, hc, hcbyte, hclower⟩ := lower_of_readDigit hhigh
    obtain ⟨hm, d, hd, hdbyte, hdlower⟩ := lower_of_readDigit hlow
    refine ⟨c :: d :: cs, ?_, ?_, ?_⟩
    · exact List.forall_mem_cons.mpr ⟨hc, List.forall_mem_cons.mpr ⟨hd, hascii⟩⟩
    · rw [List.map_cons, List.map_cons, hcbyte, hdbyte, hdigits]
    · have hbyte : (UInt8.ofNat (16 * n + m)).toNat = 16 * n + m := by
        rw [UInt8.toNat_ofNat']
        omega
      rw [encodeChars_cons, hbyte, List.map_cons, List.map_cons, hclower, hdlower, hlower,
        show (16 * n + m) / 16 = n by omega, show (16 * n + m) % 16 = m by omega]
  | case5 digits index hshort =>
    cases h
    match digits, heven, hshort with
    | [], _, _ => exact ⟨[], fun _ hc => (nomatch hc), rfl, rfl⟩
    | [_], heven, _ => cases heven
    | high :: low :: rest, _, hshort => exact (hshort high low rest rfl).elim

/-- Exactly the digits of so many bytes are read, in either case. -/
theorem decode_eq_ok_iff {size : Nat} {s : String} {bs : Bytes} :
    decode size s = .ok bs ↔ bs.length = size ∧ s.toList.map Char.toLower = encodeChars bs := by
  have hbytes : Bytes.ofText s = Text.encodeUtf8 s.toList := by
    rw [← Bytes.ofText_ofList, String.ofList_toList]
  constructor
  · intro h
    rw [decode] at h
    split at h
    · cases h
    split at h
    · cases h
    rename_i heven hsize
    obtain ⟨cs, hascii, hdigits, hlower⟩ := lower_of_decodePairs (by omega) h
    have hcs : s.toList = cs := by
      rw [← Text.decodeLossy_encodeUtf8 s.toList, ← hbytes, ← hdigits,
        ← Text.encodeUtf8_ascii hascii, Text.decodeLossy_encodeUtf8]
    rw [hcs]
    refine ⟨?_, hlower⟩
    have hlength := congrArg List.length hlower
    rw [List.length_map, length_encodeChars] at hlength
    rw [← hdigits, List.length_map, hlength] at hsize
    omega
  · rintro ⟨hsize, hlower⟩
    have hascii : ∀ c ∈ s.toList, c.toNat < 128 := fun c hc =>
      ascii_of_toLower (ascii_of_mem_encodeChars (hlower ▸ List.mem_map_of_mem hc))
    have hdigits : Bytes.ofText s = s.toList.map fun c => UInt8.ofNat c.toNat := by
      rw [hbytes, Text.encodeUtf8_ascii hascii]
    have hlength : (Bytes.ofText s).length = 2 * size := by
      have hlength := congrArg List.length hlower
      rw [List.length_map, length_encodeChars, hsize] at hlength
      rw [hdigits, List.length_map, hlength]
    rw [decode]
    rw [if_neg (by omega), if_neg (by omega), hdigits]
    exact decodePairs_lower hlower 0

end Hex

/-- An identifier is read from its hexadecimal form in either case, and from nothing else. -/
theorem Id.ofHex_eq_ok_iff {kind : IdKind} {s : String} {id : Id kind} :
    Id.ofHex kind s = .ok id ↔ s.toList.map Char.toLower = id.toHex.toList := by
  have hhex : id.toHex.toList = Hex.encodeChars id.bytes := String.toList_ofList
  rw [hhex]
  constructor
  · intro h
    rw [ofHex] at h
    split at h
    · cases h
    rename_i bs hdecode
    rw [ofBytes] at h
    split at h
    · cases h
      exact (Hex.decode_eq_ok_iff.mp hdecode).2
    · cases h
  · intro hlower
    have hdecode := Hex.decode_eq_ok_iff.mpr ⟨id.length_bytes, hlower⟩
    rw [ofHex, size, hdecode]
    exact dif_pos id.length_bytes

/-- An identifier is read from its hexadecimal form. -/
theorem Id.ofHex_toHex {kind : IdKind} (id : Id kind) : Id.ofHex kind id.toHex = .ok id := by
  refine Id.ofHex_eq_ok_iff.mpr ?_
  rw [toHex, Hex.encode, String.toList_ofList, Hex.lower_encodeChars]

end Vouch
