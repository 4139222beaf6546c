import Vouch.Proofs.Text.Utf8
import Vouch.Url.Percent

/-!
# Percent encoding undone

The bytes that a character is replaced by are read as these bytes.  What replaces a character
consists of characters that are never replaced, so that encoding again changes nothing.
-/

namespace Vouch.Url

open Text (encodeUtf8 encodeUtf8_cons forall_ascii toNat_of_isAlphanum utf8EncodeChar_ascii)

/-! ## Digits -/

theorem byte_ne {c : Char} (hc : c.toNat < 128) {b : UInt8} (h : c.toNat ≠ b.toNat) :
    UInt8.ofNat c.toNat ≠ b := by
  intro heq
  rw [← heq, UInt8.toNat_ofNat_of_lt' (Nat.lt_trans hc (by decide))] at h
  exact h rfl

theorem isAlphanum_upperDigit {n : Nat} (h : n < 16) : (upperDigit n).isAlphanum = true := by
  match n, h with
  | 0, _ | 1, _ | 2, _ | 3, _ | 4, _ | 5, _ | 6, _ | 7, _ => rfl
  | 8, _ | 9, _ | 10, _ | 11, _ | 12, _ | 13, _ | 14, _ | 15, _ => rfl
  | _ + 16, h => exact absurd h (by omega)

/-! ## Bytes -/

theorem percentDecode_cons_of_ne {b : UInt8} (h : b ≠ 0x25) (rest : Bytes) :
    percentDecode (b :: rest) = b :: percentDecode rest := by
  match rest with
  | [] | [_] | _ :: _ :: _ => simp only [percentDecode, if_neg h]

theorem value?_upperDigit {n : Nat} (h : n < 16) :
    Hex.value? (UInt8.ofNat (upperDigit n).toNat) = some n := by
  match n, h with
  | 0, _ | 1, _ | 2, _ | 3, _ | 4, _ | 5, _ | 6, _ | 7, _ => rfl
  | 8, _ | 9, _ | 10, _ | 11, _ | 12, _ | 13, _ | 14, _ | 15, _ => rfl
  | _ + 16, h => exact absurd h (by omega)

theorem toNat_upperDigit {n : Nat} (h : n < 16) :
    (upperDigit n).toNat < 128 ∧ (upperDigit n).toNat ≠ 0x2B := by
  have hcode := toNat_of_isAlphanum (isAlphanum_upperDigit h)
  omega

theorem encodeUtf8_percentByte (b : UInt8) :
    encodeUtf8 (percentByte b) = [0x25, UInt8.ofNat (upperDigit (b.toNat / 16)).toNat,
      UInt8.ofNat (upperDigit (b.toNat % 16)).toNat] := by
  have hb := b.toNat_lt
  rw [percentByte, encodeUtf8_cons, encodeUtf8_cons, encodeUtf8_cons,
    utf8EncodeChar_ascii (toNat_upperDigit (show b.toNat / 16 < 16 by omega)).1,
    utf8EncodeChar_ascii (toNat_upperDigit (show b.toNat % 16 < 16 by omega)).1]
  rfl

theorem percentDecode_percentByte (b : UInt8) (rest : Bytes) :
    percentDecode (encodeUtf8 (percentByte b) ++ rest) = b :: percentDecode rest := by
  have hb := b.toNat_lt
  have hback : UInt8.ofNat (16 * (b.toNat / 16) + b.toNat % 16) = b := by
    rw [Nat.div_add_mod, UInt8.ofNat_toNat]
  simp only [encodeUtf8_percentByte, List.cons_append, List.nil_append, percentDecode, if_true,
    value?_upperDigit (show b.toNat / 16 < 16 by omega),
    value?_upperDigit (show b.toNat % 16 < 16 by omega), hback]

theorem percentDecode_eq_self {bs : Bytes} (h : ∀ b ∈ bs, b ≠ 0x25) : percentDecode bs = bs := by
  induction bs with
  | nil => rfl
  | cons b bs ih =>
    obtain ⟨hb, hrest⟩ := List.forall_mem_cons.mp h
    rw [percentDecode_cons_of_ne hb, ih hrest]

-- A text without percent signs stands for itself.
theorem percentDecode_encodeUtf8 {cs : List Char} (h : '%' ∉ cs) :
    percentDecode (encodeUtf8 cs) = encodeUtf8 cs := by
  refine percentDecode_eq_self fun b hb heq => ?_
  obtain ⟨c, hc, hbyte⟩ := List.mem_flatMap.mp hb
  rcases Text.mem_utf8EncodeChar hbyte with ⟨hascii, hchar⟩ | hhigh
  · have hne : c.toNat ≠ 0x25 := by
      intro hcode
      have hpercent : c = '%' := Char.toNat_inj.mp hcode
      exact h (hpercent ▸ hc)
    exact byte_ne (b := 0x25) hascii hne (hchar.symm.trans heq)
  · rw [heq] at hhigh
    exact absurd hhigh (by decide)

/-! ## Encoding again -/

/-- Whether a set leaves alone what characters are replaced by. -/
def EncodeSet.Stable (set : EncodeSet) : Prop :=
  set '%' = false ∧ ∀ c, c.isAlphanum = true → set c = false

section Stable

variable {set : EncodeSet} {cs : List Char}

theorem percentEncode_eq_self (h : ∀ c ∈ cs, set c = false) : percentEncode set cs = cs := by
  induction cs with
  | nil => rfl
  | cons c cs ih =>
    rw [percentEncode, List.flatMap_cons, if_neg (by rw [h c List.mem_cons_self]; decide)]
    exact congrArg (c :: ·) (ih fun d hd => h d (List.mem_cons_of_mem c hd))

theorem mem_percentByte {b : UInt8} {c : Char} (h : c ∈ percentByte b) :
    c = '%' ∨ c.isAlphanum = true := by
  have hb := b.toNat_lt
  simp only [percentByte, List.mem_cons, List.not_mem_nil, or_false] at h
  rcases h with rfl | rfl | rfl
  · exact .inl rfl
  · exact .inr (isAlphanum_upperDigit (by omega))
  · exact .inr (isAlphanum_upperDigit (by omega))

-- What an encoded text consists of.
theorem mem_percentEncode {c : Char} (h : c ∈ percentEncode set cs) :
    c ∈ cs ∧ set c = false ∨ c = '%' ∨ c.isAlphanum = true := by
  obtain ⟨d, hd, hc⟩ := List.mem_flatMap.mp h
  split at hc
  · obtain ⟨b, -, hb⟩ := List.mem_flatMap.mp hc
    exact .inr (mem_percentByte hb)
  · rename_i hset
    rw [List.mem_singleton.mp hc]
    exact .inl ⟨hd, Bool.eq_false_iff.mpr hset⟩

-- Nothing is left that would have to be replaced.
theorem percentEncode_stable (hset : set.Stable) {c : Char} (h : c ∈ percentEncode set cs) :
    set c = false := by
  rcases mem_percentEncode h with ⟨-, hc⟩ | rfl | hc
  · exact hc
  · exact hset.1
  · exact hset.2 c hc

end Stable

-- Checking the ASCII characters shows that a set is stable.
theorem EncodeSet.stable_of_ascii {set : EncodeSet} (hpercent : set '%' = false)
    (h : ∀ n < 128, (Char.ofNat n).isAlphanum = true → set (Char.ofNat n) = false) :
    set.Stable := by
  refine ⟨hpercent, fun c hc => ?_⟩
  have hcode := toNat_of_isAlphanum hc
  exact forall_ascii (p := fun c => c.isAlphanum = true → set c = false) h (by omega) hc

theorem EncodeSet.path_stable : EncodeSet.path.Stable :=
  stable_of_ascii rfl (by decide)

theorem EncodeSet.userinfo_stable : EncodeSet.userinfo.Stable :=
  stable_of_ascii rfl (by decide)

end Vouch.Url
