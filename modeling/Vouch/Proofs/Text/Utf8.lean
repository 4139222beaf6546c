import Vouch.Text.Utf8

/-!
# Undamaged UTF-8

Reading the UTF-8 form of a text gives the text back.  The bytes of a character follow its code
point from the highest bits down; each of them is in the range that the ones before it allow.
-/

namespace Vouch.Text

variable {q : Nat}

-- A byte that is in the range and not the last one.
theorem stepByte_more (missing low high bits : Nat) (hlow : low ≤ q + 0x80)
    (hhigh : q + 0x80 ≤ high) :
    stepByte (some ⟨missing + 2, low, high, bits⟩) (q + 0x80) =
      ([], some ⟨missing + 1, 0x80, 0xBF, 64 * bits + q⟩) := by
  have hmissing : missing + 2 ≠ 1 := by omega
  simp only [stepByte, hlow, hhigh, and_self, if_true, hmissing, if_false, Nat.add_sub_cancel]
  rfl

theorem stepByte_last (low high bits : Nat) (hlow : low ≤ q + 0x80) (hhigh : q + 0x80 ≤ high) :
    stepByte (some ⟨1, low, high, bits⟩) (q + 0x80) = ([Char.ofNat (64 * bits + q)], none) := by
  simp only [stepByte, hlow, hhigh, and_self, if_true, Nat.add_sub_cancel]

/-! ## What the first byte says of the next one -/

theorem stepByte_one {b : Nat} (h : b < 0x80) : stepByte none b = ([Char.ofNat b], none) :=
  if_pos h

theorem stepByte_two (hlow : 2 ≤ q) (hhigh : q < 32) :
    stepByte none (q + 0xC0) = ([], some ⟨1, 0x80, 0xBF, q⟩) := by
  rw [stepByte, beginChar, if_neg (by omega), if_pos (by omega), Nat.add_sub_cancel]

theorem stepByte_three (hq : q < 16) :
    stepByte none (q + 0xE0) =
      ([], some ⟨2, if q = 0 then 0xA0 else 0x80, if q = 13 then 0x9F else 0xBF, q⟩) := by
  match q, hq with
  | 0, _ | 1, _ | 2, _ | 3, _ | 4, _ | 5, _ | 6, _ | 7, _ => rfl
  | 8, _ | 9, _ | 10, _ | 11, _ | 12, _ | 13, _ | 14, _ | 15, _ => rfl
  | _ + 16, h => exact absurd h (by omega)

theorem stepByte_four (hq : q < 5) :
    stepByte none (q + 0xF0) =
      ([], some ⟨3, if q = 0 then 0x90 else 0x80, if q = 4 then 0x8F else 0xBF, q⟩) := by
  match q, hq with
  | 0, _ | 1, _ | 2, _ | 3, _ | 4, _ => rfl
  | _ + 5, h => exact absurd h (by omega)

/-! ## Characters -/

-- No code point lies among the surrogates or beyond the last one.
theorem toNat_val (c : Char) :
    c.val.toNat < 0xD800 ∨ (0xDFFF < c.val.toNat ∧ c.val.toNat < 0x110000) := c.valid

theorem decodeAfter_cons {begun begun' : Option Begun} {n : Nat} {chars : List Char} (rest : Bytes)
    (hn : n < 256) (h : stepByte begun n = (chars, begun')) :
    decodeAfter begun (UInt8.ofNat n :: rest) = chars ++ decodeAfter begun' rest := by
  rw [decodeAfter, UInt8.toNat_ofNat_of_lt' hn, h]

/-- The bytes of a character are read as that character. -/
theorem decodeAfter_utf8EncodeChar (c : Char) (rest : Bytes) :
    decodeAfter none (String.utf8EncodeChar c ++ rest) = c :: decodeAfter none rest := by
  have hc := toNat_val c
  have hback : Char.ofNat c.val.toNat = c := Char.ofNat_toNat c
  simp only [String.utf8EncodeChar]
  generalize c.val.toNat = v at hc hback ⊢
  split
  · have hone := stepByte_one (b := v) (by omega)
    rw [List.singleton_append, decodeAfter_cons rest (by omega) hone, hback]
    rfl
  split
  · have hfirst := stepByte_two (q := v / 64 % 32) (by omega) (by omega)
    have hlast := stepByte_last (q := v % 64) 0x80 0xBF (v / 64 % 32) (by omega) (by omega)
    simp only [List.cons_append, List.nil_append]
    rw [decodeAfter_cons _ (by omega) hfirst, decodeAfter_cons rest (by omega) hlast,
      show 64 * (v / 64 % 32) + v % 64 = v by omega, hback]
    rfl
  split
  · have hfirst := stepByte_three (q := v / 4096 % 16) (by omega)
    have hsecond := stepByte_more (q := v / 64 % 64) 0 (if v / 4096 % 16 = 0 then 0xA0 else 0x80)
      (if v / 4096 % 16 = 13 then 0x9F else 0xBF) (v / 4096 % 16)
      (by split <;> omega) (by split <;> omega)
    have hlast := stepByte_last (q := v % 64) 0x80 0xBF (64 * (v / 4096 % 16) + v / 64 % 64)
      (by omega) (by omega)
    simp only [List.cons_append, List.nil_append]
    rw [decodeAfter_cons _ (by omega) hfirst, decodeAfter_cons _ (by omega) hsecond,
      decodeAfter_cons rest (by omega) hlast,
      show 64 * (64 * (v / 4096 % 16) + v / 64 % 64) + v % 64 = v by omega, hback]
    rfl
  · have hfirst := stepByte_four (q := v / 262144 % 8) (by omega)
    have hsecond := stepByte_more (q := v / 4096 % 64) 1
      (if v / 262144 % 8 = 0 then 0x90 else 0x80) (if v / 262144 % 8 = 4 then 0x8F else 0xBF)
      (v / 262144 % 8) (by split <;> omega) (by split <;> omega)
    have hthird := stepByte_more (q := v / 64 % 64) 0 0x80 0xBF
      (64 * (v / 262144 % 8) + v / 4096 % 64) (by omega) (by omega)
    have hlast := stepByte_last (q := v % 64) 0x80 0xBF
      (64 * (64 * (v / 262144 % 8) + v / 4096 % 64) + v / 64 % 64) (by omega) (by omega)
    simp only [List.cons_append, List.nil_append]
    rw [decodeAfter_cons _ (by omega) hfirst, decodeAfter_cons _ (by omega) hsecond,
      decodeAfter_cons _ (by omega) hthird, decodeAfter_cons rest (by omega) hlast,
      show 64 * (64 * (64 * (v / 262144 % 8) + v / 4096 % 64) + v / 64 % 64) + v % 64 = v by omega,
      hback]
    rfl

/-- The UTF-8 form of a text is read as that text. -/
theorem decodeLossy_encodeUtf8 (cs : List Char) : decodeLossy (encodeUtf8 cs) = cs := by
  rw [decodeLossy, encodeUtf8]
  induction cs with
  | nil => rfl
  | cons c cs ih => rw [List.flatMap_cons, decodeAfter_utf8EncodeChar, ih]

theorem encodeUtf8_append (cs ds : List Char) :
    encodeUtf8 (cs ++ ds) = encodeUtf8 cs ++ encodeUtf8 ds :=
  List.flatMap_append

theorem encodeUtf8_cons (c : Char) (cs : List Char) :
    encodeUtf8 (c :: cs) = String.utf8EncodeChar c ++ encodeUtf8 cs :=
  List.flatMap_cons

/-! ## ASCII -/

-- A property of ASCII characters can be checked for each of them.
theorem forall_ascii {p : Char → Prop} (h : ∀ n < 128, p (Char.ofNat n)) {c : Char}
    (hc : c.toNat < 128) : p c := by
  have hback := h c.toNat hc
  rwa [Char.ofNat_toNat] at hback

-- The code points of letters and digits.
theorem toNat_of_isAlphanum {c : Char} (h : c.isAlphanum = true) :
    48 ≤ c.toNat ∧ c.toNat ≤ 57 ∨ 65 ≤ c.toNat ∧ c.toNat ≤ 90 ∨ 97 ≤ c.toNat ∧ c.toNat ≤ 122 := by
  rcases Bool.or_eq_true_iff.mp h with h | h
  · rcases Bool.or_eq_true_iff.mp h with h | h
    · exact .inr (.inl (of_decide_eq_true h))
    · obtain ⟨hlow, hhigh⟩ := Bool.and_eq_true_iff.mp h
      exact .inr (.inr ⟨of_decide_eq_true hlow, of_decide_eq_true hhigh⟩)
  · obtain ⟨hlow, hhigh⟩ := Bool.and_eq_true_iff.mp h
    exact .inl ⟨of_decide_eq_true hlow, of_decide_eq_true hhigh⟩

-- A character of ASCII is its own byte.
theorem utf8EncodeChar_ascii {c : Char} (h : c.toNat < 128) :
    String.utf8EncodeChar c = [UInt8.ofNat c.toNat] :=
  if_pos (Nat.le_of_lt_succ h)

theorem encodeUtf8_ascii {cs : List Char} (h : ∀ c ∈ cs, c.toNat < 128) :
    encodeUtf8 cs = cs.map fun c => UInt8.ofNat c.toNat := by
  induction cs with
  | nil => rfl
  | cons c cs ih =>
    have hrest := ih fun d hd => h d (List.mem_cons_of_mem c hd)
    rw [encodeUtf8_cons, utf8EncodeChar_ascii (h c List.mem_cons_self), hrest]
    rfl

/-- The bytes of a character outside ASCII are no ASCII characters. -/
theorem mem_utf8EncodeChar {c : Char} {b : UInt8} (h : b ∈ String.utf8EncodeChar c) :
    c.toNat < 128 ∧ b = UInt8.ofNat c.toNat ∨ 128 ≤ b.toNat := by
  have hhigh : ∀ n, 128 ≤ n → n < 256 → b = UInt8.ofNat n → 128 ≤ b.toNat := by
    rintro n hlow hhigh rfl
    rwa [UInt8.toNat_ofNat_of_lt' hhigh]
  by_cases hascii : c.toNat < 128
  · rw [utf8EncodeChar_ascii hascii, List.mem_singleton] at h
    exact .inl ⟨hascii, h⟩
  · right
    have hval : c.val.toNat = c.toNat := rfl
    simp only [String.utf8EncodeChar, hval] at h
    split at h
    · omega
    split at h
    · simp only [List.mem_cons, List.not_mem_nil, or_false] at h
      rcases h with h | h <;> exact hhigh _ (by omega) (by omega) h
    split at h
    · simp only [List.mem_cons, List.not_mem_nil, or_false] at h
      rcases h with h | h | h <;> exact hhigh _ (by omega) (by omega) h
    · simp only [List.mem_cons, List.not_mem_nil, or_false] at h
      rcases h with h | h | h | h <;> exact hhigh _ (by omega) (by omega) h

end Vouch.Text

namespace Vouch.Bytes

theorem ofText_ofList (cs : List Char) : ofText (String.ofList cs) = Text.encodeUtf8 cs := by
  rw [ofText, String.toByteArray_ofList, List.utf8Encode, List.data_toByteArray, Text.encodeUtf8]

theorem toText?_encodeUtf8 (cs : List Char) :
    toText? (Text.encodeUtf8 cs) = some (String.ofList cs) := by
  rw [← ofText_ofList, toText?_ofText]

end Vouch.Bytes
