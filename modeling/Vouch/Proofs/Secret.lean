import Vouch.Proofs.Binary.ReadBack
import Vouch.Proofs.Identifier
import Vouch.Secret

/-!
# Secrets are compared exactly

The comparison of secrets looks at every byte and still accepts nothing but the expected text.  The
secrets that are issued are short texts.
-/

namespace Vouch

namespace Secret

-- The differences that were collected are none exactly if the bytes agree.
theorem foldl_difference_eq_zero_iff {a b : Bytes} (h : a.length = b.length) (start : UInt8) :
    (a.zip b).foldl (fun difference (x, y) => difference ||| (x ^^^ y)) start = 0 ↔
      start = 0 ∧ a = b := by
  induction a generalizing b start with
  | nil =>
    cases b with
    | nil => simp
    | cons _ _ => cases h
  | cons x a ih =>
    cases b with
    | nil => cases h
    | cons y b =>
      simp only [List.zip_cons_cons, List.foldl_cons, ih (Nat.succ.inj h),
        UInt8.or_eq_zero_iff, UInt8.xor_eq_zero_iff, List.cons.injEq, and_assoc]

/-- A secret is accepted exactly if it is the expected one. -/
theorem verify_iff (expected supplied : String) :
    verify expected supplied = true ↔ supplied = expected := by
  simp only [verify, bytesMatch, Bool.and_eq_true, beq_iff_eq]
  constructor
  · rintro ⟨hlength, hbytes⟩
    have heq := ((foldl_difference_eq_zero_iff hlength 0).mp hbytes).2
    have hback := Bytes.toText?_ofText expected
    rw [heq, Bytes.toText?_ofText] at hback
    exact Option.some.inj hback
  · rintro rfl
    exact ⟨rfl, (foldl_difference_eq_zero_iff rfl 0).mpr ⟨rfl, rfl⟩⟩

theorem verify_eq (expected supplied : String) :
    verify expected supplied = decide (supplied = expected) := by
  rw [Bool.eq_iff_iff, verify_iff, decide_eq_true_eq]

-- No character takes more than four bytes.
theorem length_ofText_ofList_le (cs : List Char) :
    (Bytes.ofText (String.ofList cs)).length ≤ 4 * cs.length := by
  induction cs with
  | nil => exact Nat.le_refl 0
  | cons c cs ih =>
    simp only [Bytes.ofText, String.toByteArray_ofList, Array.length_toList,
      ByteArray.size_data] at ih ⊢
    have hc : [c].utf8Encode.size ≤ 4 := by
      rw [List.utf8Encode_singleton, List.size_toByteArray, String.length_utf8EncodeChar]
      exact c.utf8Size_le_four
    rw [List.utf8Encode_cons, ByteArray.size_append, List.length_cons]
    omega

-- The hexadecimal form of a few bytes is a short text.
theorem textFits_encode {bs : Bytes} (h : bs.length ≤ 32) : TextFits (Hex.encode bs) := by
  have hchars := length_ofText_ofList_le (Hex.encodeChars bs)
  rw [Hex.length_encodeChars] at hchars
  show (Bytes.ofText (String.ofList (Hex.encodeChars bs))).length < 18446744073709551616
  omega

-- The secrets that are issued are short texts.
theorem textFits_issue (channel : Channel) (flow : FlowId) (e : Entropy) :
    TextFits (issue channel flow e).1.token ∧ TextFits (issue channel flow e).1.code := by
  constructor
  · apply textFits_encode
    show (Blake2b.digest 32 _).length ≤ 32
    rw [Blake2b.digest, List.length_take]
    exact Nat.min_le_left _ _
  · apply textFits_encode
    show ((e.draw 32).2.draw 16).1.length ≤ 32
    rw [Entropy.length_draw]
    decide

end Secret

end Vouch
