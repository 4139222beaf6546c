import Vouch.Json.Token

/-!
# Numbers in digits

A number is read back from its digits, of which only those of zero begin with a zero.
-/

namespace Vouch

-- The digits of a number in a base of up to sixteen are letters and digits.
theorem isAlphanum_of_mem_toDigits {b n : Nat} (hb : 1 < b) (hb16 : b ≤ 16) {c : Char}
    (h : c ∈ Nat.toDigits b n) : c.isAlphanum = true := by
  have hdigit : ∀ d < 16, (Nat.digitChar d).isAlphanum = true := by decide
  induction n using Nat.strongRecOn with
  | ind n ih =>
    rw [Nat.toDigits_eq_if hb] at h
    split at h
    · rw [List.mem_singleton.mp h]
      exact hdigit n (by omega)
    · rename_i hn
      rcases List.mem_append.mp h with h | h
      · exact ih (n / b) (Nat.div_lt_self (by omega) hb) h
      · rw [List.mem_singleton.mp h]
        have hmod := Nat.mod_lt n (show b > 0 by omega)
        exact hdigit _ (by omega)

-- Only the number zero begins with a zero.
theorem head?_toDigits {b n : Nat} (hb : 1 < b) (hn : n ≠ 0) :
    (Nat.toDigits b n).head? ≠ some '0' := by
  induction n using Nat.strongRecOn with
  | ind n ih =>
    rw [Nat.toDigits_eq_if hb]
    split
    · rw [List.head?_cons]
      exact fun h => hn (Nat.digitChar_eq_zero.mp (Option.some.inj h))
    · rename_i hle
      have hrest := ih (n / b) (Nat.div_lt_self (by omega) hb)
        (Nat.div_ne_zero_iff.mpr ⟨by omega, by omega⟩)
      cases hdigits : Nat.toDigits b (n / b) with
      | nil => exact absurd hdigits Nat.toDigits_ne_nil
      | cons c rest =>
        rw [hdigits] at hrest
        exact hrest

-- The digits of a number hold no sign.
theorem not_mem_toDigits {b n : Nat} (hb : 1 < b) (hb16 : b ≤ 16) {c : Char}
    (hc : c.isAlphanum = false) : c ∉ Nat.toDigits b n := fun h => by
  rw [isAlphanum_of_mem_toDigits hb hb16 h] at hc
  cases hc

-- The digits of a number are read as the number, if each digit is.
theorem foldlM_toDigits {b : Nat} (value? : Char → Option Nat) (hb : 1 < b)
    (hvalue : ∀ d < b, value? (Nat.digitChar d) = some d) (n : Nat) :
    (Nat.toDigits b n).foldlM (fun n c => (value? c).map fun d => b * n + d) 0 = some n := by
  induction n using Nat.strongRecOn with
  | ind n ih =>
    rw [Nat.toDigits_eq_if hb]
    split
    · rename_i hn
      rw [List.foldlM_cons, hvalue n hn, Option.map_some, Nat.mul_zero, Nat.zero_add]
      rfl
    · have hdiv := Nat.mod_add_div n b
      rw [List.foldlM_append, ih (n / b) (Nat.div_lt_self (by omega) hb)]
      show List.foldlM _ (n / b) _ = _
      rw [List.foldlM_cons, hvalue _ (Nat.mod_lt n (by omega)), Option.map_some,
        Nat.add_comm, hdiv]
      rfl

theorem hexValue?_digitChar : ∀ d < 16, Json.hexValue? (Nat.digitChar d) = some d := by
  decide

-- A reader that passes over what is no digit reads the same number from digits alone.
theorem foldl_of_foldlM {b : Nat} {value? : Char → Option Nat} {digits : List Char} {m n : Nat}
    (h : digits.foldlM (fun n c => (value? c).map fun d => b * n + d) m = some n) :
    digits.foldl (fun n c => b * n + (value? c).getD 0) m = n := by
  induction digits generalizing m with
  | nil => exact Option.some.inj h
  | cons c digits ih =>
    rw [List.foldlM_cons] at h
    obtain ⟨k, hk, h⟩ := Option.bind_eq_some_iff.mp h
    obtain ⟨d, hd, rfl⟩ := Option.map_eq_some_iff.mp hk
    rw [List.foldl_cons, hd]
    exact ih h

end Vouch
