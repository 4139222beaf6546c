import Vouch.Idna.Punycode
import Vouch.Proofs.Text.Utf8

/-!
# How long Punycode can get

Punycode is ASCII, but it can be long.  The distance to the next insertion is counted over all
positions of the label so far.  In a label whose characters lie far apart the distances outgrow two
digits soon, whatever the bias, so that the ASCII form is almost three times as long as the label.
-/

namespace Vouch.Idna.Punycode

/-! ## Digits -/

-- The digits are lower-case letters and decimal digits.
theorem digit_plain {n : Nat} (h : n < 36) :
    (digit n).isAlphanum = true ∧ (digit n).isUpper = false := by
  have hall : ∀ n < 36, (digit n).isAlphanum = true ∧ (digit n).isUpper = false := by decide
  exact hall n h

theorem mem_encodeNumber {bias q k : Nat} {c : Char} (h : c ∈ encodeNumber bias q k) :
    c.isAlphanum = true ∧ c.isUpper = false := by
  induction q using Nat.strongRecOn generalizing k with
  | ind q ih =>
    have hbounds := threshold_bounds k bias
    rw [encodeNumber] at h
    split at h
    · rw [List.mem_singleton.mp h]
      exact digit_plain (by omega)
    · rename_i hq
      rcases List.mem_cons.mp h with rfl | h
      · have hmod := Nat.mod_lt (q - threshold k bias) (show 36 - threshold k bias > 0 by omega)
        exact digit_plain (by omega)
      · have hle := Nat.div_le_self (q - threshold k bias) (36 - threshold k bias)
        exact ih _ (by omega) h

theorem length_encodeNumber_pos (bias q k : Nat) : 1 ≤ (encodeNumber bias q k).length := by
  rw [encodeNumber]
  split
  · exact Nat.le_refl 1
  · rw [List.length_cons]
    omega

theorem two_le_length_encodeNumber {q : Nat} (bias k : Nat) (h : 26 ≤ q) :
    2 ≤ (encodeNumber bias q k).length := by
  have hbounds := threshold_bounds k bias
  rw [encodeNumber]
  rw [if_neg (by omega), List.length_cons]
  have hrest := length_encodeNumber_pos bias
    ((q - threshold k bias) / (36 - threshold k bias)) (k + 36)
  omega

/-- A distance of at least 936 takes three digits, whatever the bias. -/
theorem three_le_length_encodeNumber {q : Nat} (bias k : Nat) (h : 936 ≤ q) :
    3 ≤ (encodeNumber bias q k).length := by
  have hbounds := threshold_bounds k bias
  have hq : 26 ≤ (q - threshold k bias) / (36 - threshold k bias) := by
    rw [Nat.le_div_iff_mul_le (by omega)]
    omega
  have hrest := two_le_length_encodeNumber bias (k + 36) hq
  rw [encodeNumber]
  rw [if_neg (by omega), List.length_cons]
  omega

/-! ## Insertions -/

section Insertion

variable {basic m : Nat} {pre post : List Char} {c : Char} {w : Writer}

theorem foldl_pass_less (h : ∀ d ∈ pre, d.toNat < m) :
    pre.foldl (Writer.pass basic m) w = { w with delta := w.delta + pre.length } := by
  induction pre generalizing w with
  | nil => rfl
  | cons d pre ih =>
    obtain ⟨hd, hpre⟩ := List.forall_mem_cons.mp h
    rw [List.foldl_cons, Writer.pass, if_pos hd, ih hpre, List.length_cons]
    dsimp only
    rw [Nat.add_assoc, Nat.add_comm 1]

theorem foldl_pass_greater (h : ∀ d ∈ post, m < d.toNat) :
    post.foldl (Writer.pass basic m) w = w := by
  induction post with
  | nil => rfl
  | cons d post ih =>
    obtain ⟨hd, hpost⟩ := List.forall_mem_cons.mp h
    rw [List.foldl_cons, Writer.pass, if_neg (by omega), if_neg (by omega), ih hpost]

/-- The one character with a code point is inserted after all that are before it in the label. -/
theorem insert_eq (basic : Nat) (w : Writer) (hpre : ∀ d ∈ pre, d.toNat < c.toNat)
    (hpost : ∀ d ∈ post, c.toNat < d.toNat) :
    ∃ bias, w.insert basic (pre ++ c :: post) c.toNat =
      { code := c.toNat + 1
        delta := 1
        bias
        count := w.count + 1
        out := w.out ++ encodeNumber w.bias
          (w.delta + (c.toNat - w.code) * (w.count + 1) + pre.length) 36 } := by
  rw [Writer.insert]
  rw [List.foldl_append, foldl_pass_less hpre, List.foldl_cons, Writer.pass,
    if_neg (Nat.lt_irrefl _), if_pos rfl, foldl_pass_greater hpost]
  exact ⟨_, rfl⟩

end Insertion

/-! ## The digits of a label -/

section Digits

variable {basic m : Nat} {label : List Char} {w : Writer}

section Characters

variable {P : Char → Prop} (hdigit : ∀ c, c.isAlphanum = true → c.isUpper = false → P c)
include hdigit

theorem pass_all (h : ∀ d ∈ w.out, P d) (c : Char) : ∀ d ∈ (w.pass basic m c).out, P d := by
  rw [Writer.pass]
  split
  · exact h
  split
  · intro d hd
    refine (List.mem_append.mp hd).elim (h d) fun hd => ?_
    obtain ⟨halnum, hupper⟩ := mem_encodeNumber hd
    exact hdigit d halnum hupper
  · exact h

theorem insert_all (h : ∀ d ∈ w.out, P d) : ∀ d ∈ (w.insert basic label m).out, P d := by
  have hfold : ∀ w : Writer, (∀ d ∈ w.out, P d) →
      ∀ d ∈ (label.foldl (Writer.pass basic m) w).out, P d := fun w hw =>
    List.foldlRecOn (motive := fun w => ∀ d ∈ w.out, P d) label (Writer.pass basic m) hw
      fun w hw c _ => pass_all hdigit hw c
  rw [Writer.insert]
  exact hfold _ h

-- What holds of the digits and of the characters so far holds of the whole form.
theorem inserts_all (codes : List Nat) (h : ∀ d ∈ w.out, P d) :
    ∀ d ∈ (codes.foldl (Writer.insert basic label) w).out, P d :=
  List.foldlRecOn (motive := fun w => ∀ d ∈ w.out, P d) codes (Writer.insert basic label) h
    fun _ hw _ _ => insert_all hdigit hw

end Characters

-- Whether a text consists of digits in lower case.
def IsForm (out : List Char) : Prop :=
  ∀ c ∈ out, c.isAlphanum = true ∧ c.isUpper = false

theorem filter_basic (hcodes : ∀ c ∈ label, firstCode ≤ c.toNat) :
    (label.filter fun c => c.toNat < firstCode) = [] :=
  List.filter_eq_nil_iff.mpr fun c hc => by
    have hcode := hcodes c hc
    rw [decide_eq_true_eq]
    omega

/-- A label without ASCII characters is written with digits alone. -/
theorem encode_isForm (hcodes : ∀ c ∈ label, firstCode ≤ c.toNat) : IsForm (encode label) := by
  rw [encode, filter_basic hcodes]
  exact inserts_all (fun _ halnum hupper => ⟨halnum, hupper⟩) _ fun _ hc => (nomatch hc)

/-- A label is written with its ASCII characters, a hyphen and digits. -/
theorem mem_encode {c : Char} (h : c ∈ encode label) :
    c ∈ label ∧ c.toNat < firstCode ∨ c = '-' ∨ c.isAlphanum = true ∧ c.isUpper = false := by
  refine inserts_all
    (P := fun c => c ∈ label ∧ c.toNat < firstCode ∨ c = '-' ∨ c.isAlphanum = true ∧ c.isUpper = false)
    (fun _ halnum hupper => .inr (.inr ⟨halnum, hupper⟩)) _ (fun c hc => ?_) c h
  dsimp only at hc
  split at hc
  · cases hc
  rcases List.mem_append.mp hc with hc | hc
  · obtain ⟨hmem, hcode⟩ := List.mem_filter.mp hc
    exact .inl ⟨hmem, of_decide_eq_true hcode⟩
  · exact .inr (.inl (List.mem_singleton.mp hc))

end Digits

/-! ## The length of a label's form -/

/-- Whether the characters of a label are far apart, in ascending order. -/
def Spaced (label : List Char) : Prop :=
  label.Pairwise fun c d => c.toNat + 42 ≤ d.toNat

/-- From the twenty-third insertion on each takes three digits. -/
theorem length_inserts (pre post : List Char) (hspaced : Spaced (pre ++ post)) {w : Writer}
    (hcount : w.count = pre.length) (hcode : 22 ≤ w.count → ∀ c ∈ post, w.code + 41 ≤ c.toNat)
    (hout : 3 * (w.count - 22) ≤ w.out.length) :
    3 * (pre.length + post.length - 22) ≤
      ((post.map Char.toNat).foldl (Writer.insert 0 (pre ++ post)) w).out.length := by
  induction post generalizing pre w with
  | nil =>
    rw [hcount] at hout
    exact hout
  | cons c post ih =>
    obtain ⟨-, hpost, hbefore⟩ := List.pairwise_append.mp hspaced
    obtain ⟨hafter, -⟩ := List.pairwise_cons.mp hpost
    obtain ⟨bias, hinsert⟩ := insert_eq 0 w
      (fun d hd => show d.toNat < c.toNat by
        have hgap := hbefore d hd c List.mem_cons_self
        omega)
      (fun d hd => show c.toNat < d.toNat by
        have hgap := hafter d hd
        omega)
    rw [List.map_cons, List.foldl_cons, hinsert]
    have happend : pre ++ c :: post = (pre ++ [c]) ++ post := by
      rw [List.append_assoc]
      rfl
    have hlength : (pre ++ [c]).length = pre.length + 1 := by
      rw [List.length_append]
      rfl
    rw [happend] at hspaced ⊢
    rw [List.length_cons, ← Nat.add_assoc, Nat.add_right_comm, ← hlength]
    refine ih (pre ++ [c]) hspaced (by rw [hcount, hlength]) (fun _ d hd => ?_) ?_
    · have hgap := hafter d hd
      dsimp only
      omega
    · dsimp only
      rw [List.length_append]
      by_cases hmany : 22 ≤ w.count
      · have hgap := hcode hmany c List.mem_cons_self
        have hdistance : 41 * 23 ≤ (c.toNat - w.code) * (w.count + 1) :=
          Nat.mul_le_mul (by omega) (by omega)
        have hnumber := three_le_length_encodeNumber (q := w.delta +
          (c.toNat - w.code) * (w.count + 1) + pre.length) w.bias 36 (by omega)
        omega
      · omega

-- Code points in ascending order are visited as they stand.
theorem eraseDups_of_ascending {codes : List Nat} (h : codes.Pairwise (· < ·)) :
    codes.eraseDups = codes := by
  induction codes with
  | nil => rfl
  | cons n codes ih =>
    obtain ⟨hn, hrest⟩ := List.pairwise_cons.mp h
    have hkeep : codes.filter (fun m => !m == n) = codes := by
      refine List.filter_eq_self.mpr fun m hm => ?_
      have hlt := hn m hm
      rw [Bool.not_eq_true', beq_eq_false_iff_ne]
      omega
    rw [List.eraseDups_cons, hkeep, ih hrest]

/-- A label of characters far apart is written with almost three times as many digits. -/
theorem length_encode {label : List Char} (hspaced : Spaced label)
    (hcodes : ∀ c ∈ label, firstCode ≤ c.toNat) :
    3 * (label.length - 22) ≤ (encode label).length := by
  have hothers : (label.filter fun c => firstCode ≤ c.toNat) = label :=
    List.filter_eq_self.mpr fun c hc => decide_eq_true (hcodes c hc)
  have hascending : (label.map Char.toNat).Pairwise (· < ·) :=
    List.pairwise_map.mpr (hspaced.imp fun h => by omega)
  have hsorted : (label.map Char.toNat).mergeSort = label.map Char.toNat :=
    List.mergeSort_of_pairwise (hascending.imp fun h => decide_eq_true (Nat.le_of_lt h))
  rw [encode, filter_basic hcodes, hothers, eraseDups_of_ascending hascending, hsorted]
  have hlength := length_inserts [] label (w := ⟨firstCode, 0, firstBias, 0, []⟩) hspaced rfl
    (fun h => absurd h (by decide)) (Nat.le_refl 0)
  rw [List.length_nil, Nat.zero_add] at hlength
  exact hlength

end Vouch.Idna.Punycode
