import Vouch.Proofs.Idna.Punycode

/-!
# Punycode is read back

The reader does what the writer did: it takes up the distance of each insertion and goes on from
there.  What the two have in common is a place, counted over all code points and positions; the
writer measures from the last insertion to it, and the reader moves to it.  The reader gives up on
numbers that are too large, but no label of up to two thousand characters needs them.
-/

namespace Vouch.Idna.Punycode

/-! ## The bias stays small -/

theorem reduce_bounds {delta : Nat} (n k : Nat) (h : delta < 456 * Nat.pow 35 n) :
    (reduce delta k).1 ≤ 455 ∧ (reduce delta k).2 ≤ k + 36 * n := by
  induction n generalizing delta k with
  | zero =>
    have hsmall : ¬455 < delta := Nat.not_lt.mpr (Nat.le_of_lt_succ h)
    rw [reduce, if_neg hsmall]
    exact ⟨Nat.not_lt.mp hsmall, Nat.le_refl _⟩
  | succ n ih =>
    rw [reduce]
    split
    · have hless : delta / 35 < 456 * Nat.pow 35 n := by
        rw [Nat.div_lt_iff_lt_mul (by decide), Nat.mul_assoc]
        exact h
      obtain ⟨hdelta, hk⟩ := ih (k + 36) hless
      exact ⟨hdelta, by omega⟩
    · rename_i hsmall
      exact ⟨Nat.not_lt.mp hsmall, by dsimp only; omega⟩

theorem adapt_le {delta : Nat} (count : Nat) (first : Bool) (h : delta ≤ limit) :
    adapt delta count first ≤ 215 := by
  have hstart : ∀ d, d ≤ delta / 2 → d + d / count < 456 * Nat.pow 35 5 := by
    intro d hd
    have hle := Nat.div_le_self d count
    have hpow : 456 * Nat.pow 35 5 = 23949975000 := by decide
    rw [limit] at h
    omega
  have hbias : ∀ d, d ≤ delta / 2 →
      (reduce (d + d / count) 0).2 + 36 * (reduce (d + d / count) 0).1 /
        ((reduce (d + d / count) 0).1 + 38) ≤ 215 := by
    intro d hd
    obtain ⟨-, hk⟩ := reduce_bounds 5 0 (hstart d hd)
    have hquotient : 36 * (reduce (d + d / count) 0).1 / ((reduce (d + d / count) 0).1 + 38) < 36 :=
      (Nat.div_lt_iff_lt_mul (by omega)).mpr (by omega)
    omega
  cases first with
  | false => exact hbias (delta / 2) (Nat.le_refl _)
  | true => exact hbias (delta / 700) (by omega)

/-! ## Reading a number -/

theorem value?_digit : ∀ n < 36, value? (digit n) = some n := by
  decide

/-- What the reader does at the end of a number. -/
def Reader.finish? (r : Reader) (distance : Nat) : Option Reader :=
  let total := r.position + distance
  let size := r.label.length + 1
  let code := r.code + total / size
  let position := total % size
  if h : code.isValidChar then
    some
      { label := r.label.take position ++ Char.ofNatAux code h :: r.label.drop position
        code
        position := position + 1
        bias := adapt distance size (r.position == 0)
        distance := 0
        weight := 1
        k := 36 }
  else
    none

variable {r : Reader}

theorem Reader.step_eq (r : Reader) (c : Char) : r.step c =
    (value? c).bind fun value =>
      if limit < r.position + (r.distance + value * r.weight) then none
      else if value < threshold r.k r.bias then r.finish? (r.distance + value * r.weight)
      else if limit < r.weight * (36 - threshold r.k r.bias) then none
      else some { r with
        distance := r.distance + value * r.weight
        weight := r.weight * (36 - threshold r.k r.bias)
        k := r.k + 36 } :=
  rfl

theorem Reader.step_digit {n : Nat} (hn : n < 36)
    (hfits : r.position + (r.distance + n * r.weight) ≤ limit) :
    r.step (digit n) =
      if n < threshold r.k r.bias then r.finish? (r.distance + n * r.weight)
      else if limit < r.weight * (36 - threshold r.k r.bias) then none
      else some { r with
        distance := r.distance + n * r.weight
        weight := r.weight * (36 - threshold r.k r.bias)
        k := r.k + 36 } := by
  rw [Reader.step_eq, value?_digit n hn, Option.bind_some]
  exact if_neg (Nat.not_lt.mpr hfits)

-- A threshold is low only for the first digits.
theorem threshold_low {k bias : Nat} (hbias : bias ≤ 215) (h : threshold k bias < 18) :
    k ≤ 232 := by
  unfold threshold at h
  split at h
  · omega
  split at h
  · omega
  · omega

-- The weights stay in range: a high threshold leaves more of the number than the next weight, and a
-- low one comes after five digits at most.
theorem next_weight_le {q t weight j : Nat} (hfits : q * weight ≤ limit) (hmore : t ≤ q)
    (hweight : weight ≤ Nat.pow 35 j) (hpos : 1 ≤ t) (hlow : t < 18 → j ≤ 5) :
    weight * (36 - t) ≤ limit := by
  by_cases hhigh : 18 ≤ t
  · calc
      weight * (36 - t) ≤ weight * q := Nat.mul_le_mul_left _ (by omega)
      _ = q * weight := Nat.mul_comm _ _
      _ ≤ limit := hfits
  · calc
      weight * (36 - t) ≤ Nat.pow 35 5 * 35 := by
        have hfirst := Nat.pow_le_pow_right (n := 35) (by decide) (hlow (Nat.not_le.mp hhigh))
        exact Nat.mul_le_mul (Nat.le_trans hweight hfirst) (by omega)
      _ ≤ limit := by decide

/-- A number is read digit by digit. -/
theorem foldlM_encodeNumber {q j : Nat}
    (hfits : r.position + (r.distance + q * r.weight) ≤ limit) (hbias : r.bias ≤ 215)
    (hweight : r.weight ≤ Nat.pow 35 j) (hk : r.k = 36 * (j + 1)) :
    (encodeNumber r.bias q r.k).foldlM Reader.step r = r.finish? (r.distance + q * r.weight) := by
  induction q using Nat.strongRecOn generalizing r j with
  | ind q ih =>
    have hbounds := threshold_bounds r.k r.bias
    have hlow := @threshold_low r.k r.bias hbias
    rw [encodeNumber]
    split
    · rename_i hlast
      rw [List.foldlM_cons, Reader.step_digit (by omega) hfits, if_pos hlast]
      exact bind_pure _
    rename_i hmore
    have hlast := @Reader.step_digit r
    generalize threshold r.k r.bias = t at hbounds hlow hmore hlast ⊢
    have hsum : t + (q - t) % (36 - t) + (q - t) / (36 - t) * (36 - t) = q := by
      rw [Nat.add_assoc, Nat.mod_add_div']
      omega
    have hrest : (q - t) / (36 - t) < q :=
      Nat.lt_of_le_of_lt (Nat.div_le_self _ _) (by omega)
    have hdigit : t ≤ t + (q - t) % (36 - t) ∧ t + (q - t) % (36 - t) < 36 := by
      have hmod := Nat.mod_lt (q - t) (show 0 < 36 - t by omega)
      omega
    generalize (q - t) / (36 - t) = rest at hsum hrest ⊢
    generalize t + (q - t) % (36 - t) = n at hsum hdigit ⊢
    -- the digit and the rest of the number make up the distance
    have hdistance : r.distance + n * r.weight + rest * (r.weight * (36 - t)) =
        r.distance + q * r.weight := by
      rw [← hsum, Nat.add_mul, Nat.mul_assoc rest, Nat.mul_comm (36 - t), Nat.add_assoc]
    have hpart : n * r.weight ≤ q * r.weight := Nat.mul_le_mul_right _ (by omega)
    have hnext : r.weight * (36 - t) ≤ limit :=
      next_weight_le (q := q) (j := j) (by omega) (by omega) hweight hbounds.1 fun hless => by
        have hfirst := hlow hless
        omega
    rw [List.foldlM_cons, hlast hdigit.2 (by omega), if_neg (Nat.not_lt.mpr hdigit.1),
      if_neg (Nat.not_lt.mpr hnext), ← hdistance]
    refine @ih rest hrest { r with
      distance := r.distance + n * r.weight
      weight := r.weight * (36 - t)
      k := r.k + 36 } (j + 1) ?_ hbias ?_ ?_
    · rw [hdistance]
      exact hfits
    · exact Nat.mul_le_mul hweight (by omega)
    · dsimp only
      omega

/-! ## Insertions -/

variable {w : Writer} {basic place : Nat}

/-- The reader has read what was written and is at the last insertion; the writer has gone on from
there to a place. -/
structure Reader.Follows (r : Reader) (w : Writer) (basic place : Nat) : Prop where
  count : w.count = r.label.length
  bias : r.bias = w.bias
  small : r.bias ≤ 215
  -- no number has been begun
  distance : r.distance = 0
  weight : r.weight = 1
  k : r.k = 36
  place : r.code * (r.label.length + 1) + r.position + w.delta = place
  -- both know whether there was an insertion
  first : (w.count == basic) = (r.position == 0)
  more : basic ≤ w.count

-- A place is a code point and a position.
theorem place_unique {a m p size total : Nat} (hp : p < size)
    (h : a * size + total = m * size + p) : a + total / size = m ∧ total % size = p := by
  have hsize : 0 < size := by omega
  constructor
  · calc
      a + total / size = (a * size + total) / size := by
        rw [Nat.add_comm (a * size), Nat.add_mul_div_right _ _ hsize, Nat.add_comm]
      _ = m := by rw [h, Nat.add_comm, Nat.add_mul_div_right _ _ hsize, Nat.div_eq_of_lt hp,
        Nat.zero_add]
  · calc
      total % size = (a * size + total) % size := by
        rw [Nat.add_comm, Nat.add_mul_mod_self_right]
      _ = p := by rw [h, Nat.add_comm, Nat.add_mul_mod_self_right, Nat.mod_eq_of_lt hp]

/-- The reader inserts the character that was written where it was written. -/
theorem Reader.Follows.insertion (h : r.Follows w basic place) {c : Char} {p : Nat}
    (hp : p ≤ r.label.length) (hplace : place = c.toNat * (r.label.length + 1) + p)
    (hlimit : place ≤ limit) (out : List Char) :
    ∃ r', (encodeNumber w.bias w.delta 36).foldlM Reader.step r = some r' ∧
      r'.label = r.label.take p ++ c :: r.label.drop p ∧
      r'.Follows { w with
        out
        bias := adapt w.delta (w.count + 1) (w.count == basic)
        delta := 0
        count := w.count + 1 } basic (c.toNat * (r.label.length + 2) + (p + 1)) := by
  have hwhere := h.place
  have htotal := @place_unique r.code c.toNat p (r.label.length + 1) (r.position + w.delta)
    (by omega) (by omega)
  have hread := @foldlM_encodeNumber r w.delta 0
    (by rw [h.distance, h.weight]; omega) h.small (Nat.le_of_eq h.weight) h.k
  rw [h.distance, h.weight, Nat.zero_add, Nat.mul_one, h.bias, h.k] at hread
  have hvalid : (r.code + (r.position + w.delta) / (r.label.length + 1)).isValidChar := by
    rw [htotal.1]
    exact c.valid
  have hchar : Char.ofNatAux _ hvalid = c := Char.toNat_inj.mp htotal.1
  rw [Reader.finish?, dif_pos hvalid] at hread
  rw [htotal.2, hchar] at hread
  have hlength : (r.label.take p ++ c :: r.label.drop p).length = r.label.length + 1 := by
    rw [List.length_append, List.length_cons, ← Nat.add_assoc, ← List.length_append,
      List.take_append_drop]
  refine ⟨_, hread, rfl, ?_⟩
  exact
    { count := by rw [h.count, hlength]
      bias := by
        dsimp only
        rw [h.first, h.count]
      small := adapt_le _ _ (by omega)
      distance := rfl
      weight := rfl
      k := rfl
      place := by
        dsimp only
        rw [htotal.1, hlength]
        rfl
      first := by
        have hmore : w.count + 1 ≠ basic := Nat.ne_of_gt (Nat.lt_succ_of_le h.more)
        exact beq_eq_false_iff_ne.mpr hmore
      more := Nat.le_succ_of_le h.more }

-- The writer goes on, past characters or to a later code point.
theorem Reader.Follows.advance (h : r.Follows w basic place) (steps code : Nat) :
    r.Follows { w with delta := w.delta + steps, code } basic (place + steps) :=
  { h with
    place := by
      have hplace := h.place
      dsimp only
      omega }

/-! ## Passing a label -/

-- The characters up to a code point.
def upTo (m : Nat) (cs : List Char) : List Char :=
  cs.filter fun c => c.toNat ≤ m

-- The characters before a code point.
def before (m : Nat) (cs : List Char) : List Char :=
  cs.filter fun c => c.toNat < m

section Label

variable {start : Reader} {head label pre post known : List Char} {m : Nat}

/-- What has been written behind the head is read, and the reader knows these characters then. -/
def ReadsBack (start : Reader) (head : List Char) (basic : Nat) (w : Writer) (known : List Char)
    (place : Nat) : Prop :=
  ∃ digits r, w.out = head ++ digits ∧ IsForm digits ∧
    digits.foldlM Reader.step start = some r ∧ r.label = known ∧ r.Follows w basic place

theorem ReadsBack.advance (h : ReadsBack start head basic w known place) (steps code : Nat) :
    ReadsBack start head basic { w with delta := w.delta + steps, code } known (place + steps) := by
  obtain ⟨digits, r, hout, hform, hread, hlabel, hfollows⟩ := h
  exact ⟨digits, r, hout, hform, hread, hlabel, hfollows.advance steps code⟩

/-- What has been read when a part of a label has been passed, while the characters with a code
point are inserted. -/
def Passing (start : Reader) (head : List Char) (basic m : Nat) (pre post : List Char)
    (w : Writer) : Prop :=
  ReadsBack start head basic w (upTo m pre ++ before m post)
    (m * ((upTo m pre ++ before m post).length + 1) + (upTo m pre).length)

theorem upTo_snoc (m : Nat) (pre : List Char) (c : Char) :
    upTo m (pre ++ [c]) = if c.toNat ≤ m then upTo m pre ++ [c] else upTo m pre := by
  rw [upTo, List.filter_append, List.filter_cons]
  split <;> rename_i h
  · rw [if_pos (of_decide_eq_true h)]
    rfl
  · rw [if_neg (by simpa using h)]
    exact List.append_nil _

theorem before_cons (m : Nat) (c : Char) (post : List Char) :
    before m (c :: post) = if c.toNat < m then c :: before m post else before m post := by
  rw [before, List.filter_cons]
  split <;> rename_i h
  · rw [if_pos (of_decide_eq_true h)]
    rfl
  · rw [if_neg (by simpa using h)]
    rfl

theorem toNat_lt (c : Char) : c.toNat < 0x110000 := by
  rcases c.valid with h | ⟨-, h⟩
  · exact Nat.lt_trans h (by decide)
  · exact h

/-- One character is inserted. -/
theorem ReadsBack.insertion {c : Char} {front back : List Char}
    (h : ReadsBack start head basic w (front ++ back)
      (c.toNat * ((front ++ back).length + 1) + front.length))
    (hroom : (front ++ back).length < 2000) :
    ReadsBack start head basic { w with
        out := w.out ++ encodeNumber w.bias w.delta 36
        bias := adapt w.delta (w.count + 1) (w.count == basic)
        delta := 0
        count := w.count + 1 } (front ++ c :: back)
      (c.toNat * ((front ++ c :: back).length + 1) + (front.length + 1)) := by
  obtain ⟨digits, r, hout, hform, hread, hlabel, hfollows⟩ := h
  rw [← hlabel] at hfollows hroom
  have hp : front.length ≤ r.label.length := by
    rw [hlabel, List.length_append]
    exact Nat.le_add_right _ _
  have hlimit : c.toNat * (r.label.length + 1) + front.length ≤ limit := by
    have hcode := Nat.le_of_lt_succ (toNat_lt c)
    calc
      _ ≤ 0x10FFFF * 2000 + 2000 := Nat.add_le_add (Nat.mul_le_mul hcode hroom) (by omega)
      _ ≤ limit := by decide
  obtain ⟨r', hread', hlabel', hfollows'⟩ := hfollows.insertion hp rfl hlimit
    (w.out ++ encodeNumber w.bias w.delta 36)
  rw [hlabel, List.take_left, List.drop_left] at hlabel'
  refine ⟨digits ++ encodeNumber w.bias w.delta 36, r', ?_, ?_, ?_, hlabel', ?_⟩
  · rw [hout, List.append_assoc]
  · exact fun d hd => (List.mem_append.mp hd).elim (hform d) mem_encodeNumber
  · rw [List.foldlM_append, hread]
    exact hread'
  · have hmore : (front ++ c :: back).length = r.label.length + 1 := by
      rw [hlabel, List.length_append, List.length_append]
      rfl
    rw [hmore]
    exact hfollows'

/-- One character is passed. -/
theorem Passing.pass {c : Char} (h : Passing start head basic m pre (c :: post) w)
    (hlength : (pre ++ c :: post).length ≤ 2000) :
    Passing start head basic m (pre ++ [c]) post (w.pass basic m c) := by
  have hcount : (upTo m pre ++ [c]).length = (upTo m pre).length + 1 := List.length_append
  have hjoin : upTo m pre ++ [c] ++ before m post = upTo m pre ++ c :: before m post :=
    List.append_assoc _ _ _
  rw [Passing, before_cons] at h
  rw [Passing, upTo_snoc, Writer.pass]
  split
  · -- a character that was known before
    rename_i hless
    rw [if_pos hless] at h
    rw [if_pos (Nat.le_of_lt hless), hcount, hjoin]
    exact ReadsBack.advance h 1 w.code
  rename_i hless
  rw [if_neg hless] at h
  split
  · -- a character that is inserted
    rename_i hcode
    subst hcode
    rw [if_pos (Nat.le_refl _), hcount, hjoin]
    refine ReadsBack.insertion h ?_
    have hpre := List.length_filter_le (fun d => decide (d.toNat ≤ c.toNat)) pre
    have hpost := List.length_filter_le (fun d => decide (d.toNat < c.toNat)) post
    rw [upTo, before, List.length_append]
    rw [List.length_append, List.length_cons] at hlength
    omega
  · -- a character that is left for later
    rename_i hother
    rw [if_neg (by omega)]
    exact h

/-- The rest of the label is passed. -/
theorem Passing.rest (h : Passing start head basic m pre post w)
    (hlength : (pre ++ post).length ≤ 2000) :
    Passing start head basic m (pre ++ post) [] (post.foldl (Writer.pass basic m) w) := by
  induction post generalizing pre w with
  | nil =>
    rw [List.append_nil]
    exact h
  | cons c post ih =>
    have happend : pre ++ c :: post = (pre ++ [c]) ++ post := by
      rw [List.append_assoc]
      rfl
    have hnext := h.pass hlength
    rw [happend] at hlength ⊢
    exact ih hnext hlength

/-- All characters with a code point are inserted. -/
theorem ReadsBack.insert (h : ReadsBack start head basic w (before m label)
      (w.code * ((before m label).length + 1)))
    (hm : w.code ≤ m) (hlength : label.length ≤ 2000) :
    ReadsBack start head basic (w.insert basic label m) (upTo m label)
      ((m + 1) * ((upTo m label).length + 1)) := by
  have hcount : w.count = (before m label).length := by
    obtain ⟨-, r, -, -, -, hlabel, hfollows⟩ := h
    rw [hfollows.count, hlabel]
  have hplace : w.code * ((before m label).length + 1) + (m - w.code) * (w.count + 1) =
      m * ((before m label).length + 1) := by
    rw [hcount, ← Nat.add_mul, Nat.add_sub_cancel' hm]
  have hbegin : Passing start head basic m [] label
      { w with delta := w.delta + (m - w.code) * (w.count + 1), code := m } := by
    have hstart := h.advance ((m - w.code) * (w.count + 1)) m
    rw [hplace] at hstart
    exact hstart
  have hend := ReadsBack.advance (hbegin.rest hlength) 1 (m + 1)
  have hknown : upTo m ([] ++ label) ++ before m [] = upTo m label := List.append_nil _
  rw [hknown] at hend
  rw [Nat.succ_mul]
  exact hend

-- Before the next code point is what was up to the last.
theorem upTo_eq_before (m : Nat) (label : List Char) : upTo m label = before (m + 1) label :=
  List.filter_congr fun _ _ => decide_eq_decide.mpr Nat.lt_succ_iff.symm

/-- All characters of a label are inserted, in the order of their code points. -/
theorem ReadsBack.inserts {codes : List Nat} (hascending : codes.Pairwise (· < ·))
    (hcodes : ∀ m ∈ codes, w.code ≤ m)
    (hlabel : ∀ c ∈ label, w.code ≤ c.toNat → c.toNat ∈ codes) (hlength : label.length ≤ 2000)
    (h : ReadsBack start head basic w (before w.code label)
      (w.code * ((before w.code label).length + 1))) :
    ∃ place,
      ReadsBack start head basic (codes.foldl (Writer.insert basic label) w) label place := by
  induction codes generalizing w with
  | nil =>
    have hall : before w.code label = label :=
      List.filter_eq_self.mpr fun c hc => decide_eq_true (Nat.not_le.mp fun hcode =>
        List.not_mem_nil (hlabel c hc hcode))
    rw [hall] at h
    exact ⟨_, h⟩
  | cons m codes ih =>
    obtain ⟨hleast, hrest⟩ := List.pairwise_cons.mp hascending
    have hm := hcodes m List.mem_cons_self
    have hskip : before w.code label = before m label := by
      refine List.filter_congr fun c hc => decide_eq_decide.mpr ⟨fun hlt => by omega, fun hlt => ?_⟩
      refine Nat.not_le.mp fun hcode => ?_
      rcases List.mem_cons.mp (hlabel c hc hcode) with heq | hmem
      · omega
      · have hgreater := hleast _ hmem
        omega
    rw [hskip] at h
    have hinsert := h.insert hm hlength
    rw [upTo_eq_before] at hinsert
    refine ih hrest (fun n hn => hleast n hn) (fun c hc hcode => ?_) hinsert
    have hcode : m + 1 ≤ c.toNat := hcode
    rcases List.mem_cons.mp (hlabel c hc (by omega)) with heq | hmem
    · omega
    · exact hmem

/-! ## Whole labels -/

theorem nodup_eraseDups (codes : List Nat) : codes.eraseDups.Nodup := by
  induction hsize : codes.length using Nat.strongRecOn generalizing codes with
  | ind n ih =>
    cases codes with
    | nil => exact List.nodup_nil
    | cons m codes =>
      have hfewer := List.length_filter_le (fun k => !k == m) codes
      rw [List.eraseDups_cons]
      rw [List.length_cons] at hsize
      refine List.nodup_cons.mpr ⟨fun hmem => ?_, ih _ (by omega) _ rfl⟩
      have hne := (List.mem_filter.mp (List.mem_eraseDups.mp hmem)).2
      rw [Bool.not_eq_true', beq_eq_false_iff_ne] at hne
      exact hne rfl

theorem ascending_mergeSort (codes : List Nat) :
    codes.eraseDups.mergeSort.Pairwise (· < ·) := by
  have htrans : ∀ k m n : Nat, decide (k ≤ m) = true → decide (m ≤ n) = true →
      decide (k ≤ n) = true := fun _ _ _ hkm hmn =>
    decide_eq_true (Nat.le_trans (of_decide_eq_true hkm) (of_decide_eq_true hmn))
  have htotal : ∀ m n : Nat, (decide (m ≤ n) || decide (n ≤ m)) = true := fun m n =>
    Bool.or_eq_true_iff.mpr ((Nat.le_total m n).imp decide_eq_true decide_eq_true)
  have hsorted := @List.pairwise_mergeSort Nat (fun m n => decide (m ≤ n)) htrans htotal
    codes.eraseDups
  have hnodup : codes.eraseDups.mergeSort.Nodup :=
    (List.mergeSort_perm _ _).nodup_iff.mpr (nodup_eraseDups codes)
  exact (hsorted.and hnodup).imp fun ⟨hle, hne⟩ =>
    Nat.lt_of_le_of_ne (of_decide_eq_true hle) hne

-- What stands before the digits of a form.
def headOf (chars : List Char) : List Char :=
  if chars.isEmpty then [] else chars ++ ['-']

-- The last hyphen is the one before the digits.
theorem splitHyphen_append {chars digits : List Char} (h : '-' ∉ digits) :
    splitHyphen (headOf chars ++ digits) = (chars, digits) := by
  have hdigits : ∀ c ∈ digits.reverse, decide (c ≠ '-') = true := by
    intro c hc
    refine decide_eq_true fun heq => h ?_
    rw [← heq]
    exact List.mem_reverse.mp hc
  have hafter : ((headOf chars ++ digits).reverse.takeWhile (· ≠ '-')).reverse = digits := by
    have hhead : (headOf chars).reverse.takeWhile (· ≠ '-') = [] := by
      cases chars with
      | nil => rfl
      | cons c chars =>
        rw [headOf, if_neg (by simp), List.reverse_append]
        rfl
    rw [List.reverse_append, List.takeWhile_append_of_pos hdigits, hhead, List.append_nil,
      List.reverse_reverse]
  rw [splitHyphen, hafter]
  cases chars with
  | nil => exact if_pos (Nat.le_succ _)
  | cons c chars =>
    have hlength : (headOf (c :: chars) ++ digits).length - digits.length - 1 =
        (c :: chars).length := by
      rw [List.length_append, Nat.add_sub_cancel, headOf, if_neg (by simp), List.length_append]
      rfl
    have htake : (headOf (c :: chars) ++ digits).take (c :: chars).length = c :: chars := by
      rw [headOf, if_neg (by simp), List.append_assoc, List.take_left]
    rw [if_neg, hlength, htake]
    rw [List.length_cons] at hlength
    omega

/-- A label that is not too long is read from its form. -/
theorem decode?_encode (hlength : label.length ≤ 2000) : decode? (encode label) = some label := by
  have hbegin : ReadsBack ⟨before firstCode label, firstCode, 0, firstBias, 0, 1, 36⟩
      (headOf (before firstCode label)) (before firstCode label).length
      ⟨firstCode, 0, firstBias, (before firstCode label).length, headOf (before firstCode label)⟩
      (before firstCode label) (firstCode * ((before firstCode label).length + 1)) :=
    ⟨[], _, (List.append_nil _).symm, fun _ hc => (nomatch hc), rfl, rfl,
      { count := rfl
        bias := rfl
        small := show firstBias ≤ 215 by decide
        distance := rfl
        weight := rfl
        k := rfl
        place := rfl
        first := beq_self_eq_true _
        more := Nat.le_refl _ }⟩
  have hcodes : ∀ m, m ∈ ((label.filter fun c => firstCode ≤ c.toNat).map
      Char.toNat).eraseDups.mergeSort ↔ ∃ c ∈ label, firstCode ≤ c.toNat ∧ c.toNat = m := by
    intro m
    simp only [List.mem_mergeSort, List.mem_eraseDups, List.mem_map, List.mem_filter,
      decide_eq_true_eq, and_assoc]
  obtain ⟨place, digits, r, hout, hform, hread, hknown, hfollows⟩ :=
    hbegin.inserts (ascending_mergeSort _) (fun m hm => by
      obtain ⟨c, -, hcode, rfl⟩ := (hcodes m).mp hm
      exact hcode) (fun c hc hcode => (hcodes _).mpr ⟨c, hc, hcode, rfl⟩) hlength
  have hencode : encode label = headOf (before firstCode label) ++ digits := hout
  have hhyphen : '-' ∉ digits := fun hmem => absurd (hform _ hmem).1 (by decide)
  have hbasic : (before firstCode label).any (fun c => firstCode ≤ c.toNat) = false := by
    refine List.any_eq_false.mpr fun c hc => ?_
    have hcode := of_decide_eq_true (List.mem_filter.mp hc).2
    rw [decide_eq_true_eq]
    omega
  rw [hencode, decode?, splitHyphen_append hhyphen]
  simp only [hbasic, hread, Option.bind_eq_bind, Option.bind_some, if_pos hfollows.k, hknown]
  rfl

end Label

/-! ## What is read -/

-- A number adds one character to the label, and none in ASCII.
theorem Reader.finish?_some {r r' : Reader} {distance : Nat} (h : r.finish? distance = some r')
    (hcode : firstCode ≤ r.code) :
    firstCode ≤ r'.code ∧ r'.label.length = r.label.length + 1 ∧
      ∀ d ∈ r'.label, d ∈ r.label ∨ firstCode ≤ d.toNat := by
  rw [Reader.finish?] at h
  by_cases hvalid : (r.code + (r.position + distance) / (r.label.length + 1)).isValidChar
  · rw [dif_pos hvalid] at h
    cases h
    have hlater : firstCode ≤ r.code + (r.position + distance) / (r.label.length + 1) :=
      Nat.le_trans hcode (Nat.le_add_right _ _)
    refine ⟨hlater, ?_, fun d hd => ?_⟩
    · rw [List.length_append, List.length_cons, ← Nat.add_assoc, ← List.length_append,
        List.take_append_drop]
    · rcases List.mem_append.mp hd with hd | hd
      · exact .inl (List.mem_of_mem_take hd)
      rcases List.mem_cons.mp hd with rfl | hd
      · exact .inr hlater
      · exact .inl (List.mem_of_mem_drop hd)
  · rw [dif_neg hvalid] at h
    cases h

theorem Reader.step_some {r r' : Reader} {c : Char} (h : r.step c = some r')
    (hcode : firstCode ≤ r.code) :
    firstCode ≤ r'.code ∧ r'.label.length ≤ r.label.length + 1 ∧
      ∀ d ∈ r'.label, d ∈ r.label ∨ firstCode ≤ d.toNat := by
  rw [Reader.step_eq] at h
  obtain ⟨value, -, h⟩ := Option.bind_eq_some_iff.mp h
  split at h
  · cases h
  split at h
  · obtain ⟨hlater, hlength, hchars⟩ := Reader.finish?_some h hcode
    exact ⟨hlater, Nat.le_of_eq hlength, hchars⟩
  split at h
  · cases h
  · cases h
    exact ⟨hcode, Nat.le_succ _, fun d hd => .inl hd⟩

theorem foldlM_step_some {digits : List Char} {r r' : Reader}
    (h : digits.foldlM Reader.step r = some r') (hcode : firstCode ≤ r.code) :
    r'.label.length ≤ r.label.length + digits.length ∧
      ∀ d ∈ r'.label, d ∈ r.label ∨ firstCode ≤ d.toNat := by
  induction digits generalizing r with
  | nil =>
    cases h
    exact ⟨Nat.le_refl _, fun d hd => .inl hd⟩
  | cons c digits ih =>
    rw [List.foldlM_cons] at h
    obtain ⟨next, hnext, h⟩ := Option.bind_eq_some_iff.mp h
    obtain ⟨hlater, hlength, hchars⟩ := Reader.step_some hnext hcode
    obtain ⟨hlength', hchars'⟩ := ih h hlater
    refine ⟨?_, fun d hd => ?_⟩
    · rw [List.length_cons]
      omega
    · rcases hchars' d hd with hd | hd
      · exact hchars d hd
      · exact .inr hd

/-- A label is no longer than its form, and has no ASCII characters that the form does not have. -/
theorem decode?_some {form label : List Char} (h : decode? form = some label) :
    label.length ≤ form.length ∧ ∀ c ∈ label, c ∈ form ∨ firstCode ≤ c.toNat := by
  have hsplit : (splitHyphen form).1.length + (splitHyphen form).2.length ≤ form.length ∧
      ∀ c ∈ (splitHyphen form).1, c ∈ form := by
    rw [splitHyphen]
    split
    · exact ⟨Nat.le_of_eq (Nat.zero_add _), fun _ hc => (nomatch hc)⟩
    · refine ⟨?_, fun c hc => List.mem_of_mem_take hc⟩
      have htake := List.length_take_le (form.length -
        (form.reverse.takeWhile (· ≠ '-')).reverse.length - 1) form
      dsimp only
      omega
  rw [decode?] at h
  generalize splitHyphen form = parts at h hsplit
  obtain ⟨basic, digits⟩ := parts
  dsimp only at h hsplit
  split at h
  · cases h
  obtain ⟨r, hread, h⟩ := Option.bind_eq_some_iff.mp h
  split at h
  · cases h
    obtain ⟨hlength, hchars⟩ := foldlM_step_some hread (Nat.le_refl _)
    refine ⟨Nat.le_trans hlength hsplit.1, fun c hc => ?_⟩
    exact (hchars c hc).imp_left (hsplit.2 c)
  · cases h

end Vouch.Idna.Punycode
