import Vouch.Proofs.Text.Blank
import Vouch.Proofs.Text.Utf8
import Vouch.Text.Lowercase

/-!
# Lower case is final

A text in lower case is its own lower-case form, whatever the script: the table of letter case leads
to no character that it replaces.  Capitals of ASCII and their small letters have the same form, also
where what stands around a character decides about it.
-/

namespace Vouch.Text

variable {c d : Char} {cs : List Char}

/-! ## The table of letter case -/

namespace CaseRun

/-- Whether a run leads to none of every `step`-th code points from `first` to `last`; they may lie
between those of the run. -/
def misses (run : CaseRun) (first last step : Nat) : Bool :=
  run.lower + (run.last - run.first) < first || last < run.lower ||
    step = 2 && (run.step = 2 || run.first = run.last) && (run.lower + first) % 2 = 1

theorem not_mem_of_misses {run : CaseRun} {first last step n m : Nat}
    (h : run.misses first last step = true) (himage : run.image? n = some m) :
    ¬(first ≤ m ∧ m ≤ last ∧ (m - first) % step = 0) := by
  rw [image?] at himage
  split at himage
  · rename_i hn
    obtain ⟨hfirst, hlast, hstep⟩ := hn
    rw [← Option.some.inj himage]
    simp only [misses, Bool.or_eq_true, Bool.and_eq_true, decide_eq_true_eq] at h
    rintro ⟨hlow, hhigh, hmod⟩
    rcases h with (h | h) | ⟨⟨htwo, hrun⟩, hodd⟩
    · omega
    · omega
    · -- one side has the even and the other the odd code points
      rw [htwo] at hmod
      rcases hrun with hrun | hrun
      · rw [hrun] at hstep
        omega
      · omega
  · cases himage

end CaseRun

-- No run leads to a character that a run replaces, nor to the dotted capital I.
set_option maxRecDepth 100000 in
theorem caseRuns_apart :
    (caseRuns.all fun run => run.misses 0x130 0x130 1 &&
      caseRuns.all fun other => run.misses other.first other.last other.step) = true := by
  decide +kernel

-- No run leads to white space.
theorem caseRuns_visible :
    (caseRuns.all fun run => blankRanges.all fun range => run.misses range.1 range.2 1) = true := by
  decide +kernel

/-! ## The form of one character -/

-- What a run leads to is looked up by its code point, if it is a character at all.
theorem ofNat_cases (n : Nat) : Char.ofNat n = '\x00' ∨ (Char.ofNat n).toNat = n := by
  by_cases h : n.isValidChar
  · have hchar : Char.ofNat n = Char.ofNatAux n h := dif_pos h
    exact .inr (by rw [hchar]; rfl)
  · exact .inl (dif_neg h)

theorem lowerChar_of_mem_runs {run : CaseRun} (hrun : run ∈ caseRuns) {n m : Nat}
    (himage : run.image? n = some m) : lowerChar (Char.ofNat m) = [Char.ofNat m] := by
  rcases ofNat_cases m with hzero | hcode
  · rw [hzero]
    decide
  have hmisses := List.all_eq_true.mp caseRuns_apart run hrun
  rw [Bool.and_eq_true, List.all_eq_true] at hmisses
  obtain ⟨hdotted, hothers⟩ := hmisses
  have hnot : Char.ofNat m ≠ 'İ' := by
    intro heq
    rw [heq] at hcode
    have hm : m = 0x130 := hcode.symm
    exact CaseRun.not_mem_of_misses hdotted himage (by omega)
  have hnone : caseRuns.findSome? (·.image? (Char.ofNat m).toNat) = none := by
    rw [List.findSome?_eq_none_iff, hcode]
    intro other hother
    rw [CaseRun.image?, if_neg (CaseRun.not_mem_of_misses (hothers other hother) himage)]
  rw [lowerChar, if_neg hnot, hnone]

theorem isBlank_of_mem_runs {run : CaseRun} (hrun : run ∈ caseRuns) {n m : Nat}
    (himage : run.image? n = some m) : isBlank (Char.ofNat m) = false := by
  rcases ofNat_cases m with hzero | hcode
  · rw [hzero]
    decide
  have hmisses := List.all_eq_true.mp (List.all_eq_true.mp caseRuns_visible run hrun)
  rw [isBlank, Ranges.contains, hcode, List.any_eq_false]
  intro range hrange hmem
  rw [Bool.and_eq_true, decide_eq_true_eq, decide_eq_true_eq] at hmem
  exact CaseRun.not_mem_of_misses (hmisses range hrange) himage ⟨hmem.1, hmem.2, Nat.mod_one _⟩

/-- A character of a lower-case form: it is its own form, and it is white space only if the character
it stands for is. -/
structure IsLowerOf (c d : Char) : Prop where
  stable : lowerChar d = [d]
  visible : isBlank c = false → isBlank d = false

theorem isLowerOf_of_mem (h : d ∈ lowerChar c) : IsLowerOf c d := by
  rw [lowerChar] at h
  split at h
  · -- the dotted capital I
    rcases List.mem_cons.mp h with rfl | h
    · exact ⟨by decide, fun _ => by decide⟩
    · rw [List.mem_singleton.mp h]
      exact ⟨by decide, fun _ => by decide⟩
  rename_i hdotted
  split at h
  · rename_i m hm
    obtain ⟨run, hrun, himage⟩ := List.exists_of_findSome?_eq_some hm
    rw [List.mem_singleton.mp h]
    exact ⟨lowerChar_of_mem_runs hrun himage, fun _ => isBlank_of_mem_runs hrun himage⟩
  · rename_i hnone
    rw [List.mem_singleton.mp h]
    refine ⟨?_, id⟩
    rw [lowerChar, if_neg hdotted, hnone]

theorem lowerChar_ne_nil (c : Char) : lowerChar c ≠ [] := by
  rw [lowerChar]
  split
  · exact List.cons_ne_nil _ _
  split <;> exact List.cons_ne_nil _ _

/-! ## The form of a text -/

-- A text's form is put together from those of its characters.
theorem lowerAfter_cons (before : List Char) (c : Char) (rest : List Char) :
    ∃ form, form ≠ [] ∧ (∀ d ∈ form, IsLowerOf c d) ∧
      lowerAfter before (c :: rest) = form ++ lowerAfter (c :: before) rest := by
  refine ⟨_, ?_, ?_, rfl⟩
  · split
    · exact List.cons_ne_nil _ _
    · exact lowerChar_ne_nil c
  · split
    · intro d hd
      rw [List.mem_singleton.mp hd]
      split <;> exact ⟨by decide, fun _ => by decide⟩
    · exact fun d => isLowerOf_of_mem

theorem lowerChar_of_mem_lowerAfter {before : List Char} (h : d ∈ lowerAfter before cs) :
    lowerChar d = [d] := by
  induction cs generalizing before with
  | nil => cases h
  | cons c rest ih =>
    obtain ⟨form, -, hform, heq⟩ := lowerAfter_cons before c rest
    rw [heq] at h
    rcases List.mem_append.mp h with h | h
    · exact (hform d h).stable
    · exact ih h

-- A text all of whose characters are their own forms is left as it is.
theorem lowerAfter_eq_self {before : List Char} (h : ∀ c ∈ cs, lowerChar c = [c]) :
    lowerAfter before cs = cs := by
  induction cs generalizing before with
  | nil => rfl
  | cons c rest ih =>
    have hc := h c List.mem_cons_self
    have hsigma : c ≠ 'Σ' := by
      rintro rfl
      exact absurd hc (by decide)
    rw [lowerAfter, if_neg hsigma, hc, ih fun d hd => h d (List.mem_cons_of_mem _ hd)]
    rfl

/-- Lower case has no lower-case form but itself. -/
theorem lowerChars_lowerChars (cs : List Char) : lowerChars (lowerChars cs) = lowerChars cs :=
  lowerAfter_eq_self fun _ => lowerChar_of_mem_lowerAfter

-- The last character of a form belongs to the last character of the text.
theorem getLast?_lowerAfter {before : List Char} (h : d ∈ (lowerAfter before cs).getLast?) :
    ∃ c ∈ cs.getLast?, IsLowerOf c d := by
  induction cs generalizing before with
  | nil => cases h
  | cons c rest ih =>
    obtain ⟨form, -, hform, heq⟩ := lowerAfter_cons before c rest
    rw [heq] at h
    cases rest with
    | nil =>
      rw [lowerAfter, List.append_nil] at h
      exact ⟨c, rfl, hform d (List.mem_of_mem_getLast? h)⟩
    | cons c' rest =>
      obtain ⟨form', hne, -, heq'⟩ := lowerAfter_cons (c :: before) c' rest
      have hmore : lowerAfter (c :: before) (c' :: rest) ≠ [] := by
        rw [heq']
        exact List.append_ne_nil_of_left_ne_nil hne _
      rw [List.getLast?_append, List.getLast?_eq_some_getLast hmore, Option.some_or,
        ← List.getLast?_eq_some_getLast hmore] at h
      obtain ⟨b, hb, hlower⟩ := ih h
      exact ⟨b, hb, hlower⟩

theorem IsTrimmed.lowerChars (h : IsTrimmed cs) : IsTrimmed (lowerChars cs) := by
  constructor
  · cases cs with
    | nil => exact fun _ hd => nomatch hd
    | cons c rest =>
      obtain ⟨form, hne, hform, heq⟩ := lowerAfter_cons [] c rest
      obtain ⟨d, more, rfl⟩ := List.exists_cons_of_ne_nil hne
      rw [Text.lowerChars, heq]
      rintro _ ⟨⟩
      exact (hform d List.mem_cons_self).visible (h.head c rfl)
  · intro d hd
    obtain ⟨c, hc, hlower⟩ := getLast?_lowerAfter hd
    exact hlower.visible (h.last c hc)

/-! ## Capitals of ASCII -/

theorem toLower_eq_self (h : c.toNat < 65 ∨ 90 < c.toNat) : c.toLower = c := by
  refine dif_neg fun hrange => ?_
  have hfirst : 65 ≤ c.toNat := hrange.1
  have hlast : c.toNat ≤ 90 := hrange.2
  omega

-- What holds of the capitals with their small letters, and of all characters with themselves.
theorem toLower_induction {p : Char → Char → Prop}
    (hcapital : ∀ n < 26, p (Char.ofNat (65 + n)).toLower (Char.ofNat (65 + n)))
    (hself : ∀ c, p c c) (c : Char) : p c.toLower c := by
  by_cases h : 65 ≤ c.toNat ∧ c.toNat ≤ 90
  · have hn := hcapital (c.toNat - 65) (by omega)
    rwa [Nat.add_sub_cancel' h.1, Char.ofNat_toNat] at hn
  · rw [toLower_eq_self (by omega)]
    exact hself c

theorem toLower_mem_lowerChar : ∀ n < 26,
    (Char.ofNat (65 + n)).toLower ∈ lowerChar (Char.ofNat (65 + n)) ∧
      (lowerChar (Char.ofNat (65 + n))).length = 1 := by
  decide

theorem lowerChar_toLower (c : Char) : lowerChar c.toLower = lowerChar c := by
  refine toLower_induction (p := fun d c => lowerChar d = lowerChar c) (fun n hn => ?_)
    (fun _ => rfl) c
  obtain ⟨hmem, hlength⟩ := toLower_mem_lowerChar n hn
  obtain ⟨d, hd⟩ := List.length_eq_one_iff.mp hlength
  rw [(isLowerOf_of_mem hmem).stable, hd, List.cons_eq_cons]
  rw [hd] at hmem
  exact ⟨List.mem_singleton.mp hmem, rfl⟩

theorem isBlank_toLower (c : Char) : isBlank c.toLower = isBlank c :=
  toLower_induction (p := fun d c => isBlank d = isBlank c) (by decide) (fun _ => rfl) c

theorem contains_caseIgnorable_toLower (c : Char) :
    caseIgnorableRanges.contains c.toLower = caseIgnorableRanges.contains c :=
  toLower_induction (p := fun d c => caseIgnorableRanges.contains d = caseIgnorableRanges.contains c)
    (by decide +kernel) (fun _ => rfl) c

theorem contains_cased_toLower (c : Char) :
    casedRanges.contains c.toLower = casedRanges.contains c :=
  toLower_induction (p := fun d c => casedRanges.contains d = casedRanges.contains c)
    (by decide) (fun _ => rfl) c

theorem toLower_eq_sigma_iff (c : Char) : c.toLower = 'Σ' ↔ c = 'Σ' :=
  toLower_induction (p := fun d c => d = 'Σ' ↔ c = 'Σ') (by decide) (fun _ => Iff.rfl) c

theorem startsCased_map_toLower (cs : List Char) :
    startsCased (cs.map Char.toLower) = startsCased cs := by
  have hignorable : caseIgnorableRanges.contains ∘ Char.toLower = caseIgnorableRanges.contains :=
    funext contains_caseIgnorable_toLower
  rw [startsCased, startsCased, List.dropWhile_map, hignorable]
  cases cs.dropWhile caseIgnorableRanges.contains with
  | nil => rfl
  | cons c rest => exact contains_cased_toLower c

theorem lowerAfter_map_toLower (before cs : List Char) :
    lowerAfter (before.map Char.toLower) (cs.map Char.toLower) = lowerAfter before cs := by
  induction cs generalizing before with
  | nil => rfl
  | cons c rest ih =>
    have hrest := ih (c :: before)
    rw [List.map_cons] at hrest ⊢
    rw [lowerAfter, lowerAfter, hrest, lowerChar_toLower, startsCased_map_toLower,
      startsCased_map_toLower]
    simp only [toLower_eq_sigma_iff]

theorem lowerChars_map_toLower (cs : List Char) :
    lowerChars (cs.map Char.toLower) = lowerChars cs :=
  lowerAfter_map_toLower [] cs

end Vouch.Text
