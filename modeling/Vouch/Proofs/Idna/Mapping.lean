import Vouch.Proofs.Idna.Domain

/-!
# Mapped names hold no capitals

Capitals of ASCII are mapped to small letters, and nothing else is mapped to a capital or has one
for a part.
-/

namespace Vouch

open Text (MappedRun)

namespace Text

theorem isUpper_eq_false {c : Char} (h : c.toNat < 65 ∨ 90 < c.toNat) : c.isUpper = false :=
  decide_eq_false (p := 65 ≤ c.toNat ∧ c.toNat ≤ 90) (by omega)

theorem isUpper_ofNat {n : Nat} (h : n < 65 ∨ 90 < n) : (Char.ofNat n).isUpper = false := by
  by_cases hvalid : n.isValidChar
  · have hchar : Char.ofNat n = Char.ofNatAux n hvalid := dif_pos hvalid
    rw [hchar]
    exact isUpper_eq_false h
  · have hchar : Char.ofNat n = '\x00' := dif_neg hvalid
    rw [hchar]
    rfl

set_option maxRecDepth 100000 in
theorem composites_lower : composites.all (fun entry => !entry.2.1.isUpper) = true := by
  rw [composites]
  apply readComposites_all
  decide +kernel

theorem isUpper_of_isMiddle {c : Char} (h : isMiddle (c.toNat, c.toNat) = true) :
    c.isUpper = false := by
  have hlow := of_decide_eq_true (Bool.and_eq_true_iff.mp h).1
  exact isUpper_eq_false (.inr (by dsimp only at hlow; omega))

theorem isUpper_of_parts? {c a b : Char} (h : parts? c = some (a, b)) :
    a.isUpper = false ∧ b.isUpper = false := by
  rw [parts?] at h
  split at h
  · rename_i parts hparts
    rw [syllableParts?] at hparts
    split at hparts
    · rename_i hsyllable
      rw [h] at hparts
      dsimp only at hparts
      split at hparts
      all_goals
        obtain ⟨ha, hb⟩ := Prod.mk.inj (Option.some.inj hparts)
        rw [← ha, ← hb]
        exact ⟨isUpper_ofNat (.inr (by omega)), isUpper_ofNat (.inr (by omega))⟩
    · cases hparts
  · obtain ⟨entry, hentry, hparts⟩ := Option.map_eq_some_iff.mp h
    have hmem := List.mem_of_find?_eq_some hentry
    have hlower := List.all_eq_true.mp composites_lower entry hmem
    have hmiddle := List.all_eq_true.mp composites_middle entry hmem
    rw [hparts] at hlower hmiddle
    exact ⟨by simpa using hlower, isUpper_of_isMiddle (Bool.and_eq_true_iff.mp hmiddle).2⟩

theorem isUpper_of_composite? {a b c : Char} (h : composite? a b = some c) :
    c.isUpper = false := by
  rw [composite?] at h
  split at h
  · rename_i whole hwhole
    cases h
    rw [syllable?] at hwhole
    split at hwhole
    · rw [← Option.some.inj hwhole]
      refine isUpper_ofNat (.inr ?_)
      omega
    split at hwhole
    · rw [← Option.some.inj hwhole]
      refine isUpper_ofNat (.inr ?_)
      omega
    · cases hwhole
  · obtain ⟨entry, hentry, rfl⟩ := Option.map_eq_some_iff.mp h
    have hmiddle := List.all_eq_true.mp composites_middle entry (List.mem_of_find?_eq_some hentry)
    exact isUpper_of_isMiddle (Bool.and_eq_true_iff.mp hmiddle).1

end Text

namespace Idna

variable {cs name : List Char}

-- Whether all that a run leads to is apart from the capitals.
def avoidsCapitals (run : MappedRun) : Bool :=
  match run.image with
  | [lower] => 90 < lower || lower + (run.last - run.first) < 65
  | image => image.all fun n => n < 65 || 90 < n

set_option maxRecDepth 100000 in
theorem replaced_lower : replacedRuns.all avoidsCapitals = true := by
  rw [replacedRuns]
  apply Text.readRuns_all
  decide +kernel

theorem isUpper_of_image? {run : MappedRun} {n : Nat} {image : List Nat}
    (hrun : avoidsCapitals run = true) (h : run.image? n = some image) :
    ∀ m ∈ image, (Char.ofNat m).isUpper = false := by
  rw [MappedRun.image?] at h
  rw [avoidsCapitals] at hrun
  split at h
  · rename_i hmem
    split at h
    · rename_i lower himage
      cases h
      rw [himage] at hrun
      simp only [Bool.or_eq_true, decide_eq_true_eq] at hrun
      intro m hm
      rw [List.mem_singleton.mp hm]
      exact Text.isUpper_ofNat (by omega)
    · rename_i hother
      cases h
      split at hrun
      · rename_i lower himage
        exact absurd himage (hother lower)
      · intro m hm
        have hm := List.all_eq_true.mp hrun m hm
        simp only [Bool.or_eq_true, decide_eq_true_eq] at hm
        exact Text.isUpper_ofNat hm
  · cases h

theorem toLower_ascii {c : Char} (h : isAscii c = true) : c.toLower.isUpper = false :=
  Text.forall_ascii (p := fun c => c.toLower.isUpper = false) (by decide) (of_decide_eq_true h)

theorem isUpper_of_isAscii {c : Char} (h : ¬isAscii c = true) : c.isUpper = false :=
  Text.isUpper_eq_false (.inr (by
    have hcode := mt decide_eq_true h
    omega))

theorem isUpper_of_mapChar? {c : Char} {image : List Char} (h : mapChar? c = some image) :
    ∀ d ∈ image, d.isUpper = false := by
  rw [mapChar?] at h
  split at h
  · rename_i hascii
    cases h
    intro d hd
    rw [List.mem_singleton.mp hd]
    exact toLower_ascii hascii
  rename_i hascii
  split at h
  · cases h
    intro d hd
    rw [List.mem_singleton.mp hd]
    exact isUpper_of_isAscii hascii
  split at h
  · cases h
    exact fun _ hd => absurd hd List.not_mem_nil
  · obtain ⟨codes, hcodes, rfl⟩ := Option.map_eq_some_iff.mp h
    obtain ⟨run, hrun, himage⟩ := List.exists_of_findSome?_eq_some hcodes
    intro d hd
    obtain ⟨m, hm, rfl⟩ := List.mem_map.mp hd
    exact isUpper_of_image? (List.all_eq_true.mp replaced_lower run hrun) himage m hm

/-- A name in its mapped form holds no capitals of ASCII. -/
theorem isUpper_of_mapped? (h : mapped? cs = some name) : ∀ c ∈ name, c.isUpper = false := by
  obtain ⟨images, himages, h⟩ := Option.bind_eq_some_iff.mp h
  cases h
  refine Text.forall_composed (fun _ _ hwhole => Text.isUpper_of_composite? hwhole)
    (fun _ hparts => Text.isUpper_of_parts? hparts) fun c hc => ?_
  obtain ⟨image, himage, hc⟩ := List.mem_flatten.mp hc
  obtain ⟨d, -, hd⟩ := (exists_of_mapM himages).2 image himage
  exact isUpper_of_mapChar? hd c hc

end Idna

end Vouch
