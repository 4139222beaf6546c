import Vouch.Text.Composed

/-!
# Texts that are in composed form

A text stays as it is if none of its characters is a mark, has parts or is the second part of a
composite.  This holds of the ASCII characters and of the ideographs of the supplementary plane,
since the tables of composites and marks lie between them.  Whatever a text is composed of, what
holds of its characters, of parts and of composites holds of the outcome.
-/

namespace Vouch.Text

/-! ## Reading a table -/

/-- The entries of a table whose text is given by its characters. -/
def entriesOf (cs : List Char) : List (List Char) :=
  (fields ' ' (cs.map fun c => if c = '\n' then ' ' else c)).filter (!·.isEmpty)

theorem tableEntries_ofList (cs : List Char) :
    tableEntries (String.ofList cs) = entriesOf cs := by
  rw [tableEntries, String.toList_ofList]
  rfl

/-- What holds of each range is checked on the characters of the table. -/
theorem Ranges.all_ofText {p : Nat × Nat → Bool} {cs : List Char}
    (h : (entriesOf cs).all (fun entry => p (hexRange entry)) = true) :
    (Ranges.ofText (String.ofList cs)).all p = true := by
  rw [Ranges.ofText, tableEntries_ofList, List.all_map]
  exact h

theorem Ranges.mem_ofText {range : Nat × Nat} {cs : List Char}
    (h : (entriesOf cs).any (fun entry => hexRange entry == range) = true) :
    range ∈ Ranges.ofText (String.ofList cs) := by
  obtain ⟨entry, hmem, heq⟩ := List.any_eq_true.mp h
  rw [Ranges.ofText, tableEntries_ofList]
  exact List.mem_map.mpr ⟨entry, hmem, beq_iff_eq.mp heq⟩

theorem Ranges.contains_of_mem {ranges : Ranges} {range : Nat × Nat} {c : Char}
    (h : range ∈ ranges) (hlow : range.1 ≤ c.toNat) (hhigh : c.toNat ≤ range.2) :
    ranges.contains c = true := by
  refine List.any_eq_true.mpr ⟨range, h, ?_⟩
  rw [decide_eq_true hlow, decide_eq_true hhigh]
  rfl

-- The composite that a run stands for.
def compositeOf? (run : MappedRun) : Option (Char × Char × Char) :=
  match run.image with
  | [base, mark] => some (Char.ofNat run.first, Char.ofNat base, Char.ofNat mark)
  | _ => none

theorem readRuns_all {p : MappedRun → Bool} {cs : List Char}
    (h : (entriesOf cs).all (fun entry => (readRun? entry).all p) = true) :
    (readRuns (String.ofList cs)).all p = true := by
  rw [readRuns, tableEntries_ofList]
  refine List.all_eq_true.mpr fun run hmem => ?_
  obtain ⟨entry, hentry, hread⟩ := List.mem_filterMap.mp hmem
  have hp := List.all_eq_true.mp h entry hentry
  rw [hread] at hp
  exact hp

theorem readComposites_all {p : Char × Char × Char → Bool} {cs : List Char}
    (h : (entriesOf cs).all (fun entry => ((readRun? entry).bind compositeOf?).all p) = true) :
    (readComposites (String.ofList cs)).all p = true := by
  rw [readComposites, readRuns, tableEntries_ofList]
  refine List.all_eq_true.mpr fun composite hmem => ?_
  obtain ⟨run, hrun, hcomposite⟩ := List.mem_filterMap.mp hmem
  obtain ⟨entry, hentry, hread⟩ := List.mem_filterMap.mp hrun
  have hp := List.all_eq_true.mp h entry hentry
  rw [hread, Option.bind_some, show compositeOf? run = some composite from hcomposite] at hp
  exact hp

/-- Whether a range lies between the ASCII characters and the supplementary ideographs. -/
def isMiddle (range : Nat × Nat) : Bool :=
  0x80 ≤ range.1 && range.2 < 0x20000

set_option maxRecDepth 100000 in
theorem composites_middle : composites.all (fun entry =>
    isMiddle (entry.1.toNat, entry.1.toNat) && isMiddle (entry.2.2.toNat, entry.2.2.toNat)) =
    true := by
  rw [composites]
  apply readComposites_all
  decide +kernel

set_option maxRecDepth 100000 in
theorem nonspacing_middle : nonspacingRanges.all isMiddle = true := by
  rw [nonspacingRanges]
  apply Ranges.all_ofText
  decide +kernel

set_option maxRecDepth 100000 in
theorem spacing_middle : spacingRanges.all isMiddle = true := by
  rw [spacingRanges]
  apply Ranges.all_ofText
  decide +kernel

set_option maxRecDepth 100000 in
theorem combiningClasses_middle :
    combiningClasses.all (fun entry => entry.2.all isMiddle) = true := by
  rw [combiningClasses]
  simp only [List.all_cons, List.all_nil, Bool.and_true, Bool.and_eq_true]
  and_intros <;> (apply Ranges.all_ofText; decide +kernel)

/-! ## Characters outside the tables -/

/-- Whether a character is an ASCII character or one of the supplementary ideographs. -/
def isOuter (c : Char) : Bool :=
  c.toNat < 0x80 || 0x20000 ≤ c.toNat

variable {c : Char}

-- No range of a table in between holds such a character.
theorem contains_eq_false {ranges : Ranges} (hranges : ranges.all isMiddle = true)
    (hc : isOuter c = true) : ranges.contains c = false := by
  refine Bool.eq_false_iff.mpr fun hcontains => ?_
  obtain ⟨range, hmem, hrange⟩ := List.any_eq_true.mp hcontains
  have hmiddle := List.all_eq_true.mp hranges range hmem
  simp only [isMiddle, isOuter, Bool.and_eq_true, Bool.or_eq_true, decide_eq_true_eq] at *
  omega

theorem not_middle (hc : isOuter c = true) : isMiddle (c.toNat, c.toNat) = false := by
  simp only [isOuter, Bool.or_eq_true, decide_eq_true_eq] at hc
  simp only [isMiddle, Bool.and_eq_false_iff, decide_eq_false_iff_not]
  omega

theorem isMark_eq_false (hc : isOuter c = true) : isMark c = false := by
  rw [isMark, contains_eq_false nonspacing_middle hc, contains_eq_false spacing_middle hc]
  rfl

theorem combiningClass_eq_zero (hc : isOuter c = true) : combiningClass c = 0 := by
  rw [combiningClass]
  split
  · rfl
  · have hnone : combiningClasses.find? (fun entry => entry.2.contains c) = none := by
      refine List.find?_eq_none.mpr fun entry hmem => ?_
      rw [contains_eq_false (List.all_eq_true.mp combiningClasses_middle entry hmem) hc]
      decide
    rw [hnone]
    rfl

theorem parts?_eq_none (hc : isOuter c = true) : parts? c = none := by
  have hsyllable : syllableParts? c = none := by
    simp only [isOuter, Bool.or_eq_true, decide_eq_true_eq] at hc
    exact if_neg (by omega)
  have hnone : composites.find? (fun entry => entry.1 == c) = none := by
    refine List.find?_eq_none.mpr fun entry hmem heq => ?_
    have hmiddle := List.all_eq_true.mp composites_middle entry hmem
    rw [beq_iff_eq.mp heq, not_middle hc] at hmiddle
    cases hmiddle
  rw [parts?, hsyllable, hnone]
  rfl

-- Such a character is taken up by no letter.
theorem composite?_eq_none (letter : Char) (hc : isOuter c = true) :
    composite? letter c = none := by
  have hsyllable : syllable? letter c = none := by
    simp only [isOuter, Bool.or_eq_true, decide_eq_true_eq] at hc
    rw [syllable?, if_neg (by omega), if_neg (by omega)]
  have hnone : composites.find? (fun entry => entry.2 == (letter, c)) = none := by
    refine List.find?_eq_none.mpr fun entry hmem heq => ?_
    have hmiddle := List.all_eq_true.mp composites_middle entry hmem
    rw [beq_iff_eq.mp heq, not_middle hc, Bool.and_false] at hmiddle
    cases hmiddle
  rw [composite?, hsyllable, hnone]
  rfl

/-! ## The three steps of composing -/

variable {cs : List Char}

theorem takeApart_eq (hc : isOuter c = true) : takeApart compositeDepth c = [c] := by
  rw [compositeDepth, takeApart, parts?_eq_none hc]

theorem orderMarks_eq (hcs : ∀ c ∈ cs, isOuter c = true) : orderMarks cs = cs := by
  induction cs with
  | nil => rfl
  | cons c cs ih =>
    obtain ⟨-, hrest⟩ := List.forall_mem_cons.mp hcs
    rw [orderMarks, List.foldr_cons, ← orderMarks, ih hrest]
    cases cs with
    | nil => rfl
    | cons d cs =>
      have hclass := combiningClass_eq_zero (hrest d List.mem_cons_self)
      exact if_neg fun h => h.1 hclass

theorem composeFrom_eq (letter : Char) (hcs : ∀ c ∈ cs, isOuter c = true) :
    composeFrom letter [] cs = letter :: cs := by
  induction cs generalizing letter with
  | nil => rfl
  | cons c cs ih =>
    obtain ⟨hc, hrest⟩ := List.forall_mem_cons.mp hcs
    simp only [composeFrom, List.head?_nil, Option.any_none, composite?_eq_none letter hc,
      combiningClass_eq_zero hc, ih c hrest]
    rfl

/-- A text without marks and composites is in composed form. -/
theorem composed_eq (hcs : ∀ c ∈ cs, isOuter c = true) : composed cs = cs := by
  have happart : cs.flatMap (takeApart compositeDepth) = cs := by
    induction cs with
    | nil => rfl
    | cons c cs ih =>
      obtain ⟨hc, hrest⟩ := List.forall_mem_cons.mp hcs
      rw [List.flatMap_cons, takeApart_eq hc, ih hrest]
      rfl
  rw [composed, happart, orderMarks_eq hcs]
  cases cs with
  | nil => rfl
  | cons c cs =>
    obtain ⟨hc, hrest⟩ := List.forall_mem_cons.mp hcs
    rw [composeMarks, if_pos (combiningClass_eq_zero hc), composeFrom_eq c hrest]

/-! ## What a composed text holds -/

section Holds

variable {P : Char → Prop} {cs : List Char}

theorem forall_takeApart (hparts : ∀ {c a b}, P c → parts? c = some (a, b) → P a ∧ P b) {c : Char}
    (h : P c) (depth : Nat) : ∀ d ∈ takeApart depth c, P d := by
  induction depth generalizing c with
  | zero =>
    intro d hd
    rw [List.mem_singleton.mp hd]
    exact h
  | succ depth ih =>
    rw [takeApart]
    split
    · rename_i a b hab
      obtain ⟨ha, hb⟩ := hparts h hab
      intro d hd
      rcases List.mem_append.mp hd with hd | hd
      · exact ih ha d hd
      · rw [List.mem_singleton.mp hd]
        exact hb
    · intro d hd
      rw [List.mem_singleton.mp hd]
      exact h

theorem forall_insertMark {mark : Char} (hmark : P mark) (h : ∀ c ∈ cs, P c) :
    ∀ c ∈ insertMark mark cs, P c := by
  induction cs with
  | nil => exact List.forall_mem_cons.mpr ⟨hmark, h⟩
  | cons c cs ih =>
    obtain ⟨hc, hrest⟩ := List.forall_mem_cons.mp h
    rw [insertMark]
    split
    · exact List.forall_mem_cons.mpr ⟨hc, ih hrest⟩
    · exact List.forall_mem_cons.mpr ⟨hmark, h⟩

theorem forall_orderMarks (h : ∀ c ∈ cs, P c) : ∀ c ∈ orderMarks cs, P c := by
  induction cs with
  | nil => exact h
  | cons c cs ih =>
    obtain ⟨hc, hrest⟩ := List.forall_mem_cons.mp h
    exact forall_insertMark hc (ih hrest)

section Composites

variable (hwhole : ∀ {a b c}, P a → P b → composite? a b = some c → P c)
include hwhole

theorem forall_composeFrom {letter : Char} {kept : List Char} (hletter : P letter)
    (hkept : ∀ c ∈ kept, P c) (h : ∀ c ∈ cs, P c) : ∀ c ∈ composeFrom letter kept cs, P c := by
  have hclosed : ∀ {letter : Char} {kept : List Char}, P letter → (∀ c ∈ kept, P c) →
      ∀ c ∈ letter :: kept.reverse, P c := fun hletter hkept =>
    List.forall_mem_cons.mpr ⟨hletter, fun c hc => hkept c (List.mem_reverse.mp hc)⟩
  induction cs generalizing letter kept with
  | nil => exact hclosed hletter hkept
  | cons c cs ih =>
    obtain ⟨hc, hrest⟩ := List.forall_mem_cons.mp h
    rw [composeFrom]
    split
    · rename_i whole hcomposite
      refine ih (hwhole hletter hc ?_) hkept hrest
      split at hcomposite
      · cases hcomposite
      · exact hcomposite
    split
    · intro d hd
      rcases List.mem_append.mp hd with hd | hd
      · exact hclosed hletter hkept d hd
      · exact @ih c [] hc (fun _ hmem => (nomatch hmem)) hrest d hd
    · exact ih hletter (List.forall_mem_cons.mpr ⟨hc, hkept⟩) hrest

theorem forall_composeMarks (h : ∀ c ∈ cs, P c) : ∀ c ∈ composeMarks cs, P c := by
  induction cs with
  | nil => exact h
  | cons c cs ih =>
    obtain ⟨hc, hrest⟩ := List.forall_mem_cons.mp h
    rw [composeMarks]
    split
    · exact forall_composeFrom hwhole hc (fun _ hmem => (nomatch hmem)) hrest
    · exact List.forall_mem_cons.mpr ⟨hc, ih hrest⟩

/-- What holds of the characters of a text, of the parts and of the composites holds of all
characters of the composed text. -/
theorem forall_composed (hparts : ∀ {c a b}, P c → parts? c = some (a, b) → P a ∧ P b)
    (h : ∀ c ∈ cs, P c) : ∀ c ∈ composed cs, P c := by
  refine forall_composeMarks hwhole (forall_orderMarks fun c hc => ?_)
  obtain ⟨d, hd, hc⟩ := List.mem_flatMap.mp hc
  exact forall_takeApart hparts (h d hd) _ c hc

end Composites

end Holds

end Vouch.Text
