import Vouch.Idna.Domain
import Vouch.Proofs.Idna.Punycode
import Vouch.Proofs.Text.Composed
import Vouch.Proofs.Text.Split
import Vouch.Proofs.Text.Utf8

/-!
# Names in their ASCII form

A name of ASCII labels without the mark is its own ASCII form.  A label of ideographs is written in
Punycode, and if it is long enough, the form is longer than what is read: the name is accepted, but
its ASCII form is not.
-/

namespace Vouch.Idna

open Text (isOuter)

section Parts

variable {α β : Type} {f : α → Option β} {l : List α}

-- The whole has an outcome if each part has one.
theorem mapM_eq_ite {bad : α → Bool} {g : α → β}
    (h : ∀ x ∈ l, f x = if bad x then none else some (g x)) :
    l.mapM f = if l.any bad then none else some (l.map g) := by
  induction l with
  | nil => rfl
  | cons x l ih =>
    obtain ⟨hx, hrest⟩ := List.forall_mem_cons.mp h
    rw [List.mapM_cons, hx, ih hrest, List.any_cons, List.map_cons]
    cases bad x <;> cases l.any bad <;> rfl

theorem mapM_eq_some {g : α → β} (h : ∀ x ∈ l, f x = some (g x)) : l.mapM f = some (l.map g) := by
  have hnone : l.any (fun _ => false) = false := List.any_eq_false.mpr fun _ _ => Bool.false_ne_true
  rw [@mapM_eq_ite α β f l (fun _ => false) g h, hnone]
  rfl

-- Every outcome is that of a part.
theorem exists_of_mapM {l' : List β} (h : l.mapM f = some l') :
    (l ≠ [] → l' ≠ []) ∧ ∀ y ∈ l', ∃ x ∈ l, f x = some y := by
  induction l generalizing l' with
  | nil =>
    cases h
    exact ⟨absurd rfl, fun _ hy => (nomatch hy)⟩
  | cons x l ih =>
    rw [List.mapM_cons] at h
    obtain ⟨y, hy, h⟩ := Option.bind_eq_some_iff.mp h
    obtain ⟨rest, hrest, h⟩ := Option.bind_eq_some_iff.mp h
    cases h
    refine ⟨fun _ => List.cons_ne_nil _ _, List.forall_mem_cons.mpr ⟨⟨x, List.mem_cons_self, hy⟩, ?_⟩⟩
    intro z hz
    obtain ⟨x', hx', hfx⟩ := (ih hrest).2 z hz
    exact ⟨x', List.mem_cons_of_mem x hx', hfx⟩

end Parts

/-! ## Characters that stay -/

theorem mapChar?_of_isKept {c : Char} (h : isKept c = true) : mapChar? c = some [c] := by
  rw [isKept] at h
  rw [mapChar?]
  split at h
  · rename_i hascii
    have hlower : (!c.isUpper) = true → c.toLower = c :=
      Text.forall_ascii (p := fun c => (!c.isUpper) = true → c.toLower = c) (by decide)
        (of_decide_eq_true hascii)
    rw [if_pos hascii, hlower h]
  · rename_i hascii
    rw [if_neg hascii, if_pos h]

/-- A name of characters that are kept is not changed by the mapping. -/
theorem mapped?_eq {name : List Char} (hkept : ∀ c ∈ name, isKept c = true)
    (houter : ∀ c ∈ name, isOuter c = true) : mapped? name = some name := by
  have himages : name.mapM mapChar? = some (name.map fun c => [c]) :=
    mapM_eq_some fun c hc => mapChar?_of_isKept (hkept c hc)
  rw [mapped?, himages]
  show some (Text.composed (name.map fun c => [c]).flatten) = some name
  rw [← List.flatMap_def, List.flatMap_singleton', Text.composed_eq houter]

set_option maxRecDepth 100000 in
theorem rightToLeft_middle : rightToLeftRanges.all Text.isMiddle = true := by
  rw [rightToLeftRanges]
  apply Text.Ranges.all_ofText
  decide +kernel

set_option maxRecDepth 100000 in
theorem arabicNumber_middle : arabicNumberRanges.all Text.isMiddle = true := by
  rw [arabicNumberRanges]
  apply Text.Ranges.all_ofText
  decide +kernel

theorem turnsDirection_eq_false {c : Char} (hc : isOuter c = true) : turnsDirection c = false := by
  have hright := Text.contains_eq_false rightToLeft_middle hc
  have harabic := Text.contains_eq_false arabicNumber_middle hc
  rw [turnsDirection, Direction.ofChar, hright, harabic]
  simp only [Bool.false_eq_true, if_false]
  split
  · rfl
  split
  · rfl
  split
  · rfl
  split <;> rfl

/-- The ASCII form of a name whose characters stay, label by label. -/
theorem toAscii?_eq {name : List Char}
    (hkept : ∀ c ∈ name, isKept c = true) (houter : ∀ c ∈ name, isOuter c = true)
    (hlabels : ∀ label ∈ Text.fields '.' name, readLabel? label = some label) :
    toAscii? name = some (['.'].intercalate ((Text.fields '.' name).map labelToAscii)) := by
  have hread : (Text.fields '.' name).mapM readLabel? = some (Text.fields '.' name) := by
    rw [mapM_eq_some hlabels, List.map_id']
  have hturn : (Text.fields '.' name).any (fun label => label.any turnsDirection) = false := by
    refine List.any_eq_false.mpr fun label hlabel => ?_
    refine Bool.not_eq_true _ ▸ List.any_eq_false.mpr fun c hc => ?_
    rw [turnsDirection_eq_false (houter c (Text.mem_of_mem_fields hlabel hc))]
    decide
  rw [toAscii?, mapped?_eq hkept houter]
  simp only [Option.bind_eq_bind, Option.bind_some, hread, hturn]
  rfl

/-! ## ASCII names -/

-- The mark of Punycode begins with a letter.
theorem isPrefixOf_asciiMark {label : List Char} (h : 'x' ∉ label) :
    asciiMark.isPrefixOf label = false :=
  Bool.eq_false_iff.mpr fun hmark =>
    h ((List.isPrefixOf_iff_prefix.mp hmark).subset List.mem_cons_self)

/-- A name of ASCII characters in lower case whose labels bear no mark is its own ASCII form. -/
theorem toAscii?_ascii {name : List Char}
    (hascii : ∀ c ∈ name, isAscii c = true ∧ c.isUpper = false)
    (hmark : ∀ label ∈ Text.fields '.' name, asciiMark.isPrefixOf label = false) :
    toAscii? name = some name := by
  have hkept : ∀ c ∈ name, isKept c = true := by
    intro c hc
    rw [isKept, if_pos (hascii c hc).1, (hascii c hc).2]
    rfl
  have houter : ∀ c ∈ name, isOuter c = true := by
    intro c hc
    rw [isOuter, show decide (c.toNat < 0x80) = true from (hascii c hc).1, Bool.true_or]
  have hall : ∀ label ∈ Text.fields '.' name, label.all isAscii = true := fun label hlabel =>
    List.all_eq_true.mpr fun c hc => (hascii c (Text.mem_of_mem_fields hlabel hc)).1
  have hread : ∀ label ∈ Text.fields '.' name, readLabel? label = some label := by
    intro label hlabel
    rw [readLabel?, if_neg (by rw [hmark label hlabel]; decide), hall label hlabel]
    rfl
  have hforms : (Text.fields '.' name).map labelToAscii = Text.fields '.' name := by
    refine (List.map_congr_left fun label hlabel => ?_).trans (List.map_id _)
    rw [labelToAscii, if_pos (hall label hlabel)]
    rfl
  rw [toAscii?_eq hkept houter hread, hforms, Text.intercalate_fields]

/-! ## Labels of ideographs -/

/-- Whether a character is one of the ideographs of the supplementary plane. -/
def IsIdeograph (c : Char) : Prop :=
  0x20000 ≤ c.toNat ∧ c.toNat ≤ 0x2A6DF

set_option maxRecDepth 100000 in
theorem ideographs_mem_kept : (0x20000, 0x2A6DF) ∈ keptRanges := by
  rw [keptRanges]
  apply Text.Ranges.mem_ofText
  decide +kernel

theorem isOuter_of_isIdeograph {c : Char} (h : IsIdeograph c) : isOuter c = true := by
  rw [isOuter, decide_eq_true h.1, Bool.or_true]

theorem isAscii_of_isIdeograph {c : Char} (h : IsIdeograph c) : isAscii c = false := by
  refine decide_eq_false ?_
  have hcode := h.1
  omega

theorem isKept_of_isIdeograph {c : Char} (h : IsIdeograph c) : isKept c = true := by
  obtain ⟨hlow, hhigh⟩ := h
  rw [isKept, isAscii_of_isIdeograph ⟨hlow, hhigh⟩, if_neg Bool.false_ne_true]
  exact Text.Ranges.contains_of_mem ideographs_mem_kept hlow hhigh

section Ideographs

variable {label : List Char}

theorem joinersFitAfter_of_ne (h : ∀ c ∈ label, c ≠ nonJoiner ∧ c ≠ joiner) (before : List Char) :
    joinersFitAfter before label = true := by
  induction label generalizing before with
  | nil => rfl
  | cons c label ih =>
    obtain ⟨hc, hrest⟩ := List.forall_mem_cons.mp h
    rw [joinersFitAfter, if_neg (not_or.mpr hc), ih hrest]
    rfl

theorem isWellFormed_ideographs (h : ∀ c ∈ label, IsIdeograph c) : isWellFormed label = true := by
  have houter : ∀ c ∈ label, isOuter c = true := fun c hc => isOuter_of_isIdeograph (h c hc)
  have hkept : label.all isKept = true :=
    List.all_eq_true.mpr fun c hc => isKept_of_isIdeograph (h c hc)
  have hmark : label.head?.any Text.isMark = false := by
    cases label with
    | nil => rfl
    | cons c label =>
      rw [List.head?_cons, Option.any_some, Text.isMark_eq_false (houter c List.mem_cons_self)]
  have hjoiners : joinersFit label = true := by
    have hcodes : nonJoiner.toNat < 0x20000 ∧ joiner.toNat < 0x20000 := by decide +kernel
    refine joinersFitAfter_of_ne (fun c hc => ?_) []
    have hcode := (h c hc).1
    constructor <;> rintro rfl <;> omega
  rw [isWellFormed, hkept, Text.composed_eq houter, hmark, hjoiners]
  simp only [decide_true, Bool.not_false, Bool.and_self]

theorem not_mem_of_ideographs (h : ∀ c ∈ label, IsIdeograph c) {c : Char} (hc : c.toNat < 0x20000) :
    c ∉ label :=
  fun hmem => absurd (h c hmem).1 (Nat.not_le.mpr hc)

/-- A label of ideographs is written in Punycode. -/
theorem toAscii?_ideographs (h : ∀ c ∈ label, IsIdeograph c) (hne : label ≠ [])
    (hlength : label.length ≤ maxWritten) :
    toAscii? label = some (asciiMark ++ Punycode.encode label) := by
  have hfields : Text.fields '.' label = [label] :=
    Text.fields_eq_singleton (not_mem_of_ideographs h (by decide))
  have hascii : label.all isAscii = false := by
    obtain ⟨c, rest, rfl⟩ := List.exists_cons_of_ne_nil hne
    rw [List.all_cons, isAscii_of_isIdeograph (h c List.mem_cons_self), Bool.false_and]
  have hmark : asciiMark.isPrefixOf label = false :=
    isPrefixOf_asciiMark (not_mem_of_ideographs h (by decide))
  have hread : readLabel? label = some label := by
    rw [readLabel?, hmark, hascii, isWellFormed_ideographs h, decide_eq_true hlength]
    rfl
  rw [toAscii?_eq (fun c hc => isKept_of_isIdeograph (h c hc))
    (fun c hc => isOuter_of_isIdeograph (h c hc))
    (by rw [hfields]; exact fun l hl => List.mem_singleton.mp hl ▸ hread), hfields,
    List.map_singleton, labelToAscii, hascii]
  exact congrArg some (List.append_nil _)

/-- An ASCII form that is too long is not read. -/
theorem toAscii?_long {form : List Char} (hform : Punycode.IsForm form)
    (hlength : maxRead < form.length) : toAscii? (asciiMark ++ form) = none := by
  have hchars : ∀ c ∈ asciiMark ++ form, isAscii c = true ∧ c.isUpper = false ∧ c ≠ '.' := by
    intro c hc
    rcases List.mem_append.mp hc with hc | hc
    · simp only [asciiMark, List.mem_cons, List.not_mem_nil, or_false] at hc
      rcases hc with rfl | rfl | rfl | rfl <;> decide
    · obtain ⟨halnum, hupper⟩ := hform c hc
      have hcode := Text.toNat_of_isAlphanum halnum
      refine ⟨decide_eq_true (by omega), hupper, ?_⟩
      rintro rfl
      revert halnum
      decide
  have hfields : Text.fields '.' (asciiMark ++ form) = [asciiMark ++ form] :=
    Text.fields_eq_singleton fun hmem => (hchars _ hmem).2.2 rfl
  have hread : readLabel? (asciiMark ++ form) = none := by
    have hall : (asciiMark ++ form).all isAscii = true :=
      List.all_eq_true.mpr fun c hc => (hchars c hc).1
    have hmark : asciiMark.isPrefixOf (asciiMark ++ form) = true :=
      List.isPrefixOf_iff_prefix.mpr (List.prefix_append _ _)
    rw [readLabel?, if_pos hmark, if_pos hall, List.drop_left, readAscii?, if_pos hlength]
  have hmapped : mapped? (asciiMark ++ form) = some (asciiMark ++ form) := by
    refine mapped?_eq (fun c hc => ?_) fun c hc => ?_
    · rw [isKept, if_pos (hchars c hc).1, (hchars c hc).2.1]
      rfl
    · rw [isOuter, show decide (c.toNat < 0x80) = true from (hchars c hc).1, Bool.true_or]
  rw [toAscii?, hmapped]
  simp only [Option.bind_eq_bind, Option.bind_some, hfields, List.mapM_cons, hread]
  rfl

end Ideographs

end Vouch.Idna
