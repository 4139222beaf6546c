import Vouch.Proofs.Idna.Decode
import Vouch.Proofs.Idna.Mapping

/-!
# ASCII forms are read again

The ASCII form of a name is its own ASCII form, unless a label of it is too long to be read.  The
mapping leaves its characters as they are, and a label that is read from Punycode is one that was
well-formed before.
-/

namespace Vouch.Idna

open Text (isOuter)

/-- Whether a label is in Punycode and longer than what is read. -/
def isOverlong (label : List Char) : Bool :=
  asciiMark.isPrefixOf label && maxRead < (label.drop asciiMark.length).length

/-- Whether one of the labels of a name is too long to be read. -/
def hasOverlong (name : List Char) : Bool :=
  (Text.fields '.' name).any isOverlong

/-! ## Labels -/

/-- A label as it is read from a mapped name. -/
inductive IsRead (label : List Char) : Prop where
  | ascii (hdot : '.' ∉ label) (hascii : label.all isAscii = true)
      (hmark : asciiMark.isPrefixOf label = false) (hlower : ∀ c ∈ label, c.isUpper = false)
  | other (hdot : '.' ∉ label) (hascii : label.all isAscii = false)
      (hwell : isWellFormed label = true) (hlength : label.length ≤ 2000)

variable {label written : List Char}

theorem isUpper_of_isWellFormed (h : isWellFormed label = true) {c : Char} (hc : c ∈ label) :
    c.isUpper = false := by
  simp only [isWellFormed, Bool.and_eq_true] at h
  have hkept := List.all_eq_true.mp h.1.1.1 c hc
  rw [isKept] at hkept
  split at hkept
  · simpa using hkept
  · rename_i hascii
    exact isUpper_of_isAscii hascii

theorem isRead_of_readAscii? {form : List Char} (h : readAscii? form = some label)
    (hdot : '.' ∉ form) : IsRead label := by
  rw [readAscii?] at h
  split at h
  · cases h
  rename_i hlength
  split at h
  · rename_i read hread
    split at h
    · rename_i hcheck
      cases h
      obtain ⟨hascii, hwell⟩ := Bool.and_eq_true_iff.mp hcheck
      obtain ⟨hle, hchars⟩ := Punycode.decode?_some hread
      refine .other (fun hmem => ?_) (by simpa using hascii) hwell
        (Nat.le_trans hle (Nat.not_lt.mp hlength))
      exact (hchars '.' hmem).elim hdot (by decide)
    · cases h
  · cases h

theorem isRead_of_readLabel? (h : readLabel? written = some label) (hdot : '.' ∉ written)
    (hlower : ∀ c ∈ written, c.isUpper = false) : IsRead label := by
  rw [readLabel?] at h
  split at h
  · split at h
    · exact isRead_of_readAscii? h fun hmem => hdot (List.mem_of_mem_drop hmem)
    · cases h
  rename_i hmark
  split at h
  · rename_i hcheck
    cases h
    cases hascii : label.all isAscii with
    | true => exact .ascii hdot hascii (Bool.eq_false_iff.mpr hmark) hlower
    | false =>
      rw [hascii, Bool.false_or, Bool.and_eq_true, decide_eq_true_eq] at hcheck
      exact .other hdot hascii hcheck.2 (Nat.le_trans hcheck.1 (by decide))
  · cases h

namespace IsRead

theorem labelToAscii_other (hascii : label.all isAscii = false) :
    labelToAscii label = asciiMark ++ Punycode.encode label := by
  rw [labelToAscii, if_neg (by rw [hascii]; decide)]

/-- The characters of an ASCII form. -/
theorem chars (h : IsRead label) :
    ∀ c ∈ labelToAscii label, isAscii c = true ∧ c.isUpper = false ∧ c ≠ '.' := by
  cases h with
  | ascii hdot hascii _ hlower =>
    rw [labelToAscii, if_pos hascii]
    intro c hc
    exact ⟨List.all_eq_true.mp hascii c hc, hlower c hc, fun heq => hdot (heq ▸ hc)⟩
  | other hdot hascii hwell _ =>
    rw [labelToAscii_other hascii]
    intro c hc
    rcases List.mem_append.mp hc with hc | hc
    · simp only [asciiMark, List.mem_cons, List.not_mem_nil, or_false] at hc
      rcases hc with rfl | rfl | rfl | rfl <;> decide
    rcases Punycode.mem_encode hc with ⟨hc, hcode⟩ | rfl | ⟨halnum, hupper⟩
    · exact ⟨decide_eq_true hcode, isUpper_of_isWellFormed hwell hc, fun heq => hdot (heq ▸ hc)⟩
    · decide
    · have hcode := Text.toNat_of_isAlphanum halnum
      refine ⟨decide_eq_true (by omega), hupper, ?_⟩
      rintro rfl
      cases halnum

/-- The ASCII form of a label is read as the label, unless it is too long. -/
theorem readLabel?_labelToAscii (h : IsRead label) : readLabel? (labelToAscii label) =
    if isOverlong (labelToAscii label) then none else some label := by
  have hchars := h.chars
  cases h with
  | ascii _ hascii hmark _ =>
    rw [labelToAscii, if_pos hascii, readLabel?, isOverlong, hmark, hascii]
    rfl
  | other _ hascii hwell hlength =>
    have hall : (labelToAscii label).all isAscii = true :=
      List.all_eq_true.mpr fun c hc => (hchars c hc).1
    rw [labelToAscii_other hascii] at hall ⊢
    have hmark : asciiMark.isPrefixOf (asciiMark ++ Punycode.encode label) = true :=
      List.isPrefixOf_iff_prefix.mpr (List.prefix_append _ _)
    rw [readLabel?, if_pos hmark, if_pos hall, isOverlong, hmark, List.drop_left, readAscii?,
      Bool.true_and]
    simp only [decide_eq_true_eq, Punycode.decode?_encode hlength, hascii, hwell]
    rfl

end IsRead

/-! ## Names -/

variable {cs name : List Char}

-- Characters that are mapped to themselves.
theorem mapped?_ascii (h : ∀ c ∈ name, isAscii c = true ∧ c.isUpper = false) :
    mapped? name = some name :=
  mapped?_eq
    (fun c hc => by
      rw [isKept, if_pos (h c hc).1, (h c hc).2]
      rfl)
    fun c hc => Bool.or_eq_true_iff.mpr (.inl (h c hc).1)

theorem forall_mem_intercalate {P : Char → Prop} {parts : List (List Char)} (hdot : P '.')
    (h : ∀ part ∈ parts, ∀ c ∈ part, P c) : ∀ c ∈ ['.'].intercalate parts, P c := by
  induction parts with
  | nil => exact fun _ hc => (nomatch hc)
  | cons part parts ih =>
    obtain ⟨hpart, hrest⟩ := List.forall_mem_cons.mp h
    cases parts with
    | nil =>
      rw [List.intercalate_singleton]
      exact hpart
    | cons next parts =>
      rw [List.intercalate_cons_cons]
      intro c hc
      rcases List.mem_append.mp hc with hc | hc
      · rcases List.mem_append.mp hc with hc | hc
        · exact hpart c hc
        · rw [List.mem_singleton.mp hc]
          exact hdot
      · exact ih hrest c hc

/-- The ASCII form of a name is its own ASCII form, unless a label of it is too long. -/
theorem toAscii?_again (h : toAscii? cs = some name) :
    toAscii? name = if hasOverlong name then none else some name := by
  obtain ⟨mapped, hmapped, h⟩ := Option.bind_eq_some_iff.mp h
  obtain ⟨labels, hlabels, h⟩ := Option.bind_eq_some_iff.mp h
  obtain ⟨hne, hfrom⟩ := exists_of_mapM hlabels
  have hread : ∀ label ∈ labels, IsRead label := by
    intro label hlabel
    obtain ⟨written, hwritten, hlabel⟩ := hfrom label hlabel
    refine isRead_of_readLabel? hlabel (Text.not_mem_of_mem_fields hwritten) fun c hc => ?_
    exact isUpper_of_mapped? hmapped c (Text.mem_of_mem_fields hwritten hc)
  split at h
  · cases h
  rename_i hturn
  cases h
  have hchars : ∀ form ∈ labels.map labelToAscii, ∀ c ∈ form,
      isAscii c = true ∧ c.isUpper = false ∧ c ≠ '.' := by
    intro form hform
    obtain ⟨label, hlabel, rfl⟩ := List.mem_map.mp hform
    exact (hread label hlabel).chars
  have hfields : Text.fields '.' (['.'].intercalate (labels.map labelToAscii)) =
      labels.map labelToAscii := by
    refine Text.fields_intercalate ?_ fun form hform hdot => (hchars form hform '.' hdot).2.2 rfl
    exact fun hnil => hne (Text.fields_ne_nil _ _) (List.map_eq_nil_iff.mp hnil)
  have hagain : (labels.map labelToAscii).mapM readLabel? =
      if (labels.map labelToAscii).any isOverlong then none else some labels := by
    rw [List.mapM_map, List.any_map]
    refine (mapM_eq_ite (g := id) fun label hlabel => ?_).trans (by rw [List.map_id])
    exact (hread label hlabel).readLabel?_labelToAscii
  rw [toAscii?, mapped?_ascii (forall_mem_intercalate ⟨rfl, rfl⟩ fun form hform c hc =>
    ⟨(hchars form hform c hc).1, (hchars form hform c hc).2.1⟩), hasOverlong, hfields]
  simp only [Option.bind_eq_bind, Option.bind_some, hfields, hagain]
  split
  · rfl
  · exact if_neg hturn

end Vouch.Idna
