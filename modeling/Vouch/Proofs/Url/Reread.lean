import Vouch.Proofs.Idna.Domain
import Vouch.Proofs.Url.Parts

/-!
# Hosts that are read once more

A name of ASCII labels stays as it is, so that a URL that bears it can be read over and over.  The
name of a long label of ideographs is accepted, but the form in which it is written is too long to
be accepted itself.
-/

namespace Vouch.Url

variable {host : List Char}

theorem bracketed?_eq_none (h : '[' ∉ host) : bracketed? host = none := by
  cases host with
  | nil => rfl
  | cons c host =>
    have hc : c ≠ '[' := fun heq => h (heq ▸ List.mem_cons_self)
    unfold bracketed?
    split
    · rename_i heq
      cases heq
      exact absurd rfl hc
    · rfl

-- What becomes of the ASCII form of a name.
def readDomain (domain : List Char) : Except ParseError (List Char) :=
  if domain.any isForbiddenInDomain then .error .badDomain
  else if domain.isEmpty then .error .emptyHost
  else if Ipv4.isIntended domain then Ipv4.normalize domain
  else .ok domain

-- A name without percent signs goes straight to its ASCII form.
theorem normalizeHost_eq (hopen : '[' ∉ host) (hpercent : '%' ∉ host) :
    normalizeHost host = (Idna.toAscii? host).elim (.error .badDomain) readDomain := by
  rw [normalizeHost, bracketed?_eq_none hopen, percentDecode_encodeUtf8 hpercent,
    Bytes.toText?_encodeUtf8]
  dsimp only
  rw [String.toList_ofList]
  cases Idna.toAscii? host <;> rfl

theorem readDomain_eq (hallowed : ∀ c ∈ host, isForbiddenInDomain c = false) (hne : host ≠ [])
    (hname : Ipv4.isIntended host = false) : readDomain host = .ok host := by
  have hany : host.any isForbiddenInDomain = false :=
    List.any_eq_false.mpr fun c hc => by rw [hallowed c hc]; decide
  rw [readDomain, hany, hname, List.isEmpty_eq_false_iff.mpr hne]
  rfl

/-- A name that is its own ASCII form is accepted as it is. -/
theorem normalizeHost_domain (hascii : Idna.toAscii? host = some host) (hne : host ≠ [])
    (hallowed : ∀ c ∈ host, isForbiddenInDomain c = false)
    (hname : Ipv4.isIntended host = false) : normalizeHost host = .ok host := by
  have hfree : ∀ c, isForbiddenInDomain c = true → c ∉ host := by
    intro c hc hmem
    rw [hallowed c hmem] at hc
    cases hc
  rw [normalizeHost_eq (hfree '[' rfl) (hfree '%' rfl), hascii]
  exact readDomain_eq hallowed hne hname

/-! ## Names that are too long -/

-- A label that begins with a letter is no number, and so no address.
theorem isIntended_letter {c : Char} {rest : List Char} (hc : c.isAlpha = true)
    (hdot : '.' ∉ c :: rest) : Ipv4.isIntended (c :: rest) = false := by
  have hcode := Text.toNat_of_isAlphanum (c := c) (by rw [Char.isAlphanum, hc, Bool.true_or])
  have hletter : c.isDigit = false ∧ c ≠ '0' ∧ Ipv4.digitValue? 10 c = none :=
    Text.forall_ascii (p := fun c => c.isAlpha = true →
      c.isDigit = false ∧ c ≠ '0' ∧ Ipv4.digitValue? 10 c = none) (by decide) (by omega) hc
  obtain ⟨hdigit, hzero, hvalue⟩ := hletter
  have hlabels : Ipv4.labels (c :: rest) = [c :: rest] := by
    rw [Ipv4.labels, Text.fields_eq_singleton hdot]
    rfl
  have hnumber : Ipv4.number? (c :: rest) = none := by
    unfold Ipv4.number?
    split
    · rename_i heq
      cases heq
    · rename_i heq
      cases heq
      exact absurd rfl hzero
    · rename_i heq
      cases heq
      exact absurd rfl hzero
    · rename_i heq
      cases heq
      exact absurd rfl hzero
    · rw [Ipv4.numeral?, List.foldlM_cons, hvalue]
      rfl
  rw [Ipv4.isIntended, hlabels]
  simp only [List.getLast?_singleton, List.all_cons, hdigit, hnumber, Bool.false_and,
    Bool.and_false, Option.isSome_none, Bool.or_self]

section Ideographs

variable {form : List Char}

theorem mem_form (hform : Idna.Punycode.IsForm form) {c : Char} (h : c ∈ Idna.asciiMark ++ form) :
    c.isAlphanum = true ∨ c = '-' := by
  rcases List.mem_append.mp h with h | h
  · simp only [Idna.asciiMark, List.mem_cons, List.not_mem_nil, or_false] at h
    rcases h with rfl | rfl | rfl | rfl <;> decide
  · exact .inl (hform c h).1

theorem not_mem_form (hform : Idna.Punycode.IsForm form) {c : Char}
    (hc : (c.isAlphanum || c = '-') = false) : c ∉ Idna.asciiMark ++ form := by
  intro hmem
  rcases mem_form hform hmem with h | rfl
  · rw [h, Bool.true_or] at hc
    cases hc
  · cases hc

theorem toNat_of_isForbiddenInDomain {c : Char} (h : isForbiddenInDomain c = true) :
    c.toNat < 128 := by
  simp only [isForbiddenInDomain, Bool.or_eq_true, decide_eq_true_eq] at h
  rcases h with (h | h) | h
  · omega
  · omega
  · exact of_decide_eq_true (List.all_eq_true.mp
      (show List.all _ (fun c => decide (c.toNat < 128)) = true by decide) c
      (List.contains_iff_mem.mp h))

theorem isHost_ideographs (h : ∀ c ∈ host, Idna.IsIdeograph c) : IsHost host := by
  refine .of_allowed fun c hc => Bool.eq_false_iff.mpr fun hforbidden => ?_
  have hcode := toNat_of_isForbiddenInDomain hforbidden
  have hideograph := (h c hc).1
  omega

theorem firstCode_le_of_isIdeograph {c : Char} (h : Idna.IsIdeograph c) :
    Idna.Punycode.firstCode ≤ c.toNat := by
  have hcode := h.1
  rw [Idna.Punycode.firstCode]
  omega

/-- A label of ideographs is accepted. -/
theorem normalizeHost_ideographs (h : ∀ c ∈ host, Idna.IsIdeograph c) (hne : host ≠ [])
    (hlength : host.length ≤ Idna.maxWritten) :
    normalizeHost host = .ok (Idna.asciiMark ++ Idna.Punycode.encode host) := by
  have hform : Idna.Punycode.IsForm (Idna.Punycode.encode host) :=
    Idna.Punycode.encode_isForm fun c hc => firstCode_le_of_isIdeograph (h c hc)
  rw [normalizeHost_eq (Idna.not_mem_of_ideographs h (by decide))
    (Idna.not_mem_of_ideographs h (by decide)), Idna.toAscii?_ideographs h hne hlength]
  refine readDomain_eq (fun c hc => ?_) (List.cons_ne_nil _ _)
    (isIntended_letter rfl (not_mem_form hform rfl))
  rcases mem_form hform hc with halnum | rfl
  · have hcode := Text.toNat_of_isAlphanum halnum
    exact Text.forall_ascii (p := fun c => c.isAlphanum = true → isForbiddenInDomain c = false)
      (by decide) (by omega) halnum
  · rfl

/-- An ASCII form that is too long is refused. -/
theorem normalizeHost_long (hform : Idna.Punycode.IsForm form)
    (hlength : Idna.maxRead < form.length) :
    normalizeHost (Idna.asciiMark ++ form) = .error .badDomain := by
  rw [normalizeHost_eq (not_mem_form hform rfl) (not_mem_form hform rfl),
    Idna.toAscii?_long hform hlength]
  rfl

/-- The name of a long label whose characters are far apart is accepted, but not once more. -/
theorem normalizeHost_spaced (h : ∀ c ∈ host, Idna.IsIdeograph c)
    (hspaced : Idna.Punycode.Spaced host) (hmin : 689 ≤ host.length)
    (hmax : host.length ≤ Idna.maxWritten) :
    ∃ name, normalizeHost host = .ok name ∧ normalizeHost name = .error .badDomain := by
  have hne : host ≠ [] := List.ne_nil_of_length_pos (by omega)
  have hcodes : ∀ c ∈ host, Idna.Punycode.firstCode ≤ c.toNat := fun c hc =>
    firstCode_le_of_isIdeograph (h c hc)
  have hlength := Idna.Punycode.length_encode hspaced hcodes
  refine ⟨_, normalizeHost_ideographs h hne hmax, ?_⟩
  refine normalizeHost_long (Idna.Punycode.encode_isForm hcodes) ?_
  rw [Idna.maxRead]
  omega

end Ideographs

/-! ## Ideographs that are far apart -/

/-- So many ideographs, each one far behind the one before. -/
def farApart (n : Nat) : List Char :=
  (List.range n).map fun i => Char.ofNat (0x20000 + 42 * i)

theorem toNat_farApart {i : Nat} (hi : i ≤ 1000) :
    (Char.ofNat (0x20000 + 42 * i)).toNat = 0x20000 + 42 * i := by
  have hvalid : (0x20000 + 42 * i).isValidChar := .inr ⟨by omega, by omega⟩
  rw [Char.ofNat, dif_pos hvalid]
  rfl

theorem isIdeograph_farApart {n : Nat} (hn : n ≤ 1000) :
    ∀ c ∈ farApart n, Idna.IsIdeograph c := by
  intro c hc
  obtain ⟨i, hi, rfl⟩ := List.mem_map.mp hc
  have hlt := List.mem_range.mp hi
  rw [Idna.IsIdeograph, toNat_farApart (by omega)]
  omega

theorem spaced_farApart {n : Nat} (hn : n ≤ 1000) : Idna.Punycode.Spaced (farApart n) := by
  rw [Idna.Punycode.Spaced, farApart, List.pairwise_map]
  refine List.pairwise_lt_range.imp_of_mem fun {i j} hi hj hlt => ?_
  have hin := List.mem_range.mp hi
  have hjn := List.mem_range.mp hj
  rw [toNat_farApart (by omega), toNat_farApart (by omega)]
  omega

end Vouch.Url
