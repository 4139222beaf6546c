import Vouch.Proofs.Idna.Ascii
import Vouch.Proofs.Url.Numeric

/-!
# Which hosts are read again

A host in its usual form is read as itself.  Domains with a label that is too long to be read are
the exception: they are made of names whose labels take up less in other characters.
-/

namespace Vouch.Url

variable {cs host : List Char}

/-! ## Hosts without long labels -/

theorem hasOverlong_eq_false (h : 'x' ∉ host) : Idna.hasOverlong host = false := by
  refine List.any_eq_false.mpr fun label hlabel => ?_
  rw [Idna.isOverlong, Idna.isPrefixOf_asciiMark fun hx => h (Text.mem_of_mem_fields hlabel hx)]
  exact Bool.false_ne_true

theorem hasOverlong_render (address : Nat) : Idna.hasOverlong (Ipv4.render address) = false :=
  hasOverlong_eq_false fun hx => absurd (Ipv4.mem_render hx) (by decide)

theorem hasOverlong_brackets (pieces : List Nat) :
    Idna.hasOverlong ('[' :: Ipv6.render pieces ++ [']']) = false := by
  have hdot : '.' ∉ '[' :: Ipv6.render pieces ++ [']'] := by
    intro hmem
    rcases List.mem_append.mp hmem with hmem | hmem
    · rcases List.mem_cons.mp hmem with hmem | hmem
      · cases hmem
      · exact absurd (Ipv6.mem_render hmem) (by decide)
    · cases List.mem_singleton.mp hmem
  rw [Idna.hasOverlong, Text.fields_eq_singleton hdot]
  rfl

/-! ## Hosts of special schemes -/

/-- A host of a special scheme is its own usual form, unless a label of it is too long. -/
theorem normalizeHost_again (h : normalizeHost cs = .ok host) :
    normalizeHost host = if Idna.hasOverlong host then .error .badDomain else .ok host := by
  unfold normalizeHost at h
  split at h
  · rename_i hbrackets
    have hresult := hbrackets.trans (congrArg some h)
    obtain ⟨pieces, rfl⟩ := bracketed?_ok hresult
    rw [normalizeHost, bracketed?_again hresult, hasOverlong_brackets]
    rfl
  split at h
  · cases h
  split at h
  · cases h
  rename_i domain hascii
  split at h
  · cases h
  rename_i hany
  split at h
  · cases h
  rename_i hempty
  split at h
  · obtain ⟨address, haddress, rfl⟩ := Ipv4.normalize_lt h
    rw [Ipv4.normalizeHost_render haddress, hasOverlong_render]
    rfl
  · rename_i hname
    cases h
    have hfree : ∀ c, isForbiddenInDomain c = true → c ∉ host := fun c hc hmem =>
      hany (List.any_eq_true.mpr ⟨c, hmem, hc⟩)
    rw [normalizeHost_eq (hfree '[' rfl) (hfree '%' rfl), Idna.toAscii?_again hascii]
    split
    · rfl
    · rw [Option.elim_some, readDomain, if_neg hany, if_neg hempty, if_neg hname]

/-! ## Hosts of other schemes -/

theorem EncodeSet.control_stable : EncodeSet.control.Stable :=
  stable_of_ascii rfl (by decide)

/-- A host of another scheme is its own usual form. -/
theorem normalizePlainHost_again (h : normalizePlainHost cs = .ok host) :
    normalizePlainHost host = .ok host := by
  unfold normalizePlainHost at h
  split at h
  · rename_i hbrackets
    rw [normalizePlainHost, bracketed?_again (hbrackets.trans (congrArg some h))]
  split at h
  · cases h
  rename_i hany
  cases h
  have hallowed : ∀ c ∈ percentEncode .control cs, isForbiddenInHost c = false := by
    intro c hc
    rcases mem_percentEncode hc with ⟨hmem, -⟩ | rfl | halnum
    · exact Bool.eq_false_iff.mpr fun hc => hany (List.any_eq_true.mpr ⟨c, hmem, hc⟩)
    · rfl
    · have hcode := Text.toNat_of_isAlphanum halnum
      exact Text.forall_ascii (p := fun c => c.isAlphanum = true → isForbiddenInHost c = false)
        (by decide) (by omega) halnum
  have hopen : '[' ∉ percentEncode .control cs := fun hmem => by cases hallowed '[' hmem
  have hencoded : percentEncode .control (percentEncode .control cs) = percentEncode .control cs :=
    percentEncode_eq_self fun _ hc => percentEncode_stable EncodeSet.control_stable hc
  rw [normalizePlainHost, bracketed?_eq_none hopen, hencoded]
  exact if_neg fun hforbidden => by
    obtain ⟨c, hc, hc'⟩ := List.any_eq_true.mp hforbidden
    rw [hallowed c hc] at hc'
    cases hc'

/-! ## Hosts of URLs -/

/-- The usual form of a host is read as itself, unless the scheme has domains and a label is too
long. -/
theorem readHost_again {special : Bool} (h : readHost special cs = .ok host) :
    readHost special host =
      if special && Idna.hasOverlong host then .error .badDomain else .ok host := by
  cases special with
  | true => exact normalizeHost_again h
  | false => exact normalizePlainHost_again h

end Vouch.Url
