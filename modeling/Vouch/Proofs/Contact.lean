import Vouch.Contact
import Vouch.Proofs.Text.Lowercase

/-!
# Normal forms of contact values

What is read from a text is in normal form: read again it is itself.  Texts for the same address that
are written with other capitals, or with white space around them, are read as the same value.
-/

namespace Vouch

/-- Whether two texts differ only in the white space around them and in the case of letters of
ASCII. -/
def SameButCase (raw raw' : String) : Prop :=
  ∃ before core after before' core' after' : List Char,
    raw = String.ofList (before ++ core ++ after) ∧
    raw' = String.ofList (before' ++ core' ++ after') ∧
    (∀ c ∈ before ++ after ++ before' ++ after', Text.isBlank c = true) ∧
    core.map Char.toLower = core'.map Char.toLower

namespace Contact

theorem toList_normalize (raw : String) :
    (normalize raw).toList = Text.lowerChars (Text.trimChars raw.toList) := by
  rw [normalize, Text.lower, Text.trim, String.toList_ofList, String.toList_ofList]

theorem normalize_normalize (raw : String) : normalize (normalize raw) = normalize raw := by
  have htrimmed : Text.IsTrimmed (normalize raw).toList := by
    rw [toList_normalize]
    exact (Text.isTrimmed_trimChars _).lowerChars
  rw [← String.toList_inj, toList_normalize, htrimmed.trimChars_eq, toList_normalize,
    Text.lowerChars_lowerChars]

-- Letters of ASCII can be made small before a text is normalized.
theorem lowerChars_trimChars_map (cs : List Char) :
    Text.lowerChars (Text.trimChars (cs.map Char.toLower)) =
      Text.lowerChars (Text.trimChars cs) := by
  rw [Text.trimChars_map Text.isBlank_toLower, Text.lowerChars_map_toLower]

theorem normalize_eq_of_sameButCase {raw raw' : String} (h : SameButCase raw raw') :
    normalize raw = normalize raw' := by
  obtain ⟨before, core, after, before', core', after', rfl, rfl, hblank, hcore⟩ := h
  simp only [List.mem_append] at hblank
  rw [← String.toList_inj, toList_normalize, toList_normalize, String.toList_ofList,
    String.toList_ofList,
    Text.trimChars_append (fun c hc => hblank c (by simp [hc])) fun c hc => hblank c (by simp [hc]),
    Text.trimChars_append (fun c hc => hblank c (by simp [hc])) fun c hc => hblank c (by simp [hc]),
    ← lowerChars_trimChars_map core, hcore, lowerChars_trimChars_map]

theorem parse_eq_ok_iff {channel : Channel} {raw : String} {v : Contact} :
    parse channel raw = .ok v ↔ isValid channel (normalize raw) = true ∧ v = ⟨normalize raw⟩ := by
  rw [parse]
  split
  · rename_i hvalid
    simp [hvalid, eq_comm]
  · rename_i hvalid
    simp [hvalid]

/-- A contact value is in normal form: its text is read as the value itself.  Texts that differ only
in the white space around them and in the case of letters of ASCII are read as the same value, or
neither of them is an address. -/
theorem parse_canonical :
    (∀ raw v, parse .email raw = .ok v → parse .email v.text = .ok v) ∧
    (∀ raw raw', SameButCase raw raw' →
      (∃ v, parse .email raw = .ok v ∧ parse .email raw' = .ok v) ∨
        (parse .email raw = .error (.invalidAddress .email raw) ∧
          parse .email raw' = .error (.invalidAddress .email raw'))) := by
  constructor
  · intro raw v hparse
    obtain ⟨hvalid, rfl⟩ := parse_eq_ok_iff.mp hparse
    refine parse_eq_ok_iff.mpr ?_
    rw [normalize_normalize]
    exact ⟨hvalid, rfl⟩
  · intro raw raw' hsame
    have hnormal := normalize_eq_of_sameButCase hsame
    cases hvalid : isValid .email (normalize raw) with
    | true =>
      have hvalid' := hvalid
      rw [hnormal] at hvalid'
      exact .inl ⟨_, parse_eq_ok_iff.mpr ⟨hvalid, rfl⟩,
        parse_eq_ok_iff.mpr ⟨hvalid', by rw [hnormal]⟩⟩
    | false =>
      have hvalid' := hvalid
      rw [hnormal] at hvalid'
      exact .inr ⟨by simp [parse, hvalid], by simp [parse, hvalid']⟩

end Contact

namespace Sample

/-- A word that ends with a capital sigma, which is small in another form there than elsewhere. -/
def street : String := "\u3000ΟΔΟΣ@Example.ORG\t"

theorem street_parsed : Contact.parse .email street = .ok ⟨"οδος@example.org"⟩ :=
  Contact.parse_eq_ok_iff.mpr (by decide +kernel)

theorem street_sameButCase : SameButCase street "\n ΟΔΟΣ@eXAMPLE.org" :=
  ⟨['\u3000'], "ΟΔΟΣ@Example.ORG".toList, ['\t'], ['\n', ' '], "ΟΔΟΣ@eXAMPLE.org".toList, [],
    by decide, by decide, List.all_eq_true.mp (by decide), by decide⟩

theorem street_canonical :
    Contact.parse .email "οδος@example.org" = .ok ⟨"οδος@example.org"⟩ ∧
      ∃ v, Contact.parse .email street = .ok v ∧
        Contact.parse .email "\n ΟΔΟΣ@eXAMPLE.org" = .ok v := by
  obtain ⟨hagain, hsame⟩ := Contact.parse_canonical
  refine ⟨hagain street _ street_parsed, ?_⟩
  rcases hsame street _ street_sameButCase with hparsed | ⟨hrefused, -⟩
  · exact hparsed
  · rw [street_parsed] at hrefused
    cases hrefused

end Sample

end Vouch
