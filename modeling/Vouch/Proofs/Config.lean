import Vouch.Proofs.Toml.Document

/-!
# Configurations are read back

A configuration can be written as a document just if its numbers fit into 64 bits with a sign, and
the document is read as the same configuration, whatever characters its texts hold.
-/

namespace Vouch.Config

open Toml (Setting IsBareKey)

variable {c : Config}

/-- Whether the numbers of a configuration fit into 64 bits with a sign. -/
structure Fits (c : Config) : Prop where
  mapSize : c.mapSize.toNat < Toml.signedLimit
  challengeLifespan : c.challengeLifespan.toNat < Toml.signedLimit
  flowLifespan : c.flowLifespan.toNat < Toml.signedLimit

theorem maxAttempts_lt (c : Config) : c.maxAttempts.toNat < Toml.signedLimit :=
  Nat.lt_trans c.maxAttempts.toNat_lt (by decide)

/-- A setting whose value is a text. -/
def textSetting (key : String) (hkey : IsBareKey key) (value : String) : Setting :=
  ⟨key, Toml.writeText value, .text value, hkey, Toml.isWritten_writeText value⟩

/-- A setting whose value is a number. -/
def numberSetting (key : String) (hkey : IsBareKey key) {n : Nat} (hn : n < Toml.signedLimit) :
    Setting :=
  ⟨key, Nat.toDigits 10 n, .integer n, hkey, Toml.isWritten_toDigits hn⟩

/-- The settings as the lines of a document. -/
def settings (c : Config) (h : c.Fits) : List Setting := [
  textSetting "data_dir" (by decide) c.dataDir,
  numberSetting "map_size_mb" (by decide) h.mapSize,
  textSetting "public_url" (by decide) c.publicUrl,
  numberSetting "challenge_lifespan_secs" (by decide) h.challengeLifespan,
  numberSetting "flow_lifespan_secs" (by decide) h.flowLifespan,
  numberSetting "max_attempts" (by decide) c.maxAttempts_lt,
  textSetting "log_format" (by decide) c.logFormat.name,
  textSetting "log_level" (by decide) c.logLevel]

theorem keys_settings (h : c.Fits) : (c.settings h).map (·.key) = keys := rfl

theorem writeNumber?_eq (n : Nat) :
    Toml.writeNumber? n = if n < Toml.signedLimit then some (Nat.toDigits 10 n) else none := rfl

theorem toToml?_of_fits (h : c.Fits) :
    c.toToml? = some (String.ofList ((c.settings h).flatMap Setting.line)) := by
  rw [toToml?, writeNumber?_eq, if_pos h.mapSize, writeNumber?_eq, if_pos h.challengeLifespan,
    writeNumber?_eq, if_pos h.flowLifespan, writeNumber?_eq, if_pos c.maxAttempts_lt]
  simp [settings, Setting.line, textSetting, numberSetting]

theorem fits_of_isSome (h : c.toToml?.isSome = true) : c.Fits := by
  obtain ⟨text, htext⟩ := Option.isSome_iff_exists.mp h
  obtain ⟨_, hmapSize, htext⟩ := Option.bind_eq_some_iff.mp htext
  obtain ⟨_, hchallenge, htext⟩ := Option.bind_eq_some_iff.mp htext
  obtain ⟨_, hflow, -⟩ := Option.bind_eq_some_iff.mp htext
  have hfits : ∀ {n digits}, Toml.writeNumber? n = some digits → n < Toml.signedLimit := by
    intro n digits hdigits
    rw [writeNumber?_eq] at hdigits
    split at hdigits
    · assumption
    · cases hdigits
  exact ⟨hfits hmapSize, hfits hchallenge, hfits hflow⟩

theorem below?_integer {n bound : Nat} (h : n < bound) :
    Toml.below? bound (.integer n) = some n := by
  simp [Toml.below?, h]

theorem ofToml?_name (format : LogFormat) :
    LogFormat.ofToml? (.text format.name) = some format := by
  cases format <;> decide

theorem ofToml?_settings (h : c.Fits) :
    ofToml? (String.ofList ((c.settings h).flatMap Setting.line)) = some c := by
  have hkeys : ((c.settings h).map (·.key)).Nodup := by
    rw [keys_settings]
    decide
  have hword (n : UInt64) : Toml.below? UInt64.size (.integer n.toNat) = some n.toNat :=
    below?_integer n.toNat_lt
  have hattempts (n : UInt32) : Toml.below? UInt32.size (.integer n.toNat) = some n.toNat :=
    below?_integer n.toNat_lt
  rw [ofToml?, Toml.parse?_settings hkeys]
  simp [settings, textSetting, numberSetting, Setting.entry, Toml.Entries.setting, List.lookup_cons,
    Toml.text?, hword, hattempts, ofToml?_name]

/-- A configuration can be written just if its numbers are at most the greatest integer of 64 bits
with a sign, and what is written is read as the configuration. -/
theorem document_read_back (c : Config) :
    (c.toToml?.isSome = true ↔ c.mapSize.toNat ≤ 0x7FFFFFFFFFFFFFFF ∧
      c.challengeLifespan.toNat ≤ 0x7FFFFFFFFFFFFFFF ∧
      c.flowLifespan.toNat ≤ 0x7FFFFFFFFFFFFFFF) ∧
    ∀ document, c.toToml? = some document → ofToml? document = some c := by
  constructor
  · constructor
    · intro h
      obtain ⟨hmapSize, hchallenge, hflow⟩ := fits_of_isSome h
      rw [Toml.signedLimit] at hmapSize hchallenge hflow
      omega
    · rintro ⟨hmapSize, hchallenge, hflow⟩
      have hfits : c.Fits := by
        constructor <;> rw [Toml.signedLimit] <;> omega
      rw [toToml?_of_fits hfits]
      rfl
  · intro document h
    have hfits := fits_of_isSome (by rw [h]; rfl)
    rw [toToml?_of_fits hfits] at h
    rw [← Option.some.inj h]
    exact ofToml?_settings hfits

end Vouch.Config

namespace Vouch.Sample

/-- A configuration whose texts are written in three forms: with escapes on several lines, between
quotes on several lines, and between apostrophes. -/
def unwieldy : Config where
  dataDir := "\"\"\"'''\\\n\r\t\x00\x7F"
  mapSize := 0x7FFFFFFFFFFFFFFF
  publicUrl := "\n'\""
  challengeLifespan := 0
  flowLifespan := 1
  maxAttempts := 0xFFFFFFFF
  logFormat := .json
  logLevel := "\"\\"

theorem unwieldy_read_back :
    (∃ document, unwieldy.toToml? = some document ∧ Config.ofToml? document = some unwieldy) ∧
      { unwieldy with mapSize := 0x8000000000000000 }.toToml? = none := by
  obtain ⟨hwritten, hread⟩ := Config.document_read_back unwieldy
  obtain ⟨document, hdocument⟩ := Option.isSome_iff_exists.mp (hwritten.mpr (by decide))
  refine ⟨⟨document, hdocument, hread document hdocument⟩, ?_⟩
  obtain ⟨hlarge, -⟩ :=
    Config.document_read_back { unwieldy with mapSize := 0x8000000000000000 }
  rw [← Option.not_isSome_iff_eq_none, hlarge]
  decide

end Vouch.Sample
