import Vouch.Proofs.Durable.Calls
import Vouch.Proofs.Store.Identities

/-!
# When stores fail

A store that was only written to by its own calls is read without a failure.  A ledger refuses
records whose keys are too long to be written, and apart from identifiers that are taken nothing
else makes a call fail; a file of identities refuses names that are no keys.
-/

namespace Vouch

/-! ## Addresses and challenges -/

/-- A backend that fails for nothing but the length of keys. -/
class FirmBackend (σ : Type) [VerificationStore σ] [Backend σ] where
  /-- Whether a value can be kept in a slot. -/
  Fits : Slot → Contact → Prop
  upsert_of_fits {s : σ} {m : MemoryStore} (h : Backend.Shows s m) {candidate : Address} :
    m.addresses.get? candidate.id = none → Fits candidate.slot candidate.value →
      VerificationStore.upsert candidate s ≠ .error .badKeySize
  -- What is kept in a slot can be kept there.
  fits_of_stored {s : σ} {m : MemoryStore} (h : Backend.Shows s m) {id : AddressId} {a : Address} :
    m.addresses.get? id = some a → Fits a.slot a.value
  addressesOf_ok {s : σ} {m : MemoryStore} (h : Backend.Shows s m) (id : IdentityId) :
    ∃ l, VerificationStore.addressesOf id s = .ok l
  history_ok {s : σ} {m : MemoryStore} (h : Backend.Shows s m) (id : AddressId) :
    ∃ l, VerificationStore.history id s = .ok l

namespace MemoryStore

theorem upsert_ne {m : MemoryStore} (hi : m.Intact) {candidate : Address}
    (hnew : m.addresses.get? candidate.id = none) : m.upsert candidate ≠ .error .badKeySize := by
  intro hrefused
  obtain ⟨out, m', hup, -⟩ := upsert_upserts hi fun (_ : m.slots.get? candidate.slot = none) => hnew
  rw [hrefused] at hup
  cases hup

instance : FirmBackend MemoryStore where
  Fits _ _ := True
  upsert_of_fits {s m} h candidate hnew _ := by
    obtain ⟨rfl, hi⟩ := h
    exact upsert_ne hi hnew
  fits_of_stored _ _ _ _ := trivial
  addressesOf_ok _ _ := ⟨_, rfl⟩
  history_ok _ _ := ⟨_, rfl⟩

end MemoryStore

namespace Durable.Ledger

-- A record is not refused if its keys fit.
theorem Mirrors.upsert_ne {s : Ledger} {m : MemoryStore} (h : s.Mirrors m) {candidate : Address}
    (hfit : candidate.KeysFit) (hnew : m.addresses.get? candidate.id = none) :
    s.upsert candidate ≠ .error .badKeySize := by
  intro hrefused
  have hagree := h.upsert_of_keysFit hfit fun _ => hnew
  have hne := MemoryStore.upsert_ne h.intact hnew
  rw [hrefused] at hagree
  generalize m.upsert candidate = result at hagree hne
  cases hagree
  exact hne rfl

instance : FirmBackend Ledger where
  Fits slot value := ∀ a : Address, a.slot = slot → a.value = value → a.KeysFit
  upsert_of_fits h candidate hnew hfits :=
    Mirrors.upsert_ne h (hfits candidate rfl rfl) hnew
  fits_of_stored h _ _ ha _ hslot hvalue := (Mirrors.keysFit h ha).congr hslot hvalue
  addressesOf_ok h id := ⟨_, Mirrors.addressesOf h id⟩
  history_ok h id := Mirrors.historyOf_ok h id

end Durable.Ledger

/-! ## Identities -/

/-- A store of identities that is empty at first and that identities can be entered into. -/
class Registry (ι : Type) [IdentityStore ι] where
  empty : ι
  enter : Identity → ι → Except StoreError ι
  /-- Whether there is a form in which an identity is kept. -/
  Storable : Identity → Prop
  /-- Whether every identity can be read. -/
  Sound : ι → Prop
  sound_empty : Sound empty
  sound_enter {i : Identity} {s s' : ι} :
    Sound s → Storable i → enter i s = .ok s' → Sound s'
  sound_updateTraits {id : IdentityId} {traits : Traits} {s s' : ι} :
    Sound s → Storable ⟨id, traits⟩ → IdentityStore.updateTraits id traits s = .ok s' → Sound s'
  -- Reading fails for no name under which an identity could be kept.
  identity?_ok {id : IdentityId} {traits : Traits} {s : ι} :
    Sound s → Storable ⟨id, traits⟩ → ∃ found, IdentityStore.identity? id s = .ok found ∧
      ∀ i, found = some i → Storable ⟨id, i.traits⟩
  updateTraits_ok {id : IdentityId} {traits : Traits} {i : Identity} {s : ι} :
    Sound s → Storable ⟨id, traits⟩ → IdentityStore.identity? id s = .ok (some i) →
      ∃ s', IdentityStore.updateTraits id traits s = .ok s'
  -- Declaring one more address takes no more than each by itself.
  storable_setAddress {id : IdentityId} {traits : Traits} {declared : DeclaredAddress} :
    Storable ⟨id, traits⟩ → Storable ⟨id, ⟨[declared]⟩⟩ →
      Storable ⟨id, traits.setAddress declared.channel declared.value⟩

instance : Registry MemoryIdentities where
  empty := .empty
  enter i s := .ok (s.insert i)
  Storable _ := True
  Sound _ := True
  sound_empty := trivial
  sound_enter _ _ _ := trivial
  sound_updateTraits _ _ _ := trivial
  identity?_ok _ _ := ⟨_, rfl, fun _ _ => trivial⟩
  updateTraits_ok {id traits i s} _ _ h := by
    have hget : s.identities.get? id = some i := Except.ok.inj h
    rw [MemoryIdentities.updateTraits_eq, hget]
    exact ⟨_, rfl⟩
  storable_setAddress _ _ := trivial

-- There is but one channel, so a declaration takes the place of the first one.
theorem Traits.TextsFit.setAddress {traits : Traits} {declared : DeclaredAddress}
    (h : traits.TextsFit) (hvalue : TextFits declared.value.text) :
    (traits.setAddress declared.channel declared.value).TextsFit := by
  obtain ⟨addresses⟩ := traits
  obtain ⟨⟨⟩, value⟩ := declared
  cases addresses with
  | nil =>
    refine ⟨Nat.succ_lt_succ (by decide), fun d hd => ?_⟩
    cases List.mem_singleton.mp hd
    exact hvalue
  | cons first rest =>
    obtain ⟨⟨⟩, old⟩ := first
    refine ⟨h.number, fun d hd => ?_⟩
    rcases List.mem_cons.mp hd with rfl | hrest
    · exact hvalue
    · exact h.values d (List.mem_cons_of_mem _ hrest)

/-- The name of an identity is a key, and its declarations can be written down. -/
structure Identity.Fits (i : Identity) : Prop where
  nonempty : i.id.bytes.isEmpty = false
  key : i.id.bytes.length ≤ Durable.maxKeySize
  traits : i.traits.TextsFit

theorem Identity.Fits.readsBack {i : Identity} (h : i.Fits) : Identity.codec.ReadsBack i := by
  refine Identity.codec_readsBack ?_ h.traits
  have hkey := h.key
  have hmax : Durable.maxKeySize = 511 := rfl
  show i.id.bytes.length < 18446744073709551616
  omega

namespace Durable.IdentityFile

variable {s s' : IdentityFile} {id : IdentityId} {i : Identity}

/-- Under the name of an identity stands that identity. -/
def Sound (s : IdentityFile) : Prop :=
  ∀ {id bs}, s.identities.get? (IdentityId.bytes id) = some bs →
    ∃ i : Identity, i.id = id ∧ i.Fits ∧ bs = Identity.codec.encode i

theorem Sound.insert (h : s.Sound) (hi : i.Fits) :
    Sound ⟨s.identities.insert i.id.bytes (Identity.codec.encode i)⟩ := by
  intro id bs hget
  rw [ByteMap.get?_insert] at hget
  split at hget
  · rename_i hname
    exact ⟨i, (IdentityId.bytes_injective hname).symm, hi, (Option.some.inj hget).symm⟩
  · exact h hget

-- An identity is read as it was written.
theorem identity?_of_stored (hi : i.Fits)
    (hget : s.identities.get? i.id.bytes = some (Identity.codec.encode i)) :
    IdentityStore.identity? i.id s = .ok (some i) := by
  rw [identity?_eq, readRecord, read_of_ne_nil hi.nonempty, hget]
  show (do return some (← decode Identity.codec (Identity.codec.encode i))) = _
  rw [decode_encode hi.readsBack]
  rfl

theorem Sound.identity? (h : s.Sound) (hname : id.bytes.isEmpty = false) :
    IdentityStore.identity? id s = .ok none ∨
      ∃ i : Identity, i.id = id ∧ i.Fits ∧ IdentityStore.identity? id s = .ok (some i) := by
  cases hget : s.identities.get? id.bytes with
  | none =>
    rw [identity?_eq, readRecord, read_of_ne_nil hname, hget]
    exact .inl rfl
  | some bs =>
    obtain ⟨i, rfl, hi, rfl⟩ := h hget
    exact .inr ⟨i, rfl, hi, identity?_of_stored hi hget⟩

theorem create_eq (hi : i.Fits) (s : IdentityFile) :
    s.create i =
      match s.identities.get? i.id.bytes with
      | some _ => .error (.duplicate (.identity i.id))
      | none => .ok ⟨s.identities.insert i.id.bytes (Identity.codec.encode i)⟩ := by
  simp only [create, read_of_ne_nil hi.nonempty, write_of_fits hi.nonempty hi.key]
  cases s.identities.get? i.id.bytes <;> rfl

-- Traits are written to an identity that is there.
theorem Sound.updateTraits (h : s.Sound) {traits : Traits} (hfits : Identity.Fits ⟨id, traits⟩) :
    IdentityStore.updateTraits id traits s =
      match IdentityStore.identity? id s with
      | .ok (some _) => .ok ⟨s.identities.insert id.bytes (Identity.codec.encode ⟨id, traits⟩)⟩
      | _ => .error (.notFound (.identity id)) := by
  rw [updateTraits_eq]
  rcases h.identity? hfits.nonempty with hread | ⟨i, rfl, -, hread⟩
  · rw [hread]
  · rw [hread]
    simp only [write_of_fits hfits.nonempty hfits.key]
    rfl

instance : Registry IdentityFile where
  empty := Environment.fresh.identities
  enter i s := s.create i
  Storable i := i.Fits
  Sound := Sound
  sound_empty h := nomatch h
  sound_enter {i s s'} hs hi hrun := by
    rw [create_eq hi] at hrun
    split at hrun <;> cases hrun
    exact Sound.insert hs hi
  sound_updateTraits {id traits s s'} hs hfits hrun := by
    rw [Sound.updateTraits hs hfits] at hrun
    split at hrun <;> cases hrun
    exact Sound.insert hs hfits
  identity?_ok {id traits s} hs hfits := by
    rcases Sound.identity? hs hfits.nonempty with hread | ⟨i, rfl, hi, hread⟩
    · exact ⟨none, hread, fun _ he => nomatch he⟩
    · refine ⟨some i, hread, fun j hj => ?_⟩
      cases hj
      exact hi
  updateTraits_ok {id traits i s} hs hfits hread := by
    rw [Sound.updateTraits hs hfits, hread]
    exact ⟨_, rfl⟩
  storable_setAddress {id traits declared} h hdeclared :=
    ⟨h.nonempty, h.key, h.traits.setAddress
      (hdeclared.traits.values declared List.mem_cons_self)⟩

end Durable.IdentityFile

/-- A registry in which an identity is found with the traits that were written last. -/
class KeepingRegistry (ι : Type) [IdentityStore ι] [Registry ι] : Prop
    extends LocalIdentities ι where
  updated {id : IdentityId} {traits : Traits} {s s' : ι} :
    Registry.Sound s → Registry.Storable ι ⟨id, traits⟩ →
      IdentityStore.updateTraits id traits s = .ok s' →
        ∃ i, IdentityStore.identity? id s' = .ok (some i) ∧ i.traits = traits
  storable_of_stored {id : IdentityId} {i : Identity} {s : ι} :
    Registry.Sound s → IdentityStore.identity? id s = .ok (some i) →
      Registry.Storable ι ⟨id, i.traits⟩
  -- What is declared together can be declared by itself.
  storable_declared {id : IdentityId} {traits : Traits} {d : DeclaredAddress} :
    Registry.Storable ι ⟨id, traits⟩ → d ∈ traits.addresses → Registry.Storable ι ⟨id, ⟨[d]⟩⟩

instance : KeepingRegistry MemoryIdentities where
  updated {id traits s s'} _ _ h := by
    rw [MemoryIdentities.updateTraits_eq] at h
    split at h
    · cases h
    · rename_i i _
      cases h
      refine ⟨{ i with traits }, congrArg Except.ok ?_, rfl⟩
      rw [Table.get?_insert, if_pos rfl]
  storable_of_stored _ _ := trivial
  storable_declared _ _ := trivial

namespace Durable.IdentityFile

-- Nothing is found under the empty name.
theorem nonempty_of_stored {id : IdentityId} {i : Identity} {s : IdentityFile}
    (h : IdentityStore.identity? id s = .ok (some i)) : id.bytes.isEmpty = false := by
  refine Bool.eq_false_iff.mpr fun hempty => ?_
  rw [identity?_eq, readRecord, read, if_pos hempty] at h
  cases h

instance : KeepingRegistry IdentityFile where
  updated {id traits s s'} hs hfits h := by
    rw [Sound.updateTraits hs hfits] at h
    split at h <;> cases h
    exact ⟨⟨id, traits⟩, identity?_of_stored hfits (by rw [ByteMap.get?_insert, if_pos rfl]), rfl⟩
  storable_of_stored hs h := by
    rcases Sound.identity? hs (nonempty_of_stored h) with hread | ⟨i, rfl, hi, hread⟩
    · rw [hread] at h
      cases h
    · rw [hread] at h
      cases h
      exact hi
  storable_declared h hd :=
    ⟨h.nonempty, h.key, Nat.succ_lt_succ (by decide), fun d hmem => by
      rw [List.mem_singleton.mp hmem]
      exact h.traits.values _ hd⟩

end Durable.IdentityFile

end Vouch
