import Vouch.Proofs.Store.Failures

/-!
# Thrifty backends

A record that is in its slot already, with the value that it is to have, is not written again.  A
record that has to be written is refused if there is no room for it, and for no other reason.
-/

namespace Vouch

/-- A backend that writes a record only if it has to, and refuses it only if it has no room. -/
class ThriftyBackend (σ : Type) [VerificationStore σ] [Backend σ] [FirmBackend σ] : Prop where
  upsert_same {s : σ} {m : MemoryStore} (h : Backend.Shows s m) {candidate : Address}
    {id : AddressId} {acc : Account} : m.account? id = some acc →
      acc.record.slot = candidate.slot → acc.record.value = candidate.value →
      VerificationStore.upsert candidate s = .ok (.unchanged acc.record, s)
  upsert_of_not_fits {s : σ} {m : MemoryStore} (h : Backend.Shows s m) {candidate : Address} :
    ¬ FirmBackend.Fits σ candidate.slot candidate.value →
      VerificationStore.upsert candidate s = .error .badKeySize

instance : ThriftyBackend MemoryStore where
  upsert_same {s m} h candidate id acc hacc hslot hvalue := by
    obtain ⟨rfl, hi⟩ := h
    exact MemoryStore.upsert_same_value hi hacc hslot hvalue
  upsert_of_not_fits _ _ hfits := absurd trivial hfits

namespace Durable.Ledger

theorem Mirrors.upsert_same {s : Ledger} {m : MemoryStore} (h : s.Mirrors m) {candidate : Address}
    {id : AddressId} {acc : Account} (hacc : m.account? id = some acc)
    (hslot : acc.record.slot = candidate.slot) (hvalue : acc.record.value = candidate.value) :
    s.upsert candidate = .ok (.unchanged acc.record, s) := by
  have hget := MemoryStore.get?_of_account? hacc
  have hfull := h.intact.slot_iff.mpr ⟨acc.record, hget, hslot⟩
  simp only [Ledger.upsert, read_of_ne_nil (slotKey_ne_nil _), h.slots, hfull, Option.map_some,
    decodeId_bytes, h.readAddress, hget, if_pos hvalue, bind, Except.bind]
  rfl

-- A record with long keys is one of those that do not fit.
instance : ThriftyBackend Ledger where
  upsert_same h _ _ _ hacc hslot hvalue := Mirrors.upsert_same h hacc hslot hvalue
  upsert_of_not_fits h _ hfits :=
    Mirrors.upsert_of_not_keysFit h fun hfit =>
      hfits fun _ hslot hvalue => hfit.congr hslot hvalue

end Durable.Ledger

end Vouch
