import Vouch.Durable.Records
import Vouch.Memory.Store
import Vouch.Proofs.Durable.Mirror

/-!
# Stores of identities

What is read of one identity depends on what was written of it and on nothing else.
-/

namespace Vouch

/-- A store that keeps every identity by itself. -/
class LocalIdentities (ι : Type) [IdentityStore ι] : Prop where
  /-- A change of an identity is a change of no other. -/
  spared {id other : IdentityId} {traits : Traits} {s s' : ι} :
    IdentityStore.updateTraits id traits s = .ok s' → other ≠ id →
      IdentityStore.identity? other s' = IdentityStore.identity? other s
  /-- What comes of a change depends on the identity alone. -/
  alike {id : IdentityId} {s s' : ι} (traits : Traits) :
    IdentityStore.identity? id s = IdentityStore.identity? id s' →
      (∃ cause, IdentityStore.updateTraits id traits s = .error cause ∧
          IdentityStore.updateTraits id traits s' = .error cause) ∨
        ∃ t t', IdentityStore.updateTraits id traits s = .ok t ∧
          IdentityStore.updateTraits id traits s' = .ok t' ∧
          IdentityStore.identity? id t = IdentityStore.identity? id t'

/-! ## In memory -/

namespace MemoryIdentities

theorem updateTraits_eq (id : IdentityId) (traits : Traits) (s : MemoryIdentities) :
    IdentityStore.updateTraits id traits s =
      match s.identities.get? id with
      | none => .error (.notFound (.identity id))
      | some i => .ok ⟨s.identities.insert id { i with traits }⟩ :=
  rfl

instance : LocalIdentities MemoryIdentities where
  spared {id other traits s s'} h hother := by
    rw [updateTraits_eq] at h
    split at h <;> cases h
    refine congrArg Except.ok ?_
    rw [Table.get?_insert, if_neg hother]
  alike {id s s'} traits h := by
    have hsame : s.identities.get? id = s'.identities.get? id := Except.ok.inj h
    rw [updateTraits_eq, updateTraits_eq, ← hsame]
    cases s.identities.get? id with
    | none => exact .inl ⟨_, rfl, rfl⟩
    | some i =>
      refine .inr ⟨_, _, rfl, rfl, congrArg Except.ok ?_⟩
      rw [Table.get?_insert, if_pos rfl, Table.get?_insert, if_pos rfl]

end MemoryIdentities

/-! ## On disk -/

namespace Durable

-- A key that can be written can be read.
theorem write_cases (m : ByteMap) (k v : Bytes) :
    write m k v = .error .badKeySize ∨ k.isEmpty = false ∧ write m k v = .ok (m.insert k v) := by
  rw [write]
  split
  · exact .inl rfl
  · rename_i hfits
    rw [not_or, Bool.not_eq_true] at hfits
    exact .inr ⟨hfits.1, rfl⟩

namespace IdentityFile

theorem identity?_eq (id : IdentityId) (s : IdentityFile) :
    IdentityStore.identity? id s = readRecord Identity.codec s.identities id.bytes :=
  rfl

theorem updateTraits_eq (id : IdentityId) (traits : Traits) (s : IdentityFile) :
    IdentityStore.updateTraits id traits s =
      match IdentityStore.identity? id s with
      | .error cause => .error cause
      | .ok none => .error (.notFound (.identity id))
      | .ok (some i) =>
        (write s.identities id.bytes (Identity.codec.encode { i with traits })).map .mk := by
  rw [identity?_eq]
  show (readRecord Identity.codec s.identities id.bytes >>= _) = _
  rcases readRecord Identity.codec s.identities id.bytes with cause | (_ | i)
  · rfl
  · rfl
  · show (do return IdentityFile.mk (← write s.identities id.bytes _)) = Except.map .mk _
    cases write s.identities id.bytes (Identity.codec.encode { i with traits }) <;> rfl

-- What is read depends on what is stored under the name.
theorem identity?_congr {id : IdentityId} {s s' : IdentityFile}
    (h : s.identities.get? id.bytes = s'.identities.get? id.bytes) :
    IdentityStore.identity? id s = IdentityStore.identity? id s' := by
  simp only [identity?_eq, readRecord, read, h]

instance : LocalIdentities IdentityFile where
  spared {id other traits s s'} h hother := by
    rw [updateTraits_eq] at h
    split at h
    · cases h
    · cases h
    · rename_i i _
      rcases write_cases s.identities id.bytes (Identity.codec.encode { i with traits }) with
        hwrite | ⟨-, hwrite⟩
      · rw [hwrite] at h
        cases h
      · rw [hwrite] at h
        cases h
        refine identity?_congr ?_
        rw [ByteMap.get?_insert, if_neg fun hname => hother (IdentityId.bytes_injective hname)]
  alike {id s s'} traits h := by
    rw [updateTraits_eq, updateTraits_eq, ← h]
    rcases IdentityStore.identity? id s with cause | (_ | i)
    · exact .inl ⟨_, rfl, rfl⟩
    · exact .inl ⟨_, rfl, rfl⟩
    · dsimp only
      -- the same record is written under the same name, or refused for its length
      by_cases hfits : id.bytes.isEmpty ∨ maxKeySize < id.bytes.length
      · rw [write, if_pos hfits, write, if_pos hfits]
        exact .inl ⟨_, rfl, rfl⟩
      · rw [write, if_neg hfits, write, if_neg hfits]
        refine .inr ⟨_, _, rfl, rfl, identity?_congr ?_⟩
        rw [ByteMap.get?_insert, if_pos rfl, ByteMap.get?_insert, if_pos rfl]

end IdentityFile

end Durable

end Vouch
