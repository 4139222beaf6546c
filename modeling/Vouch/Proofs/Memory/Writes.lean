import Vouch.Proofs.Memory.Intact

/-!
# What the calls write

Each of the four ways in which a call writes to the tables keeps a store intact: a record is put
into an empty slot, a record or a challenge is written again, a challenge is added.  The calls are
made of these, and each of them changes one account.
-/

namespace Vouch.MemoryStore

variable {m m' : MemoryStore}

namespace Intact

/-! ## The four writes -/

-- A record is put into an empty slot.
theorem open_slot (h : m.Intact) {a : Address} (hslot : m.slots.get? a.slot = none)
    (hnew : m.addresses.get? a.id = none) :
    Intact { m with
      slots := m.slots.insert a.slot a.id
      addresses := m.addresses.insert a.id a } where
  id_of_address hb :=
    Table.forall_insert (P := fun id (b : Address) => b.id = id) h.id_of_address rfl hb
  slot_iff {slot id} := by
    simp only [Table.get?_insert]
    by_cases hs : slot = a.slot
    · -- the slot was empty, so the new record is the only one for it
      subst hs
      rw [if_pos rfl]
      constructor
      · intro hid
        rw [← Option.some.inj hid]
        exact ⟨a, if_pos rfl, rfl⟩
      · rintro ⟨b, hb, hbs⟩
        split at hb
        · rename_i hid
          rw [hid]
        · have hfull := h.slot_iff.mpr ⟨b, hb, hbs⟩
          rw [hslot] at hfull
          cases hfull
    · rw [if_neg hs, h.slot_iff]
      constructor
      · rintro ⟨b, hb, hbs⟩
        refine ⟨b, ?_, hbs⟩
        rw [if_neg]
        · exact hb
        · intro hid
          rw [hid, hnew] at hb
          cases hb
      · rintro ⟨b, hb, hbs⟩
        split at hb
        · rw [← Option.some.inj hb] at hbs
          exact absurd hbs.symm hs
        · exact ⟨b, hb, hbs⟩
  id_of_challenge hc := h.id_of_challenge hc
  address_of_challenge hc := Table.exists_insert (h.address_of_challenge hc) a.id a
  active_iff := h.active_iff
  newest hc := h.newest hc

-- A record is written again, in the same slot.
theorem write_record (h : m.Intact) {a old : Address} (hold : m.addresses.get? a.id = some old)
    (hslot : a.slot = old.slot) :
    Intact { m with addresses := m.addresses.insert a.id a } where
  id_of_address hb :=
    Table.forall_insert (P := fun id (b : Address) => b.id = id) h.id_of_address rfl hb
  slot_iff {slot id} := by
    simp only [Table.get?_insert, h.slot_iff]
    by_cases hid : id = a.id
    · -- the record is another one now, but still for its slot
      subst hid
      simp only [if_pos, hold]
      constructor
      · rintro ⟨b, hb, rfl⟩
        exact ⟨a, rfl, by rw [hslot, Option.some.inj hb]⟩
      · rintro ⟨b, hb, rfl⟩
        exact ⟨old, rfl, by rw [← Option.some.inj hb, hslot]⟩
    · simp only [if_neg hid]
  id_of_challenge hc := h.id_of_challenge hc
  address_of_challenge hc := Table.exists_insert (h.address_of_challenge hc) a.id a
  active_iff := h.active_iff
  newest hc := h.newest hc

-- The pointer leads to a challenge exactly as long as the challenge is active.
theorem pointer_iff (h : m.Intact) {c old : Challenge} (hold : m.challenges.get? c.id = some old)
    (haddr : c.address = old.address) (a : AddressId) :
    m.active.get? a = some c.id ↔ c.address = a ∧ old.isActive = true := by
  rw [h.active_iff, hold, haddr]
  simp only [Option.some.injEq, exists_eq_left']

-- A challenge is written again; if it has ended since, its address no longer points at it.
theorem write_challenge (h : m.Intact) {c old : Challenge}
    (hold : m.challenges.get? c.id = some old) (haddr : c.address = old.address)
    (hended : old.isActive = false → c.isActive = false) :
    Intact { m with
      active := if old.isActive && !c.isActive then m.active.erase c.address else m.active
      challenges := m.challenges.insert c.id c } where
  id_of_address ha := h.id_of_address ha
  slot_iff := h.slot_iff
  id_of_challenge hd :=
    Table.forall_insert (P := fun f (d : Challenge) => d.id = f) h.id_of_challenge rfl hd
  address_of_challenge hd :=
    Table.forall_insert
      (P := fun _ (d : Challenge) => ∃ a, m.addresses.get? d.address = some a)
      h.address_of_challenge (haddr ▸ h.address_of_challenge hold) hd
  active_iff {a f} := by
    have hpointer := h.pointer_iff hold haddr
    simp only [Table.get?_insert]
    by_cases hf : f = c.id
    · -- the pointer goes if the challenge was active and no longer is
      subst hf
      simp only [if_pos, Option.some.injEq, exists_eq_left']
      cases hold' : old.isActive with
      | false => simp [hpointer, hold', hended hold']
      | true =>
        cases hc : c.isActive with
        | true => simp [hpointer, hold']
        | false =>
          simp only [Bool.not_false, Bool.and_true, if_true, Table.get?_erase]
          by_cases ha : a = c.address
          · simp [ha]
          · have ha' : ¬ c.address = a := fun he => ha he.symm
            simp [ha, ha', hpointer]
    · simp only [if_neg hf, ← h.active_iff]
      split
      · rename_i hboth
        rw [Table.get?_erase]
        split
        · -- the pointer that goes named `c`, not `f`
          rename_i ha
          rw [Bool.and_eq_true] at hboth
          rw [(hpointer a).mpr ⟨ha.symm, hboth.1⟩]
          constructor
          · intro hn
            cases hn
          · intro he
            exact absurd (Option.some.inj he).symm hf
        · exact Iff.rfl
      · exact Iff.rfl
  newest {a d} hd := by
    have hhistory : history a { m with
        active := if old.isActive && !c.isActive then m.active.erase c.address else m.active
        challenges := m.challenges.insert c.id c } =
          (m.history a).map fun d => if d.id = c.id then c else d :=
      history_replace h hold haddr rfl a
    rw [hhistory, ← List.map_dropLast] at hd
    obtain ⟨b, hb, rfl⟩ := List.mem_map.mp hd
    have hb' := h.newest hb
    split
    · -- what had ended before it was written again has still ended
      rename_i hid
      obtain ⟨hget, -⟩ := h.mem_history.mp ((List.dropLast_sublist _).subset hb)
      rw [hid, hold] at hget
      exact hended (by rw [Option.some.inj hget]; exact hb')
    · exact hb'

-- An active challenge is added for an address that has none.
theorem add_challenge (h : m.Intact) {c : Challenge} {a : Address}
    (hnew : m.challenges.get? c.id = none) (ha : m.addresses.get? c.address = some a)
    (hact : c.isActive = true) (hfree : m.active.get? c.address = none) :
    Intact { m with
      active := m.active.insert c.address c.id
      challenges := m.challenges.insert c.id c } where
  id_of_address hb := h.id_of_address hb
  slot_iff := h.slot_iff
  id_of_challenge hd :=
    Table.forall_insert (P := fun f (d : Challenge) => d.id = f) h.id_of_challenge rfl hd
  address_of_challenge hd :=
    Table.forall_insert
      (P := fun _ (d : Challenge) => ∃ a, m.addresses.get? d.address = some a)
      h.address_of_challenge ⟨a, ha⟩ hd
  active_iff {b f} := by
    simp only [Table.get?_insert]
    by_cases hf : f = c.id
    · subst hf
      simp only [if_pos]
      constructor
      · intro hptr
        split at hptr
        · rename_i hb
          exact ⟨c, rfl, hb.symm, hact⟩
        · obtain ⟨d, hd, -⟩ := h.active_iff.mp hptr
          rw [hnew] at hd
          cases hd
      · rintro ⟨d, hd, hb, -⟩
        rw [← Option.some.inj hd] at hb
        rw [if_pos hb.symm]
    · simp only [if_neg hf, ← h.active_iff]
      split
      · rename_i hb
        rw [hb, hfree]
        constructor
        · intro he
          exact absurd (Option.some.inj he).symm hf
        · intro hn
          cases hn
      · exact Iff.rfl
  newest {b d} hd := by
    have hhistory : history b { m with
        active := m.active.insert c.address c.id
        challenges := m.challenges.insert c.id c } =
          m.history b ++ if c.address = b then [c] else [] :=
      history_append hnew rfl b
    rw [hhistory] at hd
    by_cases hb : c.address = b
    · -- all that were issued before are earlier now, and none of them is active
      subst hb
      rw [if_pos rfl, List.dropLast_concat] at hd
      exact h.inactive_of_no_pointer hfree hd
    · rw [if_neg hb, List.append_nil] at hd
      exact h.newest hd

end Intact

end Vouch.MemoryStore
