import Vouch.Proofs.Memory.Writes

/-!
# The calls of a store in memory

One lemma for each way in which a call can end well: the store stays intact and one account
changes, to what the lemma says.
-/

namespace Vouch.MemoryStore

variable {m m' : MemoryStore} {id : AddressId} {acc : Account}

theorem sets_of_tables {a : Address} {l : List Challenge}
    (ha : ∀ j, m'.addresses.get? j = if j = id then some a else m.addresses.get? j)
    (hl : ∀ j, m'.history j = if j = id then l else m.history j) : m.Sets id ⟨a, l⟩ m' := by
  intro j
  simp only [account?, ha, hl]
  split <;> rfl

/-! ## Ending the active challenge -/

theorem expireActive_of_no_pointer (h : m.active.get? id = none) (reason : ExpiredReason) :
    m.expireActive id reason = (none, m) := by
  simp only [expireActive, h]

theorem expireActive_of_active {c : Challenge} (h : m.Intact)
    (hc : m.challenges.get? c.id = some c) (hact : c.isActive = true) (reason : ExpiredReason) :
    m.expireActive c.address reason =
      (some (c.expire reason), { m with
        active := m.active.erase c.address
        challenges := m.challenges.insert c.id (c.expire reason) }) := by
  have hpointer := h.active_iff.mpr ⟨c, hc, rfl, hact⟩
  simp only [expireActive, hpointer, hc]

-- Ending the active challenge of an address leaves all other histories as they are.
theorem history_expireActive (h : m.Intact) (reason : ExpiredReason) (j : AddressId) :
    (m.expireActive id reason).2.history j =
      if j = id then (m.history id).map fun c => c.expire reason else m.history j := by
  cases hp : m.active.get? id with
  | none =>
    rw [expireActive_of_no_pointer hp]
    split
    · rename_i hj
      -- no challenge of the address is active, so there is none to end
      have hsame : ∀ c ∈ m.history id, c.expire reason = c := fun c hc =>
        Attempt.expire_of_isActive_eq_false (h.inactive_of_no_pointer hp hc) reason
      rw [List.map_congr_left hsame, List.map_id', hj]
    · rfl
  | some f =>
    obtain ⟨c, hc, rfl, hact⟩ := h.active_iff.mp hp
    rw [← h.id_of_challenge hc] at hc
    rw [expireActive_of_active h hc hact]
    have hid : (c.expire reason).id = c.id := by simp
    rw [history_replace (c := c.expire reason) h (by rw [hid]; exact hc) (c.address_expire reason)
      (by rw [hid]), hid]
    split
    · rename_i hj
      rw [hj]
      apply List.map_congr_left
      intro d hd
      obtain ⟨hget, haddr⟩ := h.mem_history.mp hd
      split
      · rename_i hdc
        rw [hdc, hc] at hget
        rw [Option.some.inj hget]
      · -- the others of the address had ended already
        rename_i hdc
        rw [Attempt.expire_of_isActive_eq_false]
        cases hdact : d.isActive with
        | false => rfl
        | true => exact absurd (congrArg (·.id) (h.eq_of_active hget hc haddr hdact hact)) hdc
    · rename_i hj
      have hother : ∀ d ∈ m.history j, (if d.id = c.id then c.expire reason else d) = d := by
        intro d hd
        obtain ⟨hget, haddr⟩ := h.mem_history.mp hd
        rw [if_neg]
        intro hdc
        rw [hdc, hc] at hget
        rw [← Option.some.inj hget] at haddr
        exact hj haddr.symm
      rw [List.map_congr_left hother, List.map_id']

theorem intact_expireActive (h : m.Intact) (reason : ExpiredReason) :
    (m.expireActive id reason).2.Intact := by
  cases hp : m.active.get? id with
  | none =>
    rw [expireActive_of_no_pointer hp]
    exact h
  | some f =>
    obtain ⟨c, hc, rfl, hact⟩ := h.active_iff.mp hp
    rw [← h.id_of_challenge hc] at hc
    rw [expireActive_of_active h hc hact]
    have hw := h.write_challenge (c := c.expire reason) (by simpa using hc)
      (c.address_expire reason) (fun _ => c.isActive_expire reason)
    simpa [hact] using hw

@[simp] theorem addresses_expireActive (reason : ExpiredReason) :
    (m.expireActive id reason).2.addresses = m.addresses := by
  simp only [expireActive]
  split
  · rfl
  · split <;> rfl

theorem pointer_expireActive (h : m.Intact) (reason : ExpiredReason) :
    (m.expireActive id reason).2.active.get? id = none := by
  cases hp : m.active.get? id with
  | none =>
    rw [expireActive_of_no_pointer hp]
    exact hp
  | some f =>
    obtain ⟨c, hc, rfl, hact⟩ := h.active_iff.mp hp
    rw [← h.id_of_challenge hc] at hc
    rw [expireActive_of_active h hc hact]
    simp only [Table.get?_erase, if_pos]

-- No challenge is lost.
theorem unknown_expireActive (h : m.Intact) (reason : ExpiredReason) {f : FlowId}
    (hf : m.challenges.get? f = none) :
    (m.expireActive id reason).2.challenges.get? f = none := by
  cases hp : m.active.get? id with
  | none =>
    rw [expireActive_of_no_pointer hp]
    exact hf
  | some g =>
    obtain ⟨c, hc, rfl, hact⟩ := h.active_iff.mp hp
    rw [← h.id_of_challenge hc] at hc
    rw [expireActive_of_active h hc hact, Table.get?_insert, if_neg]
    · exact hf
    · intro hfc
      rw [hfc, hc] at hf
      cases hf

theorem size_expireActive (id : AddressId) (reason : ExpiredReason) :
    (m.expireActive id reason).2.challenges.size = m.challenges.size := by
  simp only [expireActive]
  split
  · rfl
  · split
    · rfl
    · rename_i hc
      simp only [Table.size_insert, hc, Option.isSome_some, if_true]

/-! ## Putting a record into its slot -/

theorem upsert_empty_slot (h : m.Intact) {candidate : Address}
    (hslot : m.slots.get? candidate.slot = none)
    (hnew : m.addresses.get? candidate.id = none) :
    ∃ m', m.upsert candidate = .ok (.created candidate, m') ∧ m'.Intact ∧
      m.Sets candidate.id ⟨candidate, []⟩ m' := by
  refine ⟨_, by simp only [upsert, hslot], h.open_slot hslot hnew, ?_⟩
  have hhistory := h.history_of_no_account (account?_eq_none_iff.mpr hnew)
  apply sets_of_tables
  · exact fun j => Table.get?_insert _ _ _ _
  · intro j
    refine (history_congr (m := m) (by rfl) j).trans ?_
    split
    · rename_i hj
      rw [hj, hhistory]
    · rfl

theorem upsert_same_value (h : m.Intact) {candidate : Address} (hacc : m.account? id = some acc)
    (hslot : acc.record.slot = candidate.slot) (hvalue : acc.record.value = candidate.value) :
    m.upsert candidate = .ok (.unchanged acc.record, m) := by
  have hget := get?_of_account? hacc
  have hfull := h.slot_iff.mpr ⟨acc.record, hget, hslot⟩
  simp only [upsert, hfull, hget, if_pos hvalue]

theorem upsert_other_value (h : m.Intact) {candidate : Address} (hacc : m.account? id = some acc)
    (hslot : acc.record.slot = candidate.slot) (hvalue : acc.record.value ≠ candidate.value) :
    ∃ expired m', m.upsert candidate =
        .ok (.rebound (acc.record.rebind candidate.value candidate.updatedAt) expired, m') ∧
      m'.Intact ∧ m.Sets id (acc.rebind candidate.value candidate.updatedAt) m' := by
  obtain ⟨hget, hhist⟩ := account?_eq_some_iff.mp hacc
  have hfull := h.slot_iff.mpr ⟨acc.record, hget, hslot⟩
  have hid := h.id_of_address hget
  refine ⟨_, _, by simp only [upsert, hfull, hget, if_neg hvalue]; rfl, ?_, ?_⟩
  · -- first the active challenge ends, then the record is written again
    have hi : (m.expireActive id .addressChanged).2.Intact := intact_expireActive h .addressChanged
    have hslot' : (acc.record.rebind candidate.value candidate.updatedAt).slot = acc.record.slot :=
      rfl
    have hw := hi.write_record (by simpa [hid] using hget) hslot'
    simpa [hid] using hw
  · apply sets_of_tables
    · intro j
      rw [Table.get?_insert, addresses_expireActive]
    · intro j
      refine (history_congr (m := (m.expireActive id .addressChanged).2) (by rfl) j).trans ?_
      rw [history_expireActive h, hhist]

/-- The three ways in which a record is put into its slot. -/
inductive Upserts (m : MemoryStore) (candidate : Address) : Upserted → MemoryStore → Prop where
  | created {m' : MemoryStore} :
    m.slots.get? candidate.slot = none → m.Sets candidate.id ⟨candidate, []⟩ m' →
      Upserts m candidate (.created candidate) m'
  | unchanged {id : AddressId} {acc : Account} :
    m.account? id = some acc → acc.record.slot = candidate.slot →
      acc.record.value = candidate.value → Upserts m candidate (.unchanged acc.record) m
  | rebound {id : AddressId} {acc : Account} {expired : List Challenge} {m' : MemoryStore} :
    m.account? id = some acc → acc.record.slot = candidate.slot →
      acc.record.value ≠ candidate.value →
      m.Sets id (acc.rebind candidate.value candidate.updatedAt) m' →
      Upserts m candidate
        (.rebound (acc.record.rebind candidate.value candidate.updatedAt) expired) m'

/-- A record with an identifier of its own is always put into its slot. -/
theorem upsert_upserts (h : m.Intact) {candidate : Address}
    (hnew : m.slots.get? candidate.slot = none → m.addresses.get? candidate.id = none) :
    ∃ out m', m.upsert candidate = .ok (out, m') ∧ m'.Intact ∧ m.Upserts candidate out m' := by
  cases hslot : m.slots.get? candidate.slot with
  | none =>
    obtain ⟨m', hup, hi, hsets⟩ := upsert_empty_slot h hslot (hnew hslot)
    exact ⟨_, m', hup, hi, .created hslot hsets⟩
  | some id =>
    obtain ⟨a, ha, has⟩ := h.slot_iff.mp hslot
    have hacc := account?_of_get? ha
    by_cases hvalue : a.value = candidate.value
    · exact ⟨_, m, upsert_same_value h hacc has hvalue, h, .unchanged hacc has hvalue⟩
    · obtain ⟨expired, m', hup, hi, hsets⟩ := upsert_other_value h hacc has hvalue
      exact ⟨_, m', hup, hi, .rebound hacc has hvalue hsets⟩

theorem flows_upserts (h : m.Intact) (h' : m'.Intact) {a : Address} {out : Upserted}
    (hupserts : m.Upserts a out m')
    (hnew : m.slots.get? a.slot = none → m.addresses.get? a.id = none) (j : AddressId) :
    m'.flows j = m.flows j := by
  cases hupserts with
  | created hslot hsets =>
    refine flows_of_sets h h' hsets ?_ j
    rw [flows, h.history_of_no_account (account?_eq_none_iff.mpr (hnew hslot))]
  | unchanged => rfl
  | rebound hacc _ _ hsets =>
    refine flows_of_sets h h' hsets ?_ j
    rw [flows, history_of_account? hacc]
    simp [Account.rebind, Function.comp_def]

/-! ## Adding a challenge -/

theorem create_new (h : m.Intact) {c : Challenge} (hact : c.isActive = true)
    (hnew : m.challenges.get? c.id = none) (hacc : m.account? c.address = some acc) :
    ∃ superseded m', m.create c = .ok (superseded, m') ∧ m'.Intact ∧
      m.Sets c.address (acc.add c) m' := by
  obtain ⟨hget, hhist⟩ := account?_eq_some_iff.mp hacc
  have hid := h.id_of_address hget
  refine ⟨_, _, by simp only [create, hnew, hget]; rfl, ?_, ?_⟩
  · -- the active challenge ends, the new one is added, the record is written again
    rw [hid]
    have hi : (m.expireActive c.address .superseded).2.Intact := intact_expireActive h .superseded
    have hadd := hi.add_challenge (c := c) (a := acc.record) (unknown_expireActive h _ hnew)
      (by simpa using hget) hact (pointer_expireActive h _)
    have hslot : (acc.record.markPending c.issuedAt).slot = acc.record.slot := rfl
    have hw := hadd.write_record (by simpa [hid] using hget) hslot
    simpa [hid] using hw
  · apply sets_of_tables
    · intro j
      rw [Table.get?_insert, addresses_expireActive, Address.id_markPending, hid]
    · intro j
      rw [history_append (m := (m.expireActive acc.record.id .superseded).2)
        (unknown_expireActive h _ hnew) rfl, history_expireActive h, hid]
      by_cases hj : j = c.address
      · rw [if_pos hj, if_pos hj, if_pos hj.symm, hhist]
      · rw [if_neg hj, if_neg hj, if_neg fun he => hj he.symm, List.append_nil]

-- Only a challenge that is not known yet can be added, and only for a stored address.
theorem create_ok (h : m.Intact) {c : Challenge} (hact : c.isActive = true)
    {out : Option Challenge} (hcreate : m.create c = .ok (out, m')) :
    m.challenges.get? c.id = none ∧ m'.Intact ∧
      ∃ acc, m.account? c.address = some acc ∧ m.Sets c.address (acc.add c) m' := by
  cases hc : m.challenges.get? c.id with
  | some d =>
    simp only [create, hc] at hcreate
    cases hcreate
  | none =>
    cases ha : m.addresses.get? c.address with
    | none =>
      simp only [create, hc, ha] at hcreate
      cases hcreate
    | some a =>
      obtain ⟨out', m'', hcreate', hi, hsets⟩ := create_new h hact hc (account?_of_get? ha)
      rw [hcreate'] at hcreate
      cases hcreate
      exact ⟨rfl, hi, _, account?_of_get? ha, hsets⟩

theorem flows_create (h : m.Intact) {c : Challenge} (hact : c.isActive = true)
    {out : Option Challenge} (hcreate : m.create c = .ok (out, m')) (j : AddressId) :
    m'.flows j = m.flows j ++ ([c].filter fun c => c.address = j).map fun c => c.id := by
  obtain ⟨-, h', acc, hacc, hsets⟩ := create_ok h hact hcreate
  rw [flows, flows, history_of_sets h h' hsets]
  by_cases hj : j = c.address
  · rw [if_pos hj, hj, history_of_account? hacc]
    simp [Account.add, Function.comp_def]
  · have hj' : ¬ c.address = j := fun he => hj he.symm
    rw [if_neg hj, List.filter_cons_of_neg (by simpa using hj'), List.filter_nil, List.map_nil,
      List.append_nil]

/-! ## Changing a challenge and its address together -/

-- The pointer goes exactly when the challenge that is written back has ended by that.
theorem active_put (h : m.Intact) {c : Challenge} {a : Address} {q : Attempt}
    (hc : m.challenges.get? c.id = some c) (ha : a.id = c.address)
    (hq : (Attempt.mk c a).Amends q) :
    (m.put q).active =
      if c.isActive && !q.challenge.isActive then m.active.erase q.challenge.address
      else m.active := by
  have hpointer : m.active.get? q.address.id = some q.challenge.id ↔ c.isActive = true := by
    rw [hq.address.id, hq.challenge.id, h.active_iff, hc]
    simp [ha]
  simp only [put, decide_eq_decide.mpr hpointer]
  rw [hq.address.id, hq.challenge.address, ha, Bool.and_comm, Bool.decide_eq_true]

theorem intact_put (h : m.Intact) {c : Challenge} {a : Address} {q : Attempt}
    (hc : m.challenges.get? c.id = some c) (ha : m.addresses.get? c.address = some a)
    (hq : (Attempt.mk c a).Amends q) : (m.put q).Intact := by
  have hid := h.id_of_address ha
  have hended : c.isActive = false → q.challenge.isActive = false := fun hc => by
    rw [hq.ended hc]
    exact hc
  have hw := h.write_challenge (c := q.challenge) (by rw [hq.challenge.id]; exact hc)
    hq.challenge.address hended
  rw [← active_put h hc hid hq] at hw
  exact hw.write_record (by rw [hq.address.id, hid]; exact ha) hq.address.slot

theorem update_known {α : Type} (h : m.Intact) {f : FlowId} {c : Challenge}
    (hc : m.challenges.get? f = some c) (hacc : m.account? c.address = some acc)
    (change : Attempt → α × Attempt)
    (hchange : (Attempt.mk c acc.record).Amends (change ⟨c, acc.record⟩).2) :
    ∃ m', m.update f change = .ok ((change ⟨c, acc.record⟩).1, m') ∧ m'.Intact ∧
      m.Sets c.address (acc.amend (change ⟨c, acc.record⟩).2) m' := by
  obtain ⟨hget, hhist⟩ := account?_eq_some_iff.mp hacc
  have hid := h.id_of_address hget
  have hattempt : m.attempt f = .ok ⟨c, acc.record⟩ := by simp only [attempt, hc, hget]
  have hc' : m.challenges.get? c.id = some c := by rw [h.id_of_challenge hc]; exact hc
  refine ⟨_, by simp only [update, hattempt], intact_put h hc' hget hchange, ?_⟩
  generalize (change ⟨c, acc.record⟩).2 = q at hchange
  apply sets_of_tables
  · intro j
    rw [put, Table.get?_insert, hchange.address.id, hid]
  · intro j
    rw [history_replace (c := q.challenge) h (by rw [hchange.challenge.id]; exact hc')
      hchange.challenge.address rfl]
    split
    · rename_i hj
      rw [hj, hhist]
    · -- the challenge that is written back is in no other history
      rename_i hj
      have hother : ∀ d ∈ m.history j, (if d.id = q.challenge.id then q.challenge else d) = d := by
        intro d hd
        obtain ⟨hd, haddr⟩ := h.mem_history.mp hd
        rw [if_neg]
        intro hdc
        rw [hdc, hchange.challenge.id, hc'] at hd
        rw [← Option.some.inj hd] at haddr
        exact hj haddr.symm
      rw [List.map_congr_left hother, List.map_id']

theorem update_unknown {α : Type} {f : FlowId} (hf : m.challenges.get? f = none)
    (change : Attempt → α × Attempt) :
    m.update f change = .error (.notFound (.challenge f)) := by
  simp only [update, attempt, hf]

-- Only a known challenge can be changed.
theorem update_ok {α : Type} (h : m.Intact) {f : FlowId} {change : Attempt → α × Attempt}
    (hchange : ∀ p : Attempt, p.Amends (change p).2) {out : α}
    (hupdate : m.update f change = .ok (out, m')) :
    m'.Intact ∧ ∃ c acc, m.challenges.get? f = some c ∧ m.account? c.address = some acc ∧
      out = (change ⟨c, acc.record⟩).1 ∧
      m.Sets c.address (acc.amend (change ⟨c, acc.record⟩).2) m' := by
  cases hc : m.challenges.get? f with
  | none =>
    rw [update_unknown hc] at hupdate
    cases hupdate
  | some c =>
    obtain ⟨acc, hacc, -⟩ := h.account_of_challenge hc
    obtain ⟨m'', hupdate', hi, hsets⟩ := update_known h hc hacc change (hchange _)
    rw [hupdate'] at hupdate
    cases hupdate
    exact ⟨hi, c, acc, rfl, hacc, rfl, hsets⟩

theorem flows_amend {q : Attempt} : ((acc.amend q).history.map fun c => c.id) =
    acc.history.map fun c => c.id := by
  rw [Account.amend, List.map_map]
  apply List.map_congr_left
  intro d _
  simp only [Function.comp_apply]
  split
  · rename_i hd
    exact hd.symm
  · rfl

theorem flows_update {α : Type} (h : m.Intact) {f : FlowId} {change : Attempt → α × Attempt}
    (hchange : ∀ p : Attempt, p.Amends (change p).2) {out : α}
    (hupdate : m.update f change = .ok (out, m')) (j : AddressId) : m'.flows j = m.flows j := by
  obtain ⟨h', c, acc, -, hacc, -, hsets⟩ := update_ok h hchange hupdate
  refine flows_of_sets h h' hsets ?_ j
  rw [flows_amend, flows, history_of_account? hacc]

end Vouch.MemoryStore
