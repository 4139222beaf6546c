import Vouch.Proofs.Memory.Account

/-!
# Stores in memory stay intact

The tables of a store in memory repeat each other: the slots repeat the records of the addresses,
the pointers repeat the states of the challenges.  `Intact` says that they agree.  Every call keeps
a store intact, and is described by the one account that it changes.
-/

namespace Vouch.MemoryStore

variable {m m' : MemoryStore}

/-- Every challenge ever issued for an address, oldest first. -/
def history (address : AddressId) (m : MemoryStore) : List Challenge :=
  m.challenges.values.filter fun c => c.address = address

/-- The identifiers of these challenges. -/
def flows (address : AddressId) (m : MemoryStore) : List FlowId :=
  (m.history address).map fun c => c.id

def account? (id : AddressId) (m : MemoryStore) : Option Account :=
  (m.addresses.get? id).map fun a => ⟨a, m.history id⟩

/-- The tables agree with each other. -/
structure Intact (m : MemoryStore) : Prop where
  id_of_address : ∀ {id a}, m.addresses.get? id = some a → a.id = id
  /-- A slot holds the one address that is for it. -/
  slot_iff : ∀ {slot id},
    m.slots.get? slot = some id ↔ ∃ a, m.addresses.get? id = some a ∧ a.slot = slot
  id_of_challenge : ∀ {f c}, m.challenges.get? f = some c → c.id = f
  address_of_challenge : ∀ {f c}, m.challenges.get? f = some c →
    ∃ a, m.addresses.get? c.address = some a
  /-- An address points at its active challenge. -/
  active_iff : ∀ {a f}, m.active.get? a = some f ↔
    ∃ c, m.challenges.get? f = some c ∧ c.address = a ∧ c.isActive = true
  /-- Only the newest challenge of an address can be active. -/
  newest : ∀ {a c}, c ∈ (m.history a).dropLast → c.isActive = false

/-- All accounts stay as they are, but for one. -/
def Sets (m : MemoryStore) (id : AddressId) (acc : Account) (m' : MemoryStore) : Prop :=
  ∀ j, m'.account? j = if j = id then some acc else m.account? j

theorem account?_eq_some_iff {id : AddressId} {acc : Account} :
    m.account? id = some acc ↔
      m.addresses.get? id = some acc.record ∧ m.history id = acc.history := by
  simp only [account?, Option.map_eq_some_iff]
  constructor
  · rintro ⟨a, ha, rfl⟩
    exact ⟨ha, rfl⟩
  · rintro ⟨ha, hh⟩
    exact ⟨acc.record, ha, by rw [hh]⟩

theorem get?_of_account? {id : AddressId} {acc : Account} (h : m.account? id = some acc) :
    m.addresses.get? id = some acc.record :=
  (account?_eq_some_iff.mp h).1

theorem history_of_account? {id : AddressId} {acc : Account} (h : m.account? id = some acc) :
    m.history id = acc.history :=
  (account?_eq_some_iff.mp h).2

theorem account?_eq_none_iff {id : AddressId} :
    m.account? id = none ↔ m.addresses.get? id = none := by
  simp only [account?, Option.map_eq_none_iff]

theorem sets_self {id : AddressId} {acc : Account} (h : m.account? id = some acc) :
    m.Sets id acc m := by
  intro j
  split
  · rename_i hj
    rw [hj, h]
  · rfl

theorem Sets.get? {id : AddressId} {acc : Account} (h : m.Sets id acc m') :
    m'.account? id = some acc := by
  rw [h id, if_pos rfl]

theorem Sets.trans {m'' : MemoryStore} {id : AddressId} {acc acc' : Account}
    (h : m.Sets id acc m') (h' : m'.Sets id acc' m'') : m.Sets id acc' m'' := by
  intro j
  rw [h' j, h j]
  split <;> rfl

theorem account?_of_get? {id : AddressId} {a : Address} (h : m.addresses.get? id = some a) :
    m.account? id = some ⟨a, m.history id⟩ := by
  simp only [account?, h, Option.map_some]

theorem intact_empty : empty.Intact where
  id_of_address h := nomatch h
  slot_iff := ⟨(fun h => nomatch h), (fun ⟨_, h, _⟩ => nomatch h)⟩
  id_of_challenge h := nomatch h
  address_of_challenge h := nomatch h
  active_iff := ⟨(fun h => nomatch h), (fun ⟨_, h, _⟩ => nomatch h)⟩
  newest h := nomatch h

theorem nodup_of_ids {α β : Type} {l : List α} {key : α → β} (h : (l.map key).Nodup) : l.Nodup :=
  List.Pairwise.of_map key (fun _ _ hne he => hne (congrArg key he)) h

namespace Intact

theorem mem_addresses (h : m.Intact) {a : Address} :
    a ∈ m.addresses.values ↔ m.addresses.get? a.id = some a := by
  rw [Table.mem_values_iff]
  constructor
  · rintro ⟨id, ha⟩
    rw [h.id_of_address ha]
    exact ha
  · exact fun ha => ⟨a.id, ha⟩

theorem nodup_addresses (h : m.Intact) : m.addresses.values.Nodup :=
  nodup_of_ids (m.addresses.nodup_values (fun a => a.id) fun _ _ ha => h.id_of_address ha)

theorem mem_challenges (h : m.Intact) {c : Challenge} :
    c ∈ m.challenges.values ↔ m.challenges.get? c.id = some c := by
  rw [Table.mem_values_iff]
  constructor
  · rintro ⟨f, hc⟩
    rw [h.id_of_challenge hc]
    exact hc
  · exact fun hc => ⟨c.id, hc⟩

theorem nodup_challenges (h : m.Intact) : m.challenges.values.Nodup :=
  nodup_of_ids (m.challenges.nodup_values (fun c => c.id) fun _ _ hc => h.id_of_challenge hc)

theorem mem_history (h : m.Intact) {a : AddressId} {c : Challenge} :
    c ∈ m.history a ↔ m.challenges.get? c.id = some c ∧ c.address = a := by
  simp only [history, List.mem_filter, decide_eq_true_eq, h.mem_challenges]

theorem nodup_history (h : m.Intact) (a : AddressId) :
    ((m.history a).map fun c => c.id).Nodup := by
  have hall := m.challenges.nodup_values (fun c => c.id) fun _ _ hc => h.id_of_challenge hc
  exact hall.sublist (List.filter_sublist.map _)

-- A challenge of an intact store is in the account of its address.
theorem account_of_challenge (h : m.Intact) {f : FlowId} {c : Challenge}
    (hc : m.challenges.get? f = some c) :
    ∃ acc, m.account? c.address = some acc ∧ c ∈ acc.history := by
  obtain ⟨a, ha⟩ := h.address_of_challenge hc
  refine ⟨_, account?_of_get? ha, h.mem_history.mpr ⟨?_, rfl⟩⟩
  rw [h.id_of_challenge hc]
  exact hc

theorem id_of_account (h : m.Intact) {id : AddressId} {acc : Account}
    (hacc : m.account? id = some acc) : acc.record.id = id :=
  h.id_of_address (get?_of_account? hacc)

-- Where there is no account there is no history.
theorem history_of_no_account (h : m.Intact) {id : AddressId} (hacc : m.account? id = none) :
    m.history id = [] := by
  rw [List.eq_nil_iff_forall_not_mem]
  intro c hc
  obtain ⟨hget, rfl⟩ := h.mem_history.mp hc
  obtain ⟨a, ha⟩ := h.address_of_challenge hget
  rw [account?_eq_none_iff, ha] at hacc
  cases hacc

theorem unknown_iff (h : m.Intact) {f : FlowId} :
    m.challenges.get? f = none ↔ ∀ a, f ∉ m.flows a := by
  constructor
  · intro hf a hmem
    obtain ⟨c, hc, rfl⟩ := List.mem_map.mp hmem
    rw [(h.mem_history.mp hc).1] at hf
    cases hf
  · intro hf
    cases hc : m.challenges.get? f with
    | none => rfl
    | some c =>
      have hid := h.id_of_challenge hc
      have hmem := h.mem_history.mpr ⟨by rw [hid]; exact hc, rfl⟩
      exact absurd (List.mem_map.mpr ⟨c, hmem, hid⟩) (hf c.address)

-- An active challenge is the newest of its address.
theorem getLast?_of_active (h : m.Intact) {c : Challenge} (hc : m.challenges.get? c.id = some c)
    (hact : c.isActive = true) : (m.history c.address).getLast? = some c := by
  have hmem := h.mem_history.mpr ⟨hc, rfl⟩
  cases hl : (m.history c.address).getLast? with
  | none =>
    rw [List.getLast?_eq_none_iff.mp hl] at hmem
    cases hmem
  | some d =>
    obtain ⟨earlier, hsplit⟩ := List.getLast?_eq_some_iff.mp hl
    rw [hsplit] at hmem
    rcases List.mem_append.mp hmem with hc | hc
    · -- all but the last have ended
      have hended := h.newest (a := c.address) (c := c)
        (by rw [hsplit, List.dropLast_concat]; exact hc)
      rw [hact] at hended
      cases hended
    · rw [List.mem_singleton.mp hc]

-- Two active challenges of one address are one.
theorem eq_of_active (h : m.Intact) {f g : FlowId} {c d : Challenge}
    (hc : m.challenges.get? f = some c) (hd : m.challenges.get? g = some d)
    (ha : c.address = d.address) (hca : c.isActive = true) (hda : d.isActive = true) : c = d := by
  have hfc := h.active_iff.mpr ⟨c, hc, ha, hca⟩
  have hgd := h.active_iff.mpr ⟨d, hd, rfl, hda⟩
  rw [hfc] at hgd
  cases hgd
  rw [hc] at hd
  exact Option.some.inj hd

-- An address without pointer has no active challenge.
theorem inactive_of_no_pointer (h : m.Intact) {a : AddressId} (ha : m.active.get? a = none)
    {c : Challenge} (hc : c ∈ m.history a) : c.isActive = false := by
  obtain ⟨hget, haddr⟩ := h.mem_history.mp hc
  cases hact : c.isActive with
  | false => rfl
  | true =>
    have hptr := h.active_iff.mpr ⟨c, hget, haddr, hact⟩
    rw [ha] at hptr
    cases hptr

end Intact

/-! ## Histories -/

theorem history_of_sets (h : m.Intact) (h' : m'.Intact) {id : AddressId} {acc : Account}
    (hsets : m.Sets id acc m') (j : AddressId) :
    m'.history j = if j = id then acc.history else m.history j := by
  have hj := hsets j
  split
  · rename_i he
    rw [if_pos he] at hj
    exact history_of_account? hj
  · rename_i hne
    rw [if_neg hne] at hj
    cases hacc : m.account? j with
    | none =>
      rw [hacc] at hj
      rw [h.history_of_no_account hacc, h'.history_of_no_account hj]
    | some acc' =>
      rw [hacc] at hj
      rw [history_of_account? hacc, (history_of_account? hj)]

theorem history_congr (h : m'.challenges = m.challenges) (a : AddressId) :
    m'.history a = m.history a := by
  rw [history, history, h]

-- Every challenge is in a history, so two stores with the same flows know the same challenges.
theorem unknown_iff_of_flows (h : m.Intact) (h' : m'.Intact)
    (hflows : ∀ id, m'.flows id = m.flows id) (f : FlowId) :
    m'.challenges.get? f = none ↔ m.challenges.get? f = none := by
  rw [h.unknown_iff, h'.unknown_iff]
  simp only [hflows]

-- A change of one account that keeps its flows keeps all of them.
theorem flows_of_sets (h : m.Intact) (h' : m'.Intact) {id : AddressId} {acc : Account}
    (hsets : m.Sets id acc m') (hflows : (acc.history.map fun c => c.id) = m.flows id)
    (j : AddressId) : m'.flows j = m.flows j := by
  rw [flows, history_of_sets h h' hsets]
  split
  · rename_i hj
    rw [hj]
    exact hflows
  · rfl

-- A challenge written again keeps its place.
theorem history_replace (h : m.Intact) {c old : Challenge}
    (hold : m.challenges.get? c.id = some old) (haddr : c.address = old.address)
    (hm' : m'.challenges = m.challenges.insert c.id c) (a : AddressId) :
    m'.history a = (m.history a).map fun d => if d.id = c.id then c else d := by
  have hvalues := Table.values_insert_of_get?_eq_some hold c (fun d => d.id)
    fun _ _ hd => h.id_of_challenge hd
  have hsame : ∀ d ∈ m.challenges.values,
      (if d.id = c.id then c else d).address = d.address := by
    intro d hd
    obtain ⟨f, hf⟩ := (Table.mem_values_iff _ _).mp hd
    split
    · rename_i hid
      rw [← h.id_of_challenge hf, hid, hold] at hf
      rw [← Option.some.inj hf, haddr]
    · rfl
  rw [history, history, hm', hvalues, List.filter_map]
  congr 1
  apply List.filter_congr
  intro d hd
  simp only [Function.comp_apply, hsame d hd]

-- A new challenge is the newest of its address.
theorem history_append {c : Challenge} (hnew : m.challenges.get? c.id = none)
    (hm' : m'.challenges = m.challenges.insert c.id c) (a : AddressId) :
    m'.history a = m.history a ++ if c.address = a then [c] else [] := by
  rw [history, history, hm', Table.values_insert_of_get?_eq_none hnew, List.filter_append]
  congr 1
  by_cases ha : c.address = a
  · rw [if_pos ha, List.filter_cons_of_pos (by simpa using ha), List.filter_nil]
  · rw [if_neg ha, List.filter_cons_of_neg (by simpa using ha), List.filter_nil]

end Vouch.MemoryStore
