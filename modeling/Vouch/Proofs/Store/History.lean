import Vouch.Proofs.Memory.Growth
import Vouch.Proofs.Store.Calls

/-!
# Histories of calls

The records of a store are a history of the calls that were made.  No challenge is lost, and none is
written again once it has ended; the challenges of an address are listed as they were created.
-/

namespace Vouch.StoreRun

variable {σ : Type} [VerificationStore σ] [Backend σ]

/-- Further calls. -/
inductive Leads (r : StoreRun σ) : StoreRun σ → Prop where
  | refl : Leads r r
  | call {r' : StoreRun σ} {call : StoreCall} : Leads r r' → r'.Admits call →
    Leads r (r'.after call)

/-- The challenges created for an address, as they were created. -/
def issuedFor (r : StoreRun σ) (id : AddressId) : List Challenge :=
  r.created.filter fun c => c.address = id

/-- What a store holds is what was created, as far as it has come since. -/
structure Chronicled (r : StoreRun σ) : Prop where
  tidy : ∀ {c}, r.Stored c → c.Tidy
  /-- A challenge that was created is found under its identifier. -/
  stored : ∀ c ∈ r.created, ∃ d, VerificationStore.challenge? c.id r.store = .ok (some d) ∧
    c.Evolves d
  /-- An address lists the challenges created for it, each once and in their order. -/
  listed : ∀ id, Backend.Roomy r.store → ∃ l, VerificationStore.history id r.store = .ok l ∧
    l.map (fun c => c.id) = r.createdFor id ∧ (r.createdFor id).Nodup ∧
    List.Forall₂ Challenge.Evolves (r.issuedFor id) l

/-- What a later store has kept of an earlier one. -/
structure Preserves (r r' : StoreRun σ) : Prop where
  created : r.created <+: r'.created
  challenge : ∀ f c, VerificationStore.challenge? f r.store = .ok (some c) →
    ∃ d, VerificationStore.challenge? f r'.store = .ok (some d) ∧ c.Evolves d
  address : ∀ id a, VerificationStore.address? id r.store = .ok (some a) →
    ∃ b, VerificationStore.address? id r'.store = .ok (some b) ∧ a.Evolves b

/-- Two runs whose stores show one store in memory and what it has grown to. -/
structure Continues (r : StoreRun σ) (m : MemoryStore) (r' : StoreRun σ) (m' : MemoryStore) :
    Prop where
  shows : Backend.Shows r'.store m'
  grows : ∃ new, r'.created = r.created ++ new ∧ (∀ c ∈ new, c.Tidy) ∧ m.Grows new m'

namespace Continues

variable {r r' r'' : StoreRun σ} {m m' m'' : MemoryStore}

theorem refl (h : Backend.Shows r.store m) : Continues r m r m :=
  ⟨h, [], (List.append_nil _).symm, (fun _ hc => nomatch hc), .refl m⟩

theorem trans (h : Continues r m r' m') (h' : Continues r' m' r'' m'') :
    Continues r m r'' m'' := by
  obtain ⟨new, hcreated, htidy, hgrows⟩ := h.grows
  obtain ⟨new', hcreated', htidy', hgrows'⟩ := h'.grows
  refine ⟨h'.shows, new ++ new', ?_, fun c hc => ?_, hgrows.trans hgrows'⟩
  · rw [hcreated', hcreated, List.append_assoc]
  · rcases List.mem_append.mp hc with hc | hc
    · exact htidy c hc
    · exact htidy' c hc

/-! ## One call -/

-- A change that agrees with one of the store in memory that lets it grow.
theorem of_agree {α : Type} {result : Except StoreError (α × σ)}
    {result' : Except StoreError (α × MemoryStore)} {new : List Challenge}
    (h : Backend.Shows r.store m) (hagree : Agree Backend.Shows result result')
    (htidy : ∀ c ∈ new, c.Tidy) (hgrows : ∀ {out m'}, result' = .ok (out, m') → m.Grows new m') :
    ∃ m', Continues r m (r.change result new) m' := by
  cases hagree with
  | error e => exact ⟨m, .refl h⟩
  | ok out hshows => exact ⟨_, hshows, new, rfl, htidy, hgrows rfl⟩

theorem of_update {α : Type} {result : Except StoreError (α × σ)} {f : FlowId}
    {change : Attempt → α × Attempt} (h : Backend.Shows r.store m)
    (hagree : Agree Backend.Shows result (m.update f change))
    (hamends : ∀ p : Attempt, p.Amends (change p).2)
    (hevolves : ∀ p : Attempt, p.Evolves (change p).2) :
    ∃ m', Continues r m (r.change result []) m' :=
  of_agree h hagree (fun _ hc => nomatch hc) fun hupdate =>
    MemoryStore.grows_update (Backend.intact h) hamends hevolves hupdate

theorem of_upsert {candidate : Address} (h : Backend.Shows r.store m)
    (hadmits : ∀ a, VerificationStore.address? candidate.id r.store = .ok (some a) →
      a.slot = candidate.slot) :
    ∃ m', Continues r m (r.change (VerificationStore.upsert candidate r.store) []) m' := by
  have hi := Backend.intact h
  have hnew := unknown_of_admits h hadmits
  rcases Backend.upsert_agrees h hnew with hagree | hrefused
  · refine of_agree h hagree (fun _ hc => nomatch hc) fun {out m'} he => ?_
    obtain ⟨out', m'', hup, hi', hupserts⟩ := MemoryStore.upsert_upserts hi hnew
    rw [hup] at he
    cases he
    exact MemoryStore.grows_upserts hi hi' hupserts hnew
  · rw [hrefused]
    exact ⟨m, .refl h⟩

theorem of_call (h : Backend.Shows r.store m) {call : StoreCall} (hadmits : r.Admits call) :
    ∃ m', Continues r m (r.after call) m' := by
  cases call with
  | upsert id slot value now => exact of_upsert h hadmits
  | create flow snapshot token code policy now =>
    refine of_agree h (Backend.create_agrees h hadmits rfl) (fun c hc => ?_) fun hcreate =>
      MemoryStore.grows_create (Backend.intact h) rfl hcreate
    rw [List.mem_singleton.mp hc]
    exact Challenge.tidy_issue flow snapshot token code policy now
  | complete flow now =>
    exact of_update h (Backend.complete_agrees h flow now) (fun p => p.complete_amends now)
      fun p => p.evolves_complete now
  | failAttempt flow now =>
    exact of_update h (Backend.failAttempt_agrees h flow now) (fun p => p.fail_amends now)
      fun p => p.evolves_fail now
  | expire flow reason now =>
    exact of_update h (Backend.expire_agrees h flow reason now) (fun p => p.expire_amends now reason)
      fun p => p.evolves_expire now reason

end Continues

/-! ## All runs -/

variable {r r' : StoreRun σ} {m m' : MemoryStore}

theorem Leads.continues (h : r.Leads r') (hshows : Backend.Shows r.store m) :
    ∃ m', Continues r m r' m' := by
  induction h with
  | refl => exact ⟨m, .refl hshows⟩
  | call _ hadmits ih =>
    obtain ⟨m', hm'⟩ := ih
    obtain ⟨m'', hm''⟩ := Continues.of_call hm'.shows hadmits
    exact ⟨m'', hm'.trans hm''⟩

theorem Possible.leads (h : r.Possible) : Leads ⟨Backend.empty, []⟩ r := by
  induction h with
  | empty => exact .refl
  | call _ hadmits ih => exact .call ih hadmits

theorem Continues.preserves (h : Backend.Shows r.store m) (hc : Continues r m r' m') :
    r.Preserves r' := by
  obtain ⟨new, hcreated, -, hgrows⟩ := hc.grows
  refine ⟨⟨new, hcreated.symm⟩, fun f c hfound => ?_, fun id a hfound => ?_⟩
  · rw [Backend.challenge?_eq h, Except.ok.injEq] at hfound
    obtain rfl := (Backend.intact h).id_of_challenge hfound
    have hmem := (Backend.intact h).mem_history.mpr ⟨hfound, rfl⟩
    obtain ⟨d, hd, hcd⟩ :=
      hgrows.challenge (Backend.intact hc.shows) (List.mem_append_left _ hmem)
    exact ⟨d, by rw [Backend.challenge?_eq hc.shows, hd], hcd⟩
  · rw [Backend.address?_eq h, Except.ok.injEq] at hfound
    obtain ⟨b, hb, hab⟩ := hgrows.address id a hfound
    exact ⟨b, by rw [Backend.address?_eq hc.shows, hb], hab⟩

-- From an empty store, all that is held was created.
theorem Continues.chronicled (h : Continues ⟨Backend.empty, []⟩ .empty r m) : r.Chronicled := by
  have hi := Backend.intact h.shows
  obtain ⟨new, hcreated, htidy, hgrows⟩ := h.grows
  rw [List.nil_append] at hcreated
  have hhistory : ∀ id, List.Forall₂ Challenge.Evolves (r.issuedFor id) (m.history id) := by
    intro id
    rw [issuedFor, hcreated]
    exact hgrows.history id
  refine ⟨fun {c} hc => ?_, fun c hc => ?_, fun id hroomy => ?_⟩
  · obtain ⟨f, hf⟩ := hc
    rw [Backend.challenge?_eq h.shows, Except.ok.injEq] at hf
    obtain rfl := hi.id_of_challenge hf
    obtain ⟨issued, hissued, hevolves⟩ :=
      MemoryStore.exists_earlier (hhistory c.address) (hi.mem_history.mpr ⟨hf, rfl⟩)
    refine hevolves.tidy (htidy issued ?_)
    rw [← hcreated]
    exact (List.mem_filter.mp hissued).1
  · have hmem : c ∈ new.filter fun d => d.address = c.address := by
      rw [← hcreated]
      exact List.mem_filter.mpr ⟨hc, decide_eq_true rfl⟩
    obtain ⟨d, hd, hcd⟩ := hgrows.challenge hi (List.mem_append_right _ hmem)
    exact ⟨d, by rw [Backend.challenge?_eq h.shows, hd], hcd⟩
  · have hids := MemoryStore.ids_of_evolves (hhistory id)
    have hnodup := hi.nodup_history id
    rw [hids] at hnodup
    exact ⟨_, Backend.history_eq h.shows id hroomy, hids, hnodup, hhistory id⟩

theorem Possible.chronicled (h : r.Possible) : r.Chronicled := by
  obtain ⟨m, hm⟩ := h.leads.continues Backend.shows_empty
  exact hm.chronicled

theorem Possible.preserves (h : r.Possible) (hleads : r.Leads r') : r.Preserves r' := by
  obtain ⟨m, hm⟩ := h.leads.continues Backend.shows_empty
  obtain ⟨m', hm'⟩ := hleads.continues hm.shows
  exact hm'.preserves hm.shows

/-- In memory and on disk, whatever calls were made: the store holds what was created, in its order
and with the marks of its end, and whatever calls follow, nothing of it is lost or written again. -/
theorem history_grows_of_possible :
    (∀ r r' : StoreRun MemoryStore, r.Possible → r.Leads r' → r.Chronicled ∧ r.Preserves r') ∧
      ∀ r r' : StoreRun Durable.Ledger, r.Possible → r.Leads r' →
        r.Chronicled ∧ r.Preserves r' :=
  ⟨fun _ _ h hleads => ⟨h.chronicled, h.preserves hleads⟩,
    fun _ _ h hleads => ⟨h.chronicled, h.preserves hleads⟩⟩

/-- The run of the two challenges, and an attempt to complete the first of them. -/
def challengedThenCompleted (σ : Type) [VerificationStore σ] [Backend σ] : StoreRun σ :=
  (challengedTwice σ).after (.complete ⟨List.replicate Id.size 2, rfl⟩ ⟨10⟩)

theorem challengedTwice_history :
    (challengedTwice MemoryStore).Chronicled ∧
      (challengedTwice MemoryStore).Preserves (challengedThenCompleted MemoryStore) ∧
      (challengedTwice Durable.Ledger).Chronicled ∧
      (challengedTwice Durable.Ledger).Preserves (challengedThenCompleted Durable.Ledger) := by
  have hmemory := history_grows_of_possible.1 (challengedTwice MemoryStore)
    (challengedThenCompleted MemoryStore) (challengedTwice_possible fun _ _ _ => trivial)
    (.call .refl trivial)
  have hledger := history_grows_of_possible.2 (challengedTwice Durable.Ledger)
    (challengedThenCompleted Durable.Ledger) (challengedTwice_possible outdatedChallenge_admitted)
    (.call .refl trivial)
  exact ⟨hmemory.1, hmemory.2, hledger.1, hledger.2⟩

end Vouch.StoreRun
