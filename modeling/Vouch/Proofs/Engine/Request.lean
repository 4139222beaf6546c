import Vouch.Proofs.Engine.Issue

/-!
# What a request does

A request for a slot has one of four ends: the record is refused by the backend, the slot is
verified already, its live challenge is mailed again, or a new challenge is issued.  The last one
turns the account of the slot into `Account.issue`, however the slot was found.
-/

namespace Vouch

namespace Engine

open Vouch.Action

variable {σ ι τ : Type} [VerificationStore σ] [MailTransport τ] [Backend σ] {w : World σ ι τ}
  {m : MemoryStore}

/-! ## Challenging a record -/

/-- What follows once the slot holds the value. -/
def challengeRecord (e : Engine) (a : Address) (now : Timestamp) :
    Action σ ι τ RequestOutcome := do
  if a.verified then
    return .alreadyVerified
  match ← readStore (VerificationStore.activeFor? a.id) with
  | none => return .issued (← e.issueChallenge a)
  | some c =>
    if c.isLive now ∧ c.value = a.value then
      e.mailLink c
      return .resent c.id
    else
      let _ ← changeStore (VerificationStore.expire c.id .elapsed now)
      return .issued (← e.issueChallenge a)

omit [Backend σ] in
theorem forward_challengeRecord (e : Engine) (a : Address) (now : Timestamp) :
    (e.challengeRecord a now : Action σ ι τ RequestOutcome).Forward := by
  have hissue : (do return .issued (← e.issueChallenge a) :
      Action σ ι τ RequestOutcome).Forward := by
    intro w
    rw [issueChallenge_drawn]
    exact Nat.le_add_right _ _
  rw [challengeRecord]
  split
  · exact forward_pure _
  · refine (forward_readStore _).bind fun current => ?_
    cases current with
    | none => exact hissue
    | some c =>
      show Forward (if c.isLive now ∧ c.value = a.value then _ else _)
      split
      · exact (forward_mailLink e c).bind fun _ => forward_pure _
      · exact (forward_changeStore _).bind fun _ => hissue

omit [Backend σ] in
-- First the record is put into the slot, then it is challenged.
theorem ensureChallenge_eq (e : Engine) (slot : Slot) (value : Contact) :
    (e.ensureChallenge slot value : Action σ ι τ RequestOutcome) w =
      (do
        let upserted ← changeStore (VerificationStore.upsert
          (.fresh (w.entropy.drawId .address).1 slot value w.now))
        e.challengeRecord upserted.address w.now : Action σ ι τ RequestOutcome)
        { w with entropy := (w.entropy.drawId .address).2 } := rfl

omit [Backend σ] in
-- A request always draws an identifier for an address, even where none is needed.
theorem ensureChallenge_drawn (e : Engine) (slot : Slot) (value : Contact) :
    w.entropy.drawn <
      ((e.ensureChallenge slot value : Action σ ι τ RequestOutcome).perform w).2.entropy.drawn := by
  rw [perform_congr (ensureChallenge_eq e slot value)]
  have hforward := (forward_changeStore (ι := ι) (τ := τ) (VerificationStore.upsert
    (σ := σ) (.fresh (w.entropy.drawId .address).1 slot value w.now))).bind
      fun upserted => e.forward_challengeRecord upserted.address w.now
  have hdrawn : w.entropy.drawn < (w.entropy.drawId .address).2.drawn :=
    Nat.lt_add_of_pos_right (by decide)
  exact Nat.lt_of_lt_of_le hdrawn
    (hforward { w with entropy := (w.entropy.drawId .address).2 })

/-- The ways in which the record in a slot is challenged. -/
inductive Challenges (e : Engine) (m : MemoryStore) (acc : Account) (now : Timestamp) :
    RequestOutcome → MemoryStore → Prop where
  | alreadyVerified : acc.record.verified = true → Challenges e m acc now .alreadyVerified m
  | resent {c : Challenge} : acc.record.verified = false → c ∈ acc.history → c.isActive = true →
      c.isLive now = true → c.value = acc.record.value → Challenges e m acc now (.resent c.id) m
  | issued {c : Challenge} {token code : String} {m' : MemoryStore} :
      acc.record.verified = false → m.challenges.get? c.id = none →
      c = .issue c.id acc.record token code e.policy now →
      m.Sets acc.record.id (acc.issue c) m' → Challenges e m acc now (.issued c.id) m'

/-- The messages that lead to an answer: the link of the challenge that it names, as it is stored
then. -/
def mailsFor (e : Engine) (m : MemoryStore) : Except VerificationError RequestOutcome → List Mail
  | .ok outcome => (outcome.flow?.bind m.challenges.get?).elim [] e.letters
  | .error _ => []

omit [VerificationStore σ] [MailTransport τ] [Backend σ] in
theorem mailsFor_eq (e : Engine) (outcome : RequestOutcome) (hi : m.Intact) {id : AddressId}
    {acc : Account} (hacc : m.account? id = some acc) {c : Challenge} (hc : c ∈ acc.history)
    (hflow : outcome.flow? = some c.id) : e.mailsFor m (.ok outcome) = e.letters c := by
  rw [← MemoryStore.history_of_account? hacc] at hc
  rw [mailsFor, hflow, Option.bind_some, (hi.mem_history.mp hc).1]
  rfl

-- A record that is not verified and has no active challenge is given one.
theorem issueChallenge_challenges (e : Engine) (h : Backend.Shows w.store m) {acc : Account}
    (hacc : m.account? acc.record.id = some acc) (hverified : acc.record.verified = false)
    (hended : ∀ d ∈ acc.history, d.isActive = false)
    (hnew : m.challenges.get? (w.entropy.drawId .flow).1 = none) :
    ∃ outcome w' m', (do return .issued (← e.issueChallenge acc.record) :
        Action σ ι τ RequestOutcome) w = .ok outcome w' ∧
      Backend.Shows w'.store m' ∧ e.Challenges m acc w.now outcome m' ∧
      w'.mailer = MailTransport.deliver w.now (e.mailsFor m' (.ok outcome)) w.mailer := by
  obtain ⟨w', m', hrun, hshows, hsets, hmailer⟩ := issueChallenge_run e h hacc hnew
  have hmails := e.mailsFor_eq (.issued (e.drawChallenge acc.record w).1.id)
    (Backend.intact hshows) hsets.get? (List.mem_append_right _ (List.mem_singleton_self _)) rfl
  rw [Account.add_eq_issue hverified rfl hended] at hsets
  exact ⟨_, w', m', by rw [bind_of_ok hrun]; rfl, hshows, .issued hverified hnew rfl hsets,
    by rw [hmails, hmailer]⟩

-- A record whose active challenge can no longer be used is given another one.
theorem replaceChallenge_challenges (e : Engine) (h : Backend.Shows w.store m) {acc : Account}
    (hacc : m.account? acc.record.id = some acc) (hverified : acc.record.verified = false)
    {c : Challenge} (hc : c ∈ acc.history) (hact : c.isActive = true)
    (hnew : m.challenges.get? (w.entropy.drawId .flow).1 = none) {s : σ} {m₁ : MemoryStore}
    (hshows₁ : Backend.Shows s m₁)
    (hsets₁ : m.Sets acc.record.id
      (acc.amend (Attempt.expire ⟨c, acc.record⟩ .elapsed w.now)) m₁) :
    ∃ outcome w' m', (do return .issued (← e.issueChallenge acc.record) :
        Action σ ι τ RequestOutcome) { w with store := s } = .ok outcome w' ∧
      Backend.Shows w'.store m' ∧ e.Challenges m acc w.now outcome m' ∧
      w'.mailer = MailTransport.deliver w.now (e.mailsFor m' (.ok outcome)) w.mailer := by
  have hi := Backend.intact h
  have hnew₁ : m₁.challenges.get? (w.entropy.drawId .flow).1 = none := by
    refine (MemoryStore.unknown_iff_of_flows hi (Backend.intact hshows₁)
      (MemoryStore.flows_of_sets hi (Backend.intact hshows₁) hsets₁ ?_) _).mpr hnew
    rw [MemoryStore.flows_amend, MemoryStore.flows, MemoryStore.history_of_account? hacc]
  rw [hi.amend_expire_elapsed hacc hc hact] at hsets₁
  have hbind := acc.sameBinding_elapse c.value w.now
  have hverified₁ : (acc.elapse c.value w.now).record.verified = false :=
    (acc.record.verified_markAttemptExpired _ _).trans hverified
  have hacc₁ : m₁.account? (acc.elapse c.value w.now).record.id =
      some (acc.elapse c.value w.now) := by
    rw [hbind.id]
    exact hsets₁.get?
  obtain ⟨w', m', hrun, hshows, hsets, hmailer⟩ :=
    issueChallenge_run (w := { w with store := s }) e hshows₁ hacc₁ hnew₁
  have hmails := e.mailsFor_eq (.issued _) (Backend.intact hshows) hsets.get?
    (List.mem_append_right _ (List.mem_singleton_self _)) rfl
  rw [Account.add_eq_issue hverified₁ rfl fun _ => Account.inactive_elapse _ _,
    Account.issue_elapse hbind.value.symm, hbind.id] at hsets
  rw [issueChallenge_sameBinding e hbind] at hrun
  exact ⟨_, w', m', by rw [bind_of_ok hrun]; rfl, hshows,
    .issued hverified hnew (hbind.issue_eq _ _ _ _ _) (hsets₁.trans hsets),
    hmailer.trans (congrArg (MailTransport.deliver w.now · w.mailer) hmails.symm)⟩

-- What follows for a record that is not verified depends on its active challenge.
theorem challengeRecord_unverified (e : Engine) (h : Backend.Shows w.store m) {a : Address}
    (hverified : a.verified = false) (now : Timestamp) :
    (e.challengeRecord a now : Action σ ι τ _) w =
      (match (m.active.get? a.id).bind m.challenges.get? with
      | none => do return .issued (← e.issueChallenge a)
      | some c =>
        if c.isLive now ∧ c.value = a.value then do
          e.mailLink c
          return .resent c.id
        else do
          let _ ← changeStore (VerificationStore.expire c.id .elapsed now)
          return .issued (← e.issueChallenge a) : Action σ ι τ _) w := by
  have hread := readStore_of_ok (Backend.activeFor?_eq h a.id)
  rw [challengeRecord, if_neg (by rw [hverified]; exact Bool.false_ne_true), bind_of_ok hread]

-- A stored record is challenged, if the flow's identifier is not taken where one is drawn.
theorem challengeRecord_challenges (e : Engine) (h : Backend.Shows w.store m) {acc : Account}
    (hacc : m.account? acc.record.id = some acc)
    (hnew : w.entropy.drawn <
        ((e.challengeRecord acc.record w.now : Action σ ι τ _).perform w).2.entropy.drawn →
      m.challenges.get? (w.entropy.drawId .flow).1 = none) :
    ∃ outcome w' m', (e.challengeRecord acc.record w.now : Action σ ι τ _) w = .ok outcome w' ∧
      Backend.Shows w'.store m' ∧ e.Challenges m acc w.now outcome m' ∧
      w'.mailer = MailTransport.deliver w.now (e.mailsFor m' (.ok outcome)) w.mailer := by
  have hi := Backend.intact h
  have hhistory := MemoryStore.history_of_account? hacc
  cases hverified : acc.record.verified with
  | true =>
    refine ⟨.alreadyVerified, w, m, ?_, h, .alreadyVerified hverified, rfl⟩
    rw [challengeRecord, if_pos hverified]
    rfl
  | false =>
    have hrun := challengeRecord_unverified (ι := ι) (τ := τ) e h hverified w.now
    rw [perform_congr hrun] at hnew
    rw [hrun]
    cases hp : m.active.get? acc.record.id with
    | none =>
      simp only [hp, Option.bind_none] at hnew ⊢
      rw [issueChallenge_drawn] at hnew
      refine issueChallenge_challenges e h hacc hverified ?_ (hnew (by omega))
      intro d hd
      rw [← hhistory] at hd
      exact hi.inactive_of_no_pointer hp hd
    | some f =>
      obtain ⟨c, hc, haddr, hact⟩ := hi.active_iff.mp hp
      simp only [hp, Option.bind_some, hc] at hnew ⊢
      rw [← hi.id_of_challenge hc] at hc
      have hmem := hi.mem_history.mpr ⟨hc, haddr⟩
      rw [hhistory] at hmem
      by_cases hlive : c.isLive w.now ∧ c.value = acc.record.value
      · rw [if_pos hlive, bind_of_ok (mailLink_run e c)]
        refine ⟨_, _, m, rfl, h, .resent hverified hmem hact hlive.1 hlive.2, ?_⟩
        rw [e.mailsFor_eq (.resent c.id) hi hacc hmem rfl]
      · obtain ⟨s, m₁, hexpire, hshows₁, hsets₁⟩ :=
          Backend.expire_known h hc (by rw [haddr]; exact hacc) .elapsed w.now
        rw [haddr] at hsets₁
        rw [if_neg hlive] at hnew ⊢
        rw [perform_congr (bind_of_ok (changeStore_of_ok hexpire)), issueChallenge_drawn] at hnew
        rw [bind_of_ok (changeStore_of_ok hexpire)]
        have hfresh := hnew (Nat.lt_add_of_pos_right (by decide))
        exact replaceChallenge_challenges e h hacc hverified hmem hact hfresh hshows₁ hsets₁

/-! ## All of a request -/

end Engine

/-- The account that a request for a slot is about: the one that has the slot, or a new one. -/
inductive MemoryStore.Addressed (m : MemoryStore) (slot : Slot) (value : Contact)
    (now : Timestamp) : AddressId → Account → Prop where
  | known {id : AddressId} {acc : Account} :
    m.account? id = some acc → acc.record.slot = slot → Addressed m slot value now id acc
  | fresh {id : AddressId} :
    m.slots.get? slot = none → m.account? id = none →
      Addressed m slot value now id ⟨.fresh id slot value now, []⟩

namespace Engine

/-- The ends of a request. -/
inductive Ensures (e : Engine) (m : MemoryStore) (slot : Slot) (value : Contact)
    (now : Timestamp) : Except VerificationError RequestOutcome → MemoryStore → Prop where
  | refused : Ensures e m slot value now (.error (.store .badKeySize)) m
  | alreadyVerified {id : AddressId} {acc : Account} :
    m.account? id = some acc → acc.record.slot = slot → acc.record.value = value →
      acc.record.verified = true → Ensures e m slot value now (.ok .alreadyVerified) m
  | resent {id : AddressId} {acc : Account} {c : Challenge} :
    m.account? id = some acc → acc.record.slot = slot → acc.record.value = value →
      acc.record.verified = false → c ∈ acc.history → c.isActive = true → c.isLive now = true →
      c.value = value → Ensures e m slot value now (.ok (.resent c.id)) m
  | issued {id : AddressId} {acc : Account} {c : Challenge} {token code : String}
      {m' : MemoryStore} :
    m.Addressed slot value now id acc →
      (acc.record.value = value → acc.record.verified = false) →
      m.challenges.get? c.id = none →
      c = .issue c.id { acc.record with value } token code e.policy now →
      m.Sets id (acc.issue c) m' → Ensures e m slot value now (.ok (.issued c.id)) m'

variable {σ ι τ : Type} [VerificationStore σ] [MailTransport τ] [Backend σ] {w : World σ ι τ}
  {m : MemoryStore} {slot : Slot} {value : Contact}

-- The account of the record that was put into the slot.
theorem upserts_account (hi : m.Intact) {m₁ : MemoryStore} {candidate : Address} {out : Upserted}
    (h : m.Upserts candidate out m₁) :
    ∃ acc : Account, acc.record = out.address ∧ m₁.account? acc.record.id = some acc := by
  cases h with
  | created _ hsets => exact ⟨⟨candidate, []⟩, rfl, hsets.get?⟩
  | @unchanged id acc hacc _ _ =>
    refine ⟨acc, rfl, ?_⟩
    rw [hi.id_of_account hacc]
    exact hacc
  | @rebound id acc expired _ hacc _ _ hsets =>
    refine ⟨acc.rebind candidate.value candidate.updatedAt, rfl, ?_⟩
    show m₁.account? acc.record.id = _
    rw [hi.id_of_account hacc]
    exact hsets.get?

/-! What became of the record and what became of its challenge are one of the ends together. -/

section Upserted

variable {e : Engine} {now : Timestamp} {id : AddressId} {acc acc₁ : Account} {m₁ m' : MemoryStore}
  {outcome : RequestOutcome}

-- A new record has no history, so all that is left is to issue.
theorem ensures_of_created (hid : m.addresses.get? id = none) (hslot : m.slots.get? slot = none)
    (hsets : m.Sets id ⟨.fresh id slot value now, []⟩ m₁)
    (hunknown : ∀ {f}, m₁.challenges.get? f = none → m.challenges.get? f = none)
    (hchallenges : e.Challenges m₁ ⟨.fresh id slot value now, []⟩ now outcome m') :
    e.Ensures m slot value now (.ok outcome) m' := by
  cases hchallenges with
  | alreadyVerified hverified => cases hverified
  | resent _ hc => cases hc
  | issued hverified hnew hc hsets' =>
    exact .issued (.fresh hslot (MemoryStore.account?_eq_none_iff.mpr hid)) (fun _ => rfl)
      (hunknown hnew) hc (hsets.trans hsets')

theorem ensures_of_unchanged (hid : acc.record.id = id) (hacc : m.account? id = some acc)
    (hslot : acc.record.slot = slot) (hvalue : acc.record.value = value)
    (hchallenges : e.Challenges m acc now outcome m') :
    e.Ensures m slot value now (.ok outcome) m' := by
  cases hchallenges with
  | alreadyVerified hverified => exact .alreadyVerified hacc hslot hvalue hverified
  | resent hverified hc hact hlive hcv =>
    exact .resent hacc hslot hvalue hverified hc hact hlive (hcv.trans hvalue)
  | issued hverified hnew hc hsets =>
    rw [hid] at hsets
    rw [show acc.record = { acc.record with value } by rw [← hvalue]] at hc
    exact .issued (.known hacc hslot) (fun _ => hverified) hnew hc hsets

-- A rebound record is not verified and its history has ended, so a challenge is issued.
theorem ensures_of_rebound (hid : acc.record.id = id) (hacc : m.account? id = some acc)
    (hslot : acc.record.slot = slot) (hvalue : acc.record.value ≠ value)
    (hsets : m.Sets id (acc.rebind value now) m₁)
    (hunknown : ∀ {f}, m₁.challenges.get? f = none → m.challenges.get? f = none)
    (hchallenges : e.Challenges m₁ (acc.rebind value now) now outcome m') :
    e.Ensures m slot value now (.ok outcome) m' := by
  cases hchallenges with
  | alreadyVerified hverified => cases hverified
  | resent _ hc hact =>
    rw [Challenge.inactive_of_mem_expired hc] at hact
    cases hact
  | @issued c token code _ hverified hnew hc hsets' =>
    have hcv : c.value = value := by
      rw [hc]
      rfl
    have hissue : (acc.rebind value now).issue c = acc.issue c := by
      rw [← hcv]
      refine Account.issue_rebind ?_ now
      rw [hcv]
      exact hvalue
    have hrebind : (acc.rebind value now).record.id = id := hid
    rw [hissue, hrebind] at hsets'
    exact .issued (.known hacc hslot) (fun he => absurd he hvalue) (hunknown hnew) hc
      (hsets.trans hsets')

theorem ensures_of_upserts (hi : m.Intact) (hid : m.addresses.get? id = none) {out : Upserted}
    (hupserts : m.Upserts (.fresh id slot value now) out m₁) (hrecord : acc₁.record = out.address)
    (hacc₁ : m₁.account? acc₁.record.id = some acc₁)
    (hunknown : ∀ {f}, m₁.challenges.get? f = none → m.challenges.get? f = none)
    (hchallenges : e.Challenges m₁ acc₁ now outcome m') :
    e.Ensures m slot value now (.ok outcome) m' := by
  rw [hrecord] at hacc₁
  cases hupserts with
  | created hslot hsets =>
    have hnew : acc₁ = ⟨.fresh id slot value now, []⟩ :=
      Option.some.inj (hacc₁.symm.trans hsets.get?)
    subst hnew
    exact ensures_of_created hid hslot hsets hunknown hchallenges
  | @unchanged id' acc hacc hslot hvalue =>
    have hid' := hi.id_of_account hacc
    have hsame : acc₁ = acc := by
      rw [Upserted.address, hid', hacc] at hacc₁
      exact (Option.some.inj hacc₁).symm
    subst hsame
    exact ensures_of_unchanged hid' hacc hslot hvalue hchallenges
  | @rebound id' acc expired m₁ hacc hslot hvalue hsets =>
    have hid' := hi.id_of_account hacc
    have hsame : acc₁ = acc.rebind value now := by
      rw [Upserted.address, Address.id_rebind, hid', hsets.get?] at hacc₁
      exact (Option.some.inj hacc₁).symm
    subst hsame
    exact ensures_of_rebound hid' hacc hslot hvalue hsets hunknown hchallenges

end Upserted

/-- A request ends in one of these ways, if the identifiers that it draws are not taken. -/
theorem ensureChallenge_ensures (e : Engine) (h : Backend.Shows w.store m)
    (haddress : m.addresses.get? (w.entropy.drawId .address).1 = none)
    (hflow : w.entropy.drawn + Id.size <
        ((e.ensureChallenge slot value : Action σ ι τ _).perform w).2.entropy.drawn →
      m.challenges.get? ((w.entropy.drawId .address).2.drawId .flow).1 = none) :
    ∃ m', Backend.Shows ((e.ensureChallenge slot value : Action σ ι τ _).perform w).2.store m' ∧
      e.Ensures m slot value w.now
        ((e.ensureChallenge slot value : Action σ ι τ _).perform w).1 m' ∧
      ((e.ensureChallenge slot value : Action σ ι τ _).perform w).2.mailer =
        MailTransport.deliver w.now
          (e.mailsFor m' ((e.ensureChallenge slot value : Action σ ι τ _).perform w).1)
          w.mailer := by
  have hi := Backend.intact h
  rw [Action.perform_congr (ensureChallenge_eq e slot value)] at hflow ⊢
  have hnew : m.slots.get? (Address.fresh (w.entropy.drawId .address).1 slot value w.now).slot =
      none → m.addresses.get? (Address.fresh (w.entropy.drawId .address).1 slot value w.now).id =
        none := fun _ => haddress
  rcases Backend.upsert_upserts h hnew with hrefused | ⟨out, s, m₁, hup, hshows₁, hupserts⟩
  · have hrun := Action.changeStore_of_error
      (w := { w with entropy := (w.entropy.drawId .address).2 }) hrefused
    rw [Action.perform_of_error (Action.bind_of_error hrun)]
    exact ⟨m, h, .refused, rfl⟩
  · have hrun := Action.changeStore_of_ok
      (w := { w with entropy := (w.entropy.drawId .address).2 }) hup
    rw [Action.perform_congr (Action.bind_of_ok hrun)] at hflow ⊢
    have hi₁ := Backend.intact hshows₁
    have hunknown := MemoryStore.unknown_iff_of_flows hi hi₁
      (MemoryStore.flows_upserts hi hi₁ hupserts fun _ => haddress)
    obtain ⟨acc₁, hrecord, hacc₁⟩ := upserts_account hi hupserts
    rw [← hrecord] at hflow ⊢
    obtain ⟨outcome, w', m', hrun', hshows', hchallenges, hmailer⟩ := challengeRecord_challenges
      (w := { w with store := s, entropy := (w.entropy.drawId .address).2 }) e hshows₁ hacc₁
      (fun hdrawn => (hunknown _).mpr (hflow hdrawn))
    rw [Action.perform_of_ok hrun']
    exact ⟨m', hshows', ensures_of_upserts hi haddress hupserts hrecord hacc₁
      (fun {f} hf => (hunknown f).mp hf) hchallenges, hmailer⟩

end Engine

end Vouch
