import Vouch.Proofs.Engine.Action

/-!
# Issuing a challenge

An account is challenged for a value in one way only, `Account.issue`: the record takes the value
and waits, whatever was active ends, and the challenge is the newest.  A slot may be rebound or an
old challenge may run out on the way there; neither can be told from the account afterwards.
-/

namespace Vouch

namespace Account

/-- The account after a challenge was issued for a value.  The value is not trusted from then on,
and whatever was active has ended. -/
def issue (acc : Account) (c : Challenge) : Account where
  record :=
    { acc.record with
      value := c.value
      status := .pending
      verified := false
      updatedAt := c.issuedAt }
  history :=
    acc.history.map (fun d =>
      d.expire (if acc.record.value = c.value then .elapsed else .addressChanged)) ++ [c]

/-- The account after its active challenge for a value has run out of time. -/
def elapse (acc : Account) (value : Contact) (now : Timestamp) : Account :=
  ⟨acc.record.markAttemptExpired value now, acc.history.map fun d => d.expire .elapsed⟩

variable {acc : Account} {c : Challenge}

theorem map_expire_of_inactive {history : List Challenge}
    (h : ∀ d ∈ history, d.isActive = false) (reason : ExpiredReason) :
    (history.map fun d => d.expire reason) = history := by
  rw [List.map_congr_left fun d hd => Attempt.expire_of_isActive_eq_false (h d hd) reason,
    List.map_id']

theorem markPending_of_unverified {a : Address} (h : a.verified = false) (now : Timestamp) :
    a.markPending now = { a with status := .pending, updatedAt := now } := by
  rw [Address.markPending, h, if_neg Bool.false_ne_true]

-- A challenge for the value of an account that has no active one.
theorem add_eq_issue (hverified : acc.record.verified = false) (hvalue : acc.record.value = c.value)
    (hended : ∀ d ∈ acc.history, d.isActive = false) : acc.add c = acc.issue c := by
  simp only [add, issue, map_expire_of_inactive hended, markPending_of_unverified hverified,
    ← hvalue, ← hverified]

-- A rebind to the value of the challenge is a part of issuing it.
theorem issue_rebind (hvalue : acc.record.value ≠ c.value) (now : Timestamp) :
    (acc.rebind c.value now).issue c = acc.issue c := by
  have hended : ∀ d ∈ acc.history.map (fun d => d.expire .addressChanged), d.isActive = false :=
    fun _ => Challenge.inactive_of_mem_expired
  simp only [rebind, issue, map_expire_of_inactive hended, if_neg hvalue]
  rfl

theorem sameBinding_elapse (acc : Account) (value : Contact) (now : Timestamp) :
    acc.record.SameBinding (acc.elapse value now).record :=
  acc.record.sameBinding_markAttemptExpired value now

theorem inactive_elapse (value : Contact) (now : Timestamp) {d : Challenge}
    (hd : d ∈ (acc.elapse value now).history) : d.isActive = false :=
  Challenge.inactive_of_mem_expired hd

-- Ending what has run out of time is a part of issuing a challenge.
theorem issue_elapse {value : Contact} (hvalue : acc.record.value = c.value) (now : Timestamp) :
    (acc.elapse value now).issue c = acc.issue c := by
  have hended : ∀ d ∈ acc.history.map (fun d => d.expire .elapsed), d.isActive = false :=
    fun _ => Challenge.inactive_of_mem_expired
  -- whatever the record noted of that is written over
  have hrecord : ({ acc.record.markAttemptExpired value now with
      value := c.value
      status := .pending
      verified := false
      updatedAt := c.issuedAt } : Address) =
        { acc.record with
          value := c.value
          status := .pending
          verified := false
          updatedAt := c.issuedAt } := by
    unfold Address.markAttemptExpired
    split <;> rfl
  simp only [issue, elapse, map_expire_of_inactive hended, hrecord, if_pos hvalue]

end Account

namespace MemoryStore.Intact

variable {m : MemoryStore} {id : AddressId} {acc : Account} {c : Challenge}

-- At most one challenge of an account is active, so ending that one ends all that are.
theorem amend_expire_elapsed (hi : m.Intact) (hacc : m.account? id = some acc)
    (hc : c ∈ acc.history) (hact : c.isActive = true) (now : Timestamp) :
    acc.amend (Attempt.expire ⟨c, acc.record⟩ .elapsed now) = acc.elapse c.value now := by
  have hstored : ∀ {d}, d ∈ acc.history → m.challenges.get? d.id = some d ∧ d.address = id := by
    intro d hd
    rw [← history_of_account? hacc] at hd
    exact hi.mem_history.mp hd
  simp only [Attempt.expire_elapsed ⟨c, acc.record⟩ now hact, Account.amend, Account.elapse,
    c.id_expire, Account.mk.injEq, true_and]
  apply List.map_congr_left
  intro d hd
  obtain ⟨hget, haddr⟩ := hstored hd
  split
  · rename_i hid
    rw [hid, (hstored hc).1] at hget
    rw [Option.some.inj hget]
  · rename_i hid
    cases hda : d.isActive with
    | false => rw [Attempt.expire_of_isActive_eq_false hda]
    | true =>
      rw [hi.eq_of_active hget (hstored hc).1 (haddr.trans (hstored hc).2.symm) hda hact] at hid
      exact absurd rfl hid

end MemoryStore.Intact

namespace Engine

open Vouch.Action

variable {σ ι τ : Type} [VerificationStore σ] [MailTransport τ] {w : World σ ι τ}

omit [VerificationStore σ] [MailTransport τ] in
/-- The challenge that is issued next, and the random bytes that remain. -/
def drawChallenge (e : Engine) (a : Address) (w : World σ ι τ) : Challenge × Entropy :=
  let flow := w.entropy.drawId .flow
  let secret := Secret.issue a.channel flow.1 flow.2
  (.issue flow.1 a secret.1.token secret.1.code e.policy w.now, secret.2)

theorem issueChallenge_sameBinding (e : Engine) {a b : Address} (h : a.SameBinding b) :
    (e.issueChallenge b : Action σ ι τ FlowId) = e.issueChallenge a := by
  simp only [issueChallenge, h.issue_eq, h.channel]

-- First everything is drawn, then the challenge is stored and mailed.
theorem issueChallenge_eq (e : Engine) (a : Address) :
    (e.issueChallenge a : Action σ ι τ FlowId) w =
      (do
        let _ ← changeStore (VerificationStore.create (e.drawChallenge a w).1)
        e.mailLink (e.drawChallenge a w).1
        return (e.drawChallenge a w).1.id : Action σ ι τ FlowId)
        { w with entropy := (e.drawChallenge a w).2 } := rfl

theorem issueChallenge_of_ok (e : Engine) (a : Address) {superseded : Option Challenge} {s : σ}
    (h : VerificationStore.create (e.drawChallenge a w).1 w.store = .ok (superseded, s)) :
    (e.issueChallenge a : Action σ ι τ FlowId) w =
      .ok (e.drawChallenge a w).1.id
        { w with
          store := s
          mailer := MailTransport.deliver w.now (e.letters (e.drawChallenge a w).1) w.mailer
          entropy := (e.drawChallenge a w).2 } := by
  have hcreate := changeStore_of_ok (w := { w with entropy := (e.drawChallenge a w).2 }) h
  rw [issueChallenge_eq, bind_of_ok hcreate, bind_of_ok (mailLink_run e _)]
  rfl

theorem issueChallenge_of_error (e : Engine) (a : Address) {error : StoreError}
    (h : VerificationStore.create (e.drawChallenge a w).1 w.store = .error error) :
    (e.issueChallenge a : Action σ ι τ FlowId) w =
      .error (.store error) { w with entropy := (e.drawChallenge a w).2 } := by
  have hcreate := changeStore_of_error (w := { w with entropy := (e.drawChallenge a w).2 }) h
  rw [issueChallenge_eq, bind_of_error hcreate]

-- Issuing draws the same number of bytes, however it ends.
theorem issueChallenge_drawn (e : Engine) (a : Address) :
    ((do return .issued (← e.issueChallenge a) : Action σ ι τ RequestOutcome).perform
      w).2.entropy.drawn = w.entropy.drawn + 64 := by
  cases h : VerificationStore.create (e.drawChallenge a w).1 w.store with
  | ok result =>
    rw [perform, bind_of_ok (issueChallenge_of_ok e a h)]
    rfl
  | error error =>
    rw [perform, bind_of_error (issueChallenge_of_error e a h)]
    rfl

variable [Backend σ] {m : MemoryStore}

-- For a stored address a challenge is issued, if the flow's identifier is not taken.
theorem issueChallenge_run (e : Engine) (h : Backend.Shows w.store m) {acc : Account}
    (hacc : m.account? acc.record.id = some acc)
    (hnew : m.challenges.get? (w.entropy.drawId .flow).1 = none) :
    ∃ w' m', (e.issueChallenge acc.record : Action σ ι τ FlowId) w =
        .ok (e.drawChallenge acc.record w).1.id w' ∧ Backend.Shows w'.store m' ∧
      m.Sets acc.record.id (acc.add (e.drawChallenge acc.record w).1) m' ∧
      w'.mailer =
        MailTransport.deliver w.now (e.letters (e.drawChallenge acc.record w).1) w.mailer := by
  have hsecret := Secret.textFits_issue acc.record.channel (w.entropy.drawId .flow).1
    (w.entropy.drawId .flow).2
  have hstorable : Backend.Storable σ (e.drawChallenge acc.record w).1 :=
    Backend.storable_issue h (MemoryStore.get?_of_account? hacc) hsecret.1 hsecret.2
  obtain ⟨superseded, s, m', hcreate, hshows, hsets⟩ :=
    Backend.create_new h hstorable rfl hnew hacc
  exact ⟨_, m', issueChallenge_of_ok e acc.record hcreate, hshows, hsets, rfl⟩

end Engine

end Vouch
