import Vouch.Memory.Store
import Vouch.Proofs.Memory.Table

/-!
# Accounts

The account of an address is its record together with every challenge issued for it, oldest
first.  The tables of a store in memory hold more than the accounts: the slots and the pointers to
the active challenges repeat what the records say.  `Intact` states that they repeat it faithfully,
and that of the challenges of an address only the newest can be active.
-/

namespace Vouch

/-- An address and every challenge issued for it, oldest first. -/
structure Account where
  record : Address
  history : List Challenge

namespace Account

/-- The account after its slot was pointed at another value. -/
def rebind (acc : Account) (value : Contact) (now : Timestamp) : Account :=
  ⟨acc.record.rebind value now, acc.history.map fun c => c.expire .addressChanged⟩

/-- The account with another challenge, which supersedes the one that was active. -/
def add (acc : Account) (c : Challenge) : Account :=
  ⟨acc.record.markPending c.issuedAt, (acc.history.map fun d => d.expire .superseded) ++ [c]⟩

/-- The account with its record and one of its challenges replaced. -/
def amend (acc : Account) (p : Attempt) : Account :=
  ⟨p.address, acc.history.map fun d => if d.id = p.challenge.id then p.challenge else d⟩

end Account

/-- Two states of one challenge: only its state, the reason of its end, the wrong codes left and
the time of completion may differ. -/
def Challenge.SameIssue (c d : Challenge) : Prop :=
  { d with
    state := c.state
    expiredReason := c.expiredReason
    attemptsRemaining := c.attemptsRemaining
    completedAt := c.completedAt } = c

/-- Two states of one address with one value: only the trust in it may differ. -/
def Address.SameBinding (a b : Address) : Prop :=
  { b with
    status := a.status
    verified := a.verified
    verifiedAt := a.verifiedAt
    updatedAt := a.updatedAt } = a

namespace Challenge.SameIssue

variable {c d : Challenge} (h : c.SameIssue d)

include h

theorem id : d.id = c.id := congrArg (·.id) h

theorem address : d.address = c.address := congrArg (·.address) h

theorem identity : d.identity = c.identity := congrArg (·.identity) h

theorem value : d.value = c.value := congrArg (·.value) h

theorem token : d.token = c.token := congrArg (·.token) h

theorem code : d.code = c.code := congrArg (·.code) h

theorem trans {e : Challenge} (h' : d.SameIssue e) : c.SameIssue e := by
  unfold SameIssue at h h' ⊢
  rw [← h, ← h']

end Challenge.SameIssue

namespace Address.SameBinding

variable {a b : Address} (h : a.SameBinding b)

include h

theorem id : b.id = a.id := congrArg (·.id) h

theorem slot : b.slot = a.slot := congrArg (·.slot) h

theorem identity : b.identity = a.identity := congrArg (·.identity) h

theorem channel : b.channel = a.channel := congrArg (·.channel) h

theorem value : b.value = a.value := congrArg (·.value) h

theorem issue_eq (f : FlowId) (token code : String) (policy : Policy) (now : Timestamp) :
    Challenge.issue f b token code policy now = Challenge.issue f a token code policy now := by
  simp only [Challenge.issue, h.id, h.identity, h.channel, h.value]

end Address.SameBinding

theorem Challenge.isActive_iff {c : Challenge} : c.isActive = true ↔ c.state = .active :=
  decide_eq_true_iff

-- Whatever was active has ended when all of a history is expired.
theorem Challenge.inactive_of_mem_expired {c : Challenge} {history : List Challenge}
    {reason : ExpiredReason} (h : c ∈ history.map fun d => d.expire reason) :
    c.isActive = false := by
  obtain ⟨d, -, rfl⟩ := List.mem_map.mp h
  exact d.isActive_expire reason

theorem Challenge.sameIssue_expire (c : Challenge) (reason : ExpiredReason) :
    c.SameIssue (c.expire reason) := by
  unfold Challenge.expire
  split <;> rfl

theorem Address.sameBinding_markAttemptExpired (a : Address) (value : Contact) (now : Timestamp) :
    a.SameBinding (a.markAttemptExpired value now) := by
  unfold Address.markAttemptExpired
  split <;> rfl

theorem Address.verified_markAttemptExpired (a : Address) (value : Contact) (now : Timestamp) :
    (a.markAttemptExpired value now).verified = a.verified := by
  unfold Address.markAttemptExpired
  split <;> rfl

/-- What a change of a challenge and its address leaves as it is: who they are and what they are
for.  An ended challenge stays ended. -/
structure Attempt.Amends (p q : Attempt) : Prop where
  challenge : p.challenge.SameIssue q.challenge
  address : p.address.SameBinding q.address
  ended : p.challenge.isActive = false → q = p

namespace Attempt

variable (p : Attempt) (now : Timestamp)

theorem Amends.refl : p.Amends p := ⟨rfl, rfl, fun _ => rfl⟩

-- Of an active challenge nothing more is asked than that it stays who it is.
theorem Amends.of_isActive {p q : Attempt} (h : p.challenge.isActive = true)
    (hchallenge : p.challenge.SameIssue q.challenge) (haddress : p.address.SameBinding q.address) :
    p.Amends q where
  challenge := hchallenge
  address := haddress
  ended hended := by
    rw [h] at hended
    cases hended

theorem expire_of_isActive_eq_false {c : Challenge} (h : c.isActive = false)
    (reason : ExpiredReason) : c.expire reason = c := by
  rw [Challenge.expire, if_neg]
  rw [h]
  exact Bool.false_ne_true

theorem expire_of_isActive {c : Challenge} (h : c.isActive = true) (reason : ExpiredReason) :
    c.expire reason = { c with state := .expired, expiredReason := some reason } := by
  rw [Challenge.expire, if_pos h]

-- An active challenge that runs out of time ends, and its address notes that.
theorem expire_elapsed (h : p.challenge.isActive = true) :
    p.expire .elapsed now =
      ⟨p.challenge.expire .elapsed, p.address.markAttemptExpired p.challenge.value now⟩ := by
  have hboth : p.challenge.isActive = true ∧ ExpiredReason.elapsed ≠ .superseded :=
    ⟨h, by decide⟩
  simp only [expire, if_pos hboth, Challenge.value_expire]

theorem challenge_expire (reason : ExpiredReason) :
    (p.expire reason now).challenge = p.challenge.expire reason := by
  simp only [expire]
  split <;> rfl

theorem complete_amends : p.Amends (p.complete now).2 := by
  cases hs : p.challenge.state with
  | completed =>
    have hp : (p.complete now).2 = p := by
      simp only [complete, hs]
      split <;> rfl
    rw [hp]
    exact .refl p
  | expired =>
    have hp : (p.complete now).2 = p := by simp only [complete, hs]
    rw [hp]
    exact .refl p
  | active =>
    have hactive : p.challenge.isActive = true := Challenge.isActive_iff.mpr hs
    simp only [complete, hs]
    split
    · -- out of time
      exact .of_isActive hactive (p.challenge.sameIssue_expire _)
        (p.address.sameBinding_markAttemptExpired _ _)
    · split
      · -- the value of the address is another one by now
        exact .of_isActive hactive (p.challenge.sameIssue_expire _) rfl
      · exact .of_isActive hactive rfl rfl

-- A wrong code for an active challenge is counted, if there is a bound, or is the last one.
theorem fail_cases (h : p.challenge.isActive = true) :
    p.fail now = (.remaining none, p) ∨
      (∃ left, p.fail now =
        (.remaining (some left), ⟨p.challenge.withAttempts left, p.address⟩)) ∨
      p.fail now =
        (.exhausted, ⟨(p.challenge.withAttempts 0).expire .attemptsExhausted,
          p.address.markAttemptExpired p.challenge.value now⟩) := by
  cases hn : p.challenge.attemptsRemaining with
  | none => exact .inl (by simp only [fail, if_pos h, hn])
  | some n =>
    simp only [fail, if_pos h, hn]
    generalize (if n = 0 then 0 else n - 1) = left
    by_cases hleft : left = 0
    · subst hleft
      rw [if_pos rfl, Challenge.value_expire]
      exact .inr (.inr rfl)
    · rw [if_neg hleft]
      exact .inr (.inl ⟨left, rfl⟩)

theorem fail_amends : p.Amends (p.fail now).2 := by
  by_cases hactive : p.challenge.isActive = true
  · rcases p.fail_cases now hactive with hfail | ⟨left, hfail⟩ | hfail
    · rw [hfail]
      exact .refl p
    · rw [hfail]
      exact .of_isActive hactive rfl rfl
    · rw [hfail]
      have hcounted : p.challenge.SameIssue (p.challenge.withAttempts 0) := rfl
      exact .of_isActive hactive (hcounted.trans (Challenge.sameIssue_expire _ _))
        (p.address.sameBinding_markAttemptExpired _ _)
  · simp only [fail, if_neg hactive]
    exact .refl p

theorem expire_amends (reason : ExpiredReason) : p.Amends (p.expire reason now) := by
  by_cases hactive : p.challenge.isActive = true
  · simp only [expire]
    -- a challenge that was superseded says nothing about its address
    split
    · exact .of_isActive hactive (p.challenge.sameIssue_expire _)
        (p.address.sameBinding_markAttemptExpired _ _)
    · exact .of_isActive hactive (p.challenge.sameIssue_expire _) rfl
  · have hfalse : p.challenge.isActive = false := by simpa using hactive
    have hp : p.expire reason now = p := by
      simp only [expire, expire_of_isActive_eq_false hfalse]
      rw [if_neg fun h => hactive h.1]
    rw [hp]
    exact .refl p

end Attempt

end Vouch
