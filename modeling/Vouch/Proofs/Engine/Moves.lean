import Vouch.Proofs.Engine.Outcome
import Vouch.Proofs.Engine.Rebind

/-!
# What an operation makes of a challenge

A challenge is issued by a request and never forgotten.  From then on an operation leaves it as it
is, ends it, completes it, or counts a wrong code against it; which of these it can be is seen from
what was asked and answered.
-/

namespace Vouch

/-- Whether an operation was answered for as a wrong code for a flow. -/
def Operation.isWrongCode (flow : FlowId) : Operation → Answer → Bool
  | .submit f _, .submitted (.error (.invalidCode _)) => f = flow
  | _, _ => false

/-- What an operation makes of a challenge. -/
inductive Challenge.Moves (c : Challenge) (now : Timestamp) :
    Operation → Answer → Challenge → Prop where
  /-- It is left as it is.  A code was wrong for it only if it had ended or there is no bound. -/
  | kept {op : Operation} {answer : Answer} :
    (op.isWrongCode c.id answer = true → c.isActive = false ∨ c.attemptsRemaining = none) →
      Moves c now op answer c
  | ended {op : Operation} {answer : Answer} {reason : ExpiredReason} :
    op.isWrongCode c.id answer = false → reason ≠ .attemptsExhausted →
      Moves c now op answer (c.expire reason)
  | completed {op : Operation} {answer : Answer} :
    op.isWrongCode c.id answer = false → Moves c now op answer (c.markCompleted now)
  | counted {code : String} {left : UInt32} :
    c.isLive now = true → c.attemptsRemaining = some left → 1 < left →
      Moves c now (.submit c.id code) (.submitted (.error (.invalidCode (some (left - 1)))))
        (c.withAttempts (left - 1))
  | spent {code : String} :
    c.isLive now = true → c.attemptsRemaining ≠ none →
      Moves c now (.submit c.id code) (.submitted (.error .attemptsExhausted))
        ((c.withAttempts 0).expire .attemptsExhausted)

/-! ## One challenge and one operation -/

namespace Attempt

-- A wrong code for a challenge with a bound.
theorem fail_of_bound {p : Attempt} (hact : p.challenge.isActive = true) {left : UInt32}
    (hleft : p.challenge.attemptsRemaining = some left) (now : Timestamp) :
    p.fail now = if 1 < left then
        (.remaining (some (left - 1)), ⟨p.challenge.withAttempts (left - 1), p.address⟩)
      else
        (.exhausted, ⟨(p.challenge.withAttempts 0).expire .attemptsExhausted,
          p.address.markAttemptExpired p.challenge.value now⟩) := by
  -- subtraction stops at zero, and the bound is used up there
  have hsub : (if left = 0 then 0 else left - 1) = if 1 < left then left - 1 else 0 := by grind
  simp only [fail, if_pos hact, hleft, hsub]
  by_cases hmore : 1 < left
  · have hpos : left - 1 ≠ 0 := by grind
    rw [if_pos hmore, if_neg hpos, if_pos hmore]
  · rw [if_neg hmore, if_pos rfl, if_neg hmore, Challenge.value_expire]
    rfl

theorem fail_of_unbounded {p : Attempt} (hact : p.challenge.isActive = true)
    (hleft : p.challenge.attemptsRemaining = none) (now : Timestamp) :
    p.fail now = (.remaining none, p) := by
  simp only [fail, if_pos hact, hleft]

end Attempt

namespace MemoryStore

variable {m m' : MemoryStore} {flow f : FlowId} {c d : Challenge} {acc : Account}

-- A challenge is known from the history of its address.
theorem Intact.get?_iff (hi : m.Intact) :
    m.challenges.get? f = some c ↔ c ∈ m.history c.address ∧ c.id = f := by
  rw [hi.mem_history]
  constructor
  · intro hc
    have hid := hi.id_of_challenge hc
    exact ⟨⟨by rw [hid]; exact hc, rfl⟩, hid⟩
  · rintro ⟨⟨hc, -⟩, rfl⟩
    exact hc

-- A change of one challenge is a change of no other.
theorem get?_of_amend (hi : m.Intact) (hi' : m'.Intact) (hf : Engine.Finds m flow c acc)
    {p : Attempt} (hp : c.SameIssue p.challenge) (hsets : m.Sets c.address (acc.amend p) m')
    (hd : m.challenges.get? f = some d) :
    m'.challenges.get? f = some (if f = flow then p.challenge else d) := by
  obtain ⟨hmem, hid⟩ := hi.get?_iff.mp hd
  have hcid := hi.id_of_challenge hf.challenge
  have hhistory := history_of_sets hi hi' hsets d.address
  by_cases hflow : f = flow
  · subst hflow
    rw [hf.challenge] at hd
    cases hd
    rw [if_pos rfl, hi'.get?_iff, hp.address, hhistory, if_pos rfl]
    refine ⟨List.mem_map.mpr ⟨c, hf.mem hi, if_pos hp.id.symm⟩, hp.id.trans hcid⟩
  · rw [if_neg hflow, hi'.get?_iff, hhistory]
    refine ⟨?_, hid⟩
    split
    · rename_i haddress
      rw [haddress, history_of_account? hf.account] at hmem
      refine List.mem_map.mpr ⟨d, hmem, if_neg fun hsame => hflow ?_⟩
      rw [← hid, hsame, hp.id, hcid]
    · exact hmem

-- A change of one challenge is no new challenge.
theorem unknown_of_amend (hi : m.Intact) (hi' : m'.Intact) (hf : Engine.Finds m flow c acc)
    {p : Attempt} (hsets : m.Sets c.address (acc.amend p) m') :
    m'.challenges.get? f = none ↔ m.challenges.get? f = none := by
  refine unknown_iff_of_flows hi hi' (flows_of_sets hi hi' hsets ?_) f
  rw [flows_amend, flows, history_of_account? hf.account]

-- What is issued for an account ends what was active in it.
theorem get?_of_issue (hi : m.Intact) (hi' : m'.Intact) {id : AddressId}
    (hacc : m.history id = acc.history) (hsets : m.Sets id (acc.issue c) m')
    (hd : m.challenges.get? f = some d) :
    m'.challenges.get? f = some d ∨
      ∃ reason, reason ≠ .attemptsExhausted ∧ m'.challenges.get? f = some (d.expire reason) := by
  obtain ⟨hmem, hid⟩ := hi.get?_iff.mp hd
  have hhistory := history_of_sets hi hi' hsets d.address
  by_cases haddress : d.address = id
  · rw [if_pos haddress] at hhistory
    rw [haddress, hacc] at hmem
    refine .inr ⟨if acc.record.value = c.value then .elapsed else .addressChanged, ?_, ?_⟩
    · split <;> decide
    · rw [hi'.get?_iff, Challenge.address_expire, Challenge.id_expire, hhistory]
      exact ⟨List.mem_append_left _ (List.mem_map.mpr ⟨d, hmem, rfl⟩), hid⟩
  · rw [if_neg haddress] at hhistory
    refine .inl (hi'.get?_iff.mpr ⟨?_, hid⟩)
    rw [hhistory]
    exact hmem

-- It is the one new challenge.
theorem eq_of_issue (hi : m.Intact) (hi' : m'.Intact) {id : AddressId}
    (hacc : m.history id = acc.history) (hsets : m.Sets id (acc.issue c) m')
    (hnew : m.challenges.get? f = none) (hd : m'.challenges.get? f = some d) : d = c := by
  obtain ⟨hmem, hid⟩ := hi'.get?_iff.mp hd
  have hold : ∀ {d₀}, d₀ ∈ m.history d.address → d₀.id ≠ f := by
    rintro d₀ hd₀ rfl
    rw [(hi.mem_history.mp hd₀).1] at hnew
    cases hnew
  rw [history_of_sets hi hi' hsets] at hmem
  split at hmem
  · rename_i haddress
    rw [haddress, hacc] at hold
    rcases List.mem_append.mp hmem with hmem | hmem
    · obtain ⟨d₀, hd₀, rfl⟩ := List.mem_map.mp hmem
      rw [Challenge.id_expire] at hid
      exact absurd hid (hold hd₀)
    · exact List.mem_singleton.mp hmem
  · exact absurd hid (hold hmem)

end MemoryStore

-- A sweep ends a challenge or leaves it as it is.
theorem Engine.Sweeps.get? {m m' : MemoryStore} {now : Timestamp} (hi : m.Intact)
    (h : Engine.Sweeps now m m') (f : FlowId) :
    m'.challenges.get? f = m.challenges.get? f ∨ ∃ c, m.challenges.get? f = some c ∧
      m'.challenges.get? f = some (c.expire .elapsed) := by
  induction h with
  | done => exact .inl rfl
  | @ends m m₁ m' flow c acc hf hsets hi₁ _ ih =>
    have hp := (Attempt.expire_amends ⟨c, acc.record⟩ now .elapsed).challenge
    cases hd : m.challenges.get? f with
    | none =>
      have hnone := (MemoryStore.unknown_of_amend hi hi₁ hf hsets).mpr hd
      rw [hnone] at ih
      rcases ih hi₁ with hsame | ⟨_, hd₁, -⟩
      · exact .inl hsame
      · cases hd₁
    | some d =>
      have hget := MemoryStore.get?_of_amend hi hi₁ hf hp hsets hd
      rw [Attempt.challenge_expire] at hget
      rw [hget] at ih
      by_cases hflow : f = flow
      · subst hflow
        rw [hf.challenge] at hd
        cases hd
        simp only [if_true, Option.some.injEq, exists_eq_left'] at ih
        -- what has been ended once is not ended again
        rw [Attempt.expire_of_isActive_eq_false (c.isActive_expire .elapsed), or_self] at ih
        exact .inr ⟨c, rfl, ih hi₁⟩
      · rw [if_neg hflow] at ih
        exact ih hi₁

/-! ## Every operation moves every challenge -/

/-- What an operation makes of the challenges of a store. -/
structure MemoryStore.Moves (e : Engine) (m : MemoryStore) (now : Timestamp) (op : Operation)
    (answer : Answer) (m' : MemoryStore) : Prop where
  known : ∀ f c, m.challenges.get? f = some c →
    ∃ d, m'.challenges.get? f = some d ∧ c.Moves now op answer d
  new : ∀ f d, m.challenges.get? f = none → m'.challenges.get? f = some d →
    ∃ a token code, d = .issue f a token code e.policy now
  /-- There is no wrong code for a flow that is not known. -/
  unknown : ∀ f, m.challenges.get? f = none → op.isWrongCode f answer = false

namespace MemoryStore.Moves

variable {e : Engine} {m m' : MemoryStore} {now : Timestamp} {op : Operation} {answer : Answer}
  {flow : FlowId} {c : Challenge} {acc : Account}

-- Nothing is changed and nothing is said of a wrong code.
theorem refl (hop : ∀ f, op.isWrongCode f answer = false) : m.Moves e now op answer m where
  known _ c hc := ⟨c, hc, .kept fun hwrong => by
    rw [hop] at hwrong
    cases hwrong⟩
  new f d hnone hsome := by
    rw [hnone] at hsome
    cases hsome
  unknown f _ := hop f

theorem amend (hi : m.Intact) (hi' : m'.Intact) (hf : Engine.Finds m flow c acc) {p : Attempt}
    (hp : c.SameIssue p.challenge) (hsets : m.Sets c.address (acc.amend p) m')
    (hother : ∀ f ≠ flow, op.isWrongCode f answer = false)
    (hmoves : c.Moves now op answer p.challenge) : m.Moves e now op answer m' where
  known f d hd := by
    refine ⟨_, get?_of_amend hi hi' hf hp hsets hd, ?_⟩
    by_cases hflow : f = flow
    · subst hflow
      rw [hf.challenge] at hd
      cases hd
      rw [if_pos rfl]
      exact hmoves
    · rw [if_neg hflow]
      refine .kept fun hwrong => ?_
      rw [hi.id_of_challenge hd, hother f hflow] at hwrong
      cases hwrong
  new f d hnone hsome := by
    rw [(unknown_of_amend hi hi' hf hsets).mpr hnone] at hsome
    cases hsome
  unknown f hnone := by
    refine hother f ?_
    rintro rfl
    rw [hf.challenge] at hnone
    cases hnone

theorem expire_elapsed (hi : m.Intact) (hi' : m'.Intact) (hf : Engine.Finds m flow c acc)
    (hsets : m.Sets c.address (acc.amend (Attempt.expire ⟨c, acc.record⟩ .elapsed now)) m')
    (hop : ∀ f, op.isWrongCode f answer = false) : m.Moves e now op answer m' := by
  have hp := (Attempt.expire_amends ⟨c, acc.record⟩ now .elapsed).challenge
  refine amend hi hi' hf hp hsets (fun f _ => hop f) ?_
  rw [Attempt.challenge_expire]
  exact .ended (hop _) (by decide)

theorem ensures (hi : m.Intact) (hi' : m'.Intact) {slot : Slot} {value : Contact}
    {outcome : Except VerificationError RequestOutcome}
    (h : e.Ensures m slot value now outcome m') (hop : ∀ f, op.isWrongCode f answer = false) :
    m.Moves e now op answer m' := by
  cases h with
  | refused => exact refl hop
  | alreadyVerified => exact refl hop
  | resent => exact refl hop
  | @issued id acc c token code m' haddressed _ hnew hc hsets =>
    have hacc : m.history id = acc.history := by
      cases haddressed with
      | known hacc => exact history_of_account? hacc
      | fresh _ hnone => exact hi.history_of_no_account hnone
    refine ⟨fun f d hd => ?_, fun f d hnone hd => ?_, fun f _ => hop f⟩
    · rcases get?_of_issue hi hi' hacc hsets hd with hsame | ⟨reason, hreason, hended⟩
      · exact ⟨d, hsame, .kept fun hwrong => absurd (hop _) (by rw [hwrong]; decide)⟩
      · exact ⟨_, hended, .ended (hop _) hreason⟩
    · have hdc := eq_of_issue hi hi' hacc hsets hnone hd
      rw [← hi'.id_of_challenge hd, hdc]
      exact ⟨_, token, code, hc⟩

theorem opens (hi : m.Intact) (hi' : m'.Intact) {token : String}
    {state : Except VerificationError FlowState} (h : Engine.Opens m flow token now state m') :
    m.Moves e now (.openLink flow token) (.opened state) m' := by
  cases h with
  | unknown => exact refl fun _ => rfl
  | wrongToken => exact refl fun _ => rfl
  | shown => exact refl fun _ => rfl
  | expired => exact refl fun _ => rfl
  | elapsed hf _ _ _ hsets => exact expire_elapsed hi hi' hf hsets fun _ => rfl

theorem sweeps (hi : m.Intact) (h : Engine.Sweeps now m m') {n : Nat} :
    m.Moves e now .sweep (.swept (.ok n)) m' where
  known f c hc := by
    rcases h.get? hi f with hsame | ⟨d, hd, hended⟩
    · exact ⟨c, hsame.trans hc, .kept fun hwrong => absurd hwrong Bool.false_ne_true⟩
    · rw [hc] at hd
      cases hd
      exact ⟨_, hended, .ended rfl (by decide)⟩
  new f d hnone hsome := by
    rcases h.get? hi f with hsame | ⟨d', hd', -⟩
    · rw [hsame, hnone] at hsome
      cases hsome
    · rw [hnone] at hd'
      cases hd'
  unknown _ _ := rfl

-- A code for a challenge that is still live, and wrong.
theorem fail (hi : m.Intact) (hf : Engine.Finds m flow c acc) {code : String}
    (hlive : c.isLive now = true) {answer : Answer}
    (hanswer : (∃ left, (Attempt.fail ⟨c, acc.record⟩ now).1 = .remaining left ∧
        answer = .submitted (.error (.invalidCode left))) ∨
      (Attempt.fail ⟨c, acc.record⟩ now).1 = .exhausted ∧
        answer = .submitted (.error .attemptsExhausted)) :
    c.Moves now (.submit flow code) answer (Attempt.fail ⟨c, acc.record⟩ now).2.challenge := by
  have hact : c.isActive = true := Challenge.isActive_iff.mpr (Challenge.active_of_isLive hlive)
  rw [← hi.id_of_challenge hf.challenge]
  cases hbound : c.attemptsRemaining with
  | none =>
    rw [Attempt.fail_of_unbounded hact hbound] at hanswer ⊢
    exact .kept fun _ => .inr hbound
  | some n =>
    rw [Attempt.fail_of_bound hact hbound] at hanswer ⊢
    by_cases hmore : 1 < n
    · rw [if_pos hmore] at hanswer ⊢
      rcases hanswer with ⟨left, hfail, rfl⟩ | ⟨hfail, -⟩
      · cases hfail
        exact .counted hlive hbound hmore
      · cases hfail
    · rw [if_neg hmore] at hanswer ⊢
      rcases hanswer with ⟨left, hfail, -⟩ | ⟨-, rfl⟩
      · cases hfail
      · exact .spent hlive (by rw [hbound]; exact Option.some_ne_none n)

theorem submits (hi : m.Intact) (hi' : m'.Intact) {code : String}
    {outcome : Except VerificationError SubmitOutcome}
    (h : Engine.Submits m flow code now outcome m') :
    m.Moves e now (.submit flow code) (.submitted outcome) m' := by
  have hother : ∀ f ≠ flow,
      (Operation.submit flow code).isWrongCode f (.submitted outcome) = false := by
    intro f hflow
    cases outcome with
    | ok => rfl
    | error error =>
      cases error <;> first | rfl | exact decide_eq_false fun h => hflow h.symm
  cases h with
  | unknown => exact refl fun _ => rfl
  | exhausted => exact refl fun _ => rfl
  | expired => exact refl fun _ => rfl
  | @wrongLate c acc hf hs =>
    -- this is answered for as a wrong code, but nothing is counted any more
    have hsets := MemoryStore.sets_self hf.account
    rw [← hf.amend_self hi] at hsets
    exact amend hi hi' hf (by rfl) hsets hother
      (.kept fun _ => .inl (by simp [Challenge.isActive, hs]))
  | alreadyVerified hf _ _ _ hsets =>
    rw [← hf.amend_self hi] at hsets
    exact amend hi hi' hf (by rfl) hsets hother
      (.kept fun hwrong => absurd hwrong Bool.false_ne_true)
  | lapsed hf _ _ _ hsets =>
    rw [← hf.amend_self hi] at hsets
    exact amend hi hi' hf (by rfl) hsets hother
      (.kept fun hwrong => absurd hwrong Bool.false_ne_true)
  | elapsed hf _ _ hsets => exact expire_elapsed hi hi' hf hsets fun _ => rfl
  | verified hf _ _ _ _ hsets => exact amend hi hi' hf (by rfl) hsets hother (.completed rfl)
  | changed hf _ _ _ _ hsets =>
    exact amend hi hi' hf (Challenge.sameIssue_expire _ _) hsets hother (.ended rfl (by decide))
  | counted hf _ hlive _ hfail hsets =>
    exact amend hi hi' hf (Attempt.fail_amends _ now).challenge hsets hother
      (fail hi hf hlive (.inl ⟨_, hfail, rfl⟩))
  | spent hf _ hlive _ hfail hsets =>
    exact amend hi hi' hf (Attempt.fail_amends _ now).challenge hsets hother
      (fail hi hf hlive (.inr ⟨hfail, rfl⟩))

/-- No operation does anything else to any challenge. -/
theorem ends (hi : m.Intact) (hi' : m'.Intact) (h : op.Ends e m now answer m') :
    m.Moves e now op answer m' := by
  cases h with
  | refused => exact refl fun _ => by cases op <;> rfl
  | declared _ hensures => exact ensures hi hi' hensures fun _ => by cases op <;> rfl
  | resent _ _ _ hensures => exact ensures hi hi' hensures fun _ => rfl
  | opened hopens => exact opens hi hi' hopens
  | submitted hsubmits => exact submits hi hi' hsubmits
  | swept hsweeps => exact sweeps hi hsweeps

end MemoryStore.Moves

end Vouch
