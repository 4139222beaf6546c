import Mathlib.Data.List.Forall2
import Vouch.Proofs.Memory.Calls

/-!
# Growth

What a call may do to the records of a store in memory: challenges are added at the end of the
histories, an active challenge may lose attempts or end, and one that has ended is never written
again.  Who an address is for and when it was first verified stays as well.
-/

namespace Vouch

/-- The fields of a challenge that tell of its end are those of the end it has come to. -/
structure Challenge.Tidy (c : Challenge) : Prop where
  completedAt : c.completedAt.isSome = true ↔ c.state = .completed
  expiredReason : c.expiredReason.isSome = true ↔ c.state = .expired

/-- An earlier and a later state of one challenge. -/
structure Challenge.Evolves (c d : Challenge) : Prop where
  /-- What it was issued with stays. -/
  issue : c.SameIssue d
  /-- The attempts that are left never become more, and never become bounded or unbounded. -/
  attempts : Option.Rel (fun later earlier => later ≤ earlier) d.attemptsRemaining
    c.attemptsRemaining
  /-- One that has ended stays as it is. -/
  frozen : c.isActive = false → d = c
  tidy : c.Tidy → d.Tidy

/-- An earlier and a later state of one address. -/
structure Address.Evolves (a b : Address) : Prop where
  id : b.id = a.id
  identity : b.identity = a.identity
  channel : b.channel = a.channel
  createdAt : b.createdAt = a.createdAt
  /-- The time of the first verification stays. -/
  verifiedAt : ∀ t, a.verifiedAt = some t → b.verifiedAt = some t

/-- An earlier and a later state of a challenge and its address. -/
structure Attempt.Evolves (p q : Attempt) : Prop where
  challenge : p.challenge.Evolves q.challenge
  address : p.address.Evolves q.address

/-! ## Challenges -/

namespace Challenge

variable {c d e : Challenge}

theorem tidy_issue (f : FlowId) (a : Address) (token code : String) (policy : Policy)
    (now : Timestamp) : (issue f a token code policy now).Tidy where
  completedAt := ⟨(fun h => nomatch h), (fun h => nomatch h)⟩
  expiredReason := ⟨(fun h => nomatch h), (fun h => nomatch h)⟩

theorem attempts_refl (c : Challenge) :
    Option.Rel (fun later earlier => later ≤ earlier) c.attemptsRemaining c.attemptsRemaining := by
  cases c.attemptsRemaining with
  | none => exact .none
  | some n => exact .some (UInt32.le_refl n)

namespace Evolves

theorem refl (c : Challenge) : c.Evolves c := ⟨rfl, c.attempts_refl, fun _ => rfl, fun h => h⟩

theorem trans (h : c.Evolves d) (h' : d.Evolves e) : c.Evolves e where
  issue := h.issue.trans h'.issue
  attempts := by
    have hlater := h'.attempts
    have hearlier := h.attempts
    generalize c.attemptsRemaining = n, d.attemptsRemaining = k, e.attemptsRemaining = l
      at hearlier hlater
    cases hearlier with
    | none => exact hlater
    | some hkn =>
      cases hlater with
      | some hlk => exact .some (UInt32.le_trans hlk hkn)
  frozen hended := by
    obtain rfl := h.frozen hended
    exact h'.frozen hended
  tidy := h'.tidy ∘ h.tidy

-- An active challenge may come to any end.
theorem of_isActive (hact : c.isActive = true) (hissue : c.SameIssue d)
    (hattempts : Option.Rel (fun later earlier => later ≤ earlier) d.attemptsRemaining
      c.attemptsRemaining) (htidy : c.Tidy → d.Tidy) : c.Evolves d where
  issue := hissue
  attempts := hattempts
  frozen hended := by
    rw [hact] at hended
    cases hended
  tidy := htidy

end Evolves

-- An active challenge tells of no end.
theorem Tidy.of_isActive (h : c.Tidy) (hact : c.isActive = true) :
    c.completedAt = none ∧ c.expiredReason = none := by
  have hstate := isActive_iff.mp hact
  have hcompleted := h.completedAt
  have hexpired := h.expiredReason
  rw [hstate] at hcompleted hexpired
  simpa using And.intro hcompleted hexpired

theorem evolves_expire (c : Challenge) (reason : ExpiredReason) : c.Evolves (c.expire reason) := by
  cases hact : c.isActive with
  | false =>
    rw [Attempt.expire_of_isActive_eq_false hact]
    exact .refl c
  | true =>
    refine .of_isActive hact (c.sameIssue_expire reason) ?_ fun htidy => ?_
    all_goals rw [Attempt.expire_of_isActive hact]
    · exact c.attempts_refl
    · exact ⟨by simp [(htidy.of_isActive hact).1], by simp⟩

theorem evolves_markCompleted (hact : c.isActive = true) (now : Timestamp) :
    c.Evolves (c.markCompleted now) :=
  .of_isActive hact rfl c.attempts_refl fun htidy =>
    ⟨by simp [markCompleted], by simp [markCompleted, (htidy.of_isActive hact).2]⟩

theorem evolves_withAttempts (hact : c.isActive = true) {n left : UInt32}
    (hn : c.attemptsRemaining = some n) (hleft : left ≤ n) : c.Evolves (c.withAttempts left) := by
  refine .of_isActive hact rfl ?_ fun htidy => ⟨htidy.completedAt, htidy.expiredReason⟩
  rw [hn]
  exact .some hleft

end Challenge

/-! ## Addresses -/

namespace Address

variable {a b d : Address}

theorem Evolves.refl (a : Address) : a.Evolves a := ⟨rfl, rfl, rfl, rfl, fun _ h => h⟩

theorem Evolves.trans (h : a.Evolves b) (h' : b.Evolves d) : a.Evolves d where
  id := h'.id.trans h.id
  identity := h'.identity.trans h.identity
  channel := h'.channel.trans h.channel
  createdAt := h'.createdAt.trans h.createdAt
  verifiedAt t ht := h'.verifiedAt t (h.verifiedAt t ht)

theorem evolves_rebind (a : Address) (value : Contact) (now : Timestamp) :
    a.Evolves (a.rebind value now) := ⟨rfl, rfl, rfl, rfl, fun _ h => h⟩

theorem evolves_markPending (a : Address) (now : Timestamp) : a.Evolves (a.markPending now) :=
  ⟨rfl, rfl, rfl, rfl, fun _ h => h⟩

theorem evolves_markAttemptExpired (a : Address) (value : Contact) (now : Timestamp) :
    a.Evolves (a.markAttemptExpired value now) := by
  unfold markAttemptExpired
  split
  · exact .refl a
  · exact ⟨rfl, rfl, rfl, rfl, fun _ h => h⟩

-- Only the first verification is dated.
theorem evolves_markVerified (a : Address) (now : Timestamp) : a.Evolves (a.markVerified now) where
  id := rfl
  identity := rfl
  channel := rfl
  createdAt := rfl
  verifiedAt t ht := by rw [markVerified, ht, Option.getD_some]

end Address

/-! ## Attempts -/

namespace Attempt

variable (p : Attempt) (now : Timestamp)

theorem Evolves.refl : p.Evolves p := ⟨.refl _, .refl _⟩

-- Whatever amends an attempt has no part in one that has ended.
theorem Amends.evolves {p q : Attempt} (h : p.Amends q)
    (hactive : p.challenge.isActive = true → p.Evolves q) : p.Evolves q := by
  cases hact : p.challenge.isActive with
  | true => exact hactive hact
  | false =>
    rw [h.ended hact]
    exact .refl p

theorem evolves_complete : p.Evolves (p.complete now).2 := by
  refine (p.complete_amends now).evolves fun hact => ?_
  simp only [complete, Challenge.isActive_iff.mp hact]
  split
  · exact ⟨p.challenge.evolves_expire _, p.address.evolves_markAttemptExpired _ _⟩
  · split
    · exact ⟨p.challenge.evolves_expire _, .refl _⟩
    · exact ⟨Challenge.evolves_markCompleted hact now, p.address.evolves_markVerified now⟩

theorem evolves_fail : p.Evolves (p.fail now).2 := by
  refine (p.fail_amends now).evolves fun hact => ?_
  cases hn : p.challenge.attemptsRemaining with
  | none =>
    simp only [fail, if_pos hact, hn]
    exact .refl p
  | some n =>
    simp only [fail, if_pos hact, hn]
    have hleft : (if n = 0 then 0 else n - 1) ≤ n := by
      split
      · exact UInt32.zero_le
      · rename_i hne
        refine UInt32.sub_le ?_
        grind
    generalize (if n = 0 then 0 else n - 1) = left at hleft
    have hcounted := Challenge.evolves_withAttempts hact hn hleft
    split
    · exact ⟨hcounted.trans (Challenge.evolves_expire _ _),
        p.address.evolves_markAttemptExpired _ _⟩
    · exact ⟨hcounted, .refl _⟩

theorem evolves_expire (reason : ExpiredReason) : p.Evolves (p.expire reason now) := by
  simp only [expire]
  split
  · exact ⟨p.challenge.evolves_expire reason, p.address.evolves_markAttemptExpired _ _⟩
  · exact ⟨p.challenge.evolves_expire reason, .refl _⟩

end Attempt

/-! ## Stores -/

namespace MemoryStore

variable {m m' m'' : MemoryStore} {more more' : List Challenge}

/-- An earlier and a later state of a store in memory, with the challenges that were added. -/
structure Grows (m : MemoryStore) (more : List Challenge) (m' : MemoryStore) : Prop where
  /-- The history of an address goes on with the challenges for that address. -/
  history : ∀ id, List.Forall₂ Challenge.Evolves
    (m.history id ++ more.filter fun c => c.address = id) (m'.history id)
  address : ∀ id a, m.addresses.get? id = some a →
    ∃ b, m'.addresses.get? id = some b ∧ a.Evolves b

theorem forall₂_evolves_refl (l : List Challenge) : List.Forall₂ Challenge.Evolves l l :=
  List.forall₂_same.mpr fun c _ => .refl c

theorem forall₂_evolves_trans {l l' l'' : List Challenge}
    (h : List.Forall₂ Challenge.Evolves l l') (h' : List.Forall₂ Challenge.Evolves l' l'') :
    List.Forall₂ Challenge.Evolves l l'' := by
  induction h generalizing l'' with
  | nil => exact h'
  | cons hfirst _ ih =>
    cases h' with
    | cons hfirst' hrest' => exact .cons (hfirst.trans hfirst') (ih hrest')

-- What is listed at a place is a later state of what was listed there.
theorem exists_later {l l' : List Challenge} (h : List.Forall₂ Challenge.Evolves l l')
    {c : Challenge} (hc : c ∈ l) : ∃ d ∈ l', c.Evolves d := by
  induction h with
  | nil => cases hc
  | cons hfirst _ ih =>
    rcases List.mem_cons.mp hc with rfl | hc
    · exact ⟨_, List.mem_cons_self, hfirst⟩
    · obtain ⟨d, hd, hcd⟩ := ih hc
      exact ⟨d, List.mem_cons_of_mem _ hd, hcd⟩

theorem exists_earlier {l l' : List Challenge} (h : List.Forall₂ Challenge.Evolves l l')
    {d : Challenge} (hd : d ∈ l') : ∃ c ∈ l, c.Evolves d := by
  induction h with
  | nil => cases hd
  | cons hfirst _ ih =>
    rcases List.mem_cons.mp hd with rfl | hd
    · exact ⟨_, List.mem_cons_self, hfirst⟩
    · obtain ⟨c, hc, hcd⟩ := ih hd
      exact ⟨c, List.mem_cons_of_mem _ hc, hcd⟩

theorem ids_of_evolves {l l' : List Challenge} (h : List.Forall₂ Challenge.Evolves l l') :
    (l'.map fun c => c.id) = l.map fun c => c.id := by
  induction h with
  | nil => rfl
  | cons hfirst _ ih => rw [List.map_cons, List.map_cons, ih, hfirst.issue.id]

namespace Grows

theorem refl (m : MemoryStore) : m.Grows [] m where
  history id := by
    rw [List.filter_nil, List.append_nil]
    exact forall₂_evolves_refl _
  address _ a ha := ⟨a, ha, .refl a⟩

theorem trans (h : m.Grows more m') (h' : m'.Grows more' m'') : m.Grows (more ++ more') m'' where
  history id := by
    rw [List.filter_append, ← List.append_assoc]
    exact forall₂_evolves_trans (List.rel_append (h.history id) (forall₂_evolves_refl _))
      (h'.history id)
  address id a ha := by
    obtain ⟨b, hb, hab⟩ := h.address id a ha
    obtain ⟨d, hd, hbd⟩ := h'.address id b hb
    exact ⟨d, hd, hab.trans hbd⟩

-- One account changes, and gets the challenges that are added.
theorem of_sets (h : m.Intact) (h' : m'.Intact) {id : AddressId} {acc : Account}
    (hsets : m.Sets id acc m')
    (hrecord : ∀ a, m.addresses.get? id = some a → a.Evolves acc.record)
    (hhistory : List.Forall₂ Challenge.Evolves (m.history id ++ more) acc.history)
    (hmore : ∀ c ∈ more, c.address = id) : m.Grows more m' where
  history j := by
    rw [history_of_sets h h' hsets]
    split
    · rename_i hj
      rw [hj, List.filter_eq_self.mpr fun c hc => by simpa using hmore c hc]
      exact hhistory
    · rename_i hj
      rw [List.filter_eq_nil_iff.mpr fun c hc => ?_, List.append_nil]
      · exact forall₂_evolves_refl _
      · rw [hmore c hc]
        simpa using fun he : id = j => hj he.symm
  address j a ha := by
    have hacc := account?_of_get? ha
    by_cases hj : j = id
    · subst hj
      exact ⟨acc.record, get?_of_account? hsets.get?, hrecord a ha⟩
    · refine ⟨a, ?_, .refl a⟩
      have hsame := hsets j
      rw [if_neg hj, hacc] at hsame
      exact get?_of_account? hsame

-- No challenge is lost.
theorem challenge (h : m.Grows more m') (h' : m'.Intact) {id : AddressId} {c : Challenge}
    (hc : c ∈ m.history id ++ more.filter fun c => c.address = id) :
    ∃ d, m'.challenges.get? c.id = some d ∧ c.Evolves d := by
  obtain ⟨d, hd, hcd⟩ := exists_later (h.history id) hc
  exact ⟨d, by rw [← hcd.issue.id]; exact (h'.mem_history.mp hd).1, hcd⟩

end Grows

/-! ## Calls -/

-- All of a history is expired.
theorem forall₂_evolves_expire (l : List Challenge) (reason : ExpiredReason) :
    List.Forall₂ Challenge.Evolves l (l.map fun c => c.expire reason) := by
  rw [List.forall₂_map_right_iff]
  exact List.forall₂_same.mpr fun c _ => c.evolves_expire reason

theorem grows_upserts (h : m.Intact) (h' : m'.Intact) {candidate : Address} {out : Upserted}
    (hupserts : m.Upserts candidate out m')
    (hnew : m.slots.get? candidate.slot = none → m.addresses.get? candidate.id = none) :
    m.Grows [] m' := by
  cases hupserts with
  | created hslot hsets =>
    have hnone := hnew hslot
    refine .of_sets h h' hsets (fun a ha => ?_) ?_ fun _ hc => nomatch hc
    · rw [hnone] at ha
      cases ha
    · rw [h.history_of_no_account (account?_eq_none_iff.mpr hnone)]
      exact .nil
  | unchanged => exact .refl m
  | rebound hacc _ _ hsets =>
    refine .of_sets h h' hsets (fun a ha => ?_) ?_ fun _ hc => nomatch hc
    · rw [get?_of_account? hacc] at ha
      cases ha
      exact Address.evolves_rebind _ _ _
    · rw [List.append_nil, history_of_account? hacc]
      exact forall₂_evolves_expire _ _

theorem grows_create (h : m.Intact) {c : Challenge} (hact : c.isActive = true)
    {out : Option Challenge} (hcreate : m.create c = .ok (out, m')) : m.Grows [c] m' := by
  obtain ⟨-, h', acc, hacc, hsets⟩ := create_ok h hact hcreate
  refine .of_sets h h' hsets (fun a ha => ?_) ?_ fun d hd => by rw [List.mem_singleton.mp hd]
  · rw [get?_of_account? hacc] at ha
    cases ha
    exact Address.evolves_markPending _ _
  · rw [history_of_account? hacc]
    exact List.rel_append (forall₂_evolves_expire _ _) (forall₂_evolves_refl [c])

theorem grows_update {α : Type} (h : m.Intact) {f : FlowId} {change : Attempt → α × Attempt}
    (hamends : ∀ p : Attempt, p.Amends (change p).2)
    (hevolves : ∀ p : Attempt, p.Evolves (change p).2) {out : α}
    (hupdate : m.update f change = .ok (out, m')) : m.Grows [] m' := by
  obtain ⟨h', c, acc, hc, hacc, -, hsets⟩ := update_ok h hamends hupdate
  have hp := hevolves ⟨c, acc.record⟩
  refine .of_sets h h' hsets (fun a ha => ?_) ?_ fun _ hd => nomatch hd
  · rw [get?_of_account? hacc] at ha
    cases ha
    exact hp.address
  · rw [List.append_nil, history_of_account? hacc, Account.amend, List.forall₂_map_right_iff]
    refine List.forall₂_same.mpr fun d hd => ?_
    split
    · -- only the challenge itself has its identifier
      rename_i hid
      rw [← history_of_account? hacc] at hd
      have hget := (h.mem_history.mp hd).1
      rw [hid, (hamends _).challenge.id, h.id_of_challenge hc, hc] at hget
      cases hget
      exact hp.challenge
    · exact .refl d

end MemoryStore

end Vouch
