import Vouch.Proofs.Durable.Calls

/-!
# Calls as they run

A call is given as a function from a store to the changed store, or to an error and no store at
all.  What runs has one store and changes it step after step.  In memory a step cannot be undone,
so a call has to make its checks before the first of them.  On disk the steps change the copy that
a transaction works on, and a call that fails at any step drops the copy.  Here the calls are
written as they run, and shown to come to what the functions say.
-/

namespace Vouch

/-- A call that changes a store in place. -/
abbrev Program (σ α : Type) := EStateM StoreError σ α

namespace Program

variable {σ α : Type}

/-- The answer of a program, and the store it leaves behind. -/
def perform (x : Program σ α) (s : σ) : Except StoreError α × σ :=
  match x s with
  | .ok a s' => (.ok a, s')
  | .error e s' => (.error e, s')

def look (read : σ → Except StoreError α) : Program σ α := do
  ofExcept (read (← get))

/-- A single step, which is made at once or not at all. -/
def step (call : σ → Except StoreError (α × σ)) : Program σ α := do
  let (a, s) ← ofExcept (call (← get))
  set s
  return a

/-- A step that has nothing to answer. -/
def change (call : σ → Except StoreError σ) : Program σ Unit := do
  set (← ofExcept (call (← get)))

/-- A program that works on a copy.  The copy takes the place of the store in the end, and is
dropped if the program fails. -/
def transaction (x : Program σ α) : Program σ α := fun s =>
  match x s with
  | .ok a s' => .ok a s'
  | .error e _ => .error e s

variable {s s' : σ}

theorem look_run {read : σ → Except StoreError α} :
    look read s = match read s with
      | .ok a => .ok a s
      | .error e => .error e s := by
  show (ofExcept (read s) : Program σ α) s = _
  cases read s <;> rfl

theorem step_run {call : σ → Except StoreError (α × σ)} :
    step call s = match call s with
      | .ok (a, s') => .ok a s'
      | .error e => .error e s := by
  show ((do let (a, s) ← ofExcept (call s); set s; return a : Program σ α)) s = _
  cases call s <;> rfl

theorem change_run {call : σ → Except StoreError σ} :
    change call s = match call s with
      | .ok s' => .ok () s'
      | .error e => .error e s := by
  show ((do set (← ofExcept (call s)) : Program σ Unit)) s = _
  cases call s <;> rfl

section Steps

variable {β : Type}

theorem get_bind_run (f : σ → Program σ β) : ((get : Program σ σ) >>= f) s = f s s := rfl

theorem modify_bind_run (g : σ → σ) (f : PUnit → Program σ β) :
    ((modify g : Program σ PUnit) >>= f) s = f ⟨⟩ (g s) := rfl

theorem bind_of_ok {x : Program σ α} {a : α} (h : x s = .ok a s') (f : α → Program σ β) :
    (x >>= f) s = f a s' := by
  show EStateM.bind x f s = _
  rw [EStateM.bind, h]

theorem bind_of_error {x : Program σ α} {e : StoreError} (h : x s = .error e s')
    (f : α → Program σ β) : (x >>= f) s = .error e s' := by
  show EStateM.bind x f s = _
  rw [EStateM.bind, h]

end Steps

end Program

open Program

/-! ## In memory -/

namespace MemoryStore

def expireActiveInPlace (address : AddressId) (reason : ExpiredReason) :
    Program MemoryStore (Option Challenge) := do
  match (← get).active.get? address with
  | none => return none
  | some id =>
    modify fun s => { s with active := s.active.erase address }
    match (← get).challenges.get? id with
    | none => return none
    | some challenge =>
      let challenge := challenge.expire reason
      modify fun s => { s with challenges := s.challenges.insert id challenge }
      return some challenge

def putInPlace (p : Attempt) : Program MemoryStore Unit := do
  if !p.challenge.isActive && (← get).active.get? p.address.id = some p.challenge.id then
    modify fun s => { s with active := s.active.erase p.address.id }
  modify fun s => { s with addresses := s.addresses.insert p.address.id p.address }
  modify fun s => { s with challenges := s.challenges.insert p.challenge.id p.challenge }

def upsertInPlace (candidate : Address) : Program MemoryStore Upserted := do
  match (← get).slots.get? candidate.slot with
  | none =>
    modify fun s => { s with slots := s.slots.insert candidate.slot candidate.id }
    modify fun s => { s with addresses := s.addresses.insert candidate.id candidate }
    return .created candidate
  | some id =>
    match (← get).addresses.get? id with
    | none => throw (.corruption (.slotWithoutAddress id))
    | some address =>
      if address.value = candidate.value then
        return .unchanged address
      else
        let expired ← expireActiveInPlace id .addressChanged
        let address := address.rebind candidate.value candidate.updatedAt
        modify fun s => { s with addresses := s.addresses.insert id address }
        return .rebound address expired.toList

def createInPlace (challenge : Challenge) : Program MemoryStore (Option Challenge) := do
  match (← get).challenges.get? challenge.id with
  | some _ => throw (.duplicate (.challenge challenge.id))
  | none =>
    match (← get).addresses.get? challenge.address with
    | none => throw (.corruption (.challengeWithoutAddress challenge.id challenge.address))
    | some address =>
      let superseded ← expireActiveInPlace address.id .superseded
      let address := address.markPending challenge.issuedAt
      modify fun s => { s with active := s.active.insert address.id challenge.id }
      modify fun s => { s with addresses := s.addresses.insert address.id address }
      modify fun s => { s with challenges := s.challenges.insert challenge.id challenge }
      return superseded

def updateInPlace {α : Type} (id : FlowId) (f : Attempt → α × Attempt) : Program MemoryStore α := do
  let p ← look fun s => s.attempt id
  let (outcome, changed) := f p
  putInPlace changed
  return outcome

theorem expireActiveInPlace_run (address : AddressId) (reason : ExpiredReason) (s : MemoryStore) :
    expireActiveInPlace address reason s =
      .ok (s.expireActive address reason).1 (s.expireActive address reason).2 := by
  rw [expireActiveInPlace, get_bind_run, expireActive]
  cases s.active.get? address with
  | none => rfl
  | some id =>
    simp only [modify_bind_run, get_bind_run]
    cases s.challenges.get? id <;> rfl

theorem putInPlace_run (p : Attempt) (s : MemoryStore) : putInPlace p s = .ok ⟨⟩ (s.put p) := by
  rw [putInPlace, get_bind_run, put]
  split <;> rfl

theorem upsertInPlace_eq (candidate : Address) :
    upsertInPlace candidate = step (upsert candidate) := by
  funext s
  rw [upsertInPlace, get_bind_run, step_run, upsert]
  cases s.slots.get? candidate.slot with
  | none => rfl
  | some id =>
    simp only [get_bind_run]
    cases s.addresses.get? id with
    | none => rfl
    | some address =>
      simp only
      split
      · rfl
      · rw [bind_of_ok (expireActiveInPlace_run ..)]
        rfl

theorem createInPlace_eq (challenge : Challenge) :
    createInPlace challenge = step (create challenge) := by
  funext s
  rw [createInPlace, get_bind_run, step_run, create]
  cases s.challenges.get? challenge.id with
  | some _ => rfl
  | none =>
    simp only [get_bind_run]
    cases s.addresses.get? challenge.address with
    | none => rfl
    | some address =>
      simp only
      rw [bind_of_ok (expireActiveInPlace_run ..)]
      rfl

theorem updateInPlace_eq {α : Type} (id : FlowId) (f : Attempt → α × Attempt) :
    updateInPlace id f = step (update id f) := by
  funext s
  rw [updateInPlace, step_run, update]
  cases h : s.attempt id with
  | error e => exact bind_of_error (by rw [look_run, h]) _
  | ok p =>
    have hlook : look (fun s => s.attempt id) s = .ok p s := by rw [look_run, h]
    rw [bind_of_ok hlook]
    exact bind_of_ok (putInPlace_run (f p).2 s) _

end MemoryStore

/-! ## On disk -/

namespace Program

variable {σ α β : Type} {x : Program σ α} {s : σ}

/-- The program ends as the call does.  What it leaves behind where it fails does not matter. -/
def Follows (x : Program σ α) (s : σ) : Except StoreError (α × σ) → Prop
  | .ok (a, s') => x s = .ok a s'
  | .error e => ∃ s', x s = .error e s'

theorem transaction_eq {call : σ → Except StoreError (α × σ)} (h : ∀ s, Follows x s (call s)) :
    transaction x = step call := by
  funext s
  have hs := h s
  rw [transaction, step_run]
  cases hcall : call s with
  | ok result =>
    rw [hcall] at hs
    rw [hs]
  | error e =>
    rw [hcall] at hs
    obtain ⟨s', hs'⟩ := hs
    rw [hs']

theorem follows_throw (e : StoreError) : Follows (throw e : Program σ α) s (.error e) := ⟨s, rfl⟩

theorem follows_return (a : α) : Follows (pure a : Program σ α) s (.ok (a, s)) := rfl

theorem follows_bind {a : α} {s' : σ} {f : α → Program σ β} {ended : Except StoreError (β × σ)}
    (hx : x s = .ok a s') (h : Follows (f a) s' ended) : Follows (x >>= f) s ended := by
  unfold Follows at h ⊢
  rwa [bind_of_ok hx]

theorem follows_look {read : σ → Except StoreError α} {f : α → Program σ β}
    {g : α → Except StoreError (β × σ)} (h : ∀ a, read s = .ok a → Follows (f a) s (g a)) :
    Follows (look read >>= f) s (read s >>= g) := by
  cases hread : read s with
  | ok a => exact follows_bind (by rw [look_run, hread]) (h a hread)
  | error e => exact ⟨s, bind_of_error (by rw [look_run, hread]) f⟩

theorem follows_step {call : σ → Except StoreError (α × σ)} {f : α → Program σ β}
    {g : α × σ → Except StoreError (β × σ)}
    (h : ∀ a s', call s = .ok (a, s') → Follows (f a) s' (g (a, s'))) :
    Follows (step call >>= f) s (call s >>= g) := by
  cases hcall : call s with
  | ok result =>
    obtain ⟨a, s'⟩ := result
    exact follows_bind (by rw [step_run, hcall]) (h a s' hcall)
  | error e => exact ⟨s, bind_of_error (by rw [step_run, hcall]) f⟩

theorem follows_change {call : σ → Except StoreError σ} {f : Unit → Program σ β}
    {g : σ → Except StoreError (β × σ)}
    (h : ∀ s', call s = .ok s' → Follows (f ()) s' (g s')) :
    Follows (change call >>= f) s (call s >>= g) := by
  cases hcall : call s with
  | ok s' => exact follows_bind (by rw [change_run, hcall]) (h s' hcall)
  | error e => exact ⟨s, bind_of_error (by rw [change_run, hcall]) f⟩

-- A step that writes to one part of the store.
theorem follows_write {γ : Type} {write : σ → Except StoreError γ} {put : σ → γ → σ}
    {f : Unit → Program σ β} {g : γ → Except StoreError (β × σ)}
    (h : ∀ part, write s = .ok part → Follows (f ()) (put s part) (g part)) :
    Follows ((change fun s => do return put s (← write s)) >>= f) s (write s >>= g) := by
  cases hwrite : write s with
  | ok part =>
    have hchange : change (fun s => do return put s (← write s)) s = .ok () (put s part) := by
      rw [change_run, hwrite]
      rfl
    exact follows_bind hchange (h part hwrite)
  | error e =>
    refine ⟨s, bind_of_error ?_ f⟩
    rw [change_run, hwrite]
    rfl

end Program

namespace Durable.Ledger

def upsertSteps (candidate : Address) : Program Ledger Upserted := do
  match ← look fun s => read s.slots (slotKey candidate.slot) with
  | none =>
    change fun s => s.writeAddress candidate none
    return .created candidate
  | some bs =>
    let id ← look fun _ => decodeId .address bs
    match ← look fun s => s.readAddress id with
    | none => throw (.corruption (.slotWithoutAddress id))
    | some address =>
      if address.value = candidate.value then
        return .unchanged address
      else
        let expired ← step fun s => s.expireActive id .addressChanged
        let rebound := address.rebind candidate.value candidate.updatedAt
        change fun s => s.writeAddress rebound (some address.value)
        return .rebound rebound expired.toList

def createSteps (c : Challenge) : Program Ledger (Option Challenge) := do
  match ← look fun s => s.readChallenge c.id with
  | some _ => throw (.duplicate (.challenge c.id))
  | none =>
    let address ← look fun s => s.addressOf c
    let superseded ← step fun s => s.expireActive address.id .superseded
    let address := address.markPending c.issuedAt
    let sequence ← step nextSequence
    change fun s => return { s with
      history := ← write s.history (historyKey address.id sequence) c.id.bytes }
    change fun s => s.writeChallenge c
    change fun s => s.writeAddress address (some address.value)
    return superseded

def updateSteps {α : Type} (id : FlowId) (f : Attempt → α × Attempt) : Program Ledger α := do
  match ← look fun s => s.readChallenge id with
  | none => throw (.notFound (.challenge id))
  | some challenge =>
    let address ← look fun s => s.addressOf challenge
    let (outcome, changed) := f ⟨challenge, address⟩
    change fun s => s.writeChallenge changed.challenge
    if changed.address ≠ address then
      change fun s => s.writeAddress changed.address (some address.value)
    return outcome

theorem upsert_transaction (candidate : Address) :
    transaction (upsertSteps candidate) = step (upsert candidate) := by
  refine transaction_eq fun s => follows_look fun found _ => ?_
  cases found with
  | none => exact follows_change fun s' _ => follows_return _
  | some bs =>
    refine follows_look fun id _ => follows_look fun stored _ => ?_
    cases stored with
    | none => exact follows_throw _
    | some address =>
      dsimp only
      split
      · exact follows_return _
      · exact follows_step fun expired s' _ => follows_change fun s'' _ => follows_return _

theorem create_transaction (c : Challenge) :
    transaction (createSteps c) = step (create c) := by
  refine transaction_eq fun s => follows_look fun found _ => ?_
  cases found with
  | some _ => exact follows_throw _
  | none =>
    refine follows_look fun address _ => follows_step fun superseded s _ =>
      follows_step fun sequence s _ => follows_write fun history _ => ?_
    exact follows_change fun s _ => follows_change fun s _ => follows_return superseded

theorem update_transaction {α : Type} (id : FlowId) (f : Attempt → α × Attempt) :
    transaction (updateSteps id f) = step (update id f) := by
  refine transaction_eq fun s => follows_look fun found _ => ?_
  cases found with
  | none => exact follows_throw _
  | some challenge =>
    refine follows_look fun address _ => follows_change fun s _ => ?_
    by_cases hsame : (f ⟨challenge, address⟩).2.address = address
    · rw [if_pos hsame]
      simp only [hsame, ne_eq, not_true_eq_false, if_false]
      exact follows_return _
    · rw [if_neg hsame]
      simp only [hsame, ne_eq, not_false_eq_true, if_true]
      exact follows_change fun s _ => follows_return _

end Durable.Ledger

/-! ## Both kinds -/

/-- The calls that change a store of addresses and challenges, as they run. -/
class RunningStore (σ : Type) [VerificationStore σ] where
  upsert : Address → Program σ Upserted
  create : Challenge → Program σ (Option Challenge)
  complete : FlowId → Timestamp → Program σ Completion
  failAttempt : FlowId → Timestamp → Program σ FailedAttempt
  expire : FlowId → ExpiredReason → Timestamp → Program σ Challenge
  upsert_eq (a : Address) : upsert a = step (VerificationStore.upsert a)
  create_eq (c : Challenge) : create c = step (VerificationStore.create c)
  complete_eq (f : FlowId) (now : Timestamp) :
    complete f now = step (VerificationStore.complete f now)
  failAttempt_eq (f : FlowId) (now : Timestamp) :
    failAttempt f now = step (VerificationStore.failAttempt f now)
  expire_eq (f : FlowId) (reason : ExpiredReason) (now : Timestamp) :
    expire f reason now = step (VerificationStore.expire f reason now)

instance : RunningStore MemoryStore where
  upsert := MemoryStore.upsertInPlace
  create := MemoryStore.createInPlace
  complete f now := MemoryStore.updateInPlace f fun p => p.complete now
  failAttempt f now := MemoryStore.updateInPlace f fun p => p.fail now
  expire f reason now := MemoryStore.updateInPlace f fun p =>
    ((p.expire reason now).challenge, p.expire reason now)
  upsert_eq := MemoryStore.upsertInPlace_eq
  create_eq := MemoryStore.createInPlace_eq
  complete_eq _ _ := MemoryStore.updateInPlace_eq ..
  failAttempt_eq _ _ := MemoryStore.updateInPlace_eq ..
  expire_eq _ _ _ := MemoryStore.updateInPlace_eq ..

instance : RunningStore Durable.Ledger where
  upsert a := transaction (Durable.Ledger.upsertSteps a)
  create c := transaction (Durable.Ledger.createSteps c)
  complete f now := transaction (Durable.Ledger.updateSteps f fun p => p.complete now)
  failAttempt f now := transaction (Durable.Ledger.updateSteps f fun p => p.fail now)
  expire f reason now := transaction (Durable.Ledger.updateSteps f fun p =>
    ((p.expire reason now).challenge, p.expire reason now))
  upsert_eq := Durable.Ledger.upsert_transaction
  create_eq := Durable.Ledger.create_transaction
  complete_eq _ _ := Durable.Ledger.update_transaction ..
  failAttempt_eq _ _ := Durable.Ledger.update_transaction ..
  expire_eq _ _ _ := Durable.Ledger.update_transaction ..

end Vouch
