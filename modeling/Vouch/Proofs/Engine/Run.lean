import Mathlib.Logic.Relation
import Vouch.Memory.Store
import Vouch.Proofs.Engine.Operation

/-!
# Runs of the engine

Operations in any order, and between them whatever happens outside: identities are edited, mail is
sent, the clock is set forwards or backwards.  What every operation keeps of a store is kept by
every run; requests by value and the hooks are no more than their operations one after another.
-/

namespace Vouch

open Vouch.Action

/-- What the engine does for several addresses, one after another. -/
inductive Batch where
  | requestByValue (channel : Channel) (raw : String)
  | afterRegistration (id : IdentityId)
  | afterSettings (id : IdentityId)

namespace Batch

variable {σ ι τ : Type} [VerificationStore σ] [IdentityStore ι]

/-- A resend for everyone who has an address with a value. -/
def resends (w : World σ ι τ) (channel : Channel) : Except InputError Contact → List Operation
  | .error _ => []
  | .ok value =>
    match VerificationStore.addressesWith channel value w.store with
    | .error _ => []
    | .ok owners => owners.map fun owner => .resend owner.identity channel value

/-- The addresses that an identity declares, none if there is no such identity. -/
def declared (w : World σ ι τ) (id : IdentityId) : List DeclaredAddress :=
  match IdentityStore.declaredBy id w.identities with
  | .ok declared => declared
  | .error _ => []

/-- The operations that a batch is about to perform. -/
def operations (w : World σ ι τ) : Batch → List Operation
  | .requestByValue channel raw => resends w channel (Contact.parse channel raw)
  | .afterRegistration id => (declared w id).map fun declared => .request id declared
  | .afterSettings id => (declared w id).map fun declared => .traitsChanged id declared

/-- A notice to a value, if nobody has an address with it. -/
def notice (w : World σ ι τ) (channel : Channel) : Except InputError Contact → List Mail
  | .error _ => []
  | .ok value =>
    match VerificationStore.addressesWith channel value w.store with
    | .ok [] => [.unknownAddress value]
    | _ => []

/-- The notices that a batch is about to send. -/
def notices (w : World σ ι τ) : Batch → List Mail
  | .requestByValue channel raw => notice w channel (Contact.parse channel raw)
  | .afterRegistration _ => []
  | .afterSettings _ => []

def perform [MailTransport τ] (e : Engine) (w : World σ ι τ) :
    Batch → Except VerificationError (List RequestOutcome) × World σ ι τ
  | .requestByValue channel raw => (e.requestByValue channel raw).perform w
  | .afterRegistration id => (e.afterRegistration id).perform w
  | .afterSettings id => (e.afterSettings id).perform w

end Batch

namespace Engine

variable {σ ι τ : Type} [VerificationStore σ] [IdentityStore ι] [MailTransport τ]

/-- No identifier is taken that is drawn by operations one after another, as far as the first one
that fails. -/
def DrawUnknown (e : Engine) : List Operation → World σ ι τ → Prop
  | [], _ => True
  | op :: ops, w => w.DrawsUnknown (op.perform e w).2 ∧
    ∀ outcome, (op.perform e w).1 = .requested (.ok outcome) → e.DrawUnknown ops (op.perform e w).2

/-- Operations one after another are possible, as far as the first one that fails. -/
def AllPossible (e : Engine) : List Operation → World σ ι τ → Prop
  | [], _ => True
  | op :: ops, w => op.Possible e w ∧
    ∀ outcome, (op.perform e w).1 = .requested (.ok outcome) → e.AllPossible ops (op.perform e w).2

/-- An operation, or anything that leaves the store alone. -/
inductive Step (e : Engine) : World σ ι τ → World σ ι τ → Prop where
  | operation {w : World σ ι τ} {op : Operation} : op.Possible e w → Step e w (op.perform e w).2
  | outside {w w' : World σ ι τ} : w'.store = w.store → Step e w w'

/-- What can happen to a world: a step, or a batch as a whole. -/
inductive Event (e : Engine) : World σ ι τ → World σ ι τ → Prop where
  | step {w w' : World σ ι τ} : e.Step w w' → Event e w w'
  | batch {w : World σ ι τ} {b : Batch} : e.DrawUnknown (b.operations w) w →
    Event e w (b.perform e w).2

/-- One event after another. -/
def Run (e : Engine) : World σ ι τ → World σ ι τ → Prop :=
  Relation.ReflTransGen e.Event

/-- A property of stores that every operation keeps. -/
def Keeps (e : Engine) (P : MemoryStore → Prop) : Prop :=
  ∀ {m m' : MemoryStore} {now : Timestamp} {op : Operation} {answer : Answer}, m.Intact →
    m'.Intact → P m → op.Ends e m now answer m' → P m'

variable [Backend σ]

/-- What a run can lead to that begins with an empty store. -/
def Reachable (e : Engine) (w : World σ ι τ) : Prop :=
  ∃ w₀ : World σ ι τ, w₀.store = Backend.empty ∧ e.Run w₀ w

variable {e : Engine} {w w' : World σ ι τ} {m : MemoryStore} {P : MemoryStore → Prop}

theorem Keeps.and {Q : MemoryStore → Prop} (hP : e.Keeps P) (hQ : e.Keeps Q) :
    e.Keeps fun m => P m ∧ Q m := by
  intro m m' now op answer hi hi' hm hends
  exact ⟨hP hi hi' hm.1 hends, hQ hi hi' hm.2 hends⟩

/-! ## Batches are steps one after another -/

omit [Backend σ] in
-- Operations whose identifiers are not taken are possible one after another, if something holds all
-- the way that lets each of them be aimed.
theorem allPossible_of_aimed {I : World σ ι τ → Prop} {ops : List Operation}
    (haimed : ∀ op ∈ ops, ∀ {w}, I w → op.Aimed w)
    (hkeeps : ∀ op ∈ ops, ∀ {w}, I w → op.Possible e w → I (op.perform e w).2)
    (hI : I w) (hdraws : e.DrawUnknown ops w) : e.AllPossible ops w := by
  induction ops generalizing w with
  | nil => trivial
  | cons op ops ih =>
    have hpossible : op.Possible e w := ⟨hdraws.1, haimed op List.mem_cons_self hI⟩
    refine ⟨hpossible, fun outcome houtcome => ?_⟩
    exact ih (fun op hop => haimed op (List.mem_cons_of_mem _ hop))
      (fun op hop => hkeeps op (List.mem_cons_of_mem _ hop))
      (hkeeps op List.mem_cons_self hI hpossible) (hdraws.2 outcome houtcome)

omit [Backend σ] in
-- The actions on a list are operations one after another.
theorem mapM_steps {α : Type} {f : α → Action σ ι τ RequestOutcome} {g : α → Operation}
    {R : World σ ι τ → World σ ι τ → Prop} {l : List α}
    (hperform : ∀ a w, (g a).perform e w = ((f a).perform w).map .requested id)
    (hR : ∀ op ∈ l.map g, ∀ {w}, op.Possible e w → R w (op.perform e w).2)
    (hpossible : e.AllPossible (l.map g) w) :
    Relation.ReflTransGen R w ((l.mapM f).perform w).2 := by
  induction l generalizing w with
  | nil => exact .refl
  | cons a l ih =>
    have hstep := hR (g a) List.mem_cons_self hpossible.1
    have hrest := hpossible.2
    rw [hperform a w] at hstep hrest
    rw [List.mapM_cons]
    cases hrun : f a w with
    | error error =>
      -- the first error ends the loop, and what was done before it stays done
      rw [perform_of_error hrun] at hstep
      rw [perform_of_error (bind_of_error hrun)]
      exact .single hstep
    | ok outcome w₁ =>
      rw [perform_of_ok hrun] at hstep hrest
      rw [perform_congr (bind_of_ok hrun), perform_return]
      exact .head hstep (ih (fun op hop => hR op (List.mem_cons_of_mem _ hop)) (hrest outcome rfl))

-- A request changes the value of no address that has the requested one.
theorem Ensures.account {slot : Slot} {value : Contact} {now : Timestamp}
    {outcome : Except VerificationError RequestOutcome} {m' : MemoryStore}
    (h : e.Ensures m slot value now outcome m') {id : AddressId} {acc : Account}
    (hacc : m.account? id = some acc) (hvalue : acc.record.value = value) :
    ∃ acc', m'.account? id = some acc' ∧ acc'.record.slot = acc.record.slot ∧
      acc'.record.value = value := by
  cases h with
  | refused => exact ⟨acc, hacc, rfl, hvalue⟩
  | alreadyVerified => exact ⟨acc, hacc, rfl, hvalue⟩
  | resent => exact ⟨acc, hacc, rfl, hvalue⟩
  | @issued id' acc' c token code m' haddressed _ _ hc hsets =>
    have hid := hsets id
    by_cases hsame : id = id'
    · subst hsame
      rw [if_pos rfl] at hid
      cases haddressed with
      | known hacc' _ =>
        rw [hacc] at hacc'
        cases hacc'
        exact ⟨_, hid, rfl, by rw [Account.issue, hc]; rfl⟩
      | fresh _ hnone =>
        rw [hacc] at hnone
        cases hnone
    · rw [if_neg hsame] at hid
      exact ⟨acc, hid.trans hacc, rfl, hvalue⟩

-- Whoever has an address with a value still has it when the request by value comes to them.
theorem resends_possible {channel : Channel} {value : Contact} {owners : List Address}
    (howners : ∀ a ∈ owners, m.addresses.get? a.id = some a ∧ a.channel = channel ∧ a.value = value)
    (h : Backend.Shows w.store m)
    (hdraws : e.DrawUnknown (owners.map fun a => .resend a.identity channel value) w) :
    e.AllPossible (owners.map fun a => .resend a.identity channel value) w := by
  -- what holds all the way is that nobody's value has changed
  let HaveValue (w : World σ ι τ) : Prop := ∃ m, Backend.Shows w.store m ∧
    ∀ a ∈ owners, ∃ acc, m.account? a.id = some acc ∧
      acc.record.slot = ⟨a.identity, channel⟩ ∧ acc.record.value = value
  have hhave : HaveValue w := by
    refine ⟨m, h, fun a ha => ?_⟩
    obtain ⟨hget, rfl, hvalue⟩ := howners a ha
    exact ⟨_, MemoryStore.account?_of_get? hget, rfl, hvalue⟩
  refine allPossible_of_aimed (I := HaveValue) (fun op hop w hw => ?_) (fun op hop w hw => ?_)
    hhave hdraws
  · obtain ⟨a, ha, rfl⟩ := List.mem_map.mp hop
    obtain ⟨m, hshows, hvalues⟩ := hw
    obtain ⟨acc, hacc, hslot, hvalue⟩ := hvalues a ha
    have hget := MemoryStore.get?_of_account? hacc
    refine ⟨acc.record, ?_, hvalue⟩
    rw [Backend.addressIn?_eq hshows, (Backend.intact hshows).slot_iff.mpr ⟨_, hget, hslot⟩]
    exact congrArg Except.ok hget
  · obtain ⟨a, -, rfl⟩ := List.mem_map.mp hop
    obtain ⟨m, hshows, hvalues⟩ := hw
    intro hpossible
    obtain ⟨m', hshows', hends⟩ := Operation.perform_ends e hshows hpossible
    refine ⟨m', hshows', fun b hb => ?_⟩
    obtain ⟨acc, hacc, hslot, hvalue⟩ := hvalues b hb
    generalize (Operation.perform e w (.resend a.identity channel value)).1 = answer at hends
    cases hends with
    | refused hdeclares => cases hdeclares
    | declared hdeclares => cases hdeclares
    | resent _ _ _ hensures =>
      obtain ⟨acc', hacc', hslot', hvalue'⟩ := hensures.account hacc hvalue
      exact ⟨acc', hacc', hslot'.trans hslot, hvalue'⟩

/-- The operations of a batch are possible one after another. -/
theorem batch_possible (h : Backend.Shows w.store m) {b : Batch}
    (hdraws : e.DrawUnknown (b.operations w) w) : e.AllPossible (b.operations w) w := by
  cases b with
  | requestByValue channel raw =>
    rw [Batch.operations] at hdraws ⊢
    cases hparse : Contact.parse channel raw with
    | error cause => trivial
    | ok value =>
      obtain ⟨owners, hread, -, howners⟩ := Backend.addressesWith_eq h channel value
      rw [hparse, Batch.resends, hread] at hdraws
      rw [Batch.resends, hread]
      exact resends_possible (fun a ha => (howners a).mp ha) h hdraws
  | afterRegistration id =>
    refine allPossible_of_aimed (I := fun _ => True) (fun op hop _ _ => ?_)
      (fun _ _ _ _ _ => trivial) trivial hdraws
    obtain ⟨declared, -, rfl⟩ := List.mem_map.mp hop
    trivial
  | afterSettings id =>
    refine allPossible_of_aimed (I := fun _ => True) (fun op hop _ _ => ?_)
      (fun _ _ _ _ _ => trivial) trivial hdraws
    obtain ⟨declared, -, rfl⟩ := List.mem_map.mp hop
    trivial

omit [VerificationStore σ] [MailTransport τ] [Backend σ] in
-- The addresses that an identity declares are those that its store names.
theorem declaredAddresses_run (id : IdentityId) :
    (∃ error, (declaredAddresses id : Action σ ι τ (List DeclaredAddress)) w = .error error w) ∧
        Batch.declared w id = [] ∨
      (declaredAddresses id : Action σ ι τ (List DeclaredAddress)) w =
        .ok (Batch.declared w id) w := by
  have hget : (get : Action σ ι τ (World σ ι τ)) w = .ok w w := rfl
  have hidentity : (identity id : Action σ ι τ Identity) w = _ := bind_of_ok hget
  rw [Batch.declared, IdentityStore.declaredBy]
  cases hread : IdentityStore.identity? id w.identities with
  | error e =>
    rw [hread] at hidentity
    exact .inl ⟨⟨.store e, bind_of_error hidentity⟩, rfl⟩
  | ok found =>
    rw [hread] at hidentity
    cases found with
    | none => exact .inl ⟨⟨.identityNotFound id, bind_of_error hidentity⟩, rfl⟩
    | some i => exact .inr (bind_of_ok hidentity)

omit [IdentityStore ι] [Backend σ] in
theorem requestByValue_unparsed (e : Engine) {channel : Channel} {raw : String} {cause : InputError}
    (hparse : Contact.parse channel raw = .error cause) :
    (e.requestByValue channel raw : Action σ ι τ (List RequestOutcome)) w =
      .error (.invalidAddress cause) w := by
  rw [requestByValue, hparse]
  rfl

omit [IdentityStore ι] [Backend σ] in
-- What follows once the owners of a value are known.
theorem requestByValue_run (e : Engine) {channel : Channel} {raw : String} {value : Contact}
    {owners : List Address} (hparse : Contact.parse channel raw = .ok value)
    (hread : VerificationStore.addressesWith channel value w.store = .ok owners) :
    (e.requestByValue channel raw : Action σ ι τ (List RequestOutcome)) w =
      (if owners.isEmpty then do
        send (.unknownAddress value)
        return []
      else owners.mapM fun a => e.ensureChallenge ⟨a.identity, channel⟩ value :
        Action σ ι τ (List RequestOutcome)) w := by
  rw [requestByValue, hparse]
  exact bind_of_ok (readStore_of_ok hread)

/-- A batch is a notice or nothing at all, or it is its operations one after another. -/
theorem batch_performs (e : Engine) (h : Backend.Shows w.store m) (b : Batch) :
    b.operations w = [] ∧ (b.perform e w).2 =
        { w with mailer := MailTransport.deliver w.now (b.notices w) w.mailer } ∨
      b.notices w = [] ∧ ∃ (α : Type) (f : α → Action σ ι τ RequestOutcome) (g : α → Operation)
        (l : List α), (∀ a w, (g a).perform e w = ((f a).perform w).map .requested id) ∧
          b.operations w = l.map g ∧ b.perform e w = (l.mapM f).perform w := by
  cases b with
  | requestByValue channel raw =>
    cases hparse : Contact.parse channel raw with
    | error cause =>
      have hrun := e.requestByValue_unparsed (w := w) hparse
      refine .inl ⟨by rw [Batch.operations, hparse, Batch.resends], ?_⟩
      rw [Batch.perform, perform_of_error hrun, Batch.notices, hparse, Batch.notice]
      rfl
    | ok value =>
      obtain ⟨owners, hread, -, -⟩ := Backend.addressesWith_eq h channel value
      rw [Batch.perform, perform_congr (e.requestByValue_run hparse hread), Batch.operations,
        Batch.notices, hparse, Batch.resends, Batch.notice, hread]
      cases owners with
      | nil =>
        refine .inl ⟨rfl, ?_⟩
        rw [if_pos List.isEmpty_nil, perform_congr (bind_of_ok (send_run _))]
        rfl
      | cons owner owners =>
        exact .inr ⟨rfl, _, _, _, owner :: owners, fun _ _ => by rw [Operation.perform], rfl, rfl⟩
  | afterRegistration id =>
    rcases declaredAddresses_run (w := w) id with ⟨⟨error, hrun⟩, hnone⟩ | hrun
    · refine .inl ⟨by rw [Batch.operations, hnone, List.map_nil], ?_⟩
      rw [Batch.perform, afterRegistration, perform_of_error (bind_of_error hrun)]
      rfl
    · rw [Batch.perform, afterRegistration, perform_congr (bind_of_ok hrun)]
      exact .inr ⟨rfl, _, _, _, _, fun _ _ => by rw [Operation.perform], rfl, rfl⟩
  | afterSettings id =>
    rcases declaredAddresses_run (w := w) id with ⟨⟨error, hrun⟩, hnone⟩ | hrun
    · refine .inl ⟨by rw [Batch.operations, hnone, List.map_nil], ?_⟩
      rw [Batch.perform, afterSettings, perform_of_error (bind_of_error hrun)]
      rfl
    · rw [Batch.perform, afterSettings, perform_congr (bind_of_ok hrun)]
      exact .inr ⟨rfl, _, _, _, _, fun _ _ => by rw [Operation.perform], rfl, rfl⟩

/-- A batch is no more than its operations one after another, and a notice to a value that nobody
has. -/
theorem batch_within (h : Backend.Shows w.store m) {b : Batch}
    {R : World σ ι τ → World σ ι τ → Prop}
    (hR : ∀ op ∈ b.operations w, ∀ {w}, op.Possible e w → R w (op.perform e w).2)
    (hmailer : ∀ {w : World σ ι τ} {mailer}, R w { w with mailer })
    (hdraws : e.DrawUnknown (b.operations w) w) :
    Relation.ReflTransGen R w (b.perform e w).2 := by
  have hpossible := batch_possible h hdraws
  rcases batch_performs e h b with ⟨-, hworld⟩ | ⟨-, _, f, g, l, hperform, hops, hrun⟩
  · rw [hworld]
    exact .single hmailer
  · rw [hops] at hR hpossible
    rw [hrun]
    exact mapM_steps hperform hR hpossible

theorem batch_steps (h : Backend.Shows w.store m) {b : Batch}
    (hdraws : e.DrawUnknown (b.operations w) w) :
    Relation.ReflTransGen e.Step w (b.perform e w).2 :=
  batch_within h (fun _ _ {_} hop => .operation hop) (.outside rfl) hdraws

/-! ## All runs -/

-- What every operation keeps, steps one after another keep.
theorem steps_keep (hsteps : Relation.ReflTransGen e.Step w w') (hP : e.Keeps P)
    (h : Backend.Shows w.store m) (hm : P m) : ∃ m', Backend.Shows w'.store m' ∧ P m' := by
  induction hsteps with
  | refl => exact ⟨m, h, hm⟩
  | tail _ hstep ih =>
    obtain ⟨m₁, hshows₁, hm₁⟩ := ih
    cases hstep with
    | @operation op hop =>
      obtain ⟨m', hshows', hends⟩ := Operation.perform_ends e hshows₁ hop
      exact ⟨m', hshows', hP (Backend.intact hshows₁) (Backend.intact hshows') hm₁ hends⟩
    | outside hstore =>
      rw [hstore]
      exact ⟨m₁, hshows₁, hm₁⟩

/-- What every operation keeps, a run keeps. -/
theorem Run.keeps (hrun : e.Run w w') (hP : e.Keeps P) (h : Backend.Shows w.store m) (hm : P m) :
    ∃ m', Backend.Shows w'.store m' ∧ P m' := by
  induction hrun with
  | refl => exact ⟨m, h, hm⟩
  | tail _ hevent ih =>
    obtain ⟨m₁, hshows₁, hm₁⟩ := ih
    cases hevent with
    | step hstep => exact steps_keep (.single hstep) hP hshows₁ hm₁
    | batch hdraws => exact steps_keep (batch_steps hshows₁ hdraws) hP hshows₁ hm₁

/-- What the empty store has and every operation keeps, every reachable store has. -/
theorem Reachable.keeps (h : e.Reachable w) (hP : e.Keeps P) (hempty : P .empty) :
    ∃ m, Backend.Shows w.store m ∧ P m := by
  obtain ⟨w₀, hstore, hrun⟩ := h
  refine hrun.keeps hP ?_ hempty
  rw [hstore]
  exact Backend.shows_empty

theorem Reachable.run (h : e.Reachable w) (hrun : e.Run w w') : e.Reachable w' := by
  obtain ⟨w₀, hstore, hrun₀⟩ := h
  exact ⟨w₀, hstore, Relation.ReflTransGen.trans hrun₀ hrun⟩

omit [Backend σ] in
theorem Run.perform {op : Operation} (hop : op.Possible e w) : e.Run w (op.perform e w).2 :=
  .single (.step (.operation hop))

theorem Reachable.perform (h : e.Reachable w) {op : Operation} (hop : op.Possible e w) :
    e.Reachable (op.perform e w).2 :=
  h.run (.perform hop)

end Engine

/-! ## The beginning of a run -/

namespace Sample

def engine : Engine where
  publicUrl :=
    ⟨"https".toList, some ⟨[], [], "vouch.example".toList, none⟩, .segments [[]], none, none⟩
  policy := .standard

def ann : IdentityId := ⟨"ann"⟩

def home : DeclaredAddress := ⟨.email, ⟨"ann@home.example"⟩⟩

/-- An identity with an address, and no verification yet.  The random bytes count upwards. -/
def start : World MemoryStore MemoryIdentities MailRecorder where
  store := .empty
  identities := MemoryIdentities.empty.register ann home
  mailer := .empty
  now := ⟨100⟩
  entropy := ⟨fun i => UInt8.ofNat i, 0⟩

/-- The identifier that is drawn when so many bytes have been drawn before. -/
def drawnAt (kind : IdKind) (drawn : Nat) : Id kind :=
  (Entropy.drawId kind { start.entropy with drawn }).1

/-- The world after the address was to be verified. -/
def requested : World MemoryStore MemoryIdentities MailRecorder :=
  ((Operation.request ann home).perform engine start).2

theorem requested_reachable : engine.Reachable requested :=
  have hstart : engine.Reachable start := ⟨start, rfl, .refl⟩
  hstart.perform ⟨⟨fun _ => rfl, fun _ => rfl⟩, trivial⟩

end Sample

end Vouch
