import Mathlib.Logic.Function.Basic
import Vouch.Proofs.Engine.Callers
import Vouch.Proofs.Engine.Sections

/-!
# Callers in between each other

While a caller is between its lookup and its section, others may pass through theirs.  A section
does not look again at what the identity declares: it binds the slot to the value that the caller
found before.  So the last section that ends well decides which value a slot holds, and the last
section that writes the traits decides which one is declared.  The two agree as long as nobody
enters a slot with a value that is declared no longer.
-/

namespace Vouch

open Vouch.Action

/-! ## Sections -/

/-- Who passes through a section of a slot, and what for. -/
inductive Visitor where
  -- A request, for a value that was looked up before.
  | request
  -- A hook that takes note of what it looked up before.
  | hook
  -- A caller who asked for the change.
  | caller
  deriving DecidableEq, Repr

/-- A section that somebody passed through. -/
structure Visit where
  slot : Slot
  value : Contact
  visitor : Visitor
  /-- What was declared for the slot when the section began. -/
  found : Option Contact
  /-- Whether the section has left its value declared for the slot. -/
  wrote : Bool
  /-- Whether the section has ended without an error. -/
  ended : Bool

/-- The section ended well, and its value was asked for by a caller or is the one that was declared
when it began. -/
def Visit.UpToDate (v : Visit) : Prop :=
  v.ended = true ∧ (v.visitor = .caller ∨ v.found = some v.value)

namespace Caller

variable {σ ι τ : Type} [VerificationStore σ] [IdentityStore ι] [MailTransport τ]

/-- The section that a caller passes through in its next step, if it does. -/
def visit? (e : Engine) (w : World σ ι τ) : Caller → Option Visit
  | .ensure slot value _ => some {
      slot, value
      visitor := .request
      found := w.declared? slot
      wrote := false
      ended := ((e.ensureChallenge slot value).perform w).1.isOk }
  | .edit byHook id declared _ =>
    let slot : Slot := ⟨id, declared.channel⟩
    let result := (e.traitsChanged id declared).perform w
    some {
      slot
      value := declared.value
      visitor := if byHook then .hook else .caller
      found := w.declared? slot
      wrote := result.2.declared? slot = some declared.value
      ended := result.1.isOk }
  | _ => none

end Caller

/-- What a section does to the slots and to what is declared for them. -/
structure Visit.Leads {σ ι τ : Type} [VerificationStore σ] [IdentityStore ι] (v : Visit)
    (w w' : World σ ι τ) : Prop where
  found : v.found = w.declared? v.slot
  bound (slot : Slot) :
    w'.bound? slot = if slot = v.slot ∧ v.ended = true then some v.value else w.bound? slot
  declared (slot : Slot) :
    w'.declared? slot = if slot = v.slot ∧ v.wrote = true then some v.value else w.declared? slot
  request : v.visitor = .request → v.wrote = false
  edit : v.visitor ≠ .request → v.ended = true → v.wrote = true

/-! ## What is still to be declared -/

/-- Whatever a caller has still to declare can be kept. -/
inductive Caller.Storable (ι : Type) [IdentityStore ι] [Registry ι] : Caller → Prop where
  | done : Storable ι .done
  | request {id : IdentityId} {declared : DeclaredAddress} {next : Caller} :
    Storable ι next → Storable ι (.request id declared next)
  | ensure {slot : Slot} {value : Contact} {next : Caller} :
    Storable ι next → Storable ι (.ensure slot value next)
  | edit {byHook : Bool} {id : IdentityId} {declared : DeclaredAddress} {next : Caller} :
    Registry.Storable ι ⟨id, ⟨[declared]⟩⟩ → Storable ι next →
      Storable ι (.edit byHook id declared next)
  | byValue {channel : Channel} {raw : String} : Storable ι (.byValue channel raw)
  | registered {id : IdentityId} : Storable ι (.registered id)
  | settled {id : IdentityId} : Storable ι (.settled id)

-- In memory everything can be kept.
theorem Caller.storable_memory (c : Caller) : c.Storable MemoryIdentities := by
  induction c with
  | done => exact .done
  | request _ _ _ ih => exact .request ih
  | ensure _ _ _ ih => exact .ensure ih
  | edit _ _ _ _ ih => exact .edit trivial ih
  | byValue => exact .byValue
  | registered => exact .registered
  | settled => exact .settled

theorem Caller.storable_foldr {ι α : Type} [IdentityStore ι] [Registry ι]
    {enter : α → Caller → Caller} {l : List α}
    (h : ∀ a ∈ l, ∀ next : Caller, next.Storable ι → (enter a next).Storable ι) :
    (l.foldr enter .done).Storable ι := by
  induction l with
  | nil => exact .done
  | cons a l ih =>
    exact h a List.mem_cons_self _ (ih fun b hb => h b (List.mem_cons_of_mem a hb))

section Steps

variable {σ ι τ : Type} [VerificationStore σ] [IdentityStore ι] [MailTransport τ] [Backend σ]
  {e : Engine} {w : World σ ι τ} {m : MemoryStore} {slot : Slot} {value : Contact}

theorem Caller.ensure_leads (h : Backend.Shows w.store m) (next : Caller)
    (hdraws : w.DrawsUnknown ((ensure slot value next).step e w).2) :
    (∃ m', Backend.Shows ((ensure slot value next).step e w).2.store m') ∧
      ∀ v ∈ (ensure slot value next).visit? e w, v.Leads w ((ensure slot value next).step e w).2 := by
  rw [step, follow_world] at hdraws ⊢
  obtain ⟨hshows, hbound⟩ := Engine.ensureChallenge_binds h hdraws
  refine ⟨hshows, fun v hv => ?_⟩
  cases hv
  refine ⟨rfl, hbound, fun slot' => ?_, fun _ => rfl, fun hne => absurd rfl hne⟩
  rw [if_neg fun hwrote => Bool.false_ne_true hwrote.2]
  exact World.declared?_congr (Engine.sparesIdentities_ensureChallenge e slot value w) slot'

theorem Caller.edit_leads [Registry ι] [KeepingRegistry ι] (h : Backend.Shows w.store m)
    (hregistry : Registry.Sound w.identities) (byHook : Bool) {id : IdentityId}
    {declared : DeclaredAddress} (hstorable : Registry.Storable ι ⟨id, ⟨[declared]⟩⟩)
    (next : Caller) (hdraws : w.DrawsUnknown ((edit byHook id declared next).step e w).2) :
    (∃ m', Backend.Shows ((edit byHook id declared next).step e w).2.store m') ∧
      Registry.Sound ((edit byHook id declared next).step e w).2.identities ∧
      ∀ v ∈ (edit byHook id declared next).visit? e w,
        v.Leads w ((edit byHook id declared next).step e w).2 := by
  rw [step, follow_world] at hdraws ⊢
  obtain ⟨hshows, hregistry', hbound, hdeclared⟩ :=
    Engine.traitsChanged_leads h hregistry hstorable hdraws
  refine ⟨hshows, hregistry', fun v hv => ?_⟩
  cases hv
  refine ⟨rfl, hbound, fun slot' => ?_, fun hrequest => ?_, fun _ hended => ?_⟩
  · show _ = if slot' = ⟨id, declared.channel⟩ ∧
      decide (World.declared? ⟨id, declared.channel⟩ _ = some declared.value) = true
      then some declared.value else _
    rcases hdeclared with ⟨-, hsame⟩ | hdeclared
    · split
      · rename_i hwrote
        rw [hwrote.1]
        exact of_decide_eq_true hwrote.2
      · exact World.declared?_congr hsame slot'
    · have hwrote := (hdeclared ⟨id, declared.channel⟩).trans (if_pos rfl)
      rw [hdeclared slot']
      simp only [decide_eq_true hwrote, and_true]
  · cases byHook <;> cases hrequest
  · rcases hdeclared with ⟨hfailed, -⟩ | hdeclared
    · rw [hfailed] at hended
      cases hended
    · exact decide_eq_true ((hdeclared ⟨id, declared.channel⟩).trans (if_pos rfl))

/-! ## Lookups -/

omit [VerificationStore σ] [MailTransport τ] [Backend σ] in
theorem Engine.checkDeclared_unchanged (id : IdentityId) (declared : DeclaredAddress) :
    ((checkDeclared id declared : Action σ ι τ Unit).perform w).2 = w := by
  rcases identity_run (w := w) id with ⟨i, -, hi⟩ | ⟨error, hi⟩
  · rw [checkDeclared, perform_congr (bind_of_ok hi)]
    split <;> rfl
  · rw [checkDeclared, perform_of_error (bind_of_error hi)]

omit [VerificationStore σ] [MailTransport τ] [Backend σ] in
theorem Engine.declaredAddresses_unchanged (id : IdentityId) :
    ((declaredAddresses id : Action σ ι τ (List DeclaredAddress)).perform w).2 = w := by
  rcases declaredAddresses_run (w := w) id with ⟨⟨error, hrun⟩, -⟩ | hrun
  · rw [perform_of_error hrun]
  · rw [perform_of_ok hrun]

omit [IdentityStore ι] [Backend σ] in
-- Looking for the owners of a value changes nothing but what was mailed.
theorem Engine.findOwners_unchanged (channel : Channel) (raw : String) :
    ∃ mailer, ((findOwners channel raw : Action σ ι τ _).perform w).2 = { w with mailer } := by
  rw [findOwners]
  cases Contact.parse channel raw with
  | error cause => exact ⟨w.mailer, rfl⟩
  | ok value =>
    have hvalue : (ofExcept ((Except.ok value : Except InputError Contact).mapError
        .invalidAddress) : Action σ ι τ Contact) w = .ok value w := rfl
    rw [perform_congr (bind_of_ok hvalue)]
    cases hread : VerificationStore.addressesWith channel value w.store with
    | error error =>
      rw [perform_of_error (bind_of_error (readStore_of_error hread))]
      exact ⟨w.mailer, rfl⟩
    | ok owners =>
      rw [perform_congr (bind_of_ok (readStore_of_ok hread))]
      by_cases hnobody : owners.isEmpty = true
      · rw [if_pos hnobody, perform_congr (bind_of_ok (send_run _))]
        exact ⟨_, rfl⟩
      · rw [if_neg hnobody]
        exact ⟨w.mailer, rfl⟩

omit [Backend σ] in
-- A lookup changes neither what is bound nor what is declared.
theorem Caller.lookup_unchanged (c : Caller) (hlookup : c.visit? e w = none) :
    ∃ mailer, (c.step e w).2 = { w with mailer } := by
  cases c with
  | done => exact ⟨w.mailer, rfl⟩
  | request id declared next =>
    rw [step, follow_world, Engine.checkDeclared_unchanged]
    exact ⟨w.mailer, rfl⟩
  | ensure => cases hlookup
  | edit => cases hlookup
  | byValue channel raw =>
    rw [step, follow_world]
    exact Engine.findOwners_unchanged channel raw
  | registered id =>
    rw [step, follow_world, Engine.declaredAddresses_unchanged]
    exact ⟨w.mailer, rfl⟩
  | settled id =>
    rw [step, follow_world, Engine.declaredAddresses_unchanged]
    exact ⟨w.mailer, rfl⟩

/-! ## One step -/

variable [Registry ι]

omit [VerificationStore σ] [MailTransport τ] [Backend σ] in
theorem Batch.storable_of_declared [KeepingRegistry ι] (hregistry : Registry.Sound w.identities)
    {id : IdentityId} {d : DeclaredAddress} (hd : d ∈ Batch.declared w id) :
    Registry.Storable ι ⟨id, ⟨[d]⟩⟩ := by
  rw [declared, IdentityStore.declaredBy] at hd
  rcases hread : IdentityStore.identity? id w.identities with error | (_ | i)
  · rw [hread] at hd
    cases hd
  · rw [hread] at hd
    cases hd
  · rw [hread] at hd
    exact KeepingRegistry.storable_declared
      (KeepingRegistry.storable_of_stored hregistry hread) hd

omit [Backend σ] in
-- A caller that has looked up what is declared goes on with what is stored already.
theorem Caller.step_storable [KeepingRegistry ι] (hregistry : Registry.Sound w.identities)
    {c : Caller} (hc : c.Storable ι) : (c.step e w).1.Storable ι := by
  cases hc with
  | done => exact .done
  | request hnext =>
    rw [step]
    exact follow_caller .done fun _ _ _ => .ensure hnext
  | ensure hnext =>
    rw [step]
    exact follow_caller .done fun _ _ _ => hnext
  | edit _ hnext =>
    rw [step]
    exact follow_caller .done fun _ _ _ => hnext
  | byValue =>
    rw [step]
    exact follow_caller .done fun _ _ _ => storable_foldr fun _ _ _ hnext => .ensure hnext
  | registered =>
    rw [step]
    exact follow_caller .done fun _ _ _ => storable_foldr fun _ _ _ hnext => .request hnext
  | @settled id =>
    rw [step]
    refine follow_caller .done fun found w' hrun =>
      storable_foldr fun d hd next hnext => .edit ?_ hnext
    rcases Engine.declaredAddresses_run (σ := σ) (w := w) id with ⟨⟨error, hfailed⟩, -⟩ | hdeclared
    · rw [hfailed] at hrun
      cases hrun
    · rw [hdeclared] at hrun
      cases hrun
      exact Batch.storable_of_declared hregistry hd

/-- What a step of a caller leads to: that of a section, or nothing new. -/
theorem Caller.step_leads [KeepingRegistry ι] (h : Backend.Shows w.store m)
    (hregistry : Registry.Sound w.identities) {c : Caller} (hc : c.Storable ι)
    (hdraws : w.DrawsUnknown (c.step e w).2) :
    (∃ m', Backend.Shows (c.step e w).2.store m') ∧ Registry.Sound (c.step e w).2.identities ∧
      ((∃ v, c.visit? e w = some v ∧ v.Leads w (c.step e w).2) ∨
        c.visit? e w = none ∧ ∃ mailer, (c.step e w).2 = { w with mailer }) := by
  cases hvisit : c.visit? e w with
  | none =>
    obtain ⟨mailer, hsame⟩ := c.lookup_unchanged hvisit
    rw [hsame]
    exact ⟨⟨m, h⟩, hregistry, .inr ⟨rfl, mailer, rfl⟩⟩
  | some v =>
    cases c with
    | ensure slot value next =>
      obtain ⟨hshows, hleads⟩ := ensure_leads h next hdraws
      refine ⟨hshows, ?_, .inl ⟨v, rfl, hleads v hvisit⟩⟩
      rw [step, follow_world, Engine.sparesIdentities_ensureChallenge e slot value w]
      exact hregistry
    | edit byHook id declared next =>
      cases hc with
      | edit hstorable _ =>
        obtain ⟨hshows, hregistry', hleads⟩ :=
          edit_leads h hregistry byHook hstorable next hdraws
        exact ⟨hshows, hregistry', .inl ⟨v, rfl, hleads v hvisit⟩⟩
    | _ => cases hvisit

end Steps

/-! ## Many callers -/

/-- Callers that work on one world, and the sections that they have passed through, the last one
first. -/
structure Scene (κ σ ι τ : Type) where
  callers : κ → Caller
  world : World σ ι τ
  visits : List Visit

namespace Scene

variable {κ σ ι τ : Type}

def visitsTo (slot : Slot) (s : Scene κ σ ι τ) : List Visit :=
  s.visits.filter (·.slot = slot)

/-- One of the callers takes its next step. -/
def next [DecidableEq κ] [VerificationStore σ] [IdentityStore ι] [MailTransport τ] (e : Engine)
    (k : κ) (s : Scene κ σ ι τ) : Scene κ σ ι τ where
  callers := Function.update s.callers k ((s.callers k).step e s.world).1
  world := ((s.callers k).step e s.world).2
  visits := ((s.callers k).visit? e s.world).toList ++ s.visits

/-- Somebody's turn: one of the callers, or anything that leaves both stores alone. -/
inductive Turn [DecidableEq κ] [VerificationStore σ] [IdentityStore ι] [MailTransport τ]
    (e : Engine) : Scene κ σ ι τ → Scene κ σ ι τ → Prop where
  | caller {s : Scene κ σ ι τ} (k : κ) :
    s.world.DrawsUnknown (s.next e k).world → Turn e s (s.next e k)
  | outside {s : Scene κ σ ι τ} {w : World σ ι τ} :
    w.store = s.world.store → w.identities = s.world.identities →
      Turn e s { s with world := w }

/-- How far the slot and what is declared for it follow from the sections that were passed
through. -/
structure Follows [VerificationStore σ] [IdentityStore ι] (slot : Slot) (start : World σ ι τ)
    (w : World σ ι τ) (visits : List Visit) : Prop where
  bound : w.bound? slot = ((visits.find? (·.ended)).map (·.value)).or (start.bound? slot)
  declared : w.declared? slot = ((visits.find? (·.wrote)).map (·.value)).or (start.declared? slot)
  /-- A request never writes the traits; a change of traits does, unless it fails before. -/
  wrote : ∀ v ∈ visits, (v.visitor = .request → v.wrote = false) ∧
    (v.visitor ≠ .request → v.ended = true → v.wrote = true)
  agrees : (∀ v ∈ visits, v.UpToDate) → visits ≠ [] →
    ∃ value, w.bound? slot = some value ∧ w.declared? slot = some value ∧
      ∀ v, visits.find? (·.visitor = .caller) = some v → v.value = value

variable [VerificationStore σ] [IdentityStore ι] {slot : Slot} {start w w' : World σ ι τ}
  {visits : List Visit} {v : Visit}

theorem follows_start (slot : Slot) (w : World σ ι τ) : Follows slot w w [] where
  bound := rfl
  declared := rfl
  wrote _ hv := (nomatch hv)
  agrees _ hne := absurd rfl hne

theorem Follows.congr (h : Follows slot start w visits) (hstore : w'.store = w.store)
    (hidentities : w'.identities = w.identities) : Follows slot start w' visits where
  bound := (World.bound?_congr hstore slot).trans h.bound
  declared := (World.declared?_congr hidentities slot).trans h.declared
  wrote := h.wrote
  agrees hvisits hne := by
    rw [World.bound?_congr hstore, World.declared?_congr hidentities]
    exact h.agrees hvisits hne

-- A section of another slot.
theorem Follows.pass (h : Follows slot start w visits) (hv : v.Leads w w') (hslot : v.slot ≠ slot) :
    Follows slot start w' visits := by
  have hbound : w'.bound? slot = w.bound? slot :=
    (hv.bound slot).trans (if_neg fun hsame => hslot hsame.1.symm)
  have hdeclared : w'.declared? slot = w.declared? slot :=
    (hv.declared slot).trans (if_neg fun hsame => hslot hsame.1.symm)
  refine ⟨hbound.trans h.bound, hdeclared.trans h.declared, h.wrote, fun hvisits hne => ?_⟩
  rw [hbound, hdeclared]
  exact h.agrees hvisits hne

-- A section of the slot.
theorem Follows.visit (h : Follows slot start w visits) (hv : v.Leads w w') (hslot : v.slot = slot) :
    Follows slot start w' (v :: visits) where
  bound := by
    rw [hv.bound slot, List.find?_cons, h.bound]
    cases v.ended <;> simp [hslot]
  declared := by
    rw [hv.declared slot, List.find?_cons, h.declared]
    cases v.wrote <;> simp [hslot]
  wrote := by
    intro u hu
    rcases List.mem_cons.mp hu with rfl | hu
    · exact ⟨hv.request, hv.edit⟩
    · exact h.wrote u hu
  agrees hvisits _ := by
    obtain ⟨hended, hasked⟩ := hvisits v List.mem_cons_self
    have hfound : v.found = w.declared? slot := hslot ▸ hv.found
    have hbound : w'.bound? slot = some v.value :=
      (hv.bound slot).trans (if_pos ⟨hslot.symm, hended⟩)
    have hdeclared : w'.declared? slot = some v.value := by
      rw [hv.declared slot]
      by_cases hrequest : v.visitor = .request
      · -- a request leaves declared what it has found
        have hcaller : v.visitor ≠ .caller := by rw [hrequest]; decide
        rw [hv.request hrequest, if_neg fun hwrote => (nomatch hwrote.2), ← hfound]
        exact hasked.resolve_left hcaller
      · rw [if_pos ⟨hslot.symm, hv.edit hrequest hended⟩]
    refine ⟨v.value, hbound, hdeclared, fun u hu => ?_⟩
    rw [List.find?_cons] at hu
    by_cases hcaller : v.visitor = .caller
    · rw [decide_eq_true hcaller] at hu
      cases hu
      rfl
    · -- the value was declared when the section began, so it is that of the last caller before
      rw [decide_eq_false hcaller] at hu
      have hne : visits ≠ [] := List.ne_nil_of_mem (List.mem_of_find?_eq_some hu)
      obtain ⟨value, -, hbefore, hlast⟩ :=
        h.agrees (fun u hu => hvisits u (List.mem_cons_of_mem v hu)) hne
      rw [hlast u hu]
      exact Option.some.inj (hbefore.symm.trans (hfound.symm.trans (hasked.resolve_left hcaller)))

variable [Backend σ] [Registry ι]

/-- The stores can be read, and whatever the callers have still to declare can be kept. -/
structure Orderly (s : Scene κ σ ι τ) : Prop where
  shows : ∃ m, Backend.Shows s.world.store m
  registry : Registry.Sound s.world.identities
  storable : ∀ k, (s.callers k).Storable ι

variable [DecidableEq κ] [MailTransport τ] [KeepingRegistry ι] {e : Engine}
  {s s' : Scene κ σ ι τ}

-- Every turn keeps what is known of the slot.
theorem Turn.follows (hturn : Turn e s s') (hs : s.Orderly)
    (h : Follows slot start s.world (s.visitsTo slot)) :
    s'.Orderly ∧ Follows slot start s'.world (s'.visitsTo slot) := by
  cases hturn with
  | caller k hdraws =>
    obtain ⟨m, hshows⟩ := hs.shows
    obtain ⟨hshows', hregistry', hleads⟩ :=
      Caller.step_leads hshows hs.registry (hs.storable k) hdraws
    refine ⟨{ shows := hshows', registry := hregistry', storable := fun k' => ?_ }, ?_⟩
    · show (Function.update s.callers k _ k').Storable ι
      rw [Function.update_apply]
      split
      · exact Caller.step_storable hs.registry (hs.storable k)
      · exact hs.storable k'
    · obtain ⟨v, hvisit, hv⟩ | ⟨hvisit, mailer, hsame⟩ := hleads
      · simp only [next, visitsTo, hvisit, Option.toList_some, List.singleton_append,
          List.filter_cons]
        split
        · rename_i hslot
          exact h.visit hv (of_decide_eq_true hslot)
        · rename_i hslot
          exact h.pass hv fun hsame => hslot (decide_eq_true hsame)
      · simp only [next, visitsTo, hvisit, Option.toList_none, List.nil_append]
        exact h.congr (by rw [hsame]) (by rw [hsame])
  | outside hstore hidentities =>
    refine ⟨{ shows := ?_, registry := ?_, storable := hs.storable }, h.congr hstore hidentities⟩
    · show ∃ m, Backend.Shows (World.store _) m
      rw [hstore]
      exact hs.shows
    · show Registry.Sound (World.identities _)
      rw [hidentities]
      exact hs.registry

/-- Whatever the callers do in whatever order, with values that can be kept, a slot is bound by the
last section that ended without an error, and its declared value is that of the last section that
wrote it.  So nothing but the order of the sections decides whether the two agree.  They do, and
with what the last caller asked for, if no request and no hook entered the slot with a value that it
had found declared and that was declared no longer. -/
theorem last_sections_decide {callers : κ → Caller} {w : World σ ι τ} (h : e.Reachable w)
    (hregistry : Registry.Sound w.identities) (hcallers : ∀ k, (callers k).Storable ι)
    (hturns : Relation.ReflTransGen (Turn e) ⟨callers, w, []⟩ s) (slot : Slot) :
    Follows slot w s.world (s.visitsTo slot) := by
  obtain ⟨m, hshows, -⟩ := h.keeps (P := fun _ => True) (fun _ _ _ _ => trivial) trivial
  have hfollows : s.Orderly ∧ Follows slot w s.world (s.visitsTo slot) := by
    induction hturns with
    | refl => exact ⟨⟨⟨m, hshows⟩, hregistry, hcallers⟩, follows_start slot w⟩
    | tail _ hturn ih => exact hturn.follows ih.1 ih.2
  exact hfollows.2

end Scene

namespace Sample

def work : DeclaredAddress := ⟨.email, ⟨"ann@work.example"⟩⟩

/-- One wants the address verified that is declared now, another declares a new one. -/
def rivals : Scene Bool MemoryStore MemoryIdentities MailRecorder where
  callers wantsOld := if wantsOld then .request ann home .done else .edit false ann work .done
  world := start
  visits := []

/-- The request finds its address declared, and enters the slot after the new one was declared. -/
def overtaken : Scene Bool MemoryStore MemoryIdentities MailRecorder :=
  ((rivals.next engine true).next engine false).next engine true

/-- The request is through before the new address is declared. -/
def inOrder : Scene Bool MemoryStore MemoryIdentities MailRecorder :=
  ((rivals.next engine true).next engine true).next engine false

theorem lookup_turn : Scene.Turn engine rivals (rivals.next engine true) :=
  .caller true ⟨fun _ => rfl, fun _ => rfl⟩

theorem overtaken_turns : Relation.ReflTransGen (Scene.Turn engine) rivals overtaken := by
  have hedit : Scene.Turn engine (rivals.next engine true)
      ((rivals.next engine true).next engine false) :=
    .caller false ⟨fun _ => rfl, fun _ => rfl⟩
  have hsection : Scene.Turn engine ((rivals.next engine true).next engine false) overtaken :=
    .caller true ⟨fun _ => rfl, fun _ => rfl⟩
  exact .tail (.tail (.single lookup_turn) hedit) hsection

theorem inOrder_turns : Relation.ReflTransGen (Scene.Turn engine) rivals inOrder := by
  have hsection : Scene.Turn engine (rivals.next engine true)
      ((rivals.next engine true).next engine true) :=
    .caller true ⟨fun _ => rfl, fun _ => rfl⟩
  have hedit : Scene.Turn engine ((rivals.next engine true).next engine true) inOrder :=
    .caller false ⟨fun _ => rfl, fun _ => rfl⟩
  exact .tail (.tail (.single lookup_turn) hsection) hedit

-- A request that was overtaken leads the slot back to a value that is declared no longer.
theorem rivals_order_decides :
    ((∀ k, overtaken.callers k = .done) ∧
      overtaken.world.bound? ⟨ann, .email⟩ = some home.value ∧
      overtaken.world.declared? ⟨ann, .email⟩ = some work.value) ∧
    (∀ k, inOrder.callers k = .done) ∧
      inOrder.world.bound? ⟨ann, .email⟩ = some work.value ∧
      inOrder.world.declared? ⟨ann, .email⟩ = some work.value := by
  have hstart : engine.Reachable start := ⟨start, rfl, .refl⟩
  have hcallers : ∀ k, (rivals.callers k).Storable MemoryIdentities := fun k =>
    (rivals.callers k).storable_memory
  have hovertaken :=
    Scene.last_sections_decide hstart trivial hcallers overtaken_turns ⟨ann, .email⟩
  have hinOrder := Scene.last_sections_decide hstart trivial hcallers inOrder_turns ⟨ann, .email⟩
  have hvisits : inOrder.visitsTo ⟨ann, .email⟩ =
      [⟨⟨ann, .email⟩, work.value, .caller, some home.value, true, true⟩,
        ⟨⟨ann, .email⟩, home.value, .request, some home.value, false, true⟩] := rfl
  rw [hvisits] at hinOrder
  obtain ⟨value, hbound, hdeclared, hlast⟩ := hinOrder.agrees
    (by simp [Visit.UpToDate]) (List.cons_ne_nil _ _)
  have hvalue : work.value = value := hlast _ rfl
  refine ⟨⟨fun k => by cases k <;> rfl, ?_, ?_⟩, fun k => by cases k <;> rfl, ?_, ?_⟩
  · rw [hovertaken.bound]
    rfl
  · rw [hovertaken.declared]
    rfl
  · rw [hbound, hvalue]
  · rw [hdeclared, hvalue]

end Sample

end Vouch
