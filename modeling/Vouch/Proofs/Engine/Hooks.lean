import Vouch.Proofs.Engine.Declared

/-!
# Hooks

A hook goes through the addresses that an identity declares and asks for each of them.  Of a channel
only the first address counts, though.  After a registration, every other one is refused as if it
was not declared at all, and what comes after it is not asked for.  After an edit of the settings,
the others take the place of the first one, each in its turn, and the identity ends up declaring
the last one twice and the first one no longer.
-/

namespace Vouch

/-! ## Declarations -/

namespace Traits

variable {traits : Traits} {channel : Channel} {value : Contact}

-- What counts already is not declared anew.
theorem setAddress_of_address? (h : traits.address? channel = some value) :
    traits.setAddress channel value = traits := by
  obtain ⟨_ | ⟨⟨⟨⟩, old⟩, rest⟩⟩ := traits
  · cases h
  · cases channel
    obtain rfl : old = value := Option.some.inj h
    rfl

/-- The declarations after each of these addresses took the place of the one that counted. -/
def declareAll (traits : Traits) (declared : List DeclaredAddress) : Traits :=
  declared.foldl (fun traits d => traits.setAddress d.channel d.value) traits

-- There is but one channel, so what is declared last stands in the first place in the end.
theorem declareAll_cons (first : DeclaredAddress) (rest declared : List DeclaredAddress) :
    declareAll ⟨first :: rest⟩ declared = ⟨declared.getLast?.getD first :: rest⟩ := by
  induction declared generalizing first with
  | nil => rfl
  | cons d declared ih =>
    have hfirst : (Traits.mk (first :: rest)).setAddress d.channel d.value = ⟨d :: rest⟩ := by
      obtain ⟨⟨⟩, old⟩ := first
      obtain ⟨⟨⟩, value⟩ := d
      rfl
    rw [declareAll, List.foldl_cons, hfirst, ← declareAll, ih, List.getLast?_cons]
    rfl

-- Nothing is lost only if the address that counts is declared last as well.
theorem declareAll_addresses_eq_iff :
    traits.declareAll traits.addresses = traits ↔
      traits.addresses.head? = traits.addresses.getLast? := by
  obtain ⟨_ | ⟨first, rest⟩⟩ := traits
  · exact ⟨fun _ => rfl, fun _ => rfl⟩
  · rw [declareAll_cons, List.getLast?_cons, List.head?_cons]
    simp [eq_comm]

end Traits

section Declarations

variable {σ ι τ : Type} [IdentityStore ι] {w w' : World σ ι τ} {id : IdentityId}

/-- What an identity declares. -/
def World.traits? (id : IdentityId) (w : World σ ι τ) : Option Traits :=
  match IdentityStore.identity? id w.identities with
  | .ok (some i) => some i.traits
  | _ => none

theorem World.traits?_eq_some_iff {traits : Traits} : w.traits? id = some traits ↔
    ∃ i, IdentityStore.identity? id w.identities = .ok (some i) ∧ i.traits = traits := by
  rw [World.traits?]
  rcases IdentityStore.identity? id w.identities with error | (_ | i) <;> simp

theorem World.traits?_of_stored {i : Identity}
    (h : IdentityStore.identity? id w.identities = .ok (some i)) : w.traits? id = some i.traits :=
  World.traits?_eq_some_iff.mpr ⟨i, h, rfl⟩

theorem World.traits?_congr (h : w'.identities = w.identities) : w'.traits? id = w.traits? id := by
  rw [World.traits?, World.traits?, h]

/-- The address takes the place of the one that counted, and nothing else is changed. -/
structure World.Redeclares (id : IdentityId) (w : World σ ι τ) (d : DeclaredAddress)
    (w' : World σ ι τ) : Prop where
  world : w' = { w with identities := w'.identities }
  traits : w'.traits? id = (w.traits? id).map fun traits => traits.setAddress d.channel d.value
  others : ∀ other, other ≠ id →
    IdentityStore.identity? other w'.identities = IdentityStore.identity? other w.identities

end Declarations

namespace Engine

open Vouch.Action

/-! ## One address -/

section Steps

variable {σ ι τ : Type} [VerificationStore σ] [IdentityStore ι] [MailTransport τ] [Backend σ]
  [FirmBackend σ]

/-- What comes of a declared address after a registration. -/
inductive Registers (e : Engine) (id : IdentityId) (w : World σ ι τ) (d : DeclaredAddress) :
    Except VerificationError RequestOutcome → World σ ι τ → Prop where
  | answered {outcome : RequestOutcome} {w' : World σ ι τ} :
    w.declared? ⟨id, d.channel⟩ = some d.value → FirmBackend.Fits σ ⟨id, d.channel⟩ d.value →
      e.Requested w ⟨id, d.channel⟩ d.value outcome w' → Registers e id w d (.ok outcome) w'
  | noRoom : w.declared? ⟨id, d.channel⟩ = some d.value →
    ¬ FirmBackend.Fits σ ⟨id, d.channel⟩ d.value →
      Registers e id w d (.error (.store .badKeySize))
        { w with entropy := (w.entropy.drawId .address).2 }
  | undeclared : w.declared? ⟨id, d.channel⟩ ≠ some d.value →
    Registers e id w d (.error (.undeclaredAddress id d.value)) w

/-- What comes of a declared address after an edit of the settings. -/
inductive Settles (e : Engine) (id : IdentityId) (w : World σ ι τ) (d : DeclaredAddress) :
    Except VerificationError RequestOutcome → World σ ι τ → Prop where
  | answered {outcome : RequestOutcome} {w₀ w' : World σ ι τ} :
    w.Redeclares id d w₀ → FirmBackend.Fits σ ⟨id, d.channel⟩ d.value →
      e.Requested w₀ ⟨id, d.channel⟩ d.value outcome w' → Settles e id w d (.ok outcome) w'
  | noRoom {w₀ : World σ ι τ} :
    w.Redeclares id d w₀ → ¬ FirmBackend.Fits σ ⟨id, d.channel⟩ d.value →
      Settles e id w d (.error (.store .badKeySize))
        { w₀ with entropy := (w₀.entropy.drawId .address).2 }

variable {e : Engine} {id : IdentityId} {w w' : World σ ι τ} {d : DeclaredAddress}
  {slot : Slot} {value : Contact} {outcome : RequestOutcome}
  {answer : Except VerificationError RequestOutcome}

omit [IdentityStore ι] [Backend σ] [FirmBackend σ] in
-- A request declares nothing.
theorem Requested.identities (h : e.Requested w slot value outcome w') :
    w'.identities = w.identities := by
  cases h with
  | alreadyVerified => rfl
  | resent => rfl
  | issued _ hissues => exact hissues.identities

theorem Registers.identities (h : e.Registers id w d answer w') :
    w'.identities = w.identities := by
  cases h with
  | answered _ _ hrequested => exact hrequested.identities
  | noRoom => rfl
  | undeclared => rfl

theorem Registers.ok_iff (h : e.Registers id w d answer w') : (∃ outcome, answer = .ok outcome) ↔
    w.declared? ⟨id, d.channel⟩ = some d.value ∧ FirmBackend.Fits σ ⟨id, d.channel⟩ d.value := by
  cases h with
  | answered hdeclared hfits => exact ⟨fun _ => ⟨hdeclared, hfits⟩, fun _ => ⟨_, rfl⟩⟩
  | noRoom _ hfits => exact ⟨fun ⟨_, hok⟩ => (nomatch hok), fun hok => absurd hok.2 hfits⟩
  | undeclared hdeclared =>
    exact ⟨fun ⟨_, hok⟩ => (nomatch hok), fun hok => absurd hok.1 hdeclared⟩

theorem Settles.ok_iff (h : e.Settles id w d answer w') :
    (∃ outcome, answer = .ok outcome) ↔ FirmBackend.Fits σ ⟨id, d.channel⟩ d.value := by
  cases h with
  | answered _ hfits => exact ⟨fun _ => hfits, fun _ => ⟨_, rfl⟩⟩
  | noRoom _ hfits => exact ⟨fun ⟨_, hok⟩ => (nomatch hok), fun hok => absurd hok hfits⟩

-- The address is declared in either case, and by nobody else.
theorem Settles.declares (h : e.Settles id w d answer w') :
    w'.traits? id = (w.traits? id).map (fun traits => traits.setAddress d.channel d.value) ∧
      ∀ other, other ≠ id →
        IdentityStore.identity? other w'.identities =
          IdentityStore.identity? other w.identities := by
  cases h with
  | answered hredeclares _ hrequested =>
    rw [World.traits?_congr hrequested.identities, hrequested.identities]
    exact ⟨hredeclares.traits, hredeclares.others⟩
  | noRoom hredeclares => exact ⟨hredeclares.traits, hredeclares.others⟩

end Steps

/-! ## All addresses -/

section Turns

variable {σ ι τ : Type}

/-- One address after another, as far as the first one that is refused. -/
inductive InTurn (S : World σ ι τ → DeclaredAddress → Except VerificationError RequestOutcome →
    World σ ι τ → Prop) : List DeclaredAddress → World σ ι τ →
      Except VerificationError (List RequestOutcome) → World σ ι τ → Prop where
  | done {w : World σ ι τ} : InTurn S [] w (.ok []) w
  | next {d : DeclaredAddress} {l : List DeclaredAddress} {w w₁ w' : World σ ι τ}
      {outcome : RequestOutcome} {answer : Except VerificationError (List RequestOutcome)} :
    S w d (.ok outcome) w₁ → InTurn S l w₁ answer w' →
      InTurn S (d :: l) w (answer.map (outcome :: ·)) w'
  | stopped {d : DeclaredAddress} {l : List DeclaredAddress} {w w' : World σ ι τ}
      {error : VerificationError} :
    S w d (.error error) w' → InTurn S (d :: l) w (.error error) w'

variable {S : World σ ι τ → DeclaredAddress → Except VerificationError RequestOutcome →
    World σ ι τ → Prop} {l : List DeclaredAddress} {w w' : World σ ι τ}
  {answer : Except VerificationError (List RequestOutcome)}

theorem InTurn.length (h : InTurn S l w answer w') {outcomes : List RequestOutcome}
    (hok : answer = .ok outcomes) : outcomes.length = l.length := by
  induction h generalizing outcomes with
  | done =>
    cases hok
    rfl
  | @next _ _ _ _ _ _ answer _ _ ih =>
    cases answer with
    | error => cases hok
    | ok rest =>
      cases hok
      rw [List.length_cons, List.length_cons, ih rfl]
  | stopped => cases hok

-- What every address leaves as it was, all of them leave as it was.
theorem InTurn.keeps {α : Type} {f : World σ ι τ → α}
    (hS : ∀ {w d answer w'}, S w d answer w' → f w' = f w) (h : InTurn S l w answer w') :
    f w' = f w := by
  induction h with
  | done => rfl
  | next hfirst _ ih => exact ih.trans (hS hfirst)
  | stopped hfirst => exact hS hfirst

/-- If it can be told beforehand which addresses are answered, all are answered if each is. -/
theorem InTurn.ok_iff {I : World σ ι τ → Prop} {P : DeclaredAddress → Prop}
    (hI : ∀ {w d answer w'}, I w → S w d answer w' → I w')
    (hS : ∀ {w d answer w'}, I w → S w d answer w' → ((∃ outcome, answer = .ok outcome) ↔ P d))
    (h : InTurn S l w answer w') (hw : I w) :
    (∃ outcomes, answer = .ok outcomes ∧ outcomes.length = l.length) ↔ ∀ d ∈ l, P d := by
  have hanswer : (∃ outcomes, answer = .ok outcomes) ↔ ∀ d ∈ l, P d := by
    induction h with
    | done => exact ⟨fun _ => nofun, fun _ => ⟨[], rfl⟩⟩
    | @next _ _ _ _ _ outcome answer hfirst _ ih =>
      rw [List.forall_mem_cons, ← ih (hI hw hfirst), ← hS hw hfirst]
      cases answer with
      | error => exact ⟨fun ⟨_, hok⟩ => (nomatch hok), fun ⟨_, _, hok⟩ => nomatch hok⟩
      | ok outcomes => exact ⟨fun _ => ⟨⟨_, rfl⟩, _, rfl⟩, fun _ => ⟨_, rfl⟩⟩
    | stopped hfirst =>
      rw [List.forall_mem_cons, ← hS hw hfirst]
      exact ⟨fun ⟨_, hok⟩ => (nomatch hok), fun ⟨⟨_, hok⟩, _⟩ => nomatch hok⟩
  rw [← hanswer]
  exact ⟨fun ⟨outcomes, hok, _⟩ => ⟨outcomes, hok⟩, fun ⟨outcomes, hok⟩ =>
    ⟨outcomes, hok, h.length hok⟩⟩

-- All the addresses are declared that were come to, in turn.
theorem InTurn.declares [IdentityStore ι] {id : IdentityId}
    (hS : ∀ {w d answer w'}, S w d answer w' → w'.traits? id =
      (w.traits? id).map fun traits => traits.setAddress d.channel d.value)
    (h : InTurn S l w answer w') {outcomes : List RequestOutcome} (hok : answer = .ok outcomes) :
    w'.traits? id = (w.traits? id).map fun traits => traits.declareAll l := by
  induction h generalizing outcomes with
  | @done w =>
    cases w.traits? id <;> rfl
  | @next _ _ w _ _ _ answer hfirst _ ih =>
    cases answer with
    | error => cases hok
    | ok rest =>
      rw [ih rfl, hS hfirst]
      cases w.traits? id <;> rfl
  | stopped => cases hok

variable [VerificationStore σ] [IdentityStore ι] [MailTransport τ] {e : Engine}

-- The actions on a list have the ends of their operations in turn.
theorem mapM_inTurn {f : DeclaredAddress → Action σ ι τ RequestOutcome}
    {g : DeclaredAddress → Operation} {I : World σ ι τ → Prop}
    (hperform : ∀ d w, (g d).perform e w = ((f d).perform w).map .requested id)
    (hstep : ∀ d ∈ l, ∀ {w}, I w → (g d).Possible e w →
      ∃ answer w', (f d).perform w = (answer, w') ∧ S w d answer w' ∧ I w')
    (hw : I w) (hpossible : e.AllPossible (l.map g) w) :
    ∃ answer w', (l.mapM f).perform w = (answer, w') ∧ InTurn S l w answer w' := by
  induction l generalizing w with
  | nil => exact ⟨_, w, rfl, .done⟩
  | cons d l ih =>
    obtain ⟨hop, hrest⟩ := hpossible
    obtain ⟨answer, w₁, hrun, hS, hw₁⟩ := hstep d List.mem_cons_self hw hop
    rw [hperform, hrun] at hrest
    rw [List.mapM_cons]
    cases answer with
    | error error =>
      exact ⟨_, w₁, perform_of_error (bind_of_error (of_perform_error hrun)), .stopped hS⟩
    | ok outcome =>
      obtain ⟨answer, w', hruns, hall⟩ := ih (fun d hd => hstep d (List.mem_cons_of_mem _ hd))
        hw₁ (hrest outcome rfl)
      refine ⟨_, w', ?_, .next hS hall⟩
      rw [perform_congr (bind_of_ok (of_perform_ok hrun))]
      cases answer with
      | error error => exact perform_of_error (bind_of_error (of_perform_error hruns))
      | ok outcomes => exact perform_of_ok (bind_of_ok (of_perform_ok hruns))

end Turns

/-! ## The hooks -/

variable {σ ι τ : Type} [VerificationStore σ] [IdentityStore ι] [MailTransport τ] [Backend σ]
  [FirmBackend σ] [ThriftyBackend σ] {e : Engine} {w w' : World σ ι τ} {id : IdentityId}
  {i : Identity} {d : DeclaredAddress}

theorem request_registers (h : e.Reachable w)
    (hstored : IdentityStore.identity? id w.identities = .ok (some i))
    (hop : (Operation.request id d).Possible e w) :
    ∃ answer w', (e.request id d : Action σ ι τ _).perform w = (answer, w') ∧
      e.Registers id w d answer w' := by
  by_cases hdeclared : w.declared? ⟨id, d.channel⟩ = some d.value
  · obtain ⟨m, hshows, hsound⟩ := h.sound
    have hrun := perform_congr (e.request_declared (τ := τ) hdeclared)
    have hdraws := hop.draws
    rw [Operation.perform, hrun] at hdraws
    rw [hrun]
    by_cases hfits : FirmBackend.Fits σ ⟨id, d.channel⟩ d.value
    · obtain ⟨outcome, w', hperform, hrequested⟩ :=
        ensureChallenge_requested hshows hsound hdraws hfits
      exact ⟨_, _, hperform, .answered hdeclared hfits hrequested⟩
    · exact ⟨_, _, ensureChallenge_no_room e hshows hfits, .noRoom hdeclared hfits⟩
  · obtain ⟨error, hrefused, hundeclared⟩ := e.request_undeclared (τ := τ) hdeclared
    obtain rfl := hundeclared i hstored
    exact ⟨_, _, hrefused, .undeclared hdeclared⟩

variable [Registry ι] [KeepingRegistry ι]

omit [VerificationStore σ] [MailTransport τ] [Backend σ] [FirmBackend σ] [ThriftyBackend σ] in
-- The traits of an identity can be written, and are read as they were written.
theorem updateTraits_redeclares (hregistry : Registry.Sound w.identities)
    (hstored : IdentityStore.identity? id w.identities = .ok (some i))
    (hd : Registry.Storable ι ⟨id, ⟨[d]⟩⟩) :
    ∃ identities, IdentityStore.updateTraits id (i.traits.setAddress d.channel d.value)
        w.identities = .ok identities ∧ Registry.Sound identities ∧
      w.Redeclares id d { w with identities } := by
  have hstorable := Registry.storable_setAddress
    (KeepingRegistry.storable_of_stored hregistry hstored) hd
  obtain ⟨identities, hwrite⟩ := Registry.updateTraits_ok hregistry hstorable hstored
  obtain ⟨j, hread, htraits⟩ := KeepingRegistry.updated hregistry hstorable hwrite
  refine ⟨identities, hwrite, Registry.sound_updateTraits hregistry hstorable hwrite,
    { world := rfl
      traits := ?_
      others := fun other hother => LocalIdentities.spared hwrite hother }⟩
  rw [World.traits?_of_stored hstored]
  exact World.traits?_eq_some_iff.mpr ⟨j, hread, htraits⟩

omit [Backend σ] [FirmBackend σ] [ThriftyBackend σ] in
-- An address that is declared already is asked for at once.
theorem traitsChanged_declaring (hregistry : Registry.Sound w.identities)
    (hstored : IdentityStore.identity? id w.identities = .ok (some i))
    (hd : Registry.Storable ι ⟨id, ⟨[d]⟩⟩) :
    ∃ w₀, w.Redeclares id d w₀ ∧ Registry.Sound w₀.identities ∧
      (e.traitsChanged id d : Action σ ι τ _) w = e.ensureChallenge ⟨id, d.channel⟩ d.value w₀ := by
  rw [Engine.traitsChanged, bind_of_ok (identity_of_stored hstored)]
  by_cases hdeclared : i.traits.address? d.channel = some d.value
  · refine ⟨w, { world := rfl, traits := ?_, others := fun _ _ => rfl }, hregistry, ?_⟩
    · rw [World.traits?_of_stored hstored, Option.map_some,
        Traits.setAddress_of_address? hdeclared]
    · rw [if_neg (not_not_intro hdeclared)]
  · obtain ⟨identities, hwrite, hsound, hredeclares⟩ :=
      updateTraits_redeclares hregistry hstored hd
    have hrun := updateTraits_perform (w := w) (τ := τ) id
      (i.traits.setAddress d.channel d.value)
    rw [hwrite] at hrun
    refine ⟨_, hredeclares, hsound, ?_⟩
    rw [if_pos hdeclared, bind_of_ok (of_perform_ok hrun)]

theorem traitsChanged_settles (h : e.Reachable w) (hregistry : Registry.Sound w.identities)
    (hstored : IdentityStore.identity? id w.identities = .ok (some i))
    (hd : Registry.Storable ι ⟨id, ⟨[d]⟩⟩) (hop : (Operation.traitsChanged id d).Possible e w) :
    ∃ answer w', (e.traitsChanged id d : Action σ ι τ _).perform w = (answer, w') ∧
      e.Settles id w d answer w' ∧ Registry.Sound w'.identities := by
  obtain ⟨m, hshows, hsound⟩ := h.sound
  obtain ⟨w₀, hredeclares, hregistry₀, hrun⟩ :=
    traitsChanged_declaring (e := e) hregistry hstored hd
  have hdraws := hop.draws
  rw [Operation.perform, perform_congr hrun] at hdraws
  rw [perform_congr hrun]
  have hworld := hredeclares.world
  -- only the identities have changed so far
  have hshows₀ : Backend.Shows w₀.store m := by
    rw [hworld]
    exact hshows
  have hdraws₀ : w₀.DrawsUnknown
      ((e.ensureChallenge ⟨id, d.channel⟩ d.value : Action σ ι τ _).perform w₀).2 := by
    rw [hworld] at hdraws ⊢
    exact ⟨hdraws.address, hdraws.flow⟩
  by_cases hfits : FirmBackend.Fits σ ⟨id, d.channel⟩ d.value
  · obtain ⟨outcome, w', hperform, hrequested⟩ :=
      ensureChallenge_requested hshows₀ hsound hdraws₀ hfits
    exact ⟨_, _, hperform, .answered hredeclares hfits hrequested,
      by rw [hrequested.identities]; exact hregistry₀⟩
  · exact ⟨_, _, ensureChallenge_no_room e hshows₀ hfits, .noRoom hredeclares hfits, hregistry₀⟩

omit [VerificationStore σ] [MailTransport τ] [Backend σ] [FirmBackend σ] [ThriftyBackend σ]
  [Registry ι] [KeepingRegistry ι] in
theorem declared_of_stored (hstored : IdentityStore.identity? id w.identities = .ok (some i)) :
    Batch.declared w id = i.traits.addresses ∧
      (declaredAddresses id : Action σ ι τ _) w = .ok i.traits.addresses w := by
  constructor
  · rw [Batch.declared, IdentityStore.declaredBy, hstored]
    rfl
  · rw [declaredAddresses, bind_of_ok (identity_of_stored hstored)]
    rfl

omit [Registry ι] [KeepingRegistry ι] in
theorem afterRegistration_registers (h : e.Reachable w)
    (hstored : IdentityStore.identity? id w.identities = .ok (some i))
    (hdraws : e.DrawUnknown ((Batch.afterRegistration id).operations w) w) :
    ∃ answer w', (e.afterRegistration id : Action σ ι τ _).perform w = (answer, w') ∧
      InTurn (e.Registers id) i.traits.addresses w answer w' := by
  obtain ⟨m, hshows, -⟩ := h.sound
  obtain ⟨hdeclared, hrun⟩ := declared_of_stored (τ := τ) hstored
  have hpossible := batch_possible hshows hdraws
  rw [Batch.operations, hdeclared] at hpossible
  rw [afterRegistration, perform_congr (bind_of_ok hrun)]
  refine mapM_inTurn (e := e) (g := .request id)
    (I := fun w => e.Reachable w ∧ IdentityStore.identity? id w.identities = .ok (some i))
    (fun _ _ => by rw [Operation.perform]) ?_ ⟨h, hstored⟩ hpossible
  rintro d - w₁ ⟨hw₁, hstored₁⟩ hop
  obtain ⟨answer, w', hperform, hregisters⟩ := request_registers hw₁ hstored₁ hop
  have hafter := hw₁.perform hop
  rw [Operation.perform, hperform] at hafter
  exact ⟨answer, w', hperform, hregisters, hafter, by rw [hregisters.identities, hstored₁]⟩

theorem afterSettings_settles (h : e.Reachable w) (hregistry : Registry.Sound w.identities)
    (hstored : IdentityStore.identity? id w.identities = .ok (some i))
    (hdraws : e.DrawUnknown ((Batch.afterSettings id).operations w) w) :
    ∃ answer w', (e.afterSettings id : Action σ ι τ _).perform w = (answer, w') ∧
      InTurn (e.Settles id) i.traits.addresses w answer w' := by
  obtain ⟨m, hshows, -⟩ := h.sound
  obtain ⟨hdeclared, hrun⟩ := declared_of_stored (τ := τ) hstored
  have hpossible := batch_possible hshows hdraws
  rw [Batch.operations, hdeclared] at hpossible
  rw [afterSettings, perform_congr (bind_of_ok hrun)]
  refine mapM_inTurn (e := e) (g := .traitsChanged id)
    (I := fun w => e.Reachable w ∧ Registry.Sound w.identities ∧
      ∃ j, IdentityStore.identity? id w.identities = .ok (some j))
    (fun _ _ => by rw [Operation.perform]) ?_ ⟨h, hregistry, i, hstored⟩ hpossible
  rintro d hmem w₁ ⟨hw₁, hregistry₁, j, hstored₁⟩ hop
  have hd : Registry.Storable ι ⟨id, ⟨[d]⟩⟩ := KeepingRegistry.storable_declared
    (KeepingRegistry.storable_of_stored hregistry hstored) hmem
  obtain ⟨answer, w', hperform, hsettles, hregistry'⟩ :=
    traitsChanged_settles hw₁ hregistry₁ hstored₁ hd hop
  have hafter := hw₁.perform hop
  rw [Operation.perform, hperform] at hafter
  have htraits := hsettles.declares.1
  rw [World.traits?_of_stored hstored₁, Option.map_some] at htraits
  obtain ⟨k, hk, -⟩ := World.traits?_eq_some_iff.mp htraits
  exact ⟨answer, w', hperform, hsettles, hafter, hregistry', k, hk⟩

/-- The hooks in a reachable world, for an identity that is stored.  After a registration nobody's
declarations change, and all that the identity declares is answered for just if every address is
the first one of its channel and the backend has room for it.  After an edit of the settings, all is
answered for just if the backend has room.  Each address then has taken the place of the one that
counted, so that the declarations are what they were only if the first address is also the last. -/
theorem hooks_of_reachable (h : e.Reachable w) (hregistry : Registry.Sound w.identities)
    (hstored : IdentityStore.identity? id w.identities = .ok (some i)) :
    (e.DrawUnknown ((Batch.afterRegistration id).operations w) w →
      ∃ answer w', (e.afterRegistration id : Action σ ι τ _).perform w = (answer, w') ∧
        InTurn (e.Registers id) i.traits.addresses w answer w' ∧
        w'.identities = w.identities ∧
        ((∃ outcomes, answer = .ok outcomes ∧ outcomes.length = i.traits.addresses.length) ↔
          ∀ d ∈ i.traits.addresses, i.traits.address? d.channel = some d.value ∧
            FirmBackend.Fits σ ⟨id, d.channel⟩ d.value)) ∧
    (e.DrawUnknown ((Batch.afterSettings id).operations w) w →
      ∃ answer w', (e.afterSettings id : Action σ ι τ _).perform w = (answer, w') ∧
        InTurn (e.Settles id) i.traits.addresses w answer w' ∧
        (∀ other, other ≠ id → IdentityStore.identity? other w'.identities =
          IdentityStore.identity? other w.identities) ∧
        ((∃ outcomes, answer = .ok outcomes ∧ outcomes.length = i.traits.addresses.length) ↔
          ∀ d ∈ i.traits.addresses, FirmBackend.Fits σ ⟨id, d.channel⟩ d.value) ∧
        ∀ outcomes, answer = .ok outcomes →
          w'.traits? id = some (i.traits.declareAll i.traits.addresses) ∧
          (w'.traits? id = some i.traits ↔
            i.traits.addresses.head? = i.traits.addresses.getLast?)) := by
  constructor
  · intro hdraws
    obtain ⟨answer, w', hperform, hturns⟩ := afterRegistration_registers h hstored hdraws
    refine ⟨answer, w', hperform, hturns,
      hturns.keeps fun hregisters => hregisters.identities, ?_⟩
    -- what counts as declared is the same all the way
    refine InTurn.ok_iff (I := fun w₁ => w₁.identities = w.identities)
      (fun hw₁ hregisters => hregisters.identities.trans hw₁) (fun hw₁ hregisters => ?_) hturns rfl
    rw [hregisters.ok_iff, World.declared?_congr hw₁, World.declared?, hstored]
    rfl
  · intro hdraws
    obtain ⟨answer, w', hperform, hturns⟩ := afterSettings_settles h hregistry hstored hdraws
    refine ⟨answer, w', hperform, hturns, fun other hother => ?_, ?_, fun outcomes hok => ?_⟩
    · exact hturns.keeps (f := fun w => IdentityStore.identity? other w.identities)
        fun hsettles => hsettles.declares.2 other hother
    · exact InTurn.ok_iff (I := fun _ => True) (fun _ _ => trivial)
        (fun _ hsettles => hsettles.ok_iff) hturns trivial
    · have htraits := hturns.declares (fun hsettles => hsettles.declares.1) hok
      rw [World.traits?_of_stored hstored, Option.map_some] at htraits
      rw [htraits, Option.some.injEq]
      refine ⟨rfl, ?_⟩
      rw [Option.some.injEq, Traits.declareAll_addresses_eq_iff]

end Engine

namespace Sample

def desk : DeclaredAddress := ⟨.email, ⟨"ann@desk.example"⟩⟩

/-- An identity that declares two addresses. -/
def twofold : World MemoryStore MemoryIdentities MailRecorder :=
  { start with identities := MemoryIdentities.empty.insert ⟨ann, ⟨[home, desk]⟩⟩ }

/-- After the registration, the second address is refused.  After an edit of the settings, both are
answered for, and the identity declares the second address twice. -/
theorem twofold_hooks :
    (∃ w', (engine.afterRegistration ann).perform twofold =
        (.error (.undeclaredAddress ann desk.value), w')) ∧
      ∃ outcomes w', (engine.afterSettings ann).perform twofold = (.ok outcomes, w') ∧
        outcomes.length = 2 ∧ w'.traits? ann = some ⟨[desk, desk]⟩ := by
  have hreachable : engine.Reachable twofold := ⟨twofold, rfl, .refl⟩
  have hstored : IdentityStore.identity? ann twofold.identities =
    .ok (some ⟨ann, ⟨[home, desk]⟩⟩) := rfl
  obtain ⟨hregistration, hsettings⟩ := Engine.hooks_of_reachable hreachable trivial hstored
  constructor
  · obtain ⟨answer, w', hperform, hturns, -⟩ := hregistration
      ⟨⟨fun _ => rfl, fun _ => rfl⟩, fun _ _ => ⟨⟨fun _ => rfl, fun _ => rfl⟩, fun _ _ => trivial⟩⟩
    cases hturns with
    | next hfirst hrest =>
      have hsame := World.declared?_congr hfirst.identities ⟨ann, .email⟩
      cases hrest with
      | next hsecond _ =>
        have hdeclared := (hsecond.ok_iff.mp ⟨_, rfl⟩).1
        exact absurd (hsame.symm.trans hdeclared) (by decide)
      | stopped hsecond =>
        cases hsecond with
        | noRoom _ hfits => exact absurd trivial hfits
        | undeclared => exact ⟨w', hperform⟩
    | stopped hfirst =>
      cases hfirst with
      | noRoom _ hfits => exact absurd trivial hfits
      | undeclared hdeclared => exact absurd rfl hdeclared
  · obtain ⟨answer, w', hperform, -, -, hanswered, htraits⟩ := hsettings
      ⟨⟨fun _ => rfl, fun _ => rfl⟩, fun _ _ => ⟨⟨fun _ => rfl, fun _ => rfl⟩, fun _ _ => trivial⟩⟩
    obtain ⟨outcomes, rfl, hlength⟩ := hanswered.mpr fun _ _ => trivial
    exact ⟨outcomes, w', hperform, hlength, (htraits outcomes rfl).1⟩

end Sample

end Vouch
