import Mathlib.Logic.Function.Basic
import Vouch.Proofs.Locks.History
import Vouch.Proofs.Locks.Table

/-!
# Slots inside slots

One caller uses slots inside slots, some of its work fails, and the table is cleaned up now and
then.  The caller has to do with the mutexes as well, which it could wait for although it has them
itself, and which failing work leaves poisoned.  It gets through its program nevertheless, and at
each point the table tracks what the actions taken so far say that it does.
-/

namespace Vouch

variable {α : Type}

/-! ## Taking the actions -/

/-- What a lock is: something that one at a time can have. -/
structure Mutex where
  taken : Bool
  -- Whether somebody has failed while they had it.
  poisoned : Bool

namespace Mutex

/-- Takes a mutex, for which the caller would wait forever if it has the mutex already.  A poisoned
mutex is handed out as an error. -/
def lock (m : Mutex) : Option (Except Mutex Mutex) :=
  if m.taken then none
  else if m.poisoned then some (.error { m with taken := true })
  else some (.ok { m with taken := true })

/-- A mutex that was handed out, in whatever way. -/
def disregard : Except Mutex Mutex → Mutex
  | .ok m | .error m => m

/-- Gives a mutex back after work that has failed or not. -/
def unlock (failed : Bool) (m : Mutex) : Mutex where
  taken := false
  poisoned := m.poisoned || failed

-- It makes no difference who had the mutex before.
theorem map_disregard_lock (m : Mutex) :
    m.lock.map disregard = if m.taken then none else some { m with taken := true } := by
  cases htaken : m.taken with
  | true => simp [lock, htaken]
  | false => cases hpoisoned : m.poisoned <;> simp [lock, disregard, htaken, hpoisoned]

end Mutex

/-- A caller in the middle of its work, with the table and the mutexes. -/
structure LockCaller where
  table : LockTable
  mutexes : Lock → Mutex
  -- The slots that it is inside of and their locks, the innermost first.
  inside : List (Slot × Lock)

namespace LockCaller

def start : LockCaller := ⟨.empty, fun _ => ⟨false, false⟩, []⟩

def enter (slot : Slot) (c : LockCaller) : Option LockCaller :=
  let (lock, table) := c.table.acquire slot
  -- The mutex guards nothing that work could leave in disorder.
  ((c.mutexes lock).lock.map Mutex.disregard).map fun mutex =>
    ⟨table, Function.update c.mutexes lock mutex, (slot, lock) :: c.inside⟩

/-- Leaves the innermost slot. -/
def leave (slot : Slot) (result : Option α) (c : LockCaller) : Option LockCaller :=
  match c.inside with
  | [] => none
  | (slot', lock) :: inside =>
    if slot' = slot then
      let mutex := (c.mutexes lock).unlock result.isNone
      some ⟨LockStep.leave slot lock result c.table, Function.update c.mutexes lock mutex, inside⟩
    else none

def step (c : LockCaller) : LockAction α → Option LockCaller
  | .enter slot => c.enter slot
  | .leave slot result => c.leave slot result
  | .cleanup => some { c with table := c.table.cleanup }
  | .say _ => some c

/-- Takes one action after another. -/
def run (c : LockCaller) (actions : List (LockAction α)) : Option LockCaller :=
  actions.foldlM step c

/-- The caller inside a slot. -/
def entered (slot : Slot) (c : LockCaller) : LockCaller where
  table := (c.table.acquire slot).2
  mutexes :=
    let lock := (c.table.acquire slot).1
    Function.update c.mutexes lock { c.mutexes lock with taken := true }
  inside := (slot, (c.table.acquire slot).1) :: c.inside

-- All that can keep a caller out of a slot is that somebody is inside.
theorem enter_eq (slot : Slot) (c : LockCaller) :
    c.enter slot =
      if (c.mutexes (c.table.acquire slot).1).taken then none else some (c.entered slot) := by
  show ((c.mutexes (c.table.acquire slot).1).lock.map Mutex.disregard).map _ = _
  rw [Mutex.map_disregard_lock]
  cases (c.mutexes (c.table.acquire slot).1).taken <;> rfl

/-- The caller outside a slot, with the rest of the slots it is inside of. -/
def departed (slot : Slot) (lock : Lock) (result : Option α) (inside : List (Slot × Lock))
    (c : LockCaller) : LockCaller where
  table := LockStep.leave slot lock result c.table
  mutexes := Function.update c.mutexes lock ((c.mutexes lock).unlock result.isNone)
  inside := inside

theorem leave_of_inside {c : LockCaller} {slot : Slot} {lock : Lock} {inside : List (Slot × Lock)}
    (h : c.inside = (slot, lock) :: inside) (result : Option α) :
    c.leave slot result = some (c.departed slot lock result inside) := by
  rw [leave, h]
  exact if_pos rfl

theorem exists_inside_of_leave {c c' : LockCaller} {slot : Slot} {result : Option α}
    (h : c.leave slot result = some c') :
    ∃ lock inside, c.inside = (slot, lock) :: inside ∧
      c' = c.departed slot lock result inside := by
  rw [leave] at h
  split at h
  · cases h
  · rename_i slot' lock inside hinside
    split at h
    · rename_i hslot
      subst hslot
      cases h
      exact ⟨lock, inside, hinside, rfl⟩
    · cases h

end LockCaller

namespace LockStep

variable {t : LockTable} {slot : Slot} {lock : Lock}

theorem references_leave (slot : Slot) (lock : Lock) (result : Option α) (t : LockTable) :
    (leave slot lock result t).references = t.references.erase lock := by
  cases result with
  | none => rfl
  | some a => exact LockTable.references_release ..

theorem sound_leave (h : t.Sound) (slot : Slot) (lock : Lock) (result : Option α) :
    (leave slot lock result t).Sound := by
  cases result with
  | none => exact h.of_fewer rfl id
  | some a => exact h.release slot lock

-- The last to refer to a slot's lock takes the entry along, unless it fails.
theorem get?_leave (h : t.entries.get? slot = some lock) (hlast : lock ∉ t.references.erase lock)
    (result : Option α) (slot' : Slot) :
    (leave slot lock result t).entries.get? slot' =
      if slot' = slot ∧ result.isSome then none else t.entries.get? slot' := by
  cases result with
  | none => simp [leave, LockTable.abandon]
  | some a => simp [leave, LockTable.get?_release_of_notMem h hlast]

end LockStep

/-! ## What the table tracks -/

namespace LockCaller

/-- Where a caller is after some actions.  It has a reference and a mutex for each slot that it is
inside of, and no others, and the table has the slots that the actions say it has. -/
structure Tracks (past : LockHistory α) (c : LockCaller) : Prop where
  sound : c.table.Sound
  references : c.table.references = c.inside.map (·.2)
  nodup : (c.inside.map (·.1)).Nodup
  mapped : ∀ {slot lock}, (slot, lock) ∈ c.inside → c.table.entries.get? slot = some lock
  taken : ∀ lock, (c.mutexes lock).taken = true ↔ lock ∈ c.inside.map (·.2)
  held : ∀ slot, past.isHeld slot = true ↔ slot ∈ c.inside.map (·.1)
  tracked : ∀ slot, (c.table.entries.get? slot).isSome = true ↔
    past.isHeld slot = true ∨ past.isDeserted slot = true

namespace Tracks

variable {past : LockHistory α} {c c' : LockCaller} {slot : Slot}

theorem start : Tracks ([] : LockHistory α) .start where
  sound := .empty
  references := rfl
  nodup := List.nodup_nil
  mapped h := nomatch h
  taken _ := by simp [LockCaller.start]
  held _ := by simp [LockCaller.start]
  tracked _ := by simp [LockCaller.start, LockTable.empty]

-- The locks of different slots are different.
theorem slot_eq (h : Tracks past c) {slot slot' : Slot} {lock : Lock}
    (hslot : c.table.entries.get? slot = some lock) (hmem : (slot', lock) ∈ c.inside) :
    slot' = slot :=
  h.sound.injective (h.mapped hmem) hslot

theorem mem_references (h : Tracks past c) {lock : Lock} (hmem : (slot, lock) ∈ c.inside) :
    lock ∈ c.table.references := by
  rw [h.references]
  exact List.mem_map_of_mem (f := (·.2)) hmem

-- The mutex of a slot that the caller is not inside of is free, whether the slot has had it before
-- or gets it now.
theorem free (h : Tracks past c) (hout : slot ∉ c.inside.map (·.1)) :
    (c.mutexes (c.table.acquire slot).1).taken = false := by
  rw [Bool.eq_false_iff]
  intro htaken
  obtain ⟨⟨slot', lock⟩, hmem, hlock⟩ := List.mem_map.mp ((h.taken _).mp htaken)
  have hslot : (c.table.acquire slot).2.entries.get? slot = some lock :=
    (LockTable.get?_acquire ..).trans ((if_pos rfl).trans (congrArg some hlock.symm))
  have hslot' := LockTable.get?_acquire_of_get? (h.mapped hmem) slot
  have heq : slot' = slot := (h.sound.acquire slot).injective hslot' hslot
  exact hout (List.mem_map.mpr ⟨(slot', lock), hmem, heq⟩)

theorem enter (h : Tracks past c) (hfree : (c.mutexes (c.table.acquire slot).1).taken = false) :
    Tracks (.enter slot :: past) (c.entered slot) := by
  -- inside the slot already, the caller would have the mutex
  have hout : slot ∉ c.inside.map (·.1) := by
    intro hslot
    obtain ⟨⟨slot', lock⟩, hmem, rfl⟩ := List.mem_map.mp hslot
    have hkept := LockTable.get?_acquire_of_get? (h.mapped hmem) slot'
    rw [LockTable.get?_acquire, if_pos rfl] at hkept
    have htaken := (h.taken lock).mpr (List.mem_map_of_mem (f := (·.2)) hmem)
    rw [← Option.some.inj hkept, hfree] at htaken
    cases htaken
  refine ⟨h.sound.acquire slot, ?_, List.nodup_cons.mpr ⟨hout, h.nodup⟩, ?_, ?_, ?_, ?_⟩
  · exact (LockTable.references_acquire ..).trans (congrArg (_ :: ·) h.references)
  · intro slot' lock hmem
    rcases List.mem_cons.mp hmem with heq | hmem
    · cases heq
      exact (LockTable.get?_acquire ..).trans (if_pos rfl)
    · exact LockTable.get?_acquire_of_get? (h.mapped hmem) slot
  · intro lock
    dsimp only [LockCaller.entered]
    rw [List.map_cons, List.mem_cons]
    by_cases hlock : lock = (c.table.acquire slot).1
    · rw [hlock, Function.update_self]
      exact iff_of_true rfl (.inl rfl)
    · rw [Function.update_of_ne hlock, h.taken]
      exact (or_iff_right hlock).symm
  · intro slot'
    rw [LockHistory.isHeld_enter, Bool.or_eq_true, decide_eq_true_eq, h.held, eq_comm]
    exact List.mem_cons.symm
  · intro slot'
    rw [LockCaller.entered, LockTable.get?_acquire, LockHistory.isHeld_enter,
      LockHistory.isDeserted_enter]
    by_cases heq : slot' = slot
    · simp [heq]
    · simp [heq, Ne.symm heq, h.tracked]

section

variable {lock : Lock} {inside : List (Slot × Lock)}

-- The caller is inside a slot once, ...
theorem slot_notMem (h : Tracks past c) (hinside : c.inside = (slot, lock) :: inside) :
    slot ∉ inside.map (·.1) := by
  have hnodup := h.nodup
  rw [hinside] at hnodup
  exact (List.nodup_cons.mp hnodup).1

-- ... so it has the slot's lock once.
theorem lock_notMem (h : Tracks past c) (hinside : c.inside = (slot, lock) :: inside) :
    lock ∉ inside.map (·.2) := by
  intro hlock
  obtain ⟨⟨slot', _⟩, hmem, rfl⟩ := List.mem_map.mp hlock
  have hslot := h.mapped (hinside ▸ List.mem_cons_self)
  have heq : slot' = slot := h.slot_eq hslot (hinside ▸ List.mem_cons_of_mem _ hmem)
  exact h.slot_notMem hinside (List.mem_map.mpr ⟨_, hmem, heq⟩)

theorem references_erase (h : Tracks past c) (hinside : c.inside = (slot, lock) :: inside) :
    c.table.references.erase lock = inside.map (·.2) := by
  rw [h.references, hinside]
  exact List.erase_cons_head ..

theorem leave (h : Tracks past c) (hinside : c.inside = (slot, lock) :: inside)
    (result : Option α) :
    Tracks (.leave slot result :: past) (c.departed slot lock result inside) := by
  have hslot : c.table.entries.get? slot = some lock := h.mapped (hinside ▸ List.mem_cons_self)
  have hreferences := h.references_erase hinside
  have hlock := h.lock_notMem hinside
  have hne {slot'} (hmem : slot' ∈ inside.map (·.1)) : slot' ≠ slot :=
    fun heq => h.slot_notMem hinside (heq ▸ hmem)
  have hget := LockStep.get?_leave hslot (hreferences ▸ hlock) result
  have hnodup := h.nodup
  rw [hinside] at hnodup
  refine ⟨LockStep.sound_leave h.sound slot lock result, ?_, (List.nodup_cons.mp hnodup).2,
    ?_, ?_, ?_, ?_⟩
  · exact (LockStep.references_leave ..).trans hreferences
  · intro slot' lock' hmem
    have hother := hne (List.mem_map_of_mem hmem)
    have hbefore := h.mapped (hinside ▸ List.mem_cons_of_mem _ hmem)
    exact (hget slot').trans ((if_neg fun hand => hother hand.1).trans hbefore)
  · intro lock'
    dsimp only [LockCaller.departed]
    by_cases heq : lock' = lock
    · rw [heq, Function.update_self]
      exact iff_of_false Bool.noConfusion hlock
    · rw [Function.update_of_ne heq, h.taken, hinside, List.map_cons, List.mem_cons]
      exact or_iff_right heq
  · intro slot'
    rw [LockHistory.isHeld_leave, Bool.and_eq_true, h.held, hinside, List.map_cons,
      List.mem_cons, decide_eq_true_eq]
    constructor
    · rintro ⟨hother, heq | hmem⟩
      · exact absurd heq.symm hother
      · exact hmem
    · intro hmem
      exact ⟨(hne hmem).symm, .inr hmem⟩
  · intro slot'
    rw [LockCaller.departed, hget, LockHistory.isHeld_leave, LockHistory.isDeserted_leave]
    by_cases heq : slot' = slot
    · cases result <;> simp [heq, hslot]
    · simp [heq, Ne.symm heq, h.tracked]

end

-- A slot outlasts a clean-up if its lock is referred to, which is if the caller is inside.
theorem isSome_cleanup (h : Tracks past c) (slot : Slot) :
    (c.table.cleanup.entries.get? slot).isSome = true ↔ past.isHeld slot = true := by
  rw [h.held, LockTable.get?_cleanup]
  constructor
  · intro hsome
    obtain ⟨lock, hfilter⟩ := Option.isSome_iff_exists.mp hsome
    obtain ⟨hslot, hlock⟩ := Option.filter_eq_some_iff.mp hfilter
    rw [h.references, List.contains_iff_mem] at hlock
    obtain ⟨⟨slot', _⟩, hmem, rfl⟩ := List.mem_map.mp hlock
    exact List.mem_map.mpr ⟨_, hmem, h.slot_eq hslot hmem⟩
  · intro hslot
    obtain ⟨⟨_, lock⟩, hmem, rfl⟩ := List.mem_map.mp hslot
    rw [h.mapped hmem, Option.filter_some_pos (List.contains_iff_mem.mpr (h.mem_references hmem))]
    rfl

theorem cleanup (h : Tracks past c) :
    Tracks (.cleanup :: past) { c with table := c.table.cleanup } where
  sound := h.sound.cleanup
  references := h.references
  nodup := h.nodup
  mapped hmem := LockTable.get?_cleanup_of_mem (h.mapped hmem) (h.mem_references hmem)
  taken := h.taken
  held slot := by
    rw [LockHistory.isHeld_cleanup]
    exact h.held slot
  tracked slot := by
    rw [h.isSome_cleanup, LockHistory.isHeld_cleanup, LockHistory.isDeserted_cleanup]
    exact (or_iff_left Bool.false_ne_true).symm

theorem say (h : Tracks past c) (a : α) : Tracks (.say a :: past) c where
  sound := h.sound
  references := h.references
  nodup := h.nodup
  mapped := h.mapped
  taken := h.taken
  held slot := by
    rw [LockHistory.isHeld_say]
    exact h.held slot
  tracked slot := by
    rw [LockHistory.isHeld_say, LockHistory.isDeserted_say]
    exact h.tracked slot

theorem step (h : Tracks past c) {a : LockAction α} (hstep : c.step a = some c') :
    Tracks (a :: past) c' := by
  cases a with
  | enter slot =>
    rw [LockCaller.step, LockCaller.enter_eq] at hstep
    split at hstep
    · cases hstep
    · rename_i hfree
      cases hstep
      exact h.enter (Bool.eq_false_iff.mpr hfree)
  | leave slot result =>
    obtain ⟨lock, inside, hinside, rfl⟩ := LockCaller.exists_inside_of_leave hstep
    exact h.leave hinside result
  | cleanup =>
    cases hstep
    exact h.cleanup
  | say a =>
    cases hstep
    exact h.say a

theorem run (h : Tracks past c) {actions : List (LockAction α)} (hrun : c.run actions = some c') :
    Tracks (actions.reverse ++ past) c' := by
  induction actions generalizing past c with
  | nil =>
    cases hrun
    exact h
  | cons a actions ih =>
    obtain ⟨next, hstep, hrest⟩ := Option.bind_eq_some_iff.mp hrun
    rw [List.reverse_cons, List.append_assoc]
    exact ih (h.step hstep) hrest

theorem tracked_eq (h : Tracks past c) :
    c.table.tracked = past.held.length + past.deserted.length := by
  rw [← List.length_append]
  refine Table.size_eq_length past.nodup_held_append_deserted fun slot => ?_
  rw [h.tracked, List.mem_append, LockHistory.mem_held, LockHistory.mem_deserted]

end Tracks

/-! ## Whole programs -/

/-- A caller gets through some actions, and what is observed on the way is what the actions say. -/
structure Completes (past : LockHistory α) (c : LockCaller) (actions : List (LockAction α))
    (outcome : List (LockEvent α) × LockTable) (c' : LockCaller) : Prop where
  run : c.run actions = some c'
  events : outcome.1 = past.observed actions
  table : outcome.2 = c'.table

namespace Completes

variable {past : LockHistory α} {c next c' : LockCaller}

theorem single (h : Tracks past c) {a : LockAction α} (hstep : c.step a = some c') :
    Completes past c [a] ([a.observed c'.table.tracked], c'.table) c' where
  run := by rw [LockCaller.run, List.foldlM_cons, hstep]; rfl
  events := by rw [(h.step hstep).tracked_eq]; rfl
  table := rfl

theorem append {first rest : List (LockAction α)}
    {outcome outcome' : List (LockEvent α) × LockTable}
    (h : Completes past c first outcome next)
    (h' : Completes (first.reverse ++ past) next rest outcome' c') :
    Completes past c (first ++ rest) (outcome.1 ++ outcome'.1, outcome'.2) c' where
  run := by
    rw [LockCaller.run, List.foldlM_append]
    exact (congrArg (· >>= _) h.run).trans h'.run
  events := by rw [LockHistory.observed_append, h.events, h'.events]
  table := h'.table

end Completes

-- By induction on the program.  The slots around a step are those that the caller is inside of, and
-- what was done before it is carried along.
mutual

theorem completes_run {past : LockHistory α} {c : LockCaller} (h : Tracks past c) :
    ∀ step : LockStep α, step.apart (c.inside.map (·.1)) = true →
      ∃ c', Completes past c step.actions (LockStep.run c.table step) c' ∧ c'.inside = c.inside
  | .hold slot inner result, happart => by
    rw [LockStep.apart, Bool.and_eq_true, decide_eq_true_eq] at happart
    obtain ⟨hout, hinner⟩ := happart
    have henter : c.step (LockAction.enter slot : LockAction α) = some (c.entered slot) := by
      rw [LockCaller.step, LockCaller.enter_eq, h.free hout]
      rfl
    have hentered := Completes.single h henter
    have htracks := h.step henter
    obtain ⟨worked, hworked, hinside⟩ := completes_runAll htracks inner hinner
    have hleave : worked.step (.leave slot result) =
        some (worked.departed slot (c.table.acquire slot).1 result c.inside) :=
      LockCaller.leave_of_inside hinside result
    have hleft := Completes.single (htracks.run hworked.run) hleave
    have htable : (LockStep.runAll (c.table.acquire slot).2 inner).2 = worked.table :=
      hworked.table
    refine ⟨worked.departed slot (c.table.acquire slot).1 result c.inside, ?_, rfl⟩
    simp only [LockStep.run, LockStep.actions, htable]
    exact hentered.append (hworked.append hleft)
  | .cleanup, _ => by
    have hstep : c.step (LockAction.cleanup : LockAction α) =
        some { c with table := c.table.cleanup } := rfl
    refine ⟨{ c with table := c.table.cleanup }, ?_, rfl⟩
    simp only [LockStep.run, LockStep.actions]
    exact Completes.single h hstep
  | .say a, _ => ⟨c, Completes.single h rfl, rfl⟩

theorem completes_runAll {past : LockHistory α} {c : LockCaller} (h : Tracks past c) :
    ∀ steps : List (LockStep α), LockStep.apartAll (c.inside.map (·.1)) steps = true →
      ∃ c', Completes past c (LockStep.actionsAll steps) (LockStep.runAll c.table steps) c' ∧
        c'.inside = c.inside
  | [], _ => ⟨c, ⟨rfl, rfl, rfl⟩, rfl⟩
  | step :: rest, happart => by
    rw [LockStep.apartAll, Bool.and_eq_true] at happart
    obtain ⟨hstep, hrest⟩ := happart
    obtain ⟨next, hnext, hinside⟩ := completes_run h step hstep
    rw [← hinside] at hrest
    obtain ⟨c', hc', hinside'⟩ := completes_runAll (h.run hnext.run) rest hrest
    refine ⟨c', ?_, hinside'.trans hinside⟩
    simp only [LockStep.runAll, LockStep.actionsAll]
    rw [hnext.table]
    exact hnext.append hc'

end

/-- What the table has after some actions. -/
structure Exact (past : LockHistory α) (c : LockCaller) : Prop where
  inside : past.held.Perm (c.inside.map (·.1))
  -- No slot is counted twice.
  nodup : (past.held ++ past.deserted).Nodup
  tracked : c.table.tracked = past.held.length + past.deserted.length
  entries : ∀ slot, (c.table.entries.get? slot).isSome = true ↔
    slot ∈ past.held ∨ slot ∈ past.deserted
  cleaned : c.table.cleanup.tracked = past.held.length
  kept : ∀ slot, (c.table.cleanup.entries.get? slot).isSome = true ↔ slot ∈ past.held
  idle : (∀ slot, .leave slot none ∉ past) → past.held = [] → c.table.tracked = 0

theorem Tracks.exact {past : LockHistory α} {c : LockCaller} (h : Tracks past c) :
    Exact past c := by
  have hkept : ∀ slot, (c.table.cleanup.entries.get? slot).isSome = true ↔ slot ∈ past.held :=
    fun slot => (h.isSome_cleanup slot).trans LockHistory.mem_held.symm
  refine ⟨?_, past.nodup_held_append_deserted, h.tracked_eq, fun slot => ?_,
    Table.size_eq_length past.nodup_held hkept, hkept, fun hreturns hidle => ?_⟩
  · exact (List.perm_ext_iff_of_nodup past.nodup_held h.nodup).mpr fun slot =>
      LockHistory.mem_held.trans (h.held slot)
  · rw [LockHistory.mem_held, LockHistory.mem_deserted]
    exact h.tracked slot
  · have hdeserted : past.deserted = [] :=
      List.filter_eq_nil_iff.mpr fun slot _ => by
        rw [LockHistory.isDeserted_of_forall_notMem hreturns]
        exact Bool.false_ne_true
    rw [h.tracked_eq, hidle, hdeserted]
    rfl

end LockCaller

/-- If no slot is used inside itself, a caller gets through its program.  A use of a slot returns
what its work returns, whoever failed there before, and at each point the slots that are tracked are
the slots that the caller is inside of and those that it has deserted.  A clean-up leaves exactly
the former, and as long as no work has failed there are none of the latter. -/
theorem LockStep.exact_of_apart (program : List (LockStep α)) (happart : apartAll [] program) :
    (runAll .empty program).1 = LockHistory.observed [] (actionsAll program) ∧
      (∃ c, LockCaller.start.run (actionsAll program) = some c ∧ c.inside = [] ∧
        c.table = (runAll .empty program).2) ∧
      ∀ done rest, actionsAll program = done ++ rest →
        ∃ c, LockCaller.start.run done = some c ∧ LockCaller.Exact done.reverse c := by
  have hstart : LockCaller.Tracks ([] : LockHistory α) .start := .start
  obtain ⟨c, hc, hinside⟩ := LockCaller.completes_runAll hstart program happart
  refine ⟨hc.events, ⟨c, hc.run, hinside, hc.table.symm⟩, fun done rest hactions => ?_⟩
  have hrun := hc.run
  rw [hactions, LockCaller.run, List.foldlM_append] at hrun
  obtain ⟨c', hdone, -⟩ := Option.bind_eq_some_iff.mp hrun
  have htracks := hstart.run hdone
  rw [List.append_nil] at htracks
  exact ⟨c', hdone, htracks.exact⟩

namespace Sample

def annsSlot : Slot := ⟨⟨"ann"⟩, .email⟩

def bobsSlot : Slot := ⟨⟨"bob"⟩, .email⟩

/-- Work in one slot that fails, after it has failed in another before and after a clean-up.  Then
the other slot is used again, with a clean-up while it is held. -/
def mishaps : List (LockStep Nat) :=
  [.hold annsSlot [.hold bobsSlot [] none, .cleanup, .hold bobsSlot [] none] none,
    .hold bobsSlot [.cleanup, .hold annsSlot [.say 7] (some 1)] (some 2)]

theorem mishaps_exact :
    LockStep.apartAll [] mishaps ∧
      (LockStep.runAll .empty mishaps).1 =
        [.entered annsSlot 1, .entered bobsSlot 2, .left bobsSlot 2 none, .cleaned 1,
          .entered bobsSlot 2, .left bobsSlot 2 none, .left annsSlot 2 none,
          .entered bobsSlot 2, .cleaned 1, .entered annsSlot 2, .said 7,
          .left annsSlot 1 (some 1), .left bobsSlot 0 (some 2)] ∧
      ∃ c, LockCaller.start.run ((LockStep.actionsAll mishaps).take 7) = some c ∧
        c.table.tracked = 2 ∧ c.table.cleanup.tracked = 0 := by
  have happart : LockStep.apartAll [] mishaps := by decide
  obtain ⟨hlog, -, hpoints⟩ := LockStep.exact_of_apart mishaps happart
  obtain ⟨c, hc, hexact⟩ := hpoints _ _ (List.take_append_drop 7 _).symm
  exact ⟨happart, hlog, c, hc, hexact.tracked, hexact.cleaned⟩

end Sample

end Vouch
