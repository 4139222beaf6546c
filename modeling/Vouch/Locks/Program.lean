import Vouch.Locks.Basic

/-!
# One caller's use of locks

What a single caller does with the table of locks, and what can be observed of it: how many slots
are tracked at each point, and what the work done under a lock returns.
-/

namespace Vouch

/-- A step of a caller. -/
inductive LockStep (α : Type) where
  -- Works through some steps while it holds a slot's lock, and then returns a value, or fails if
  -- there is none.
  | hold (slot : Slot) (inner : List (LockStep α)) (result : Option α)
  -- Cleans the table up.
  | cleanup
  -- Says something.
  | say (a : α)

/-- What can be observed of a step; `tracked` is the number of slots tracked at that point. -/
inductive LockEvent (α : Type) where
  | entered (slot : Slot) (tracked : Nat)
  | left (slot : Slot) (tracked : Nat) (result : Option α)
  | cleaned (tracked : Nat)
  | said (a : α)

namespace LockStep

variable {α : Type}

/-- Gives a slot back after work that returned a value, or that failed. -/
def leave (slot : Slot) (lock : Lock) (result : Option α) (t : LockTable) : LockTable :=
  match result with
  | some _ => t.release slot lock
  | none => t.abandon lock

mutual

/-- Takes a step. -/
def run (t : LockTable) : LockStep α → List (LockEvent α) × LockTable
  | .hold slot inner result =>
    let (lock, t) := t.acquire slot
    let entered := LockEvent.entered slot t.tracked
    let (events, t) := runAll t inner
    let t := leave slot lock result t
    (entered :: events ++ [.left slot t.tracked result], t)
  | .cleanup =>
    let t := t.cleanup
    ([.cleaned t.tracked], t)
  | .say a => ([.said a], t)

/-- Takes one step after another. -/
def runAll (t : LockTable) : List (LockStep α) → List (LockEvent α) × LockTable
  | [] => ([], t)
  | step :: rest =>
    let (first, t) := run t step
    let (others, t) := runAll t rest
    (first ++ others, t)

end

end LockStep

end Vouch
