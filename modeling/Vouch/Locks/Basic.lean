import Vouch.Address
import Vouch.Memory.Table

/-!
# Locks on slots

Operations on one slot exclude each other; operations on different slots do not.  The table has a
lock for every slot that is in use.  A caller takes a reference to the slot's lock before it waits
for the lock and drops it afterwards; the entry goes with the last reference.  A caller that fails
while it holds the lock drops its reference but leaves the entry, until the slot is used again or
the table is cleaned up.
-/

namespace Vouch

/-- A lock.  No number is used twice. -/
abbrev Lock := Nat

/-- The locks of the slots in use, and the references to them that callers have. -/
structure LockTable where
  entries : Table Slot Lock
  -- A lock is listed once for each reference to it.
  references : List Lock
  -- The number of the next lock.
  next : Lock

namespace LockTable

/-- The table before the first use. -/
def empty : LockTable := ⟨∅, [], 0⟩

/-- Takes a reference to a slot's lock, which is made if there is none. -/
def acquire (slot : Slot) (t : LockTable) : Lock × LockTable :=
  match t.entries.get? slot with
  | some lock => (lock, { t with references := lock :: t.references })
  | none =>
    (t.next,
      { entries := t.entries.insert slot t.next
        references := t.next :: t.references
        next := t.next + 1 })

/-- Drops a reference. -/
def abandon (lock : Lock) (t : LockTable) : LockTable :=
  { t with references := t.references.erase lock }

/-- Drops a reference, and the slot's entry if nobody refers to its lock any more. -/
def release (slot : Slot) (lock : Lock) (t : LockTable) : LockTable :=
  let t := t.abandon lock
  match t.entries.get? slot with
  | none => t
  | some current =>
    if current ∈ t.references then t else { t with entries := t.entries.erase slot }

/-- Drops the entries whose locks nobody refers to. -/
def cleanup (t : LockTable) : LockTable :=
  { t with entries := t.entries.filter fun lock => t.references.contains lock }

/-- The number of slots with an entry. -/
def tracked (t : LockTable) : Nat :=
  t.entries.size

end LockTable

end Vouch
