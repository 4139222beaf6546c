import Vouch.Bytes

/-!
# Ordered byte maps

A byte map keeps byte strings under keys that are byte strings, in the order of the keys.  Keys
that begin alike are neighbours, so everything under a common beginning is listed by one scan of
a half-open range of keys.
-/

namespace Vouch

/-- A finite map between byte strings, its entries in ascending order of their keys. -/
structure ByteMap where
  entries : List (Bytes × Bytes)
  ascending : entries.Pairwise fun a b => Bytes.lt a.1 b.1 = true

namespace Bytes

theorem lt_irrefl (a : Bytes) : lt a a = false := by
  induction a with
  | nil => rfl
  | cons x xs ih => simp [lt, ih]

theorem lt_trans {a b c : Bytes} (hab : lt a b = true) (hbc : lt b c = true) : lt a c = true := by
  induction a generalizing b c with
  | nil =>
    cases c with
    | nil => cases b <;> simp [lt] at hbc
    | cons z zs => rfl
  | cons x xs ih =>
    cases b with
    | nil => simp [lt] at hab
    | cons y ys =>
      cases c with
      | nil => simp [lt] at hbc
      | cons z zs =>
        simp only [lt, Bool.or_eq_true, Bool.and_eq_true, decide_eq_true_eq, beq_iff_eq] at *
        rcases hab with h | ⟨rfl, h⟩ <;> rcases hbc with h' | ⟨rfl, h'⟩
        · exact .inl (UInt8.lt_trans h h')
        · exact .inl h
        · exact .inl h'
        · exact .inr ⟨rfl, ih h h'⟩

-- Of two different byte strings one comes first.
theorem lt_or_lt {a b : Bytes} (h : a ≠ b) : lt a b = true ∨ lt b a = true := by
  induction a generalizing b with
  | nil =>
    cases b with
    | nil => exact absurd rfl h
    | cons y ys => exact .inl rfl
  | cons x xs ih =>
    cases b with
    | nil => exact .inr rfl
    | cons y ys =>
      simp only [lt, Bool.or_eq_true, Bool.and_eq_true, decide_eq_true_eq, beq_iff_eq]
      by_cases hxy : x = y
      · subst hxy
        rcases ih (fun e => h (by rw [e])) with h' | h'
        · exact .inl (.inr ⟨rfl, h'⟩)
        · exact .inr (.inr ⟨rfl, h'⟩)
      · rcases UInt8.lt_or_lt_of_ne hxy with h' | h'
        · exact .inl (.inl h')
        · exact .inr (.inl h')

end Bytes

namespace ByteMap

def empty : ByteMap := ⟨[], .nil⟩

instance : EmptyCollection ByteMap := ⟨empty⟩

instance : Inhabited ByteMap := ⟨empty⟩

def get? (m : ByteMap) (k : Bytes) : Option Bytes :=
  (m.entries.find? fun entry => entry.1 = k).map (·.2)

/-- The entries with a key's value set. -/
def insertEntries (k v : Bytes) : List (Bytes × Bytes) → List (Bytes × Bytes)
  | [] => [(k, v)]
  | (k', v') :: rest =>
    if k = k' then (k, v) :: rest
    else if Bytes.lt k k' then (k, v) :: (k', v') :: rest
    else (k', v') :: insertEntries k v rest

theorem mem_insertEntries {k v : Bytes} {entries : List (Bytes × Bytes)} {entry : Bytes × Bytes}
    (h : entry ∈ insertEntries k v entries) : entry.1 = k ∨ entry ∈ entries := by
  induction entries with
  | nil => simp_all [insertEntries]
  | cons first rest ih =>
    obtain ⟨k', v'⟩ := first
    unfold insertEntries at h
    split at h
    · rcases List.mem_cons.1 h with rfl | h
      · exact .inl rfl
      · exact .inr (List.mem_cons_of_mem _ h)
    · split at h
      · rcases List.mem_cons.1 h with rfl | h
        · exact .inl rfl
        · exact .inr h
      · rcases List.mem_cons.1 h with rfl | h
        · exact .inr List.mem_cons_self
        · exact (ih h).imp_right (List.mem_cons_of_mem _)

theorem ascending_insertEntries (k v : Bytes) {entries : List (Bytes × Bytes)}
    (h : entries.Pairwise fun a b => Bytes.lt a.1 b.1 = true) :
    (insertEntries k v entries).Pairwise fun a b => Bytes.lt a.1 b.1 = true := by
  induction entries with
  | nil => simp [insertEntries]
  | cons first rest ih =>
    obtain ⟨k', v'⟩ := first
    obtain ⟨hfirst, hrest⟩ := List.pairwise_cons.1 h
    unfold insertEntries
    split
    · rename_i hk
      subst hk
      exact List.pairwise_cons.2 ⟨hfirst, hrest⟩
    · rename_i hk
      split
      · rename_i hlt
        refine List.pairwise_cons.2 ⟨?_, h⟩
        intro entry hentry
        rcases List.mem_cons.1 hentry with rfl | hentry
        · exact hlt
        · exact Bytes.lt_trans hlt (hfirst entry hentry)
      · rename_i hlt
        refine List.pairwise_cons.2 ⟨?_, ih hrest⟩
        intro entry hentry
        rcases mem_insertEntries hentry with he | hentry
        · rw [he]
          exact (Bytes.lt_or_lt hk).resolve_left hlt
        · exact hfirst entry hentry

def insert (m : ByteMap) (k v : Bytes) : ByteMap where
  entries := insertEntries k v m.entries
  ascending := ascending_insertEntries k v m.ascending

def erase (m : ByteMap) (k : Bytes) : ByteMap where
  entries := m.entries.filter fun entry => entry.1 ≠ k
  ascending := m.ascending.sublist List.filter_sublist

/-- The entry with the greatest key. -/
def last? (m : ByteMap) : Option (Bytes × Bytes) :=
  m.entries.getLast?

def size (m : ByteMap) : Nat :=
  m.entries.length

/-- The entries whose keys are at least `lower` and, if there is an upper bound, below it. -/
def range (m : ByteMap) (lower : Bytes) (upper : Option Bytes) : List (Bytes × Bytes) :=
  m.entries.filter fun entry =>
    !Bytes.lt entry.1 lower && upper.all fun upper => Bytes.lt entry.1 upper

end ByteMap

end Vouch
