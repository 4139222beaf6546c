import Vouch.Durable.Layout

/-!
# Laws of ordered byte maps

Reading back after a write or a removal, and what a scan lists: exactly the values whose keys begin
with what is scanned for, in the order of the keys, unless everything is asked for.
-/

namespace Vouch

namespace Bytes

theorem lt_nil (a : Bytes) : lt a [] = false := by
  cases a <;> rfl

theorem lt_asymm {a b : Bytes} (h : lt a b = true) : lt b a = false := by
  cases hba : lt b a with
  | false => rfl
  | true => exact absurd (lt_trans h hba) (by rw [lt_irrefl]; exact Bool.false_ne_true)

end Bytes

namespace ByteMap

/-! ## Reading and writing -/

-- The keys are distinct, so an entry is what its key has for a value.
theorem find?_entries_iff {entries : List (Bytes × Bytes)}
    (h : entries.Pairwise fun a b => Bytes.lt a.1 b.1 = true) (k v : Bytes) :
    (entries.find? fun entry => entry.1 = k).map (·.2) = some v ↔ (k, v) ∈ entries := by
  induction entries with
  | nil => simp
  | cons entry rest ih =>
    obtain ⟨k', v'⟩ := entry
    obtain ⟨hfirst, hrest⟩ := List.pairwise_cons.mp h
    by_cases hk : k' = k
    · subst hk
      have hout : (k', v) ∉ rest := by
        intro hmem
        have hlt := hfirst _ hmem
        rw [Bytes.lt_irrefl] at hlt
        cases hlt
      simp [hout, eq_comm]
    · have hne : ¬ k = k' := fun he => hk he.symm
      simp [hk, hne, ih hrest]

theorem mem_entries_iff (m : ByteMap) (k v : Bytes) : (k, v) ∈ m.entries ↔ m.get? k = some v :=
  (find?_entries_iff m.ascending k v).symm

-- A key has the value it was given last.
theorem get?_insert (m : ByteMap) (k k' v : Bytes) :
    (m.insert k v).get? k' = if k' = k then some v else m.get? k' := by
  obtain ⟨entries, ascending⟩ := m
  simp only [get?, insert]
  clear ascending
  induction entries with
  | nil => by_cases h : k = k' <;> simp [insertEntries, h, eq_comm]
  | cons entry rest ih =>
    obtain ⟨k₁, v₁⟩ := entry
    simp only [insertEntries]
    split
    · rename_i h₁
      by_cases h : k' = k
      · simp [h]
      · have h' : ¬ k = k' := fun e => h e.symm
        simp [h, h', ← h₁]
    · rename_i h₁
      split
      · by_cases h : k' = k
        · simp [h]
        · have h' : ¬ k = k' := fun e => h e.symm
          simp [h, h']
      · by_cases h : k₁ = k'
        · have hne : ¬ k' = k := fun e => h₁ (e.symm.trans h.symm)
          simp [h, hne]
        · simp [h, ih]

-- What holds of every entry and of a new one holds after it is inserted.
theorem forall_insert {m : ByteMap} {P : Bytes → Bytes → Prop} {k v : Bytes}
    (h : ∀ {k v}, m.get? k = some v → P k v) (hv : P k v) {k' v' : Bytes}
    (hget : (m.insert k v).get? k' = some v') : P k' v' := by
  rw [get?_insert] at hget
  split at hget
  · rename_i hk
    rw [hk, ← Option.some.inj hget]
    exact hv
  · exact h hget

-- A removed key has no value; the others keep theirs.
theorem get?_erase (m : ByteMap) (k k' : Bytes) :
    (m.erase k).get? k' = if k' = k then none else m.get? k' := by
  obtain ⟨entries, ascending⟩ := m
  simp only [get?, erase]
  clear ascending
  induction entries with
  | nil => simp
  | cons entry rest ih =>
    obtain ⟨k₁, v₁⟩ := entry
    by_cases h₁ : k₁ = k
    · by_cases h : k = k'
      · simp_all
      · simp_all [Ne.symm h]
    · by_cases h : k₁ = k'
      · subst h
        simp [h₁]
      · simp_all

-- The number of keys grows with a new key only.
theorem size_insert (m : ByteMap) (k v : Bytes) :
    (m.insert k v).size = if (m.get? k).isSome then m.size else m.size + 1 := by
  obtain ⟨entries, ascending⟩ := m
  simp only [size, get?, insert, Option.isSome_map]
  induction entries with
  | nil => rfl
  | cons entry rest ih =>
    obtain ⟨k₁, v₁⟩ := entry
    obtain ⟨hfirst, hrest⟩ := List.pairwise_cons.mp ascending
    simp only [insertEntries]
    by_cases hk : k = k₁
    · simp [hk]
    · have hk' : ¬ k₁ = k := fun e => hk e.symm
      rw [if_neg hk, List.find?_cons_of_neg (by simpa using hk')]
      split
      · rename_i hlt
        -- all further keys come after `k`
        have hnone : rest.find? (fun entry => decide (entry.1 = k)) = none := by
          rw [List.find?_eq_none]
          intro entry hmem he
          have hafter := Bytes.lt_trans hlt (hfirst entry hmem)
          rw [of_decide_eq_true he, Bytes.lt_irrefl] at hafter
          cases hafter
        simp [hnone]
      · rw [List.length_cons, ih hrest]
        split <;> rfl

/-! ## What is listed under a condition on keys -/

variable {p : Bytes → Bool} {k : Bytes}

-- A key that is not asked for changes no listing.
theorem filter_insert_of_not (m : ByteMap) (v : Bytes) (hk : p k = false) :
    ((m.insert k v).entries.filter fun entry => p entry.1) =
      m.entries.filter fun entry => p entry.1 := by
  obtain ⟨entries, ascending⟩ := m
  simp only [insert]
  clear ascending
  induction entries with
  | nil => simp [insertEntries, hk]
  | cons entry rest ih =>
    simp only [insertEntries]
    split
    · rename_i he
      simp [hk, ← he]
    · split
      · rw [List.filter_cons_of_neg (by simp [hk])]
      · rw [List.filter_cons, List.filter_cons, ih]

-- A key that comes after all that are listed is listed last.
theorem filter_insert_of_forall_lt (m : ByteMap) (v : Bytes) (hk : p k = true)
    (hlast : ∀ entry ∈ m.entries, p entry.1 = true → Bytes.lt entry.1 k = true) :
    ((m.insert k v).entries.filter fun entry => p entry.1) =
      (m.entries.filter fun entry => p entry.1) ++ [(k, v)] := by
  obtain ⟨entries, ascending⟩ := m
  simp only [insert]
  induction entries with
  | nil => simp [insertEntries, hk]
  | cons entry rest ih =>
    obtain ⟨hfirst, hrest⟩ := List.pairwise_cons.mp ascending
    have hrestLast := fun e he => hlast e (List.mem_cons_of_mem _ he)
    simp only [insertEntries]
    by_cases he : k = entry.1
    · have hlt := hlast entry List.mem_cons_self (by rw [← he]; exact hk)
      rw [he, Bytes.lt_irrefl] at hlt
      cases hlt
    · rw [if_neg he]
      split
      · rename_i hlt
        -- whatever comes after `k` is not asked for
        have hnone : ∀ e ∈ entry :: rest, p e.1 = false := by
          intro e hmem
          have hafter : Bytes.lt k e.1 = true := by
            rcases List.mem_cons.mp hmem with rfl | hmem
            · exact hlt
            · exact Bytes.lt_trans hlt (hfirst e hmem)
          cases hp : p e.1 with
          | false => rfl
          | true =>
            rw [Bytes.lt_asymm (hlast e hmem hp)] at hafter
            cases hafter
        have hnil : (entry :: rest).filter (fun e => p e.1) = [] :=
          List.filter_eq_nil_iff.mpr fun e hmem => by rw [hnone e hmem]; exact Bool.false_ne_true
        show ((k, v) :: entry :: rest).filter _ = _
        rw [List.filter_cons, if_pos hk, hnil, List.nil_append]
      · rw [List.filter_cons, List.filter_cons, ih hrest hrestLast]
        split <;> rfl

theorem ext_entries {m m' : ByteMap} (h : m.entries = m'.entries) : m = m' := by
  cases m
  cases m'
  cases h
  rfl

-- The keys are in order, so two maps with the same values under the same keys are one.
theorem ext_get? {m m' : ByteMap} (h : ∀ k v, m.get? k = some v ↔ m'.get? k = some v) :
    m = m' := by
  have hnodup : ∀ m : ByteMap, m.entries.Nodup := fun m =>
    m.ascending.imp fun {a b} hlt he => by
      rw [he, Bytes.lt_irrefl] at hlt
      cases hlt
  apply ext_entries
  refine List.Perm.eq_of_pairwise (fun a b _ _ hab hba => ?_) m.ascending m'.ascending ?_
  · rw [Bytes.lt_asymm hab] at hba
    cases hba
  · refine (List.perm_ext_iff_of_nodup (hnodup m) (hnodup m')).mpr fun ⟨k, v⟩ => ?_
    rw [mem_entries_iff, mem_entries_iff, h]

-- A key that comes after all others is the last one.
theorem entries_insert_of_forall_lt (m : ByteMap) (v : Bytes)
    (hlast : ∀ entry ∈ m.entries, Bytes.lt entry.1 k = true) :
    (m.insert k v).entries = m.entries ++ [(k, v)] := by
  have h := m.filter_insert_of_forall_lt (p := fun _ => true) v rfl fun entry he _ =>
    hlast entry he
  rwa [List.filter_eq_self.mpr fun _ _ => rfl, List.filter_eq_self.mpr fun _ _ => rfl] at h

-- A known key keeps its place.
theorem entries_insert_of_get?_eq_some {m : ByteMap} {old : Bytes} (h : m.get? k = some old)
    (v : Bytes) :
    (m.insert k v).entries = m.entries.map fun entry => if entry.1 = k then (k, v) else entry := by
  rw [← mem_entries_iff] at h
  obtain ⟨entries, ascending⟩ := m
  simp only [insert] at h ⊢
  induction entries with
  | nil => cases h
  | cons entry rest ih =>
    obtain ⟨hfirst, hrest⟩ := List.pairwise_cons.mp ascending
    simp only [insertEntries, List.map_cons]
    by_cases hk : k = entry.1
    · -- all further keys come after this one
      have hother : ∀ e ∈ rest, (if e.1 = k then (k, v) else e) = e := by
        intro e he
        rw [if_neg]
        intro hek
        have hlt := hfirst e he
        rw [hek, hk, Bytes.lt_irrefl] at hlt
        cases hlt
      rw [if_pos hk, if_pos hk.symm, List.map_congr_left hother, List.map_id']
    · have hmem : (k, old) ∈ rest :=
        (List.mem_cons.mp h).resolve_left fun he => hk (congrArg (·.1) he)
      have hlt : Bytes.lt k entry.1 = false := Bytes.lt_asymm (hfirst _ hmem)
      rw [if_neg hk, hlt, if_neg Bool.false_ne_true, if_neg fun he => hk he.symm, ih hrest hmem]

-- What a key has already can be written again without change.
theorem insert_of_get?_eq_some {m : ByteMap} {v : Bytes} (h : m.get? k = some v) :
    m.insert k v = m := by
  have hentries : (m.insert k v).entries = m.entries := by
    rw [entries_insert_of_get?_eq_some h]
    have hsame : ∀ e ∈ m.entries, (if e.1 = k then (k, v) else e) = e := by
      intro e he
      split
      · rename_i hk
        have hget := (m.mem_entries_iff e.1 e.2).mp he
        rw [hk, h] at hget
        rw [← hk, Option.some.inj hget]
      · rfl
    rw [List.map_congr_left hsame, List.map_id']
  exact ext_entries hentries

end ByteMap

namespace Durable

/-! ## Scans -/

-- The bound of a longer beginning is that of its tail, unless the tail has none.
theorem upperBound?_cons (b : UInt8) (start : Bytes) :
    upperBound? (b :: start) =
      match upperBound? start with
      | some upper => some (b :: upper)
      | none => if b = 0xFF then none else some [b + 1] := by
  simp only [upperBound?, List.reverse_cons, List.dropWhile_append]
  cases h : start.reverse.dropWhile (· = 0xFF) with
  | nil =>
    by_cases hb : b = 0xFF
    · simp [hb]
    · simp [hb]
  | cons c rest => simp

-- The keys between a beginning and its bound are the keys that begin so.
theorem between_eq_startsWith (k start : Bytes) :
    (!Bytes.lt k start && (upperBound? start).all fun upper => Bytes.lt k upper) =
      k.startsWith start := by
  induction start generalizing k with
  | nil => simp [Bytes.lt_nil, upperBound?, Bytes.startsWith]
  | cons b start ih =>
    cases k with
    | nil => simp [Bytes.lt, Bytes.startsWith]
    | cons x k =>
      have ih := ih k
      rw [upperBound?_cons]
      simp only [Bytes.lt, Bytes.startsWith, List.isPrefixOf] at ih ⊢
      -- only where the first bytes agree is the rest looked at
      rcases Nat.lt_trichotomy x.toNat b.toNat with hlt | heq | hgt
      · have hx : x < b := UInt8.lt_iff_toNat_lt.mpr hlt
        have hne : ¬ b = x := fun e => by subst e; omega
        simp [hx, hne]
      · have hx : x = b := UInt8.toNat_inj.mp heq
        subst hx
        rw [← ih]
        cases upperBound? start with
        | some upper => simp [Bytes.lt]
        | none =>
          by_cases hb : x = 0xFF
          · simp [hb]
          · have hstep : x < x + 1 := by
              have hne : x.toNat ≠ 255 := fun h => hb (UInt8.toNat_inj.mp h)
              have hlt := x.toNat_lt
              rw [UInt8.lt_iff_toNat_lt, UInt8.toNat_add, UInt8.toNat_one]
              omega
            simp [hb, Bytes.lt, hstep]
      · have hx : ¬ x < b := fun h => by have := UInt8.lt_iff_toNat_lt.mp h; omega
        have hne : (b == x) = false := beq_eq_false_iff_ne.mpr fun e => by subst e; omega
        have hne' : (x == b) = false := beq_eq_false_iff_ne.mpr fun e => by subst e; omega
        cases upperBound? start with
        | some upper => simp [Bytes.lt, hx, hne, hne']
        | none =>
          have hbx := x.toNat_lt
          have hb : b ≠ 0xFF := fun e => by
            rw [e] at hgt
            have : (0xFF : UInt8).toNat = 255 := rfl
            omega
          have hstep : ¬ x < b + 1 := by
            rw [UInt8.lt_iff_toNat_lt, UInt8.toNat_add, UInt8.toNat_one]
            omega
          simp [hb, Bytes.lt_nil, Bytes.lt, hstep, hne]

/-- The range of a beginning is what begins alike, in the order of the keys. -/
theorem valuesUnder_eq (m : ByteMap) (start : Bytes) :
    valuesUnder m start = (m.entries.filter fun entry => entry.1.startsWith start).map (·.2) := by
  simp only [valuesUnder, ByteMap.range, between_eq_startsWith]

theorem mem_valuesUnder {m : ByteMap} {start v : Bytes} :
    v ∈ valuesUnder m start ↔ ∃ k, m.get? k = some v ∧ k.startsWith start = true := by
  simp only [valuesUnder_eq, List.mem_map, List.mem_filter, Prod.exists, ByteMap.mem_entries_iff]
  constructor
  · rintro ⟨k, w, hk, rfl⟩
    exact ⟨k, hk⟩
  · rintro ⟨k, hk⟩
    exact ⟨k, v, hk, rfl⟩

theorem scan_of_ne_nil {start : Bytes} (h : start.isEmpty = false) (m : ByteMap) :
    scan m start = .ok (valuesUnder m start) := by
  rw [scan, h]
  rfl

end Durable

end Vouch
