import Vouch.Proofs.Durable.Keys

/-!
# Scans and the keys they meet

A scan of a beginning finds all values whose keys begin so and no others, in the order of the keys,
whatever bytes the beginning consists of; only the empty one is refused.  The keys are laid out so
that a beginning belongs to one identity, one value or one address only.
-/

namespace Vouch

-- The order of the keys is the lexicographic one.
theorem Bytes.lt_eq_true_iff {a b : Bytes} : lt a b = true ↔ a < b := by
  induction a generalizing b with
  | nil =>
    cases b with
    | nil => simp [lt]
    | cons y ys => simp [lt]
  | cons x xs ih =>
    cases b with
    | nil => simp [lt]
    | cons y ys => simp [lt, List.cons_lt_cons_iff, ih]

namespace Durable

/-- What a map has under keys that begin with `start`, in ascending order of the keys; so nothing is
listed twice. -/
structure Listing (m : ByteMap) (start : Bytes) (found : List (Bytes × Bytes)) : Prop where
  ascending : found.Pairwise fun a b => a.1 < b.1
  mem_iff : ∀ {k v}, (k, v) ∈ found ↔ m.get? k = some v ∧ start <+: k

theorem scan_listing (m : ByteMap) {start : Bytes} (h : start ≠ []) :
    ∃ found, scan m start = .ok (found.map (·.2)) ∧ Listing m start found := by
  have hscan := scan_of_ne_nil (List.isEmpty_eq_false_iff.mpr h) m
  rw [valuesUnder_eq] at hscan
  refine ⟨_, hscan, ?_, fun {k v} => ?_⟩
  · have hascending : m.entries.Pairwise fun a b => a.1 < b.1 :=
      m.ascending.imp Bytes.lt_eq_true_iff.mp
    exact hascending.sublist List.filter_sublist
  · rw [List.mem_filter, ByteMap.mem_entries_iff, Bytes.startsWith, List.isPrefixOf_iff_prefix]

/-! ## Histories -/

/-- Whether all keys are those of challenges in the histories of their addresses. -/
def OnlyHistories (m : ByteMap) : Prop :=
  ∀ {k v}, m.get? k = some v → ∃ a n, k = historyKey a n

/-- The number that a history's key ends with. -/
def sequenceOf (k : Bytes) : UInt64 :=
  UInt64.ofNat (Bytes.ofBigEndian (k.drop 16))

theorem sequenceOf_historyKey (a : AddressId) (n : UInt64) : sequenceOf (historyKey a n) = n := by
  have hdrop : (historyKey a n).drop 16 = Bytes.bigEndian 8 n.toNat :=
    List.drop_left' a.length_bytes
  rw [sequenceOf, hdrop, Bytes.ofBigEndian_bigEndian, Nat.mod_eq_of_lt n.toNat_lt,
    UInt64.ofNat_toNat]

theorem lt_of_historyKey_lt {a : AddressId} {m n : UInt64} (h : historyKey a m < historyKey a n) :
    m < n := by
  rw [← Bytes.lt_eq_true_iff] at h
  rcases Nat.lt_trichotomy m.toNat n.toNat with hlt | heq | hgt
  · exact UInt64.lt_iff_toNat_lt.mpr hlt
  · rw [UInt64.toNat_inj.mp heq, Bytes.lt_irrefl] at h
    cases h
  · rw [Bytes.lt_asymm (historyKey_lt a (UInt64.lt_iff_toNat_lt.mpr hgt))] at h
    cases h

-- Where all keys are numbered, the entries under an address are its numbers with their values.
theorem Listing.numbered {m : ByteMap} (hm : OnlyHistories m) {a : AddressId}
    {found : List (Bytes × Bytes)} (h : Listing m a.bytes found) :
    (found.map fun entry => (historyKey a (sequenceOf entry.1), entry.2)) = found := by
  have hsame : ∀ entry ∈ found, (historyKey a (sequenceOf entry.1), entry.2) = entry := by
    rintro ⟨k, v⟩ hentry
    obtain ⟨hget, hstart⟩ := h.mem_iff.mp hentry
    obtain ⟨b, n, rfl⟩ := hm hget
    have hb : b = a :=
      (historyKey_startsWith_iff b a n).mp (List.isPrefixOf_iff_prefix.mpr hstart)
    rw [sequenceOf_historyKey, hb]
  rw [List.map_congr_left hsame, List.map_id']

theorem scan_history {m : ByteMap} (hm : OnlyHistories m) (a : AddressId) :
    ∃ history : List (UInt64 × Bytes), scan m a.bytes = .ok (history.map (·.2)) ∧
      (history.Pairwise fun x y => x.1 < y.1) ∧
      ∀ {n v}, (n, v) ∈ history ↔ m.get? (historyKey a n) = some v := by
  have hstart := List.isEmpty_eq_false_iff.mp (Id.bytes_ne_nil a)
  obtain ⟨found, hscan, hlisting⟩ := scan_listing m hstart
  have hnumbered := hlisting.numbered hm
  have hascending := hlisting.ascending
  refine ⟨found.map fun entry => (sequenceOf entry.1, entry.2), ?_, ?_, fun {n v} => ?_⟩
  · rw [hscan, List.map_map]
    rfl
  · rw [← hnumbered, List.pairwise_map] at hascending
    exact List.pairwise_map.mpr (hascending.imp lt_of_historyKey_lt)
  · have hstart : a.bytes <+: historyKey a n := List.prefix_append ..
    have hmem := hlisting.mem_iff (k := historyKey a n) (v := v)
    rw [and_iff_left hstart] at hmem
    rw [← hmem, List.mem_map]
    constructor
    · rintro ⟨entry, hentry, heq⟩
      obtain ⟨rfl, rfl⟩ := Prod.mk.inj heq
      rw [← hnumbered]
      exact List.mem_map.mpr ⟨entry, hentry, rfl⟩
    · intro hentry
      exact ⟨_, hentry, by rw [sequenceOf_historyKey]⟩

/-! ## Scans are exact -/

/-- A scan lists the values under the keys with its beginning, each once, in the order of the keys,
also if the beginning ends with the greatest byte or consists of it.  The empty beginning is
refused; it is not what the keys of an identity or those of a value begin with.  A key of a slot
begins with what an identity's keys begin with only if the slot is the identity's, and a key of a
value with what a value's keys begin with only if it is that value's; different slots have different
keys, and so have different addresses bound to values.  Among keys of histories, an address's
identifier leads to that address's challenges alone, in the order of their numbers. -/
theorem scans_exact :
    (∀ m start, start ≠ [] →
      ∃ found, scan m start = .ok (found.map (·.2)) ∧ Listing m start found) ∧
    (∀ m, scan m [] = .error .badKeySize) ∧
    (∀ identity, identityPrefix identity ≠ []) ∧ (∀ channel value, valuePrefix channel value ≠ []) ∧
    (∀ identity slot, (slotKey slot).length ≤ maxKeySize →
      (identityPrefix identity <+: slotKey slot ↔ identity = slot.identity)) ∧
    (∀ channel value channel' value' id, (valueKey channel' value' id).length ≤ maxKeySize →
      (valuePrefix channel value <+: valueKey channel' value' id ↔
        channel = channel' ∧ value = value')) ∧
    (∀ slot slot', slotKey slot = slotKey slot' → slot = slot') ∧
    (∀ channel value id channel' value' id',
      valueKey channel value id = valueKey channel' value' id' →
        channel = channel' ∧ value = value' ∧ id = id') ∧
    (∀ m a, OnlyHistories m → ∃ history : List (UInt64 × Bytes),
      scan m a.bytes = .ok (history.map (·.2)) ∧ (history.Pairwise fun x y => x.1 < y.1) ∧
        ∀ {n v}, (n, v) ∈ history ↔ m.get? (historyKey a n) = some v) := by
  refine ⟨fun m start => scan_listing m, fun m => rfl,
    fun identity => List.isEmpty_eq_false_iff.mp (identityPrefix_ne_nil identity),
    fun channel value => List.isEmpty_eq_false_iff.mp (valuePrefix_ne_nil channel value),
    fun identity slot hfits => ?_, fun channel value channel' value' id hfits => ?_,
    fun _ _ => slotKey_injective, fun _ _ _ _ _ _ => valueKey_injective,
    fun m a hm => scan_history hm a⟩
  · rw [← List.isPrefixOf_iff_prefix]
    exact (slotKey_startsWith_iff hfits identity).trans eq_comm
  · rw [← List.isPrefixOf_iff_prefix]
    exact (valueKey_startsWith_iff hfits channel value).trans
      (and_congr eq_comm eq_comm)

end Durable

namespace Sample

open Durable

/-- An address whose identifier consists of the greatest byte only. -/
def greatest : AddressId := ⟨List.replicate 16 0xFF, rfl⟩

/-- The neighbour before it. -/
def nextGreatest : AddressId := ⟨List.replicate 15 0xFF ++ [0xFE], rfl⟩

/-- The histories of both; a challenge with a smaller number was written after one with a greater. -/
def neighbours : ByteMap :=
  ((ByteMap.empty.insert (historyKey greatest 256) [1]).insert (historyKey greatest 255) [2]).insert
    (historyKey nextGreatest 7) [3]

theorem neighbours_onlyHistories : OnlyHistories neighbours := by
  intro k v hget
  simp only [neighbours, ByteMap.get?_insert] at hget
  split at hget
  · exact ⟨nextGreatest, 7, ‹_›⟩
  split at hget
  · exact ⟨greatest, 255, ‹_›⟩
  split at hget
  · exact ⟨greatest, 256, ‹_›⟩
  · cases hget

/-- An identity's name that begins another one does not lead to the other's slots, one byte leads to
every key with it, and no bound is needed to find the history of the last address. -/
theorem neighbours_scanned :
    ¬ identityPrefix ⟨"ab"⟩ <+: slotKey ⟨⟨"abc"⟩, .email⟩ ∧
      (∃ found, scan neighbours [0xFF] = .ok (found.map (·.2)) ∧
        Listing neighbours [0xFF] found ∧ (historyKey nextGreatest 7, [3]) ∈ found) ∧
      upperBound? greatest.bytes = none ∧
      ∃ history : List (UInt64 × Bytes),
        scan neighbours greatest.bytes = .ok (history.map (·.2)) ∧
        (history.Pairwise fun x y => x.1 < y.1) ∧
        (255, [2]) ∈ history ∧ (256, [1]) ∈ history ∧ ∀ n, (n, [3]) ∉ history := by
  have hfits : (slotKey ⟨⟨"abc"⟩, .email⟩).length ≤ maxKeySize := by decide
  obtain ⟨hlistings, -, -, -, hslots, -, -, -, hhistories⟩ := scans_exact
  refine ⟨fun hstart => ?_, ?_, by decide, ?_⟩
  · have hsame := (hslots ⟨"ab"⟩ ⟨⟨"abc"⟩, .email⟩ hfits).mp hstart
    exact absurd hsame (by decide)
  · obtain ⟨found, hscan, hlisting⟩ := hlistings neighbours [0xFF] (List.cons_ne_nil _ _)
    have hstored : neighbours.get? (historyKey nextGreatest 7) = some [3] := by decide
    exact ⟨found, hscan, hlisting, hlisting.mem_iff.mpr ⟨hstored, _, rfl⟩⟩
  obtain ⟨history, hscan, hascending, hmem⟩ :=
    hhistories neighbours greatest neighbours_onlyHistories
  refine ⟨history, hscan, hascending, hmem.mpr (by decide), hmem.mpr (by decide), fun n hn => ?_⟩
  -- the value stands under a key of the other address
  have hlisted : ([3] : Bytes) ∈ valuesUnder neighbours greatest.bytes := by
    rw [scan_of_ne_nil (Id.bytes_ne_nil greatest)] at hscan
    rw [Except.ok.inj hscan]
    exact List.mem_map.mpr ⟨_, hn, rfl⟩
  exact absurd hlisted (by decide)

/-- Every key begins with nothing, but a scan of the empty beginning lists none of the values. -/
theorem everything_not_scanned :
    valuesUnder neighbours [] = [[3], [2], [1]] ∧ scan neighbours [] = .error .badKeySize ∧
      ¬ ∃ found, scan neighbours [] = .ok (found.map (·.2)) ∧ Listing neighbours [] found := by
  refine ⟨by decide, rfl, ?_⟩
  rintro ⟨found, hscan, -⟩
  cases hscan

end Sample

end Vouch
