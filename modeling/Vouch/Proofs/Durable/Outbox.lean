import Vouch.Proofs.Durable.Listings

/-!
# The durable outbox

A durable outbox holds the messages of an outbox in memory, each in its encoding under its number.
The numbers count upwards from one, so the order of the keys is the order of the queue, and both
give the next message the same number as long as there is one.
-/

namespace Vouch

namespace MemoryOutbox

variable {id : UInt64} {queue : List QueuedMessage}

theorem markFirst_of_forall_ne (h : ∀ message ∈ queue, message.id ≠ id) :
    markFirst id queue = none := by
  induction queue with
  | nil => rfl
  | cons first rest ih =>
    rw [markFirst, if_neg (h first List.mem_cons_self),
      ih fun message hmem => h message (List.mem_cons_of_mem _ hmem)]
    rfl

-- Where numbers are not repeated, the first message with a number is the only one.
theorem markFirst_of_mem {message : QueuedMessage} (hmem : message ∈ queue)
    (hnodup : (queue.map fun message => message.id).Nodup) :
    markFirst message.id queue =
      some (queue.map fun other =>
        if other.id = message.id then { message with status := .sent } else other) := by
  induction queue with
  | nil => cases hmem
  | cons first rest ih =>
    obtain ⟨hfirst, hrest⟩ := List.nodup_cons.mp hnodup
    rcases List.mem_cons.mp hmem with rfl | hmem
    · have hother : ∀ other ∈ rest, (if other.id = message.id then
          { message with status := .sent } else other) = other := by
        intro other hin
        rw [if_neg]
        intro he
        exact hfirst (List.mem_map.mpr ⟨other, hin, he⟩)
      rw [markFirst, if_pos rfl, List.map_cons, if_pos rfl, List.map_congr_left hother,
        List.map_id']
    · have hne : first.id ≠ message.id := fun he =>
        hfirst (List.mem_map.mpr ⟨message, hmem, he.symm⟩)
      rw [markFirst, if_neg hne, ih hmem hrest, List.map_cons, if_neg hne]
      rfl

end MemoryOutbox

namespace Durable.MessageFile

/-! ## Numbers as keys -/

theorem length_key (id : UInt64) : (key id).length = 8 :=
  Bytes.length_bigEndian 8 id.toNat

theorem key_ne_nil (id : UInt64) : (key id).isEmpty = false := by
  have h := length_key id
  cases hk : key id with
  | nil => rw [hk] at h; cases h
  | cons _ _ => rfl

theorem key_fits (id : UInt64) : (key id).length ≤ maxKeySize := by
  rw [length_key]
  decide

theorem key_injective {a b : UInt64} (h : key a = key b) : a = b := by
  have hbound : ∀ id : UInt64, id.toNat < Nat.pow 256 8 := fun id => id.toNat_lt
  exact UInt64.toNat_inj.mp (Bytes.bigEndian_injective (hbound a) (hbound b) h)

theorem key_lt {a b : UInt64} (h : a.toNat < b.toNat) : Bytes.lt (key a) (key b) = true :=
  Bytes.lt_bigEndian h b.toNat_lt

theorem numberOf_key (id : UInt64) : numberOf (key id) = .ok id := by
  have hnumber : Bytes.ofBigEndian (key id) = id.toNat := by
    rw [key, Bytes.ofBigEndian_bigEndian]
    exact Nat.mod_eq_of_lt id.toNat_lt
  rw [numberOf, hnumber, UInt64.ofNat_toNat, if_pos (length_key id)]

/-! ## The relation -/

/-- What is stored of a message. -/
def entry (message : QueuedMessage) : Bytes × Bytes :=
  (key message.id, QueuedMessage.codec.encode message)

/-- The entries of a file are the messages of an outbox in memory. -/
structure Mirrors (s : MessageFile) (m : MemoryOutbox) : Prop where
  entries : s.messages.entries = m.queue.map entry
  /-- The messages are numbered from one, without gaps. -/
  numbers : (m.queue.map fun message => message.id.toNat) = List.range' 1 m.queue.length
  textsFit : ∀ message ∈ m.queue, message.mail.TextsFit

theorem mirrors_fresh : Environment.fresh.messages.Mirrors .empty where
  entries := rfl
  numbers := rfl
  textsFit _ h := nomatch h

namespace Mirrors

variable {s : MessageFile} {m : MemoryOutbox}

theorem nodup_ids (h : s.Mirrors m) : (m.queue.map fun message => message.id).Nodup := by
  have hnumbers : ((m.queue.map fun message => message.id).map UInt64.toNat).Nodup := by
    rw [List.map_map]
    show (m.queue.map fun message => message.id.toNat).Nodup
    rw [h.numbers]
    exact List.nodup_range' 1
  exact MemoryStore.nodup_of_ids hnumbers

-- The number of the last message is the number of messages.
theorem lastNumber (h : s.Mirrors m) : s.lastNumber = .ok (UInt64.ofNat m.queue.length) := by
  have hlast := congrArg List.getLast? h.numbers
  rw [List.getLast?_map, List.getLast?_range'] at hlast
  rw [MessageFile.lastNumber, ByteMap.last?, h.entries, List.getLast?_map]
  cases hq : m.queue.getLast? with
  | none =>
    rw [List.getLast?_eq_none_iff.mp hq]
    rfl
  | some message =>
    have hne : m.queue.length ≠ 0 := by
      intro hzero
      rw [List.length_eq_zero_iff.mp hzero] at hq
      cases hq
    rw [hq, if_neg hne, Option.map_some, Option.some.injEq] at hlast
    have hid : message.id = UInt64.ofNat m.queue.length := by
      rw [← UInt64.ofNat_toNat (x := message.id), hlast]
      congr 1
      omega
    rw [← hid]
    exact numberOf_key message.id

-- Before the numbers run out, all of them are less than the next one.
theorem lt_next (h : s.Mirrors m) (hroom : m.queue.length + 1 < UInt64.size)
    {message : QueuedMessage} (hmem : message ∈ m.queue) :
    message.id.toNat < (UInt64.ofNat (m.queue.length + 1)).toNat := by
  have hin : message.id.toNat ∈ m.queue.map fun message => message.id.toNat :=
    List.mem_map.mpr ⟨message, hmem, rfl⟩
  rw [h.numbers, List.mem_range'_1] at hin
  rw [UInt64.toNat_ofNat_of_lt' hroom]
  omega

/-! ## The calls -/

theorem enqueue (h : s.Mirrors m) {mail : Mail} (hfit : mail.TextsFit)
    (hroom : m.queue.length + 1 < UInt64.size) (now : Timestamp) :
    ∃ message s', MessageStore.enqueue mail now s = .ok (message, s') ∧
      MessageStore.enqueue mail now m = .ok (message, ⟨m.queue ++ [message]⟩) ∧
      s'.Mirrors ⟨m.queue ++ [message]⟩ := by
  let message : QueuedMessage :=
    { id := UInt64.ofNat (m.queue.length + 1), mail, status := .queued, createdAt := now }
  have hnext : UInt64.ofNat m.queue.length + 1 = message.id := by
    show _ = UInt64.ofNat (m.queue.length + 1)
    rw [UInt64.ofNat_add]
    rfl
  have hlast : ∀ e ∈ s.messages.entries, Bytes.lt e.1 (key message.id) = true := by
    intro e he
    rw [h.entries] at he
    obtain ⟨other, hother, rfl⟩ := List.mem_map.mp he
    exact key_lt (h.lt_next hroom hother)
  refine ⟨message, ⟨s.messages.insert (key message.id) (QueuedMessage.codec.encode message)⟩,
    ?_, rfl, ?_, ?_, ?_⟩
  · simp only [MessageStore.enqueue, h.lastNumber, bind, Except.bind, hnext]
    rw [write_of_fits (key_ne_nil _) (key_fits _)]
    rfl
  · rw [ByteMap.entries_insert_of_forall_lt _ _ hlast, h.entries, List.map_append]
    rfl
  · rw [List.map_append, h.numbers, List.length_append, List.length_singleton,
      List.range'_1_concat, Nat.add_comm 1]
    exact congrArg (_ ++ [·]) (UInt64.toNat_ofNat_of_lt' hroom)
  · intro other hmem
    rcases List.mem_append.mp hmem with hmem | hmem
    · exact h.textsFit other hmem
    · rw [List.mem_singleton.mp hmem]
      exact hfit

theorem messages (h : s.Mirrors m) (status : Option MessageStatus) :
    MessageStore.messages status s = MessageStore.messages status m := by
  have hall : (m.queue.map entry).mapM (fun e => decode QueuedMessage.codec e.2) =
      .ok m.queue :=
    mapM_map_ok fun message hmem =>
      decode_encode (QueuedMessage.codec_readsBack (h.textsFit message hmem))
  simp only [MessageStore.messages, h.entries, hall]
  rfl

-- A message is found under its number.
theorem get?_key (h : s.Mirrors m) {message : QueuedMessage} (hmem : message ∈ m.queue) :
    s.messages.get? (key message.id) = some (QueuedMessage.codec.encode message) := by
  rw [← ByteMap.mem_entries_iff, h.entries]
  exact List.mem_map.mpr ⟨message, hmem, rfl⟩

theorem get?_key_of_forall_ne (h : s.Mirrors m) {id : UInt64}
    (hid : ∀ message ∈ m.queue, message.id ≠ id) : s.messages.get? (key id) = none := by
  cases hget : s.messages.get? (key id) with
  | none => rfl
  | some v =>
    rw [← ByteMap.mem_entries_iff, h.entries] at hget
    obtain ⟨message, hmem, he⟩ := List.mem_map.mp hget
    exact absurd (key_injective (congrArg (·.1) he)) (hid message hmem)

theorem markSent_unknown (h : s.Mirrors m) {id : UInt64}
    (hid : ∀ message ∈ m.queue, message.id ≠ id) :
    MessageStore.markSent id s = .error (.notFound (.message id)) ∧
      MessageStore.markSent id m = .error (.notFound (.message id)) := by
  constructor
  · simp only [MessageStore.markSent, readRecord, read_of_ne_nil (key_ne_nil id),
      h.get?_key_of_forall_ne hid]
    rfl
  · simp only [MessageStore.markSent, MemoryOutbox.markFirst_of_forall_ne hid]

theorem markSent_known (h : s.Mirrors m) {message : QueuedMessage} (hmem : message ∈ m.queue) :
    ∃ s' m', MessageStore.markSent message.id s = .ok s' ∧
      MessageStore.markSent message.id m = .ok m' ∧ s'.Mirrors m' ∧
      m'.queue.length = m.queue.length := by
  let sent : QueuedMessage := { message with status := .sent }
  have hdecode := decode_encode (QueuedMessage.codec_readsBack (h.textsFit message hmem))
  have hids : ∀ other ∈ m.queue,
      (if other.id = message.id then sent else other).id.toNat = other.id.toNat := by
    intro other _
    split
    · rename_i he
      rw [he]
    · rfl
  refine ⟨⟨s.messages.insert (key message.id) (QueuedMessage.codec.encode sent)⟩,
    ⟨m.queue.map fun other => if other.id = message.id then sent else other⟩, ?_, ?_,
    ⟨?_, ?_, ?_⟩, List.length_map ..⟩
  · simp only [MessageStore.markSent, readRecord, read_of_ne_nil (key_ne_nil _), h.get?_key hmem,
      bind, Except.bind, hdecode, pure, Except.pure]
    rw [write_of_fits (key_ne_nil _) (key_fits _)]
  · simp only [MessageStore.markSent, MemoryOutbox.markFirst_of_mem hmem h.nodup_ids]
    rfl
  · rw [ByteMap.entries_insert_of_get?_eq_some (h.get?_key hmem), h.entries, List.map_map,
      List.map_map]
    apply List.map_congr_left
    intro other _
    simp only [Function.comp_apply]
    by_cases he : other.id = message.id
    · have hkey : (entry other).1 = key message.id := congrArg key he
      rw [if_pos hkey, if_pos he]
      rfl
    · have hkey : (entry other).1 ≠ key message.id := fun hk => he (key_injective hk)
      rw [if_neg hkey, if_neg he]
  · rw [List.map_map, List.length_map, ← h.numbers]
    exact List.map_congr_left hids
  · intro other hin
    obtain ⟨old, hold, rfl⟩ := List.mem_map.mp hin
    split
    · exact h.textsFit message hmem
    · exact h.textsFit old hold

end Mirrors

end Durable.MessageFile

end Vouch
