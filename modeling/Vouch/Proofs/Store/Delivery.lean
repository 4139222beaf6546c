import Mathlib.Data.List.Induction
import Vouch.Courier
import Vouch.Proofs.Durable.Outbox

/-!
# Delivery

Mails are put into an outbox one after the other, and couriers come for what waits there, each with
a transport of its own that may refuse any mail.  Whatever the transports do, they accept the mails
in the order they were put in, each once, and the messages marked as sent are those accepted.
-/

namespace Vouch

/-- A mail that was put into an outbox, and when. -/
structure Posted where
  mail : Mail
  time : Timestamp

/-- An outbox that behaves as an outbox in memory does. -/
class Outbox (μ : Type) [MessageStore μ] where
  /-- The outbox without messages. -/
  empty : μ
  /-- An outbox and an outbox in memory that holds the same messages. -/
  Shows : μ → MemoryOutbox → Prop
  /-- Whether there is a form in which a mail is kept. -/
  Storable : Mail → Prop
  shows_empty : Shows empty .empty
  enqueue_shows {s : μ} {m : MemoryOutbox} (h : Shows s m) {mail : Mail} (now : Timestamp) :
    Storable mail → m.queue.length + 1 < UInt64.size →
      ∃ message s', MessageStore.enqueue mail now s = .ok (message, s') ∧
        MessageStore.enqueue mail now m = .ok (message, ⟨m.queue ++ [message]⟩) ∧
        Shows s' ⟨m.queue ++ [message]⟩
  messages_eq {s : μ} {m : MemoryOutbox} (h : Shows s m) (status : Option MessageStatus) :
    MessageStore.messages status s = MessageStore.messages status m
  markSent_shows {s : μ} {m : MemoryOutbox} (h : Shows s m) {message : QueuedMessage} :
    message ∈ m.queue → (m.queue.map fun message => message.id).Nodup →
      ∃ s' m', MessageStore.markSent message.id s = .ok s' ∧
        MessageStore.markSent message.id m = .ok m' ∧ Shows s' m'

instance : Outbox MemoryOutbox where
  empty := .empty
  Shows s m := s = m
  Storable _ := True
  shows_empty := rfl
  enqueue_shows {s m} h mail now _ _ := by
    subst h
    exact ⟨_, _, rfl, rfl, rfl⟩
  messages_eq {s m} h status := by rw [h]
  markSent_shows {s m} h message hmem hnodup := by
    subst h
    simp only [MessageStore.markSent, MemoryOutbox.markFirst_of_mem hmem hnodup]
    exact ⟨_, _, rfl, rfl, rfl⟩

instance : Outbox Durable.MessageFile where
  empty := Durable.Environment.fresh.messages
  Shows := Durable.MessageFile.Mirrors
  Storable := Mail.TextsFit
  shows_empty := Durable.MessageFile.mirrors_fresh
  enqueue_shows h _ now hfit hroom := h.enqueue hfit hroom now
  messages_eq h status := h.messages status
  markSent_shows h _ hmem _ := by
    obtain ⟨s', m', hs, hm, hmirrors, -⟩ := h.markSent_known hmem
    exact ⟨s', m', hs, hm, hmirrors⟩

/-! ## The messages of an outbox -/

def QueuedMessage.asSent (message : QueuedMessage) : QueuedMessage :=
  { message with status := .sent }

namespace Posted

/-- The message for a mail that was put in after some others, as it waits. -/
def message (post : Posted) (before : Nat) : QueuedMessage :=
  ⟨.ofNat (before + 1), post.mail, .queued, post.time⟩

/-- The messages for the mails that were put in, as long as all of them wait. -/
def messages (posts : List Posted) : List QueuedMessage :=
  posts.mapIdx fun i post => post.message i

/-- The messages after the first of them were delivered. -/
def queue (posts : List Posted) (delivered : Nat) : List QueuedMessage :=
  ((messages posts).take delivered).map QueuedMessage.asSent ++ (messages posts).drop delivered

variable {posts : List Posted} {n : Nat}

@[simp] theorem length_messages : (messages posts).length = posts.length := List.length_mapIdx

theorem messages_concat (posts : List Posted) (post : Posted) :
    messages (posts ++ [post]) = messages posts ++ [post.message posts.length] :=
  List.mapIdx_concat

theorem drop_messages (h : n < posts.length) :
    (messages posts).drop n = posts[n].message n :: (messages posts).drop (n + 1) := by
  rw [List.drop_eq_getElem_cons (by rwa [length_messages])]
  congr 1
  exact List.getElem_mapIdx

theorem take_messages (h : n < posts.length) :
    (messages posts).take (n + 1) = (messages posts).take n ++ [posts[n].message n] := by
  rw [List.take_add_one, ← List.head?_drop, drop_messages h]
  rfl

theorem status_of_mem {message : QueuedMessage} (h : message ∈ messages posts) :
    message.status = .queued := by
  obtain ⟨i, hi, rfl⟩ := List.mem_mapIdx.mp h
  rfl

-- There are as many numbers as messages while the numbers last.
theorem nodup_ids (h : posts.length < UInt64.size) :
    ((messages posts).map fun message => message.id).Nodup := by
  have hnumbers : ((messages posts).map fun message => message.id).map UInt64.toNat =
      List.range' 1 posts.length := by
    refine List.ext_getElem (by simp) fun i hi _ => ?_
    have hi' : i < posts.length := by simpa using hi
    simp only [messages, message, List.getElem_map, List.getElem_mapIdx, List.getElem_range']
    rw [UInt64.toNat_ofNat_of_lt' (by omega)]
    omega
  have hnodup : (List.range' 1 posts.length).Nodup := List.nodup_range' 1
  rw [← hnumbers] at hnodup
  exact MemoryStore.nodup_of_ids hnodup

theorem length_queue : (queue posts n).length = posts.length := by
  rw [queue, List.length_append, List.length_map, ← List.length_append, List.take_append_drop,
    length_messages]

theorem ids_queue : ((queue posts n).map fun message => message.id) =
    (messages posts).map fun message => message.id := by
  rw [queue, List.map_append, List.map_map]
  show ((messages posts).take n).map (fun message => message.id) ++ _ = _
  rw [← List.map_append, List.take_append_drop]

theorem queue_concat (h : n ≤ posts.length) (post : Posted) :
    queue (posts ++ [post]) n = queue posts n ++ [post.message posts.length] := by
  have h' : n ≤ (messages posts).length := by rwa [length_messages]
  rw [queue, queue, messages_concat, List.take_append_of_le_length h',
    List.drop_append_of_le_length h', List.append_assoc]

theorem sent_of_queue : (queue posts n).filter (fun message => message.status = .sent) =
    ((messages posts).take n).map QueuedMessage.asSent := by
  rw [queue, List.filter_append, List.filter_eq_self.mpr, List.filter_eq_nil_iff.mpr,
    List.append_nil]
  · intro message hmem
    rw [status_of_mem (List.mem_of_mem_drop hmem)]
    decide
  · intro message hmem
    obtain ⟨_, -, rfl⟩ := List.mem_map.mp hmem
    rfl

theorem queued_of_queue : (queue posts n).filter (fun message => message.status = .queued) =
    (messages posts).drop n := by
  rw [queue, List.filter_append, List.filter_eq_nil_iff.mpr, List.filter_eq_self.mpr,
    List.nil_append]
  · intro message hmem
    rw [status_of_mem (List.mem_of_mem_drop hmem)]
    decide
  · intro message hmem
    obtain ⟨_, -, rfl⟩ := List.mem_map.mp hmem
    simp [QueuedMessage.asSent]

-- Marking the first message that waits is all that a delivery does to the queue.
theorem mark_queue (hsize : posts.length < UInt64.size) (h : n < posts.length) :
    ((queue posts n).map fun other =>
        if other.id = (posts[n].message n).id then (posts[n].message n).asSent else other) =
      queue posts (n + 1) := by
  have hids := nodup_ids hsize
  rw [← List.take_append_drop n (messages posts), drop_messages h, List.map_append,
    List.nodup_append] at hids
  obtain ⟨-, hafter, hbefore⟩ := hids
  rw [List.map_cons, List.nodup_cons] at hafter
  rw [queue, queue, take_messages h, drop_messages h, List.map_append, List.map_append,
    List.map_cons, if_pos rfl, List.append_assoc]
  congr 1
  · rw [List.map_map]
    refine List.map_congr_left fun message hmem => if_neg ?_
    exact hbefore _ (List.mem_map_of_mem hmem) _ List.mem_cons_self
  · rw [List.map_singleton, List.singleton_append]
    congr 1
    refine (List.map_congr_left fun message hmem => if_neg ?_).trans (List.map_id' _)
    intro he
    exact hafter.1 (List.mem_map.mpr ⟨message, hmem, he⟩)

end Posted

/-- What an outbox lists when the first mails that were put in are delivered. -/
structure Outbox.Lists {μ : Type} [MessageStore μ] (s : μ) (posts : List Posted)
    (delivered : Nat) : Prop where
  all : MessageStore.messages none s = .ok (Posted.queue posts delivered)
  sent : MessageStore.messages (some .sent) s =
    .ok (((Posted.messages posts).take delivered).map QueuedMessage.asSent)
  queued : MessageStore.messages (some .queued) s = .ok ((Posted.messages posts).drop delivered)

/-- An outbox in which the first mails that were put in are delivered. -/
structure Outbox.Holds {μ : Type} [MessageStore μ] [Outbox μ] (s : μ) (posts : List Posted)
    (delivered : Nat) : Prop where
  shows : Outbox.Shows s ⟨Posted.queue posts delivered⟩
  delivered_le : delivered ≤ posts.length
  size : posts.length < UInt64.size

namespace Outbox.Holds

open Posted

variable {μ : Type} [MessageStore μ] [Outbox μ] {s : μ} {posts : List Posted} {n : Nat}

theorem lists (h : Holds s posts n) : Lists s posts n where
  all := by
    rw [messages_eq h.shows]
    exact congrArg Except.ok (List.filter_eq_self.mpr fun _ _ => rfl)
  sent := by
    rw [messages_eq h.shows, ← sent_of_queue]
    rfl
  queued := by
    rw [messages_eq h.shows, ← queued_of_queue]
    rfl

/-- The next mail gets the next number, and waits at the end. -/
theorem enqueue (h : Holds s posts n) (post : Posted) (hstorable : Storable μ post.mail)
    (hroom : posts.length + 1 < UInt64.size) :
    ∃ s', MessageStore.enqueue post.mail post.time s = .ok (post.message posts.length, s') ∧
      Holds s' (posts ++ [post]) n := by
  obtain ⟨message, s', hs, hm, hshows⟩ :=
    enqueue_shows h.shows post.time hstorable (by rwa [length_queue])
  cases hm
  refine ⟨s', ?_, ?_, ?_, ?_⟩
  · rw [hs, length_queue]
    rfl
  · rw [queue_concat h.delivered_le]
    rwa [length_queue] at hshows
  · rw [List.length_append]
    exact Nat.le_add_right_of_le h.delivered_le
  · rwa [List.length_append]

/-- The first message that waits can be marked. -/
theorem markSent (h : Holds s posts n) (hn : n < posts.length) :
    ∃ s', MessageStore.markSent (posts[n].message n).id s = .ok s' ∧
      Holds s' posts (n + 1) := by
  have hmem : posts[n].message n ∈ queue posts n := by
    rw [queue, drop_messages hn]
    exact List.mem_append_right _ List.mem_cons_self
  have hnodup : ((queue posts n).map fun message => message.id).Nodup := by
    rw [ids_queue]
    exact nodup_ids h.size
  obtain ⟨s', m', hs, hm, hshows⟩ := markSent_shows h.shows hmem hnodup
  simp only [MessageStore.markSent, MemoryOutbox.markFirst_of_mem hmem hnodup] at hm
  cases hm
  refine ⟨s', hs, ?_, hn, h.size⟩
  rw [← mark_queue h.size hn]
  exact hshows

end Outbox.Holds

/-! ## One dispatch -/

/-- A transport that is watched: the mails it accepts are written down. -/
structure Watched (τ : Type) where
  transport : τ
  accepted : List Mail

instance {τ : Type} [MailTransport τ] : MailTransport (Watched τ) where
  send mail now watched :=
    match MailTransport.send mail now watched.transport with
    | .error e => .error e
    | .ok transport => .ok ⟨transport, watched.accepted ++ [mail]⟩

namespace Watched

variable {τ : Type} [MailTransport τ] {watched : Watched τ} {mail : Mail} {now : Timestamp}

theorem send_of_error {e : MailError}
    (h : MailTransport.send mail now watched.transport = .error e) :
    MailTransport.send mail now watched = .error e := by
  show (match MailTransport.send mail now watched.transport with | .error e => _ | .ok _ => _) = _
  rw [h]

theorem send_of_ok {transport : τ}
    (h : MailTransport.send mail now watched.transport = .ok transport) :
    MailTransport.send mail now watched = .ok ⟨transport, watched.accepted ++ [mail]⟩ := by
  show (match MailTransport.send mail now watched.transport with | .error e => _ | .ok _ => _) = _
  rw [h]

end Watched

namespace Courier

open Posted Outbox

variable {μ τ : Type} [MailTransport τ]

def unwatched (courier : Courier μ (Watched τ)) : Courier μ τ :=
  ⟨courier.outbox, courier.transport.transport⟩

/-- Two ways to the same end, one of them watched. -/
inductive SameEnd {α : Type} : EStateM.Result DeliveryError (Courier μ (Watched τ)) α →
    EStateM.Result DeliveryError (Courier μ τ) α → Prop where
  | ok (a : α) (courier : Courier μ (Watched τ)) : SameEnd (.ok a courier) (.ok a courier.unwatched)
  | error (e : DeliveryError) (courier : Courier μ (Watched τ)) :
    SameEnd (.error e courier) (.error e courier.unwatched)

variable [MessageStore μ]

/-- How a dispatch ends that came to a message: there is none left, or the transport refuses it. -/
inductive Ends (posts : List Posted) (before after : Nat) (now : Timestamp)
    (courier : Courier μ (Watched τ)) :
    EStateM.Result DeliveryError (Courier μ (Watched τ)) Nat → Prop where
  | all : after = posts.length → Ends posts before after now courier (.ok (after - before) courier)
  | refused (h : after < posts.length) {e : MailError} :
    MailTransport.send posts[after].mail now courier.transport.transport = .error e →
      Ends posts before after now courier (.error (.mail e) courier)

omit [MailTransport τ] [MessageStore μ] in
-- What follows once the courier is looked at.
theorem get_bind {α : Type} (f : Courier μ τ → EStateM DeliveryError (Courier μ τ) α)
    (courier : Courier μ τ) : (get >>= f) courier = f courier courier := rfl

theorem deliver_eq (now : Timestamp) (message : QueuedMessage) (courier : Courier μ τ) :
    deliver now message courier =
      match MailTransport.send message.mail now courier.transport with
      | .error e => .error (.mail e) courier
      | .ok transport =>
        match MessageStore.markSent message.id courier.outbox with
        | .error e => .error (.store e) ⟨courier.outbox, transport⟩
        | .ok outbox => .ok () ⟨outbox, transport⟩ := by
  rw [deliver, get_bind]
  cases MailTransport.send message.mail now courier.transport with
  | error e => rfl
  | ok transport =>
    show EStateM.bind _ _ _ = _
    rw [EStateM.bind]
    cases MessageStore.markSent message.id courier.outbox <;> rfl

theorem forM_cons (now : Timestamp) (message : QueuedMessage) (rest : List QueuedMessage)
    (courier : Courier μ τ) :
    (message :: rest).forM (deliver now) courier =
      match deliver now message courier with
      | .error e courier => .error e courier
      | .ok _ courier => rest.forM (deliver now) courier := by
  show EStateM.bind _ _ _ = _
  rw [EStateM.bind]
  cases deliver now message courier <;> rfl

theorem dispatch_eq (now : Timestamp) (courier : Courier μ τ) {waiting : List QueuedMessage}
    (h : MessageStore.messages (some .queued) courier.outbox = .ok waiting) :
    dispatch now courier =
      match waiting.forM (deliver now) courier with
      | .error e courier => .error e courier
      | .ok _ courier => .ok waiting.length courier := by
  rw [dispatch, get_bind, h]
  show EStateM.bind _ _ _ = _
  rw [EStateM.bind]
  cases waiting.forM (deliver now) courier <;> rfl

theorem dispatch_of_error (now : Timestamp) (courier : Courier μ τ) {e : StoreError}
    (h : MessageStore.messages (some .queued) courier.outbox = .error e) :
    dispatch now courier = .error (.store e) courier := by
  rw [dispatch, get_bind, h]
  rfl

theorem deliver_watched (now : Timestamp) (message : QueuedMessage)
    (courier : Courier μ (Watched τ)) :
    SameEnd (deliver now message courier) (deliver now message courier.unwatched) := by
  rw [deliver_eq, deliver_eq]
  cases hsend : MailTransport.send message.mail now courier.transport.transport with
  | error e =>
    rw [Watched.send_of_error hsend]
    simp only [unwatched, hsend]
    exact .error _ courier
  | ok transport =>
    rw [Watched.send_of_ok hsend]
    simp only [unwatched, hsend]
    cases MessageStore.markSent message.id courier.outbox with
    | error e => exact .error _ ⟨courier.outbox, ⟨transport, _⟩⟩
    | ok outbox => exact .ok () ⟨outbox, ⟨transport, _⟩⟩

theorem forM_watched (now : Timestamp) (waiting : List QueuedMessage)
    (courier : Courier μ (Watched τ)) :
    SameEnd (waiting.forM (deliver now) courier)
      (waiting.forM (deliver now) courier.unwatched) := by
  induction waiting generalizing courier with
  | nil => exact .ok () courier
  | cons message rest ih =>
    rw [forM_cons, forM_cons]
    have hfirst := deliver_watched now message courier
    generalize deliver now message courier = watched at hfirst
    generalize deliver now message courier.unwatched = plain at hfirst
    cases hfirst with
    | ok _ courier => exact ih courier
    | error e courier => exact .error e courier

/-- Watching a transport changes nothing about a dispatch. -/
theorem dispatch_watched (now : Timestamp) (courier : Courier μ (Watched τ)) :
    SameEnd (dispatch now courier) (dispatch now courier.unwatched) := by
  cases hlist : MessageStore.messages (some .queued) courier.outbox with
  | error e =>
    rw [dispatch_of_error now courier hlist, dispatch_of_error now courier.unwatched hlist]
    exact .error _ courier
  | ok waiting =>
    rw [dispatch_eq now courier hlist, dispatch_eq now courier.unwatched hlist]
    have hend := forM_watched now waiting courier
    generalize waiting.forM (deliver now) courier = watched at hend
    generalize waiting.forM (deliver now) courier.unwatched = plain at hend
    cases hend with
    | ok _ courier => exact .ok _ courier
    | error e courier => exact .error e courier

variable [Outbox μ] {posts : List Posted} {n : Nat}

/-- What the messages that wait come to: some are delivered in their order, and if these are not
all of them, the transport refuses the next one. -/
theorem forM_deliver (now : Timestamp) (left : Nat) (courier : Courier μ (Watched τ))
    (h : Holds courier.outbox posts n) (hleft : n + left = posts.length)
    (haccepted : courier.transport.accepted = (posts.take n).map fun post => post.mail) :
    ∃ k courier', n ≤ k ∧ Holds courier'.outbox posts k ∧
      courier'.transport.accepted = ((posts.take k).map fun post => post.mail) ∧
      (k = posts.length ∧ ((messages posts).drop n).forM (deliver now) courier = .ok () courier' ∨
        ∃ (hk : k < posts.length) (e : MailError),
          MailTransport.send posts[k].mail now courier'.transport.transport = .error e ∧
            ((messages posts).drop n).forM (deliver now) courier = .error (.mail e) courier') := by
  induction left generalizing n courier with
  | zero =>
    refine ⟨n, courier, Nat.le_refl n, h, haccepted, .inl ⟨hleft, ?_⟩⟩
    rw [List.drop_eq_nil_of_le (by rw [length_messages]; omega)]
    rfl
  | succ left ih =>
    have hn : n < posts.length := by omega
    rw [drop_messages hn, forM_cons, deliver_eq]
    cases hsend : MailTransport.send posts[n].mail now courier.transport.transport with
    | error e =>
      rw [show MailTransport.send (posts[n].message n).mail now courier.transport = _ from
        Watched.send_of_error hsend]
      exact ⟨n, courier, Nat.le_refl n, h, haccepted, .inr ⟨hn, e, hsend, rfl⟩⟩
    | ok transport =>
      obtain ⟨outbox, hmark, hholds⟩ := h.markSent hn
      rw [show MailTransport.send (posts[n].message n).mail now courier.transport = _ from
        Watched.send_of_ok hsend]
      simp only [hmark]
      have htake : courier.transport.accepted ++ [posts[n].mail] =
          (posts.take (n + 1)).map fun post => post.mail := by
        rw [haccepted, List.take_add_one, List.getElem?_eq_getElem hn, List.map_append]
        rfl
      obtain ⟨k, courier', hle, hrest⟩ :=
        ih ⟨outbox, transport, _⟩ hholds (by omega) htake
      exact ⟨k, courier', by omega, hrest⟩

/-- A dispatch delivers the messages that wait in their order, until there is none left or the
transport refuses one. -/
theorem dispatch_ends (now : Timestamp) (courier : Courier μ (Watched τ))
    (h : Holds courier.outbox posts n)
    (haccepted : courier.transport.accepted = (posts.take n).map fun post => post.mail) :
    ∃ k courier', n ≤ k ∧ Holds courier'.outbox posts k ∧
      courier'.transport.accepted = ((posts.take k).map fun post => post.mail) ∧
      Ends posts n k now courier' (dispatch now courier) := by
  obtain ⟨k, courier', hle, hholds, haccepted', hend⟩ :=
    forM_deliver now (posts.length - n) courier h (Nat.add_sub_cancel' h.delivered_le) haccepted
  refine ⟨k, courier', hle, hholds, haccepted', ?_⟩
  rw [dispatch_eq now courier h.lists.queued]
  rcases hend with ⟨hk, hok⟩ | ⟨hk, e, hsend, herror⟩
  · rw [hok, List.length_drop, length_messages, ← hk]
    exact .all hk
  · rw [herror]
    exact .refused hk hsend

end Courier

/-! ## All runs -/

/-- What is done with an outbox: mails are put in, and couriers come with transports. -/
inductive OutboxCall : Type 1 where
  | enqueue (mail : Mail) (now : Timestamp)
  | dispatch {τ : Type} [MailTransport τ] (transport : τ) (now : Timestamp)

namespace OutboxCall

def posted? : OutboxCall → Option Posted
  | .enqueue mail now => some ⟨mail, now⟩
  | _ => none

/-- The mails that are put in, in their order. -/
def posts (calls : List OutboxCall) : List Posted := calls.filterMap posted?

end OutboxCall

/-- An outbox, and the mails that transports accepted from it so far. -/
structure OutboxRun (μ : Type) where
  outbox : μ
  accepted : List Mail

namespace OutboxRun

open Outbox

variable {μ : Type} [MessageStore μ]

def after (r : OutboxRun μ) : OutboxCall → OutboxRun μ
  | .enqueue mail now =>
    match MessageStore.enqueue mail now r.outbox with
    | .ok (_, outbox) => { r with outbox }
    | .error _ => r
  | @OutboxCall.dispatch τ _ transport now =>
    match Courier.dispatch now ⟨r.outbox, (⟨transport, r.accepted⟩ : Watched τ)⟩ with
    | .ok _ courier | .error _ courier => ⟨courier.outbox, courier.transport.accepted⟩

variable [Outbox μ]

/-- The run of some calls from an empty outbox. -/
def of (calls : List OutboxCall) : OutboxRun μ := calls.foldl after ⟨empty, []⟩

/-- The first mails that were put in are accepted and marked, each once; the others wait, and the
next dispatch takes up there. -/
def Orderly (r : OutboxRun μ) (posts : List Posted) : Prop :=
  ∃ n ≤ posts.length, r.accepted = ((posts.take n).map fun post => post.mail) ∧
    Lists r.outbox posts n ∧
    ∀ {τ : Type} [MailTransport τ] (transport : τ) (now : Timestamp),
      ∃ (k : Nat) (courier : Courier μ (Watched τ)),
        n ≤ k ∧ Lists courier.outbox posts k ∧
        courier.transport.accepted = ((posts.take k).map fun post => post.mail) ∧
        Courier.Ends posts n k now courier
          (Courier.dispatch now ⟨r.outbox, (⟨transport, r.accepted⟩ : Watched τ)⟩) ∧
        Courier.SameEnd (Courier.dispatch now ⟨r.outbox, (⟨transport, r.accepted⟩ : Watched τ)⟩)
          (Courier.dispatch now ⟨r.outbox, transport⟩)

/-- What a run has delivered, as its outbox keeps it. -/
structure Keeps (r : OutboxRun μ) (posts : List Posted) (n : Nat) : Prop where
  holds : Holds r.outbox posts n
  accepted : r.accepted = (posts.take n).map fun post => post.mail

theorem Keeps.orderly {r : OutboxRun μ} {posts : List Posted} {n : Nat} (h : r.Keeps posts n) :
    r.Orderly posts := by
  refine ⟨n, h.holds.delivered_le, h.accepted, h.holds.lists, fun {τ} _ transport now => ?_⟩
  obtain ⟨k, courier, hle, hholds, haccepted, hend⟩ :=
    Courier.dispatch_ends now ⟨r.outbox, ⟨transport, r.accepted⟩⟩ h.holds h.accepted
  exact ⟨k, courier, hle, hholds.lists, haccepted, hend, Courier.dispatch_watched now _⟩

theorem Keeps.enqueue {r : OutboxRun μ} {posts : List Posted} {n : Nat} (h : r.Keeps posts n)
    (post : Posted) (hstorable : Storable μ post.mail) (hroom : posts.length + 1 < UInt64.size) :
    (r.after (.enqueue post.mail post.time)).Keeps (posts ++ [post]) n := by
  obtain ⟨outbox, henqueue, hholds⟩ := h.holds.enqueue post hstorable hroom
  simp only [after, henqueue]
  exact ⟨hholds, by rw [List.take_append_of_le_length h.holds.delivered_le]; exact h.accepted⟩

theorem Keeps.dispatch {r : OutboxRun μ} {posts : List Posted} {n : Nat} (h : r.Keeps posts n)
    {τ : Type} [MailTransport τ] (transport : τ) (now : Timestamp) :
    ∃ k, (r.after (.dispatch transport now)).Keeps posts k := by
  obtain ⟨k, courier, -, hholds, haccepted, hend⟩ :=
    Courier.dispatch_ends now ⟨r.outbox, ⟨transport, r.accepted⟩⟩ h.holds h.accepted
  refine ⟨k, ?_⟩
  simp only [after]
  generalize Courier.dispatch now ⟨r.outbox, (⟨transport, r.accepted⟩ : Watched τ)⟩ = result at hend
  cases hend <;> exact ⟨hholds, haccepted⟩

/-- Whatever was called, the first mails are delivered; which of them is up to the transports. -/
theorem keeps_of (calls : List OutboxCall)
    (hstorable : ∀ post ∈ OutboxCall.posts calls, Storable μ post.mail)
    (hsize : (OutboxCall.posts calls).length < UInt64.size) :
    ∃ n, (of calls : OutboxRun μ).Keeps (OutboxCall.posts calls) n := by
  induction calls using List.reverseRecOn with
  | nil =>
    exact ⟨0, ⟨shows_empty, Nat.le_refl 0, hsize⟩, rfl⟩
  | append_singleton calls call ih =>
    have hposts : OutboxCall.posts (calls ++ [call]) =
        OutboxCall.posts calls ++ (call.posted?).toList := by
      rw [OutboxCall.posts, List.filterMap_append]
      cases call <;> rfl
    rw [hposts] at hstorable hsize ⊢
    rw [List.length_append] at hsize
    obtain ⟨n, hn⟩ := ih (fun post hmem => hstorable post (List.mem_append_left _ hmem)) (by omega)
    rw [of, List.foldl_append]
    cases call with
    | enqueue mail now =>
      exact ⟨n, hn.enqueue ⟨mail, now⟩
        (hstorable _ (List.mem_append_right _ List.mem_cons_self)) hsize⟩
    | dispatch transport now =>
      rw [show (OutboxCall.dispatch transport now).posted?.toList = [] from rfl, List.append_nil]
      exact hn.dispatch transport now

/-- In memory and on disk, whatever the transports refuse: the mails that they accept are the first
of those that were put in, each once and in their order, and these are the ones marked as sent. -/
theorem orderly_of :
    (∀ calls, (OutboxCall.posts calls).length < UInt64.size →
      (of calls : OutboxRun MemoryOutbox).Orderly (OutboxCall.posts calls)) ∧
    ∀ calls, (OutboxCall.posts calls).length < UInt64.size →
      (∀ post ∈ OutboxCall.posts calls, post.mail.TextsFit) →
      (of calls : OutboxRun Durable.MessageFile).Orderly (OutboxCall.posts calls) := by
  constructor
  · intro calls hsize
    obtain ⟨n, hn⟩ := keeps_of (μ := MemoryOutbox) calls (fun _ _ => trivial) hsize
    exact hn.orderly
  · intro calls hsize hfit
    obtain ⟨n, hn⟩ := keeps_of (μ := Durable.MessageFile) calls hfit hsize
    exact hn.orderly

/-- A transport that accepts a number of mails and refuses the others. -/
structure Limited where
  left : Nat

instance : MailTransport Limited where
  send _ _ transport :=
    match transport.left with
    | 0 => .error (.transport "connection closed")
    | left + 1 => .ok ⟨left⟩

/-- Three mails, of which a first dispatch delivers one and a second dispatch the rest. -/
def interrupted : List OutboxCall :=
  [.enqueue (.unknownAddress ⟨"ann"⟩) ⟨1⟩, .enqueue (.unknownAddress ⟨"bob"⟩) ⟨2⟩,
    .dispatch (Limited.mk 1) ⟨3⟩, .enqueue (.unknownAddress ⟨"ann"⟩) ⟨4⟩,
    .dispatch (Limited.mk 5) ⟨5⟩]

theorem interrupted_orderly :
    (of interrupted : OutboxRun MemoryOutbox).Orderly (OutboxCall.posts interrupted) ∧
      (of interrupted : OutboxRun Durable.MessageFile).Orderly (OutboxCall.posts interrupted) ∧
      (of interrupted : OutboxRun MemoryOutbox).accepted =
        [.unknownAddress ⟨"ann"⟩, .unknownAddress ⟨"bob"⟩, .unknownAddress ⟨"ann"⟩] := by
  have hposts : OutboxCall.posts interrupted = [⟨.unknownAddress ⟨"ann"⟩, ⟨1⟩⟩,
      ⟨.unknownAddress ⟨"bob"⟩, ⟨2⟩⟩, ⟨.unknownAddress ⟨"ann"⟩, ⟨4⟩⟩] := rfl
  have hsize : (OutboxCall.posts interrupted).length < UInt64.size := by
    rw [hposts]
    decide
  have hfits : TextFits "ann" ∧ TextFits "bob" := by
    unfold TextFits
    decide
  have hfit : ∀ post ∈ OutboxCall.posts interrupted, post.mail.TextsFit := by
    rw [hposts]
    simp only [List.forall_mem_cons]
    exact ⟨hfits.1, hfits.2, hfits.1, fun _ hmem => nomatch hmem⟩
  exact ⟨orderly_of.1 interrupted hsize, orderly_of.2 interrupted hsize hfit, rfl⟩

end OutboxRun

end Vouch
