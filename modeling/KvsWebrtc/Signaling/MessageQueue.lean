import KvsWebrtc.Common
import KvsWebrtc.Lib.Steps

/-!
# The queue of ongoing messages (`Signaling.c`)

`signalingSendMessageSync` stores its message in a queue, sends it and removes it again, while other
threads do the same; the queue is locked during each of these operations.  A lookup goes through the
queue with one variable, so after a search without success it answers with the last message that it
looked at, and a message is only stored in an empty queue.

Principal results:

* `get_spec` — what the lookup answers;
* `message_queue_iff` — the queue is a set keyed by correlation id and peer exactly in the runs in
  which no lookup goes through the queue without success.
-/

namespace KvsWebrtc.Signaling.MessageQueue

open Steps

inductive STATUS where
  | SUCCESS
  | NOT_FOUND
  | SIGNALING_DUPLICATE_MESSAGE_BEING_SENT
  deriving DecidableEq, Repr

/-- `ptr` is the address of the message. -/
structure SignalingMessage where
  ptr : Nat
  correlationId : Bytes
  peerClientId : Bytes
  peer_nonempty : peerClientId ≠ []
  deriving DecidableEq

/-- `sending` is not in the source: the messages of the calls that have stored theirs and not yet
removed it. -/
structure SignalingClient where
  pMessageQueue : List SignalingMessage
  sending : List SignalingMessage

/-! ## The operations -/

/-- `strcmp`, and two empty ids. -/
def sameCorrelationId (correlationId : Bytes) (existing : SignalingMessage) : Bool :=
  (correlationId = [] && existing.correlationId = []) || existing.correlationId = correlationId

/-- The condition of the lookup; an absent or empty peer is not compared. -/
def matchesLookup (correlationId : Bytes) (peerClientId : Option Bytes)
    (existing : SignalingMessage) : Bool :=
  let checkPeerClientId := peerClientId ≠ none && peerClientId ≠ some []
  sameCorrelationId correlationId existing &&
    (!checkPeerClientId || some existing.peerClientId = peerClientId)

/-- The loop; `pExistingMessage` keeps the message of the last round. -/
def getLoop (found : SignalingMessage → Bool) :
    List SignalingMessage → Option SignalingMessage → Option SignalingMessage
  | [], pExistingMessage => pExistingMessage
  | m :: ms, _ => if found m then some m else getLoop found ms (some m)

variable (c : SignalingClient)

def signalingGetOngoingMessage (correlationId : Bytes)
    (peerClientId : Option Bytes) : Option SignalingMessage :=
  getLoop (matchesLookup correlationId peerClientId) c.pMessageQueue none

def signalingStoreOngoingMessage (m : SignalingMessage) :
    SignalingClient × STATUS :=
  match signalingGetOngoingMessage c m.correlationId (some m.peerClientId) with
  | some _ => (c, .SIGNALING_DUPLICATE_MESSAGE_BEING_SENT)
  | none => ({ c with pMessageQueue := c.pMessageQueue ++ [m] }, .SUCCESS)

def signalingRemoveOngoingMessage (correlationId : Bytes) :
    SignalingClient × STATUS :=
  match c.pMessageQueue.find? (sameCorrelationId correlationId) with
  | some m => ({ c with pMessageQueue := c.pMessageQueue.erase m }, .SUCCESS)
  | none => (c, .NOT_FOUND)

/-! ## Runs -/

/-- `send` is the first half of `signalingSendMessageSync` and `complete` the second one, after the
message was sent or failed to be. -/
inductive Event where
  | send (m : SignalingMessage)
  | complete (m : SignalingMessage)
  | get (correlationId : Bytes) (peerClientId : Option Bytes)

/-- A call without a stored message returns without removing one. -/
def step : Event → SignalingClient
  | .send m =>
    match signalingStoreOngoingMessage c m with
    | (c, .SUCCESS) => { c with sending := c.sending ++ [m] }
    | (c, _) => c
  | .complete m =>
    if m ∈ c.sending then
      { (signalingRemoveOngoingMessage c m.correlationId).1 with sending := c.sending.erase m }
    else c
  | .get _ _ => c

def newClient : SignalingClient := ⟨[], []⟩

/-! ## A set keyed by correlation id and peer -/

/-- The message has the key. -/
def HasKey (correlationId : Bytes) (peerClientId : Option Bytes) (m : SignalingMessage) : Prop :=
  m.correlationId = correlationId ∧
    ∀ peer, peerClientId = some peer → peer ≠ [] → m.peerClientId = peer

/-- What an operation on a set would do. -/
def SetStep : Event → Prop
  | .send m => (signalingStoreOngoingMessage c m).2 = .SUCCESS ↔
      ∀ q ∈ c.pMessageQueue, ¬HasKey m.correlationId (some m.peerClientId) q
  | .complete m => m ∈ c.sending → (step c (.complete m)).pMessageQueue = c.pMessageQueue.erase m
  | .get correlationId peerClientId =>
      (∀ q, signalingGetOngoingMessage c correlationId peerClientId = some q →
        q ∈ c.pMessageQueue ∧ HasKey correlationId peerClientId q) ∧
      (signalingGetOngoingMessage c correlationId peerClientId = none ↔
        ∀ q ∈ c.pMessageQueue, ¬HasKey correlationId peerClientId q)

/-- The queue is empty, or has a message with the key. -/
def Searchable (correlationId : Bytes) (peerClientId : Option Bytes) : Prop :=
  c.pMessageQueue = [] ∨ ∃ q ∈ c.pMessageQueue, HasKey correlationId peerClientId q

/-- No lookup goes through the queue without success. -/
def NoVainSearch : Event → Prop
  | .send m => Searchable c m.correlationId (some m.peerClientId)
  | .complete _ => True
  | .get correlationId peerClientId => Searchable c correlationId peerClientId

/-- The messages in the queue are those being sent. -/
def QueueIsSending : Prop := c.pMessageQueue = c.sending

/-- At most one message is being sent. -/
structure OneMessage (c : SignalingClient) : Prop where
  queue : c.pMessageQueue = c.sending
  length : c.pMessageQueue.length ≤ 1

theorem sameCorrelationId_iff (correlationId : Bytes) (m : SignalingMessage) :
    sameCorrelationId correlationId m = true ↔ m.correlationId = correlationId := by
  simp only [sameCorrelationId, Bool.or_eq_true, Bool.and_eq_true, decide_eq_true_eq,
    or_iff_right_iff_imp]
  rintro ⟨h, h'⟩
  rw [h, h']

theorem matchesLookup_iff (correlationId : Bytes) (peerClientId : Option Bytes)
    (m : SignalingMessage) :
    matchesLookup correlationId peerClientId m = true ↔ HasKey correlationId peerClientId m := by
  unfold matchesLookup HasKey
  rw [Bool.and_eq_true, sameCorrelationId_iff]
  refine and_congr_right fun _ => ?_
  cases peerClientId with
  | none => simp
  | some peer =>
    by_cases hpeer : peer = []
    · simp [hpeer]
    · simp [hpeer]

theorem getLoop_none (found : SignalingMessage → Bool) (ms : List SignalingMessage)
    (start : Option SignalingMessage) (h : ∀ m ∈ ms, found m = false) :
    getLoop found ms start = (ms.getLast?.orElse fun _ => start) := by
  induction ms generalizing start with
  | nil => rfl
  | cons m ms ih =>
    rw [getLoop, if_neg (by simp [h m List.mem_cons_self]),
      ih _ fun q hq => h q (List.mem_cons_of_mem m hq)]
    cases ms with
    | nil => rfl
    | cons q ms => simp [List.getLast?_cons]

theorem getLoop_found (found : SignalingMessage → Bool) (ms : List SignalingMessage)
    (start : Option SignalingMessage) (h : ∃ m ∈ ms, found m = true) :
    ∃ m ∈ ms, found m = true ∧ getLoop found ms start = some m := by
  induction ms generalizing start with
  | nil => simp at h
  | cons m ms ih =>
    by_cases hm : found m = true
    · exact ⟨m, List.mem_cons_self, hm, by rw [getLoop, if_pos hm]⟩
    · obtain ⟨q, hq, hfound⟩ := h
      rcases List.mem_cons.mp hq with rfl | hq
      · exact absurd hfound hm
      · obtain ⟨r, hr, hfoundr, hloop⟩ := ih (some m) ⟨q, hq, hfound⟩
        exact ⟨r, List.mem_cons_of_mem m hr, hfoundr, by rw [getLoop, if_neg hm, hloop]⟩

/-- **What the lookup answers**: a message with the key, or the last one of the queue. -/
theorem get_spec (correlationId : Bytes) (peerClientId : Option Bytes) :
    (∃ m ∈ c.pMessageQueue, HasKey correlationId peerClientId m ∧
        signalingGetOngoingMessage c correlationId peerClientId = some m) ∨
      ((∀ m ∈ c.pMessageQueue, ¬HasKey correlationId peerClientId m) ∧
        signalingGetOngoingMessage c correlationId peerClientId = c.pMessageQueue.getLast?) := by
  unfold signalingGetOngoingMessage
  by_cases hfound : ∃ m ∈ c.pMessageQueue, HasKey correlationId peerClientId m
  · left
    obtain ⟨m, hm, hkey, hget⟩ := getLoop_found (matchesLookup correlationId peerClientId)
      c.pMessageQueue none (by simpa only [matchesLookup_iff] using hfound)
    exact ⟨m, hm, (matchesLookup_iff _ _ _).mp hkey, hget⟩
  · right
    have hnone : ∀ m ∈ c.pMessageQueue, ¬HasKey correlationId peerClientId m :=
      fun m hm hkey => hfound ⟨m, hm, hkey⟩
    refine ⟨hnone, ?_⟩
    rw [getLoop_none]
    · cases c.pMessageQueue.getLast? <;> rfl
    · intro m hm
      rw [Bool.eq_false_iff, ne_eq, matchesLookup_iff]
      exact hnone m hm

theorem store_iff (m : SignalingMessage) :
    (signalingStoreOngoingMessage c m).2 = .SUCCESS ↔ c.pMessageQueue = [] := by
  unfold signalingStoreOngoingMessage
  rcases get_spec c m.correlationId (some m.peerClientId) with ⟨q, hq, -, hget⟩ | ⟨-, hget⟩
  · rw [hget]
    simp only [reduceCtorEq, false_iff]
    exact List.ne_nil_of_mem hq
  · rw [hget]
    cases hlast : c.pMessageQueue.getLast? with
    | none => simpa using hlast
    | some q =>
      simp only [reduceCtorEq, false_iff]
      rintro hnil
      rw [hnil] at hlast
      cases hlast

theorem store_queue (m : SignalingMessage) :
    (signalingStoreOngoingMessage c m).1 =
      if c.pMessageQueue = [] then { c with pMessageQueue := [m] } else c := by
  have hiff := store_iff c m
  unfold signalingStoreOngoingMessage at hiff ⊢
  cases hget : signalingGetOngoingMessage c m.correlationId (some m.peerClientId) with
  | some q =>
    rw [hget] at hiff
    have hne : c.pMessageQueue ≠ [] := fun h => by simpa using hiff.mpr h
    rw [if_neg hne]
  | none =>
    rw [hget] at hiff
    have hnil := hiff.mp rfl
    simp [hnil]

/-! ## One step -/

variable {c : SignalingClient}

theorem step_send (m : SignalingMessage) :
    step c (.send m) =
      if c.pMessageQueue = [] then { pMessageQueue := [m], sending := c.sending ++ [m] } else c := by
  have hstatus := store_iff c m
  have hqueue := store_queue c m
  unfold step
  dsimp only
  cases hstore : signalingStoreOngoingMessage c m with
  | mk c' status =>
    rw [hstore] at hstatus hqueue
    dsimp only at hstatus hqueue
    by_cases hnil : c.pMessageQueue = []
    · rw [if_pos hnil] at hqueue ⊢
      rw [hstatus.mpr hnil, hqueue]
    · rw [if_neg hnil] at hqueue ⊢
      cases status with
      | SUCCESS => exact absurd (hstatus.mp rfl) hnil
      | NOT_FOUND => exact hqueue
      | SIGNALING_DUPLICATE_MESSAGE_BEING_SENT => exact hqueue

theorem OneMessage.complete (h : OneMessage c) {m : SignalingMessage} (hm : m ∈ c.sending) :
    c.pMessageQueue = [m] ∧ step c (.complete m) = ⟨[], []⟩ := by
  have hlength := h.length
  have hqueue : c.pMessageQueue = [m] := by
    rw [← h.queue] at hm
    rcases hlist : c.pMessageQueue with _ | ⟨q, _ | ⟨r, ms⟩⟩
    · rw [hlist] at hm
      cases hm
    · rw [hlist] at hm
      rw [List.mem_singleton.mp hm]
    · rw [hlist] at hlength
      simp at hlength
  have hsending : c.sending = [m] := by rw [← h.queue, hqueue]
  refine ⟨hqueue, ?_⟩
  have hfind : c.pMessageQueue.find? (sameCorrelationId m.correlationId) = some m := by
    rw [hqueue, List.find?_cons_of_pos]
    exact (sameCorrelationId_iff _ _).mpr rfl
  unfold step
  dsimp only
  rw [if_pos hm]
  unfold signalingRemoveOngoingMessage
  rw [hfind]
  simp [hqueue, hsending]

/-- **At most one message is sent at a time.** -/
theorem OneMessage.step (h : OneMessage c) (e : Event) : OneMessage (step c e) := by
  cases e with
  | send m =>
    rw [step_send]
    by_cases hnil : c.pMessageQueue = []
    · rw [if_pos hnil]
      have hsending : c.sending = [] := by rw [← h.queue, hnil]
      exact ⟨by simp [hsending], by simp⟩
    · rw [if_neg hnil]
      exact h
  | complete m =>
    by_cases hm : m ∈ c.sending
    · rw [(h.complete hm).2]
      exact ⟨rfl, by simp⟩
    · have hsame : MessageQueue.step c (.complete m) = c := if_neg hm
      rw [hsame]
      exact h
  | get correlationId peerClientId => exact h

theorem searchable_iff (correlationId : Bytes)
    (peerClientId : Option Bytes) :
    Searchable c correlationId peerClientId ↔
      (signalingGetOngoingMessage c correlationId peerClientId = none ↔
        ∀ q ∈ c.pMessageQueue, ¬HasKey correlationId peerClientId q) := by
  rcases get_spec c correlationId peerClientId with ⟨m, hm, hkey, hget⟩ | ⟨hnone, hget⟩
  · have hnot : ¬∀ q ∈ c.pMessageQueue, ¬HasKey correlationId peerClientId q :=
      fun h => h m hm hkey
    simp only [hget, reduceCtorEq, hnot, iff_self, iff_true]
    exact .inr ⟨m, hm, hkey⟩
  · simp only [hget, List.getLast?_eq_none_iff]
    constructor
    · rintro (hnil | ⟨q, hq, hkey⟩)
      · exact iff_of_true hnil hnone
      · exact absurd hkey (hnone q hq)
    · intro h
      exact .inl (h.mpr hnone)

/-- **An operation is one on a set exactly if it does not search in vain.** -/
theorem setStep_iff (h : OneMessage c) (e : Event) : SetStep c e ↔ NoVainSearch c e := by
  cases e with
  | send m =>
    have hnone : (signalingStoreOngoingMessage c m).2 = .SUCCESS ↔
        signalingGetOngoingMessage c m.correlationId (some m.peerClientId) = none := by
      unfold signalingStoreOngoingMessage
      cases signalingGetOngoingMessage c m.correlationId (some m.peerClientId) <;> simp
    unfold SetStep NoVainSearch
    dsimp only
    rw [hnone, searchable_iff]
  | complete m =>
    refine iff_of_true (fun hm => ?_) trivial
    obtain ⟨hqueue, hstep⟩ := h.complete hm
    rw [hstep, hqueue]
    simp
  | get correlationId peerClientId =>
    unfold SetStep NoVainSearch
    dsimp only
    rw [← searchable_iff]
    refine ⟨fun hset => hset.2, fun hsearch => ⟨fun q hget => ?_, hsearch⟩⟩
    rcases get_spec c correlationId peerClientId with ⟨m, hm, hkey, hfound⟩ | ⟨hnone, hlast⟩
    · rw [hfound] at hget
      cases hget
      exact ⟨hm, hkey⟩
    · rcases hsearch with hnil | ⟨r, hr, hkey⟩
      · rw [hlast, hnil] at hget
        cases hget
      · exact absurd hkey (hnone r hr)

/-! ## Whole runs -/

theorem oneMessage_new : OneMessage newClient := ⟨rfl, Nat.zero_le 1⟩

/-- **Every operation of a run is one on a set keyed by correlation id and peer, and the queue is
always what is being sent, exactly if no lookup searches in vain.** -/
theorem message_queue_iff (events : List Event) :
    (Each step SetStep newClient events ∧ Always step QueueIsSending newClient events) ↔
      Each step NoVainSearch newClient events := by
  have hall : Each step (fun _ _ => True) newClient events := each_iff.mpr fun _ _ _ _ => trivial
  have hqueue : Always step QueueIsSending newClient events :=
    (Each.inv oneMessage_new (fun _ e h _ => h.step e) hall).mono
      fun _ (h : OneMessage _) => h.queue
  have hset : Each step SetStep newClient events ↔ Each step NoVainSearch newClient events :=
    Each.iff_of_inv oneMessage_new (fun _ e h _ _ => h.step e) (fun _ e h _ => setStep_iff h e) hall
  rw [hset]
  exact and_iff_left hqueue

/-- A message to another peer is rejected as a duplicate. -/
theorem other_peer_rejected :
    ¬∀ events : List Event,
      Each step SetStep newClient events ∧ Always step QueueIsSending newClient events := by
  intro h
  have hset := (h [.send ⟨1, [49], [97], by decide⟩, .send ⟨2, [50], [98], by decide⟩]).1.2.1
  have hstored := hset.mpr (by
    intro q hq hkey
    obtain rfl := List.mem_singleton.mp hq
    exact absurd hkey.1 (by decide))
  exact absurd hstored (by decide)

end KvsWebrtc.Signaling.MessageQueue
