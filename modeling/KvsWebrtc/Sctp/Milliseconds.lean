import KvsWebrtc.Sctp.Clock
import KvsWebrtc.Sctp.Session

/-!
# The timers of a session against the wall clock

What the association calls a millisecond lasts ten: a timer armed with `rtoMs = r` fires `10 * r`
milliseconds later, and a message lives ten times as long as its channel asked for, counted from its
transmission and not from the call that accepted it.

A run is a list of calls with their times.  Beside the session it carries what a statement about
time needs and the code does not keep: when each timer was armed, with which RTO, and when the
message behind each slot was accepted.

Principal results: `timers_in_milliseconds_iff` — timers and lifetimes run in milliseconds exactly
when no timer check comes while milliseconds and counts of ten of them disagree — and
`timer_ten_times_late`.
-/

namespace KvsWebrtc.Sctp

/-! ## Calls and their times -/

/-- 100 ns units in a millisecond. -/
abbrev millisecond : Nat := 10000

/-- During a call the clock stands at the time of the call. -/
def SctpSession.atTime (s : SctpSession) (time : UINT64) : SctpSession :=
  { s with host.clock := fun _ => time }

/-- The calls that check the timers. -/
def SessionOp.ChecksTimers : SessionOp → Prop
  | .putSctpPacket _ => True
  | .tickTimers => True
  | _ => False

/-! ## When timers were armed -/

/-- The time at which a timer was armed, and the RTO it was armed with. -/
structure Arming where
  time : UINT64
  rtoMs : UINT32
  deriving DecidableEq, Repr

/-- The arming behind `expiry` after a step that wrote the timer or did not. -/
def armedAfter (expiry : UINT64) (written : Prop) [Decidable written] (new : Arming)
    (old : Option Arming) : Option Arming :=
  if expiry = 0 then none else if written then some new else old

/-! ## When messages were accepted -/

/-- For every slot of the three tables, when the message in it was accepted. -/
structure Accepted where
  sendQueue : SlotTable UINT64 SCTP_MAX_QUEUED_MESSAGES
  pendingQueue : SlotTable UINT64 SCTP_MAX_PENDING_SENDS
  outstanding : SlotTable UINT64 SCTP_MAX_OUTSTANDING

/-- A message accepted at `time` is handed to `sctpAssocSend`: the slots it takes are free ones. -/
def Accepted.take (acc : Accepted) (h : Host) (time : UINT64) : Accepted where
  sendQueue := fun i => if (h.assoc.sendQueue.get i).inUse then acc.sendQueue.get i else time
  pendingQueue := fun i =>
    if (h.assoc.pendingQueue.get i).inUse then acc.pendingQueue.get i else time
  outstanding := fun i => if (h.assoc.outstanding.get i).inUse then acc.outstanding.get i else time

/-- One iteration of `sctpFlushSendQueue`: the message keeps the time it was accepted. -/
def acceptedFlush (s : Host × Accepted) (i : Fin SCTP_MAX_QUEUED_MESSAGES) : Host × Accepted :=
  (flushSlot s.1 i,
    if (s.1.assoc.sendQueue.get i).inUse then s.2.take s.1 (s.2.sendQueue.get i) else s.2)

def Accepted.flush (acc : Accepted) (h : Host) : Accepted :=
  (SlotTable.forSlots acceptedFlush (h, acc)).2

/-- One iteration of `sctpDrainPendingQueue`. -/
def acceptedDrain (s : Host × Accepted) (slot : Fin SCTP_MAX_PENDING_SENDS) :
    (Host × Accepted) × Bool :=
  let r := drainSlot s.1 slot
  ((r.1,
    if (s.1.assoc.pendingQueue.get slot).inUse ∧ ¬ r.2 then
      s.2.take (evictPending s.1 slot) (s.2.pendingQueue.get slot)
    else s.2), r.2)

def Accepted.drain (acc : Accepted) (h : Host) : Accepted :=
  (SlotTable.forSlotsBreak acceptedDrain (h, acc)).2

def Accepted.cookieEcho (acc : Accepted) (h : Host) (pValue : Bytes) : Accepted :=
  if pValue.length < SCTP_COOKIE_SIZE then acc else
  let cookie := SctpCookie.ofBytes pValue
  if cookie.magic1 ≠ SCTP_COOKIE_MAGIC1 ∨ cookie.magic2 ≠ SCTP_COOKIE_MAGIC2 then acc
  else acc.flush (acceptCookie h cookie)

def Accepted.cookieAck (acc : Accepted) (h : Host) : Accepted :=
  if h.assoc.state ≠ .COOKIE_ECHOED then acc else
  acc.flush { h with assoc.state := .ESTABLISHED, assoc.t1InitExpiry := 0 }

def Accepted.sack (acc : Accepted) (h : Host) (pValue : Bytes) : Accepted :=
  if pValue.length < 12 then acc
  else if bytesNewlyAcked h pValue > 0 then
    let h2 := sackGrow (sackMarked h pValue) (bytesNewlyAcked h pValue)
    if h2.assoc.pendingQueueCount > 0 then acc.drain h2 else acc
  else acc

/-- Only three chunks move messages between the tables. -/
def Accepted.chunk (acc : Accepted) (h : Host) (c : SctpChunk) : Accepted :=
  if c.type = SCTP_CHUNK_COOKIE_ECHO then acc.cookieEcho h c.value
  else if c.type = SCTP_CHUNK_COOKIE_ACK then acc.cookieAck h
  else if c.type = SCTP_CHUNK_SACK then acc.sack h c.value
  else acc

/-! ## The history of a run -/

structure History where
  t1 : Option Arming
  t3 : Option Arming
  accepted : Accepted

/-- The SACK restarts T3 or stops it. -/
def SackWritesT3 (h : Host) (c : SctpChunk) : Prop :=
  c.type = SCTP_CHUNK_SACK ∧ 12 ≤ c.value.length ∧ bytesNewlyAcked h c.value > 0

instance (h : Host) (c : SctpChunk) : Decidable (SackWritesT3 h c) :=
  inferInstanceAs (Decidable (_ ∧ _))

/-- A message accepted at `time`; `sctpAssocSend` arms T3 unless it runs. -/
def History.send (k : History) (time : UINT64) (h : Host) (m : SctpMessage) : History where
  t1 := k.t1
  t3 := armedAfter (sctpAssocSend h m).assoc.t3RtxExpiry (h.assoc.t3RtxExpiry = 0)
    ⟨time, h.assoc.rtoMs⟩ k.t3
  accepted := k.accepted.take h time

/-- A chunk handled at `time`.  The INIT-ACK that leads to COOKIE-ECHOED arms T1; T3 is armed by the
messages that are sent if it did not run, and by a SACK. -/
def History.chunk (k : History) (time : UINT64) (h : Host) (c : SctpChunk) : History where
  t1 := armedAfter (sctpChunkDispatch true h c).assoc.t1InitExpiry
    (h.assoc.state ≠ .COOKIE_ECHOED ∧ (sctpChunkDispatch true h c).assoc.state = .COOKIE_ECHOED)
    ⟨time, h.assoc.rtoMs⟩ k.t1
  t3 := armedAfter (sctpChunkDispatch true h c).assoc.t3RtxExpiry
    (h.assoc.t3RtxExpiry = 0 ∨ SackWritesT3 h c) ⟨time, h.assoc.rtoMs⟩ k.t3
  accepted := k.accepted.chunk h c

def History.chunks (k : History) (time : UINT64) (h : Host) : List SctpChunk → History
  | [] => k
  | c :: cs => (k.chunk time h c).chunks time (sctpChunkDispatch true h c) cs

/-- A timer check at `time`: a timer that expires is armed again with a new RTO, or stopped. -/
def History.checkTimers (k : History) (time : UINT64) (h : Host) (nowMs : UINT64) : History where
  t1 := armedAfter (checkT1 h nowMs).1.assoc.t1InitExpiry (T1Expires h nowMs)
    ⟨time, (checkT1 h nowMs).1.assoc.rtoMs⟩ k.t1
  t3 := armedAfter (sctpAssocCheckTimers h nowMs).assoc.t3RtxExpiry (T3Expires h nowMs)
    ⟨time, (sctpAssocCheckTimers h nowMs).assoc.rtoMs⟩ k.t3
  accepted := k.accepted

/-- One call of an active session. -/
def History.call (k : History) (time : UINT64) (s : SctpSession) : SessionOp → History
  | .writeDcep streamId pChannelName init => k.send time s.host
      ⟨streamId.setWidth 16, SCTP_PPID_DCEP, false, dcepOpen pChannelName init, 0xFFFF, 0⟩
  | .writeMessage streamId isBinary pMessage =>
    k.send time s.host (s.message streamId isBinary pMessage)
  | .putSctpPacket buf =>
    (k.checkTimers time s.host.tick s.host.SCTP_NOW_MS).chunks time (sessionCheckTimers s.host)
      ((sessionCheckTimers s.host).acceptedChunks buf)
  | .tickTimers => k.checkTimers time s.host.tick s.host.SCTP_NOW_MS

/-- A session and its history. -/
structure Timed where
  session : SctpSession
  history : History

def Timed.step (t : Timed) (call : UINT64 × SessionOp) : Timed where
  session := (t.session.atTime call.1).step call.2
  history := t.history.call call.1 (t.session.atTime call.1) call.2

/-- `createSctpSession` at `start`; it arms T1. -/
def createTimed (start : UINT64) : Timed where
  session := createSctpSession (fun _ => start)
  history :=
    { t1 := some ⟨start, SCTP_RTO_INITIAL_MS⟩
      t3 := none
      accepted := ⟨.replicate _ 0, .replicate _ 0, .replicate _ 0⟩ }

def timedRun (start : UINT64) (calls : List (UINT64 × SessionOp)) : Timed :=
  calls.foldl Timed.step (createTimed start)

/-- The association as a timer check at `time` finds it. -/
def Timed.checked (t : Timed) (time : UINT64) : Host := (t.session.atTime time).host.tick

/-! ## Milliseconds -/

/-- `rtoMs + 1` milliseconds have passed since the timer was armed. -/
def Arming.Due (a : Arming) (time : UINT64) : Prop :=
  a.time.toNat + (a.rtoMs.toNat + 1) * millisecond ≤ time.toNat

/-- The timer fires when it is due, and not within `rtoMs - 1` milliseconds after it was armed. -/
def Arming.Punctual (a : Arming) (time : UINT64) (fires : Prop) : Prop :=
  (a.Due time → fires) ∧
    (fires → a.time.toNat + a.rtoMs.toNat * millisecond ≤ time.toNat + millisecond)

/-- An unacknowledged chunk with a lifetime and no limit on its retransmissions. -/
def LifetimeOnly (d : SctpOutstandingData) : Prop :=
  Live d ∧ d.maxRetransmits = 0xFFFF ∧ 0 < d.lifetimeMs.toNat

/-- More than the lifetime and one millisecond have passed since `accepted`. -/
def Outlived (d : SctpOutstandingData) (accepted time : UINT64) : Prop :=
  accepted.toNat + (d.lifetimeMs.toNat + 1) * millisecond < time.toNat

/-- What a timer check at `time` has to do in milliseconds. -/
structure OnTime (h : Host) (k : History) (time : UINT64) : Prop where
  t1 : ∀ a, k.t1 = some a → a.Punctual time (T1Expires h (nowMsAt time))
  t3 : ∀ a, k.t3 = some a → a.Punctual time (T3Expires h (nowMsAt time))
  lifetime : T3Expires h (nowMsAt time) → ∀ i, LifetimeOnly (h.assoc.outstanding.get i) →
    (Outlived (h.assoc.outstanding.get i) (k.accepted.outstanding.get i) time →
      Abandons (nowMsAt time) (h.assoc.outstanding.get i)) ∧
    (time.toNat + millisecond <
        (k.accepted.outstanding.get i).toNat +
          (h.assoc.outstanding.get i).lifetimeMs.toNat * millisecond →
      Keeps (nowMsAt time) (h.assoc.outstanding.get i))

/-- Every timer check of the run is on time, and the RTO stays between its bounds. -/
structure InMilliseconds (start : UINT64) (calls : List (UINT64 × SessionOp)) : Prop where
  onTime : ∀ pre call post, calls = pre ++ call :: post → call.2.ChecksTimers →
    OnTime ((timedRun start pre).checked call.1) (timedRun start pre).history call.1
  rto : ∀ pre post, calls = pre ++ post →
    SCTP_RTO_MIN_MS ≤ (timedRun start pre).session.host.assoc.rtoMs ∧
      (timedRun start pre).session.host.assoc.rtoMs ≤ SCTP_RTO_MAX_MS

/-! ## Where counts of ten milliseconds tell the same -/

/-- `rtoMs` counts of ten milliseconds have passed since the timer was armed. -/
def Arming.Counted (a : Arming) (time : UINT64) : Prop :=
  a.time.toNat / 100000 + a.rtoMs.toNat ≤ time.toNat / 100000

/-- A check at `time` comes when a timer that is due was also counted to the end, when T1 does not
give up with T3 due, and when a chunk that has outlived its lifetime was also in flight for more
than that many counts. -/
structure Timely (h : Host) (k : History) (time : UINT64) : Prop where
  t1 : ∀ a, k.t1 = some a → a.Due time → a.Counted time
  t3 : ∀ a, k.t3 = some a → a.Due time → a.Counted time ∧ ¬ GivesUp h (nowMsAt time)
  lifetime : T3Expires h (nowMsAt time) → ∀ i, LifetimeOnly (h.assoc.outstanding.get i) →
    Outlived (h.assoc.outstanding.get i) (k.accepted.outstanding.get i) time →
    (h.assoc.outstanding.get i).creationTime.toNat +
      (h.assoc.outstanding.get i).lifetimeMs.toNat < time.toNat / 100000

/-! ## Acceptance comes before transmission -/

/-- At `time` every message in the tables was accepted, and every chunk was sent after its message
was accepted. -/
structure Stamped (time : UINT64) (h : Host) (acc : Accepted) : Prop where
  sendQueue : ∀ i, (h.assoc.sendQueue.get i).inUse = true →
    (acc.sendQueue.get i).toNat ≤ time.toNat
  pendingQueue : ∀ i, (h.assoc.pendingQueue.get i).inUse = true →
    (acc.pendingQueue.get i).toNat ≤ time.toNat
  outstanding : ∀ i, (h.assoc.outstanding.get i).inUse = true →
    (acc.outstanding.get i).toNat / 100000 ≤ (h.assoc.outstanding.get i).creationTime.toNat ∧
      (h.assoc.outstanding.get i).creationTime.toNat ≤ time.toNat / 100000

section

variable {time : UINT64} {h h' : Host} {acc : Accepted}

theorem Stamped.shrinks (hs : Stamped time h acc) (hsh : Shrinks h h') : Stamped time h' acc := by
  refine ⟨fun i hi => hs.sendQueue i (hsh.sendQueue i hi),
    fun i hi => hs.pendingQueue i (hsh.pendingQueue i hi), fun i hi => ?_⟩
  obtain ⟨hu, ht⟩ := hsh.outstanding i hi
  rw [ht]
  exact hs.outstanding i hu

/-- **Sending** a message that was accepted at `accepted`. -/
theorem Stamped.send (hs : Stamped time h acc) (hread : ReadsAt time h) {accepted : UINT64}
    (ha : accepted.toNat ≤ time.toNat) (m : SctpMessage) :
    Stamped time (sctpAssocSend h m) (acc.take h accepted) := by
  have hf := sctpAssocSend_fills h m
  rw [hread.now] at hf
  refine ⟨fun i _ => ?_, fun i _ => ?_, fun i hi => ?_⟩
  · show (if (h.assoc.sendQueue.get i).inUse then acc.sendQueue.get i else accepted).toNat ≤ _
    split
    · rename_i hu
      exact hs.sendQueue i hu
    · exact ha
  · show (if (h.assoc.pendingQueue.get i).inUse then acc.pendingQueue.get i
      else accepted).toNat ≤ _
    split
    · rename_i hu
      exact hs.pendingQueue i hu
    · exact ha
  · show (if (h.assoc.outstanding.get i).inUse then acc.outstanding.get i else accepted).toNat /
      100000 ≤ _ ∧ _
    split
    · rename_i hu
      rw [hf.used i hu]
      exact hs.outstanding i hu
    · rename_i hu
      rw [hf.fresh i (by simpa using hu) hi, toNat_nowMsAt]
      exact ⟨Nat.div_le_div_right ha, Nat.le_refl _⟩

theorem Stamped.flushSlot (hs : Stamped time h acc) (hread : ReadsAt time h)
    (i : Fin SCTP_MAX_QUEUED_MESSAGES) :
    Stamped time (acceptedFlush (h, acc) i).1 (acceptedFlush (h, acc) i).2 := by
  unfold acceptedFlush Sctp.flushSlot
  by_cases hu : (h.assoc.sendQueue.get i).inUse = true
  · rw [if_neg (not_not.mpr hu), if_pos hu]
    refine (hs.send hread (hs.sendQueue i hu) (h.assoc.sendQueue.get i).msg).shrinks ?_
    exact ⟨fun j hj => inUse_of_set rfl hj, fun _ hj => hj, fun _ hj => ⟨hj, rfl⟩⟩
  · rw [if_pos hu, if_neg hu]
    exact hs

/-- **The flush.** -/
theorem Stamped.flush (hs : Stamped time h acc) (hread : ReadsAt time h) :
    Stamped time (sctpFlushSendQueue h) (acc.flush h) := by
  have hfst : (SlotTable.forSlots acceptedFlush (h, acc)).1 = sctpFlushSendQueue h :=
    SlotTable.forSlots_map (φ := Prod.fst) (fun _ _ => rfl) (h, acc)
  rw [← hfst]
  refine (SlotTable.forSlots_invariant (P := fun s : Host × Accepted =>
    ReadsAt time s.1 ∧ Stamped time s.1 s.2) ⟨hread, hs⟩ fun i s hp => ?_).2
  exact ⟨((Lapse.sends s.1).flushSlot i ⟨hp.1, .refl s.1⟩).1, hp.2.flushSlot hp.1 i⟩

theorem Stamped.drainSlot (hs : Stamped time h acc) (hread : ReadsAt time h)
    (i : Fin SCTP_MAX_PENDING_SENDS) :
    Stamped time (acceptedDrain (h, acc) i).1.1 (acceptedDrain (h, acc) i).1.2 := by
  unfold acceptedDrain Sctp.drainSlot
  simp only
  by_cases hu : (h.assoc.pendingQueue.get i).inUse = true
  · rw [if_neg (not_not.mpr hu)]
    split
    · rw [if_neg (fun hc => hc.2 rfl)]
      exact hs
    · have hevict : Stamped time (evictPending h i) acc := hs.shrinks
        ⟨fun _ hj => hj, fun j hj => inUse_of_set rfl hj, fun _ hj => ⟨hj, rfl⟩⟩
      rw [if_pos ⟨hu, fun hc => nomatch hc⟩]
      exact hevict.send hread (hs.pendingQueue i hu) _
  · rw [if_pos hu, if_neg (fun hc => hu hc.1)]
    exact hs

/-- **The drain.** -/
theorem Stamped.drain (hs : Stamped time h acc) (hread : ReadsAt time h) :
    Stamped time (sctpDrainPendingQueue h) (acc.drain h) := by
  have hfst : (SlotTable.forSlotsBreak acceptedDrain (h, acc)).1 = sctpDrainPendingQueue h :=
    SlotTable.forSlotsBreak_map (φ := Prod.fst) (fun _ _ => rfl) (h, acc)
  rw [← hfst]
  refine (SlotTable.forSlotsBreak_invariant (P := fun s : Host × Accepted =>
    ReadsAt time s.1 ∧ Stamped time s.1 s.2) ⟨hread, hs⟩ fun i s hp => ?_).2
  exact ⟨((Lapse.sends s.1).drainSlot i ⟨hp.1, .refl s.1⟩).1, hp.2.drainSlot hp.1 i⟩

end

/-! ## What the history says about the timers -/

/-- The expiry of a timer is the one its arming set. -/
def Armed (time expiry : UINT64) : Option Arming → Prop
  | none => expiry = 0
  | some a => a.time.toNat ≤ time.toNat ∧ RtoInRange a.rtoMs ∧ expiry = expiryAt a.time a.rtoMs

section

variable {time expiry : UINT64}

/-- A step that wrote the timer armed it at `time` or stopped it; one that did not left it as it
was or stopped it. -/
theorem Armed.after {expiry' : UINT64} {written : Prop} [Decidable written] {rtoMs : UINT32}
    {old : Option Arming} (ho : Armed time expiry old) (hr : RtoInRange rtoMs)
    (hnew : written → expiry' = 0 ∨ expiry' = expiryAt time rtoMs)
    (hold : ¬ written → expiry' = 0 ∨ expiry' = expiry) :
    Armed time expiry' (armedAfter expiry' written ⟨time, rtoMs⟩ old) := by
  unfold armedAfter
  split
  · rename_i h0
    exact h0
  · rename_i h0
    split
    · rename_i hw
      exact ⟨Nat.le_refl _, hr, (hnew hw).resolve_left h0⟩
    · rename_i hw
      rw [(hold hw).resolve_left h0]
      exact ho

theorem Armed.later {time' : UINT64} {o : Option Arming} (ha : Armed time expiry o)
    (hle : time.toNat ≤ time'.toNat) : Armed time' expiry o := by
  cases o with
  | none => exact ha
  | some a => exact ⟨ha.1.trans hle, ha.2⟩

/-- **A timer expires exactly when its counts are over.** -/
theorem Armed.expires_iff {a : Arming} (ha : Armed time expiry (some a)) (now : UINT64) :
    expiry ≠ 0 ∧ nowMsAt now ≥ expiry ↔ a.Counted now := by
  obtain ⟨-, hr, heq⟩ := ha
  rw [heq, ge_iff_le, BitVec.le_def, toNat_expiryAt, toNat_nowMsAt]
  exact ⟨fun hc => hc.2, fun hc => ⟨expiryAt_ne_zero hr, hc⟩⟩

end

/-! ## The steps keep the history true -/

/-- What the history says at `time` is true of the association. -/
structure Kept (time : UINT64) (h : Host) (k : History) : Prop where
  t1 : Armed time h.assoc.t1InitExpiry k.t1
  t3 : Armed time h.assoc.t3RtxExpiry k.t3
  rto : RtoInRange h.assoc.rtoMs
  accepted : Stamped time h k.accepted

section

variable {time : UINT64} {h h' h1 : Host} {k : History} {c : SctpChunk}

theorem Kept.later {time' : UINT64} (hk : Kept time h k) (hle : time.toNat ≤ time'.toNat) :
    Kept time' h k := by
  refine ⟨hk.t1.later hle, hk.t3.later hle, hk.rto, ?_⟩
  refine ⟨fun i hi => (hk.accepted.sendQueue i hi).trans hle,
    fun i hi => (hk.accepted.pendingQueue i hi).trans hle, fun i hi => ?_⟩
  obtain ⟨hacc, hnow⟩ := hk.accepted.outstanding i hi
  exact ⟨hacc, hnow.trans (Nat.div_le_div_right hle)⟩

/-- **A message.** -/
theorem Kept.send (hk : Kept time h k) (hread : ReadsAt time h) (m : SctpMessage) :
    Kept time (sctpAssocSend h m) (k.send time h m) := by
  have hl : Lapse time h (sctpAssocSend h m) := .send hread m
  refine ⟨?_, hk.t3.after hk.rto (fun hw => ?_) (fun hw => ?_), ?_,
    hk.accepted.send hread (Nat.le_refl _) m⟩
  · rw [hl.t1]
    exact hk.t1
  · rcases hl.t3 hread with heq | ⟨-, heq⟩
    · exact .inl (heq.trans hw)
    · exact .inr heq
  · rcases hl.t3 hread with heq | ⟨h0, -⟩
    · exact .inr heq
    · exact absurd h0 hw
  · rw [hl.rto]
    exact hk.rto

theorem Kept.stays (hk : Kept time h k) (hread : ReadsAt time h)
    (he : c.type ≠ SCTP_CHUNK_COOKIE_ECHO) (ha : c.type ≠ SCTP_CHUNK_COOKIE_ACK)
    (hs : c.type ≠ SCTP_CHUNK_SACK) :
    Kept time (sctpChunkDispatch true h c) (k.chunk time h c) := by
  have hq : Stays time h (sctpChunkDispatch true h c) := .chunk h true he ha hs
  have hacc : k.accepted.chunk h c = k.accepted := by
    unfold Accepted.chunk
    rw [if_neg he, if_neg ha, if_neg hs]
  refine ⟨hk.t1.after hk.rto (fun hw => ?_) (fun hw => ?_),
    hk.t3.after hk.rto (fun hw => ?_) (fun _ => .inr hq.t3), ?_, ?_⟩
  · rcases hq.t1 hread with ⟨-, hno⟩ | ⟨-, heq⟩
    · exact absurd hw hno
    · exact .inr heq
  · rcases hq.t1 hread with ⟨heq, -⟩ | ⟨hyes, -⟩
    · exact .inr heq
    · exact absurd hyes hw
  · rcases hw with h0 | hsack
    · exact .inl (hq.t3.trans h0)
    · exact absurd hsack.1 hs
  · rw [hq.rto]
    exact hk.rto
  · show Stamped time _ (k.accepted.chunk h c)
    rw [hacc]
    exact hk.accepted.shrinks hq.tables

theorem Kept.flush (hk : Kept time h k)
    (hd : sctpChunkDispatch true h c = sctpFlushSendQueue h1)
    (hacc : k.accepted.chunk h c = k.accepted.flush h1) (hs : c.type ≠ SCTP_CHUNK_SACK)
    (hread : ReadsAt time h1) (h1rto : h1.assoc.rtoMs = h.assoc.rtoMs)
    (h1t3 : h1.assoc.t3RtxExpiry = h.assoc.t3RtxExpiry) (h1t1 : h1.assoc.t1InitExpiry = 0)
    (htables : Shrinks h h1) :
    Kept time (sctpChunkDispatch true h c) (k.chunk time h c) := by
  have hl : Lapse time h1 (sctpFlushSendQueue h1) := .flush hread
  have hst : Stamped time h1 k.accepted := hk.accepted.shrinks htables
  rw [← hd] at hl
  have ht1 := hl.t1.trans h1t1
  refine ⟨hk.t1.after hk.rto (fun _ => .inl ht1) (fun _ => .inl ht1),
    hk.t3.after hk.rto (fun hw => ?_) (fun hw => ?_), ?_, ?_⟩
  · have h0 := hw.resolve_right (fun hsack => hs hsack.1)
    rcases hl.t3 hread with heq | ⟨-, heq⟩
    · exact .inl (heq.trans (h1t3.trans h0))
    · rw [h1rto] at heq
      exact .inr heq
  · rcases hl.t3 hread with heq | ⟨h0, -⟩
    · exact .inr (heq.trans h1t3)
    · exact absurd (.inl (h1t3.symm.trans h0)) hw
  · rw [hl.rto, h1rto]
    exact hk.rto
  · show Stamped time _ (k.accepted.chunk h c)
    rw [hacc, hd]
    exact hst.flush hread

theorem Kept.ignored (hk : Kept time h k) (hd : sctpChunkDispatch true h c = h)
    (hs : ¬ SackWritesT3 h c) (hacc : k.accepted.chunk h c = k.accepted) :
    Kept time (sctpChunkDispatch true h c) (k.chunk time h c) := by
  refine ⟨hk.t1.after hk.rto (fun hw => ?_) (fun _ => .inr ?_),
    hk.t3.after hk.rto (fun hw => .inl ?_) (fun _ => .inr ?_), ?_, ?_⟩
  · rw [hd] at hw
    exact absurd hw.2 hw.1
  · rw [hd]
  · rw [hd]
    exact hw.resolve_right hs
  · rw [hd]
  · rw [hd]
    exact hk.rto
  · show Stamped time _ (k.accepted.chunk h c)
    rw [hacc, hd]
    exact hk.accepted

theorem Kept.cookieEcho (hk : Kept time h k) (hread : ReadsAt time h)
    (hc : c.type = SCTP_CHUNK_COOKIE_ECHO) :
    Kept time (sctpChunkDispatch true h c) (k.chunk time h c) := by
  have hs : c.type ≠ SCTP_CHUNK_SACK := by rw [hc]; decide
  have hd : sctpChunkDispatch true h c = _ := sctpChunkDispatch_cookieEcho hc
  have hacc : k.accepted.chunk h c = k.accepted.cookieEcho h c.value := by
    unfold Accepted.chunk
    rw [if_pos hc]
  by_cases hlen : c.value.length < SCTP_COOKIE_SIZE
  · unfold sctpHandleCookieEcho at hd
    unfold Accepted.cookieEcho at hacc
    rw [if_pos hlen] at hd hacc
    exact hk.ignored hd (fun hw => hs hw.1) hacc
  · by_cases hmagic : (SctpCookie.ofBytes c.value).magic1 ≠ SCTP_COOKIE_MAGIC1 ∨
        (SctpCookie.ofBytes c.value).magic2 ≠ SCTP_COOKIE_MAGIC2
    · unfold sctpHandleCookieEcho at hd
      unfold Accepted.cookieEcho at hacc
      rw [if_neg hlen, if_pos hmagic] at hd hacc
      exact hk.ignored hd (fun hw => hs hw.1) hacc
    · unfold sctpHandleCookieEcho at hd
      unfold Accepted.cookieEcho at hacc
      rw [if_neg hlen, if_neg hmagic] at hd hacc
      exact hk.flush hd hacc hs hread rfl rfl rfl (.of_eq rfl rfl rfl)

theorem Kept.cookieAck (hk : Kept time h k) (hread : ReadsAt time h)
    (hc : c.type = SCTP_CHUNK_COOKIE_ACK) :
    Kept time (sctpChunkDispatch true h c) (k.chunk time h c) := by
  have hs : c.type ≠ SCTP_CHUNK_SACK := by rw [hc]; decide
  have he : c.type ≠ SCTP_CHUNK_COOKIE_ECHO := by rw [hc]; decide
  have hd : sctpChunkDispatch true h c = _ := sctpChunkDispatch_cookieAck hc
  have hacc : k.accepted.chunk h c = k.accepted.cookieAck h := by
    unfold Accepted.chunk
    rw [if_neg he, if_pos hc]
  unfold sctpHandleCookieAck at hd
  unfold Accepted.cookieAck at hacc
  by_cases hst : h.assoc.state ≠ .COOKIE_ECHOED
  · rw [if_pos hst] at hd hacc
    exact hk.ignored hd (fun hw => hs hw.1) hacc
  · rw [if_neg hst] at hd hacc
    exact hk.flush hd hacc hs hread rfl rfl rfl (.of_eq rfl rfl rfl)

theorem drained_writes {acc : Accepted} (hread : ReadsAt time h) (hs : Stamped time h acc)
    (ht3 : h.assoc.t3RtxExpiry = 0 ∨ h.assoc.t3RtxExpiry = expiryAt time h.assoc.rtoMs) {p : Prop}
    [Decidable p] {h' : Host} (hh' : h' = if p then sctpDrainPendingQueue h else h) :
    ReadsAt time h' ∧ h'.assoc.t1InitExpiry = h.assoc.t1InitExpiry ∧
      h'.assoc.rtoMs = h.assoc.rtoMs ∧
      (h'.assoc.t3RtxExpiry = 0 ∨ h'.assoc.t3RtxExpiry = expiryAt time h.assoc.rtoMs) ∧
      Stamped time h' (if p then acc.drain h else acc) := by
  subst hh'
  split
  · have hl : Lapse time h (sctpDrainPendingQueue h) := .drain hread
    refine ⟨hl.clock hread, hl.t1, hl.rto, ?_, hs.drain hread⟩
    rcases hl.t3 hread with heq | ⟨-, heq⟩
    · rw [heq]
      exact ht3
    · exact .inr heq
  · exact ⟨hread, rfl, rfl, ht3, hs⟩

theorem sackAcked_writes (hk : Kept time h k) (hread : ReadsAt time h) {pValue : Bytes}
    (hlen : 12 ≤ pValue.length) (hn : bytesNewlyAcked h pValue > 0) :
    ReadsAt time (sctpHandleSack h pValue) ∧
      (sctpHandleSack h pValue).assoc.t1InitExpiry = h.assoc.t1InitExpiry ∧
      (sctpHandleSack h pValue).assoc.rtoMs = h.assoc.rtoMs ∧
      ((sctpHandleSack h pValue).assoc.t3RtxExpiry = 0 ∨
        (sctpHandleSack h pValue).assoc.t3RtxExpiry = expiryAt time h.assoc.rtoMs) ∧
      Stamped time (sctpHandleSack h pValue) (k.accepted.sack h pValue) := by
  obtain ⟨hl, hsh⟩ : Lapse time h (sackMarked h pValue) ∧ _ := sackMarked_lapse h pValue
  obtain ⟨hread2, hsh2, ht1, hrto, ht3⟩ :=
    sackGrow_writes (hl.clock hread) (bytesNewlyAcked h pValue)
  have hst := (hk.accepted.shrinks hsh).shrinks hsh2
  have heq := sctpHandleSack_eq (h := h) hlen
  rw [if_pos hn] at heq
  have hacc : k.accepted.sack h pValue =
      if (sackGrow (sackMarked h pValue) (bytesNewlyAcked h pValue)).assoc.pendingQueueCount > 0
      then k.accepted.drain (sackGrow (sackMarked h pValue) (bytesNewlyAcked h pValue))
      else k.accepted := by
    unfold Accepted.sack
    rw [if_neg (Nat.not_lt.mpr hlen), if_pos hn]
  rw [hacc]
  generalize sackGrow (sackMarked h pValue) (bytesNewlyAcked h pValue) = g at *
  rw [← hrto] at ht3
  obtain ⟨hr', ht1', hrto', ht3', hst'⟩ := drained_writes hread2 hst ht3 heq
  rw [hrto, hl.rto] at ht3'
  exact ⟨hr', ht1'.trans (ht1.trans hl.t1), hrto'.trans (hrto.trans hl.rto), ht3', hst'⟩

theorem sackIdle_eq {pValue : Bytes} (hlen : 12 ≤ pValue.length)
    (hn : ¬ bytesNewlyAcked h pValue > 0) : sctpHandleSack h pValue = sackMarked h pValue := by
  rw [sctpHandleSack_eq hlen, if_neg hn]

theorem Kept.sack (hk : Kept time h k) (hread : ReadsAt time h) (hc : c.type = SCTP_CHUNK_SACK) :
    Kept time (sctpChunkDispatch true h c) (k.chunk time h c) := by
  have he : c.type ≠ SCTP_CHUNK_COOKIE_ECHO := by rw [hc]; decide
  have ha : c.type ≠ SCTP_CHUNK_COOKIE_ACK := by rw [hc]; decide
  have hd : sctpChunkDispatch true h c = _ := sctpChunkDispatch_sack hc
  have hacc : k.accepted.chunk h c = k.accepted.sack h c.value := by
    unfold Accepted.chunk
    rw [if_neg he, if_neg ha, if_pos hc]
  have hstate : (sctpChunkDispatch true h c).assoc.state = h.assoc.state := by
    rw [hd]
    exact congrArg RecvSide.state (sctpHandleSack_recvSide h c.value)
  have hno : ¬ (h.assoc.state ≠ .COOKIE_ECHOED ∧
      (sctpChunkDispatch true h c).assoc.state = .COOKIE_ECHOED) :=
    fun hw => hw.1 (hstate.symm.trans hw.2)
  by_cases hw : SackWritesT3 h c
  · obtain ⟨-, ht1, hrto, ht3, hst⟩ := sackAcked_writes hk hread hw.2.1 hw.2.2
    rw [← hd] at ht1 hrto ht3 hst
    refine ⟨hk.t1.after hk.rto (fun hw1 => absurd hw1 hno) (fun _ => .inr ht1),
      hk.t3.after hk.rto (fun _ => ht3) (fun hn => absurd (.inr hw) hn), ?_, ?_⟩
    · rw [hrto]
      exact hk.rto
    · show Stamped time _ (k.accepted.chunk h c)
      rw [hacc]
      exact hst
  · by_cases hlen : 12 ≤ c.value.length
    · have hn : ¬ bytesNewlyAcked h c.value > 0 := fun hn => hw ⟨hc, hlen, hn⟩
      obtain ⟨-, hsh⟩ : Lapse time h (sackMarked h c.value) ∧ _ := sackMarked_lapse h c.value
      obtain ⟨hcontrol, ht3⟩ := sackMarked_control h c.value
      have ht1 : (sctpChunkDispatch true h c).assoc.t1InitExpiry = h.assoc.t1InitExpiry := by
        rw [hd]
        exact congrArg RecvSide.t1InitExpiry (sctpHandleSack_recvSide h c.value)
      have hacc' : k.accepted.sack h c.value = k.accepted := by
        unfold Accepted.sack
        rw [if_neg (Nat.not_lt.mpr hlen), if_neg hn]
      rw [sackIdle_eq hlen hn] at hd
      rw [← hd] at hsh hcontrol ht3
      refine ⟨hk.t1.after hk.rto (fun hw1 => absurd hw1 hno) (fun _ => .inr ht1),
        hk.t3.after hk.rto (fun h0 => .inl (ht3.trans (h0.resolve_right hw))) (fun _ => .inr ht3),
        ?_, ?_⟩
      · rw [(control_eq hcontrol).2.2.2.1]
        exact hk.rto
      · show Stamped time _ (k.accepted.chunk h c)
        rw [hacc, hacc']
        exact hk.accepted.shrinks hsh
    · rw [sctpHandleSack_short hlen] at hd
      refine hk.ignored hd hw (hacc.trans ?_)
      unfold Accepted.sack
      rw [if_pos (Nat.not_le.mp hlen)]

/-- **A chunk.** -/
theorem Kept.chunk (hk : Kept time h k) (hread : ReadsAt time h) (c : SctpChunk) :
    Kept time (sctpChunkDispatch true h c) (k.chunk time h c) := by
  by_cases he : c.type = SCTP_CHUNK_COOKIE_ECHO
  · exact hk.cookieEcho hread he
  · by_cases ha : c.type = SCTP_CHUNK_COOKIE_ACK
    · exact hk.cookieAck hread ha
    · by_cases hs : c.type = SCTP_CHUNK_SACK
      · exact hk.sack hread hs
      · exact hk.stays hread he ha hs

theorem Kept.chunks (hk : Kept time h k) (hread : ReadsAt time h) (cs : List SctpChunk) :
    Kept time (cs.foldl (sctpChunkDispatch true) h) (k.chunks time h cs) := by
  induction cs generalizing h k with
  | nil => exact hk
  | cons c cs ih => exact ih (hk.chunk hread c) (hread.chunk c)

/-- **A timer check.** -/
theorem Kept.checkTimers (hk : Kept time h k) (hread : ReadsAt time h) :
    Kept time (sctpAssocCheckTimers h (nowMsAt time)) (k.checkTimers time h (nowMsAt time)) := by
  obtain ⟨hclock, hsh, hsame, hrto, ht1⟩ := checkT1_writes h (nowMsAt time)
  have ht3 := (checkT1_control h (nowMsAt time)).2
  have hread1 : ReadsAt time (checkT1 h (nowMsAt time)).1 := by
    intro n
    rw [hclock]
    exact hread n
  have hrange : RtoInRange (checkT1 h (nowMsAt time)).1.assoc.rtoMs := by
    rcases hrto with heq | heq
    · rw [heq]
      exact hk.rto
    · rw [heq]
      exact hk.rto.backOff
  have harmed1 : Armed time (checkT1 h (nowMsAt time)).1.assoc.t1InitExpiry
      (k.checkTimers time h (nowMsAt time)).t1 :=
    hk.t1.after hrange ht1 (fun hn => .inr (by rw [hsame hn]))
  have hcases := sctpAssocCheckTimers_cases h (nowMsAt time)
  by_cases hexp : T3Expires h (nowMsAt time)
  · rw [if_pos hexp] at hcases
    obtain ⟨-, hsh3, ht1', hrto', ht3'⟩ := t3Leave_writes hread1 (nowMsAt time)
    rw [← hcases] at hsh3 ht1' hrto' ht3'
    have hrange' : RtoInRange (sctpAssocCheckTimers h (nowMsAt time)).assoc.rtoMs := by
      rw [hrto']
      exact hrange.backOff
    refine ⟨?_, hk.t3.after hrange' (fun _ => ht3') (fun hn => absurd hexp hn), hrange',
      (hk.accepted.shrinks hsh).shrinks hsh3⟩
    rw [ht1']
    exact harmed1
  · rw [if_neg hexp] at hcases
    refine ⟨?_, hk.t3.after ?_ (fun hw => absurd hw hexp) (fun _ => .inr ?_), ?_, ?_⟩
    · rw [hcases]
      exact harmed1
    · rw [hcases]
      exact hrange
    · rw [hcases]
      exact ht3
    · rw [hcases]
      exact hrange
    · rw [hcases]
      exact hk.accepted.shrinks hsh

end

/-! ## The calls keep the history true -/

/-- The session is active and its history is true. -/
structure Timed.Good (t : Timed) (time : UINT64) : Prop where
  active : t.session.shutdownStatus = .ACTIVE
  kept : Kept time t.session.host t.history

section

variable {t : Timed} {time : UINT64}

theorem rtoInRange_initial : RtoInRange SCTP_RTO_INITIAL_MS := ⟨by decide, by decide⟩

theorem createTimed_good (start : UINT64) : (createTimed start).Good start where
  active := rfl
  kept :=
    { t1 := ⟨Nat.le_refl _, rtoInRange_initial, rfl⟩
      t3 := rfl
      rto := rtoInRange_initial
      accepted :=
        ⟨fun _ hi => (nomatch hi), fun _ hi => (nomatch hi), fun _ hi => (nomatch hi)⟩ }

theorem Kept.of_assoc {h h' : Host} {k : History} (hk : Kept time h k)
    (heq : h'.assoc = h.assoc) : Kept time h' k := by
  refine ⟨?_, ?_, ?_, hk.accepted.shrinks (.of_eq ?_ ?_ ?_)⟩
  · rw [heq]
    exact hk.t1
  · rw [heq]
    exact hk.t3
  · rw [heq]
    exact hk.rto
  · rw [heq]
  · rw [heq]
  · rw [heq]

theorem readsAt_atTime (s : SctpSession) (time : UINT64) : ReadsAt time (s.atTime time).host :=
  fun _ => rfl

theorem Kept.sessionCheckTimers {h : Host} {k : History} (hk : Kept time h k)
    (hread : ReadsAt time h) :
    Kept time (sessionCheckTimers h) (k.checkTimers time h.tick h.SCTP_NOW_MS) := by
  have htick : Kept time h.tick k := hk.of_assoc rfl
  unfold Sctp.sessionCheckTimers
  rw [hread.now]
  exact htick.checkTimers hread.tick

theorem sctpAssocHandlePacket_eq_foldl (h : Host) (buf : Bytes) :
    sctpAssocHandlePacket h true buf =
      (h.acceptedChunks buf).foldl (sctpChunkDispatch true) h := by
  unfold sctpAssocHandlePacket Host.acceptedChunks
  split
  · rfl
  · simp only
    split <;> rfl

/-- **One call.** -/
theorem Timed.Good.step (hg : t.Good time) {call : UINT64 × SessionOp}
    (hle : time.toNat ≤ call.1.toNat) : (t.step call).Good call.1 := by
  obtain ⟨now, op⟩ := call
  have hk : Kept now (t.session.atTime now).host t.history := (hg.kept.later hle).of_assoc rfl
  have hread := readsAt_atTime t.session now
  have hactive : (t.session.atTime now).shutdownStatus = .ACTIVE := hg.active
  generalize hs : t.session.atTime now = s at hk hread hactive
  have hstep : t.step (now, op) = ⟨s.step op, t.history.call now s op⟩ := by
    unfold Timed.step
    rw [hs]
  rw [hstep]
  cases op with
  | writeDcep streamId pChannelName init => exact ⟨hactive, hk.send hread _⟩
  | writeMessage streamId isBinary pMessage =>
    have heq : s.step (.writeMessage streamId isBinary pMessage) =
        { s with host := sctpAssocSend s.host (s.message streamId isBinary pMessage) } := by
      show sctpSessionWriteMessage s streamId isBinary pMessage = _
      unfold sctpSessionWriteMessage
      rw [if_neg (fun hne => hne hactive)]
    rw [heq]
    exact ⟨hactive, hk.send hread _⟩
  | putSctpPacket buf =>
    obtain ⟨calls, heq⟩ := putSctpPacket_active hactive buf
    have heq' : s.step (.putSctpPacket buf) = _ := heq
    rw [heq']
    refine ⟨hactive, ?_⟩
    show Kept now (sctpAssocHandlePacket (Sctp.sessionCheckTimers s.host) true buf) _
    rw [sctpAssocHandlePacket_eq_foldl]
    exact (hk.sessionCheckTimers hread).chunks (hread.tick.checkTimers _) _
  | tickTimers =>
    have heq : s.step .tickTimers = { s with host := Sctp.sessionCheckTimers s.host } := by
      show sctpSessionTickTimers s = _
      unfold sctpSessionTickTimers
      rw [if_neg (fun hne => hne hactive)]
    rw [heq]
    exact ⟨hactive, hk.sessionCheckTimers hread⟩

/-- **A run.** -/
theorem Timed.Good.run {last : UINT64} {calls : List (UINT64 × SessionOp)} (hg : t.Good time)
    (hmono : (time :: calls.map Prod.fst).Pairwise (· ≤ ·))
    (hlast : ∀ x ∈ time :: calls.map Prod.fst, x ≤ last) :
    (calls.foldl Timed.step t).Good last := by
  induction calls generalizing t time with
  | nil =>
    have hle := BitVec.le_def.mp (hlast time (List.mem_cons_self ..))
    exact ⟨hg.active, hg.kept.later hle⟩
  | cons call calls ih =>
    rw [List.map_cons, List.pairwise_cons] at hmono
    have hle := BitVec.le_def.mp (hmono.1 call.1 (List.mem_cons_self ..))
    exact ih (hg.step hle) hmono.2 fun x hx => hlast x (List.mem_cons_of_mem _ hx)

end

/-! ## Milliseconds and counts -/

section

variable {time : UINT64} {h : Host} {k : History}

/-- A timer that is counted to the end was armed at least `rtoMs - 1` milliseconds ago. -/
theorem Arming.Counted.elapsed {a : Arming} (hr : RtoInRange a.rtoMs) (hc : a.Counted time) :
    a.time.toNat + a.rtoMs.toNat * millisecond ≤ time.toNat + millisecond := by
  have hmin := hr.toNat.1
  unfold Arming.Counted at hc
  unfold millisecond
  omega

theorem Arming.punctual_iff {a : Arming} (hr : RtoInRange a.rtoMs) {fires : Prop}
    (hf : fires → a.Counted time) : a.Punctual time fires ↔ (a.Due time → fires) :=
  ⟨fun hp => hp.1, fun hp => ⟨hp, fun hfire => (hf hfire).elapsed hr⟩⟩

theorem t1Expires_iff {a : Arming} (ha : Armed time h.assoc.t1InitExpiry (some a)) :
    T1Expires h (nowMsAt time) ↔ a.Counted time := ha.expires_iff time

theorem t3Expires_iff {a : Arming} (ha : Armed time h.assoc.t3RtxExpiry (some a)) :
    T3Expires h (nowMsAt time) ↔ a.Counted time ∧ ¬ GivesUp h (nowMsAt time) := by
  unfold T3Expires
  rw [checkT1_givesUp, ha.expires_iff time, and_comm]

theorem shouldAbandon_lifetime {d : SctpOutstandingData} (hl : LifetimeOnly d)
    (hsent : d.creationTime.toNat ≤ time.toNat / 100000) :
    shouldAbandon (nowMsAt time) d.retried = true ↔
      d.creationTime.toNat + d.lifetimeMs.toNat < time.toNat / 100000 := by
  obtain ⟨-, hmax, hpos⟩ := hl
  have hle : d.creationTime ≤ nowMsAt time := by
    rw [BitVec.le_def, toNat_nowMsAt]
    exact hsent
  have hcount : nowMsAt time - d.creationTime > d.lifetimeMs ↔
      d.creationTime.toNat + d.lifetimeMs.toNat < time.toNat / 100000 := by
    rw [gt_iff_lt, BitVec.lt_def, BitVec.toNat_sub_of_le hle, toNat_nowMsAt]
    omega
  unfold shouldAbandon
  rw [decide_eq_true_iff]
  show (d.maxRetransmits ≠ 0xFFFF ∧ _) ∨
    (d.lifetimeMs > 0 ∧ nowMsAt time - d.creationTime > d.lifetimeMs) ↔ _
  rw [hcount]
  constructor
  · rintro (⟨hne, -⟩ | ⟨-, hlt⟩)
    · exact absurd hmax hne
    · exact hlt
  · intro hlt
    exact .inr ⟨BitVec.lt_def.mpr hpos, hlt⟩

/-- **A check is on time exactly when it comes at a timely moment.** -/
theorem onTime_iff (hk : Kept time h k) : OnTime h k time ↔ Timely h k time := by
  have ht1 : ∀ a, k.t1 = some a → (a.Punctual time (T1Expires h (nowMsAt time)) ↔
      (a.Due time → a.Counted time)) := by
    intro a ha
    have harmed : Armed time h.assoc.t1InitExpiry (some a) := ha ▸ hk.t1
    rw [Arming.punctual_iff harmed.2.1 (t1Expires_iff harmed).mp, t1Expires_iff harmed]
  have ht3 : ∀ a, k.t3 = some a → (a.Punctual time (T3Expires h (nowMsAt time)) ↔
      (a.Due time → a.Counted time ∧ ¬ GivesUp h (nowMsAt time))) := by
    intro a ha
    have harmed : Armed time h.assoc.t3RtxExpiry (some a) := ha ▸ hk.t3
    rw [Arming.punctual_iff harmed.2.1 (fun hf => ((t3Expires_iff harmed).mp hf).1),
      t3Expires_iff harmed]
  have hlife : ∀ i, LifetimeOnly (h.assoc.outstanding.get i) →
      (shouldAbandon (nowMsAt time) (h.assoc.outstanding.get i).retried = true ↔
        (h.assoc.outstanding.get i).creationTime.toNat +
          (h.assoc.outstanding.get i).lifetimeMs.toNat < time.toNat / 100000) :=
    fun i hi => shouldAbandon_lifetime hi (hk.accepted.outstanding i hi.1.1).2
  constructor
  · intro ho
    refine ⟨fun a ha => (ht1 a ha).mp (ho.t1 a ha), fun a ha => (ht3 a ha).mp (ho.t3 a ha),
      fun hexp i hi hout => ?_⟩
    exact (hlife i hi).mp (((ho.lifetime hexp i hi).1 hout).2)
  · intro ht
    refine ⟨fun a ha => (ht1 a ha).mpr (ht.t1 a ha), fun a ha => (ht3 a ha).mpr (ht.t3 a ha),
      fun hexp i hi => ⟨fun hout => ⟨hi.1, (hlife i hi).mpr (ht.lifetime hexp i hi hout)⟩,
        fun hearly => ⟨hi.1, ?_⟩⟩⟩
    -- the chunk was sent after its message was accepted, so it was in flight for less
    rw [← Bool.not_eq_true, hlife i hi]
    have hacc := (hk.accepted.outstanding i hi.1.1).1
    unfold millisecond at hearly
    omega

end

/-! ## The run -/

/-- **Timers and lifetimes run in milliseconds exactly in the runs whose timer checks come at timely
moments.** -/
theorem timers_in_milliseconds_iff (start : UINT64) (calls : List (UINT64 × SessionOp))
    (hmono : (start :: calls.map Prod.fst).Pairwise (· ≤ ·)) :
    InMilliseconds start calls ↔
      ∀ pre call post, calls = pre ++ call :: post → call.2.ChecksTimers →
        Timely ((timedRun start pre).checked call.1) (timedRun start pre).history call.1 := by
  have hpre : ∀ pre post, calls = pre ++ post →
      (start :: pre.map Prod.fst).Pairwise (· ≤ ·) := by
    intro pre post heq
    rw [heq, List.map_append, ← List.cons_append] at hmono
    exact (List.pairwise_append.mp hmono).1
  have hgood : ∀ pre post {last : UINT64}, calls = pre ++ post →
      (∀ x ∈ start :: pre.map Prod.fst, x ≤ last) → (timedRun start pre).Good last :=
    fun pre post _ heq hlast => (createTimed_good start).run (hpre pre post heq) hlast
  have hcheck : ∀ pre call post, calls = pre ++ call :: post →
      (OnTime ((timedRun start pre).checked call.1) (timedRun start pre).history call.1 ↔
        Timely ((timedRun start pre).checked call.1) (timedRun start pre).history call.1) := by
    intro pre call post heq
    have hle : ∀ x ∈ start :: pre.map Prod.fst, x ≤ call.1 := by
      intro x hx
      rw [heq, List.map_append, ← List.cons_append] at hmono
      exact (List.pairwise_append.mp hmono).2.2 x hx call.1 (List.mem_cons_self ..)
    exact onTime_iff ((hgood pre _ heq hle).kept.of_assoc rfl)
  constructor
  · intro hm pre call post heq hc
    exact (hcheck pre call post heq).mp (hm.onTime pre call post heq hc)
  · intro ht
    refine ⟨fun pre call post heq hc => (hcheck pre call post heq).mpr (ht pre call post heq hc),
      fun pre post heq => ?_⟩
    have hmax : ∀ x ∈ start :: pre.map Prod.fst, x ≤ BitVec.allOnes 64 := by
      intro x _
      have hlt := x.isLt
      rw [BitVec.le_def, BitVec.toNat_allOnes]
      omega
    exact (hgood pre post heq hmax).kept.rto

/-- A check one RTO and a millisecond after the session was created finds that T1 has not expired:
it is ten times late. -/
theorem timer_ten_times_late :
    ([17000000000000000, 17000000010010000] : List UINT64).Pairwise (· ≤ ·) ∧
      ¬ InMilliseconds 17000000000000000 [(17000000010010000, .tickTimers)] := by
  refine ⟨by decide, fun hm => ?_⟩
  have hdue : (⟨17000000000000000, 1000⟩ : Arming).Due 17000000010010000 := by
    unfold Arming.Due
    decide
  have hfires := ((hm.onTime [] _ [] rfl trivial).t1 ⟨17000000000000000, 1000⟩ rfl).1 hdue
  exact absurd hfires (by decide +kernel)

/-- A check that comes ten RTOs and a little later. -/
theorem timers_in_milliseconds_late_check :
    ([17000000000000000, 17000000100100000] : List UINT64).Pairwise (· ≤ ·) ∧
      InMilliseconds 17000000000000000 [(17000000100100000, .tickTimers)] := by
  refine ⟨by decide, (timers_in_milliseconds_iff _ _ (by decide)).mpr ?_⟩
  intro pre call post heq _
  rcases pre with _ | ⟨x, pre⟩
  · cases heq
    refine ⟨fun a ha _ => ?_, fun a ha => (nomatch ha),
      fun hexp => absurd hexp (by decide +kernel)⟩
    cases ha
    unfold Arming.Counted
    decide
  · exact absurd (congrArg List.length heq) (by simp)

end KvsWebrtc.Sctp
