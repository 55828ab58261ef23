import KvsWebrtc.Sctp.Control

/-!
# What the steps do at a time

Every function of the association that looks at the clock divides `GETTIME`, which counts units of
100 ns, by ten times the number of such units in a millisecond.  This module says what each step
does to the timers and to the slots of the three message tables when it runs at a given time.
Sending arms T3 if it does not run, a SACK and an expiry arm it anew or stop it, an INIT-ACK and an
expiry of T1 arm T1, and nothing else arms either.  Chunks are stored with the reading of the clock,
in slots that were free, and keep it until the slot is given back.

Principal results: `Lapse.send`, `sctpAssocSend_fills`, `Stays.chunk`, `sackGrow_writes`,
`t3Leave_writes` and `checkT1_writes`.
-/

namespace KvsWebrtc.Sctp

/-! ## The reading of the clock -/

/-- What `SCTP_NOW_MS()` and the timer checks of the session read at `time`. -/
def nowMsAt (time : UINT64) : UINT64 := time / (10 * HUNDREDS_OF_NANOS_IN_A_MILLISECOND)

theorem toNat_nowMsAt (time : UINT64) : (nowMsAt time).toNat = time.toNat / 100000 := by
  unfold nowMsAt
  rw [BitVec.toNat_udiv]
  have hten : (10 * HUNDREDS_OF_NANOS_IN_A_MILLISECOND : UINT64).toNat = 100000 := by decide
  rw [hten]

/-- T1 expires in this check. -/
def T1Expires (h : Host) (nowMs : UINT64) : Prop :=
  h.assoc.t1InitExpiry ≠ 0 ∧ nowMs ≥ h.assoc.t1InitExpiry

instance (h : Host) (nowMs : UINT64) : Decidable (T1Expires h nowMs) :=
  inferInstanceAs (Decidable (_ ∧ _))

/-- T1 expires once too often: the check ends there, before T3. -/
def GivesUp (h : Host) (nowMs : UINT64) : Prop :=
  T1Expires h nowMs ∧ h.assoc.initRetransmitCount + 1 > SCTP_MAX_INIT_RETRANS

/-! ## Sending at a time -/

/-- The clock stands at `time`. -/
def ReadsAt (time : UINT64) (h : Host) : Prop := ∀ n, h.clock n = time

/-- The expiry of a timer armed at `time`. -/
def expiryAt (time : UINT64) (rtoMs : UINT32) : UINT64 := nowMsAt time + rtoMs.setWidth 64

/-- What a step at `time` may do to the timers when it arms at most T3: T1 and the RTO stay, and T3
is armed only if it did not run. -/
structure Lapse (time : UINT64) (h h' : Host) : Prop where
  clock : ReadsAt time h → ReadsAt time h'
  t1 : h'.assoc.t1InitExpiry = h.assoc.t1InitExpiry
  rto : h'.assoc.rtoMs = h.assoc.rtoMs
  t3 : ReadsAt time h → h'.assoc.t3RtxExpiry = h.assoc.t3RtxExpiry ∨
    h.assoc.t3RtxExpiry = 0 ∧ h'.assoc.t3RtxExpiry = expiryAt time h.assoc.rtoMs

section

variable {time : UINT64} {h h' h'' : Host}

theorem ReadsAt.now (hr : ReadsAt time h) : h.SCTP_NOW_MS = nowMsAt time := by
  unfold Host.SCTP_NOW_MS nowMsAt
  rw [hr 0]

theorem ReadsAt.tick (hr : ReadsAt time h) : ReadsAt time h.tick := fun n => hr (n + 1)

theorem Lapse.of_eq (hc : h'.clock = h.clock) (h1 : h'.assoc.t1InitExpiry = h.assoc.t1InitExpiry)
    (hr : h'.assoc.rtoMs = h.assoc.rtoMs) (h3 : h'.assoc.t3RtxExpiry = h.assoc.t3RtxExpiry) :
    Lapse time h h' :=
  ⟨fun hread n => by rw [hc]; exact hread n, h1, hr, fun _ => .inl h3⟩

theorem Lapse.refl (h : Host) : Lapse time h h := .of_eq rfl rfl rfl rfl

theorem Lapse.trans (h1 : Lapse time h h') (h2 : Lapse time h' h'') : Lapse time h h'' := by
  refine ⟨fun hread => h2.clock (h1.clock hread), h2.t1.trans h1.t1, h2.rto.trans h1.rto,
    fun hread => ?_⟩
  have ha := h1.t3 hread
  have hb := h2.t3 (h1.clock hread)
  rw [h1.rto] at hb
  rcases hb with hb | ⟨hb0, hb⟩
  · rw [hb]
    exact ha
  · rcases ha with ha | ⟨ha0, -⟩
    · exact .inr ⟨ha.symm.trans hb0, hb⟩
    · exact .inr ⟨ha0, hb⟩

theorem Lapse.tick (h : Host) : Lapse time h h.tick :=
  ⟨fun hread => hread.tick, rfl, rfl, fun _ => .inl rfl⟩

theorem Lapse.sends (h : Host) : QueueKeeps fun h' => ReadsAt time h' ∧ Lapse time h h' where
  tick hp := ⟨hp.1.tick, hp.2.trans (.tick _)⟩
  nextSsn _ hp := ⟨hp.1, hp.2.trans (.of_eq rfl rfl rfl rfl)⟩
  enqueueSend _ _ hp := ⟨hp.1, hp.2.trans (.of_eq rfl rfl rfl rfl)⟩
  enqueuePending _ _ hp := ⟨hp.1, hp.2.trans (.of_eq rfl rfl rfl rfl)⟩
  takeTsn hp := ⟨hp.1, hp.2.trans (.of_eq rfl rfl rfl rfl)⟩
  transmit _ _ _ _ _ _ _ hp := ⟨hp.1, hp.2.trans (.of_eq rfl rfl rfl rfl)⟩
  startT3 h0 hread hp := by
    rw [hread.1.now]
    exact ⟨hp.1, hp.2.trans ⟨fun hr => hr, rfl, rfl, fun _ => .inr ⟨h0, rfl⟩⟩⟩
  dequeueSend _ hp := ⟨hp.1, hp.2.trans (.of_eq rfl rfl rfl rfl)⟩
  evictPending _ hp := ⟨hp.1, hp.2.trans (.of_eq rfl rfl rfl rfl)⟩

/-- **Sending.** -/
theorem Lapse.send (hread : ReadsAt time h) (m : SctpMessage) :
    Lapse time h (sctpAssocSend h m) := ((Lapse.sends h).send m ⟨hread, .refl h⟩).2

theorem Lapse.flush (hread : ReadsAt time h) : Lapse time h (sctpFlushSendQueue h) :=
  ((Lapse.sends h).flush ⟨hread, .refl h⟩).2

theorem Lapse.drain (hread : ReadsAt time h) : Lapse time h (sctpDrainPendingQueue h) :=
  ((Lapse.sends h).drain ⟨hread, .refl h⟩).2

end

/-! ## The slots a message takes -/

/-- A message sent when the clock reads `nowMs` is stored in free slots. -/
structure Fills (nowMs : UINT64) (h h' : Host) : Prop where
  used : ∀ i, (h.assoc.outstanding.get i).inUse = true →
    h'.assoc.outstanding.get i = h.assoc.outstanding.get i
  fresh : ∀ i, (h.assoc.outstanding.get i).inUse = false →
    (h'.assoc.outstanding.get i).inUse = true →
    (h'.assoc.outstanding.get i).creationTime = nowMs

section

variable {nowMs : UINT64} {h h' h'' : Host}

theorem Fills.of_eq (heq : h'.assoc.outstanding = h.assoc.outstanding) : Fills nowMs h h' := by
  refine ⟨fun i _ => by rw [heq], fun i hfree hused => ?_⟩
  rw [heq, hfree] at hused
  cases hused

theorem Fills.same (hf : Fills nowMs h h') (heq : h''.assoc.outstanding = h'.assoc.outstanding) :
    Fills nowMs h h'' := by
  refine ⟨fun i hi => ?_, fun i hfree hused => ?_⟩
  · rw [heq]
    exact hf.used i hi
  · rw [heq] at hused ⊢
    exact hf.fresh i hfree hused

theorem Fills.store (hf : Fills nowMs h h') {i : Fin SCTP_MAX_OUTSTANDING}
    (hfree : (h'.assoc.outstanding.get i).inUse = false) {d : SctpOutstandingData}
    (hd : d.creationTime = nowMs) (heq : h''.assoc.outstanding = h'.assoc.outstanding.set i d) :
    Fills nowMs h h'' := by
  refine ⟨fun j hj => ?_, fun j hj hused => ?_⟩
  · have hne : j ≠ i := by
      rintro rfl
      rw [hf.used j hj, hj] at hfree
      cases hfree
    rw [heq, SlotTable.get_set_ne _ _ hne]
    exact hf.used j hj
  · rw [heq, SlotTable.get_set] at hused ⊢
    split
    · exact hd
    · rename_i hne
      rw [if_neg hne] at hused
      exact hf.fresh j hj hused

theorem queuePending_outstanding (h : Host) (m : SctpMessage) :
    (queuePending h m).assoc.outstanding = h.assoc.outstanding := (queuePending_frame h m).2.2

theorem queueSend_outstanding (h : Host) (m : SctpMessage) :
    (queueSend h m).assoc.outstanding = h.assoc.outstanding := by
  unfold queueSend
  split
  · split <;> rfl
  · rfl

theorem addNextSsn_outstanding (h : Host) (m : SctpMessage) (d : UINT16) :
    (addNextSsn h m d).assoc.outstanding = h.assoc.outstanding :=
  congrArg SendSide.outstanding (addNextSsn_sendSide h m d)

/-- **Sending.** -/
theorem sctpAssocSend_fills (h : Host) (m : SctpMessage) :
    Fills h.SCTP_NOW_MS h (sctpAssocSend h m) := by
  have hssn : (addNextSsn h.tick m 1).assoc.outstanding = h.assoc.outstanding :=
    addNextSsn_outstanding h.tick m 1
  unfold sctpAssocSend
  simp only
  split
  · exact .of_eq (queueSend_outstanding h.tick m)
  · split
    · exact .of_eq (queuePending_outstanding h.tick m)
    · split
      · split
        · refine .of_eq ?_
          rw [queuePending_outstanding, addNextSsn_outstanding, hssn]
        · rename_i i hfree
          refine Fills.same ?_ (startT3_outstanding _ _)
          exact (Fills.of_eq hssn).store (SlotTable.firstFree_eq_some hfree).1
            (d := sentChunk m _ _ _ h.SCTP_NOW_MS) rfl rfl
      · exact sendFragments_invariant (P := fun h' => Fills h.SCTP_NOW_MS h h')
          (fun _ hp => hp.same rfl) (fun h' hp => hp.same (startT3_outstanding h' _))
          (fun _ _ _ _ hfree hp => hp.store hfree (d := sentChunk m _ _ _ h.SCTP_NOW_MS) rfl rfl) _
          (.of_eq hssn)

end

/-! ## The slots that are given back -/

/-- Slots are given back, and chunks keep the time they were sent. -/
structure Shrinks (h h' : Host) : Prop where
  sendQueue : ∀ i, (h'.assoc.sendQueue.get i).inUse = true →
    (h.assoc.sendQueue.get i).inUse = true
  pendingQueue : ∀ i, (h'.assoc.pendingQueue.get i).inUse = true →
    (h.assoc.pendingQueue.get i).inUse = true
  outstanding : ∀ i, (h'.assoc.outstanding.get i).inUse = true →
    (h.assoc.outstanding.get i).inUse = true ∧
      (h'.assoc.outstanding.get i).creationTime = (h.assoc.outstanding.get i).creationTime

section

variable {h h' h'' : Host}

theorem Shrinks.of_eq (hs : h'.assoc.sendQueue = h.assoc.sendQueue)
    (hp : h'.assoc.pendingQueue = h.assoc.pendingQueue)
    (ho : h'.assoc.outstanding = h.assoc.outstanding) : Shrinks h h' :=
  ⟨fun i hi => hs ▸ hi, fun i hi => hp ▸ hi, fun i hi => ⟨ho ▸ hi, by rw [ho]⟩⟩

theorem Shrinks.trans (h1 : Shrinks h h') (h2 : Shrinks h' h'') : Shrinks h h'' := by
  refine ⟨fun i hi => h1.sendQueue i (h2.sendQueue i hi),
    fun i hi => h1.pendingQueue i (h2.pendingQueue i hi), fun i hi => ?_⟩
  obtain ⟨hi', ht'⟩ := h2.outstanding i hi
  obtain ⟨hi, ht⟩ := h1.outstanding i hi'
  exact ⟨hi, ht'.trans ht⟩

theorem Shrinks.release (h : Host) (i : Fin SCTP_MAX_OUTSTANDING) (d : SctpOutstandingData) :
    Shrinks h (releaseSlot h i d) := by
  refine ⟨fun _ hj => hj, fun _ hj => hj, fun j hj => ?_⟩
  have hout : (releaseSlot h i d).assoc.outstanding =
      h.assoc.outstanding.set i { d with payload := none, inUse := false } := rfl
  rw [hout, SlotTable.get_set] at hj ⊢
  split at hj
  · cases hj
  · rename_i hne
    rw [if_neg hne]
    exact ⟨hj, rfl⟩

theorem Shrinks.retry (h : Host) (i : Fin SCTP_MAX_OUTSTANDING) :
    Shrinks h (setOutstanding h i (h.assoc.outstanding.get i).retried) := by
  refine ⟨fun _ hj => hj, fun _ hj => hj, fun j hj => ?_⟩
  have hout : (setOutstanding h i (h.assoc.outstanding.get i).retried).assoc.outstanding =
      h.assoc.outstanding.set i (h.assoc.outstanding.get i).retried := rfl
  rw [hout, SlotTable.get_set] at hj ⊢
  split at hj
  · rename_i heq
    rw [if_pos heq]
    subst heq
    exact ⟨hj, rfl⟩
  · rename_i hne
    rw [if_neg hne]
    exact ⟨hj, rfl⟩

theorem inUse_of_set {n : Nat} {t : SlotTable SctpQueueSlot n} {i j : Fin n} {q : SctpQueueSlot}
    (hq : q.inUse = false) (hj : ((t.set i q).get j).inUse = true) : (t.get j).inUse = true := by
  rw [SlotTable.get_set] at hj
  split at hj
  · rw [hq] at hj
    cases hj
  · exact hj

end

/-! ## Chunks that move no message -/

/-- The part of a host that time is about. -/
structure ClockSide where
  state : SctpAssocState
  clock : Nat → UINT64
  t1InitExpiry : UINT64
  t3RtxExpiry : UINT64
  rtoMs : UINT32
  sendQueue : SlotTable SctpQueueSlot SCTP_MAX_QUEUED_MESSAGES
  pendingQueue : SlotTable SctpQueueSlot SCTP_MAX_PENDING_SENDS
  outstanding : SlotTable SctpOutstandingData SCTP_MAX_OUTSTANDING

def Host.clockSide (h : Host) : ClockSide where
  state := h.assoc.state
  clock := h.clock
  t1InitExpiry := h.assoc.t1InitExpiry
  t3RtxExpiry := h.assoc.t3RtxExpiry
  rtoMs := h.assoc.rtoMs
  sendQueue := h.assoc.sendQueue
  pendingQueue := h.assoc.pendingQueue
  outstanding := h.assoc.outstanding

/-- What a chunk that moves no message does: it may arm T1 on the way to COOKIE-ECHOED. -/
structure Stays (time : UINT64) (h h' : Host) : Prop where
  clock : ReadsAt time h → ReadsAt time h'
  rto : h'.assoc.rtoMs = h.assoc.rtoMs
  t3 : h'.assoc.t3RtxExpiry = h.assoc.t3RtxExpiry
  tables : Shrinks h h'
  t1 : ReadsAt time h →
    h'.assoc.t1InitExpiry = h.assoc.t1InitExpiry ∧
      ¬ (h.assoc.state ≠ .COOKIE_ECHOED ∧ h'.assoc.state = .COOKIE_ECHOED) ∨
    (h.assoc.state ≠ .COOKIE_ECHOED ∧ h'.assoc.state = .COOKIE_ECHOED) ∧
      h'.assoc.t1InitExpiry = expiryAt time h.assoc.rtoMs

section

variable {time : UINT64} {h h' : Host}

theorem Stays.of_state (st : SctpAssocState)
    (hst : st = .COOKIE_ECHOED → h.assoc.state = .COOKIE_ECHOED)
    (heq : h'.clockSide = { h.clockSide with state := st }) : Stays time h h' where
  clock := fun hread n => (congrFun (congrArg ClockSide.clock heq) n).trans (hread n)
  rto := congrArg ClockSide.rtoMs heq
  t3 := congrArg ClockSide.t3RtxExpiry heq
  tables := .of_eq (congrArg ClockSide.sendQueue heq) (congrArg ClockSide.pendingQueue heq)
    (congrArg ClockSide.outstanding heq)
  t1 := fun _ => .inl ⟨congrArg ClockSide.t1InitExpiry heq,
    fun hc => hc.1 (hst ((congrArg ClockSide.state heq).symm.trans hc.2))⟩

theorem Stays.of_clockSide (heq : h'.clockSide = h.clockSide) : Stays time h h' :=
  .of_state h.assoc.state id heq

theorem receives_clockSide (h : Host) : ReceiveKeeps fun h' => h'.clockSide = h.clockSide where
  track _ _ _ _ _ := id
  deliver _ _ _ _ _ _ := id
  sendSack {g} hp := by
    unfold sctpSendSack
    split <;> exact hp

theorem Stays.initAck (h : Host) (pValue : Bytes) : Stays time h (sctpHandleInitAck h pValue) := by
  unfold sctpHandleInitAck
  split
  · exact .of_clockSide rfl
  · split
    · exact .of_clockSide rfl
    · rename_i hst
      split
      · exact .of_clockSide rfl
      · -- the cookie is echoed and T1 armed
        have hne : h.assoc.state ≠ .COOKIE_ECHOED := by
          intro heq
          rw [heq] at hst
          exact hst ⟨by decide, by decide⟩
        refine ⟨fun hread => hread.tick, rfl, rfl, .of_eq rfl rfl rfl, fun hread => ?_⟩
        refine .inr ⟨⟨hne, rfl⟩, ?_⟩
        unfold expiryAt
        rw [← hread.now]
        rfl

/-- **Every chunk but a COOKIE-ECHO, a COOKIE-ACK and a SACK.** -/
theorem Stays.chunk (h : Host) (messageFn : Bool) {c : SctpChunk}
    (he : c.type ≠ SCTP_CHUNK_COOKIE_ECHO) (ha : c.type ≠ SCTP_CHUNK_COOKIE_ACK)
    (hs : c.type ≠ SCTP_CHUNK_SACK) : Stays time h (sctpChunkDispatch messageFn h c) := by
  refine sctpChunkDispatch_cases (P := fun h' => Stays time h h') (fun _ => ?_)
    (fun _ => .initAck h _) (fun hc => absurd hc he) (fun hc => absurd hc ha)
    (fun _ => .of_clockSide ((receives_clockSide h).data _ _ _ rfl)) (fun hc => absurd hc hs)
    (fun _ => .of_clockSide ((receives_clockSide h).forwardTsn _ rfl)) (fun _ => ?_)
    (fun _ => .of_state .SHUTDOWN_ACK_SENT (fun hc => nomatch hc) rfl)
    (fun _ => .of_state .CLOSED (fun hc => nomatch hc) rfl)
    (fun _ => .of_state .CLOSED (fun hc => nomatch hc) rfl) (.of_clockSide rfl)
  · rcases sctpHandleInit_sends h c.value with heq | ⟨vtag, w, heq⟩
    · rw [heq]
      exact .of_clockSide rfl
    · rw [heq]
      exact .of_clockSide rfl
  · unfold handleHeartbeat
    simp only
    split <;> exact .of_clockSide rfl

end

/-! ## A SACK and an expiry -/

section

variable {time : UINT64} {h : Host}

theorem sackMarked_lapse (h : Host) (pValue : Bytes) :
    Lapse time h (sackMarked h pValue) ∧ Shrinks h (sackMarked h pValue) := by
  have hloops := sackLoops_invariant (P := fun h' => Lapse time h h' ∧ Shrinks h h')
    (fun _ _ _ hp => ⟨hp.1.trans (.of_eq rfl rfl rfl rfl), hp.2.trans (.release _ _ _)⟩)
    (h := { h with assoc.peerArwnd := getUnalignedInt32BigEndian pValue 4 }) pValue
    ⟨.of_eq rfl rfl rfl rfl, .of_eq rfl rfl rfl⟩
  unfold sackMarked
  simp only
  generalize (sackLoops { h with assoc.peerArwnd := getUnalignedInt32BigEndian pValue 4 }
    pValue).1 = h1 at hloops
  split
  · exact ⟨hloops.1.trans (.of_eq rfl rfl rfl rfl), hloops.2.trans (.of_eq rfl rfl rfl)⟩
  · exact hloops

theorem sackGrow_writes (hread : ReadsAt time h) (n : UINT32) :
    ReadsAt time (sackGrow h n) ∧ Shrinks h (sackGrow h n) ∧
      (sackGrow h n).assoc.t1InitExpiry = h.assoc.t1InitExpiry ∧
      (sackGrow h n).assoc.rtoMs = h.assoc.rtoMs ∧
      ((sackGrow h n).assoc.t3RtxExpiry = 0 ∨
        (sackGrow h n).assoc.t3RtxExpiry = expiryAt time h.assoc.rtoMs) := by
  unfold sackGrow
  simp only
  split
  · exact ⟨hread, .of_eq rfl rfl rfl, rfl, rfl, .inl rfl⟩
  · refine ⟨hread.tick, .of_eq rfl rfl rfl, rfl, rfl, .inr ?_⟩
    unfold expiryAt
    rw [← hread.now]
    rfl

theorem restartT3_expiry (h : Host) (nowMs : UINT64) :
    (restartT3 h nowMs).assoc.t3RtxExpiry = 0 ∨ (restartT3 h nowMs).assoc.t3RtxExpiry =
      nowMs + (restartT3 h nowMs).assoc.rtoMs.setWidth 64 := by
  unfold restartT3
  split
  · exact .inr rfl
  · exact .inl rfl

theorem t3Leave_writes (hread : ReadsAt time h) (nowMs : UINT64) :
    ReadsAt time (t3Leave h nowMs) ∧ Shrinks h (t3Leave h nowMs) ∧
      (t3Leave h nowMs).assoc.t1InitExpiry = h.assoc.t1InitExpiry ∧
      (t3Leave h nowMs).assoc.rtoMs = (backOff h).assoc.rtoMs ∧
      ((t3Leave h nowMs).assoc.t3RtxExpiry = 0 ∨ (t3Leave h nowMs).assoc.t3RtxExpiry =
        nowMs + (t3Leave h nowMs).assoc.rtoMs.setWidth 64) := by
  have hframe := T3Keeps.leave (P := fun h' => h'.clock = h.clock ∧ Shrinks h h' ∧
      h'.assoc.t1InitExpiry = h.assoc.t1InitExpiry ∧ h'.assoc.rtoMs = (backOff h).assoc.rtoMs)
    (h := t3Enter h)
    ⟨fun i _ hp => ⟨hp.1, hp.2.1.trans ((Shrinks.release _ i _).trans (.of_eq rfl rfl rfl)), hp.2.2⟩,
      fun i hp => ⟨hp.1, hp.2.1.trans (.retry _ i), hp.2.2⟩,
      fun _ _ _ _ _ _ hp => ⟨hp.1, hp.2.1.trans (.of_eq rfl rfl rfl), hp.2.2⟩,
      fun _ hp => ⟨hp.1, hp.2.1.trans (.of_eq rfl rfl rfl), hp.2.2⟩,
      fun _ hp => ⟨hp.1, hp.2.1.trans (.of_eq rfl rfl rfl), hp.2.2⟩⟩
    nowMs ⟨rfl, .of_eq rfl rfl rfl, rfl, rfl⟩
  unfold t3Leave
  refine ⟨fun n => (congrFun hframe.1 n).trans (hread n), hframe.2.1, hframe.2.2.1, hframe.2.2.2,
    restartT3_expiry _ nowMs⟩

/-- **T1 by cases.** -/
theorem checkT1_writes (h : Host) (nowMs : UINT64) :
    (checkT1 h nowMs).1.clock = h.clock ∧ Shrinks h (checkT1 h nowMs).1 ∧
      (¬ T1Expires h nowMs → (checkT1 h nowMs).1 = h) ∧
      ((checkT1 h nowMs).1.assoc.rtoMs = h.assoc.rtoMs ∨
        (checkT1 h nowMs).1.assoc.rtoMs = (backOff h).assoc.rtoMs) ∧
      (T1Expires h nowMs → (checkT1 h nowMs).1.assoc.t1InitExpiry = 0 ∨
        (checkT1 h nowMs).1.assoc.t1InitExpiry =
          nowMs + (checkT1 h nowMs).1.assoc.rtoMs.setWidth 64) := by
  unfold checkT1
  simp only
  split
  · rename_i hexp
    split
    · exact ⟨rfl, .of_eq rfl rfl rfl, fun hn => absurd hexp hn, .inl rfl, fun _ => .inl rfl⟩
    · split
      · exact ⟨rfl, .of_eq rfl rfl rfl, fun hn => absurd hexp hn, .inr rfl, fun _ => .inr rfl⟩
      · split
        · exact ⟨rfl, .of_eq rfl rfl rfl, fun hn => absurd hexp hn, .inr rfl, fun _ => .inr rfl⟩
        · exact ⟨rfl, .of_eq rfl rfl rfl, fun hn => absurd hexp hn, .inr rfl, fun _ => .inr rfl⟩
  · rename_i hexp
    exact ⟨rfl, .of_eq rfl rfl rfl, fun _ => rfl, .inl rfl, fun hc => absurd hc hexp⟩

theorem checkT1_givesUp (h : Host) (nowMs : UINT64) :
    (checkT1 h nowMs).2 = false ↔ ¬ GivesUp h nowMs := by
  unfold checkT1
  simp only
  split
  · rename_i hexp
    split
    · rename_i hmax
      exact ⟨fun hc => (nomatch hc), fun hno => absurd ⟨hexp, hmax⟩ hno⟩
    · rename_i hmax
      exact ⟨fun _ hg => hmax hg.2, fun _ => rfl⟩
  · rename_i hexp
    exact ⟨fun _ hg => hexp hg.1, fun _ => rfl⟩

theorem ReadsAt.sack (hread : ReadsAt time h) (pValue : Bytes) :
    ReadsAt time (sctpHandleSack h pValue) := by
  by_cases hlen : 12 ≤ pValue.length
  · have hl : Lapse time h (sackMarked h pValue) := (sackMarked_lapse h pValue).1
    have hgrow := (sackGrow_writes (hl.clock hread) (bytesNewlyAcked h pValue)).1
    rw [sctpHandleSack_eq hlen]
    split
    · split
      · exact (Lapse.drain hgrow).clock hgrow
      · exact hgrow
    · exact hl.clock hread
  · rw [sctpHandleSack_short hlen]
    exact hread

theorem ReadsAt.chunk (hread : ReadsAt time h) (c : SctpChunk) :
    ReadsAt time (sctpChunkDispatch true h c) := by
  by_cases he : c.type = SCTP_CHUNK_COOKIE_ECHO
  · rw [sctpChunkDispatch_cookieEcho he]
    unfold sctpHandleCookieEcho
    simp only
    split
    · exact hread
    · split
      · exact hread
      · have hread1 : ReadsAt time (acceptCookie h (SctpCookie.ofBytes c.value)) := hread
        exact (Lapse.flush hread1).clock hread1
  · by_cases ha : c.type = SCTP_CHUNK_COOKIE_ACK
    · rw [sctpChunkDispatch_cookieAck ha]
      unfold sctpHandleCookieAck
      split
      · exact hread
      · have hread1 : ReadsAt time
            { h with assoc.state := .ESTABLISHED, assoc.t1InitExpiry := 0 } := hread
        exact (Lapse.flush hread1).clock hread1
    · by_cases hs : c.type = SCTP_CHUNK_SACK
      · rw [sctpChunkDispatch_sack hs]
        exact hread.sack c.value
      · exact (Stays.chunk h true he ha hs).clock hread

theorem ReadsAt.checkTimers (hread : ReadsAt time h) (nowMs : UINT64) :
    ReadsAt time (sctpAssocCheckTimers h nowMs) := by
  have hread1 : ReadsAt time (checkT1 h nowMs).1 := by
    intro n
    rw [(checkT1_writes h nowMs).1]
    exact hread n
  rw [sctpAssocCheckTimers_cases]
  split
  · exact (t3Leave_writes hread1 nowMs).1
  · exact hread1

end

/-! ## The retransmission timeout -/

def RtoInRange (rtoMs : UINT32) : Prop := SCTP_RTO_MIN_MS ≤ rtoMs ∧ rtoMs ≤ SCTP_RTO_MAX_MS

section

variable {time : UINT64}

theorem RtoInRange.toNat {rtoMs : UINT32} (hr : RtoInRange rtoMs) :
    1000 ≤ rtoMs.toNat ∧ rtoMs.toNat ≤ 60000 :=
  ⟨BitVec.le_def.mp hr.1, BitVec.le_def.mp hr.2⟩

theorem RtoInRange.backOff {h : Host} (hr : RtoInRange h.assoc.rtoMs) :
    RtoInRange (backOff h).assoc.rtoMs := by
  obtain ⟨hmin, hmax⟩ := hr.toNat
  show RtoInRange (if h.assoc.rtoMs * 2 > SCTP_RTO_MAX_MS then SCTP_RTO_MAX_MS
    else h.assoc.rtoMs * 2)
  split
  · exact ⟨by decide, BitVec.le_refl _⟩
  · rename_i hsmall
    refine ⟨BitVec.le_def.mpr ?_, BitVec.not_lt.mp hsmall⟩
    have htwo : (2 : UINT32).toNat = 2 := rfl
    have hmin' : SCTP_RTO_MIN_MS.toNat = 1000 := rfl
    rw [BitVec.toNat_mul, htwo, hmin', Nat.mod_eq_of_lt (by omega)]
    omega

theorem toNat_expiryAt (time : UINT64) (rtoMs : UINT32) :
    (expiryAt time rtoMs).toNat = time.toNat / 100000 + rtoMs.toNat := by
  have htime := time.isLt
  have hrto := rtoMs.isLt
  unfold expiryAt
  rw [BitVec.toNat_add, toNat_nowMsAt, BitVec.toNat_setWidth, Nat.mod_eq_of_lt (a := rtoMs.toNat)
    (by omega), Nat.mod_eq_of_lt (by omega)]

theorem expiryAt_ne_zero {rtoMs : UINT32} (hr : RtoInRange rtoMs) : expiryAt time rtoMs ≠ 0 := by
  intro h0
  have hval := toNat_expiryAt time rtoMs
  have hmin := hr.toNat.1
  rw [h0] at hval
  have hzero : (0 : UINT64).toNat = 0 := rfl
  omega

end

end KvsWebrtc.Sctp
