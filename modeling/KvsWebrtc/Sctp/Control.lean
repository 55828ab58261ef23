import KvsWebrtc.Sctp.Pending

/-!
# The congestion window

`Control` holds the variables that neither a transmission nor a received chunk other than a SACK
touches: the congestion window with its threshold, the retransmission timeout and the two TSN
markers of the sender.  `Passive` says that a step leaves them alone and keeps a running T3-rtx;
`sctpHandleSack_control` and `t3Leave_control` say what a SACK and an expiry do to them.

Every SACK that acknowledges something new adds up to one MTU to the window, without an upper limit.

Principal result: `congestion_window_usable` — in every run whose SACKs find room for one more MTU the
window is at least one MTU, shrinks only when T3 expires and never wraps.  `steadyRun_wraps` is a run
that wraps it.
-/

namespace KvsWebrtc.Sctp

structure Control where
  cwnd : UINT32
  ssthresh : UINT32
  mtu : UINT16
  rtoMs : UINT32
  cumulativeAckTsn : UINT32
  advancedPeerAckPoint : UINT32

def Host.control (h : Host) : Control where
  cwnd := h.assoc.cwnd
  ssthresh := h.assoc.ssthresh
  mtu := h.assoc.mtu
  rtoMs := h.assoc.rtoMs
  cumulativeAckTsn := h.assoc.cumulativeAckTsn
  advancedPeerAckPoint := h.assoc.advancedPeerAckPoint

/-- The control variables of an arbitrary host, so that no loop is unfolded to compare them. -/
theorem control_eq {h : Host} {c : Control} (hc : h.control = c) :
    h.assoc.cwnd = c.cwnd ∧ h.assoc.ssthresh = c.ssthresh ∧ h.assoc.mtu = c.mtu ∧
      h.assoc.rtoMs = c.rtoMs ∧ h.assoc.cumulativeAckTsn = c.cumulativeAckTsn ∧
      h.assoc.advancedPeerAckPoint = c.advancedPeerAckPoint := by
  subst hc
  exact ⟨rfl, rfl, rfl, rfl, rfl, rfl⟩

/-! ## Steps that control nothing -/

/-- The control variables are unchanged, and T3-rtx goes on if it was running. -/
structure Passive (h h' : Host) : Prop where
  control : h'.control = h.control
  t3 : h.assoc.t3RtxExpiry ≠ 0 → h'.assoc.t3RtxExpiry = h.assoc.t3RtxExpiry

section

variable {h h' h'' : Host}

theorem Passive.refl (h : Host) : Passive h h := ⟨rfl, fun _ => rfl⟩

theorem Passive.trans (h1 : Passive h h') (h2 : Passive h' h'') : Passive h h'' := by
  refine ⟨h2.control.trans h1.control, fun ht => ?_⟩
  have ht' := h1.t3 ht
  rw [h2.t3 (ht' ▸ ht), ht']

theorem Passive.set (h1 : Passive h h') (hc : h''.control = h'.control)
    (ht : h''.assoc.t3RtxExpiry = h'.assoc.t3RtxExpiry) : Passive h h'' :=
  h1.trans ⟨hc, fun _ => ht⟩

theorem Passive.sends (h : Host) : QueueKeeps (Passive h) where
  tick hp := hp.set rfl rfl
  nextSsn _ hp := hp.set rfl rfl
  enqueueSend _ _ hp := hp.set rfl rfl
  enqueuePending _ _ hp := hp.set rfl rfl
  takeTsn hp := hp.set rfl rfl
  transmit _ _ _ _ _ _ _ hp := hp.set rfl rfl
  startT3 h0 _ hp := hp.trans ⟨rfl, fun ht => absurd h0 ht⟩
  dequeueSend _ hp := hp.set rfl rfl
  evictPending _ hp := hp.set rfl rfl

theorem Passive.send (h : Host) (m : SctpMessage) : Passive h (sctpAssocSend h m) :=
  (Passive.sends h).send m (.refl h)

theorem Passive.flush (h : Host) : Passive h (sctpFlushSendQueue h) :=
  (Passive.sends h).flush (.refl h)

theorem Passive.drain (h : Host) : Passive h (sctpDrainPendingQueue h) :=
  (Passive.sends h).drain (.refl h)

theorem Passive.sackLoops (h : Host) (pValue : Bytes) : Passive h (sackLoops h pValue).1 :=
  sackLoops_invariant (P := fun h' => Passive h h')
    (fun _ _ _ hp => hp.trans ⟨rfl, fun _ => rfl⟩) pValue (.refl h)

theorem Passive.sendSack (h : Host) : Passive h (sctpSendSack h) := by
  unfold sctpSendSack
  split <;> exact ⟨rfl, fun _ => rfl⟩

theorem Passive.receives (h : Host) : ReceiveKeeps (Passive h) where
  track _ _ _ _ _ hp := hp.set rfl rfl
  deliver _ _ _ _ _ _ hp := hp.set rfl rfl
  sendSack hp := hp.trans (.sendSack _)

theorem Passive.initAck (h : Host) (pValue : Bytes) : Passive h (sctpHandleInitAck h pValue) := by
  unfold sctpHandleInitAck
  split
  · exact .refl h
  · split
    · exact .refl h
    · split <;> exact ⟨rfl, fun _ => rfl⟩

theorem Passive.cookieEcho (h : Host) (pValue : Bytes) :
    Passive h (sctpHandleCookieEcho h pValue) := by
  unfold sctpHandleCookieEcho
  simp only
  split
  · exact .refl h
  · split
    · exact .refl h
    · have haccept : Passive h (acceptCookie h (SctpCookie.ofBytes pValue)) := ⟨rfl, fun _ => rfl⟩
      exact haccept.trans (.flush _)

theorem Passive.cookieAck (h : Host) : Passive h (sctpHandleCookieAck h) := by
  unfold sctpHandleCookieAck
  split
  · exact .refl h
  · refine Passive.trans ?_ (.flush _)
    exact ⟨rfl, fun _ => rfl⟩

/-- **Every chunk but a SACK.** -/
theorem Passive.chunk (h : Host) (messageFn : Bool) {c : SctpChunk} (hc : c.type ≠ SCTP_CHUNK_SACK) :
    Passive h (sctpChunkDispatch messageFn h c) := by
  refine sctpChunkDispatch_cases (P := fun h' => Passive h h') (fun _ => ?_)
    (fun _ => .initAck h _) (fun _ => .cookieEcho h _) (fun _ => .cookieAck h)
    (fun _ => (Passive.receives h).data _ _ _ (.refl h)) (fun hs => absurd hs hc) (fun _ => (Passive.receives h).forwardTsn _ (.refl h)) (fun _ => ?_)
    (fun _ => ⟨rfl, fun _ => rfl⟩) (fun _ => ⟨rfl, fun _ => rfl⟩) (fun _ => ⟨rfl, fun _ => rfl⟩)
    (.refl h)
  · rcases sctpHandleInit_sends h c.value with heq | ⟨vtag, w, heq⟩
    · rw [heq]
      exact .refl h
    · rw [heq]
      exact ⟨rfl, fun _ => rfl⟩
  · unfold handleHeartbeat
    simp only
    split <;> exact ⟨rfl, fun _ => rfl⟩

theorem Passive.shutdown (h : Host) : Passive h (sctpAssocShutdown h) := by
  unfold sctpAssocShutdown
  split <;> exact ⟨rfl, fun _ => rfl⟩

end

/-! ## A SACK -/

/-- What `sackGrow` adds to the congestion window. -/
def sackIncrease (c : Control) (bytesNewlyAcked : UINT32) : UINT32 :=
  if c.cwnd ≤ c.ssthresh then
    if bytesNewlyAcked > c.mtu.setWidth 32 then c.mtu.setWidth 32 else bytesNewlyAcked
  else c.mtu.setWidth 32

/-- The bytes that a SACK newly acknowledges. -/
def bytesNewlyAcked (h : Host) (pValue : Bytes) : UINT32 :=
  (sackLoops { h with assoc.peerArwnd := getUnalignedInt32BigEndian pValue 4 } pValue).2

/-- The cumulative ack after a SACK. -/
def ackedUpTo (h : Host) (pValue : Bytes) : UINT32 :=
  if TSN_GT (getUnalignedInt32BigEndian pValue 0) h.assoc.cumulativeAckTsn then
    getUnalignedInt32BigEndian pValue 0
  else h.assoc.cumulativeAckTsn

/-- The state after both loops of `sctpHandleSack` and the update of the cumulative ack. -/
def sackMarked (h : Host) (pValue : Bytes) : Host :=
  let s := sackLoops { h with assoc.peerArwnd := getUnalignedInt32BigEndian pValue 4 } pValue
  if TSN_GT (getUnalignedInt32BigEndian pValue 0) s.1.assoc.cumulativeAckTsn then
    { s.1 with assoc.cumulativeAckTsn := getUnalignedInt32BigEndian pValue 0 }
  else s.1

section

variable {h : Host}

theorem sackMarked_control (h : Host) (pValue : Bytes) :
    (sackMarked h pValue).control = { h.control with cumulativeAckTsn := ackedUpTo h pValue } ∧
      (sackMarked h pValue).assoc.t3RtxExpiry = h.assoc.t3RtxExpiry := by
  generalize hh0 : ({ h with assoc.peerArwnd := getUnalignedInt32BigEndian pValue 4 } : Host) = h0
  have hc0 : h0.control = h.control := by
    subst hh0
    rfl
  have ht0 : h0.assoc.t3RtxExpiry = h.assoc.t3RtxExpiry := by
    subst hh0
    rfl
  have hloops := (Passive.sackLoops h0 pValue).control.trans hc0
  have ht3 := (sackLoops_frame h0 pValue).2.1.trans ht0
  have hcum : (sackLoops h0 pValue).1.assoc.cumulativeAckTsn = h.assoc.cumulativeAckTsn :=
    congrArg Control.cumulativeAckTsn hloops
  unfold sackMarked ackedUpTo
  simp only [hh0]
  rw [hcum]
  generalize (sackLoops h0 pValue).1 = h1 at hloops ht3
  split
  · refine ⟨?_, ht3⟩
    rw [← hloops]
    rfl
  · exact ⟨hloops, ht3⟩

theorem sackGrow_control (h : Host) (n : UINT32) :
    (sackGrow h n).control = { h.control with cwnd := h.assoc.cwnd + sackIncrease h.control n } := by
  unfold sackGrow
  simp only
  split <;> rfl

theorem sctpHandleSack_eq {pValue : Bytes} (hlen : 12 ≤ pValue.length) :
    sctpHandleSack h pValue =
      if bytesNewlyAcked h pValue > 0 then
        if (sackGrow (sackMarked h pValue) (bytesNewlyAcked h pValue)).assoc.pendingQueueCount > 0 then
          sctpDrainPendingQueue (sackGrow (sackMarked h pValue) (bytesNewlyAcked h pValue))
        else sackGrow (sackMarked h pValue) (bytesNewlyAcked h pValue)
      else sackMarked h pValue := by
  unfold sctpHandleSack
  rw [if_neg (Nat.not_lt.mpr hlen)]
  rfl

/-- **What a SACK does to the control variables.** -/
theorem sctpHandleSack_control {pValue : Bytes} (hlen : 12 ≤ pValue.length) :
    (sctpHandleSack h pValue).control =
      { h.control with
        cumulativeAckTsn := ackedUpTo h pValue
        cwnd := if bytesNewlyAcked h pValue > 0 then
            h.assoc.cwnd + sackIncrease h.control (bytesNewlyAcked h pValue)
          else h.assoc.cwnd } := by
  have hmark := (sackMarked_control h pValue).1
  have hgrow : (sackGrow (sackMarked h pValue) (bytesNewlyAcked h pValue)).control =
      { h.control with
        cumulativeAckTsn := ackedUpTo h pValue
        cwnd := h.assoc.cwnd + sackIncrease h.control (bytesNewlyAcked h pValue) } := by
    have hcwnd : (sackMarked h pValue).assoc.cwnd = h.assoc.cwnd := congrArg Control.cwnd hmark
    rw [sackGrow_control, hmark, hcwnd]
    rfl
  rw [sctpHandleSack_eq hlen]
  split
  · split
    · rw [(Passive.drain _).control]
      exact hgrow
    · exact hgrow
  · exact hmark

theorem sctpHandleSack_short {pValue : Bytes} (hlen : ¬ 12 ≤ pValue.length) :
    sctpHandleSack h pValue = h := by
  unfold sctpHandleSack
  rw [if_pos (Nat.not_le.mp hlen)]

end

/-! ## Timers -/

/-- T3 expires in this call. -/
def T3Expires (h : Host) (nowMs : UINT64) : Prop :=
  (checkT1 h nowMs).2 = false ∧ h.assoc.t3RtxExpiry ≠ 0 ∧ nowMs ≥ h.assoc.t3RtxExpiry

instance (h : Host) (nowMs : UINT64) : Decidable (T3Expires h nowMs) :=
  inferInstanceAs (Decidable (_ ∧ _))

section

variable {h : Host}

theorem checkT1_control (h : Host) (nowMs : UINT64) :
    (checkT1 h nowMs).1.control = { h.control with rtoMs := (checkT1 h nowMs).1.assoc.rtoMs } ∧
      (checkT1 h nowMs).1.assoc.t3RtxExpiry = h.assoc.t3RtxExpiry := by
  unfold checkT1
  simp only
  split
  · split
    · exact ⟨rfl, rfl⟩
    · split
      · exact ⟨rfl, rfl⟩
      · split <;> exact ⟨rfl, rfl⟩
  · exact ⟨rfl, rfl⟩

theorem sctpAssocCheckTimers_cases (h : Host) (nowMs : UINT64) :
    sctpAssocCheckTimers h nowMs =
      if T3Expires h nowMs then t3Leave (checkT1 h nowMs).1 nowMs else (checkT1 h nowMs).1 := by
  have ht3 := (checkT1_control h nowMs).2
  unfold sctpAssocCheckTimers
  by_cases hr : (checkT1 h nowMs).2 = true
  · have hno : ¬ T3Expires h nowMs := fun hc => absurd (hr.symm.trans hc.1) (by decide)
    rw [if_pos hr, if_neg hno]
  · have hr' : (checkT1 h nowMs).2 = false := by simpa using hr
    rw [if_neg hr]
    unfold checkT3
    rw [ht3]
    split
    · rename_i hexp
      have hyes : T3Expires h nowMs := ⟨hr', hexp⟩
      rw [if_pos hyes]
      rfl
    · rename_i hexp
      have hno : ¬ T3Expires h nowMs := fun hc => hexp hc.2
      rw [if_neg hno]

theorem t3Loop_control (h : Host) (nowMs : UINT64) :
    (t3Loop h nowMs).control =
      { h.control with advancedPeerAckPoint := (t3Loop h nowMs).assoc.advancedPeerAckPoint } := by
  refine SlotTable.forSlots_invariant (P := fun h' : Host => h'.control =
    { h.control with advancedPeerAckPoint := h'.assoc.advancedPeerAckPoint }) rfl (fun i h' hp => ?_)
  unfold t3Slot
  simp only
  split
  · exact hp
  · split
    · exact congrArg (fun c : Control => { c with advancedPeerAckPoint :=
        (abandonSlot h' i (h'.assoc.outstanding.get i).retried).assoc.advancedPeerAckPoint }) hp
    · split <;> exact hp

theorem sendForwardTsn_control (h : Host) : (sendForwardTsn h).control = h.control := by
  unfold sendForwardTsn
  split <;> rfl

theorem restartT3_control (h : Host) (nowMs : UINT64) :
    (restartT3 h nowMs).control = h.control := by
  unfold restartT3
  split <;> rfl

/-- **What a T3 expiry does to the control variables.** -/
theorem t3Leave_control (h : Host) (nowMs : UINT64) :
    (t3Leave h nowMs).control =
      { (t3Enter h).control with
        advancedPeerAckPoint := (t3Loop (t3Enter h) nowMs).assoc.advancedPeerAckPoint } := by
  unfold t3Leave
  rw [restartT3_control, sendForwardTsn_control, t3Loop_control]

end

/-! ## The window in a run -/

/-- The window is at least one MTU, the threshold at least two. -/
structure UsableWindow (h : Host) : Prop where
  cwnd : h.assoc.mtu.toNat ≤ h.assoc.cwnd.toNat
  ssthresh : 2 * h.assoc.mtu.toNat ≤ h.assoc.ssthresh.toNat

/-- What a step does to the window: what a SACK adds does not wrap, and only an expiry of T3 makes
the window smaller. -/
structure WindowStep (h : Host) (st : Step) : Prop where
  noWrap : ∀ messageFn c, st = .chunk messageFn c → c.type = SCTP_CHUNK_SACK →
    12 ≤ c.value.length → bytesNewlyAcked h c.value > 0 →
    h.assoc.cwnd.toNat + (sackIncrease h.control (bytesNewlyAcked h c.value)).toNat < 2 ^ 32
  grows : (∀ nowMs, st = .checkTimers nowMs → ¬ T3Expires h nowMs) →
    h.assoc.cwnd.toNat ≤ (h.move st).assoc.cwnd.toNat

/-- The window is usable in every state of the run, and every step is a `WindowStep`. -/
def WindowUsable (h : Host) (steps : List Step) : Prop :=
  (∀ pre post, steps = pre ++ post → UsableWindow (h.moves pre)) ∧
    ∀ pre st post, steps = pre ++ st :: post → WindowStep (h.moves pre) st

/-- A SACK that finds something outstanding also finds room for one more MTU in the window. -/
def HasRoom (h : Host) : Step → Prop
  | .chunk _ c => c.type = SCTP_CHUNK_SACK → Busy h →
      h.assoc.cwnd.toNat + h.assoc.mtu.toNat < 2 ^ 32
  | _ => True

def AllHaveRoom (h : Host) (steps : List Step) : Prop :=
  ∀ pre st post, steps = pre ++ st :: post → HasRoom (h.moves pre) st

section

variable {h h' : Host}

theorem toNat_mtu (h : Host) : (h.assoc.mtu.setWidth 32 : UINT32).toNat = h.assoc.mtu.toNat := by
  have := h.assoc.mtu.isLt
  rw [BitVec.toNat_setWidth]
  omega

theorem sackIncrease_le (h : Host) (n : UINT32) :
    (sackIncrease h.control n).toNat ≤ h.assoc.mtu.toNat := by
  rw [← toNat_mtu h]
  apply BitVec.le_def.mp
  unfold sackIncrease
  split
  · split
    · exact BitVec.le_refl _
    · rename_i hn
      exact BitVec.not_lt.mp hn
  · exact BitVec.le_refl _

theorem busy_of_bytesNewlyAcked {pValue : Bytes} (hn : bytesNewlyAcked h pValue > 0) : Busy h := by
  have hloops := sackLoops_rec (h := { h with assoc.peerArwnd := getUnalignedInt32BigEndian pValue 4 })
    (P := fun r => (∀ i, (r.1.assoc.outstanding.get i).inUse = true →
      (h.assoc.outstanding.get i).inUse = true) ∧ (r.2 ≠ 0 → Busy h)) (fun covered r i hr => ?_)
    pValue ⟨fun _ hi => hi, fun h0 => absurd rfl h0⟩
  · exact hloops.2 (fun h0 => absurd hn (by unfold bytesNewlyAcked; rw [h0]; decide))
  · unfold sackSlot
    simp only
    split
    · exact hr
    · rename_i hslot
      have hu : (r.1.assoc.outstanding.get i).inUse = true := by
        rw [not_or] at hslot
        simpa using hslot.1
      split
      · refine ⟨fun j hj => ?_, fun _ => ⟨i, hr.1 i hu⟩⟩
        by_cases hij : j = i
        · subst hij
          exact hr.1 j hu
        · refine hr.1 j ?_
          have hget : ((releaseSlot r.1 i { r.1.assoc.outstanding.get i with
              acked := true }).assoc.outstanding.get j) = r.1.assoc.outstanding.get j :=
            SlotTable.get_set_ne _ _ hij
          rw [← hget]
          exact hj
      · exact hr

theorem UsableWindow.of_control (hu : UsableWindow h) (hc : h'.control = h.control) :
    UsableWindow h' := by
  have hmtu : h'.assoc.mtu = h.assoc.mtu := congrArg Control.mtu hc
  have hcwnd : h'.assoc.cwnd = h.assoc.cwnd := congrArg Control.cwnd hc
  have hss : h'.assoc.ssthresh = h.assoc.ssthresh := congrArg Control.ssthresh hc
  exact ⟨by rw [hmtu, hcwnd]; exact hu.cwnd, by rw [hmtu, hss]; exact hu.ssthresh⟩

theorem WindowStep.of_control {st : Step} (hc : (h.move st).control = h.control)
    (hst : ∀ messageFn c, st = .chunk messageFn c → c.type ≠ SCTP_CHUNK_SACK) : WindowStep h st := by
  refine ⟨fun messageFn c heq hs => absurd hs (hst messageFn c heq), fun _ => ?_⟩
  have hcwnd : (h.move st).assoc.cwnd = h.assoc.cwnd := congrArg Control.cwnd hc
  rw [hcwnd]

theorem UsableWindow.sack (hu : UsableWindow h) {pValue : Bytes} (hlen : 12 ≤ pValue.length)
    (hroom : Busy h → h.assoc.cwnd.toNat + h.assoc.mtu.toNat < 2 ^ 32) :
    UsableWindow (sctpHandleSack h pValue) ∧
      h.assoc.cwnd.toNat ≤ (sctpHandleSack h pValue).assoc.cwnd.toNat := by
  have hc := sctpHandleSack_control (h := h) hlen
  have hmtu : (sctpHandleSack h pValue).assoc.mtu = h.assoc.mtu := congrArg Control.mtu hc
  have hss : (sctpHandleSack h pValue).assoc.ssthresh = h.assoc.ssthresh :=
    congrArg Control.ssthresh hc
  have hcwnd : (sctpHandleSack h pValue).assoc.cwnd = if bytesNewlyAcked h pValue > 0 then
      h.assoc.cwnd + sackIncrease h.control (bytesNewlyAcked h pValue) else h.assoc.cwnd :=
    congrArg Control.cwnd hc
  have hle : h.assoc.cwnd.toNat ≤ (sctpHandleSack h pValue).assoc.cwnd.toNat := by
    rw [hcwnd]
    split
    · rename_i hn
      have hinc := sackIncrease_le h (bytesNewlyAcked h pValue)
      have hfit := hroom (busy_of_bytesNewlyAcked hn)
      rw [BitVec.toNat_add_of_lt (by omega)]
      omega
    · exact Nat.le_refl _
  refine ⟨⟨?_, ?_⟩, hle⟩
  · rw [hmtu]
    exact hu.cwnd.trans hle
  · rw [hmtu, hss]
    exact hu.ssthresh

theorem t3Leave_usable (h : Host) (nowMs : UINT64) : UsableWindow (t3Leave h nowMs) := by
  obtain ⟨hcwnd, hss, hmtu, -⟩ := control_eq (t3Leave_control h nowMs)
  replace hcwnd : (t3Leave h nowMs).assoc.cwnd = h.assoc.mtu.setWidth 32 := hcwnd
  replace hmtu : (t3Leave h nowMs).assoc.mtu = h.assoc.mtu := hmtu
  replace hss : (t3Leave h nowMs).assoc.ssthresh =
      if h.assoc.cwnd / 2 > 2 * h.assoc.mtu.setWidth 32 then h.assoc.cwnd / 2
      else 2 * h.assoc.mtu.setWidth 32 := hss
  have htwo : (2 * h.assoc.mtu.setWidth 32 : UINT32).toNat = 2 * h.assoc.mtu.toNat := by
    have hlt := h.assoc.mtu.isLt
    rw [BitVec.toNat_mul, toNat_mtu, show (2 : UINT32).toNat = 2 from rfl]
    omega
  refine ⟨by rw [hmtu, hcwnd, toNat_mtu], ?_⟩
  rw [hmtu, hss, ← htwo]
  split
  · rename_i hgt
    exact Nat.le_of_lt (BitVec.lt_def.mp hgt)
  · exact Nat.le_refl _

/-- **One step.** -/
theorem UsableWindow.move (hu : UsableWindow h) {st : Step} (hroom : HasRoom h st) :
    UsableWindow (h.move st) ∧ WindowStep h st := by
  have hpassive : (h.move st).control = h.control →
      (∀ messageFn c, st = .chunk messageFn c → c.type ≠ SCTP_CHUNK_SACK) →
      UsableWindow (h.move st) ∧ WindowStep h st :=
    fun hc hst => ⟨hu.of_control hc, .of_control hc hst⟩
  cases st with
  | connect => exact hpassive rfl (fun _ _ heq => nomatch heq)
  | send m => exact hpassive (Passive.send h m).control (fun _ _ heq => nomatch heq)
  | shutdown => exact hpassive (Passive.shutdown h).control (fun _ _ heq => nomatch heq)
  | chunk messageFn c =>
    by_cases hc : c.type = SCTP_CHUNK_SACK
    · have hmove : h.move (.chunk messageFn c) = sctpHandleSack h c.value :=
        sctpChunkDispatch_sack hc
      by_cases hlen : 12 ≤ c.value.length
      · obtain ⟨husable, hle⟩ := hu.sack hlen (hroom hc)
        rw [← hmove] at husable hle
        refine ⟨husable, ⟨fun messageFn' c' heq _ _ hn => ?_, fun _ => hle⟩⟩
        cases heq
        have hinc := sackIncrease_le h (bytesNewlyAcked h c.value)
        have hfit := hroom hc (busy_of_bytesNewlyAcked hn)
        omega
      · rw [sctpHandleSack_short hlen] at hmove
        refine ⟨by rw [hmove]; exact hu, ⟨fun _ c' heq _ hlen' => ?_, fun _ => ?_⟩⟩
        · cases heq
          exact absurd hlen' hlen
        · rw [hmove]
    · refine hpassive (Passive.chunk h messageFn hc).control (fun _ _ heq => ?_)
      cases heq
      exact hc
  | checkTimers nowMs =>
    have hmove : h.move (.checkTimers nowMs) = _ := sctpAssocCheckTimers_cases h nowMs
    have hc1 := (checkT1_control h nowMs).1
    have hcwnd : (checkT1 h nowMs).1.assoc.cwnd = h.assoc.cwnd := congrArg Control.cwnd hc1
    have hmtu : (checkT1 h nowMs).1.assoc.mtu = h.assoc.mtu := congrArg Control.mtu hc1
    have hss : (checkT1 h nowMs).1.assoc.ssthresh = h.assoc.ssthresh :=
      congrArg Control.ssthresh hc1
    refine ⟨?_, ⟨(fun _ _ heq => nomatch heq), fun hno => ?_⟩⟩
    · rw [hmove]
      split
      · exact t3Leave_usable _ _
      · exact ⟨by rw [hcwnd, hmtu]; exact hu.cwnd, by rw [hmtu, hss]; exact hu.ssthresh⟩
    · rw [hmove, if_neg (hno nowMs rfl), hcwnd]

theorem UsableWindow.moves (hu : UsableWindow h) {steps : List Step} (hroom : AllHaveRoom h steps) :
    WindowUsable h steps := by
  induction steps generalizing h with
  | nil =>
    refine ⟨fun pre post heq => ?_, fun pre st post heq => ?_⟩
    · obtain ⟨rfl, -⟩ := List.append_eq_nil_iff.mp heq.symm
      exact hu
    · exact absurd heq.symm (by simp)
  | cons st steps ih =>
    obtain ⟨husable, hstep⟩ := hu.move (hroom [] st steps rfl)
    obtain ⟨hstates, hsteps⟩ := ih husable fun pre st' post heq =>
      hroom (st :: pre) st' post (by rw [heq]; rfl)
    refine ⟨fun pre post heq => ?_, fun pre st' post heq => ?_⟩
    · cases pre with
      | nil => exact hu
      | cons a pre =>
        obtain ⟨rfl, heq'⟩ := List.cons.inj heq
        exact hstates pre post heq'
    · cases pre with
      | nil =>
        obtain ⟨rfl, -⟩ := List.cons.inj heq
        exact hstep
      | cons a pre =>
        obtain ⟨rfl, heq'⟩ := List.cons.inj heq
        exact hsteps pre st' post heq'

end

theorem sctpAssocInit_usable {mtu : UINT16} (clock : Nat → UINT64) (localPort remotePort : UINT16) :
    UsableWindow (sctpAssocInit clock localPort remotePort mtu) := by
  have hlt := mtu.isLt
  refine ⟨?_, ?_⟩
  · show mtu.toNat ≤ (SCTP_INITIAL_CWND_MTUS * mtu.setWidth 32).toNat
    have hthree : SCTP_INITIAL_CWND_MTUS.toNat = 3 := by decide
    rw [BitVec.toNat_mul, hthree, BitVec.toNat_setWidth, Nat.mod_eq_of_lt (a := mtu.toNat) (by omega),
      Nat.mod_eq_of_lt (by omega)]
    omega
  · show 2 * mtu.toNat ≤ SCTP_DEFAULT_ARWND.toNat
    have hdef : SCTP_DEFAULT_ARWND.toNat = 131072 := by decide
    omega

/-- **The congestion window stays usable** in every run whose SACKs find room for one more MTU. -/
theorem congestion_window_usable (clock : Nat → UINT64) (localPort remotePort mtu : UINT16)
    (ops : List Op)
    (hroom : AllHaveRoom (sctpAssocInit clock localPort remotePort mtu)
      ((sctpAssocInit clock localPort remotePort mtu).expand ops)) :
    WindowUsable (sctpAssocInit clock localPort remotePort mtu)
      ((sctpAssocInit clock localPort remotePort mtu).expand ops) :=
  (sctpAssocInit_usable clock localPort remotePort).moves hroom

/-! ## A run that wraps the window

One byte is sent and acknowledged, over and over. -/

def oneByte : SctpMessage := ⟨0, 51, false, [1], 0xFFFF, 0⟩

/-- The SACK for TSN `7 + k`. -/
def steadySack (k : Nat) : SctpChunk :=
  ⟨SCTP_CHUNK_SACK, 0, sackValue (7 + BitVec.ofNat 32 k) SCTP_DEFAULT_ARWND []⟩

def steadyRound (k : Nat) : List Op :=
  [.send oneByte, .handlePacket true (onePacket 5000 5000 0 (steadySack k))]

def steadyRounds (n : Nat) : List Op := (List.range n).flatMap steadyRound

def steadyRun (n : Nat) : List Op := .handlePacket true sampleCookieEcho :: steadyRounds n

theorem steadyRounds_succ (n : Nat) : steadyRounds (n + 1) = steadyRounds n ++ steadyRound n := by
  simp [steadyRounds, List.range_succ]

/-- Everything sent in `k` rounds has been acknowledged. -/
structure AtRest (k : Nat) (h : Host) : Prop where
  state : h.assoc.state = .ESTABLISHED
  free : ∀ i, (h.assoc.outstanding.get i).inUse = false
  flight : h.assoc.flightSize = 0
  count : h.assoc.outstandingCount = 0
  pending : h.assoc.pendingQueueCount = 0
  tsn : h.assoc.nextTsn = 7 + BitVec.ofNat 32 k
  arwnd : h.assoc.peerArwnd = SCTP_DEFAULT_ARWND
  mtu : h.assoc.mtu = 1150
  cwnd : h.assoc.cwnd ≠ 0

/-- The state after one byte was sent: slot 0 is in use. -/
structure OneInFlight (k : Nat) (h h' : Host) : Prop where
  state : h'.assoc.state = .ESTABLISHED
  slot : (h'.assoc.outstanding.get 0).inUse = true ∧ (h'.assoc.outstanding.get 0).acked = false ∧
    (h'.assoc.outstanding.get 0).tsn = 7 + BitVec.ofNat 32 k ∧
    (h'.assoc.outstanding.get 0).payloadLen = 1
  free : ∀ i : Fin SCTP_MAX_OUTSTANDING, 1 ≤ i.val → (h'.assoc.outstanding.get i).inUse = false
  flight : h'.assoc.flightSize = 1
  count : h'.assoc.outstandingCount = 1
  pending : h'.assoc.pendingQueueCount = 0
  tsn : h'.assoc.nextTsn = 7 + BitVec.ofNat 32 (k + 1)
  control : h'.control = h.control

section

variable {k : Nat} {h h' : Host}

theorem AtRest.send (hr : AtRest k h) : OneInFlight k h (sctpAssocSend h oneByte) := by
  have hfree : h.assoc.outstanding.firstFree (·.inUse) = some 0 := by
    unfold SlotTable.firstFree SlotTable.scanFrom
    simp [hr.free]
  have hwin : ¬ (h.assoc.flightSize ≥ h.assoc.cwnd ∨ h.assoc.flightSize ≥ h.assoc.peerArwnd) := by
    rw [hr.flight, hr.arwnd]
    rintro (hc | hc)
    · exact hr.cwnd (BitVec.le_zero_iff.mp hc)
    · exact absurd hc (by decide)
  have hfit : oneByte.payload.length ≤ (maxDataPayload h).toNat := by
    unfold maxDataPayload
    rw [hr.mtu]
    decide
  obtain ⟨p, hside⟩ := sctpAssocSend_sendSide hr.state hwin hfit hfree
  have hslots : (sctpAssocSend h oneByte).assoc.outstanding = h.assoc.outstanding.set 0
      (sentChunk oneByte h.assoc.nextTsn (assignedSsn h.tick oneByte) oneByte.payload
        h.SCTP_NOW_MS) := congrArg SendSide.outstanding hside
  have hcount : (sctpAssocSend h oneByte).assoc.outstandingCount = h.assoc.outstandingCount + 1 :=
    congrArg SendSide.outstandingCount hside
  have hflight : (sctpAssocSend h oneByte).assoc.flightSize = h.assoc.flightSize + 1 :=
    congrArg SendSide.flightSize hside
  have htsn : (sctpAssocSend h oneByte).assoc.nextTsn = h.assoc.nextTsn + 1 :=
    congrArg SendSide.nextTsn hside
  have hpend : (sctpAssocSend h oneByte).assoc.pendingQueueCount = h.assoc.pendingQueueCount :=
    congrArg SendSide.pendingQueueCount hside
  have hstate : (sctpAssocSend h oneByte).assoc.state = .ESTABLISHED :=
    (congrArg RecvSide.state (sctpAssocSend_recvSide h oneByte)).trans hr.state
  rw [hr.tsn] at htsn hslots
  rw [hr.count] at hcount
  rw [hr.flight] at hflight
  refine ⟨hstate, ?_, fun i hi => ?_, hflight, hcount, hpend.trans hr.pending, ?_,
    (Passive.send h oneByte).control⟩
  · rw [hslots, SlotTable.get_set_self]
    exact ⟨rfl, rfl, rfl, rfl⟩
  · rw [hslots, SlotTable.get_set_ne _ _ (by rintro rfl; exact absurd hi (by decide))]
    exact hr.free i
  · rw [htsn, BitVec.ofNat_add, BitVec.add_assoc]
    rfl

theorem steadySack_reads (k : Nat) :
    getUnalignedInt32BigEndian (steadySack k).value 0 = 7 + BitVec.ofNat 32 k ∧
      getUnalignedInt32BigEndian (steadySack k).value 4 = SCTP_DEFAULT_ARWND ∧
      getUnalignedInt16BigEndian (steadySack k).value 8 = 0 ∧ (steadySack k).value.length = 12 := by
  have hvalue : (steadySack k).value = putUnalignedInt32BigEndian (7 + BitVec.ofNat 32 k) ++
      (putUnalignedInt32BigEndian SCTP_DEFAULT_ARWND ++ (putUnalignedInt16BigEndian 0 ++
        putUnalignedInt16BigEndian 0)) := by
    simp [steadySack, sackValue]
  rw [hvalue]
  refine ⟨get32_put32 _ _, ?_, ?_, by simp⟩
  · rw [get32_skip _ (by simp)]
    exact get32_put32 _ _
  · rw [get16_skip _ (by simp), get16_skip _ (by simp)]
    exact get16_put16 _ _

theorem OneInFlight.sackLoops (ho : OneInFlight k h h') (h0 : Host)
    (heq : h0.assoc.outstanding = h'.assoc.outstanding) :
    Sctp.sackLoops h0 (steadySack k).value =
      (releaseSlot h0 0 { h0.assoc.outstanding.get 0 with acked := true }, 1) := by
  obtain ⟨hcum, -, hgaps, -⟩ := steadySack_reads k
  obtain ⟨hu, hack, htsn, hlen⟩ := ho.slot
  have hfree := ho.free
  rw [← heq] at hu hack htsn hlen hfree
  have hskip : ¬ (¬ (h0.assoc.outstanding.get 0).inUse = true ∨
      (h0.assoc.outstanding.get 0).acked = true) := by
    rw [hu, hack]
    decide
  have hcov : decide (TSN_LTE (h0.assoc.outstanding.get 0).tsn (7 + BitVec.ofNat 32 k)) = true := by
    rw [htsn]
    exact decide_eq_true (Serial.le_self _)
  have hsum : (0 : UINT32) + (h0.assoc.outstanding.get 0).payloadLen = 1 := by
    rw [hlen]
    rfl
  rw [sackLoops_eq_upTo (k := 1) (by decide) hfree hgaps, hcum]
  show sackSlot _ (h0, 0) ⟨0, _⟩ = _
  unfold sackSlot
  exact (if_neg hskip).trans ((if_pos hcov).trans (Prod.ext rfl hsum))

theorem sackMarked_one {v : Bytes} {h0 g : Host} (hloops : sackLoops h0 v = (g, 1))
    (hh0 : h0 = { h' with assoc.peerArwnd := getUnalignedInt32BigEndian v 4 }) :
    bytesNewlyAcked h' v = 1 ∧
      (sackMarked h' v = g ∨ sackMarked h' v =
        { g with assoc.cumulativeAckTsn := getUnalignedInt32BigEndian v 0 }) := by
  unfold bytesNewlyAcked sackMarked
  simp only
  rw [← hh0, hloops]
  refine ⟨rfl, ?_⟩
  split
  · exact .inr rfl
  · exact .inl rfl

theorem OneInFlight.sackMarked (ho : OneInFlight k h h') {v : Bytes}
    (hv : v = (steadySack k).value) :
    bytesNewlyAcked h' v = 1 ∧ ∃ g, Sctp.sackMarked h' v = g ∧
      AtRest (k + 1) { g with assoc.mtu := 1150, assoc.cwnd := 1 } := by
  have harw := (steadySack_reads k).2.1
  rw [← hv] at harw
  obtain ⟨h0, hh0⟩ : ∃ h0 : Host, h0 = { h' with
      assoc.peerArwnd := getUnalignedInt32BigEndian v 4 } := ⟨_, rfl⟩
  have hloops := ho.sackLoops h0 (by rw [hh0])
  rw [← hv] at hloops
  have hlen := ho.slot.2.2.2
  obtain ⟨hbytes, hmark⟩ := sackMarked_one hloops hh0
  refine ⟨hbytes, ?_⟩
  have hrest : AtRest (k + 1) { releaseSlot h0 0 { h0.assoc.outstanding.get 0 with acked := true } with
      assoc.mtu := 1150, assoc.cwnd := 1 } := by
    subst hh0
    refine ⟨ho.state, fun i => ?_, ?_, ?_, ho.pending, ho.tsn, harw, rfl,
      show (1 : UINT32) ≠ 0 by decide⟩
    · by_cases hi : i = 0
      · subst hi
        exact congrArg SctpOutstandingData.inUse (SlotTable.get_set_self _ _ _)
      · refine (congrArg SctpOutstandingData.inUse (SlotTable.get_set_ne _ _ hi)).trans
          (ho.free i ?_)
        exact Nat.one_le_iff_ne_zero.mpr fun h0 => hi (Fin.ext h0)
    · show h'.assoc.flightSize - (h'.assoc.outstanding.get 0).payloadLen = 0
      rw [ho.flight, hlen]
      rfl
    · show h'.assoc.outstandingCount - 1 = 0
      rw [ho.count]
      rfl
  rcases hmark with heq | heq
  · exact ⟨_, heq, hrest⟩
  · exact ⟨_, heq, hrest.state, hrest.free, hrest.flight, hrest.count, hrest.pending, hrest.tsn, hrest.arwnd,
      rfl, hrest.cwnd⟩

theorem one_le_sackIncrease (hm : h.assoc.mtu = 1150) : 1 ≤ (sackIncrease h.control 1).toNat := by
  have hmtu : h.control.mtu = 1150 := hm
  unfold sackIncrease
  rw [hmtu]
  split
  · decide
  · decide

theorem OneInFlight.sack (hr : AtRest k h) (ho : OneInFlight k h h') {v : Bytes}
    (hv : v = (steadySack k).value)
    (hroom : h.assoc.cwnd.toNat + (sackIncrease h.control 1).toNat < 2 ^ 32) :
    AtRest (k + 1) (sctpHandleSack h' v) ∧
      h.assoc.cwnd.toNat + 1 ≤ (sctpHandleSack h' v).assoc.cwnd.toNat := by
  have hlen : 12 ≤ v.length := by rw [hv, (steadySack_reads k).2.2.2]
  obtain ⟨hbytes, g, hg, hrest⟩ := ho.sackMarked hv
  have hc := sctpHandleSack_control (h := h') hlen
  have hsack := sctpHandleSack_eq (h := h') hlen
  rw [hbytes, if_pos (by decide), hg] at hsack
  have hpend : g.assoc.pendingQueueCount = 0 := hrest.pending
  have hcount : g.assoc.outstandingCount = 0 := hrest.count
  have hgrow : sackGrow g 1 = { g with
      assoc.cwnd := g.assoc.cwnd + sackIncrease g.control 1, assoc.t3RtxExpiry := 0 } := by
    unfold sackGrow
    rw [if_pos hcount]
    rfl
  have hnone : ¬ (sackGrow g 1).assoc.pendingQueueCount > 0 := by
    have hp : (sackGrow g 1).assoc.pendingQueueCount = 0 := by
      rw [hgrow]
      exact hpend
    rw [hp]
    decide
  rw [if_neg hnone] at hsack
  rw [ho.control] at hc
  obtain ⟨hcwnd, -, hmtu, -⟩ := control_eq hc
  rw [hbytes, if_pos (by decide), show h'.assoc.cwnd = h.assoc.cwnd from
    congrArg Control.cwnd ho.control] at hcwnd
  have hinc := one_le_sackIncrease (h := h) hr.mtu
  have hadd : (sctpHandleSack h' v).assoc.cwnd.toNat =
      h.assoc.cwnd.toNat + (sackIncrease h.control 1).toNat := by
    rw [hcwnd]
    exact BitVec.toNat_add_of_lt hroom
  have hle : h.assoc.cwnd.toNat + 1 ≤ (sctpHandleSack h' v).assoc.cwnd.toNat := by omega
  refine ⟨?_, hle⟩
  have hmtu' : (sctpHandleSack h' v).assoc.mtu = 1150 := hmtu.trans hr.mtu
  have hcwnd0 : (sctpHandleSack h' v).assoc.cwnd ≠ 0 := by
    intro h0
    have hz : (sctpHandleSack h' v).assoc.cwnd.toNat = 0 := by rw [h0]; rfl
    omega
  rw [hsack, hgrow] at hmtu' hcwnd0 ⊢
  exact ⟨hrest.state, hrest.free, hrest.flight, hcount, hpend, hrest.tsn, hrest.arwnd, hmtu', hcwnd0⟩

theorem expand_steadyRound (h : Host) (k : Nat) :
    h.expand (steadyRound k) = [.send oneByte, .chunk true (steadySack k)] := by
  have hlen := (steadySack_reads k).2.2.2
  have hc : Carries (onePacket 5000 5000 0 (steadySack k)) 0 (steadySack k) :=
    carries_onePacket _ _ _ (by rw [hlen]; decide)
  have hchunks : (sctpAssocSend h oneByte).acceptedChunks (onePacket 5000 5000 0 (steadySack k)) =
      [steadySack k] := by
    rw [Host.acceptedChunks_carries hc, if_neg (fun hne => hne.1 rfl)]
  show [Step.send oneByte] ++ (((sctpAssocSend h oneByte).acceptedChunks
    (onePacket 5000 5000 0 (steadySack k))).map (Step.chunk true) ++ []) = _
  rw [hchunks]
  rfl

theorem AtRest.round (hr : AtRest k h) {c : SctpChunk} (hc : c = steadySack k)
    (hok : WindowStep (h.move (.send oneByte)) (.chunk true c)) :
    AtRest (k + 1) ((h.move (.send oneByte)).move (.chunk true c)) ∧
      h.assoc.cwnd.toNat + 1 ≤ ((h.move (.send oneByte)).move (.chunk true c)).assoc.cwnd.toNat := by
  have ho : OneInFlight k h (h.move (.send oneByte)) := hr.send
  have htype : c.type = SCTP_CHUNK_SACK := by rw [hc]; rfl
  have hv : c.value = (steadySack k).value := by rw [hc]
  have hlen : 12 ≤ c.value.length := by rw [hv, (steadySack_reads k).2.2.2]
  have hbytes := (ho.sackMarked hv).1
  generalize h.move (.send oneByte) = g at ho hok hbytes
  have hfit := hok.noWrap true c rfl htype hlen (by rw [hbytes]; decide)
  rw [hbytes, ho.control, show g.assoc.cwnd = h.assoc.cwnd from
    congrArg Control.cwnd ho.control] at hfit
  have hmove : g.move (.chunk true c) = sctpHandleSack g c.value := sctpChunkDispatch_sack htype
  rw [hmove]
  exact OneInFlight.sack hr ho hv hfit

theorem AtRest.rounds (hr : AtRest 0 h) (n : Nat)
    (hok : ∀ pre st post, h.expand (steadyRounds n) = pre ++ st :: post →
      WindowStep (h.moves pre) st) :
    AtRest n (h.run (steadyRounds n)) ∧ n ≤ (h.run (steadyRounds n)).assoc.cwnd.toNat := by
  induction n with
  | zero => exact ⟨hr, Nat.zero_le _⟩
  | succ n ih =>
    rw [steadyRounds_succ, Host.expand_append, expand_steadyRound] at hok
    obtain ⟨hrest, hle⟩ := ih fun pre st post heq =>
      hok pre st (post ++ [.send oneByte, .chunk true (steadySack n)]) (by rw [heq]; simp)
    rw [steadyRounds_succ, Host.run_append]
    have hlast := hok (h.expand (steadyRounds n) ++ [.send oneByte]) (.chunk true (steadySack n)) []
      (by simp)
    rw [Host.moves_append, ← Host.run_eq_moves, Host.moves_cons, Host.moves_nil] at hlast
    have hround : (h.run (steadyRounds n)).run (steadyRound n) =
        ((h.run (steadyRounds n)).move (.send oneByte)).move (.chunk true (steadySack n)) := by
      rw [Host.run_eq_moves, expand_steadyRound, Host.moves_cons, Host.moves_cons, Host.moves_nil]
    rw [hround]
    obtain ⟨hrest', hle'⟩ := hrest.round rfl hlast
    exact ⟨hrest', by omega⟩

theorem sampleHost_atRest : AtRest 0 sampleHost where
  state := rfl
  free := fun _ => rfl
  flight := rfl
  count := rfl
  pending := rfl
  tsn := rfl
  arwnd := rfl
  mtu := rfl
  cwnd := by decide

end

theorem step_sampleCookieEcho : (sctpAssocInit (fun _ => 7) 5000 5000 1150).step
    (.handlePacket true sampleCookieEcho) = sampleHost := by
  have hrun := run_sampleCookieEcho []
  rwa [Host.run_cons, Host.run_nil, Host.run_nil] at hrun

theorem expand_steadyRun (n : Nat) :
    (sctpAssocInit (fun _ => 7) 5000 5000 1150).expand (steadyRun n) =
      (sctpAssocInit (fun _ => 7) 5000 5000 1150).stepsOf (.handlePacket true sampleCookieEcho) ++
        sampleHost.expand (steadyRounds n) := by
  rw [← step_sampleCookieEcho]
  rfl

/-- As long as nothing wraps, the window is at least the number of rounds. -/
theorem le_cwnd_steadyRun (n : Nat)
    (hw : WindowUsable (sctpAssocInit (fun _ => 7) 5000 5000 1150)
      ((sctpAssocInit (fun _ => 7) 5000 5000 1150).expand (steadyRun n))) :
    n ≤ (sampleHost.run (steadyRounds n)).assoc.cwnd.toNat := by
  have hrounds := sampleHost_atRest.rounds n fun pre st post heq => by
    have hstep := hw.2 ((sctpAssocInit (fun _ => 7) 5000 5000 1150).stepsOf
      (.handlePacket true sampleCookieEcho) ++ pre) st post
      (by rw [expand_steadyRun, heq, List.append_assoc])
    rwa [Host.moves_append, ← Host.step_eq_moves, step_sampleCookieEcho] at hstep
  exact hrounds.2

/-- **Wrap.** A run of `2 ^ 32` rounds wraps the window. -/
theorem steadyRun_wraps :
    ¬ WindowUsable (sctpAssocInit (fun _ => 7) 5000 5000 1150)
      ((sctpAssocInit (fun _ => 7) 5000 5000 1150).expand (steadyRun (2 ^ 32))) := by
  intro hw
  have hle := le_cwnd_steadyRun (2 ^ 32) hw
  exact absurd hle (Nat.not_le.mpr (BitVec.isLt _))

theorem steadyRun_one_steps : (sctpAssocInit (fun _ => 7) 5000 5000 1150).expand (steadyRun 1) =
    [.chunk true ⟨SCTP_CHUNK_COOKIE_ECHO, 0, sampleCookie.toBytes⟩, .send oneByte,
      .chunk true (steadySack 0)] := by
  have hc : Carries sampleCookieEcho 0 ⟨SCTP_CHUNK_COOKIE_ECHO, 0, sampleCookie.toBytes⟩ :=
    carries_onePacket _ _ _ (by rw [SctpCookie.length_toBytes]; decide)
  have hsteps : (sctpAssocInit (fun _ => 7) 5000 5000 1150).stepsOf
      (.handlePacket true sampleCookieEcho) =
      [.chunk true ⟨SCTP_CHUNK_COOKIE_ECHO, 0, sampleCookie.toBytes⟩] := by
    unfold Host.stepsOf
    simp only
    rw [Host.acceptedChunks_carries hc, if_neg (fun hne => hne.1 rfl)]
    rfl
  rw [expand_steadyRun, hsteps, steadyRounds_succ, Host.expand_append, expand_steadyRound]
  rfl

/-- One round has room: the window is usable in it. -/
theorem steadyRun_one_usable : WindowUsable (sctpAssocInit (fun _ => 7) 5000 5000 1150)
    ((sctpAssocInit (fun _ => 7) 5000 5000 1150).expand (steadyRun 1)) := by
  refine congestion_window_usable (fun _ => 7) 5000 5000 1150 (steadyRun 1) fun pre st post heq => ?_
  rw [steadyRun_one_steps] at heq
  match pre, heq with
  | [], heq =>
    obtain ⟨rfl, -⟩ := List.cons.inj heq
    exact fun hs => absurd hs (by decide)
  | [_], heq =>
    obtain ⟨rfl, -⟩ := List.cons.inj (List.cons.inj heq).2
    exact trivial
  | [a, b], heq =>
    obtain ⟨rfl, heq1⟩ := List.cons.inj heq
    obtain ⟨rfl, heq2⟩ := List.cons.inj heq1
    obtain ⟨rfl, -⟩ := List.cons.inj heq2
    intro _ _
    have hc := (Passive.send ((sctpAssocInit (fun _ => 7) 5000 5000 1150).move
      (.chunk true ⟨SCTP_CHUNK_COOKIE_ECHO, 0, sampleCookie.toBytes⟩)) oneByte).control.trans
      (Passive.chunk (c := ⟨SCTP_CHUNK_COOKIE_ECHO, 0, sampleCookie.toBytes⟩) _ true
        (by decide)).control
    obtain ⟨hcwnd, -, hmtu, -⟩ := control_eq hc
    rw [Host.moves_cons, Host.moves_cons, Host.moves_nil]
    show (sctpAssocSend _ oneByte).assoc.cwnd.toNat + (sctpAssocSend _ oneByte).assoc.mtu.toNat < 2 ^ 32
    rw [hcwnd, hmtu]
    decide
  | _ :: _ :: _ :: _, heq =>
    have hlen := congrArg List.length heq
    simp at hlen

end KvsWebrtc.Sctp
