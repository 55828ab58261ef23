import KvsWebrtc.Sctp.Assoc

/-!
# What an invariant has to outlive

The functions of the association are made of few updates.  `SendKeeps P` says that `P` outlives
every update that sending a message makes, each with what is known where it is made, `QueueKeeps P`
adds those of the two queues, `TrackKeeps P` says so of the tracking and delivery of a chunk, and `ReceiveKeeps P` of all that a DATA or
FORWARD-TSN chunk does; `T3Keeps P` is about an expiry of T3.  Then `P` outlives the functions
themselves.  A frame is the case in which `P` compares a part of the host with what it was:
`Host.unsent` is all that sending leaves alone.

Principal results: `SendKeeps.send`, `ReceiveKeeps.data`, `sctpHandleSack_keeps` and
`T3Keeps.checkT3`.
-/

namespace KvsWebrtc.Sctp

variable {P : Host → Prop} {h : Host}

/-! ## Sending -/

structure SendKeeps (P : Host → Prop) : Prop where
  tick : ∀ {h : Host}, P h → P h.tick
  nextSsn : ∀ {h : Host} (t : SlotTable UINT16 SCTP_MAX_STREAMS), P h →
    P { h with assoc.nextSsn := t }
  enqueueSend : ∀ {h : Host} {i : Fin SCTP_MAX_QUEUED_MESSAGES} (m : SctpMessage),
    (h.assoc.sendQueue.get i).inUse = false → P h → P { h with
      assoc.sendQueue := h.assoc.sendQueue.set i ⟨m, true⟩
      assoc.sendQueueCount := h.assoc.sendQueueCount + 1 }
  enqueuePending : ∀ {h : Host} {i : Fin SCTP_MAX_PENDING_SENDS} (m : SctpMessage),
    (h.assoc.pendingQueue.get i).inUse = false → P h → P { h with
      assoc.pendingQueue := h.assoc.pendingQueue.set i ⟨m, true⟩
      assoc.pendingQueueCount := h.assoc.pendingQueueCount + 1 }
  takeTsn : ∀ {h : Host}, P h → P (takeTsn h)
  /-- `h0` is the state in which the clock was read. -/
  transmit : ∀ {h0 h : Host} {i : Fin SCTP_MAX_OUTSTANDING} {fragment : Bytes} (m : SctpMessage)
    (ssn : UINT16) (flags : UINT8) (o : Origin), (h.assoc.outstanding.get i).inUse = false →
    fragment.length ≤ (maxDataPayload h).toNat → P h0 → P h →
    P (sendChunk (storeOutstanding (Sctp.takeTsn h) i m h.assoc.nextTsn ssn fragment h0.SCTP_NOW_MS)
      h.assoc.peerVerificationTag (writeDataChunk flags h.assoc.nextTsn m.streamId ssn m.ppid fragment)
      o)
  startT3 : ∀ {h0 h : Host}, h.assoc.t3RtxExpiry = 0 → P h0 → P h →
    P { h with assoc.t3RtxExpiry := h0.SCTP_NOW_MS + h.assoc.rtoMs.setWidth 64 }

theorem SendKeeps.addNextSsn (hk : SendKeeps P) (m : SctpMessage) (d : UINT16) (hp : P h) :
    P (addNextSsn h m d) := by
  unfold Sctp.addNextSsn
  split
  · exact hk.nextSsn _ hp
  · exact hp

theorem SendKeeps.queueSend (hk : SendKeeps P) (m : SctpMessage) (hp : P h) :
    P (queueSend h m) := by
  unfold Sctp.queueSend
  split
  · split
    · exact hp
    · rename_i hfree
      exact hk.enqueueSend m (SlotTable.firstFree_eq_some hfree).1 hp
  · exact hp

theorem SendKeeps.queuePending (hk : SendKeeps P) (m : SctpMessage) (hp : P h) :
    P (queuePending h m) := by
  unfold Sctp.queuePending
  split
  · split
    · exact hp
    · rename_i hfree
      exact hk.enqueuePending m (SlotTable.firstFree_eq_some hfree).1 hp
  · exact hp

theorem sendFragments_invariant {m : SctpMessage} {ssn : UINT16} {nowMs : UINT64}
    (htake : ∀ h, P h → P (takeTsn h)) (hstart : ∀ h, P h → P (startT3 h nowMs))
    (hfrag : ∀ h i offset isFirst, (h.assoc.outstanding.get i).inUse = false → P h →
      P (sendFragment h i m ssn nowMs offset isFirst)) :
    ∀ (fuel : Nat) {h : Host} {offset : Nat} {isFirst : Bool}, P h →
      P (sendFragments fuel h m ssn nowMs offset isFirst)
  | 0, _, _, _, hp => hp
  | fuel + 1, h, offset, isFirst, hp => by
    unfold sendFragments
    split
    · exact hstart h hp
    · split
      · exact htake h hp
      · rename_i i hfree
        exact sendFragments_invariant htake hstart hfrag fuel
          (hfrag h i offset isFirst (SlotTable.firstFree_eq_some hfree).1 hp)

/-- **A message is submitted.** -/
theorem SendKeeps.send (hk : SendKeeps P) (m : SctpMessage) (hp : P h) : P (sctpAssocSend h m) := by
  have hstart : ∀ g, P g → P (Sctp.startT3 g h.SCTP_NOW_MS) := by
    intro g hg
    unfold Sctp.startT3
    split
    · rename_i h0
      exact hk.startT3 h0 hp hg
    · exact hg
  have htick := hk.tick hp
  unfold sctpAssocSend
  simp only
  split
  · exact hk.queueSend m htick
  · split
    · exact hk.queuePending m htick
    · have hssn := hk.addNextSsn m 1 htick
      split
      · rename_i hfit
        split
        · exact hk.queuePending m (hk.addNextSsn m (-1) hssn)
        · rename_i hfree
          exact hstart _ (hk.transmit m _ _ _ (SlotTable.firstFree_eq_some hfree).1 hfit hp hssn)
      · refine sendFragments_invariant (fun _ hg => hk.takeTsn hg) hstart
          (fun g i offset isFirst hfree hg => hk.transmit m _ _ _ hfree ?_ hp hg) _ hssn
        rw [List.length_take]
        unfold fragmentLen
        simp only
        split <;> omega

structure QueueKeeps (P : Host → Prop) : Prop extends SendKeeps P where
  dequeueSend : ∀ {h : Host} (i : Fin SCTP_MAX_QUEUED_MESSAGES), P h → P { h with
    assoc.sendQueue := h.assoc.sendQueue.set i { h.assoc.sendQueue.get i with inUse := false }
    assoc.sendQueueCount := h.assoc.sendQueueCount - 1
    underflow := h.underflow || h.assoc.sendQueueCount = 0 }
  evictPending : ∀ {h : Host} (i : Fin SCTP_MAX_PENDING_SENDS), P h → P (evictPending h i)

theorem QueueKeeps.flushSlot (hk : QueueKeeps P) (i : Fin SCTP_MAX_QUEUED_MESSAGES) (hp : P h) :
    P (flushSlot h i) := by
  unfold Sctp.flushSlot
  split
  · exact hp
  · exact hk.dequeueSend i (hk.send _ hp)

theorem QueueKeeps.flush (hk : QueueKeeps P) (hp : P h) : P (sctpFlushSendQueue h) :=
  SlotTable.forSlots_invariant hp (fun i _ => hk.flushSlot i)

theorem QueueKeeps.drainSlot (hk : QueueKeeps P) (i : Fin SCTP_MAX_PENDING_SENDS) (hp : P h) :
    P (drainSlot h i).1 := by
  unfold Sctp.drainSlot
  split
  · exact hp
  · split
    · exact hp
    · exact hk.send _ (hk.evictPending i hp)

theorem QueueKeeps.drain (hk : QueueKeeps P) (hp : P h) : P (sctpDrainPendingQueue h) :=
  SlotTable.forSlotsBreak_invariant hp (fun i _ => hk.drainSlot i)

/-- The host apart from what sending writes. -/
def Host.unsent (h : Host) : Host :=
  { h with
    assoc.nextTsn := 0
    assoc.outstanding := SlotTable.replicate _ SctpOutstandingData.zero
    assoc.outstandingCount := 0
    assoc.nextSsn := SlotTable.replicate _ 0
    assoc.flightSize := 0
    assoc.t3RtxExpiry := 0
    assoc.outPacket := []
    assoc.sendQueue := SlotTable.replicate _ SctpQueueSlot.zero
    assoc.sendQueueCount := 0
    assoc.pendingQueue := SlotTable.replicate _ SctpQueueSlot.zero
    assoc.pendingQueueCount := 0
    clock := fun _ => 0
    outbound := []
    tsnsUsed := 0
    firstTx := SlotTable.replicate _ 0
    underflow := false
    overrun := false }

theorem unsent_keeps (h0 : Host) : QueueKeeps (fun h => h.unsent = h0.unsent) where
  tick := id
  nextSsn _ := id
  enqueueSend _ _ := id
  enqueuePending _ _ := id
  takeTsn := id
  transmit _ _ _ _ _ _ _ := id
  startT3 _ _ := id
  dequeueSend _ := id
  evictPending _ := id

theorem sctpAssocSend_unsent (h : Host) (m : SctpMessage) :
    (sctpAssocSend h m).unsent = h.unsent := (unsent_keeps h).send m rfl

theorem sctpFlushSendQueue_unsent (h : Host) : (sctpFlushSendQueue h).unsent = h.unsent :=
  (unsent_keeps h).flush rfl

theorem sctpDrainPendingQueue_unsent (h : Host) : (sctpDrainPendingQueue h).unsent = h.unsent :=
  (unsent_keeps h).drain rfl

/-! ## Receiving -/

structure TrackKeeps (P : Host → Prop) : Prop where
  track : ∀ {h : Host} (cum : UINT32) (valid : Bool) (tsns : List UINT32) (need : Bool),
    (h.assoc.peerCumulativeTsnValid = true → valid = true) → P h → P { h with
      assoc.peerCumulativeTsn := cum
      assoc.peerCumulativeTsnValid := valid
      assoc.receivedTsns := tsns
      assoc.needSack := need }
  deliver : ∀ {h : Host} (buf : Option Bytes) (streamId ssn : UINT16) (ppid : UINT32) (busy : Bool)
    (delivered : List Delivery), P h → P { h with
      assoc.reassemblyBuf := buf
      assoc.reassemblyStreamId := streamId
      assoc.reassemblySsn := ssn
      assoc.reassemblyPpid := ppid
      assoc.reassemblyInProgress := busy
      delivered := delivered }

structure ReceiveKeeps (P : Host → Prop) : Prop extends TrackKeeps P where
  sendSack : ∀ {h : Host}, P h → P (sctpSendSack h)

theorem TrackKeeps.trackTsn (hk : TrackKeeps P) (tsn : UINT32) (hp : P h) :
    P (trackTsn h tsn) := by
  unfold Sctp.trackTsn
  split
  · exact hk.track _ _ _ _ id hp
  · split
    · exact hk.track _ _ _ _ id hp
    · exact hp

theorem TrackKeeps.deliverData (hk : TrackKeeps P) (flags : UINT8) (streamId ssn : UINT16)
    (ppid : UINT32) (pPayload : Bytes) (hp : P h) :
    P (deliverData h flags streamId ssn ppid pPayload) := by
  unfold Sctp.deliverData
  simp only
  split
  · exact hk.deliver _ _ _ _ _ _ hp
  · split
    · split <;> exact hk.deliver _ _ _ _ _ _ hp
    · split
      · split <;> exact hk.deliver _ _ _ _ _ _ hp
      · exact hp

/-- **A DATA chunk.** -/
theorem ReceiveKeeps.data (hk : ReceiveKeeps P) (messageFn : Bool) (flags : UINT8) (pValue : Bytes)
    (hp : P h) : P (sctpHandleData h messageFn flags pValue) := by
  unfold sctpHandleData
  simp only
  split
  · exact hp
  · split
    · exact hp
    · generalize hh : (if ¬ h.assoc.peerCumulativeTsnValid then
        { h with
          assoc.peerCumulativeTsn := getUnalignedInt32BigEndian pValue 0 - 1
          assoc.peerCumulativeTsnValid := true } else h) = h1
      have hp1 : P h1 := by
        subst hh
        split
        · exact hk.track _ _ _ _ (fun _ => rfl) hp
        · exact hp
      split
      · have hp2 : P { Sctp.trackTsn h1 (getUnalignedInt32BigEndian pValue 0) with
            assoc.needSack := true } := hk.track _ _ _ _ id (hk.trackTsn _ hp1)
        refine hk.sendSack ?_
        split
        · exact hk.deliverData _ _ _ _ _ hp2
        · exact hp2
      · exact hk.sendSack (hk.track _ _ _ _ id hp1)

theorem ReceiveKeeps.forwardTsn (hk : ReceiveKeeps P) (pValue : Bytes) (hp : P h) :
    P (sctpHandleForwardTsn h pValue) := by
  unfold sctpHandleForwardTsn
  split
  · exact hp
  · refine hk.sendSack ?_
    split <;> exact hk.track (h := h) _ _ _ _ id hp

/-! ## Acknowledgements -/

theorem sackLoops_rec {P : Host × UINT32 → Prop}
    (hslot : ∀ covered r i, P r → P (sackSlot covered r i)) {h : Host} (pValue : Bytes)
    (h0 : P (h, 0)) : P (sackLoops h pValue) := by
  have hloop : ∀ (covered : UINT32 → Bool) (r : Host × UINT32), P r →
      P (SlotTable.forSlots (sackSlot covered) r) := by
    intro covered r hr
    exact SlotTable.forSlots_invariant hr (fun i r' => hslot covered r' i)
  have hgaps : ∀ (l : List Nat) (cum : UINT32) (r : Host × UINT32), P r →
      P (l.foldl (sackGap pValue cum) r) := by
    intro l cum
    induction l with
    | nil => exact fun r hr => hr
    | cons k l ih => exact fun r hr => ih _ (hloop _ r hr)
  unfold sackLoops
  simp only
  split
  · exact hgaps _ _ _ (hloop _ (h, 0) h0)
  · exact hloop _ (h, 0) h0

theorem sackLoops_invariant
    (hrel : ∀ h i d, P h → P (releaseSlot h i d)) {h : Host} (pValue : Bytes) (h0 : P h) :
    P (sackLoops h pValue).1 := by
  refine sackLoops_rec (P := fun r => P r.1) (fun covered r i hr => ?_) pValue h0
  unfold sackSlot
  simp only
  split
  · exact hr
  · split
    · exact hrel _ _ _ hr
    · exact hr

/-- **A SACK**, given what becomes of `P` in its loops, in the windows and in the queue. -/
theorem sctpHandleSack_keeps {pValue : Bytes}
    (hloops : ∀ {h : Host}, P h → P (sackLoops h pValue).1)
    (hfields : ∀ {h : Host} (peerArwnd cum : UINT32), P h → P { h with
      assoc.peerArwnd := peerArwnd, assoc.cumulativeAckTsn := cum })
    (hgrow : ∀ {h : Host} (n : UINT32), P h → P (sackGrow h n))
    (hdrain : ∀ {h : Host}, P h → P (sctpDrainPendingQueue h)) (hp : P h) :
    P (sctpHandleSack h pValue) := by
  unfold sctpHandleSack
  simp only
  split
  · exact hp
  · have hmarked := hloops (hfields (getUnalignedInt32BigEndian pValue 4) h.assoc.cumulativeAckTsn hp)
    generalize sackLoops _ pValue = s at hmarked ⊢
    generalize hh : (if TSN_GT (getUnalignedInt32BigEndian pValue 0) s.1.assoc.cumulativeAckTsn then
        { s.1 with assoc.cumulativeAckTsn := getUnalignedInt32BigEndian pValue 0 } else s.1) = h1
    have hp1 : P h1 := by
      subst hh
      split
      · exact hfields _ _ hmarked
      · exact hmarked
    split
    · split
      · exact hdrain (hgrow _ hp1)
      · exact hgrow _ hp1
    · exact hp1

/-! ## Expiries of T3 -/

structure T3Keeps (P : Host → Prop) : Prop where
  abandon : ∀ {h : Host} (i : Fin SCTP_MAX_OUTSTANDING) (d : SctpOutstandingData), P h →
    P (abandonSlot h i d)
  retry : ∀ {h : Host} (i : Fin SCTP_MAX_OUTSTANDING), P h →
    P (setOutstanding h i (h.assoc.outstanding.get i).retried)
  resend : ∀ {h : Host} {i : Fin SCTP_MAX_OUTSTANDING} {payload : Bytes} (tsn : UINT32)
    (streamId ssn : UINT16) (ppid : UINT32) (unordered : Bool),
    (h.assoc.outstanding.get i).payload = some payload → P h →
    P (sendChunk h h.assoc.peerVerificationTag
      (sctpWriteDataChunk tsn streamId ssn ppid unordered payload)
      (.retransmission (h.firstTx.get i)))
  forwardTsn : ∀ {h : Host} (tsn : UINT32), P h →
    P (sendChunk h h.assoc.peerVerificationTag (sctpWriteForwardTsnChunk tsn) (.forwardTsn tsn))
  rearm : ∀ {h : Host} (expiry : UINT64), P h → P { h with assoc.t3RtxExpiry := expiry }

theorem T3Keeps.loop (hk : T3Keeps P) (nowMs : UINT64) (hp : P h) : P (t3Loop h nowMs) := by
  refine SlotTable.forSlots_invariant hp (fun i g hg => ?_)
  unfold t3Slot
  simp only
  split
  · exact hg
  · split
    · exact hk.abandon i _ hg
    · have hretry := hk.retry i hg
      split
      · exact hretry
      · rename_i payload hpay
        refine hk.resend (i := i) _ _ _ _ _ ?_ hretry
        show ((g.assoc.outstanding.set i _).get i).payload = some payload
        rw [SlotTable.get_set_self]
        exact hpay

theorem T3Keeps.leave (hk : T3Keeps P) (nowMs : UINT64) (hp : P h) :
    P (restartT3 (sendForwardTsn (t3Loop h nowMs)) nowMs) := by
  have hforward : P (sendForwardTsn (t3Loop h nowMs)) := by
    unfold sendForwardTsn
    split
    · exact hk.forwardTsn _ (hk.loop nowMs hp)
    · exact hk.loop nowMs hp
  unfold restartT3
  split <;> exact hk.rearm _ hforward

theorem T3Keeps.checkT3 (hk : T3Keeps P) (nowMs : UINT64) (hp : P h) (henter : P (t3Enter h)) :
    P (checkT3 h nowMs) := by
  unfold Sctp.checkT3
  split
  · exact hk.leave nowMs henter
  · exact hp

end KvsWebrtc.Sctp
