import KvsWebrtc.Sctp.Keeps
import Mathlib.Logic.Relation

/-!
# What the sender can do

`SendSide` is the part of a host that belongs to the sender: the outstanding table, the two queues
with their counters, the TSN counter and the packets sent.  `SendAct` lists the ten things the
association ever does to it, each with its guard, and `step_acts` says that every call of the
public API is a sequence of them.  Results about the sender are proved once per action.

The relation is indexed by a predicate `S` on messages, which every submitted message satisfies
(`S` then holds of every message that is queued or transmitted), and by a predicate `A` on the TSNs
the advanced ack point may move to.
-/

namespace KvsWebrtc.Sctp

structure SendSide where
  mtu : UINT16
  nextTsn : UINT32
  outstanding : SlotTable SctpOutstandingData SCTP_MAX_OUTSTANDING
  outstandingCount : UINT32
  flightSize : UINT32
  sendQueue : SlotTable SctpQueueSlot SCTP_MAX_QUEUED_MESSAGES
  sendQueueCount : UINT32
  pendingQueue : SlotTable SctpQueueSlot SCTP_MAX_PENDING_SENDS
  pendingQueueCount : UINT32
  ackPoint : UINT32
  outbound : List OutPacket
  tsnsUsed : Nat
  firstTx : SlotTable Nat SCTP_MAX_OUTSTANDING
  underflow : Bool

def Host.sendSide (h : Host) : SendSide where
  mtu := h.assoc.mtu
  nextTsn := h.assoc.nextTsn
  outstanding := h.assoc.outstanding
  outstandingCount := h.assoc.outstandingCount
  flightSize := h.assoc.flightSize
  sendQueue := h.assoc.sendQueue
  sendQueueCount := h.assoc.sendQueueCount
  pendingQueue := h.assoc.pendingQueue
  pendingQueueCount := h.assoc.pendingQueueCount
  ackPoint := h.assoc.advancedPeerAckPoint
  outbound := h.outbound
  tsnsUsed := h.tsnsUsed
  firstTx := h.firstTx
  underflow := h.underflow

/-- The bytes of a slice. -/
def Slice.bytes (sl : Slice) : Bytes := (sl.msg.payload.drop sl.offset).take sl.len

/-- The DATA chunk that carries a slice under a TSN. -/
def Slice.chunk (sl : Slice) (tsn : UINT32) : SctpChunk where
  type := SCTP_CHUNK_DATA
  flags := fragFlags (sl.offset = 0) (sl.offset + sl.len = sl.msg.payload.length) sl.msg.unordered
  value := dataValue tsn sl.msg.streamId sl.ssn sl.msg.ppid sl.bytes

/-- A slice as long as the MTU allows. -/
structure Slice.Cut (sl : Slice) (mtu : UINT16) : Prop where
  offset : sl.offset = 0 ∨ sl.offset < sl.msg.payload.length
  len : sl.len = min (mtu.toNat - 28) (sl.msg.payload.length - sl.offset)

/-- `sl` is the slice after `prev` of the same message. -/
structure Slice.Next (prev sl : Slice) : Prop where
  msg : prev.msg = sl.msg
  ssn : prev.ssn = sl.ssn
  tsnNo : prev.tsnNo + 1 = sl.tsnNo
  offset : prev.offset + prev.len = sl.offset

/-- A slice that does not start its message follows the packet sent last. -/
def Follows (out : List OutPacket) (sl : Slice) : Prop :=
  sl.offset = 0 ∨ ∃ p prev, out.getLast? = some ⟨p, .transmission prev⟩ ∧ prev.Next sl

/-- Everything that happens to the sender's half. -/
inductive SendAct (S : SctpMessage → Prop) (A : UINT32 → Prop) : SendSide → SendSide → Prop where
  | control (s : SendSide) (p : Bytes) (o : Origin) (ho : o.isControl = true) :
    SendAct S A s { s with outbound := s.outbound ++ [⟨p, o⟩] }
  | burnTsn (s : SendSide) :
    SendAct S A s { s with nextTsn := s.nextTsn + 1, tsnsUsed := s.tsnsUsed + 1 }
  | transmit (s : SendSide) (i : Fin SCTP_MAX_OUTSTANDING) (sl : Slice) (nowMs : UINT64)
      (vtag : UINT32) (p : Bytes) (hm : S sl.msg) (hfree : (s.outstanding.get i).inUse = false)
      (hno : sl.tsnNo = s.tsnsUsed) (hcut : sl.Cut s.mtu) (hprev : Follows s.outbound sl)
      (hp : Carries p vtag (sl.chunk s.nextTsn)) :
    SendAct S A s { s with
      nextTsn := s.nextTsn + 1
      tsnsUsed := s.tsnsUsed + 1
      outstanding := s.outstanding.set i (sentChunk sl.msg s.nextTsn sl.ssn sl.bytes nowMs)
      outstandingCount := s.outstandingCount + 1
      flightSize := s.flightSize + BitVec.ofNat 32 sl.bytes.length
      firstTx := s.firstTx.set i s.outbound.length
      outbound := s.outbound ++ [⟨p, .transmission sl⟩] }
  | count (s : SendSide) (i : Fin SCTP_MAX_OUTSTANDING)
      (hi : (s.outstanding.get i).inUse = true) :
    SendAct S A s { s with
      outstanding := s.outstanding.set i (s.outstanding.get i).retried }
  | retransmit (s : SendSide) (i : Fin SCTP_MAX_OUTSTANDING) (payload : Bytes) (vtag : UINT32)
      (p : Bytes) (hi : (s.outstanding.get i).inUse = true)
      (hpay : (s.outstanding.get i).payload = some payload)
      (hp : payload.length < 65520 → Carries p vtag ⟨SCTP_CHUNK_DATA,
        wholeFlags (s.outstanding.get i).unordered,
        dataValue (s.outstanding.get i).tsn (s.outstanding.get i).streamId
          (s.outstanding.get i).ssn (s.outstanding.get i).ppid payload⟩) :
    SendAct S A s { s with
      outbound := s.outbound ++ [⟨p, .retransmission (s.firstTx.get i)⟩] }
  | release (s : SendSide) (i : Fin SCTP_MAX_OUTSTANDING) (d : SctpOutstandingData) (point : UINT32)
      (hi : (s.outstanding.get i).inUse = true) (hd : d.inUse = false)
      (hpoint : point = s.ackPoint ∨ A point) :
    SendAct S A s { s with
      ackPoint := point
      outstanding := s.outstanding.set i d
      flightSize := s.flightSize - (s.outstanding.get i).payloadLen
      outstandingCount := s.outstandingCount - 1
      underflow := s.underflow || s.flightSize < (s.outstanding.get i).payloadLen ||
        s.outstandingCount = 0 }
  | enqueuePending (s : SendSide) (i : Fin SCTP_MAX_PENDING_SENDS) (m : SctpMessage) (hm : S m)
      (hfree : (s.pendingQueue.get i).inUse = false) :
    SendAct S A s { s with
      pendingQueue := s.pendingQueue.set i ⟨m, true⟩
      pendingQueueCount := s.pendingQueueCount + 1 }
  | dequeuePending (s : SendSide) (i : Fin SCTP_MAX_PENDING_SENDS) (m : SctpMessage)
      (hi : (s.pendingQueue.get i).inUse = true) :
    SendAct S A s { s with
      pendingQueue := s.pendingQueue.set i ⟨m, false⟩
      pendingQueueCount := s.pendingQueueCount - 1
      underflow := s.underflow || s.pendingQueueCount = 0 }
  | enqueueSend (s : SendSide) (i : Fin SCTP_MAX_QUEUED_MESSAGES) (m : SctpMessage) (hm : S m)
      (hfree : (s.sendQueue.get i).inUse = false) :
    SendAct S A s { s with
      sendQueue := s.sendQueue.set i ⟨m, true⟩
      sendQueueCount := s.sendQueueCount + 1 }
  | dequeueSend (s : SendSide) (i : Fin SCTP_MAX_QUEUED_MESSAGES) (m : SctpMessage)
      (hi : (s.sendQueue.get i).inUse = true) :
    SendAct S A s { s with
      sendQueue := s.sendQueue.set i ⟨m, false⟩
      sendQueueCount := s.sendQueueCount - 1
      underflow := s.underflow || s.sendQueueCount = 0 }

abbrev SendActs (S : SctpMessage → Prop) (A : UINT32 → Prop) : SendSide → SendSide → Prop :=
  Relation.ReflTransGen (SendAct S A)

/-- What the actions need: an MTU that leaves room for a byte of data, and queues that hold
submitted messages. -/
structure Ready (S : SctpMessage → Prop) (s : SendSide) : Prop where
  mtu : 29 ≤ s.mtu.toNat
  sendQueue : ∀ i, (s.sendQueue.get i).inUse = true → S (s.sendQueue.get i).msg
  pendingQueue : ∀ i, (s.pendingQueue.get i).inUse = true → S (s.pendingQueue.get i).msg

variable {S : SctpMessage → Prop} {A : UINT32 → Prop} {s s' : SendSide}

theorem SendAct.mtu_eq (ha : SendAct S A s s') : s'.mtu = s.mtu := by
  cases ha <;> rfl

theorem queue_set {n : Nat} {t : SlotTable SctpQueueSlot n} {i : Fin n} {q : SctpQueueSlot}
    (h : ∀ j, (t.get j).inUse = true → S (t.get j).msg) (hq : q.inUse = true → S q.msg) (j : Fin n)
    (hj : ((t.set i q).get j).inUse = true) : S ((t.set i q).get j).msg := by
  rw [SlotTable.get_set] at hj ⊢
  split
  · rename_i heq
    rw [if_pos heq] at hj
    exact hq hj
  · rename_i hne
    rw [if_neg hne] at hj
    exact h j hj

theorem SendAct.ready (ha : SendAct S A s s') (hr : Ready S s) : Ready S s' := by
  obtain ⟨h1, h2, h3⟩ := hr
  cases ha with
  | enqueuePending i m hm hfree => exact ⟨h1, h2, queue_set h3 (fun _ => hm)⟩
  | dequeuePending i m hi => exact ⟨h1, h2, queue_set h3 (fun h => by cases h)⟩
  | enqueueSend i m hm hfree => exact ⟨h1, queue_set h2 (fun _ => hm), h3⟩
  | dequeueSend i m hi => exact ⟨h1, queue_set h2 (fun h => by cases h), h3⟩
  | _ => exact ⟨h1, h2, h3⟩

theorem SendActs.ready (ha : SendActs S A s s') (hr : Ready S s) : Ready S s' := by
  induction ha with
  | refl => exact hr
  | tail _ hact ih => exact hact.ready ih

/-! ## Emitting a packet -/

theorem sendChunk_emits (h : Host) (vtag : UINT32) (w : Written) (origin : Origin) :
    ∃ p, (sendChunk h vtag w origin).sendSide =
        { h.sendSide with outbound := h.outbound ++ [⟨p, origin⟩] } ∧
      ∀ c, w.Is c → Carries p vtag c := by
  refine ⟨_, rfl, fun c hw => ?_⟩
  have hpad := le_pad4 (4 + c.value.length)
  have hlen : (sctpWriteCommonHeader h.assoc.localPort h.assoc.remotePort vtag ++
      w.bytes).length = 16 + c.value.length := by
    rw [hw.bytes, List.length_append, length_sctpWriteCommonHeader, length_chunkBytes]
    omega
  rw [take_sctpFinalizePacket (by simp) (by rw [List.length_append]; omega), hw.size,
    List.take_append, List.take_of_length_le (by simp [SCTP_COMMON_HEADER_SIZE] at *; omega),
    hw.bytes]
  refine carries_sealPacket _ _ _ _ _ _ _ hw.fits ?_
  rw [← hw.bytes, hlen, List.length_take]
  simp only [SCTP_COMMON_HEADER_SIZE]
  omega

theorem sendChunk_control (h : Host) (vtag : UINT32) (w : Written) {o : Origin}
    (ho : o.isControl = true) : SendActs S A h.sendSide (sendChunk h vtag w o).sendSide := by
  obtain ⟨p, hp, _⟩ := sendChunk_emits h vtag w o
  rw [hp]
  exact .single (.control h.sendSide p o ho)

/-! ## Sending a message -/

theorem addNextSsn_sendSide (h : Host) (m : SctpMessage) (d : UINT16) :
    (addNextSsn h m d).sendSide = h.sendSide := by
  unfold addNextSsn
  split <;> rfl

theorem startT3_sendSide (h : Host) (nowMs : UINT64) :
    (startT3 h nowMs).sendSide = h.sendSide := by
  unfold startT3
  split <;> rfl

theorem maxDataPayload_toNat {h : Host} (hm : 28 ≤ h.assoc.mtu.toNat) :
    (maxDataPayload h).toNat = h.assoc.mtu.toNat - 28 := by
  have hlt := h.assoc.mtu.isLt
  unfold maxDataPayload
  simp only [SCTP_COMMON_HEADER_SIZE, SCTP_DATA_HEADER_SIZE, BitVec.toNat_sub,
    BitVec.toNat_setWidth, BitVec.toNat_ofNat]
  omega

theorem queuePending_acts {h : Host} {m : SctpMessage} (hm : S m) :
    SendActs S A h.sendSide (queuePending h m).sendSide := by
  unfold queuePending
  split
  · split
    · exact .refl
    · rename_i slot hfree
      exact .single (.enqueuePending h.sendSide slot m hm (SlotTable.firstFree_eq_some hfree).1)
  · exact .refl

theorem queueSend_acts {h : Host} {m : SctpMessage} (hm : S m) :
    SendActs S A h.sendSide (queueSend h m).sendSide := by
  unfold queueSend
  split
  · split
    · exact .refl
    · rename_i slot hfree
      exact .single (.enqueueSend h.sendSide slot m hm (SlotTable.firstFree_eq_some hfree).1)
  · exact .refl

theorem Slice.length_bytes_le (sl : Slice) : sl.bytes.length ≤ sl.len := by
  unfold Slice.bytes
  rw [List.length_take]
  omega

theorem Slice.Cut.length_bytes_lt {sl : Slice} {mtu : UINT16} (h : sl.Cut mtu) :
    sl.bytes.length < 65520 := by
  have hmtu := mtu.isLt
  have hle := sl.length_bytes_le
  have hlen := h.len
  omega

theorem fragmentLen_eq {h : Host} (hm : 29 ≤ h.assoc.mtu.toNat) (m : SctpMessage) (offset : Nat) :
    fragmentLen h m offset = min (h.assoc.mtu.toNat - 28) (m.payload.length - offset) := by
  unfold fragmentLen
  simp only [maxDataPayload_toNat (by omega : 28 ≤ h.assoc.mtu.toNat)]
  split <;> omega

theorem transmit_act {h : Host} {i : Fin SCTP_MAX_OUTSTANDING} (sl : Slice) (nowMs : UINT64)
    {flags : UINT8} (hm : S sl.msg) (hfree : (h.assoc.outstanding.get i).inUse = false)
    (hno : sl.tsnNo = h.tsnsUsed) (hcut : sl.Cut h.assoc.mtu) (hprev : Follows h.outbound sl)
    (hflags : flags = (sl.chunk h.assoc.nextTsn).flags) :
    SendAct S A h.sendSide
      (sendChunk (storeOutstanding (takeTsn h) i sl.msg h.assoc.nextTsn sl.ssn sl.bytes nowMs)
        h.assoc.peerVerificationTag
        (writeDataChunk flags h.assoc.nextTsn sl.msg.streamId sl.ssn sl.msg.ppid sl.bytes)
        (.transmission sl)).sendSide := by
  obtain ⟨p, hp, hcarries⟩ := sendChunk_emits
    (storeOutstanding (takeTsn h) i sl.msg h.assoc.nextTsn sl.ssn sl.bytes nowMs)
    h.assoc.peerVerificationTag
    (writeDataChunk flags h.assoc.nextTsn sl.msg.streamId sl.ssn sl.msg.ppid sl.bytes)
    (.transmission sl)
  rw [hp]
  refine SendAct.transmit h.sendSide i sl nowMs h.assoc.peerVerificationTag p hm hfree hno hcut hprev
    (hcarries _ ?_)
  rw [hflags]
  exact writeDataChunk_is _ _ _ _ _ hcut.length_bytes_lt

theorem sendWhole_acts {h : Host} {i : Fin SCTP_MAX_OUTSTANDING} {m : SctpMessage} {ssn : UINT16}
    {nowMs : UINT64} (hm : S m) (hfit : m.payload.length ≤ h.assoc.mtu.toNat - 28)
    (hfree : (h.assoc.outstanding.get i).inUse = false) :
    SendAct S A h.sendSide (sendWhole h i m ssn nowMs).sendSide := by
  have hbytes : Slice.bytes ⟨m, h.tsnsUsed, ssn, 0, m.payload.length⟩ = m.payload := by
    simp [Slice.bytes]
  have hact := transmit_act ⟨m, h.tsnsUsed, ssn, 0, m.payload.length⟩ nowMs hm hfree rfl
    ⟨.inl rfl, by simp only; omega⟩ (.inl rfl) (A := A)
    (show wholeFlags m.unordered = _ by simp [wholeFlags, fragFlags, Slice.chunk])
  rw [hbytes] at hact
  unfold sendWhole
  rw [startT3_sendSide]
  exact hact

theorem sendFragment_follows (h : Host) (i : Fin SCTP_MAX_OUTSTANDING) (m : SctpMessage)
    (ssn : UINT16) (nowMs : UINT64) (offset : Nat) (isFirst : Bool) (len : Nat) :
    Follows (sendFragment h i m ssn nowMs offset isFirst).outbound
      ⟨m, h.tsnsUsed + 1, ssn, offset + fragmentLen h m offset, len⟩ :=
  .inr ⟨_, ⟨m, h.tsnsUsed, ssn, offset, fragmentLen h m offset⟩, List.getLast?_concat,
    rfl, rfl, rfl, rfl⟩

theorem sendFragments_acts {m : SctpMessage} {ssn : UINT16} {nowMs : UINT64} (hm : S m) :
    ∀ (fuel : Nat) {h : Host} {offset : Nat} {isFirst : Bool}, 29 ≤ h.assoc.mtu.toNat →
      isFirst = decide (offset = 0) →
      (∀ len, Follows h.outbound ⟨m, h.tsnsUsed, ssn, offset, len⟩) →
      SendActs S A h.sendSide (sendFragments fuel h m ssn nowMs offset isFirst).sendSide
  | 0, h, offset, isFirst, _, _, _ => .refl
  | fuel + 1, h, offset, isFirst, hmtu, hfirst, hprev => by
    unfold sendFragments
    split
    · rw [startT3_sendSide]
    · rename_i hrem
      split
      · exact .single (.burnTsn h.sendSide)
      · rename_i i hfree
        have hlen := fragmentLen_eq hmtu m offset
        have hact : SendAct S A h.sendSide (sendFragment h i m ssn nowMs offset isFirst).sendSide := by
          refine transmit_act ⟨m, h.tsnsUsed, ssn, offset, fragmentLen h m offset⟩ nowMs hm
            (SlotTable.firstFree_eq_some hfree).1 rfl ⟨.inr ?_, hlen⟩ (hprev _) ?_
          · show offset < m.payload.length
            omega
          · rw [hfirst]
            show fragFlags _ _ _ = fragFlags _ _ _
            congr 1
            rw [decide_eq_decide]
            show _ ↔ offset + fragmentLen h m offset = m.payload.length
            omega
        refine .head hact (sendFragments_acts hm fuel hmtu ?_ (sendFragment_follows h i m ssn nowMs
          offset isFirst))
        symm
        rw [decide_eq_false_iff_not]
        omega

theorem sctpAssocSend_acts {h : Host} {m : SctpMessage} (hm : S m) (hmtu : 29 ≤ h.assoc.mtu.toNat) :
    SendActs S A h.sendSide (sctpAssocSend h m).sendSide := by
  unfold sctpAssocSend
  simp only
  split
  · exact queueSend_acts (h := h.tick) hm
  · split
    · exact queuePending_acts (h := h.tick) hm
    · have hside : (addNextSsn h.tick m 1).sendSide = h.sendSide := addNextSsn_sendSide _ _ _
      have hmtu' : (addNextSsn h.tick m 1).assoc.mtu = h.assoc.mtu := congrArg SendSide.mtu hside
      rw [← hmtu'] at hmtu
      rw [← hside]
      split
      · rename_i hfit
        rw [maxDataPayload_toNat (by omega)] at hfit
        split
        · rw [← addNextSsn_sendSide (addNextSsn h.tick m 1) m (-1)]
          exact queuePending_acts hm
        · rename_i i hfree
          exact .single (sendWhole_acts hm hfit (SlotTable.firstFree_eq_some hfree).1)
      · exact sendFragments_acts hm _ hmtu rfl (fun _ => .inl rfl)

theorem startT3_outstanding (h : Host) (nowMs : UINT64) :
    (startT3 h nowMs).assoc.outstanding = h.assoc.outstanding :=
  congrArg SendSide.outstanding (startT3_sendSide h nowMs)

theorem sctpAssocSend_sendSide {h : Host} {m : SctpMessage} {i : Fin SCTP_MAX_OUTSTANDING}
    (hst : h.assoc.state = .ESTABLISHED)
    (hwin : ¬ (h.assoc.flightSize ≥ h.assoc.cwnd ∨ h.assoc.flightSize ≥ h.assoc.peerArwnd))
    (hfit : m.payload.length ≤ (maxDataPayload h).toNat)
    (hfree : h.assoc.outstanding.firstFree (·.inUse) = some i) :
    ∃ p, (sctpAssocSend h m).sendSide = { h.sendSide with
      nextTsn := h.sendSide.nextTsn + 1
      tsnsUsed := h.sendSide.tsnsUsed + 1
      outstanding := h.sendSide.outstanding.set i
        (sentChunk m h.sendSide.nextTsn (assignedSsn h.tick m) m.payload h.SCTP_NOW_MS)
      outstandingCount := h.sendSide.outstandingCount + 1
      flightSize := h.sendSide.flightSize + BitVec.ofNat 32 m.payload.length
      firstTx := h.sendSide.firstTx.set i h.sendSide.outbound.length
      outbound := h.sendSide.outbound ++ [p] } := by
  have hside : (addNextSsn h.tick m 1).sendSide = h.sendSide := addNextSsn_sendSide _ _ _
  have hmtu : (addNextSsn h.tick m 1).assoc.mtu = h.assoc.mtu := congrArg SendSide.mtu hside
  have hout : (addNextSsn h.tick m 1).assoc.outstanding = h.assoc.outstanding :=
    congrArg SendSide.outstanding hside
  rw [sctpAssocSend_whole hst hwin (by unfold maxDataPayload; rw [hmtu]; exact hfit)
    (by rw [hout]; exact hfree), ← hside]
  unfold sendWhole
  rw [startT3_sendSide]
  exact ⟨_, rfl⟩

theorem sctpAssocSend_outstanding {h : Host} {m : SctpMessage} {i : Fin SCTP_MAX_OUTSTANDING}
    (hst : h.assoc.state = .ESTABLISHED)
    (hwin : ¬ (h.assoc.flightSize ≥ h.assoc.cwnd ∨ h.assoc.flightSize ≥ h.assoc.peerArwnd))
    (hfit : m.payload.length ≤ (maxDataPayload h).toNat)
    (hfree : h.assoc.outstanding.firstFree (·.inUse) = some i) :
    (sctpAssocSend h m).assoc.outstanding = h.assoc.outstanding.set i
      (sentChunk m h.assoc.nextTsn (assignedSsn h.tick m) m.payload h.SCTP_NOW_MS) := by
  obtain ⟨p, hside⟩ := sctpAssocSend_sendSide hst hwin hfit hfree
  exact congrArg SendSide.outstanding hside

theorem sctpAssocSend_sendQueue {h : Host} {m : SctpMessage} {i : Fin SCTP_MAX_QUEUED_MESSAGES}
    (hi : (h.assoc.sendQueue.get i).inUse = true) :
    (sctpAssocSend h m).assoc.sendQueue.get i = h.assoc.sendQueue.get i := by
  refine SendKeeps.send (P := fun h' => h'.assoc.sendQueue.get i = h.assoc.sendQueue.get i)
    ⟨id, fun _ => id, fun _ hfree hp => ?_, fun _ _ => id, id, fun _ _ _ _ _ _ _ => id,
      fun _ _ => id⟩ m rfl
  rw [SlotTable.get_set_ne _ _ (fun heq => ?_)]
  · exact hp
  · rw [← heq, hp, hi] at hfree
    cases hfree

/-! ## The queues -/

theorem flushSlot_acts {h : Host} (hr : Ready S h.sendSide) (i : Fin SCTP_MAX_QUEUED_MESSAGES) :
    SendActs S A h.sendSide (flushSlot h i).sendSide := by
  unfold flushSlot
  split
  · exact .refl
  · rename_i hi
    have hi : (h.assoc.sendQueue.get i).inUse = true := by simpa using hi
    refine .tail (sctpAssocSend_acts (hr.sendQueue i hi) hr.mtu) (.dequeueSend _ i _ ?_)
    show ((sctpAssocSend h _).assoc.sendQueue.get i).inUse = true
    rw [sctpAssocSend_sendQueue hi]
    exact hi

theorem sctpFlushSendQueue_acts {h : Host} (hr : Ready S h.sendSide) :
    SendActs S A h.sendSide (sctpFlushSendQueue h).sendSide := by
  refine SlotTable.forSlots_invariant (P := fun h' : Host => SendActs S A h.sendSide h'.sendSide) .refl
    (fun i h' hacts => ?_)
  exact hacts.trans (flushSlot_acts (hacts.ready hr) i)

theorem drainSlot_acts {h : Host} (hr : Ready S h.sendSide) (i : Fin SCTP_MAX_PENDING_SENDS) :
    SendActs S A h.sendSide (drainSlot h i).1.sendSide := by
  unfold drainSlot
  split
  · exact .refl
  · rename_i hi
    have hi : (h.assoc.pendingQueue.get i).inUse = true := by simpa using hi
    split
    · exact .refl
    · exact .head (.dequeuePending h.sendSide i _ hi)
        (sctpAssocSend_acts (h := evictPending h i) (hr.pendingQueue i hi) hr.mtu)

theorem sctpDrainPendingQueue_acts {h : Host} (hr : Ready S h.sendSide) :
    SendActs S A h.sendSide (sctpDrainPendingQueue h).sendSide := by
  refine SlotTable.forSlotsBreak_invariant (P := fun h' : Host => SendActs S A h.sendSide h'.sendSide) .refl
    (fun i h' hacts => ?_)
  exact hacts.trans (drainSlot_acts (hacts.ready hr) i)

/-! ## Acknowledgements and timers -/

theorem sackSlot_acts (covered : UINT32 → Bool) (r : Host × UINT32) (i : Fin SCTP_MAX_OUTSTANDING) :
    SendActs S A r.1.sendSide (sackSlot covered r i).1.sendSide := by
  unfold sackSlot
  simp only
  split
  · exact .refl
  · rename_i hi
    split
    · refine .single (.release r.1.sendSide i _ _ ?_ rfl (.inl rfl))
      rw [not_or] at hi
      simpa [Host.sendSide] using hi.1
    · exact .refl

theorem sackLoops_acts (h : Host) (pValue : Bytes) :
    SendActs S A h.sendSide (sackLoops h pValue).1.sendSide :=
  sackLoops_rec (P := fun r => SendActs S A h.sendSide r.1.sendSide)
    (fun covered r i hr => hr.trans (sackSlot_acts covered r i)) pValue .refl

theorem sackGrow_sendSide (h : Host) (n : UINT32) : (sackGrow h n).sendSide = h.sendSide := by
  unfold sackGrow
  simp only
  split <;> rfl

theorem sctpHandleSack_acts {h : Host} (hr : Ready S h.sendSide) (pValue : Bytes) :
    SendActs S A h.sendSide (sctpHandleSack h pValue).sendSide := by
  refine sctpHandleSack_keeps (P := fun h' => SendActs S A h.sendSide h'.sendSide)
    (fun hacts => hacts.trans (sackLoops_acts _ _)) (fun _ _ => id) (fun n hacts => ?_)
    (fun hacts => hacts.trans (sctpDrainPendingQueue_acts (hacts.ready hr))) .refl
  rw [sackGrow_sendSide]
  exact hacts

theorem t3Slot_acts (nowMs : UINT64) (h : Host) (i : Fin SCTP_MAX_OUTSTANDING) (hA : ∀ t, A t) :
    SendActs S A h.sendSide (t3Slot nowMs h i).sendSide := by
  unfold t3Slot
  simp only
  split
  · exact .refl
  · rename_i hi
    have hi : (h.assoc.outstanding.get i).inUse = true := by
      rw [not_or] at hi
      simpa using hi.1
    split
    · exact .single (.release h.sendSide i _ _ hi rfl (.inr (hA _)))
    · have hcount := SendAct.count (S := S) (A := A) h.sendSide i hi
      split
      · exact .single hcount
      · rename_i payload hpay
        refine .head hcount (.single ?_)
        obtain ⟨p, hp, hcarries⟩ := sendChunk_emits
          (setOutstanding h i (h.assoc.outstanding.get i).retried) h.assoc.peerVerificationTag
          (sctpWriteDataChunk (h.assoc.outstanding.get i).tsn (h.assoc.outstanding.get i).streamId
            (h.assoc.outstanding.get i).ssn (h.assoc.outstanding.get i).ppid
            (h.assoc.outstanding.get i).unordered payload) (.retransmission (h.firstTx.get i))
        have hget : (setOutstanding h i (h.assoc.outstanding.get i).retried).sendSide.outstanding.get
            i = (h.assoc.outstanding.get i).retried := SlotTable.get_set_self _ _ _
        have hact := SendAct.retransmit (S := S) (A := A)
          (setOutstanding h i (h.assoc.outstanding.get i).retried).sendSide i payload
          h.assoc.peerVerificationTag p (by rw [hget]; exact hi) (by rw [hget]; exact hpay)
          (fun hlen => hcarries _ (by rw [hget]; exact writeDataChunk_is _ _ _ _ _ hlen))
        exact (congrArg (SendAct S A _) hp).mpr hact

theorem checkT1_acts (h : Host) (nowMs : UINT64) :
    SendActs S A h.sendSide (checkT1 h nowMs).1.sendSide := by
  unfold checkT1
  simp only
  split
  · split
    · exact .refl
    · split
      · exact sendChunk_control (backOff _) _ _ rfl
      · split
        · exact sendChunk_control (backOff _) _ _ rfl
        · exact .refl
  · exact .refl

theorem t3Loop_acts (h : Host) (nowMs : UINT64) (hA : ∀ t, A t) :
    SendActs S A h.sendSide (t3Loop h nowMs).sendSide := by
  refine SlotTable.forSlots_invariant (P := fun h' : Host => SendActs S A h.sendSide h'.sendSide) .refl
    (fun i h' hacts => ?_)
  exact hacts.trans (t3Slot_acts nowMs h' i hA)

theorem sendForwardTsn_acts (h : Host) : SendActs S A h.sendSide (sendForwardTsn h).sendSide := by
  unfold sendForwardTsn
  split
  · exact sendChunk_control h _ _ rfl
  · exact .refl

theorem restartT3_sendSide (h : Host) (nowMs : UINT64) :
    (restartT3 h nowMs).sendSide = h.sendSide := by
  unfold restartT3
  split <;> rfl

theorem t3Enter_sendSide (h : Host) : (t3Enter h).sendSide = h.sendSide := rfl

theorem checkT3_acts (h : Host) (nowMs : UINT64) (hA : ∀ t, A t) :
    SendActs S A h.sendSide (checkT3 h nowMs).sendSide := by
  unfold checkT3
  split
  · rw [restartT3_sendSide, ← t3Enter_sendSide h]
    exact (t3Loop_acts _ nowMs hA).trans (sendForwardTsn_acts _)
  · exact .refl

theorem sctpAssocCheckTimers_acts (h : Host) (nowMs : UINT64) (hA : ∀ t, A t) :
    SendActs S A h.sendSide (sctpAssocCheckTimers h nowMs).sendSide := by
  unfold sctpAssocCheckTimers
  simp only
  split
  · exact checkT1_acts h nowMs
  · exact (checkT1_acts h nowMs).trans (checkT3_acts _ nowMs hA)

/-! ## Packets and calls -/

theorem sctpSendSack_acts (h : Host) : SendActs S A h.sendSide (sctpSendSack h).sendSide := by
  unfold sctpSendSack
  split
  · exact .refl
  · exact sendChunk_control h _ _ rfl

theorem receive_acts (h : Host) : ReceiveKeeps fun h' => SendActs S A h.sendSide h'.sendSide where
  track _ _ _ _ _ := id
  deliver _ _ _ _ _ _ := id
  sendSack hacts := hacts.trans (sctpSendSack_acts _)

theorem sctpHandleInitAck_acts (h : Host) (pValue : Bytes) :
    SendActs S A h.sendSide (sctpHandleInitAck h pValue).sendSide := by
  unfold sctpHandleInitAck
  split
  · exact .refl
  · split
    · exact .refl
    · simp only
      split
      · exact .refl
      · exact sendChunk_control { h with
          assoc.peerVerificationTag := _
          assoc.peerArwnd := _
          assoc.peerCumulativeTsn := _
          assoc.peerCumulativeTsnValid := _
          assoc.cookieEchoData := _
          assoc.cookieEchoValid := _ } _ _ rfl

theorem sctpHandleCookieEcho_acts {h : Host} (hr : Ready S h.sendSide) (pValue : Bytes) :
    SendActs S A h.sendSide (sctpHandleCookieEcho h pValue).sendSide := by
  unfold sctpHandleCookieEcho
  split
  · exact .refl
  · simp only
    split
    · exact .refl
    · have hack : SendActs S A h.sendSide (acceptCookie h (SctpCookie.ofBytes pValue)).sendSide := by
        exact sendChunk_control _ _ _ rfl
      exact hack.trans (sctpFlushSendQueue_acts (hack.ready hr))

theorem sctpHandleCookieAck_acts {h : Host} (hr : Ready S h.sendSide) :
    SendActs S A h.sendSide (sctpHandleCookieAck h).sendSide := by
  unfold sctpHandleCookieAck
  split
  · exact .refl
  · exact sctpFlushSendQueue_acts (h := { h with
      assoc.state := .ESTABLISHED, assoc.t1InitExpiry := 0 }) hr

theorem sctpHandleInit_acts (h : Host) (pValue : Bytes) :
    SendActs S A h.sendSide (sctpHandleInit h pValue).sendSide := by
  unfold sctpHandleInit
  split
  · exact .refl
  · exact sendChunk_control h _ _ rfl

theorem handleHeartbeat_acts (h : Host) (pValue : Bytes) :
    SendActs S A h.sendSide (handleHeartbeat h pValue).sendSide := by
  unfold handleHeartbeat
  simp only
  split
  · exact sendChunk_control h _ _ rfl
  · exact .refl

theorem sctpChunkDispatch_acts {h : Host} (hr : Ready S h.sendSide) (messageFn : Bool)
    (c : SctpChunk) : SendActs S A h.sendSide (sctpChunkDispatch messageFn h c).sendSide := by
  refine sctpChunkDispatch_cases (P := fun h' => SendActs S A h.sendSide h'.sendSide)
    (fun _ => sctpHandleInit_acts h _) (fun _ => sctpHandleInitAck_acts h _)
    (fun _ => sctpHandleCookieEcho_acts hr _) (fun _ => sctpHandleCookieAck_acts hr)
    (fun _ => (receive_acts h).data _ _ _ .refl) (fun _ => sctpHandleSack_acts hr _)
    (fun _ => (receive_acts h).forwardTsn _ .refl) (fun _ => handleHeartbeat_acts h _) ?_ ?_ ?_ .refl
  · exact fun _ => sendChunk_control h _ _ rfl
  · exact fun _ => sendChunk_control h _ _ rfl
  · exact fun _ => .refl

theorem dispatchAll_acts (messageFn : Bool) (cs : List SctpChunk) :
    ∀ {h : Host}, Ready S h.sendSide →
      SendActs S A h.sendSide (cs.foldl (sctpChunkDispatch messageFn) h).sendSide := by
  induction cs with
  | nil => exact fun _ => .refl
  | cons c cs ih =>
    intro h hr
    have hc := sctpChunkDispatch_acts (A := A) hr messageFn c
    exact hc.trans (ih (hc.ready hr))

/-- **Every call of the public API is a sequence of the actions above**, and only a timer moves the
advanced ack point. -/
theorem step_acts {h : Host} (op : Op) (hr : Ready S h.sendSide) (hop : ∀ m, op = .send m → S m)
    (hA : ∀ nowMs, op = .checkTimers nowMs → ∀ t, A t) :
    SendActs S A h.sendSide (h.step op).sendSide := by
  cases op with
  | connect => exact sendChunk_control h _ _ rfl
  | send m => exact sctpAssocSend_acts (hop m rfl) hr.mtu
  | handlePacket messageFn pBuf =>
    show SendActs S A h.sendSide (sctpAssocHandlePacket h messageFn pBuf).sendSide
    unfold sctpAssocHandlePacket
    simp only
    split
    · exact .refl
    · split
      · exact .refl
      · exact dispatchAll_acts messageFn _ hr
  | checkTimers nowMs => exact sctpAssocCheckTimers_acts h nowMs (hA nowMs rfl)
  | shutdown =>
    show SendActs S A h.sendSide (sctpAssocShutdown h).sendSide
    unfold sctpAssocShutdown
    split
    · exact .refl
    · exact sendChunk_control h _ _ rfl

theorem run_acts (ops : List Op) (hops : ∀ m, Op.send m ∈ ops → S m) :
    ∀ {h : Host}, Ready S h.sendSide → SendActs S (fun _ => True) h.sendSide (h.run ops).sendSide := by
  induction ops with
  | nil => exact fun _ => .refl
  | cons op ops ih =>
    intro h hr
    have hstep := step_acts (A := fun _ => True) op hr
      (fun m hm => hops m (by rw [hm]; exact .head _)) (fun _ _ _ => trivial)
    exact hstep.trans (ih (fun m hm => hops m (.tail _ hm)) (hstep.ready hr))

theorem sctpAssocInit_ready {mtu : UINT16} (hm : 29 ≤ mtu.toNat) (clock : Nat → UINT64)
    (localPort remotePort : UINT16) :
    Ready S (sctpAssocInit clock localPort remotePort mtu).sendSide :=
  ⟨hm, fun _ h => (nomatch h), fun _ h => (nomatch h)⟩

end KvsWebrtc.Sctp
