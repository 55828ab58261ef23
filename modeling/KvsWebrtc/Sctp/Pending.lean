import KvsWebrtc.Sctp.ForwardTsn
import KvsWebrtc.Sctp.SendOrder

/-!
# Pending messages are served

A message that finds a window closed waits in `pendingQueue`, and only a SACK that acknowledges
something new drains that queue.  So while a message waits, something has to be outstanding and
T3-rtx has to run.  `Flowing` is the invariant: the windows are not zero, a chunk is outstanding
whenever a message waits, and T3-rtx runs whenever a chunk is outstanding.

A T3 expiry that abandons every outstanding chunk breaks it, and so do a congestion window that wraps
to zero and a message that fills the whole outstanding table.  `Step.Serves` excludes these.

Principal results: `no_stranded_pending` — the invariant in every run whose steps serve the queue —
and `abandoned_strands_pending`, the run in which an expiry strands a message.
-/

namespace KvsWebrtc.Sctp

/-! ## The invariant -/

/-- Some chunk is outstanding. -/
def Busy (h : Host) : Prop := ∃ i, (h.assoc.outstanding.get i).inUse = true

/-- A message with data, short enough to be cut into at most `SCTP_MAX_OUTSTANDING` chunks. -/
def FitsTable (mtu : UINT16) (m : SctpMessage) : Prop :=
  m.payload ≠ [] ∧ m.payload.length ≤ SCTP_MAX_OUTSTANDING * (mtu.toNat - 28)

/-- No outstanding chunk is empty. -/
def Filled (s : SendSide) : Prop :=
  ∀ i, (s.outstanding.get i).inUse = true → (s.outstanding.get i).payloadLen ≠ 0

/-- The windows are not zero, and T3-rtx runs whenever a chunk is outstanding. -/
structure Flow (h : Host) : Prop where
  ready : Ready (FitsTable h.assoc.mtu) h.sendSide
  accounting : Accounting h.sendSide
  filled : Filled h.sendSide
  cwnd : h.assoc.cwnd ≠ 0
  peerArwnd : h.assoc.peerArwnd ≠ 0
  rto : 0 < h.assoc.rtoMs.toNat ∧ h.assoc.rtoMs ≤ SCTP_RTO_MAX_MS
  armed : Busy h → h.assoc.t3RtxExpiry ≠ 0

/-- Moreover, a chunk is outstanding whenever a message waits. -/
structure Flowing (h : Host) : Prop extends Flow h where
  served : h.assoc.pendingQueueCount ≠ 0 → Busy h

/-! ## What is in flight -/

section

variable {h h' : Host}

theorem busy_of_count (ha : Accounting h.sendSide) (hc : h.assoc.outstandingCount ≠ 0) : Busy h := by
  by_contra hidle
  have hcount : h.assoc.outstandingCount.toNat = slotsInUse (·.inUse) h.assoc.outstanding :=
    Weighs.slotsInUse ha.outstandingCount
  have hnone : slotsInUse (·.inUse) h.assoc.outstanding = 0 := by
    unfold slotsInUse
    rw [Finset.card_eq_zero, Finset.filter_eq_empty_iff]
    exact fun i _ hi => hidle ⟨i, hi⟩
  exact hc (BitVec.eq_of_toNat_eq (hcount.trans hnone))

theorem Busy.count (hb : Busy h) (ha : Accounting h.sendSide) : h.assoc.outstandingCount ≠ 0 := by
  obtain ⟨i, hi⟩ := hb
  have hle := SlotTable.le_total SctpOutstandingData.weight h.assoc.outstanding i
  have hcount : h.assoc.outstandingCount.toNat = h.assoc.outstanding.total SctpOutstandingData.weight :=
    ha.outstandingCount
  unfold SctpOutstandingData.weight at hle hcount
  simp only [hi, Bool.toNat_true] at hle
  intro h0
  rw [h0] at hcount
  have : (0 : UINT32).toNat = 0 := rfl
  omega

theorem Busy.flight (hb : Busy h) (ha : Accounting h.sendSide) (hf : Filled h.sendSide) :
    h.assoc.flightSize ≠ 0 := by
  obtain ⟨i, hi⟩ := hb
  have hle := SlotTable.le_total slotBytes h.assoc.outstanding i
  have hflight : h.assoc.flightSize.toNat = h.assoc.outstanding.total slotBytes := ha.flight
  have hpos : (h.assoc.outstanding.get i).payloadLen.toNat ≠ 0 := fun h0 =>
    hf i hi (BitVec.eq_of_toNat_eq h0)
  have hbytes : slotBytes (h.assoc.outstanding.get i) =
      (h.assoc.outstanding.get i).payloadLen.toNat := by
    unfold slotBytes
    rw [if_pos hi]
  intro h0
  rw [h0] at hflight
  have : (0 : UINT32).toNat = 0 := rfl
  omega

theorem busy_of_flight (ha : Accounting h.sendSide) (hc : h.assoc.flightSize ≠ 0) : Busy h := by
  by_contra hidle
  have hflight : h.assoc.flightSize.toNat = h.assoc.outstanding.total slotBytes := ha.flight
  have hnone : h.assoc.outstanding.total slotBytes = 0 := by
    refine Finset.sum_eq_zero fun i _ => ?_
    unfold slotBytes
    rw [if_neg fun hi => hidle ⟨i, hi⟩]
  exact hc (BitVec.eq_of_toNat_eq (hflight.trans hnone))

theorem Flow.busy_of_closed (hf : Flow h)
    (hclosed : h.assoc.flightSize ≥ h.assoc.cwnd ∨ h.assoc.flightSize ≥ h.assoc.peerArwnd ∨
      h.assoc.outstandingCount.toNat ≥ SCTP_MAX_OUTSTANDING) : Busy h := by
  have hzero : ∀ w : UINT32, w ≠ 0 → h.assoc.flightSize ≥ w → h.assoc.flightSize ≠ 0 := by
    intro w hw hge h0
    rw [h0] at hge
    exact hw (BitVec.le_zero_iff.mp hge)
  rcases hclosed with hc | hc | hc
  · exact busy_of_flight hf.accounting (hzero _ hf.cwnd hc)
  · exact busy_of_flight hf.accounting (hzero _ hf.peerArwnd hc)
  · refine busy_of_count hf.accounting fun h0 => ?_
    rw [h0] at hc
    exact absurd hc (by decide)

theorem expiry_ne_zero {nowMs : UINT64} {rtoMs : UINT32} (hnow : nowMs.toNat < 2 ^ 63)
    (hrto : 0 < rtoMs.toNat) : nowMs + rtoMs.setWidth 64 ≠ 0 := by
  have hlt := rtoMs.isLt
  have hw : (rtoMs.setWidth 64).toNat = rtoMs.toNat := by
    rw [BitVec.toNat_setWidth]
    omega
  intro h0
  have hsum := congrArg BitVec.toNat h0
  rw [BitVec.toNat_add, hw, Nat.mod_eq_of_lt (by omega)] at hsum
  have : (0 : UINT64).toNat = 0 := rfl
  omega

theorem now_lt (h : Host) : h.SCTP_NOW_MS.toNat < 2 ^ 63 := by
  have hlt := (h.clock 0).isLt
  unfold Host.SCTP_NOW_MS
  rw [BitVec.toNat_udiv]
  have hten : (10 * HUNDREDS_OF_NANOS_IN_A_MILLISECOND : UINT64).toNat = 100000 := by decide
  rw [hten]
  omega

/-! ## The outstanding table -/

theorem SendAct.filled {mtu : UINT16} {A : UINT32 → Prop} {s s' : SendSide}
    (hact : SendAct (FitsTable mtu) A s s') (hm : 29 ≤ s.mtu.toNat) (hf : Filled s) :
    Filled s' := by
  have hset : ∀ (i : Fin SCTP_MAX_OUTSTANDING) (d : SctpOutstandingData),
      (d.inUse = true → d.payloadLen ≠ 0) → ∀ j,
        ((s.outstanding.set i d).get j).inUse = true →
          ((s.outstanding.set i d).get j).payloadLen ≠ 0 := by
    intro i d hd j hj
    rw [SlotTable.get_set] at hj ⊢
    split
    · rename_i heq
      rw [if_pos heq] at hj
      exact hd hj
    · rename_i hne
      rw [if_neg hne] at hj
      exact hf j hj
  cases hact with
  | transmit i sl nowMs vtag p hfit hfree hno hcut hprev hp =>
    refine hset i _ fun _ h0 => ?_
    have hlen := hcut.length_bytes_lt
    have hsum := congrArg BitVec.toNat h0
    have hzero : (0 : UINT32).toNat = 0 := rfl
    simp only [sentChunk, BitVec.toNat_ofNat] at hsum
    rw [hzero, Nat.mod_eq_of_lt (by omega)] at hsum
    have hpos : 0 < sl.msg.payload.length := List.length_pos_iff.mpr hfit.1
    have hoff := hcut.offset
    have hcutlen := hcut.len
    unfold Slice.bytes at hsum
    rw [List.length_take, List.length_drop] at hsum
    omega
  | count i hi => exact hset i _ fun _ => hf i hi
  | release i d point hi hd hpoint =>
    refine hset i d fun hu => ?_
    rw [hd] at hu
    cases hu
  | _ => exact hf

theorem SendActs.filled {mtu : UINT16} {A : UINT32 → Prop} {s s' : SendSide}
    (hacts : SendActs (FitsTable mtu) A s s') (hm : 29 ≤ s.mtu.toNat) (hf : Filled s) :
    Filled s' ∧ s'.mtu = s.mtu := by
  induction hacts with
  | refl => exact ⟨hf, rfl⟩
  | tail _ hact ih =>
    exact ⟨hact.filled (by rw [ih.2]; exact hm) ih.1, hact.mtu_eq.trans ih.2⟩

theorem Flow.of_acts {A : UINT32 → Prop} (hf : Flow h)
    (hacts : SendActs (FitsTable h.assoc.mtu) A h.sendSide h'.sendSide)
    (hcwnd : h'.assoc.cwnd ≠ 0) (harwnd : h'.assoc.peerArwnd ≠ 0)
    (hrto : 0 < h'.assoc.rtoMs.toNat ∧ h'.assoc.rtoMs ≤ SCTP_RTO_MAX_MS)
    (harmed : Busy h' → h'.assoc.t3RtxExpiry ≠ 0) : Flow h' := by
  obtain ⟨hfilled, hmtu⟩ := hacts.filled hf.ready.mtu hf.filled
  have hmtu' : h'.assoc.mtu = h.assoc.mtu := hmtu
  refine ⟨?_, hacts.accounting hf.accounting, hfilled, hcwnd, harwnd, hrto, harmed⟩
  rw [hmtu']
  exact hacts.ready hf.ready

/-! ## Sending -/

/-- The two windows and the retransmission timeout. -/
def Host.windows (h : Host) : UINT32 × UINT32 × UINT32 :=
  (h.assoc.cwnd, h.assoc.peerArwnd, h.assoc.rtoMs)

/-- The fields of an arbitrary host, so that no loop is unfolded to compare them. -/
theorem windows_eq {cwnd peerArwnd rtoMs : UINT32} (hw : h.windows = (cwnd, peerArwnd, rtoMs)) :
    h.assoc.cwnd = cwnd ∧ h.assoc.peerArwnd = peerArwnd ∧ h.assoc.rtoMs = rtoMs := by
  cases hw
  exact ⟨rfl, rfl, rfl⟩

theorem addNextSsn_windows (h : Host) (m : SctpMessage) (d : UINT16) :
    (addNextSsn h m d).windows = h.windows ∧
      (addNextSsn h m d).assoc.t3RtxExpiry = h.assoc.t3RtxExpiry := by
  unfold addNextSsn
  split <;> exact ⟨rfl, rfl⟩

theorem queuePending_frame (h : Host) (m : SctpMessage) :
    (queuePending h m).windows = h.windows ∧
      (queuePending h m).assoc.t3RtxExpiry = h.assoc.t3RtxExpiry ∧
      (queuePending h m).assoc.outstanding = h.assoc.outstanding := by
  unfold queuePending
  split
  · split <;> exact ⟨rfl, rfl, rfl⟩
  · exact ⟨rfl, rfl, rfl⟩

theorem queueSend_frame (h : Host) (m : SctpMessage) :
    (queueSend h m).windows = h.windows ∧
      (queueSend h m).assoc.t3RtxExpiry = h.assoc.t3RtxExpiry ∧
      (queueSend h m).assoc.outstanding = h.assoc.outstanding ∧
      (queueSend h m).assoc.pendingQueue = h.assoc.pendingQueue ∧
      (queueSend h m).assoc.pendingQueueCount = h.assoc.pendingQueueCount := by
  unfold queueSend
  split
  · split <;> exact ⟨rfl, rfl, rfl, rfl, rfl⟩
  · exact ⟨rfl, rfl, rfl, rfl, rfl⟩

theorem sctpAssocSend_windows (h : Host) (m : SctpMessage) :
    (sctpAssocSend h m).windows = h.windows := by
  have hunsent : ∀ g : Host, g.unsent.windows = g.windows := fun _ => rfl
  rw [← hunsent, sctpAssocSend_unsent, hunsent]

theorem startT3_runs {nowMs : UINT64} (hnow : nowMs.toNat < 2 ^ 63)
    (hrto : 0 < h.assoc.rtoMs.toNat) : (startT3 h nowMs).assoc.t3RtxExpiry ≠ 0 := by
  unfold startT3
  split
  · exact expiry_ne_zero hnow hrto
  · rename_i hne
    exact hne

theorem busy_storeOutstanding (h : Host) (i : Fin SCTP_MAX_OUTSTANDING) (m : SctpMessage)
    (tsn : UINT32) (ssn : UINT16) (fragment : Bytes) (nowMs : UINT64) :
    Busy (storeOutstanding h i m tsn ssn fragment nowMs) := by
  refine ⟨i, ?_⟩
  show ((h.assoc.outstanding.set i (sentChunk m tsn ssn fragment nowMs)).get i).inUse = true
  rw [SlotTable.get_set_self]
  rfl

theorem Busy.of_outstanding (hb : Busy h) (heq : h'.assoc.outstanding = h.assoc.outstanding) :
    Busy h' := by
  obtain ⟨i, hi⟩ := hb
  exact ⟨i, by rw [heq]; exact hi⟩

theorem sendFragments_busy {m : SctpMessage} {ssn : UINT16} {nowMs : UINT64} (fuel : Nat)
    {offset : Nat} {isFirst : Bool} (hb : Busy h) :
    Busy (sendFragments fuel h m ssn nowMs offset isFirst) := by
  refine sendFragments_invariant (P := Busy) (fun _ hp => hp) (fun h' hp => ?_)
    (fun h' i offset isFirst _ _ => ?_) fuel hb
  · exact hp.of_outstanding (startT3_outstanding h' nowMs)
  · exact busy_storeOutstanding (takeTsn h') i m _ ssn _ nowMs

theorem busy_of_full (hfull : h.assoc.outstanding.firstFree (·.inUse) = none) : Busy h :=
  ⟨⟨0, by decide⟩, SlotTable.firstFree_eq_none hfull _⟩

theorem sendFragments_keepsT3 {m : SctpMessage} {ssn : UINT16} {nowMs : UINT64} (fuel : Nat)
    {offset : Nat} {isFirst : Bool} (ht : h.assoc.t3RtxExpiry ≠ 0) :
    (sendFragments fuel h m ssn nowMs offset isFirst).assoc.t3RtxExpiry ≠ 0 := by
  refine sendFragments_invariant (P := fun h' => h'.assoc.t3RtxExpiry ≠ 0) (fun _ hp => hp)
    (fun h' hp => ?_) (fun _ _ _ _ _ hp => hp) fuel ht
  unfold startT3
  rw [if_neg hp]
  exact hp

/-- The fragmentation loop ends with T3-rtx running, unless the table overflows: each of the chunks
stored so far but the last one is as long as the MTU allows, so the table holds the message. -/
theorem sendFragments_startsT3 {m : SctpMessage} {ssn : UINT16} {nowMs : UINT64}
    (hnow : nowMs.toNat < 2 ^ 63) :
    ∀ (fuel : Nat) {h : Host} {offset : Nat} {isFirst : Bool}, 29 ≤ h.assoc.mtu.toNat →
      m.payload.length ≤ SCTP_MAX_OUTSTANDING * (h.assoc.mtu.toNat - 28) →
      h.assoc.outstanding.Weighs SctpOutstandingData.weight h.assoc.outstandingCount →
      (offset < m.payload.length →
        h.assoc.outstandingCount.toNat * (h.assoc.mtu.toNat - 28) ≤ offset) →
      SCTP_MAX_OUTSTANDING + 1 ≤ fuel + h.assoc.outstandingCount.toNat →
      0 < h.assoc.rtoMs.toNat →
      (sendFragments fuel h m ssn nowMs offset isFirst).assoc.t3RtxExpiry ≠ 0
  | 0, h, offset, isFirst, _, _, hw, _, hfuel, _ => by
    have hle := SlotTable.total_le (t := h.assoc.outstanding) (fun i =>
      SctpOutstandingData.weight_le (h.assoc.outstanding.get i))
    have hcount : h.assoc.outstandingCount.toNat = _ := hw
    omega
  | fuel + 1, h, offset, isFirst, hmtu, hlen, hw, hcut, hfuel, hrto => by
    unfold sendFragments
    split
    · exact startT3_runs hnow hrto
    · rename_i hrem
      have hle := SlotTable.total_le (t := h.assoc.outstanding) (fun i =>
        SctpOutstandingData.weight_le (h.assoc.outstanding.get i))
      have hcount : h.assoc.outstandingCount.toNat = _ := hw
      have hoff := hcut (by omega)
      split
      · rename_i hfull
        have hroom : h.assoc.outstandingCount.toNat < SCTP_MAX_OUTSTANDING := by
          have hlt : h.assoc.outstandingCount.toNat * (h.assoc.mtu.toNat - 28) <
              SCTP_MAX_OUTSTANDING * (h.assoc.mtu.toNat - 28) := by omega
          exact Nat.lt_of_mul_lt_mul_right hlt
        exact absurd hfull (firstFree_of_count (h := h) hw (Nat.not_le.mpr hroom))
      · rename_i i hfree
        have hfrag := fragmentLen_eq hmtu m offset
        have hnext : (h.assoc.outstandingCount + 1).toNat = h.assoc.outstandingCount.toNat + 1 := by
          have hmax : SCTP_MAX_OUTSTANDING * 1 < 2 ^ 32 - 1 := by decide
          rw [BitVec.toNat_add_of_lt (by rw [toNat_one]; omega), toNat_one]
        refine sendFragments_startsT3 hnow fuel hmtu hlen ?_ (fun hmore => ?_) ?_ hrto
        · have hslot : (h.assoc.outstanding.get i).inUse = false :=
            (SlotTable.firstFree_eq_some hfree).1
          refine hw.fill (by simp [SctpOutstandingData.weight, hslot]) rfl
            (fun j => SctpOutstandingData.weight_le _) (SctpOutstandingData.weight_le _) (by decide)
        · show (h.assoc.outstandingCount + 1).toNat * (h.assoc.mtu.toNat - 28) ≤
            offset + fragmentLen h m offset
          rw [hnext, Nat.succ_mul]
          omega
        · show _ ≤ fuel + (h.assoc.outstandingCount + 1).toNat
          omega

theorem sendFragments_first {m : SctpMessage} {ssn : UINT16} {nowMs : UINT64} {fuel : Nat}
    (hm : m.payload ≠ []) : Busy (sendFragments (fuel + 1) h m ssn nowMs 0 true) := by
  have hpos : 0 < m.payload.length := List.length_pos_iff.mpr hm
  unfold sendFragments
  rw [if_neg (by omega)]
  split
  · rename_i hfull
    exact busy_of_full (h := takeTsn h) hfull
  · rename_i i _
    exact sendFragments_busy fuel (busy_storeOutstanding (takeTsn h) i m _ ssn _ nowMs)

theorem pendingCount_of_empty (ha : Accounting h.sendSide)
    (hempty : ∀ j, (h.assoc.pendingQueue.get j).inUse = false) : h.assoc.pendingQueueCount = 0 := by
  have hcount : h.assoc.pendingQueueCount.toNat = h.assoc.pendingQueue.total SctpQueueSlot.weight :=
    ha.pendingCount
  have hnone : h.assoc.pendingQueue.total SctpQueueSlot.weight = 0 := by
    refine Finset.sum_eq_zero fun j _ => ?_
    unfold SctpQueueSlot.weight
    rw [hempty j]
    rfl
  exact BitVec.eq_of_toNat_eq (hcount.trans hnone)

/-- What `sctpAssocSend` leaves behind: a chunk is outstanding, or the pending queue is as before. -/
def Settles (h h' : Host) : Prop :=
  Busy h' ∨ (h'.assoc.pendingQueue = h.assoc.pendingQueue ∧
    h'.assoc.pendingQueueCount = h.assoc.pendingQueueCount)

/-- **A message is submitted.** -/
theorem Flow.send (hf : Flow h) {m : SctpMessage} (hm : FitsTable h.assoc.mtu m) :
    Flow (sctpAssocSend h m) ∧ (Busy h → Busy (sctpAssocSend h m)) ∧
      Settles h (sctpAssocSend h m) := by
  have hwin := sctpAssocSend_windows h m
  have hacts := sctpAssocSend_acts (A := fun _ => True) hm hf.ready.mtu
  obtain ⟨hcwnd, harwnd, hrto⟩ := windows_eq hwin
  suffices hout : ((sctpAssocSend h m).assoc.outstanding = h.assoc.outstanding ∧
      (sctpAssocSend h m).assoc.t3RtxExpiry = h.assoc.t3RtxExpiry ∧
      Settles h (sctpAssocSend h m)) ∨
      (Busy (sctpAssocSend h m) ∧ (sctpAssocSend h m).assoc.t3RtxExpiry ≠ 0) by
    rcases hout with ⟨hsame, ht3, hset⟩ | ⟨hbusy, ht3⟩
    · refine ⟨hf.of_acts hacts (hcwnd ▸ hf.cwnd) (harwnd ▸ hf.peerArwnd) (hrto ▸ hf.rto) fun hb => ?_, fun hb => hb.of_outstanding hsame, hset⟩
      rw [ht3]
      exact hf.armed (hb.of_outstanding hsame.symm)
    · exact ⟨hf.of_acts hacts (hcwnd ▸ hf.cwnd) (harwnd ▸ hf.peerArwnd) (hrto ▸ hf.rto) fun _ => ht3, fun _ => hbusy, .inl hbusy⟩
  clear hacts hcwnd harwnd hrto hwin
  have hside : (addNextSsn h.tick m 1).sendSide = h.sendSide := addNextSsn_sendSide h.tick m 1
  have hout1 : (addNextSsn h.tick m 1).assoc.outstanding = h.assoc.outstanding :=
    congrArg SendSide.outstanding hside
  have hmtu1 : (addNextSsn h.tick m 1).assoc.mtu = h.assoc.mtu := congrArg SendSide.mtu hside
  obtain ⟨hwin1, ht31⟩ := addNextSsn_windows h.tick m 1
  have hrto1 : (addNextSsn h.tick m 1).assoc.rtoMs = h.assoc.rtoMs := (windows_eq hwin1).2.2
  have hnow := now_lt h
  unfold sctpAssocSend
  simp only
  split
  · obtain ⟨-, ht3, hsame, hq, hcount⟩ := queueSend_frame h.tick m
    exact .inl ⟨hsame, ht3, .inr ⟨hq, hcount⟩⟩
  · split
    · rename_i hclosed
      have hbusy : Busy h := hf.busy_of_closed (hclosed.imp_right .inl)
      obtain ⟨-, ht3, hsame⟩ := queuePending_frame h.tick m
      exact .inl ⟨hsame, ht3, .inl (hbusy.of_outstanding hsame)⟩
    · split
      · split
        · rename_i hfull
          have hbusy : Busy h := (busy_of_full hfull).of_outstanding hout1.symm
          obtain ⟨-, ht3, hsame⟩ := queuePending_frame (addNextSsn (addNextSsn h.tick m 1) m (-1)) m
          have hsame1 : (addNextSsn (addNextSsn h.tick m 1) m (-1)).assoc.outstanding =
              h.assoc.outstanding :=
            (congrArg SendSide.outstanding (addNextSsn_sendSide _ m (-1))).trans hout1
          have ht3' := (addNextSsn_windows (addNextSsn h.tick m 1) m (-1)).2
          exact .inl ⟨hsame.trans hsame1, ht3.trans (ht3'.trans ht31),
            .inl (hbusy.of_outstanding (hsame.trans hsame1))⟩
        · refine .inr ⟨?_, startT3_runs hnow ?_⟩
          · exact (busy_storeOutstanding _ _ m _ _ _ _).of_outstanding (startT3_outstanding _ _)
          · show 0 < (addNextSsn h.tick m 1).assoc.rtoMs.toNat
            rw [hrto1]
            exact hf.rto.1
      · refine .inr ⟨sendFragments_first hm.1, ?_⟩
        by_cases ht3 : h.assoc.t3RtxExpiry = 0
        · -- T3-rtx does not run, so the whole table is free
          have hidle : h.assoc.outstandingCount = 0 := by
            by_contra hc
            exact hf.armed (busy_of_count hf.accounting hc) ht3
          have hcount1 : (addNextSsn h.tick m 1).assoc.outstandingCount = 0 :=
            (congrArg SendSide.outstandingCount hside).trans hidle
          refine sendFragments_startsT3 hnow _ (by rw [hmtu1]; exact hf.ready.mtu)
            (by rw [hmtu1]; exact hm.2) ?_ (fun _ => ?_) ?_ (by rw [hrto1]; exact hf.rto.1)
          · rw [hout1, hcount1, ← hidle]
            exact hf.accounting.outstandingCount
          · rw [hcount1]
            simp
          · rw [hcount1]
            simp
        · exact sendFragments_keepsT3 _ (by rw [ht31]; exact ht3)

theorem Flowing.send (hf : Flowing h) {m : SctpMessage} (hm : FitsTable h.assoc.mtu m) :
    Flowing (sctpAssocSend h m) := by
  obtain ⟨hflow, hmono, hset⟩ := hf.toFlow.send hm
  refine ⟨hflow, fun hp => ?_⟩
  rcases hset with hbusy | ⟨-, hcount⟩
  · exact hbusy
  · exact hmono (hf.served (by rw [← hcount]; exact hp))

theorem Flowing.flushSlot (hf : Flowing h) (i : Fin SCTP_MAX_QUEUED_MESSAGES) :
    Flowing (flushSlot h i) := by
  unfold Sctp.flushSlot
  split
  · exact hf
  · rename_i hused
    rw [not_not] at hused
    have hsend := hf.send (hf.ready.sendQueue i hused)
    have hacts := flushSlot_acts (A := fun _ => True) hf.ready i
    unfold Sctp.flushSlot at hacts
    rw [if_neg (by rw [not_not]; exact hused)] at hacts
    exact ⟨hf.of_acts hacts hsend.cwnd hsend.peerArwnd hsend.rto hsend.armed, hsend.served⟩

theorem Flowing.flush (hf : Flowing h) : Flowing (sctpFlushSendQueue h) :=
  SlotTable.forSlots_invariant (P := Flowing) hf (fun i _ hf' => hf'.flushSlot i)

/-! ## Draining the pending queue -/

theorem Flow.drainSlot (hf : Flow h) (i : Fin SCTP_MAX_PENDING_SENDS) :
    Flow (drainSlot h i).1 ∧ ((drainSlot h i).2 = true → Busy (drainSlot h i).1) ∧
      (Busy h → Busy (drainSlot h i).1) ∧
      ((drainSlot h i).2 = false → Busy (drainSlot h i).1 ∨
        (((drainSlot h i).1.assoc.pendingQueue.get i).inUse = false ∧ ∀ j, j ≠ i →
          (drainSlot h i).1.assoc.pendingQueue.get j = h.assoc.pendingQueue.get j)) := by
  have hacts := drainSlot_acts (A := fun _ => True) hf.ready i
  unfold Sctp.drainSlot at hacts ⊢
  split
  · rename_i hfree
    refine ⟨hf, fun hno => (by cases hno), id, fun _ => .inr ⟨by simpa using hfree, fun _ _ => rfl⟩⟩
  · rename_i hused
    rw [if_neg hused] at hacts
    rw [not_not] at hused
    split
    · rename_i hclosed
      have hbusy := hf.busy_of_closed hclosed
      exact ⟨hf, fun _ => hbusy, id, fun hno => (by cases hno)⟩
    · have hevict : Flow (evictPending h i) :=
        hf.of_acts (.single (.dequeuePending h.sendSide i _ hused)) hf.cwnd hf.peerArwnd hf.rto
          hf.armed (A := fun _ => True)
      obtain ⟨hflow, hmono, hset⟩ := hevict.send (m := (h.assoc.pendingQueue.get i).msg)
        (hf.ready.pendingQueue i hused)
      refine ⟨hflow, fun hno => (by cases hno), hmono, fun _ => hset.imp_right fun hq => ?_⟩
      rw [hq.1]
      refine ⟨?_, fun j hj => ?_⟩
      · show ((h.assoc.pendingQueue.set i ⟨_, false⟩).get i).inUse = false
        rw [SlotTable.get_set_self]
      · show (h.assoc.pendingQueue.set i ⟨_, false⟩).get j = _
        rw [SlotTable.get_set_ne _ _ hj]

/-- **The drain ends with an empty queue or with a chunk outstanding.** -/
theorem Flow.drain (hf : Flow h) : Flowing (sctpDrainPendingQueue h) := by
  have hloop := SlotTable.forSlots_rec (n := SCTP_MAX_PENDING_SENDS)
    (P := fun k (p : Host × Bool) => Flow p.1 ∧ (p.2 = true → Busy p.1) ∧
      (p.2 = false → Busy p.1 ∨ ∀ j : Fin SCTP_MAX_PENDING_SENDS, j.val < k →
        (p.1.assoc.pendingQueue.get j).inUse = false))
    (f := fun p i => if p.2 then p else Sctp.drainSlot p.1 i) (s := (h, false))
    ⟨hf, fun hno => (by cases hno), fun _ => .inr fun j hj => absurd hj (Nat.not_lt_zero _)⟩
    (fun i p hp => ?_)
  · obtain ⟨hflow, hbreak, hend⟩ := hloop
    refine ⟨hflow, fun hp => ?_⟩
    rcases Bool.eq_false_or_eq_true (SlotTable.forSlots (n := SCTP_MAX_PENDING_SENDS)
      (fun (p : Host × Bool) i => if p.2 then p else Sctp.drainSlot p.1 i) (h, false)).2 with hb | hb
    · exact hbreak hb
    · refine (hend hb).resolve_right fun hempty => hp ?_
      exact pendingCount_of_empty hflow.accounting fun j => hempty j j.isLt
  · obtain ⟨hflow, hbusy, hlow⟩ := hp
    by_cases hbreak : p.2 = true
    · rw [if_pos hbreak]
      exact ⟨hflow, hbusy, fun hno => absurd (hno.symm.trans hbreak) (by decide)⟩
    · rw [if_neg hbreak]
      rw [Bool.not_eq_true] at hbreak
      obtain ⟨h1, h2, h3, h4⟩ := hflow.drainSlot i
      refine ⟨h1, h2, fun hno => ?_⟩
      rcases hlow hbreak with hb | hfree
      · exact .inl (h3 hb)
      · refine (h4 hno).imp_right fun hq j hj => ?_
        by_cases hij : j = i
        · rw [hij]
          exact hq.1
        · rw [hq.2 j hij]
          exact hfree j (by have := Fin.val_ne_of_ne hij; omega)

/-! ## Acknowledgements -/

theorem sackLoops_conserve (ha : Accounting h.sendSide) (pValue : Bytes) :
    Accounting (sackLoops h pValue).1.sendSide ∧ (sackLoops h pValue).2.toNat +
      (sackLoops h pValue).1.assoc.flightSize.toNat = h.assoc.flightSize.toNat := by
  refine sackLoops_rec (P := fun r => Accounting r.1.sendSide ∧
    r.2.toNat + r.1.assoc.flightSize.toNat = h.assoc.flightSize.toNat) (fun covered r i hr => ?_)
    pValue ⟨ha, Nat.zero_add _⟩
  have hacts := sackSlot_acts (S := fun _ => True) (A := fun _ => True) covered r i
  refine ⟨hacts.accounting hr.1, ?_⟩
  unfold sackSlot
  simp only
  split
  · exact hr.2
  · rename_i hused
    split
    · rw [not_or, not_not] at hused
      obtain ⟨-, hle⟩ := hr.1.flight.empty (i := i) (a := SctpOutstandingData.zero)
        (v := (r.1.assoc.outstanding.get i).payloadLen) (by
          show _ = slotBytes (r.1.assoc.outstanding.get i)
          unfold slotBytes
          rw [if_pos hused.1]) rfl
      have hle' : (r.1.assoc.outstanding.get i).payloadLen ≤ r.1.assoc.flightSize := hle
      have hlt := h.assoc.flightSize.isLt
      have hnat := BitVec.le_def.mp hle'
      show (r.2 + (r.1.assoc.outstanding.get i).payloadLen).toNat +
        (r.1.assoc.flightSize - (r.1.assoc.outstanding.get i).payloadLen).toNat = _
      rw [BitVec.toNat_add_of_lt (by omega), BitVec.toNat_sub_of_le hle']
      omega
    · exact hr.2

theorem sackLoops_frame (h : Host) (pValue : Bytes) :
    (sackLoops h pValue).1.windows = h.windows ∧
      (sackLoops h pValue).1.assoc.t3RtxExpiry = h.assoc.t3RtxExpiry ∧
      (sackLoops h pValue).1.assoc.mtu = h.assoc.mtu ∧
      (sackLoops h pValue).1.assoc.pendingQueueCount = h.assoc.pendingQueueCount :=
  sackLoops_invariant (P := fun h' => h'.windows = h.windows ∧
    h'.assoc.t3RtxExpiry = h.assoc.t3RtxExpiry ∧ h'.assoc.mtu = h.assoc.mtu ∧
    h'.assoc.pendingQueueCount = h.assoc.pendingQueueCount) (fun _ _ _ hp => hp) pValue
    ⟨rfl, rfl, rfl, rfl⟩

theorem sackGrow_cwnd {n : UINT32} (hc : h.assoc.cwnd ≠ 0)
    (hroom : h.assoc.cwnd.toNat + h.assoc.mtu.toNat < 2 ^ 32) : (sackGrow h n).assoc.cwnd ≠ 0 := by
  have hmtu : (h.assoc.mtu.setWidth 32).toNat = h.assoc.mtu.toNat := by
    have := h.assoc.mtu.isLt
    rw [BitVec.toNat_setWidth]
    omega
  have hpos : h.assoc.cwnd.toNat ≠ 0 := fun h0 => hc (BitVec.eq_of_toNat_eq h0)
  have hgrow : ∀ inc : UINT32, inc ≤ h.assoc.mtu.setWidth 32 → h.assoc.cwnd + inc ≠ 0 := by
    intro inc hinc h0
    have hnat := BitVec.le_def.mp hinc
    have hsum := congrArg BitVec.toNat h0
    rw [BitVec.toNat_add_of_lt (by omega)] at hsum
    have : (0 : UINT32).toNat = 0 := rfl
    omega
  have hinc : (if h.assoc.cwnd ≤ h.assoc.ssthresh then
      if n > h.assoc.mtu.setWidth 32 then h.assoc.mtu.setWidth 32 else n
      else h.assoc.mtu.setWidth 32) ≤ h.assoc.mtu.setWidth 32 := by
    split
    · split
      · exact BitVec.le_refl _
      · rename_i hn
        exact BitVec.not_lt.mp hn
    · exact BitVec.le_refl _
  unfold sackGrow
  simp only
  split <;> exact hgrow _ hinc

theorem sackGrow_frame (h : Host) (n : UINT32) :
    (sackGrow h n).assoc.peerArwnd = h.assoc.peerArwnd ∧
      (sackGrow h n).assoc.rtoMs = h.assoc.rtoMs := by
  unfold sackGrow
  simp only
  split <;> exact ⟨rfl, rfl⟩

theorem sackGrow_armed {n : UINT32} (ha : Accounting h.sendSide) (hrto : 0 < h.assoc.rtoMs.toNat)
    (hb : Busy h) : (sackGrow h n).assoc.t3RtxExpiry ≠ 0 := by
  unfold sackGrow
  simp only
  split
  · rename_i hzero
    exact absurd hzero (hb.count ha)
  · exact expiry_ne_zero (now_lt h) hrto

/-- The tables after the acknowledgement loops, and the new receiver window. -/
structure Acked (h : Host) (arwnd : UINT32) (h' : Host) (bytesNewlyAcked : UINT32) : Prop where
  acts : SendActs (FitsTable h.assoc.mtu) (fun _ => True) h.sendSide h'.sendSide
  cwnd : h'.assoc.cwnd = h.assoc.cwnd
  peerArwnd : h'.assoc.peerArwnd = arwnd
  rto : h'.assoc.rtoMs = h.assoc.rtoMs
  t3 : h'.assoc.t3RtxExpiry = h.assoc.t3RtxExpiry
  mtu : h'.assoc.mtu = h.assoc.mtu
  pending : h'.assoc.pendingQueueCount = h.assoc.pendingQueueCount
  flight : bytesNewlyAcked.toNat + h'.assoc.flightSize.toNat = h.assoc.flightSize.toNat

theorem sackLoops_acked (ha : Accounting h.sendSide) (arwnd cumTsn : UINT32) (pValue : Bytes) :
    let r := sackLoops { h with assoc.peerArwnd := arwnd } pValue
    Acked h arwnd (if TSN_GT cumTsn r.1.assoc.cumulativeAckTsn then
      { r.1 with assoc.cumulativeAckTsn := cumTsn } else r.1) r.2 := by
  intro r
  obtain ⟨hwin, ht3, hmtu, hpend⟩ := sackLoops_frame { h with assoc.peerArwnd := arwnd } pValue
  have hcons := (sackLoops_conserve (h := { h with assoc.peerArwnd := arwnd }) ha pValue).2
  have hacts : SendActs (FitsTable h.assoc.mtu) (fun _ => True) h.sendSide r.1.sendSide :=
    sackLoops_acts { h with assoc.peerArwnd := arwnd } pValue
  obtain ⟨hcwnd, harwnd, hrto⟩ := windows_eq hwin
  have hacked : Acked h arwnd r.1 r.2 := ⟨hacts, hcwnd, harwnd, hrto, ht3, hmtu, hpend, hcons⟩
  split
  · exact ⟨hacked.acts, hacked.cwnd, hacked.peerArwnd, hacked.rto, hacked.t3, hacked.mtu,
      hacked.pending, hacked.flight⟩
  · exact hacked

theorem Acked.idle {arwnd n : UINT32} (hk : Acked h arwnd h' n) (hf : Flowing h) (hwin : arwnd ≠ 0)
    (hn : n = 0) : Flowing h' := by
  have hsame : h'.assoc.flightSize = h.assoc.flightSize := by
    have hflight := hk.flight
    rw [hn] at hflight
    exact BitVec.eq_of_toNat_eq ((Nat.zero_add _).symm.trans hflight)
  have hback : Busy h' → Busy h := by
    intro hb
    have hne := hb.flight (hk.acts.accounting hf.accounting)
      (hk.acts.filled hf.ready.mtu hf.filled).1
    exact busy_of_flight hf.accounting (hsame ▸ hne)
  refine ⟨hf.of_acts hk.acts (by rw [hk.cwnd]; exact hf.cwnd) (by rw [hk.peerArwnd]; exact hwin)
    (by rw [hk.rto]; exact hf.rto) fun hb => ?_, fun hp => ?_⟩
  · rw [hk.t3]
    exact hf.armed (hback hb)
  · have hne := (hf.served (by rw [← hk.pending]; exact hp)).flight hf.accounting hf.filled
    exact busy_of_flight (hk.acts.accounting hf.accounting) (hsame.symm ▸ hne)

theorem Acked.grow {arwnd n : UINT32} (hk : Acked h arwnd h' n) (hf : Flowing h) (hwin : arwnd ≠ 0)
    (hroom : h.assoc.cwnd.toNat + h.assoc.mtu.toNat < 2 ^ 32) : Flow (sackGrow h' n) := by
  obtain ⟨harwnd, hrto⟩ := sackGrow_frame h' n
  have hacts : SendActs (FitsTable h.assoc.mtu) (fun _ => True) h.sendSide (sackGrow h' n).sendSide := by
    rw [sackGrow_sendSide]
    exact hk.acts
  refine hf.of_acts hacts (sackGrow_cwnd ?_ ?_) (by rw [harwnd, hk.peerArwnd]; exact hwin)
    (by rw [hrto, hk.rto]; exact hf.rto) fun hb => ?_
  · rw [hk.cwnd]
    exact hf.cwnd
  · rw [hk.cwnd, hk.mtu]
    exact hroom
  · have hb' : Busy h' :=
      hb.of_outstanding (congrArg SendSide.outstanding (sackGrow_sendSide h' n)).symm
    exact sackGrow_armed (hk.acts.accounting hf.accounting) (by rw [hk.rto]; exact hf.rto.1) hb'

/-- **A SACK.**  The window it advertises is not zero, and the congestion window does not wrap. -/
theorem Flowing.sack (hf : Flowing h) {pValue : Bytes}
    (hwin : 12 ≤ pValue.length → getUnalignedInt32BigEndian pValue 4 ≠ 0)
    (hroom : h.assoc.cwnd.toNat + h.assoc.mtu.toNat < 2 ^ 32) :
    Flowing (sctpHandleSack h pValue) := by
  unfold sctpHandleSack
  simp only
  split
  · exact hf
  · rename_i hlen
    have hwin' := hwin (Nat.not_lt.mp hlen)
    have hk := sackLoops_acked hf.accounting (getUnalignedInt32BigEndian pValue 4)
      (getUnalignedInt32BigEndian pValue 0) pValue
    simp only at hk
    generalize sackLoops { h with assoc.peerArwnd := getUnalignedInt32BigEndian pValue 4 } pValue = r
      at hk
    generalize (if TSN_GT (getUnalignedInt32BigEndian pValue 0) r.1.assoc.cumulativeAckTsn then
        { r.1 with assoc.cumulativeAckTsn := getUnalignedInt32BigEndian pValue 0 } else r.1) = h1
      at hk
    split
    · have hgrow := hk.grow hf hwin' hroom
      split
      · exact hgrow.drain
      · rename_i hnone
        refine ⟨hgrow, fun hp => absurd ?_ hp⟩
        exact BitVec.le_zero_iff.mp (BitVec.not_lt.mp hnone)
    · rename_i hnone
      exact hk.idle hf hwin' (BitVec.le_zero_iff.mp (BitVec.not_lt.mp hnone))

/-! ## Timers -/

theorem backOff_rto (hrto : 0 < h.assoc.rtoMs.toNat ∧ h.assoc.rtoMs ≤ SCTP_RTO_MAX_MS) :
    0 < (backOff h).assoc.rtoMs.toNat ∧ (backOff h).assoc.rtoMs ≤ SCTP_RTO_MAX_MS := by
  have hmax : SCTP_RTO_MAX_MS.toNat = 60000 := by decide
  have hle := BitVec.le_def.mp hrto.2
  show 0 < (if h.assoc.rtoMs * 2 > SCTP_RTO_MAX_MS then SCTP_RTO_MAX_MS
      else h.assoc.rtoMs * 2 : UINT32).toNat ∧ (if h.assoc.rtoMs * 2 > SCTP_RTO_MAX_MS then
      SCTP_RTO_MAX_MS else h.assoc.rtoMs * 2 : UINT32) ≤ SCTP_RTO_MAX_MS
  split
  · exact ⟨by decide, BitVec.le_refl _⟩
  · rename_i hsmall
    refine ⟨?_, BitVec.not_lt.mp hsmall⟩
    have htwo : (2 : UINT32).toNat = 2 := rfl
    rw [BitVec.toNat_mul, htwo, Nat.mod_eq_of_lt (by omega)]
    omega

theorem t3Loop_keeps {nowMs : UINT64} {i : Fin SCTP_MAX_OUTSTANDING}
    (hk : Keeps nowMs (h.assoc.outstanding.get i)) : Busy (t3Loop h nowMs) := by
  have hloop := SlotTable.forSlots_rec (f := t3Slot nowMs) (s := h)
    (P := fun k h' => (k ≤ i.val → h'.assoc.outstanding.get i = h.assoc.outstanding.get i) ∧
      (i.val < k → (h'.assoc.outstanding.get i).inUse = true))
    ⟨fun _ => rfl, fun hlt => absurd hlt (Nat.not_lt_zero _)⟩ (fun j h' hp => ?_)
  · exact ⟨i, hloop.2 i.isLt⟩
  · by_cases hij : i = j
    · subst hij
      refine ⟨fun hle => absurd hle (by omega), fun _ => ?_⟩
      have hslot := hp.1 (Nat.le_refl _)
      rw [← hslot] at hk
      obtain ⟨⟨hu, hack, hab⟩, hkeep⟩ := hk
      unfold t3Slot
      rw [if_neg (by simp [hu, hack, hab]), if_neg (by simp [hkeep])]
      have hset : ((h'.assoc.outstanding.set i (h'.assoc.outstanding.get i).retried).get i).inUse =
          true := by
        rw [SlotTable.get_set_self]
        exact hu
      split <;> exact hset
    · have hne : i.val ≠ j.val := Fin.val_ne_of_ne hij
      rw [t3Slot_frame hij]
      exact ⟨fun hle => hp.1 (by omega), fun hlt => hp.2 (by omega)⟩

theorem restartT3_armed {nowMs : UINT64} (hnow : nowMs.toNat < 2 ^ 63)
    (hrto : 0 < (restartT3 h nowMs).assoc.rtoMs.toNat)
    (hc : (restartT3 h nowMs).assoc.outstandingCount ≠ 0) :
    (restartT3 h nowMs).assoc.t3RtxExpiry ≠ 0 := by
  unfold restartT3 at hrto hc ⊢
  split at hrto
  · rename_i hpos
    rw [if_pos hpos]
    exact expiry_ne_zero hnow hrto
  · rename_i hzero
    rw [if_neg hzero] at hc
    exact absurd (BitVec.le_zero_iff.mp (BitVec.not_lt.mp hzero)) hc

/-- The state in which the T3 block ends. -/
def t3Leave (h : Host) (nowMs : UINT64) : Host :=
  restartT3 (sendForwardTsn (t3Loop (t3Enter h) nowMs)) nowMs

theorem t3Leave_frame (h : Host) (nowMs : UINT64) :
    (t3Leave h nowMs).windows = (t3Enter h).windows ∧
      (t3Leave h nowMs).assoc.pendingQueueCount = h.assoc.pendingQueueCount ∧
      (t3Leave h nowMs).assoc.outstanding = (t3Loop (t3Enter h) nowMs).assoc.outstanding := by
  have hframe := T3Keeps.leave (P := fun h' => h'.windows = (t3Enter h).windows ∧
    h'.assoc.pendingQueueCount = h.assoc.pendingQueueCount) (h := t3Enter h)
    ⟨fun _ _ => id, fun _ => id, fun _ _ _ _ _ _ => id, fun _ => id, fun _ => id⟩ nowMs ⟨rfl, rfl⟩
  refine ⟨hframe.1, hframe.2, ?_⟩
  unfold t3Leave
  rw [restartT3_outstanding, sendForwardTsn_outstanding]

theorem t3Enter_windows (h : Host) : (t3Enter h).windows =
    (h.assoc.mtu.setWidth 32, h.assoc.peerArwnd, (backOff h).assoc.rtoMs) := rfl

theorem setWidth_mtu_ne_zero (hm : 29 ≤ h.assoc.mtu.toNat) :
    (h.assoc.mtu.setWidth 32 : UINT32) ≠ 0 := by
  intro h0
  have hmtu := congrArg BitVec.toNat h0
  have hzero : (0 : UINT32).toNat = 0 := rfl
  have hlt := h.assoc.mtu.isLt
  rw [BitVec.toNat_setWidth, Nat.mod_eq_of_lt (by omega), hzero] at hmtu
  omega

/-- **A T3 expiry.**  If a message waits, some outstanding chunk is kept. -/
theorem Flowing.t3Leave (hf : Flowing h) {nowMs : UINT64} (hnow : nowMs.toNat < 2 ^ 63)
    (hacts : SendActs (FitsTable h.assoc.mtu) (fun _ => True) h.sendSide
      (t3Leave h nowMs).sendSide)
    (hkeep : h.assoc.pendingQueueCount ≠ 0 → ∃ i, Keeps nowMs (h.assoc.outstanding.get i)) :
    Flowing (t3Leave h nowMs) := by
  obtain ⟨hwin, hpend, hout⟩ := t3Leave_frame h nowMs
  rw [t3Enter_windows] at hwin
  obtain ⟨hcwnd, harwnd, hrto⟩ := windows_eq hwin
  have hrto' := backOff_rto hf.rto
  rw [← hrto] at hrto'
  refine ⟨hf.of_acts hacts ?_ (by rw [harwnd]; exact hf.peerArwnd) hrto' fun hb => ?_, fun hp => ?_⟩
  · rw [hcwnd]
    exact setWidth_mtu_ne_zero hf.ready.mtu
  · have hcount := hb.count (hacts.accounting hf.accounting)
    exact restartT3_armed hnow hrto'.1 hcount
  · obtain ⟨i, hi⟩ := hkeep (by rw [← hpend]; exact hp)
    exact (t3Loop_keeps (h := t3Enter h) hi).of_outstanding hout

theorem checkT1_windows (hrto : 0 < h.assoc.rtoMs.toNat ∧ h.assoc.rtoMs ≤ SCTP_RTO_MAX_MS)
    (nowMs : UINT64) :
    (checkT1 h nowMs).1.assoc.cwnd = h.assoc.cwnd ∧
      (checkT1 h nowMs).1.assoc.peerArwnd = h.assoc.peerArwnd ∧
      (checkT1 h nowMs).1.assoc.pendingQueueCount = h.assoc.pendingQueueCount ∧
      0 < (checkT1 h nowMs).1.assoc.rtoMs.toNat ∧
      (checkT1 h nowMs).1.assoc.rtoMs ≤ SCTP_RTO_MAX_MS := by
  have hback := backOff_rto hrto
  unfold checkT1
  simp only
  split
  · split
    · exact ⟨rfl, rfl, rfl, hrto⟩
    · split
      · exact ⟨rfl, rfl, rfl, hback⟩
      · split
        · exact ⟨rfl, rfl, rfl, hback⟩
        · exact ⟨rfl, rfl, rfl, hback⟩
  · exact ⟨rfl, rfl, rfl, hrto⟩

theorem Flowing.checkT1 (hf : Flowing h) (nowMs : UINT64) : Flowing (checkT1 h nowMs).1 := by
  obtain ⟨hcwnd, harwnd, hpend, hrto⟩ := checkT1_windows hf.rto nowMs
  obtain ⟨hout, -, ht3, -⟩ := checkT1_frame h nowMs
  have hacts := checkT1_acts (S := FitsTable h.assoc.mtu) (A := fun _ => True) h nowMs
  refine ⟨hf.of_acts hacts (hcwnd ▸ hf.cwnd) (harwnd ▸ hf.peerArwnd) hrto fun hb => ?_, fun hp => ?_⟩
  · rw [ht3]
    exact hf.armed (hb.of_outstanding hout.symm)
  · exact (hf.served (hpend ▸ hp)).of_outstanding hout

/-- If a message waits when T3-rtx expires, some outstanding chunk is kept. -/
def ExpiryKeeps (h : Host) (nowMs : UINT64) : Prop :=
  h.assoc.pendingQueueCount ≠ 0 → h.assoc.t3RtxExpiry ≠ 0 → nowMs ≥ h.assoc.t3RtxExpiry →
    ∃ i, Keeps nowMs (h.assoc.outstanding.get i)

theorem Flowing.checkTimers (hf : Flowing h) {nowMs : UINT64} (hnow : nowMs.toNat < 2 ^ 63)
    (hkeep : ExpiryKeeps h nowMs) : Flowing (sctpAssocCheckTimers h nowMs) := by
  have hf1 := hf.checkT1 nowMs
  obtain ⟨-, -, hpend, -⟩ := checkT1_windows hf.rto nowMs
  obtain ⟨hout, -, ht3, -⟩ := checkT1_frame h nowMs
  unfold ExpiryKeeps at hkeep
  rw [← hout, ← ht3, ← hpend] at hkeep
  unfold sctpAssocCheckTimers
  simp only
  split
  · exact hf1
  · generalize (Sctp.checkT1 h nowMs).1 = h1 at hf1 hkeep
    have hacts := checkT3_acts (S := FitsTable h1.assoc.mtu) (A := fun _ => True) h1 nowMs
      (fun _ => trivial)
    unfold checkT3 at hacts ⊢
    split
    · rename_i hexp
      rw [if_pos hexp] at hacts
      exact hf1.t3Leave hnow hacts fun hp => hkeep hp hexp.1 hexp.2
    · exact hf1

/-! ## The other steps -/

theorem Flowing.of_frame (hf : Flowing h)
    (hacts : SendActs (FitsTable h.assoc.mtu) (fun _ => True) h.sendSide h'.sendSide)
    (hwin : h'.windows = h.windows) (ht3 : h'.assoc.t3RtxExpiry = h.assoc.t3RtxExpiry)
    (hout : h'.assoc.outstanding = h.assoc.outstanding)
    (hpend : h'.assoc.pendingQueueCount = h.assoc.pendingQueueCount) : Flowing h' := by
  obtain ⟨hcwnd, harwnd, hrto⟩ := windows_eq hwin
  refine ⟨hf.of_acts hacts (hcwnd ▸ hf.cwnd) (harwnd ▸ hf.peerArwnd) (hrto ▸ hf.rto) fun hb => ?_,
    fun hp => ?_⟩
  · rw [ht3]
    exact hf.armed (hb.of_outstanding hout.symm)
  · exact (hf.served (hpend ▸ hp)).of_outstanding hout

theorem Flowing.of_side (hf : Flowing h) (hside : h'.sendSide = h.sendSide)
    (hwin : h'.windows = h.windows) (ht3 : h'.assoc.t3RtxExpiry = h.assoc.t3RtxExpiry) :
    Flowing h' :=
  hf.of_frame (by rw [hside]) hwin ht3 (congrArg SendSide.outstanding hside)
    (congrArg SendSide.pendingQueueCount hside)

theorem Flowing.sendChunk (hf : Flowing h) (vtag : UINT32) (w : Written) {o : Origin}
    (ho : o.isControl = true) : Flowing (sendChunk h vtag w o) :=
  hf.of_frame (sendChunk_control h vtag w ho) rfl rfl rfl rfl

theorem Flowing.advertise (hf : Flowing h) (hwin : h'.assoc.peerArwnd ≠ 0)
    (hside : h'.sendSide = h.sendSide) (hcwnd : h'.assoc.cwnd = h.assoc.cwnd)
    (hrto : h'.assoc.rtoMs = h.assoc.rtoMs) (ht3 : h'.assoc.t3RtxExpiry = h.assoc.t3RtxExpiry) :
    Flowing h' := by
  have hout : h'.assoc.outstanding = h.assoc.outstanding := congrArg SendSide.outstanding hside
  have hpend : h'.assoc.pendingQueueCount = h.assoc.pendingQueueCount :=
    congrArg SendSide.pendingQueueCount hside
  have hacts : SendActs (FitsTable h.assoc.mtu) (fun _ => True) h.sendSide h'.sendSide := by
    rw [hside]
  refine ⟨hf.of_acts hacts (hcwnd ▸ hf.cwnd) hwin (hrto ▸ hf.rto) fun hb => ?_, fun hp => ?_⟩
  · rw [ht3]
    exact hf.armed (hb.of_outstanding hout.symm)
  · exact (hf.served (hpend ▸ hp)).of_outstanding hout

theorem Flowing.sendSack (hf : Flowing h) : Flowing (sctpSendSack h) := by
  unfold sctpSendSack
  split
  · exact hf
  · exact (hf.sendChunk _ _ rfl).of_side rfl rfl rfl

theorem Flowing.receives : ReceiveKeeps Flowing where
  track _ _ _ _ _ hf := hf.of_side rfl rfl rfl
  deliver _ _ _ _ _ _ hf := hf.of_side rfl rfl rfl
  sendSack hf := hf.sendSack

theorem Flowing.initAck (hf : Flowing h) {pValue : Bytes}
    (hwin : 16 ≤ pValue.length → getUnalignedInt32BigEndian pValue 4 ≠ 0) :
    Flowing (sctpHandleInitAck h pValue) := by
  unfold sctpHandleInitAck
  split
  · exact hf
  · rename_i hlen
    have hwin' := hwin (Nat.not_lt.mp hlen)
    split
    · exact hf
    · simp only
      split
      · exact hf.advertise hwin' rfl rfl rfl rfl
      · rename_i cookie _
        have hset : Flowing { h with
            assoc.peerVerificationTag := getUnalignedInt32BigEndian pValue 0
            assoc.peerArwnd := getUnalignedInt32BigEndian pValue 4
            assoc.peerCumulativeTsn := getUnalignedInt32BigEndian pValue 12 - 1
            assoc.peerCumulativeTsnValid := true
            assoc.cookieEchoData := cookie
            assoc.cookieEchoValid := true } := hf.advertise hwin' rfl rfl rfl rfl
        exact (hset.sendChunk _ _ rfl).of_side rfl rfl rfl

theorem Flowing.cookieEcho (hf : Flowing h) {pValue : Bytes}
    (hwin : SCTP_COOKIE_SIZE ≤ pValue.length → (SctpCookie.ofBytes pValue).peerArwnd ≠ 0) :
    Flowing (sctpHandleCookieEcho h pValue) := by
  unfold sctpHandleCookieEcho
  split
  · exact hf
  · rename_i hlen
    have hwin' := hwin (Nat.not_lt.mp hlen)
    simp only
    split
    · exact hf
    · have hset : Flowing { h with
          assoc.peerVerificationTag := (SctpCookie.ofBytes pValue).peerTag
          assoc.peerCumulativeTsn := (SctpCookie.ofBytes pValue).peerInitialTsn - 1
          assoc.peerCumulativeTsnValid := true
          assoc.peerArwnd := (SctpCookie.ofBytes pValue).peerArwnd } :=
        hf.advertise hwin' rfl rfl rfl rfl
      have hack : Flowing (acceptCookie h (SctpCookie.ofBytes pValue)) :=
        (hset.sendChunk _ _ rfl).of_side rfl rfl rfl
      exact hack.flush

theorem Flowing.cookieAck (hf : Flowing h) : Flowing (sctpHandleCookieAck h) := by
  unfold sctpHandleCookieAck
  split
  · exact hf
  · refine Flowing.flush ?_
    exact hf.of_side rfl rfl rfl

/-! ## Runs -/

/-- The chunk does not advertise a zero receiver window. -/
def OpensWindow (c : SctpChunk) : Prop :=
  (c.type = SCTP_CHUNK_SACK → 12 ≤ c.value.length → getUnalignedInt32BigEndian c.value 4 ≠ 0) ∧
  (c.type = SCTP_CHUNK_INIT_ACK → 16 ≤ c.value.length →
    getUnalignedInt32BigEndian c.value 4 ≠ 0) ∧
  (c.type = SCTP_CHUNK_COOKIE_ECHO → SCTP_COOKIE_SIZE ≤ c.value.length →
    (SctpCookie.ofBytes c.value).peerArwnd ≠ 0)

theorem Flowing.chunk (hf : Flowing h) (messageFn : Bool) {c : SctpChunk} (hc : OpensWindow c)
    (hroom : c.type = SCTP_CHUNK_SACK → h.assoc.cwnd.toNat + h.assoc.mtu.toNat < 2 ^ 32) :
    Flowing (sctpChunkDispatch messageFn h c) := by
  obtain ⟨hsack, hinitAck, hecho⟩ := hc
  refine sctpChunkDispatch_cases (P := Flowing) (fun _ => ?_) (fun hc => hf.initAck (hinitAck hc))
    (fun hc => hf.cookieEcho (hecho hc)) (fun _ => hf.cookieAck)
    (fun _ => Flowing.receives.data _ _ _ hf) (fun hc => hf.sack (hsack hc) (hroom hc))
    (fun _ => Flowing.receives.forwardTsn _ hf) (fun _ => ?_)
    (fun _ => ?_) (fun _ => ?_) (fun _ => hf.of_side rfl rfl rfl) hf
  · rcases sctpHandleInit_sends h c.value with heq | ⟨vtag, w, heq⟩
    · rw [heq]
      exact hf
    · rw [heq]
      exact hf.sendChunk vtag w rfl
  · unfold handleHeartbeat
    simp only
    split
    · exact hf.sendChunk _ _ rfl
    · exact hf.of_side rfl rfl rfl
  · exact (hf.sendChunk _ _ rfl).of_side rfl rfl rfl
  · exact (hf.sendChunk _ _ rfl).of_side rfl rfl rfl

/-- What the association is promised about a step: messages are not empty, the peer never closes its
window, and the clock counts milliseconds. -/
def Step.Promised : Step → Prop
  | .send m => m.payload ≠ []
  | .chunk _ c => OpensWindow c
  | .checkTimers nowMs => nowMs.toNat < 2 ^ 63
  | _ => True

/-- The step does not strand the pending queue of `h`: a message is cut into at most
`SCTP_MAX_OUTSTANDING` chunks, a SACK does not wrap the congestion window, and an expiry keeps some
chunk while messages wait. -/
def Serves (h : Host) : Step → Prop
  | .send m => m.payload.length ≤ SCTP_MAX_OUTSTANDING * (h.assoc.mtu.toNat - 28)
  | .chunk _ c => c.type = SCTP_CHUNK_SACK → h.assoc.cwnd.toNat + h.assoc.mtu.toNat < 2 ^ 32
  | .checkTimers nowMs => ExpiryKeeps h nowMs
  | _ => True

/-- **One step.** -/
theorem Flowing.move (hf : Flowing h) {st : Step} (hp : st.Promised) (hs : Serves h st) :
    Flowing (h.move st) := by
  cases st with
  | connect => exact (hf.sendChunk _ _ rfl).of_side rfl rfl rfl
  | send m => exact hf.send ⟨hp, hs⟩
  | chunk messageFn c => exact hf.chunk messageFn hp hs
  | checkTimers nowMs => exact hf.checkTimers hp hs
  | shutdown =>
    show Flowing (sctpAssocShutdown h)
    unfold sctpAssocShutdown
    split
    · exact hf
    · exact (hf.sendChunk _ _ rfl).of_side rfl rfl rfl

/-- Every step of `steps` serves the queue of the state it meets. -/
def AllServe (h : Host) (steps : List Step) : Prop :=
  ∀ pre st post, steps = pre ++ st :: post → Serves (h.moves pre) st

theorem Flowing.moves (hf : Flowing h) {steps : List Step} (hp : ∀ st ∈ steps, st.Promised)
    (hs : AllServe h steps) : Flowing (h.moves steps) := by
  induction steps generalizing h with
  | nil => exact hf
  | cons st steps ih =>
    refine ih (hf.move (hp st List.mem_cons_self) (hs [] st steps rfl))
      (fun st' hst' => hp st' (List.mem_cons_of_mem _ hst')) (fun pre st' post heq => ?_)
    exact hs (st :: pre) st' post (by rw [heq]; rfl)

end

theorem sctpAssocInit_flowing {mtu : UINT16} (hm : 29 ≤ mtu.toNat) (clock : Nat → UINT64)
    (localPort remotePort : UINT16) : Flowing (sctpAssocInit clock localPort remotePort mtu) := by
  have hidle : ¬ Busy (sctpAssocInit clock localPort remotePort mtu) := by
    rintro ⟨i, hi⟩
    cases hi
  refine ⟨⟨sctpAssocInit_ready hm clock localPort remotePort,
    sctpAssocInit_accounting hm clock localPort remotePort, fun i hi => absurd ⟨i, hi⟩ hidle, ?_, ?_,
    ?_, fun hb => absurd hb hidle⟩, fun hp => absurd rfl hp⟩
  · show SCTP_INITIAL_CWND_MTUS * mtu.setWidth 32 ≠ 0
    intro h0
    have hmtu := congrArg BitVec.toNat h0
    have hlt := mtu.isLt
    have hthree : SCTP_INITIAL_CWND_MTUS.toNat = 3 := by decide
    have hzero : (0 : UINT32).toNat = 0 := rfl
    rw [BitVec.toNat_mul, hthree, BitVec.toNat_setWidth, hzero] at hmtu
    omega
  · show SCTP_DEFAULT_ARWND ≠ 0
    decide
  · show 0 < SCTP_RTO_INITIAL_MS.toNat ∧ SCTP_RTO_INITIAL_MS ≤ SCTP_RTO_MAX_MS
    decide

/-- **No stranded pending data.**  In every run in which messages are not empty and the peer never
closes its window, and whose steps all serve the pending queue: while a message waits, a chunk is
outstanding and T3-rtx runs. -/
theorem no_stranded_pending (clock : Nat → UINT64) (localPort remotePort mtu : UINT16)
    (hm : 29 ≤ mtu.toNat) (ops : List Op)
    (hp : ∀ st ∈ (sctpAssocInit clock localPort remotePort mtu).expand ops, st.Promised)
    (hs : AllServe (sctpAssocInit clock localPort remotePort mtu)
      ((sctpAssocInit clock localPort remotePort mtu).expand ops)) :
    let h := (sctpAssocInit clock localPort remotePort mtu).run ops
    h.assoc.pendingQueueCount ≠ 0 → h.assoc.outstandingCount ≠ 0 ∧ h.assoc.t3RtxExpiry ≠ 0 := by
  have hend := (sctpAssocInit_flowing hm clock localPort remotePort).moves hp hs
  rw [← Host.run_eq_moves] at hend
  intro h hwait
  have hbusy := hend.served hwait
  exact ⟨hbusy.count hend.accounting, hend.armed hbusy⟩

/-! ## A peer with a small window -/

def narrowCookie : SctpCookie := { sampleCookie with peerArwnd := 4 }

def narrowEcho : Bytes := onePacket 5000 5000 0 ⟨SCTP_CHUNK_COOKIE_ECHO, 0, narrowCookie.toBytes⟩

/-- An association whose peer takes four bytes at a time. -/
def narrowHost : Host := acceptCookie (sctpAssocInit (fun _ => 7) 5000 5000 1150) narrowCookie

theorem carries_narrowEcho :
    Carries narrowEcho 0 ⟨SCTP_CHUNK_COOKIE_ECHO, 0, narrowCookie.toBytes⟩ :=
  carries_onePacket _ _ _ (by
    rw [SctpCookie.length_toBytes]
    decide)

theorem step_narrowEcho : (sctpAssocInit (fun _ => 7) 5000 5000 1150).step
    (.handlePacket true narrowEcho) = narrowHost :=
  sctpAssocHandlePacket_cookieEcho carries_narrowEcho rfl rfl (fun _ => rfl)

theorem expand_carries {h : Host} {messageFn : Bool} {p : Bytes} {c : SctpChunk} (hp : Carries p 0 c)
    (ops : List Op) : h.expand (.handlePacket messageFn p :: ops) =
      .chunk messageFn c :: (h.step (.handlePacket messageFn p)).expand ops := by
  rw [Host.expand]
  show List.map (Step.chunk messageFn) (h.acceptedChunks p) ++ _ = _
  rw [Host.acceptedChunks_carries hp, if_neg (fun hne => hne.1 rfl)]
  rfl

/-- Two messages and a tick on the association above. -/
def narrowRun (m1 m2 : SctpMessage) : List Op :=
  [.handlePacket true narrowEcho, .send m1, .send m2, .checkTimers 5000]

theorem expand_narrowRun (h : Host) (m1 m2 : SctpMessage) : h.expand (narrowRun m1 m2) =
    [.chunk true ⟨SCTP_CHUNK_COOKIE_ECHO, 0, narrowCookie.toBytes⟩, .send m1, .send m2,
      .checkTimers 5000] :=
  expand_carries carries_narrowEcho _

theorem run_narrowRun (m1 m2 : SctpMessage) :
    (sctpAssocInit (fun _ => 7) 5000 5000 1150).run (narrowRun m1 m2) =
      sctpAssocCheckTimers (sctpAssocSend (sctpAssocSend narrowHost m1) m2) 5000 := by
  unfold narrowRun
  rw [Host.run_cons, step_narrowEcho]
  simp only [Host.run_cons, Host.run_nil, Host.step_send, Host.step_checkTimers]

theorem narrowEcho_promised :
    Step.Promised (.chunk true ⟨SCTP_CHUNK_COOKIE_ECHO, 0, narrowCookie.toBytes⟩) := by
  refine ⟨fun hc => absurd hc (by decide), fun hc => absurd hc (by decide), fun _ _ => ?_⟩
  show (SctpCookie.ofBytes narrowCookie.toBytes).peerArwnd ≠ 0
  rw [SctpCookie.ofBytes_toBytes]
  decide

/-- The first message fills the window, so the second one waits. -/
def narrowTwo (m1 m2 : SctpMessage) : Host := sctpAssocSend (sctpAssocSend narrowHost m1) m2

/-- An expiry of T3 on an association with one slot in use. -/
def expireOne (h : Host) (nowMs : UINT64) : Host :=
  restartT3 (sendForwardTsn (SlotTable.forSlotsUpTo (t3Slot nowMs) (t3Enter h) 1 (by decide))) nowMs

theorem expireOne_eq {h : Host} {nowMs : UINT64} (ht1 : h.assoc.t1InitExpiry = 0)
    (ht3 : h.assoc.t3RtxExpiry ≠ 0) (hnow : nowMs ≥ h.assoc.t3RtxExpiry)
    (hfree : ∀ i : Fin SCTP_MAX_OUTSTANDING, 1 ≤ i.val → (h.assoc.outstanding.get i).inUse = false) :
    sctpAssocCheckTimers h nowMs = expireOne h nowMs := by
  rw [sctpAssocCheckTimers_t3 ht1 ht3 hnow, t3Loop_eq_upTo (h := t3Enter h) (k := 1) (by decide) hfree]
  rfl

theorem sctpAssocSend_closed {h : Host} {m : SctpMessage} (hst : h.assoc.state = .ESTABLISHED)
    (hwin : h.assoc.flightSize ≥ h.assoc.cwnd ∨ h.assoc.flightSize ≥ h.assoc.peerArwnd) :
    (sctpAssocSend h m).assoc.outstanding = h.assoc.outstanding := by
  have hwin' : h.tick.assoc.flightSize ≥ h.tick.assoc.cwnd ∨
      h.tick.assoc.flightSize ≥ h.tick.assoc.peerArwnd := hwin
  unfold sctpAssocSend
  rw [if_neg (fun hne => hne hst), if_pos hwin']
  exact (queuePending_frame h.tick m).2.2

theorem narrowTwo_partial_free (i : Fin SCTP_MAX_OUTSTANDING) (hi : 1 ≤ i.val) :
    ((narrowTwo samplePartial sampleReliable).assoc.outstanding.get i).inUse = false := by
  unfold narrowTwo
  rw [sctpAssocSend_closed (by decide +kernel) (by decide +kernel),
    sctpAssocSend_outstanding (i := 0) (by decide +kernel) (by decide +kernel) (by decide +kernel)
      (by decide +kernel), SlotTable.get_set_ne _ _ (by rintro rfl; exact absurd hi (by decide))]
  rfl

theorem narrowRun_promised {h : Host} {m1 m2 : SctpMessage} (h1 : m1.payload ≠ [])
    (h2 : m2.payload ≠ []) : ∀ st ∈ h.expand (narrowRun m1 m2), st.Promised := by
  rw [expand_narrowRun]
  intro st hst
  simp only [List.mem_cons, List.not_mem_nil, or_false] at hst
  rcases hst with rfl | rfl | rfl | rfl
  · exact narrowEcho_promised
  · exact h1
  · exact h2
  · show (5000 : UINT64).toNat < 2 ^ 63
    decide

/-- The message in flight is abandoned when T3 expires: nothing is outstanding any more, T3 is
stopped, and the message that waits stays where it is. -/
theorem abandoned_strands_pending :
    (∀ st ∈ (sctpAssocInit (fun _ => 7) 5000 5000 1150).expand
        (narrowRun samplePartial sampleReliable), st.Promised) ∧
      ((sctpAssocInit (fun _ => 7) 5000 5000 1150).run
        (narrowRun samplePartial sampleReliable)).assoc.state = .ESTABLISHED ∧
      ((sctpAssocInit (fun _ => 7) 5000 5000 1150).run
        (narrowRun samplePartial sampleReliable)).assoc.pendingQueueCount = 1 ∧
      ((sctpAssocInit (fun _ => 7) 5000 5000 1150).run
        (narrowRun samplePartial sampleReliable)).assoc.outstandingCount = 0 ∧
      ((sctpAssocInit (fun _ => 7) 5000 5000 1150).run
        (narrowRun samplePartial sampleReliable)).assoc.t3RtxExpiry = 0 := by
  have hrun : sctpAssocCheckTimers (sctpAssocSend (sctpAssocSend narrowHost samplePartial)
      sampleReliable) 5000 = expireOne (narrowTwo samplePartial sampleReliable) 5000 :=
    expireOne_eq (by decide +kernel) (by decide +kernel) (by decide +kernel) narrowTwo_partial_free
  refine ⟨narrowRun_promised (by decide) (by decide), ?_⟩
  rw [run_narrowRun, hrun]
  decide +kernel

theorem move_narrowEcho : (sctpAssocInit (fun _ => 7) 5000 5000 1150).move
    (.chunk true ⟨SCTP_CHUNK_COOKIE_ECHO, 0, narrowCookie.toBytes⟩) = narrowHost := by
  have hrun := Host.run_eq_moves (sctpAssocInit (fun _ => 7) 5000 5000 1150)
    [.handlePacket true narrowEcho]
  rw [expand_carries carries_narrowEcho, Host.run_cons, step_narrowEcho] at hrun
  exact hrun.symm

/-- With a reliable message first, the second message waits and is not stranded by the expiry. -/
theorem no_stranded_pending_reliable :
    AllServe (sctpAssocInit (fun _ => 7) 5000 5000 1150)
        ((sctpAssocInit (fun _ => 7) 5000 5000 1150).expand
          (narrowRun sampleReliable samplePartial)) ∧
      (((sctpAssocInit (fun _ => 7) 5000 5000 1150).run
          (narrowRun sampleReliable samplePartial)).assoc.pendingQueueCount ≠ 0 →
        ((sctpAssocInit (fun _ => 7) 5000 5000 1150).run
          (narrowRun sampleReliable samplePartial)).assoc.outstandingCount ≠ 0 ∧
        ((sctpAssocInit (fun _ => 7) 5000 5000 1150).run
          (narrowRun sampleReliable samplePartial)).assoc.t3RtxExpiry ≠ 0) := by
  have hserve : AllServe (sctpAssocInit (fun _ => 7) 5000 5000 1150)
      ((sctpAssocInit (fun _ => 7) 5000 5000 1150).expand
        (narrowRun sampleReliable samplePartial)) := by
    rw [expand_narrowRun]
    intro pre st post heq
    rcases pre with _ | ⟨a, _ | ⟨b, _ | ⟨c, _ | ⟨d, pre⟩⟩⟩⟩
    · cases heq
      exact fun hc => absurd hc (by decide)
    · cases heq
      rw [Host.moves_cons, move_narrowEcho, Host.moves_nil]
      show sampleReliable.payload.length ≤ _
      decide +kernel
    · cases heq
      rw [Host.moves_cons, move_narrowEcho]
      show samplePartial.payload.length ≤ _
      decide +kernel
    · cases heq
      rw [Host.moves_cons, move_narrowEcho]
      intro _ _ _
      refine ⟨0, ?_⟩
      unfold Keeps Live
      decide +kernel
    · exact absurd (congrArg List.length heq) (by simp)
  exact ⟨hserve, no_stranded_pending (fun _ => 7) 5000 5000 1150 (by decide) _
    (narrowRun_promised (by decide) (by decide)) hserve⟩

end KvsWebrtc.Sctp
