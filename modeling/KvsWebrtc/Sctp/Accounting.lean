import KvsWebrtc.Sctp.Sender

/-!
# Sender accounting

The sender keeps three slot tables and, by hand, their counters and the number of bytes in flight.
`Accounting` says that every counter is what it counts; each action of the sender preserves it
(`SendAct.accounting`).

Principal result: `run_accounting` — the counters are exact in every state reachable from
`sctpAssocInit`, no slot in use is acknowledged or abandoned, and no decrement ever wraps.
-/

namespace KvsWebrtc.Sctp

/-- The bytes a slot has in flight. -/
def slotBytes (d : SctpOutstandingData) : Nat := if d.inUse then d.payloadLen.toNat else 0

def SctpOutstandingData.weight (d : SctpOutstandingData) : Nat := d.inUse.toNat

def SctpQueueSlot.weight (q : SctpQueueSlot) : Nat := q.inUse.toNat

/-- Every counter is what it counts, and no decrement has wrapped. -/
structure Accounting (t : SendSide) : Prop where
  mtu : 29 ≤ t.mtu.toNat
  flight : t.outstanding.Weighs slotBytes t.flightSize
  outstandingCount : t.outstanding.Weighs SctpOutstandingData.weight t.outstandingCount
  pendingCount : t.pendingQueue.Weighs SctpQueueSlot.weight t.pendingQueueCount
  sendCount : t.sendQueue.Weighs SctpQueueSlot.weight t.sendQueueCount
  live : ∀ i, (t.outstanding.get i).inUse = true → (t.outstanding.get i).acked = false ∧
    (t.outstanding.get i).abandoned = false ∧ (t.outstanding.get i).payloadLen.toNat < 65536
  underflow : t.underflow = false

/-! ## Table updates -/

theorem toNat_one : (1 : UINT32).toNat = 1 := rfl

theorem ne_zero_of_one_le {c : UINT32} (h : 1 ≤ c) : c ≠ 0 := by
  rintro rfl
  exact absurd h (by decide)

theorem slotBytes_le {t : SendSide} (ha : Accounting t) (i : Fin SCTP_MAX_OUTSTANDING) :
    slotBytes (t.outstanding.get i) ≤ 65535 := by
  unfold slotBytes
  split
  · rename_i hu
    have := (ha.live i hu).2.2
    omega
  · omega

theorem SctpOutstandingData.weight_le (d : SctpOutstandingData) : d.weight ≤ 1 := Bool.toNat_le _

theorem SctpQueueSlot.weight_le (q : SctpQueueSlot) : q.weight ≤ 1 := Bool.toNat_le _

theorem Accounting.store {t : SendSide} (ha : Accounting t) {i : Fin SCTP_MAX_OUTSTANDING}
    (hfree : (t.outstanding.get i).inUse = false) {d : SctpOutstandingData} (hu : d.inUse = true)
    (hack : d.acked = false) (hab : d.abandoned = false) (hlen : d.payloadLen.toNat < 65536) :
    Accounting { t with
      outstanding := t.outstanding.set i d
      outstandingCount := t.outstandingCount + 1
      flightSize := t.flightSize + d.payloadLen } := by
  have h1 : slotBytes d = d.payloadLen.toNat := by simp [slotBytes, hu]
  refine ⟨ha.mtu, ?_, ?_, ha.pendingCount, ha.sendCount, ?_, ha.underflow⟩
  · exact ha.flight.fill (by simp [slotBytes, hfree]) h1.symm (slotBytes_le ha) (by omega)
      (by decide)
  · exact ha.outstandingCount.fill (by simp [SctpOutstandingData.weight, hfree])
      (by simp [SctpOutstandingData.weight, hu]) (fun j => SctpOutstandingData.weight_le _)
      (SctpOutstandingData.weight_le _) (by decide)
  · intro j hj
    simp only [SlotTable.get_set] at hj ⊢
    split
    · exact ⟨hack, hab, hlen⟩
    · rename_i hne
      rw [if_neg hne] at hj
      exact ha.live j hj

theorem Accounting.release {t : SendSide} (ha : Accounting t) {i : Fin SCTP_MAX_OUTSTANDING}
    (hi : (t.outstanding.get i).inUse = true) {d : SctpOutstandingData} (hd : d.inUse = false) :
    Accounting { t with
      outstanding := t.outstanding.set i d
      flightSize := t.flightSize - (t.outstanding.get i).payloadLen
      outstandingCount := t.outstandingCount - 1
      underflow := t.underflow || t.flightSize < (t.outstanding.get i).payloadLen ||
        t.outstandingCount = 0 } := by
  obtain ⟨hflight, hle⟩ := ha.flight.empty (i := i) (a := d) (v := (t.outstanding.get i).payloadLen)
    (by simp [slotBytes, hi]) (by simp [slotBytes, hd])
  obtain ⟨hcount, hone⟩ := ha.outstandingCount.empty (i := i) (a := d) (v := 1)
    (by simp [SctpOutstandingData.weight, hi]) (by simp [SctpOutstandingData.weight, hd])
  refine ⟨ha.mtu, hflight, hcount, ha.pendingCount, ha.sendCount, ?_, ?_⟩
  · intro j hj
    simp only [SlotTable.get_set] at hj ⊢
    split
    · rename_i heq
      rw [if_pos heq, hd] at hj
      cases hj
    · rename_i hne
      rw [if_neg hne] at hj
      exact ha.live j hj
  · simp only [ha.underflow, Bool.false_or, Bool.or_eq_false_iff, decide_eq_false_iff_not]
    exact ⟨BitVec.not_lt.mpr hle, ne_zero_of_one_le hone⟩

theorem Accounting.rewrite {t : SendSide} (ha : Accounting t) {i : Fin SCTP_MAX_OUTSTANDING}
    {d : SctpOutstandingData} (hu : d.inUse = (t.outstanding.get i).inUse)
    (hack : d.acked = (t.outstanding.get i).acked)
    (hab : d.abandoned = (t.outstanding.get i).abandoned)
    (hlen : d.payloadLen = (t.outstanding.get i).payloadLen) :
    Accounting { t with outstanding := t.outstanding.set i d } := by
  refine ⟨ha.mtu, ha.flight.rewrite ?_, ha.outstandingCount.rewrite ?_, ha.pendingCount,
    ha.sendCount, ?_, ha.underflow⟩
  · simp [slotBytes, hu, hlen]
  · simp [SctpOutstandingData.weight, hu]
  · intro j hj
    simp only [SlotTable.get_set] at hj ⊢
    split
    · rename_i heq
      rw [if_pos heq, hu] at hj
      rw [hack, hab, hlen]
      exact ha.live i hj
    · rename_i hne
      rw [if_neg hne] at hj
      exact ha.live j hj

theorem weighs_enqueue {n : Nat} {t : SlotTable SctpQueueSlot n} {c : UINT32}
    (h : t.Weighs SctpQueueSlot.weight c) {i : Fin n} (hfree : (t.get i).inUse = false)
    (m : SctpMessage) (hn : n + 1 < 2 ^ 32) :
    (t.set i ⟨m, true⟩).Weighs SctpQueueSlot.weight (c + 1) :=
  h.fill (b := 1) (by simp [SctpQueueSlot.weight, hfree]) rfl (fun j => SctpQueueSlot.weight_le _)
    (SctpQueueSlot.weight_le _) (by rwa [Nat.mul_one])

theorem weighs_dequeue {n : Nat} {t : SlotTable SctpQueueSlot n} {c : UINT32}
    (h : t.Weighs SctpQueueSlot.weight c) {i : Fin n} (hi : (t.get i).inUse = true)
    (m : SctpMessage) :
    (t.set i ⟨m, false⟩).Weighs SctpQueueSlot.weight (c - 1) ∧ c ≠ 0 := by
  obtain ⟨h1, h2⟩ := h.empty (i := i) (a := ⟨m, false⟩) (v := 1)
    (by simp [SctpQueueSlot.weight, hi]) rfl
  exact ⟨h1, ne_zero_of_one_le h2⟩

theorem Accounting.enqueuePending {t : SendSide} (ha : Accounting t)
    {i : Fin SCTP_MAX_PENDING_SENDS} (hfree : (t.pendingQueue.get i).inUse = false)
    (m : SctpMessage) :
    Accounting { t with
      pendingQueue := t.pendingQueue.set i ⟨m, true⟩
      pendingQueueCount := t.pendingQueueCount + 1 } :=
  ⟨ha.mtu, ha.flight, ha.outstandingCount, weighs_enqueue ha.pendingCount hfree m (by decide),
    ha.sendCount, ha.live, ha.underflow⟩

theorem Accounting.enqueueSend {t : SendSide} (ha : Accounting t)
    {i : Fin SCTP_MAX_QUEUED_MESSAGES} (hfree : (t.sendQueue.get i).inUse = false)
    (m : SctpMessage) :
    Accounting { t with
      sendQueue := t.sendQueue.set i ⟨m, true⟩
      sendQueueCount := t.sendQueueCount + 1 } :=
  ⟨ha.mtu, ha.flight, ha.outstandingCount, ha.pendingCount,
    weighs_enqueue ha.sendCount hfree m (by decide), ha.live, ha.underflow⟩

theorem Accounting.dequeuePending {t : SendSide} (ha : Accounting t)
    {i : Fin SCTP_MAX_PENDING_SENDS} (hi : (t.pendingQueue.get i).inUse = true) (m : SctpMessage) :
    Accounting { t with
      pendingQueue := t.pendingQueue.set i ⟨m, false⟩
      pendingQueueCount := t.pendingQueueCount - 1
      underflow := t.underflow || t.pendingQueueCount = 0 } := by
  obtain ⟨h1, h2⟩ := weighs_dequeue ha.pendingCount hi m
  refine ⟨ha.mtu, ha.flight, ha.outstandingCount, h1, ha.sendCount, ha.live, ?_⟩
  simp only [ha.underflow, Bool.false_or, decide_eq_false_iff_not]
  exact h2

theorem Accounting.dequeueSend {t : SendSide} (ha : Accounting t)
    {i : Fin SCTP_MAX_QUEUED_MESSAGES} (hi : (t.sendQueue.get i).inUse = true) (m : SctpMessage) :
    Accounting { t with
      sendQueue := t.sendQueue.set i ⟨m, false⟩
      sendQueueCount := t.sendQueueCount - 1
      underflow := t.underflow || t.sendQueueCount = 0 } := by
  obtain ⟨h1, h2⟩ := weighs_dequeue ha.sendCount hi m
  refine ⟨ha.mtu, ha.flight, ha.outstandingCount, ha.pendingCount, h1, ha.live, ?_⟩
  simp only [ha.underflow, Bool.false_or, decide_eq_false_iff_not]
  exact h2

/-! ## Runs -/

theorem SendAct.accounting {S : SctpMessage → Prop} {A : UINT32 → Prop} {s s' : SendSide}
    (hact : SendAct S A s s')
    (ha : Accounting s) : Accounting s' := by
  cases hact with
  | control p o ho =>
    exact ⟨ha.mtu, ha.flight, ha.outstandingCount, ha.pendingCount, ha.sendCount, ha.live,
      ha.underflow⟩
  | burnTsn =>
    exact ⟨ha.mtu, ha.flight, ha.outstandingCount, ha.pendingCount, ha.sendCount, ha.live,
      ha.underflow⟩
  | transmit i sl nowMs vtag p hm hfree hno hcut hprev hp =>
    have hlen := hcut.length_bytes_lt
    have h' := ha.store hfree (d := sentChunk sl.msg s.nextTsn sl.ssn sl.bytes nowMs) rfl rfl rfl
      (by
        simp only [sentChunk, BitVec.toNat_ofNat]
        omega)
    exact ⟨h'.mtu, h'.flight, h'.outstandingCount, h'.pendingCount, h'.sendCount, h'.live,
      h'.underflow⟩
  | count i hi => exact ha.rewrite rfl rfl rfl rfl
  | retransmit i payload vtag p hi hpay hp =>
    exact ⟨ha.mtu, ha.flight, ha.outstandingCount, ha.pendingCount, ha.sendCount, ha.live,
      ha.underflow⟩
  | release i d point hi hd hpoint =>
    have h' := ha.release hi hd
    exact ⟨h'.mtu, h'.flight, h'.outstandingCount, h'.pendingCount, h'.sendCount, h'.live,
      h'.underflow⟩
  | enqueuePending i m hm hfree => exact ha.enqueuePending hfree m
  | dequeuePending i m hi => exact ha.dequeuePending hi m
  | enqueueSend i m hm hfree => exact ha.enqueueSend hfree m
  | dequeueSend i m hi => exact ha.dequeueSend hi m

theorem SendActs.accounting {S : SctpMessage → Prop} {A : UINT32 → Prop} {s s' : SendSide}
    (hacts : SendActs S A s s')
    (ha : Accounting s) : Accounting s' := by
  induction hacts with
  | refl => exact ha
  | tail _ hact ih => exact hact.accounting ih

theorem sctpAssocInit_accounting {mtu : UINT16} (hm : 29 ≤ mtu.toNat) (clock : Nat → UINT64)
    (localPort remotePort : UINT16) :
    Accounting (sctpAssocInit clock localPort remotePort mtu).sendSide :=
  ⟨hm, .replicate rfl, .replicate rfl, .replicate rfl, .replicate rfl, fun _ h => (nomatch h), rfl⟩

theorem run_accounting {mtu : UINT16} (hm : 29 ≤ mtu.toNat) (clock : Nat → UINT64)
    (localPort remotePort : UINT16) (ops : List Op) :
    Accounting ((sctpAssocInit clock localPort remotePort mtu).run ops).sendSide :=
  SendActs.accounting (S := fun _ => True)
    (run_acts ops (fun _ _ => trivial) (sctpAssocInit_ready hm clock localPort remotePort))
    (sctpAssocInit_accounting hm clock localPort remotePort)

/-- The number of slots in use. -/
def slotsInUse {α : Type} {n : Nat} (used : α → Bool) (t : SlotTable α n) : Nat :=
  (Finset.univ.filter fun i => used (t.get i) = true).card

theorem Weighs.slotsInUse {α : Type} {n w : Nat} {used : α → Bool} {t : SlotTable α n}
    {c : BitVec w} (h : t.Weighs (fun a => (used a).toNat) c) : c.toNat = slotsInUse used t := by
  unfold Sctp.slotsInUse
  rw [h, Finset.card_filter]
  refine Finset.sum_congr rfl (fun i _ => ?_)
  show (used (t.get i)).toNat = _
  cases used (t.get i) <;> rfl

end KvsWebrtc.Sctp
