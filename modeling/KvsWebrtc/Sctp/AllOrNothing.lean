import KvsWebrtc.Sctp.Control

/-!
# A message is sent as a whole or not at all

`sctpAssocSend` looks for a slot before it takes a TSN when the message fits into one chunk.  The
fragmentation loop takes the TSN first and leaves in the middle of the message when no slot is free.

Principal result: `send_all_or_nothing_iff` — a message is sent as a whole or not at all exactly when
the window is closed, or it fits into one chunk (and that chunk into its length field), or there are
slots for all its fragments.
-/

namespace KvsWebrtc.Sctp

/-! ## The two outcomes -/

/-- Nothing was transmitted and no number was taken. -/
structure SentNothing (h h' : Host) : Prop where
  outbound : h'.outbound = h.outbound
  nextTsn : h'.assoc.nextTsn = h.assoc.nextTsn
  nextSsn : h'.assoc.nextSsn = h.assoc.nextSsn
  outstanding : h'.assoc.outstanding = h.assoc.outstanding
  flightSize : h'.assoc.flightSize = h.assoc.flightSize

/-- The DATA chunk for fragment `k` of `n`. -/
def fragmentChunk (h : Host) (m : SctpMessage) (ssn : UINT16) (k n : Nat) (fragment : Bytes) :
    SctpChunk where
  type := SCTP_CHUNK_DATA
  flags := fragFlags (k = 0) (k + 1 = n) m.unordered
  value := dataValue (h.assoc.nextTsn + BitVec.ofNat 32 k) m.streamId ssn m.ppid fragment

/-- The message went out in the fragments `frags`, one packet each, under consecutive TSNs, and each
of them is recorded in a slot that was free. -/
structure SentWhole (h h' : Host) (m : SctpMessage) (frags : List Bytes) : Prop where
  nonempty : frags ≠ []
  flatten : frags.flatten = m.payload
  packets : ∃ packets, h'.outbound = h.outbound ++ packets ∧ packets.length = frags.length ∧
    ∀ k f p, frags[k]? = some f → packets[k]? = some p →
      Carries p.bytes h.assoc.peerVerificationTag
        (fragmentChunk h m (assignedSsn h m) k frags.length f)
  nextTsn : h'.assoc.nextTsn = h.assoc.nextTsn + BitVec.ofNat 32 frags.length
  recorded : ∀ k f, frags[k]? = some f → ∃ i, (h.assoc.outstanding.get i).inUse = false ∧
    h'.assoc.outstanding.get i = sentChunk m (h.assoc.nextTsn + BitVec.ofNat 32 k)
      (assignedSsn h m) f h.SCTP_NOW_MS

def AllOrNothing (h h' : Host) (m : SctpMessage) : Prop :=
  SentNothing h h' ∨ ∃ frags, SentWhole h h' m frags

/-! ## Free slots -/

def freeSlots (h : Host) : Nat := h.assoc.outstanding.total fun d => if d.inUse then 0 else 1

/-- The window is closed. -/
def Congested (h : Host) : Prop :=
  h.assoc.flightSize ≥ h.assoc.cwnd ∨ h.assoc.flightSize ≥ h.assoc.peerArwnd

/-- The condition under which a message is sent as a whole or not at all. -/
def SendFits (h : Host) (m : SctpMessage) : Prop :=
  Congested h ∨
    (m.payload.length ≤ (maxDataPayload h).toNat ∧ (freeSlots h = 0 ∨ m.payload.length < 65520)) ∨
    ((maxDataPayload h).toNat < m.payload.length ∧ 28 < h.assoc.mtu.toNat ∧
      m.payload.length ≤ freeSlots h * (maxDataPayload h).toNat)

section

variable {h h' : Host} {m : SctpMessage}

theorem freeSlots_le (h : Host) : freeSlots h ≤ SCTP_MAX_OUTSTANDING := by
  have hle : freeSlots h ≤ SCTP_MAX_OUTSTANDING * 1 :=
    SlotTable.total_le fun i => by split <;> omega
  omega

theorem freeSlots_of_none (hf : h.assoc.outstanding.firstFree (·.inUse) = none) :
    freeSlots h = 0 := by
  have hle : freeSlots h ≤ SCTP_MAX_OUTSTANDING * 0 := SlotTable.total_le fun i => by
    rw [if_pos (SlotTable.firstFree_eq_none hf i)]
  omega

theorem freeSlots_fill {i : Fin SCTP_MAX_OUTSTANDING} {d : SctpOutstandingData}
    (hf : h.assoc.outstanding.firstFree (·.inUse) = some i) (hd : d.inUse = true)
    (heq : h'.assoc.outstanding = h.assoc.outstanding.set i d) : freeSlots h' + 1 = freeSlots h := by
  have hset := SlotTable.total_set (fun d : SctpOutstandingData => if d.inUse then 0 else 1)
    h.assoc.outstanding i d
  simp only [(SlotTable.firstFree_eq_some hf).1, hd] at hset
  unfold freeSlots
  rw [heq]
  simpa using hset

/-! ## The fragmentation loop -/

/-- What the loop has sent when it reaches the end of the message: `rest` was left to send. -/
structure LoopSent (h h' : Host) (m : SctpMessage) (ssn : UINT16) (nowMs : UINT64) (isFirst : Bool)
    (rest : Bytes) (frags : List Bytes) : Prop where
  flatten : frags.flatten = rest
  packets : ∃ packets, h'.outbound = h.outbound ++ packets ∧ packets.length = frags.length ∧
    ∀ k f p, frags[k]? = some f → packets[k]? = some p → f.length < 65520 →
      Carries p.bytes h.assoc.peerVerificationTag ⟨SCTP_CHUNK_DATA,
        fragFlags (isFirst && decide (k = 0)) (k + 1 = frags.length) m.unordered,
        dataValue (h.assoc.nextTsn + BitVec.ofNat 32 k) m.streamId ssn m.ppid f⟩
  nextTsn : h'.assoc.nextTsn = h.assoc.nextTsn + BitVec.ofNat 32 frags.length
  recorded : ∀ k f, frags[k]? = some f → ∃ i, (h.assoc.outstanding.get i).inUse = false ∧
    h'.assoc.outstanding.get i = sentChunk m (h.assoc.nextTsn + BitVec.ofNat 32 k) ssn f nowMs
  kept : ∀ i, (h.assoc.outstanding.get i).inUse = true →
    h'.assoc.outstanding.get i = h.assoc.outstanding.get i
  short : ∀ f ∈ frags, f.length ≤ (maxDataPayload h).toNat
  count : frags.length * (maxDataPayload h).toNat < rest.length + (maxDataPayload h).toNat

theorem tsn_succ (t : UINT32) (k : Nat) :
    t + 1 + BitVec.ofNat 32 k = t + BitVec.ofNat 32 (k + 1) := by
  rw [BitVec.ofNat_add, BitVec.add_assoc, BitVec.add_comm 1]
  rfl

theorem startT3_fields (h : Host) (nowMs : UINT64) :
    (startT3 h nowMs).outbound = h.outbound ∧ (startT3 h nowMs).assoc.nextTsn = h.assoc.nextTsn ∧
      (startT3 h nowMs).assoc.outstanding = h.assoc.outstanding := by
  unfold startT3
  split <;> exact ⟨rfl, rfl, rfl⟩

theorem LoopSent.nil (h : Host) (m : SctpMessage) (ssn : UINT16) (nowMs : UINT64) (isFirst : Bool)
    (hmax : 0 < (maxDataPayload h).toNat) :
    LoopSent h (startT3 h nowMs) m ssn nowMs isFirst [] [] := by
  obtain ⟨hout, htsn, htable⟩ := startT3_fields h nowMs
  refine ⟨rfl, ⟨[], by rw [hout, List.append_nil], rfl, fun k f p hf => (by cases hf)⟩, ?_,
    fun k f hf => (by cases hf), fun i _ => (by rw [htable]), fun f hf => (by cases hf),
    by simpa using hmax⟩
  rw [htsn]
  simp

theorem sendFragment_packet (h : Host) (i : Fin SCTP_MAX_OUTSTANDING) (m : SctpMessage)
    (ssn : UINT16) (nowMs : UINT64) (offset : Nat) (isFirst : Bool) :
    ∃ p : OutPacket, (sendFragment h i m ssn nowMs offset isFirst).outbound = h.outbound ++ [p] ∧
      (((m.payload.drop offset).take (fragmentLen h m offset)).length < 65520 →
        Carries p.bytes h.assoc.peerVerificationTag ⟨SCTP_CHUNK_DATA,
          fragFlags isFirst (m.payload.length - offset - fragmentLen h m offset = 0) m.unordered,
          dataValue h.assoc.nextTsn m.streamId ssn m.ppid
            ((m.payload.drop offset).take (fragmentLen h m offset))⟩) := by
  obtain ⟨p, hside, hcarries⟩ := sendChunk_emits
    (storeOutstanding (takeTsn h) i m h.assoc.nextTsn ssn
      ((m.payload.drop offset).take (fragmentLen h m offset)) nowMs) h.assoc.peerVerificationTag
    (writeDataChunk (fragFlags isFirst
      (m.payload.length - offset - fragmentLen h m offset = 0) m.unordered) h.assoc.nextTsn m.streamId
      ssn m.ppid ((m.payload.drop offset).take (fragmentLen h m offset)))
    (.transmission ⟨m, h.tsnsUsed, ssn, offset, fragmentLen h m offset⟩)
  refine ⟨_, congrArg SendSide.outbound hside, fun hlen => hcarries _ ?_⟩
  exact writeDataChunk_is _ _ _ _ _ hlen

theorem fragmentLen_eq_min (h : Host) (m : SctpMessage) (offset : Nat) :
    fragmentLen h m offset = min (maxDataPayload h).toNat (m.payload.length - offset) := by
  unfold fragmentLen
  simp only
  split <;> omega

theorem LoopSent.cons {i : Fin SCTP_MAX_OUTSTANDING} {ssn : UINT16} {nowMs : UINT64} {offset : Nat}
    {isFirst : Bool} {frags : List Bytes}
    (hfree : (h.assoc.outstanding.get i).inUse = false)
    (hrem : 0 < m.payload.length - offset)
    (hs : LoopSent (sendFragment h i m ssn nowMs offset isFirst) h' m ssn nowMs false
      (m.payload.drop (offset + fragmentLen h m offset)) frags) :
    LoopSent h h' m ssn nowMs isFirst (m.payload.drop offset)
      ((m.payload.drop offset).take (fragmentLen h m offset) :: frags) := by
  obtain ⟨p, hout, hcarries⟩ := sendFragment_packet h i m ssn nowMs offset isFirst
  have htable : (sendFragment h i m ssn nowMs offset isFirst).assoc.outstanding =
      h.assoc.outstanding.set i (sentChunk m h.assoc.nextTsn ssn
        ((m.payload.drop offset).take (fragmentLen h m offset)) nowMs) := rfl
  have htsn : (sendFragment h i m ssn nowMs offset isFirst).assoc.nextTsn = h.assoc.nextTsn + 1 := rfl
  have htag : (sendFragment h i m ssn nowMs offset isFirst).assoc.peerVerificationTag =
      h.assoc.peerVerificationTag := rfl
  have hmaxEq : maxDataPayload (sendFragment h i m ssn nowMs offset isFirst) = maxDataPayload h := rfl
  generalize sendFragment h i m ssn nowMs offset isFirst = g at hs hout htable htsn htag hmaxEq
  have hlenDef := fragmentLen_eq_min h m offset
  have hcount := hs.count
  rw [hmaxEq, List.length_drop] at hcount
  -- the fragment is the last one exactly when nothing is left after it
  have hlast : (m.payload.length - offset - fragmentLen h m offset = 0) ↔ frags.length = 0 := by
    constructor
    · intro h0
      rcases Nat.eq_zero_or_pos frags.length with hz | hpos
      · exact hz
      · have := Nat.le_mul_of_pos_left (maxDataPayload h).toNat hpos
        omega
    · intro h0
      have hflat := congrArg List.length hs.flatten
      rw [List.length_eq_zero_iff.mp h0, List.length_drop] at hflat
      simp at hflat
      omega
  obtain ⟨packets, hpackets, hplen, hpc⟩ := hs.packets
  refine ⟨?_, ⟨p :: packets, ?_, by simp [hplen], fun k f q hf hq hlen => ?_⟩, ?_, fun k f hf => ?_,
    fun j hj => ?_, fun f hf => ?_, ?_⟩
  · rw [List.flatten_cons, hs.flatten, ← List.drop_drop, List.take_append_drop]
  · rw [hpackets, hout, List.append_assoc]
    rfl
  · cases k with
    | zero =>
      cases hf
      cases hq
      have hend : decide (0 + 1 = ((m.payload.drop offset).take (fragmentLen h m offset) ::
          frags).length) = decide (m.payload.length - offset - fragmentLen h m offset = 0) := by
        rw [decide_eq_decide, hlast, List.length_cons]
        omega
      have hfirst := hcarries hlen
      rw [← hend] at hfirst
      simpa using hfirst
    | succ k =>
      have hlater := hpc k f q hf hq hlen
      have hend : decide (k + 1 + 1 = ((m.payload.drop offset).take (fragmentLen h m offset) ::
          frags).length) = decide (k + 1 = frags.length) := by
        rw [decide_eq_decide, List.length_cons]
        omega
      rw [htag, htsn, tsn_succ] at hlater
      rw [hend]
      simpa using hlater
  · rw [hs.nextTsn, htsn, tsn_succ, List.length_cons]
  · cases k with
    | zero =>
      cases hf
      have huse : (g.assoc.outstanding.get i).inUse = true := by
        rw [htable, SlotTable.get_set_self]
        rfl
      refine ⟨i, hfree, ?_⟩
      rw [hs.kept i huse, htable, SlotTable.get_set_self]
      simp
    | succ k =>
      obtain ⟨j, hj, hget⟩ := hs.recorded k f hf
      have hij : j ≠ i := by
        rintro rfl
        rw [htable, SlotTable.get_set_self] at hj
        cases hj
      rw [htable, SlotTable.get_set_ne _ _ hij] at hj
      rw [htsn, tsn_succ] at hget
      exact ⟨j, hj, hget⟩
  · have hij : j ≠ i := by
      rintro rfl
      rw [hfree] at hj
      cases hj
    have hsame : g.assoc.outstanding.get j = h.assoc.outstanding.get j := by
      rw [htable, SlotTable.get_set_ne _ _ hij]
    rw [hs.kept j (by rw [hsame]; exact hj), hsame]
  · rcases List.mem_cons.mp hf with rfl | hf
    · rw [List.length_take]
      omega
    · rw [← hmaxEq]
      exact hs.short f hf
  · rw [List.length_cons, List.length_drop, Nat.succ_mul]
    rcases Nat.lt_or_ge (maxDataPayload h).toNat (m.payload.length - offset) with hlong | hshort
    · omega
    · have h0 : frags.length = 0 := hlast.mp (by omega)
      rw [h0]
      omega

theorem maxDataPayload_sendFragment (h : Host) (i : Fin SCTP_MAX_OUTSTANDING) (m : SctpMessage)
    (ssn : UINT16) (nowMs : UINT64) (offset : Nat) (isFirst : Bool) :
    maxDataPayload (sendFragment h i m ssn nowMs offset isFirst) = maxDataPayload h := rfl

/-- **Slots for all fragments**: the loop reaches the end of the message. -/
theorem sendFragments_whole (ssn : UINT16) (nowMs : UINT64) (fuel : Nat) (offset : Nat)
    (isFirst : Bool) (hfuel : freeSlots h < fuel) (hmax : 0 < (maxDataPayload h).toNat)
    (hfits : m.payload.length - offset ≤ freeSlots h * (maxDataPayload h).toNat) :
    ∃ frags, LoopSent h (sendFragments fuel h m ssn nowMs offset isFirst) m ssn nowMs isFirst
      (m.payload.drop offset) frags := by
  induction fuel generalizing h offset isFirst with
  | zero => exact absurd hfuel (Nat.not_lt_zero _)
  | succ fuel ih =>
    unfold sendFragments
    by_cases hrem : m.payload.length - offset = 0
    · rw [if_pos hrem, List.drop_of_length_le (by omega)]
      exact ⟨[], .nil h m ssn nowMs isFirst hmax⟩
    · rw [if_neg hrem]
      cases hfree : (takeTsn h).assoc.outstanding.firstFree (·.inUse) with
      | none =>
        have h0 : freeSlots h = 0 := freeSlots_of_none hfree
        rw [h0] at hfits
        omega
      | some i =>
        have hfill : freeSlots (sendFragment h i m ssn nowMs offset isFirst) + 1 = freeSlots h :=
          freeSlots_fill hfree rfl rfl
        have hlen := fragmentLen_eq_min h m offset
        rw [← hfill, Nat.succ_mul] at hfits
        obtain ⟨frags, hs⟩ := ih (h := sendFragment h i m ssn nowMs offset isFirst)
          (offset + fragmentLen h m offset) false (by omega)
          (by rw [maxDataPayload_sendFragment]; exact hmax)
          (by rw [maxDataPayload_sendFragment]; omega)
        exact ⟨_, hs.cons (SlotTable.firstFree_eq_some hfree).1 (by omega)⟩

/-- **Too few slots**: the loop fills them all, takes one TSN more and leaves. -/
theorem sendFragments_stuck (ssn : UINT16) (nowMs : UINT64) (fuel : Nat) (offset : Nat)
    (isFirst : Bool) (hfuel : freeSlots h < fuel)
    (hlong : freeSlots h * (maxDataPayload h).toNat < m.payload.length - offset) :
    (sendFragments fuel h m ssn nowMs offset isFirst).outbound.length =
        h.outbound.length + freeSlots h ∧
      (sendFragments fuel h m ssn nowMs offset isFirst).assoc.nextTsn =
        h.assoc.nextTsn + BitVec.ofNat 32 (freeSlots h + 1) := by
  induction fuel generalizing h offset isFirst with
  | zero => exact absurd hfuel (Nat.not_lt_zero _)
  | succ fuel ih =>
    unfold sendFragments
    rw [if_neg (by omega)]
    cases hfree : (takeTsn h).assoc.outstanding.firstFree (·.inUse) with
    | none =>
      have h0 : freeSlots h = 0 := freeSlots_of_none hfree
      rw [h0]
      exact ⟨rfl, rfl⟩
    | some i =>
      have hfill : freeSlots (sendFragment h i m ssn nowMs offset isFirst) + 1 = freeSlots h :=
        freeSlots_fill hfree rfl rfl
      have hlen := fragmentLen_eq_min h m offset
      obtain ⟨p, hout, -⟩ := sendFragment_packet h i m ssn nowMs offset isFirst
      rw [← hfill, Nat.succ_mul] at hlong
      obtain ⟨hlength, htsn⟩ := ih (h := sendFragment h i m ssn nowMs offset isFirst)
        (offset + fragmentLen h m offset) false (by omega)
        (by rw [maxDataPayload_sendFragment]; omega)
      rw [hlength, htsn, hout, ← hfill]
      refine ⟨by simp; omega, ?_⟩
      exact tsn_succ h.assoc.nextTsn _

/-! ## The branches of `sctpAssocSend` -/

theorem sctpParseChunksFrom_fits (fuel : Nat) (p : Bytes) :
    ∀ c ∈ sctpParseChunksFrom fuel p, c.value.length + 4 < 65536 := by
  induction fuel generalizing p with
  | zero =>
    intro c hc
    cases hc
  | succ fuel ih =>
    intro c hc
    unfold sctpParseChunksFrom at hc
    split at hc
    · cases hc
    · simp only at hc
      split at hc
      · cases hc
      · rename_i hlen
        rw [not_or] at hlen
        rcases List.mem_cons.mp hc with rfl | hc
        · have hlt := (getUnalignedInt16BigEndian p 2).isLt
          simp only [List.length_take, SCTP_CHUNK_HEADER_SIZE] at hlen ⊢
          omega
        · exact ih _ c hc

theorem Carries.fits {p : Bytes} {vtag : UINT32} {c : SctpChunk} (hp : Carries p vtag c) :
    c.value.length + 4 < 65536 := by
  have hc := hp.chunks
  unfold sctpParseChunks at hc
  refine sctpParseChunksFrom_fits p.length (p.drop SCTP_COMMON_HEADER_SIZE) c ?_
  rw [hc]
  exact List.mem_singleton_self c

theorem SentWhole.fits {frags : List Bytes} (hw : SentWhole h h' m frags) :
    ∀ f ∈ frags, f.length < 65520 := by
  intro f hf
  obtain ⟨k, hk, rfl⟩ := List.mem_iff_getElem.mp hf
  obtain ⟨packets, -, hlen, hc⟩ := hw.packets
  have hcarries := hc k frags[k] packets[k] (List.getElem?_eq_getElem hk)
    (List.getElem?_eq_getElem (by omega))
  have hfits := hcarries.fits
  simp only [fragmentChunk, dataValue, List.length_append, length_put32, length_put16] at hfits
  omega

theorem SentWhole.length {frags : List Bytes} (hw : SentWhole h h' m frags) :
    h'.outbound.length = h.outbound.length + frags.length := by
  obtain ⟨packets, hout, hlen, -⟩ := hw.packets
  rw [hout, List.length_append, hlen]

theorem SentNothing.queuePending (hn : SentNothing h h') (m : SctpMessage) :
    SentNothing h (queuePending h' m) := by
  unfold Sctp.queuePending
  split
  · split
    · exact hn
    · exact ⟨hn.outbound, hn.nextTsn, hn.nextSsn, hn.outstanding, hn.flightSize⟩
  · exact hn

theorem addNextSsn_undo (h : Host) (m : SctpMessage) :
    SentNothing h (addNextSsn (addNextSsn h m 1) m (-1)) := by
  unfold addNextSsn
  split
  · refine ⟨rfl, rfl, ?_, rfl, rfl⟩
    show SlotTable.set (SlotTable.set _ _ _) _ (SlotTable.get (SlotTable.set _ _ _) _ + _) = _
    rw [SlotTable.set_set, SlotTable.get_set_self]
    funext j
    show SlotTable.get (SlotTable.set _ _ _) j = _
    rw [SlotTable.get_set]
    split
    · rename_i hj
      rw [BitVec.add_assoc, hj]
      exact BitVec.add_zero _
    · rfl
  · exact ⟨rfl, rfl, rfl, rfl, rfl⟩

/-- `h1` differs from `h` in the clock and in the SSNs only. -/
structure SameSlots (h h1 : Host) : Prop where
  outbound : h1.outbound = h.outbound
  nextTsn : h1.assoc.nextTsn = h.assoc.nextTsn
  outstanding : h1.assoc.outstanding = h.assoc.outstanding
  vtag : h1.assoc.peerVerificationTag = h.assoc.peerVerificationTag
  mtu : h1.assoc.mtu = h.assoc.mtu

theorem SameSlots.assigned (h : Host) (m : SctpMessage) : SameSlots h (addNextSsn h.tick m 1) := by
  unfold addNextSsn
  split <;> exact ⟨rfl, rfl, rfl, rfl, rfl⟩

theorem SameSlots.freeSlots {h1 : Host} (hs : SameSlots h h1) : freeSlots h1 = freeSlots h := by
  unfold Sctp.freeSlots
  rw [hs.outstanding]

theorem SameSlots.maxDataPayload {h1 : Host} (hs : SameSlots h h1) :
    maxDataPayload h1 = maxDataPayload h := by
  unfold Sctp.maxDataPayload
  rw [hs.mtu]

/-- **One chunk**: the message is out exactly when its length fits into the chunk header. -/
theorem sendWhole_allOrNothing_iff {h1 : Host} (hs : SameSlots h h1) {i : Fin SCTP_MAX_OUTSTANDING}
    (hfree : (h.assoc.outstanding.get i).inUse = false) :
    AllOrNothing h (sendWhole h1 i m (assignedSsn h m) h.SCTP_NOW_MS) m ↔
      m.payload.length < 65520 := by
  obtain ⟨p, hside, hcarries⟩ := sendChunk_emits
    (storeOutstanding (takeTsn h1) i m h1.assoc.nextTsn (assignedSsn h m) m.payload h.SCTP_NOW_MS)
    h1.assoc.peerVerificationTag
    (sctpWriteDataChunk h1.assoc.nextTsn m.streamId (assignedSsn h m) m.ppid m.unordered m.payload)
    (.transmission ⟨m, h1.tsnsUsed, assignedSsn h m, 0, m.payload.length⟩)
  have hend : (sendWhole h1 i m (assignedSsn h m) h.SCTP_NOW_MS).sendSide = _ :=
    (startT3_sendSide _ _).trans hside
  have hout : (sendWhole h1 i m (assignedSsn h m) h.SCTP_NOW_MS).outbound = h.outbound ++
      [⟨p, .transmission ⟨m, h1.tsnsUsed, assignedSsn h m, 0, m.payload.length⟩⟩] := by
    rw [← hs.outbound]
    exact congrArg SendSide.outbound hend
  have htsn : (sendWhole h1 i m (assignedSsn h m) h.SCTP_NOW_MS).assoc.nextTsn =
      h.assoc.nextTsn + 1 := by
    rw [← hs.nextTsn]
    exact congrArg SendSide.nextTsn hend
  have htable : (sendWhole h1 i m (assignedSsn h m) h.SCTP_NOW_MS).assoc.outstanding =
      h.assoc.outstanding.set i
        (sentChunk m h.assoc.nextTsn (assignedSsn h m) m.payload h.SCTP_NOW_MS) := by
    rw [← hs.outstanding, ← hs.nextTsn]
    exact congrArg SendSide.outstanding hend
  rw [hs.vtag, hs.nextTsn] at hcarries
  generalize sendWhole h1 i m (assignedSsn h m) h.SCTP_NOW_MS = h' at hout htsn htable
  constructor
  · rintro (hn | ⟨frags, hw⟩)
    · have hlen := congrArg List.length (hout.symm.trans hn.outbound)
      simp at hlen
    · have hone : frags.length = 1 := by
        have hlen := hw.length
        rw [hout, List.length_append, List.length_singleton] at hlen
        omega
      obtain ⟨f, rfl⟩ := List.length_eq_one_iff.mp hone
      have hflat := hw.flatten
      rw [List.flatten_cons, List.flatten_nil, List.append_nil] at hflat
      rw [← hflat]
      exact hw.fits f (List.mem_singleton_self f)
  · intro hlen
    refine .inr ⟨[m.payload], by simp, by simp, ⟨_, hout, rfl, fun k f q hf hq => ?_⟩, by simpa using htsn,
      fun k f hf => ?_⟩
    · have hk : k = 0 := by
        have := (List.getElem?_eq_some_iff.mp hf).1
        simp at this
        omega
      subst hk
      cases hf
      cases hq
      have hc := hcarries _ (writeDataChunk_is (wholeFlags m.unordered) h.assoc.nextTsn m.streamId
        (assignedSsn h m) m.ppid hlen)
      simpa [fragmentChunk, wholeFlags, fragFlags] using hc
    · have hk : k = 0 := by
        have := (List.getElem?_eq_some_iff.mp hf).1
        simp at this
        omega
      subst hk
      cases hf
      exact ⟨i, hfree, by rw [htable, SlotTable.get_set_self]; simp⟩

/-- A loop that got stuck sent something else than the whole message: it took one TSN too many. -/
theorem not_allOrNothing_of_stuck {n : Nat} (hn : n ≤ SCTP_MAX_OUTSTANDING)
    (hout : h'.outbound.length = h.outbound.length + n)
    (htsn : h'.assoc.nextTsn = h.assoc.nextTsn + BitVec.ofNat 32 (n + 1)) :
    ¬ AllOrNothing h h' m := by
  have hcancel : ∀ a b : Nat, a ≤ SCTP_MAX_OUTSTANDING + 1 → b ≤ SCTP_MAX_OUTSTANDING + 1 →
      h.assoc.nextTsn + BitVec.ofNat 32 a = h.assoc.nextTsn + BitVec.ofNat 32 b → a = b := by
    intro a b ha hb heq
    have hnat := congrArg BitVec.toNat ((BitVec.add_right_inj _).mp heq)
    simp only [BitVec.toNat_ofNat, SCTP_MAX_OUTSTANDING] at hnat ha hb
    omega
  rintro (hnone | ⟨frags, hw⟩)
  · have h0 : h.assoc.nextTsn + BitVec.ofNat 32 (n + 1) = h.assoc.nextTsn + BitVec.ofNat 32 0 := by
      rw [← htsn, hnone.nextTsn]
      simp
    exact absurd (hcancel _ _ (by omega) (by omega) h0) (by omega)
  · have hlen := hw.length
    have hcount : frags.length = n := by omega
    have heq := htsn.symm.trans hw.nextTsn
    rw [hcount] at heq
    exact absurd (hcancel _ _ (by omega) (by omega) heq) (by omega)

theorem maxDataPayload_of_small (hm : h.assoc.mtu.toNat < 28) :
    2 ^ 32 - 28 ≤ (maxDataPayload h).toNat := by
  unfold maxDataPayload
  simp only [SCTP_COMMON_HEADER_SIZE, SCTP_DATA_HEADER_SIZE, BitVec.toNat_sub,
    BitVec.toNat_setWidth, BitVec.toNat_ofNat]
  omega

theorem length_flatten_le {frags : List Bytes} {b : Nat} (hf : ∀ f ∈ frags, f.length ≤ b) :
    frags.flatten.length ≤ frags.length * b := by
  induction frags with
  | nil => simp
  | cons f frags ih =>
    have h1 := hf f List.mem_cons_self
    have h2 := ih fun g hg => hf g (List.mem_cons_of_mem f hg)
    rw [List.flatten_cons, List.length_append, List.length_cons, Nat.succ_mul]
    omega

theorem LoopSent.whole {h1 : Host} (hs : SameSlots h h1) {frags : List Bytes}
    (hl : LoopSent h1 h' m (assignedSsn h m) h.SCTP_NOW_MS true m.payload frags)
    (hne : frags ≠ []) (hfits : ∀ f ∈ frags, f.length < 65520) : SentWhole h h' m frags := by
  obtain ⟨packets, hout, hlen, hc⟩ := hl.packets
  refine ⟨hne, hl.flatten, ⟨packets, by rw [hout, hs.outbound], hlen, fun k f p hf hp => ?_⟩,
    by rw [hl.nextTsn, hs.nextTsn], fun k f hf => ?_⟩
  · have hcarries := hc k f p hf hp (hfits f (List.mem_of_getElem? hf))
    rw [hs.vtag, hs.nextTsn, Bool.true_and] at hcarries
    exact hcarries
  · obtain ⟨j, hj, hget⟩ := hl.recorded k f hf
    rw [hs.outstanding] at hj
    rw [hs.nextTsn] at hget
    exact ⟨j, hj, hget⟩

/-- **Fragments**: the message is out exactly when there are slots for all of them. -/
theorem sendFragments_allOrNothing_iff {h1 : Host} (hs : SameSlots h h1)
    (hlong : (maxDataPayload h).toNat < m.payload.length) :
    AllOrNothing h (sendFragments (SCTP_MAX_OUTSTANDING + 1) h1 m (assignedSsn h m) h.SCTP_NOW_MS 0
        true) m ↔
      28 < h.assoc.mtu.toNat ∧ m.payload.length ≤ freeSlots h * (maxDataPayload h).toNat := by
  have hfuel : freeSlots h1 < SCTP_MAX_OUTSTANDING + 1 := Nat.lt_succ_of_le (freeSlots_le h1)
  by_cases hslots : m.payload.length ≤ freeSlots h * (maxDataPayload h).toNat
  · have hmax : 0 < (maxDataPayload h).toNat := by
      refine Nat.pos_of_ne_zero fun h0 => ?_
      rw [h0] at hslots hlong
      omega
    obtain ⟨frags, hl⟩ := sendFragments_whole (h := h1) (m := m) (assignedSsn h m) h.SCTP_NOW_MS
      (SCTP_MAX_OUTSTANDING + 1) 0 true hfuel (by rw [hs.maxDataPayload]; exact hmax)
      (by rw [hs.maxDataPayload, hs.freeSlots]; exact hslots)
    rw [List.drop_zero] at hl
    generalize sendFragments (SCTP_MAX_OUTSTANDING + 1) h1 m (assignedSsn h m) h.SCTP_NOW_MS 0
      true = h' at hl
    have hcount := hl.count
    rw [hs.maxDataPayload] at hcount
    have hne : frags ≠ [] := by
      rintro rfl
      have := congrArg List.length hl.flatten
      simp only [List.flatten_nil, List.length_nil] at this
      omega
    have hpos : 0 < frags.length := List.length_pos_iff.mpr hne
    constructor
    · intro hall
      refine ⟨?_, hslots⟩
      by_contra hm
      rcases Nat.lt_or_ge h.assoc.mtu.toNat 28 with hsmall | hge
      · -- every chunk that parses is far shorter than the wrapped limit
        have hwrap := maxDataPayload_of_small hsmall
        obtain ⟨packets, hout, hplen, -⟩ := hl.packets
        rcases hall with hn | ⟨frags', hw⟩
        · have hlen := congrArg List.length (hout.symm.trans hn.outbound)
          rw [hs.outbound, List.length_append] at hlen
          omega
        · have hsame : frags'.length = frags.length := by
            have hlen := hw.length
            rw [hout, hs.outbound, List.length_append] at hlen
            omega
          have htotal := length_flatten_le (b := 65519) fun f hf => Nat.le_of_lt_succ (hw.fits f hf)
          rw [hw.flatten, hsame] at htotal
          rcases Nat.lt_or_ge frags.length 2 with hfew | hmany
          · have := Nat.mul_le_mul_right 65519 (Nat.le_of_lt_succ hfew)
            omega
          · have h2 := Nat.mul_le_mul_right ((maxDataPayload h).toNat - 65519) hmany
            rw [Nat.mul_sub, Nat.mul_sub] at h2
            omega
      · rw [maxDataPayload_toNat hge] at hmax
        omega
    · rintro ⟨hm, -⟩
      refine .inr ⟨frags, hl.whole hs hne fun f hf => ?_⟩
      have hshort := hl.short f hf
      have hlt := h.assoc.mtu.isLt
      rw [hs.maxDataPayload, maxDataPayload_toNat (by omega)] at hshort
      omega
  · have hstuck := sendFragments_stuck (h := h1) (m := m) (assignedSsn h m) h.SCTP_NOW_MS
      (SCTP_MAX_OUTSTANDING + 1) 0 true hfuel
      (by rw [hs.maxDataPayload, hs.freeSlots]; omega)
    rw [hs.outbound, hs.nextTsn, hs.freeSlots] at hstuck
    exact ⟨fun hall => absurd hall (not_allOrNothing_of_stuck (freeSlots_le h) hstuck.1 hstuck.2),
      fun hc => absurd hc.2 hslots⟩

/-! ## The whole call -/

theorem allOrNothing_iff_sendFits (hst : h.assoc.state = .ESTABLISHED) (m : SctpMessage) :
    AllOrNothing h (sctpAssocSend h m) m ↔ SendFits h m := by
  have hs := SameSlots.assigned h m
  have hssn : assignedSsn h.tick m = assignedSsn h m := rfl
  have htick : SentNothing h h.tick := ⟨rfl, rfl, rfl, rfl, rfl⟩
  unfold sctpAssocSend SendFits
  simp only
  rw [if_neg (fun hne => hne hst)]
  by_cases hwin : Congested h
  · have hwin' : h.tick.assoc.flightSize ≥ h.tick.assoc.cwnd ∨
        h.tick.assoc.flightSize ≥ h.tick.assoc.peerArwnd := hwin
    rw [if_pos hwin']
    exact ⟨fun _ => .inl hwin, fun _ => .inl (htick.queuePending m)⟩
  · have hwin' : ¬ (h.tick.assoc.flightSize ≥ h.tick.assoc.cwnd ∨
        h.tick.assoc.flightSize ≥ h.tick.assoc.peerArwnd) := hwin
    rw [if_neg hwin', hssn, hs.maxDataPayload]
    by_cases hfit : m.payload.length ≤ (maxDataPayload h).toNat
    · rw [if_pos hfit, hs.outstanding]
      cases hfree : h.assoc.outstanding.firstFree (·.inUse) with
      | none =>
        have hundo := addNextSsn_undo h.tick m
        refine ⟨fun _ => .inr (.inl ⟨hfit, .inl (freeSlots_of_none hfree)⟩), fun _ => .inl ?_⟩
        exact SentNothing.queuePending (h := h)
          ⟨hundo.outbound, hundo.nextTsn, hundo.nextSsn, hundo.outstanding, hundo.flightSize⟩ m
      | some i =>
        rw [sendWhole_allOrNothing_iff hs (SlotTable.firstFree_eq_some hfree).1]
        have hsome : freeSlots h ≠ 0 := by
          have hone := SlotTable.le_total (fun d : SctpOutstandingData => if d.inUse then 0 else 1)
            h.assoc.outstanding i
          simp only [(SlotTable.firstFree_eq_some hfree).1] at hone
          intro h0
          exact absurd (hone.trans_eq h0) (by decide)
        constructor
        · exact fun hlen => .inr (.inl ⟨hfit, .inr hlen⟩)
        · rintro (hc | ⟨-, h0 | hlen⟩ | ⟨hlong, -⟩)
          · exact absurd hc hwin
          · exact absurd h0 hsome
          · exact hlen
          · omega
    · rw [if_neg hfit, sendFragments_allOrNothing_iff hs (by omega)]
      constructor
      · exact fun hc => .inr (.inr ⟨by omega, hc⟩)
      · rintro (hc | ⟨hle, -⟩ | ⟨-, hc⟩)
        · exact absurd hc hwin
        · omega
        · exact hc

/-- **A message is sent as a whole or not at all** exactly when it fits. -/
theorem send_all_or_nothing_iff (h : Host) (m : SctpMessage)
    (hst : h.assoc.state = .ESTABLISHED) :
    AllOrNothing h (sctpAssocSend h m) m ↔ SendFits h m :=
  allOrNothing_iff_sendFits hst m

theorem freeSlots_sampleHost : freeSlots sampleHost = 2048 := by
  have htable : sampleHost.assoc.outstanding =
      SlotTable.replicate SCTP_MAX_OUTSTANDING SctpOutstandingData.zero := rfl
  unfold freeSlots
  rw [htable, SlotTable.total_replicate]
  rfl

/-- A message of two fragments on an association with nothing outstanding. -/
theorem sampleLong_all_or_nothing : sampleHost.assoc.state = .ESTABLISHED ∧
    AllOrNothing sampleHost (sctpAssocSend sampleHost sampleLong) sampleLong := by
  refine ⟨rfl, (send_all_or_nothing_iff sampleHost sampleLong rfl).mpr (.inr (.inr ?_))⟩
  have hmax : (maxDataPayload sampleHost).toNat = 1122 := by decide
  have hlen : sampleLong.payload.length = 1123 := List.length_replicate
  have hmtu : sampleHost.assoc.mtu.toNat = 1150 := rfl
  rw [hmax, hlen, hmtu, freeSlots_sampleHost]
  decide

/-! ## A table that is almost full -/

/-- `k` one-byte messages are outstanding. -/
structure ManySent (k : Nat) (h : Host) : Prop where
  state : h.assoc.state = .ESTABLISHED
  free : freeSlots h + k = 2048
  flight : h.assoc.flightSize = BitVec.ofNat 32 k
  cwnd : h.assoc.cwnd = 3450
  arwnd : h.assoc.peerArwnd = SCTP_DEFAULT_ARWND
  mtu : h.assoc.mtu = 1150

theorem ManySent.send {k : Nat} (hk : k < 2048) (hs : ManySent k h) :
    ManySent (k + 1) (sctpAssocSend h oneByte) := by
  have hsome : ∃ i, h.assoc.outstanding.firstFree (·.inUse) = some i := by
    cases hf : h.assoc.outstanding.firstFree (·.inUse) with
    | none =>
      have h0 : freeSlots h = 0 := freeSlots_of_none hf
      have := hs.free
      omega
    | some i => exact ⟨i, rfl⟩
  obtain ⟨i, hfree⟩ := hsome
  have hflight : h.assoc.flightSize.toNat = k := by
    rw [hs.flight, BitVec.toNat_ofNat]
    omega
  have hwin : ¬ (h.assoc.flightSize ≥ h.assoc.cwnd ∨ h.assoc.flightSize ≥ h.assoc.peerArwnd) := by
    rw [hs.cwnd, hs.arwnd]
    have hc : (3450 : UINT32).toNat = 3450 := rfl
    have ha : SCTP_DEFAULT_ARWND.toNat = 131072 := rfl
    rintro (hle | hle)
    · have := BitVec.le_def.mp hle
      omega
    · have := BitVec.le_def.mp hle
      omega
  have hssn := SameSlots.assigned h oneByte
  have hside : (addNextSsn h.tick oneByte 1).sendSide = h.sendSide := addNextSsn_sendSide _ _ _
  have hmax : (maxDataPayload (addNextSsn h.tick oneByte 1)).toNat = 1122 := by
    unfold maxDataPayload
    rw [hssn.mtu, hs.mtu]
    rfl
  have hsend := sctpAssocSend_whole (m := oneByte) hs.state hwin
    (by rw [hmax]; decide) (by rw [hssn.outstanding]; exact hfree)
  obtain ⟨hcwnd, -, hmtu, -⟩ := control_eq (Passive.send h oneByte).control
  have harwnd := (windows_eq (sctpAssocSend_windows h oneByte)).2.1
  have hstate : (sctpAssocSend h oneByte).assoc.state = .ESTABLISHED :=
    (congrArg RecvSide.state (sctpAssocSend_recvSide h oneByte)).trans hs.state
  have hend : (sctpAssocSend h oneByte).sendSide = _ :=
    (congrArg Host.sendSide hsend).trans (startT3_sendSide _ _)
  have htable : (sctpAssocSend h oneByte).assoc.outstanding = h.assoc.outstanding.set i
      (sentChunk oneByte (addNextSsn h.tick oneByte 1).assoc.nextTsn (assignedSsn h.tick oneByte)
        oneByte.payload h.SCTP_NOW_MS) := by
    rw [← hssn.outstanding]
    exact congrArg SendSide.outstanding hend
  have hfl : (sctpAssocSend h oneByte).assoc.flightSize = h.assoc.flightSize + 1 := by
    rw [← show (addNextSsn h.tick oneByte 1).assoc.flightSize = h.assoc.flightSize from
      congrArg SendSide.flightSize hside]
    exact congrArg SendSide.flightSize hend
  have hfill := freeSlots_fill hfree rfl htable
  have hbefore := hs.free
  refine ⟨hstate, by omega, ?_, hcwnd.trans hs.cwnd, harwnd.trans hs.arwnd, hmtu.trans hs.mtu⟩
  rw [hfl, hs.flight, BitVec.ofNat_add]
  rfl

def manySends (k : Nat) : List Op := List.replicate k (.send oneByte)

theorem manySent_run {k : Nat} (hk : k ≤ 2048) : ManySent k (sampleHost.run (manySends k)) := by
  induction k with
  | zero =>
    have h0 : sampleHost.run (manySends 0) = sampleHost := rfl
    rw [h0]
    exact ⟨rfl, by rw [freeSlots_sampleHost], rfl, rfl, rfl, rfl⟩
  | succ k ih =>
    have hsplit : manySends (k + 1) = manySends k ++ [.send oneByte] := List.replicate_succ'
    rw [hsplit, Host.run_append]
    exact (ih (by omega)).send (by omega)

end

/-- **Half a message.** With one slot free, the first fragment of two is sent and recorded, and a TSN
is taken for the second. -/
theorem long_message_sent_in_part :
    (sampleHost.run (manySends 2047)).assoc.state = .ESTABLISHED ∧
      ¬ AllOrNothing (sampleHost.run (manySends 2047))
        (sctpAssocSend (sampleHost.run (manySends 2047)) sampleLong) sampleLong := by
  have hs := manySent_run (k := 2047) (by decide)
  generalize sampleHost.run (manySends 2047) = h at hs
  refine ⟨hs.state, fun hall => ?_⟩
  have hfree : freeSlots h = 1 := by
    have := hs.free
    omega
  have hmax : (maxDataPayload h).toNat = 1122 := by
    unfold maxDataPayload
    rw [hs.mtu]
    rfl
  have hlen : sampleLong.payload.length = 1123 := List.length_replicate
  have hflight : h.assoc.flightSize.toNat = 2047 := by
    rw [hs.flight]
    rfl
  rcases (allOrNothing_iff_sendFits hs.state sampleLong).mp hall with hc | ⟨hle, -⟩ | ⟨-, -, hle⟩
  · rw [Congested, hs.cwnd, hs.arwnd] at hc
    have hcw : (3450 : UINT32).toNat = 3450 := rfl
    have har : SCTP_DEFAULT_ARWND.toNat = 131072 := rfl
    rcases hc with hc | hc
    · have := BitVec.le_def.mp hc
      omega
    · have := BitVec.le_def.mp hc
      omega
  · omega
  · rw [hfree, hmax] at hle
    omega

end KvsWebrtc.Sctp
