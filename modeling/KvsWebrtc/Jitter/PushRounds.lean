import KvsWebrtc.Jitter.FrameTable

/-!
# A push of the real-time jitter buffer, round by round

A push tracks head and tail, stores the packet, and then takes frames out of the table one at a time.
Storing adds at most one frame, the packet's own (`rtStore_eq`); a property kept by every round is kept
by the push (`rtPush_inv`).

Principal results:

* `TableOk.rtPush` — in every reachable state the timestamps of the table are distinct and every packet
  of the ring is in the slot of its number;
* `evictHead_eq_some`, `deliverHead_eq_delivered`, `deliverHead_eq_failed` — what a round does.
-/

namespace KvsWebrtc.Jitter

open Rtp

variable {b b' : RealTimeJitterBuffer} {p : InboundRtpPacket} {f g : RtFrameEntry}

/-! ## Storing -/

/-- What is kept while head, tail and the overflow states move. -/
structure SameTable (b b' : RealTimeJitterBuffer) : Prop where
  frames : b'.frames = b.frames
  ring : b'.pktRing = b.pktRing
  reports : b'.reports = b.reports
  freed : b'.freed = b.freed
  started : b.started = true → b'.started = true

theorem SameTable.trans {b'' : RealTimeJitterBuffer} (h : SameTable b b')
    (h' : SameTable b' b'') : SameTable b b'' where
  frames := h'.frames.trans h.frames
  ring := h'.ring.trans h.ring
  reports := h'.reports.trans h.reports
  freed := h'.freed.trans h.freed
  started := fun hs => h'.started (h.started hs)

theorem sameTable_rtStart (b : RealTimeJitterBuffer) (p : InboundRtpPacket) :
    SameTable b (rtStart b p) := by
  unfold rtStart
  split <;> exact ⟨rfl, rfl, rfl, rfl, fun h => by first | exact h | rfl⟩

theorem started_rtStart (b : RealTimeJitterBuffer) (p : InboundRtpPacket) :
    (rtStart b p).started = true := by
  unfold rtStart
  split
  · assumption
  · rfl

theorem sameTable_enterSequenceOverflow (b : RealTimeJitterBuffer) (seq : UINT16) :
    SameTable b (enterSequenceOverflow b seq) := by
  unfold enterSequenceOverflow
  dsimp only
  repeat' split
  all_goals exact ⟨rfl, rfl, rfl, rfl, id⟩

theorem sameTable_moveTailSequence (b : RealTimeJitterBuffer) (seq : UINT16) :
    SameTable b (moveTailSequence b seq) := by
  unfold moveTailSequence
  dsimp only
  repeat' split
  all_goals exact ⟨rfl, rfl, rfl, rfl, id⟩

theorem sameTable_enterTimestampOverflow (b : RealTimeJitterBuffer) (p : InboundRtpPacket) :
    SameTable b (enterTimestampOverflow b p) := by
  unfold enterTimestampOverflow
  dsimp only
  repeat' split
  all_goals exact ⟨rfl, rfl, rfl, rfl, id⟩

theorem sameTable_moveTailTimestamp (b : RealTimeJitterBuffer) (ts : UINT32) :
    SameTable b (moveTailTimestamp b ts) := by
  unfold moveTailTimestamp
  repeat' split
  all_goals exact ⟨rfl, rfl, rfl, rfl, id⟩

theorem sameTable_rtTrack (b : RealTimeJitterBuffer) (p : InboundRtpPacket) :
    SameTable b (rtTrack b p) ∧ (rtTrack b p).started = true := by
  have hmoved := (sameTable_enterSequenceOverflow (rtStart b p) p.header.sequenceNumber).trans
    ((sameTable_moveTailSequence _ p.header.sequenceNumber).trans
      ((sameTable_enterTimestampOverflow _ p).trans
        (sameTable_moveTailTimestamp _ p.header.timestamp)))
  exact ⟨(sameTable_rtStart b p).trans hmoved, hmoved.started (started_rtStart b p)⟩

theorem timestamp_rtTryMarkFrameComplete (b : RealTimeJitterBuffer) (fence : UINT16)
    (f : RtFrameEntry) : (rtTryMarkFrameComplete b fence f).timestamp = f.timestamp := by
  unfold rtTryMarkFrameComplete
  dsimp only
  split
  · rfl
  · split <;> rfl

theorem timestamp_countPacketIn (depay : Bytes → Bool → UINT32 × Bool) (p : InboundRtpPacket)
    (f : RtFrameEntry) : (countPacketIn depay p f).timestamp = f.timestamp := by
  unfold countPacketIn extendRange
  repeat' split
  all_goals rfl

theorem closeByNext_eq (b : RealTimeJitterBuffer) (index : Nat) :
    ∃ frames, closeByNext b index = { b with frames := frames } ∧
      frames.map (·.timestamp) = timestamps b := by
  refine ⟨_, rfl, map_modify_of_eq (fun f => ?_) _ _⟩
  split
  · split
    · rfl
    · exact timestamp_rtTryMarkFrameComplete b _ f
  · rfl

theorem closeOlder_eq (b : RealTimeJitterBuffer) (seq : UINT16) (ts : UINT32) :
    ∃ frames, closeOlder b seq ts = { b with frames := frames } ∧
      frames.map (·.timestamp) = timestamps b := by
  unfold closeOlder
  split
  · refine ⟨_, rfl, ?_⟩
    rw [List.map_map]
    refine List.map_congr_left fun f _ => ?_
    dsimp only [Function.comp_apply]
    repeat' split
    all_goals first | rfl | exact timestamp_rtTryMarkFrameComplete b _ f
  · exact ⟨b.frames, rfl, rfl⟩

theorem addToFrame_eq (depay : Bytes → Bool → UINT32 × Bool) (b : RealTimeJitterBuffer)
    (p : InboundRtpPacket) (index : Nat) :
    ∃ frames seq, addToFrame depay b p index =
        { b with frames := frames, headSequenceNumber := seq } ∧
      frames.map (·.timestamp) = timestamps b := by
  have hcount : timestamps (updateFrame b index (countPacketIn depay p)) = timestamps b :=
    map_modify_of_eq (timestamp_countPacketIn depay p) _ _
  obtain ⟨frames, hnext, hframes⟩ :=
    closeByNext_eq (updateFrame b index (countPacketIn depay p)) index
  have hmove : ∀ (b : RealTimeJitterBuffer),
      ∃ seq, moveHeadSequence b p = { b with headSequenceNumber := seq } := by
    intro b
    unfold moveHeadSequence
    dsimp only
    repeat' split
    all_goals exact ⟨_, rfl⟩
  rw [addToFrame, hnext]
  split
  · obtain ⟨seq, hseq⟩ := hmove { updateFrame b index (countPacketIn depay p) with frames := frames }
    exact ⟨frames, seq, hseq, hframes.trans hcount⟩
  · rename_i f hf
    obtain ⟨frames', holder, hframes'⟩ := closeOlder_eq
      { updateFrame b index (countPacketIn depay p) with frames := frames } f.firstSeqNum f.timestamp
    rw [holder]
    obtain ⟨seq, hseq⟩ := hmove { updateFrame b index (countPacketIn depay p) with frames := frames' }
    exact ⟨frames', seq, hseq, hframes'.trans (hframes.trans hcount)⟩

theorem openFrame_eq (b : RealTimeJitterBuffer) (p : InboundRtpPacket) :
    ∃ frames stale ts seq, openFrame b p =
        { b with
          frames := frames, stale := stale, headTimestamp := ts, headSequenceNumber := seq } ∧
      frames.map (·.timestamp) = timestamps b ++ [p.header.timestamp] ∧
      (b.timestampOverFlowState = true → ts = b.headTimestamp) := by
  have hmap : ∀ (b' : RealTimeJitterBuffer) (frames : List RtFrameEntry),
      ((frames.map fun f =>
        if f.timestamp ≠ p.header.timestamp ∧ !f.hasEnd ∧
            rtTimestampCompare b' f.timestamp p.header.timestamp = .lt then
          rtTryMarkFrameComplete b' p.header.sequenceNumber f
        else f).map (·.timestamp)) = frames.map (·.timestamp) := by
    intro b' frames
    rw [List.map_map]
    refine List.map_congr_left fun f _ => ?_
    dsimp only [Function.comp_apply]
    split
    · exact timestamp_rtTryMarkFrameComplete b' _ f
    · rfl
  have hopen : ∀ entry : RtFrameEntry, entry.timestamp = p.header.timestamp →
      (b.frames ++ [entry]).map (·.timestamp) = timestamps b ++ [p.header.timestamp] := by
    intro entry hentry
    rw [List.map_append, List.map_singleton, hentry, timestamps]
  rw [openFrame]
  split
  · rename_i hlt
    refine ⟨_, _, _, _, rfl, (hmap _ _).trans (hopen _ rfl), fun hflag => ?_⟩
    -- behind the head of an overflow nothing is older than it
    rw [rtTimestampCompare_eq_lt, pivot, if_pos hflag, Serial.ahead_self] at hlt
    exact absurd hlt (Nat.not_lt_zero _)
  · exact ⟨_, _, _, _, rfl, (hmap _ _).trans (hopen _ rfl), fun _ => rfl⟩

/-- The packet makes a new entry. -/
def opensFrame (b : RealTimeJitterBuffer) (p : InboundRtpPacket) : Bool :=
  !(b.maxLatency < (rtTimestampAge b p.header.timestamp).zeroExtend 64) &&
    (packetAt b p.header.sequenceNumber).isNone && (rtFindFrame b p.header.timestamp).isNone &&
    !rtIsTimestampProcessed b p.header.timestamp && b.frames.length < RT_MAX_FRAMES

theorem rtStore_eq (depay : Bytes → Bool → UINT32 × Bool) (b : RealTimeJitterBuffer)
    (p : InboundRtpPacket) :
    ∃ frames stale ts seq ring freed, (rtStore depay b p).buffer =
        { b with
          frames := frames, stale := stale, headTimestamp := ts, headSequenceNumber := seq,
          pktRing := ring, freed := freed } ∧
      frames.map (·.timestamp) =
        (if opensFrame b p then timestamps b ++ [p.header.timestamp] else timestamps b) ∧
      (b.timestampOverFlowState = true → ts = b.headTimestamp) ∧
      (ring = b.pktRing ∨ ring = (putPacket b p).pktRing) := by
  unfold rtStore opensFrame
  split
  · rename_i hold
    exact ⟨_, _, _, _, _, _, rfl, by simp [hold, timestamps], fun _ => rfl, Or.inl rfl⟩
  · rename_i hage
    cases hat : packetAt b p.header.sequenceNumber with
    | some existing =>
      dsimp only
      split
      · exact ⟨_, _, _, _, _, _, rfl, by simp [timestamps], fun _ => rfl, Or.inl rfl⟩
      · exact ⟨_, _, _, _, _, _, rfl, by simp [timestamps, freePacket], fun _ => rfl, Or.inr rfl⟩
    | none =>
      cases hfind : rtFindFrame b p.header.timestamp with
      | some index =>
        obtain ⟨frames, seq, hrun, hframes⟩ := addToFrame_eq depay (putPacket b p) p index
        refine ⟨_, _, _, _, _, _, hrun, ?_, fun _ => rfl, Or.inr rfl⟩
        simpa [timestamps, putPacket] using hframes
      | none =>
        dsimp only
        split
        · rename_i hdone
          exact ⟨_, _, _, _, _, _, rfl, by simp [hdone, timestamps], fun _ => rfl, Or.inl rfl⟩
        · rename_i hdone
          split
          · rename_i hfull
            exact ⟨_, _, _, _, _, _, rfl, by simp [hfull.not_gt, timestamps], fun _ => rfl,
              Or.inr rfl⟩
          · rename_i hfull
            obtain ⟨frames, stale, ts, seq, hopen, hframes, hts⟩ := openFrame_eq (putPacket b p) p
            obtain ⟨frames', seq', hrun, hframes'⟩ :=
              addToFrame_eq depay (openFrame (putPacket b p) p) p b.frames.length
            rw [hopen] at hrun hframes' ⊢
            refine ⟨_, _, _, _, _, _, hrun, ?_, hts, Or.inr rfl⟩
            rw [hframes', timestamps, hframes]
            simp only [hage, hdone, Nat.lt_of_not_le hfull, decide_false, Bool.not_false,
              Option.isNone_none, decide_true, Bool.and_self, if_true]
            rfl

/-! ## Every reachable state -/

/-- The table holds a timestamp once, and the ring a packet in its slot. -/
structure TableOk (b : RealTimeJitterBuffer) : Prop where
  nodup : (timestamps b).Nodup
  placed : RingPlaced b.pktRing
  started : b.frames = [] ∨ b.started = true

theorem TableOk.trimmed (h : TableOk b) (ht : Trimmed b b') : TableOk b' where
  nodup := by
    obtain ⟨l, hperm, hsub⟩ := ht.timestamps
    exact hperm.nodup_iff.mp (h.nodup.sublist hsub)
  placed := h.placed.of_sub ht.ring
  started := by
    rcases h.started with hnil | hs
    · left
      have := ht.spans.length_le
      rw [spans, spans, hnil, List.length_map] at this
      exact List.eq_nil_of_length_eq_zero (Nat.le_zero.mp this)
    · exact Or.inr (ht.started.trans hs)

theorem TableOk.congr (h : TableOk b) (hframes : b'.frames = b.frames)
    (hring : b'.pktRing = b.pktRing) (hstarted : b'.started = b.started) : TableOk b' :=
  ⟨by rw [timestamps, hframes]; exact h.nodup, by rw [hring]; exact h.placed,
    by rw [hframes, hstarted]; exact h.started⟩

theorem RingPlaced.putPacket (h : RingPlaced b.pktRing) (p : InboundRtpPacket) :
    RingPlaced (putPacket b p).pktRing := by
  intro slot q hq
  change Function.update b.pktRing (ringSlot p.header.sequenceNumber) (some p) slot = some q at hq
  by_cases hslot : slot = ringSlot p.header.sequenceNumber
  · rw [hslot, Function.update_self] at hq
    cases hq
    exact hslot.symm
  · rw [Function.update_of_ne hslot] at hq
    exact h slot q hq

theorem not_mem_of_opensFrame (h : opensFrame b p = true) :
    p.header.timestamp ∉ timestamps b := by
  simp only [opensFrame, Bool.and_eq_true, Option.isNone_iff_eq_none] at h
  exact rtFindFrame_eq_none.mp h.1.1.2

theorem TableOk.store (h : TableOk b) (depay : Bytes → Bool → UINT32 × Bool)
    (p : InboundRtpPacket) : TableOk (rtStore depay (rtTrack b p) p).buffer := by
  obtain ⟨htrack, hstarted⟩ := sameTable_rtTrack b p
  have hplaced : RingPlaced (rtTrack b p).pktRing := by
    rw [htrack.ring]
    exact h.placed
  have hnodup : (timestamps (rtTrack b p)).Nodup := by
    rw [timestamps, htrack.frames]
    exact h.nodup
  obtain ⟨frames, stale, ts, seq, ring, freed, hrun, hframes, -, hring⟩ :=
    rtStore_eq depay (rtTrack b p) p
  rw [hrun]
  refine ⟨?_, ?_, Or.inr hstarted⟩
  · rw [timestamps]
    rw [hframes]
    split
    · rename_i hopen
      rw [List.nodup_append_comm]
      exact List.nodup_cons.mpr ⟨not_mem_of_opensFrame hopen, hnodup⟩
    · exact hnodup
  · rcases hring with hring | hring
    · dsimp only
      rw [hring]
      exact hplaced
    · dsimp only
      rw [hring]
      exact hplaced.putPacket p

theorem rtPush_inv {cb : RtCallbacks} {Inv : RealTimeJitterBuffer → Prop}
    (hstored : Inv (rtStore cb.depayPayload (rtTrack b p) p).buffer)
    (hevict : ∀ b b', Inv b → evictHead b = some b' → Inv b')
    (hdelivered : ∀ b b', Inv b → deliverHead cb b = .delivered b' → Inv b')
    (hfailed : ∀ b b', Inv b → deliverHead cb b = .failed b' → Inv b') :
    Inv (rtPush cb b p).buffer := by
  have hevicted : ∀ (fuel : Nat) (b : RealTimeJitterBuffer), Inv b → Inv (evictStale fuel b) := by
    intro fuel
    induction fuel with
    | zero => exact fun b hb => hb
    | succ fuel ih =>
      intro b hb
      rw [evictStale]
      split
      · exact hb
      · rename_i b' hb'
        exact ih b' (hevict b b' hb hb')
  have hcomplete : ∀ (fuel : Nat) (b : RealTimeJitterBuffer), Inv b →
      Inv (deliverComplete cb fuel b).1 := by
    intro fuel
    induction fuel with
    | zero => exact fun b hb => hb
    | succ fuel ih =>
      intro b hb
      rw [deliverComplete]
      split
      · exact hb
      · rename_i b' hb'
        exact hfailed b b' hb hb'
      · rename_i b' hb'
        exact ih b' (hdelivered b b' hb hb')
  rw [rtPush]
  split
  · exact hcomplete _ _ (hevicted _ _ hstored)
  · exact hstored

/-- A frame has been reported. -/
def report (b : RealTimeJitterBuffer) (r : RtReport) : RealTimeJitterBuffer :=
  { rtMarkTimestampProcessed b r.frame.timestamp with reports := b.reports ++ [r] }

theorem tableOk_report (h : TableOk b) (r : RtReport) : TableOk (report b r) :=
  h.congr rfl rfl rfl

theorem evictHead_eq_some (h : evictHead b = some b') :
    ∃ i f, IsEarliest b i f ∧
      b' = rtUpdateHead { rtRemoveFrame
        (rtFreePacketsInRange (report b (.dropped f)) f.firstSeqNum f.lastSeqNum) i with
          hasDelivered := true } := by
  unfold evictHead at h
  split at h
  · cases h
  · rename_i i f hfind
    split at h
    · cases h
      exact ⟨i, f, rtFindEarliestFrame_eq_some hfind, rfl⟩
    · cases h

theorem deliverHead_eq_delivered {cb : RtCallbacks} (h : deliverHead cb b = .delivered b') :
    ∃ i f frameSize, IsEarliest b i f ∧ (cb.onFrameReady b.reports.length).succeeds = true ∧
      b' = rtUpdateHead { removeReported (callFrameReady (cb.onFrameReady b.reports.length) f
        (report b (.ready f frameSize))) f.timestamp with hasDelivered := true } := by
  unfold deliverHead at h
  split at h
  · cases h
  · rename_i i f hfind
    split at h
    · split at h
      · cases h
      · dsimp only at h
        split at h
        · rename_i hsucceeds
          cases h
          exact ⟨i, f, _, rtFindEarliestFrame_eq_some hfind, hsucceeds, rfl⟩
        · cases h
    · cases h

theorem deliverHead_eq_failed {cb : RtCallbacks} (h : deliverHead cb b = .failed b') :
    ∃ i f frameSize, IsEarliest b i f ∧ (cb.onFrameReady b.reports.length).succeeds = false ∧
      b' = callFrameReady (cb.onFrameReady b.reports.length) f (report b (.ready f frameSize)) := by
  unfold deliverHead at h
  split at h
  · cases h
  · rename_i i f hfind
    split at h
    · split at h
      · cases h
      · dsimp only at h
        split at h
        · cases h
        · rename_i hsucceeds
          cases h
          exact ⟨i, f, _, rtFindEarliestFrame_eq_some hfind, Bool.not_eq_true _ ▸ hsucceeds, rfl⟩
    · cases h

/-- **A push keeps the timestamps of the table distinct and the packets in their slots.** -/
theorem TableOk.rtPush (h : TableOk b) (cb : RtCallbacks) (p : InboundRtpPacket) :
    TableOk (rtPush cb b p).buffer := by
  refine rtPush_inv (h.store cb.depayPayload p) ?_ ?_ ?_
  · intro b b' hb hb'
    obtain ⟨i, f, hf, rfl⟩ := evictHead_eq_some hb'
    have hfree := trimmed_rtFreePacketsInRange (report b (.dropped f)) f.firstSeqNum f.lastSeqNum
    have hremove := trimmed_rtRemoveFrame (i := i) (f := f)
      (b := rtFreePacketsInRange (report b (.dropped f)) f.firstSeqNum f.lastSeqNum) (by
        rw [frames_rtFreePacketsInRange]
        exact hf.at_index)
    exact (tableOk_report hb _).trimmed (hfree.trans (hremove.trans (trimmed_delivered _)))
  · intro b b' hb hb'
    obtain ⟨i, f, frameSize, -, -, rfl⟩ := deliverHead_eq_delivered hb'
    have hcall := trimmed_callFrameReady (cb.onFrameReady b.reports.length) f
      (report b (.ready f frameSize))
    exact (tableOk_report hb _).trimmed
      (hcall.trans ((trimmed_removeReported _ f.timestamp).trans (trimmed_delivered _)))
  · intro b b' hb hb'
    obtain ⟨i, f, frameSize, -, -, rfl⟩ := deliverHead_eq_failed hb'
    exact (tableOk_report hb _).trimmed (trimmed_callFrameReady _ _ _)

end KvsWebrtc.Jitter
