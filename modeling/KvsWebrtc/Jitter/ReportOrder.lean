import KvsWebrtc.Jitter.PushRounds
import KvsWebrtc.Lib.Steps

/-!
# The order in which the real-time jitter buffer reports its frames

A push reports the frames it takes out of the table, the earliest first.  Whether a packet is late is
only asked of the last timestamps that were processed, so a packet older than those, or one that was
never seen before, opens a frame behind a newer one that has been reported (`late_frame_reported`).

In runs in which that does not happen, in which the comparison of timestamps follows the wrap-around
order and the callback does not leave a frame it was handed in the table, every timestamp is reported
once and in order (`reported_in_order`).  One round is `Reported.round`; that the comparison still
follows the order when the head moves is `Ordered.updateHead`.
-/

namespace KvsWebrtc.Jitter

open Rtp

variable {cb : RtCallbacks} {base : UINT32} {b b' : RealTimeJitterBuffer} {p : InboundRtpPacket}
  {f : RtFrameEntry} {r : RtReport}

/-- The buffer after a push. -/
def pushStep (cb : RtCallbacks) (b : RealTimeJitterBuffer) (p : InboundRtpPacket) :
    RealTimeJitterBuffer := (rtPush cb b p).buffer

/-- The timestamps reported so far, ready or dropped. -/
def reportedTimestamps (b : RealTimeJitterBuffer) : List UINT32 :=
  b.reports.map (·.frame.timestamp)

/-- Every timestamp is reported once, and they increase in wrap-around order. -/
structure ReportsInOrder (b : RealTimeJitterBuffer) : Prop where
  once : (reportedTimestamps b).Nodup
  increasing : (reportedTimestamps b).Pairwise fun x y => Serial.gt y x

/-- The timestamps a push has to order: those of the frames, and the packet's when it opens one. -/
def pushedTimestamps (b : RealTimeJitterBuffer) (p : InboundRtpPacket) : List UINT32 :=
  if opensFrame (rtTrack b p) p then timestamps b ++ [p.header.timestamp] else timestamps b

/-- What a push needs to report in order. -/
structure TakenInOrder (cb : RtCallbacks) (b : RealTimeJitterBuffer) (p : InboundRtpPacket) :
    Prop where
  /-- The packet opens no frame behind one that has been reported. -/
  fresh : opensFrame (rtTrack b p) p = true →
    ∀ x ∈ reportedTimestamps b, Serial.gt p.header.timestamp x
  /-- The comparison is the wrap-around order. -/
  compared : ∀ x ∈ pushedTimestamps b p, ∀ y ∈ pushedTimestamps b p,
    (rtTimestampCompare (rtTrack b p) x y = .lt ↔ Serial.gt y x)
  /-- In the overflow state no frame is in front of the tail. -/
  behindTail : (rtTrack b p).timestampOverFlowState = true →
    ∀ x ∈ pushedTimestamps b p, Serial.ge (rtTrack b p).tailTimestamp x
  /-- A frame handed over is not left to be handed over again. -/
  taken : ∀ n, (cb.onFrameReady n).succeeds = true ∨ (cb.onFrameReady n).drops.isSome = true
  /-- In the overflow state the callback does not set the head. -/
  keepsHead : (rtTrack b p).timestampOverFlowState = true →
    ∀ n ts, (cb.onFrameReady n).drops = some ts → ts = 0

/-! ## The order of the table -/

/-- The order that begins at the pivot is the one that begins at `base`. -/
structure Ordered (cb : RtCallbacks) (base : UINT32) (b : RealTimeJitterBuffer) : Prop where
  agrees : ∀ x ∈ timestamps b, ∀ y ∈ timestamps b,
    (Serial.ahead (pivot b) x < Serial.ahead (pivot b) y ↔
      Serial.ahead base x < Serial.ahead base y)
  behindTail : b.timestampOverFlowState = true →
    ∀ x ∈ timestamps b, Serial.ge b.tailTimestamp x
  keepsHead : b.timestampOverFlowState = true →
    ∀ n ts, (cb.onFrameReady n).drops = some ts → ts = 0

theorem Ordered.narrow (h : Ordered cb base b) (hhead : SameHead b b')
    (hsub : ∀ x ∈ timestamps b', x ∈ timestamps b) : Ordered cb base b' := by
  have hpivot : pivot b' = pivot b := by rw [pivot, pivot, hhead.overflow, hhead.headTimestamp]
  refine ⟨fun x hx y hy => ?_, fun hflag x hx => ?_, fun hflag => ?_⟩
  · rw [hpivot]
    exact h.agrees x (hsub x hx) y (hsub y hy)
  · rw [hhead.overflow] at hflag
    rw [hhead.tailTimestamp]
    exact h.behindTail hflag x (hsub x hx)
  · rw [hhead.overflow] at hflag
    exact h.keepsHead hflag

theorem Ordered.oldest {i : Nat} (h : Ordered cb base b) (hf : IsEarliest b i f) :
    ∀ x ∈ timestamps b, Serial.ahead base f.timestamp ≤ Serial.ahead base x := by
  intro x hx
  obtain ⟨g, hg, rfl⟩ := List.mem_map.mp hx
  have hfirst := hf.first g hg
  have hagrees := h.agrees _ hx _ hf.mem_timestamps
  omega

/-- Within the window, the timestamps from the oldest one to the tail do not wrap when the tail is not
smaller. -/
theorem toNat_of_window {x y tail : UINT32} (hx : 2 * Serial.ahead base x < 2 ^ 32)
    (hy : 2 * Serial.ahead base y < 2 ^ 32) (hle : Serial.ahead base x ≤ Serial.ahead base y)
    (htail : Serial.ge tail y) (hnumeric : x ≤ tail) :
    y.toNat = x.toNat + Serial.ahead x y := by
  have hxy : Serial.ahead x y = Serial.ahead base y - Serial.ahead base x := Serial.ahead_of_le hle
  rw [Serial.ge_iff_not_lt, Serial.lt_iff_ahead] at htail
  have hsum : Serial.ahead x tail = Serial.ahead x y + Serial.ahead y tail :=
    Serial.ahead_trans (by omega)
  have hxt := Serial.ahead_eq x tail
  rw [if_pos (BitVec.le_def.mp hnumeric)] at hxt
  have hxy' := Serial.ahead_eq x y
  have := tail.isLt
  have := BitVec.le_def.mp hnumeric
  split at hxy' <;> omega

/-- **The comparison still follows the order when the head moves to the earliest frame.** -/
theorem Ordered.updateHead (h : Ordered cb base b)
    (hwindow : ∀ x ∈ timestamps b, 2 * Serial.ahead base x < 2 ^ 32) :
    Ordered cb base (rtUpdateHead b) := by
  cases hfind : rtFindEarliestFrame b with
  | none =>
    have hnil : timestamps (rtUpdateHead b) = [] := by
      rw [timestamps_rtUpdateHead, timestamps, rtFindEarliestFrame_eq_none.mp hfind, List.map_nil]
    have hoff : (rtUpdateHead b).timestampOverFlowState = false := by rw [rtUpdateHead, hfind]
    refine ⟨fun x hx => ?_, fun hflag => ?_, fun hflag => ?_⟩
    · rw [hnil] at hx
      cases hx
    · rw [hoff] at hflag
      cases hflag
    · rw [hoff] at hflag
      cases hflag
  | some entry =>
    obtain ⟨i, f⟩ := entry
    have hf := rtFindEarliestFrame_eq_some hfind
    have hts := timestamps_rtUpdateHead b
    have hflag' : (rtUpdateHead b).timestampOverFlowState =
        (b.timestampOverFlowState && b.tailTimestamp < f.timestamp) := by rw [rtUpdateHead, hfind]; rfl
    have htail' : (rtUpdateHead b).tailTimestamp = b.tailTimestamp :=
      (trimmed_rtUpdateHead b).tailTimestamp
    have hhead' : (rtUpdateHead b).headTimestamp = f.timestamp := by rw [rtUpdateHead, hfind]; rfl
    have hkept : (rtUpdateHead b).timestampOverFlowState = true →
        b.timestampOverFlowState = true := by
      rw [hflag', Bool.and_eq_true]
      exact And.left
    refine ⟨fun x hx y hy => ?_, fun hflag x hx => ?_, fun hflag => h.keepsHead (hkept hflag)⟩
    · rw [hts] at hx hy
      have hagrees := h.agrees x hx y hy
      rw [pivot, hflag', hhead']
      cases hflag : b.timestampOverFlowState with
      | false => rwa [pivot, hflag] at hagrees
      | true =>
        by_cases hnumeric : b.tailTimestamp < f.timestamp
        · -- the new pivot is the earliest frame
          obtain ⟨gx, hgx, rfl⟩ := List.mem_map.mp hx
          obtain ⟨gy, hgy, rfl⟩ := List.mem_map.mp hy
          have hx' := hf.first gx hgx
          have hy' := hf.first gy hgy
          rw [if_pos (by simp [hnumeric]), Serial.ahead_of_le hx', Serial.ahead_of_le hy']
          omega
        · -- head and tail are on one side, and the frames between them
          have hle := BitVec.not_lt.mp hnumeric
          have hxn := toNat_of_window (hwindow _ hf.mem_timestamps) (hwindow x hx)
            (h.oldest hf x hx) (h.behindTail hflag x hx) hle
          have hyn := toNat_of_window (hwindow _ hf.mem_timestamps) (hwindow y hy)
            (h.oldest hf y hy) (h.behindTail hflag y hy) hle
          have hzero : ∀ z : UINT32, Serial.ahead 0 z = z.toNat := fun z => by
            rw [Serial.ahead_eq]
            simp
          rw [if_neg (by simp [hnumeric]), hzero, hzero, hxn, hyn,
            Serial.ahead_of_le (h.oldest hf x hx), Serial.ahead_of_le (h.oldest hf y hy)]
          have := h.oldest hf x hx
          have := h.oldest hf y hy
          omega
    · rw [hts] at hx
      rw [htail']
      exact h.behindTail (hkept hflag) x hx

/-- Dropping a range leaves the comparison in order when it does not set the head. -/
theorem Ordered.dropBufferData {first last : UINT16} {next : UINT32} (h : Ordered cb base b)
    (hwindow : ∀ x ∈ timestamps b, 2 * Serial.ahead base x < 2 ^ 32)
    (hnext : b.timestampOverFlowState = true → next = 0) :
    Ordered cb base (rtDropBufferData b first last next) := by
  have hmem := (trimmed_rtDropBufferData b first last next).timestamps.subset
  obtain ⟨frames, stale, hframes, hrun⟩ := rtDropBufferData_eq b first last next
  obtain ⟨ring, freed, hfree⟩ := freePackets_eq (rangeLength first last) first b
  rw [hrun] at hmem ⊢
  rw [rtFreePacketsInRange, hfree] at hmem ⊢
  dsimp only at hmem ⊢
  split at hmem
  · rename_i hnil
    rw [if_pos hnil]
    have hempty : ∀ x, x ∉ frames.map (·.timestamp) := by simp [hnil]
    refine ⟨fun x hx => absurd hx (hempty x), fun _ x hx => absurd hx (hempty x), fun hflag => ?_⟩
    exact h.keepsHead (Bool.and_eq_true _ _ ▸ hflag).1
  · rename_i hcons
    rw [if_neg hcons]
    rw [timestamps_rtUpdateHead] at hmem
    refine Ordered.updateHead ⟨fun x hx y hy => ?_, fun hflag x hx => ?_, h.keepsHead⟩
      fun x hx => hwindow x (hmem hx)
    · have hagrees := h.agrees x (hmem hx) y (hmem hy)
      rw [pivot] at hagrees ⊢
      cases hflag : b.timestampOverFlowState with
      | false => rwa [hflag] at hagrees
      | true =>
        rw [hflag] at hagrees
        rwa [if_neg (not_not.mpr (hnext hflag))]
    · exact h.behindTail hflag x (hmem hx)

/-! ## What has been reported -/

/-- What has been reported lies in the window, in order, and behind the frames of the table. -/
structure Reported (base : UINT32) (b : RealTimeJitterBuffer) : Prop where
  window : ∀ x ∈ timestamps b, 2 * Serial.ahead base x < 2 ^ 32
  past : ∀ x ∈ reportedTimestamps b, 2 * Serial.ahead base x < 2 ^ 32
  sorted : (reportedTimestamps b).Pairwise fun x y => Serial.ahead base x < Serial.ahead base y
  behind : ∀ x ∈ reportedTimestamps b, ∀ y ∈ timestamps b,
    Serial.ahead base x < Serial.ahead base y

theorem Reported.reportsInOrder (h : Reported base b) : ReportsInOrder b where
  once := h.sorted.imp fun hlt heq => by
    rw [heq] at hlt
    exact lt_irrefl _ hlt
  increasing := List.Pairwise.imp_of_mem (fun hx hy hlt =>
    (Serial.gt_iff_of_window (h.past _ hy) (h.past _ hx)).mpr hlt) h.sorted

/-- **A round reports the earliest frame and takes it out of the table.** -/
theorem Reported.round {i : Nat} (h : Reported base b) (ho : Ordered cb base b)
    (hf : IsEarliest b i r.frame) (ht : Trimmed (report b r) b')
    (hgone : r.frame.timestamp ∉ timestamps b') : Reported base b' := by
  have hreported : reportedTimestamps b' = reportedTimestamps b ++ [r.frame.timestamp] := by
    rw [reportedTimestamps, ht.reports, report, List.map_append]
    rfl
  have hsub : ∀ x ∈ timestamps b', x ∈ timestamps b := ht.timestamps.subset
  have hnew : ∀ y ∈ timestamps b',
      Serial.ahead base r.frame.timestamp < Serial.ahead base y := by
    intro y hy
    refine lt_of_le_of_ne (ho.oldest hf y (hsub y hy)) fun heq => hgone ?_
    rw [Serial.ahead_inj heq]
    exact hy
  refine ⟨fun x hx => h.window x (hsub x hx), ?_, ?_, ?_⟩
  · intro x hx
    rw [hreported, List.mem_append, List.mem_singleton] at hx
    rcases hx with hx | rfl
    · exact h.past x hx
    · exact h.window _ hf.mem_timestamps
  · rw [hreported, List.pairwise_append]
    refine ⟨h.sorted, List.pairwise_singleton _ _, fun x hx y hy => ?_⟩
    rw [List.mem_singleton.mp hy]
    exact h.behind x hx _ hf.mem_timestamps
  · intro x hx y hy
    rw [hreported, List.mem_append, List.mem_singleton] at hx
    rcases hx with hx | rfl
    · exact h.behind x hx y (hsub y hy)
    · exact hnew y hy

/-- What holds between two rounds of a push. -/
structure RoundOk (cb : RtCallbacks) (base : UINT32) (b : RealTimeJitterBuffer) : Prop where
  table : TableOk b
  ordered : Ordered cb base b
  reported : Reported base b

theorem RoundOk.evicted (h : RoundOk cb base b) (hev : evictHead b = some b') :
    RoundOk cb base b' := by
  obtain ⟨i, f, hf, rfl⟩ := evictHead_eq_some hev
  have hreport := tableOk_report h.table (.dropped f)
  have hfree := trimmed_rtFreePacketsInRange (report b (.dropped f)) f.firstSeqNum f.lastSeqNum
  have hat : (rtFreePacketsInRange (report b (.dropped f)) f.firstSeqNum f.lastSeqNum).frames[i]? =
      some f := by
    rw [frames_rtFreePacketsInRange]
    exact hf.at_index
  have htrim := hfree.trans (trimmed_rtRemoveFrame hat)
  have hgone := gone_rtRemoveFrame (hreport.trimmed hfree).nodup hat
  have hhead := (sameHead_rtFreePacketsInRange (report b (.dropped f)) f.firstSeqNum
    f.lastSeqNum).trans (sameHead_rtRemoveFrame _ i)
  have hround := htrim.trans (trimmed_delivered _)
  refine ⟨hreport.trimmed hround, ?_, h.reported.round h.ordered hf hround ?_⟩
  · refine Ordered.updateHead ?_ ?_
    · exact h.ordered.narrow ⟨hhead.1, hhead.2, hhead.3⟩ htrim.timestamps.subset
    · exact fun x hx => h.reported.window x (htrim.timestamps.subset hx)
  · rw [timestamps_rtUpdateHead]
    exact hgone

theorem Ordered.callFrameReady {n : Nat} (h : Ordered cb base b)
    (hwindow : ∀ x ∈ timestamps b, 2 * Serial.ahead base x < 2 ^ 32) (f : RtFrameEntry) :
    Ordered cb base (callFrameReady (cb.onFrameReady n) f b) := by
  unfold Jitter.callFrameReady
  split
  · exact h
  · rename_i next hnext
    exact h.dropBufferData hwindow fun hflag => h.keepsHead hflag n next hnext

theorem RoundOk.delivered (h : RoundOk cb base b) (hdel : deliverHead cb b = .delivered b') :
    RoundOk cb base b' := by
  obtain ⟨i, f, frameSize, hf, -, rfl⟩ := deliverHead_eq_delivered hdel
  have hreport := tableOk_report h.table (.ready f frameSize)
  have hcall := trimmed_callFrameReady (cb.onFrameReady b.reports.length) f
    (report b (.ready f frameSize))
  have htrim := hcall.trans (trimmed_removeReported _ f.timestamp)
  have hround := htrim.trans (trimmed_delivered _)
  have hordered : Ordered cb base (report b (.ready f frameSize)) :=
    h.ordered.narrow ⟨rfl, rfl, rfl⟩ fun x hx => hx
  refine ⟨hreport.trimmed hround, ?_, h.reported.round h.ordered hf hround ?_⟩
  · refine Ordered.updateHead ?_ ?_
    · have hremove := sameHead_removeReported (callFrameReady (cb.onFrameReady b.reports.length) f
        (report b (.ready f frameSize))) f.timestamp
      exact (hordered.callFrameReady h.reported.window f).narrow ⟨hremove.1, hremove.2, hremove.3⟩
        (trimmed_removeReported _ f.timestamp).timestamps.subset
    · exact fun x hx => h.reported.window x (htrim.timestamps.subset hx)
  · rw [timestamps_rtUpdateHead]
    exact gone_removeReported (hreport.trimmed hcall).nodup

theorem RoundOk.failed (h : RoundOk cb base b)
    (htaken : ∀ n, (cb.onFrameReady n).succeeds = true ∨ (cb.onFrameReady n).drops.isSome = true)
    (hfail : deliverHead cb b = .failed b') : RoundOk cb base b' := by
  obtain ⟨i, f, frameSize, hf, hstatus, rfl⟩ := deliverHead_eq_failed hfail
  have hreport := tableOk_report h.table (.ready f frameSize)
  have hcall := trimmed_callFrameReady (cb.onFrameReady b.reports.length) f
    (report b (.ready f frameSize))
  have hordered : Ordered cb base (report b (.ready f frameSize)) :=
    h.ordered.narrow ⟨rfl, rfl, rfl⟩ fun x hx => hx
  refine ⟨hreport.trimmed hcall, hordered.callFrameReady h.reported.window f,
    h.reported.round h.ordered hf hcall ?_⟩
  -- the callback has dropped the range it was given
  rcases htaken b.reports.length with hok | hdrops
  · rw [hok] at hstatus
    cases hstatus
  · obtain ⟨next, hnext⟩ := Option.isSome_iff_exists.mp hdrops
    rw [callFrameReady, hnext]
    exact gone_rtDropBufferData hreport.nodup hreport.placed hf.mem next

/-! ## Runs -/

/-- What holds between two pushes. -/
structure PushOk (base : UINT32) (b : RealTimeJitterBuffer) : Prop where
  table : TableOk b
  reported : Reported base b

theorem PushOk.stored (h : PushOk base b) (hp : 2 * Serial.ahead base p.header.timestamp < 2 ^ 32)
    (htaken : TakenInOrder cb b p) :
    RoundOk cb base (rtStore cb.depayPayload (rtTrack b p) p).buffer := by
  have htrack := (sameTable_rtTrack b p).1
  have hts : timestamps (rtTrack b p) = timestamps b := by
    rw [timestamps, htrack.frames, timestamps]
  have hreports : reportedTimestamps (rtTrack b p) = reportedTimestamps b := by
    rw [reportedTimestamps, htrack.reports, reportedTimestamps]
  have hok := h.table.store cb.depayPayload p
  obtain ⟨frames, stale, ts, seq, ring, freed, hrun, hframes, hhead, -⟩ :=
    rtStore_eq cb.depayPayload (rtTrack b p) p
  rw [hrun] at hok ⊢
  rw [hts] at hframes
  change frames.map (·.timestamp) = pushedTimestamps b p at hframes
  have hwindow : ∀ x ∈ pushedTimestamps b p, 2 * Serial.ahead base x < 2 ^ 32 := by
    intro x hx
    rw [pushedTimestamps] at hx
    split at hx
    · rw [List.mem_append, List.mem_singleton] at hx
      rcases hx with hx | rfl
      · exact h.reported.window x hx
      · exact hp
    · exact h.reported.window x hx
  have hordered : Ordered cb base { rtTrack b p with
      frames := frames, stale := stale, headTimestamp := ts, headSequenceNumber := seq,
      pktRing := ring, freed := freed } := by
    refine ⟨fun x hx y hy => ?_, fun hflag x hx => ?_, htaken.keepsHead⟩
    · change x ∈ frames.map (·.timestamp) at hx
      change y ∈ frames.map (·.timestamp) at hy
      rw [hframes] at hx hy
      have hcompared := htaken.compared x hx y hy
      rw [rtTimestampCompare_eq_lt, Serial.gt_iff_of_window (hwindow y hy) (hwindow x hx), pivot]
        at hcompared
      rw [pivot]
      cases hflag : (rtTrack b p).timestampOverFlowState with
      | false => rwa [hflag] at hcompared
      | true =>
        rw [hflag] at hcompared
        rwa [hhead hflag]
    · change x ∈ frames.map (·.timestamp) at hx
      rw [hframes] at hx
      exact htaken.behindTail hflag x hx
  refine ⟨hok, hordered, fun x hx => ?_, ?_, ?_, fun x hx y hy => ?_⟩
  · change x ∈ frames.map (·.timestamp) at hx
    rw [hframes] at hx
    exact hwindow x hx
  · change ∀ x ∈ reportedTimestamps (rtTrack b p), _
    rw [hreports]
    exact h.reported.past
  · change (reportedTimestamps (rtTrack b p)).Pairwise _
    rw [hreports]
    exact h.reported.sorted
  · change x ∈ reportedTimestamps (rtTrack b p) at hx
    change y ∈ frames.map (·.timestamp) at hy
    rw [hreports] at hx
    rw [hframes, pushedTimestamps] at hy
    split at hy
    · rename_i hopens
      rw [List.mem_append, List.mem_singleton] at hy
      rcases hy with hy | rfl
      · exact h.reported.behind x hx y hy
      · exact (Serial.gt_iff_of_window hp (h.reported.past x hx)).mp (htaken.fresh hopens x hx)
    · exact h.reported.behind x hx y hy

/-- **A push that takes its packet in order reports in order.** -/
theorem PushOk.step (h : PushOk base b) (hp : 2 * Serial.ahead base p.header.timestamp < 2 ^ 32)
    (htaken : TakenInOrder cb b p) : PushOk base (pushStep cb b p) := by
  have hround : RoundOk cb base (pushStep cb b p) :=
    rtPush_inv (h.stored hp htaken) (fun _ _ => RoundOk.evicted) (fun _ _ => RoundOk.delivered)
      (fun _ _ hb => hb.failed htaken.taken)
  exact ⟨hround.table, hround.reported⟩

theorem pushOk_created {maxLatency clockRate : UINT32} {single : Bool}
    (h : createRealTimeJitterBuffer maxLatency clockRate single = some b) : PushOk base b := by
  unfold createRealTimeJitterBuffer at h
  split at h
  · cases h
  · cases h
    refine ⟨⟨List.nodup_nil, fun slot q hq => ?_, Or.inl rfl⟩, ?_, ?_, List.Pairwise.nil, ?_⟩
    · cases hq
    · exact List.forall_mem_nil _
    · exact List.forall_mem_nil _
    · exact List.forall_mem_nil _

/-- **Every timestamp is reported once and in order** while no push opens a frame behind a reported
one, the comparison follows the wrap-around order, and the callback takes what it is handed. -/
theorem reported_in_order {maxLatency clockRate : UINT32} {single : Bool} {b : RealTimeJitterBuffer}
    (hb : createRealTimeJitterBuffer maxLatency clockRate single = some b)
    {packets : List InboundRtpPacket}
    (hwindow : ∀ p ∈ packets, 2 * Serial.ahead base p.header.timestamp < 2 ^ 32)
    (htaken : Steps.Each (pushStep cb) (TakenInOrder cb) b packets) :
    Steps.Always (pushStep cb) ReportsInOrder b packets := by
  have hdomain : Steps.Each (pushStep cb)
      (fun _ p => 2 * Serial.ahead base p.header.timestamp < 2 ^ 32) b packets :=
    Steps.each_iff.mpr fun pre p post heq => hwindow p (by simp [heq])
  have hrun : Steps.Always (pushStep cb) (PushOk base) b packets :=
    Steps.Each.inv (pushOk_created hb) (fun _ _ hok hstep => hok.step hstep.1 hstep.2)
      (hdomain.and htaken)
  exact hrun.mono fun _ hok => hok.reported.reportsInOrder

/-! ## Sample runs -/

/-- A depayloader for the sample packets and a callback that only says yes. -/
def plainCallbacks : RtCallbacks where
  depayPayload payload _ := (BitVec.ofNat 32 payload.length, payload == [1])
  onFrameReady _ := ⟨none, true⟩

def plainBuffer : RealTimeJitterBuffer :=
  (createRealTimeJitterBuffer 0 90000 false).get (by decide)

theorem createRealTimeJitterBuffer_plain :
    createRealTimeJitterBuffer 0 90000 false = some plainBuffer :=
  (Option.some_get _).symm

/-- What remains to be tested of `TakenInOrder` for these callbacks. -/
def takenCheck (b : RealTimeJitterBuffer) (p : InboundRtpPacket) : Bool :=
  (!opensFrame (rtTrack b p) p ||
      (reportedTimestamps b).all fun x => Serial.gt p.header.timestamp x) &&
    (pushedTimestamps b p).all fun x =>
      ((pushedTimestamps b p).all fun y =>
        (rtTimestampCompare (rtTrack b p) x y = .lt) == decide (Serial.gt y x)) &&
      Serial.ge (rtTrack b p).tailTimestamp x

theorem TakenInOrder.of_takenCheck (h : takenCheck b p = true) :
    TakenInOrder plainCallbacks b p := by
  simp only [takenCheck, Bool.and_eq_true, Bool.or_eq_true, Bool.not_eq_true', List.all_eq_true,
    decide_eq_true_eq, beq_iff_eq, decide_eq_decide] at h
  refine ⟨fun hopens x hx => ?_, fun x hx => (h.2 x hx).1, fun _ x hx => (h.2 x hx).2,
    fun _ => Or.inl rfl, fun _ n ts hts => by cases hts⟩
  rcases h.1 with hnot | hall
  · rw [hnot] at hopens
    cases hopens
  · exact hall x hx

/-- A frame of two packets in front of the wrap, and one behind it that comes between them. -/
def aroundWrap : List InboundRtpPacket :=
  [samplePacket 10 4294966000 false true, samplePacket 12 1000 true true,
    samplePacket 11 4294966000 true false]

theorem reported_in_order_around_wrap :
    (aroundWrap.foldl (pushStep plainCallbacks) plainBuffer).reports.map (·.frame.timestamp) =
        [4294966000, 1000] ∧
      Steps.Always (pushStep plainCallbacks) ReportsInOrder plainBuffer aroundWrap := by
  have hwindow : ∀ p ∈ aroundWrap, 2 * Serial.ahead 4294966000 p.header.timestamp < 2 ^ 32 := by
    decide +kernel
  refine ⟨by decide +kernel, reported_in_order createRealTimeJitterBuffer_plain hwindow ?_⟩
  exact ⟨.of_takenCheck (by decide +kernel), .of_takenCheck (by decide +kernel),
    .of_takenCheck (by decide +kernel), trivial⟩

/-- Packets 10 and 12 are frames of their own, packet 11 comes late: its frame is reported behind a
newer one. -/
theorem late_frame_reported :
    (∀ p ∈ [samplePacket 10 1000 true true, samplePacket 12 3000 true true,
      samplePacket 11 2000 true true], 2 * Serial.ahead 0 p.header.timestamp < 2 ^ 32) ∧
    reportedTimestamps ([samplePacket 10 1000 true true, samplePacket 12 3000 true true,
      samplePacket 11 2000 true true].foldl (pushStep plainCallbacks) plainBuffer) =
        [1000, 3000, 2000] ∧
    ¬ ReportsInOrder ([samplePacket 10 1000 true true, samplePacket 12 3000 true true,
      samplePacket 11 2000 true true].foldl (pushStep plainCallbacks) plainBuffer) := by
  have hreported : reportedTimestamps ([samplePacket 10 1000 true true,
      samplePacket 12 3000 true true, samplePacket 11 2000 true true].foldl
        (pushStep plainCallbacks) plainBuffer) = [1000, 3000, 2000] := by decide +kernel
  refine ⟨by decide +kernel, hreported, fun h => ?_⟩
  have hincreasing := h.increasing
  rw [hreported] at hincreasing
  revert hincreasing
  decide +kernel

end KvsWebrtc.Jitter
