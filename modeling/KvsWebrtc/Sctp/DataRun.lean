import KvsWebrtc.Sctp.Receiver

/-!
# Runs of DATA chunks

What an established receiver does with a sequence of DATA chunks.  As long as all TSNs lie within
half the circle of a base `b`, the cumulative TSN only moves forward from `b`, and a TSN is new
exactly when it lies beyond the cumulative TSN (`newTsn_iff`).

Principal result: `delivered_at_most_once` — which sequences of whole messages deliver no TSN twice.
-/

namespace KvsWebrtc.Sctp

/-! ## An established receiver knows its peer's TSNs -/

/-- In session the peer's initial TSN is known, and T1 runs only until the association is
established. -/
structure KnowsPeer (h : Host) : Prop where
  valid : InSession h → h.assoc.peerCumulativeTsnValid = true
  t1 : h.assoc.state = .ESTABLISHED → h.assoc.t1InitExpiry = 0

section

variable {h h' : Host}

theorem KnowsPeer.congr (hk : KnowsPeer h) (hst : h'.assoc.state = h.assoc.state)
    (hvalid : h'.assoc.peerCumulativeTsnValid = h.assoc.peerCumulativeTsnValid)
    (ht1 : h'.assoc.t1InitExpiry = h.assoc.t1InitExpiry) : KnowsPeer h' := by
  refine ⟨fun hin => ?_, fun hest => ?_⟩
  · rw [hvalid]
    exact hk.valid (hin.imp (hst.symm.trans ·) (hst.symm.trans ·))
  · rw [ht1]
    exact hk.t1 (hst.symm.trans hest)

theorem KnowsPeer.of_trackSide (hk : KnowsPeer h) (hst : h'.trackSide.state = h.trackSide.state)
    (hvalid : h'.trackSide.peerCumulativeTsnValid = h.trackSide.peerCumulativeTsnValid)
    (ht1 : h'.trackSide.t1InitExpiry = h.trackSide.t1InitExpiry) : KnowsPeer h' :=
  hk.congr hst hvalid ht1

theorem KnowsPeer.of_recvSide (hk : KnowsPeer h) (heq : h'.recvSide = h.recvSide) :
    KnowsPeer h' :=
  hk.congr (congrArg RecvSide.state heq) (congrArg RecvSide.peerCumulativeTsnValid heq)
    (congrArg RecvSide.t1InitExpiry heq)

theorem KnowsPeer.of_out (h1 : h.assoc.state ≠ .COOKIE_ECHOED) (h2 : h.assoc.state ≠ .ESTABLISHED) :
    KnowsPeer h :=
  ⟨fun hin => (hin.elim h1 h2).elim, fun hest => (h2 hest).elim⟩

theorem sctpHandleInitAck_knowsPeer (hk : KnowsPeer h) (pValue : Bytes) :
    KnowsPeer (sctpHandleInitAck h pValue) := by
  unfold sctpHandleInitAck
  split
  · exact hk
  · split
    · exact hk
    · rename_i hst
      split
      · refine ⟨fun _ => rfl, fun hest => ?_⟩
        have hest : h.assoc.state = .ESTABLISHED := hest
        rw [hest] at hst
        exact absurd hst (by decide)
      · exact ⟨fun _ => rfl, fun hest => by cases hest⟩

theorem sctpHandleCookieEcho_knowsPeer (hk : KnowsPeer h) (pValue : Bytes) :
    KnowsPeer (sctpHandleCookieEcho h pValue) := by
  unfold sctpHandleCookieEcho
  split
  · exact hk
  · simp only
    split
    · exact hk
    · have haccept : KnowsPeer (acceptCookie h (SctpCookie.ofBytes pValue)) :=
        ⟨fun _ => rfl, fun _ => rfl⟩
      exact haccept.of_recvSide (sctpFlushSendQueue_recvSide _)

theorem sctpHandleCookieAck_knowsPeer (hk : KnowsPeer h) : KnowsPeer (sctpHandleCookieAck h) := by
  unfold sctpHandleCookieAck
  split
  · exact hk
  · rename_i hst
    rw [not_not] at hst
    have hest : KnowsPeer { h with assoc.state := .ESTABLISHED, assoc.t1InitExpiry := 0 } :=
      ⟨fun _ => hk.valid (.inl hst), fun _ => rfl⟩
    exact hest.of_recvSide (sctpFlushSendQueue_recvSide _)

theorem sctpHandleData_knowsPeer (hk : KnowsPeer h) (messageFn : Bool) (flags : UINT8)
    (pValue : Bytes) : KnowsPeer (sctpHandleData h messageFn flags pValue) := by
  by_cases h0 : pValue.length < 12 ∨ h.assoc.state ≠ .ESTABLISHED
  · rw [sctpHandleData_ignored h0]
    exact hk
  · rw [not_or, not_not] at h0
    have hlen : 12 ≤ pValue.length := by omega
    have hvalid := hk.valid (.inr h0.2)
    by_cases hnew : NewTsn h (getUnalignedInt32BigEndian pValue 0)
    · have hside := sctpHandleData_trackSide messageFn flags hlen h0.2 hvalid hnew
      refine hk.of_trackSide ?_ ?_ ?_ <;> rw [hside]
    · exact hk.of_recvSide (sctpHandleData_old messageFn flags hlen h0.2 hvalid hnew)

theorem sctpHandleForwardTsn_knowsPeer (hk : KnowsPeer h) (pValue : Bytes) :
    KnowsPeer (sctpHandleForwardTsn h pValue) := by
  by_cases hlen : pValue.length < 4
  · unfold sctpHandleForwardTsn
    rw [if_pos hlen]
    exact hk
  · by_cases hgt : TSN_GT (getUnalignedInt32BigEndian pValue 0) h.assoc.peerCumulativeTsn
    · have hside := sctpHandleForwardTsn_trackSide (by omega) hgt
      refine hk.of_trackSide ?_ ?_ ?_ <;> rw [hside]
    · unfold sctpHandleForwardTsn
      rw [if_neg hlen]
      simp only
      rw [if_neg hgt]
      exact hk.of_recvSide (sctpSendSack_recvSide _)

theorem sctpChunkDispatch_knowsPeer (hk : KnowsPeer h) (messageFn : Bool) (c : SctpChunk) :
    KnowsPeer (sctpChunkDispatch messageFn h c) := by
  refine sctpChunkDispatch_cases (P := KnowsPeer) (fun _ => ?_)
    (fun _ => sctpHandleInitAck_knowsPeer hk _) (fun _ => sctpHandleCookieEcho_knowsPeer hk _)
    (fun _ => sctpHandleCookieAck_knowsPeer hk) (fun _ => sctpHandleData_knowsPeer hk _ _ _)
    (fun _ => hk.of_recvSide (sctpHandleSack_recvSide h _))
    (fun _ => sctpHandleForwardTsn_knowsPeer hk _) (fun _ => ?_) (fun _ => ?_) (fun _ => ?_)
    (fun _ => ?_) hk
  · rcases sctpHandleInit_sends h c.value with heq | ⟨vtag, w, heq⟩
    · rw [heq]
      exact hk
    · rw [heq]
      exact hk.of_recvSide rfl
  · unfold handleHeartbeat
    simp only
    split
    · exact hk.of_recvSide rfl
    · exact hk.of_recvSide rfl
  · exact .of_out (fun h => nomatch h) (fun h => nomatch h)
  · exact .of_out (fun h => nomatch h) (fun h => nomatch h)
  · exact .of_out (fun h => nomatch h) (fun h => nomatch h)

theorem checkT1_knowsPeer (hk : KnowsPeer h) (nowMs : UINT64) :
    KnowsPeer (checkT1 h nowMs).1 := by
  have hkeep : h.assoc.t1InitExpiry ≠ 0 → ∀ h' : Host, h'.assoc.state = h.assoc.state →
      h'.assoc.peerCumulativeTsnValid = h.assoc.peerCumulativeTsnValid → KnowsPeer h' := by
    intro ht1 h' hst hvalid
    refine ⟨fun hin => ?_, fun hest => absurd (hk.t1 (hst.symm.trans hest)) ht1⟩
    rw [hvalid]
    exact hk.valid (hin.imp (hst.symm.trans ·) (hst.symm.trans ·))
  unfold checkT1
  simp only
  split
  · rename_i hfire
    split
    · exact .of_out (fun h => nomatch h) (fun h => nomatch h)
    · split
      · exact hkeep hfire.1 _ rfl rfl
      · split
        · exact hkeep hfire.1 _ rfl rfl
        · exact hkeep hfire.1 _ rfl rfl
  · exact hk

theorem move_knowsPeer (hk : KnowsPeer h) (st : Step) : KnowsPeer (h.move st) := by
  cases st with
  | connect => exact .of_out (fun h => nomatch h) (fun h => nomatch h)
  | send m => exact hk.of_recvSide (sctpAssocSend_recvSide h m)
  | chunk messageFn c => exact sctpChunkDispatch_knowsPeer hk messageFn c
  | checkTimers nowMs =>
    have h1 := checkT1_knowsPeer hk nowMs
    show KnowsPeer (sctpAssocCheckTimers h nowMs)
    unfold sctpAssocCheckTimers
    simp only
    split
    · exact h1
    · exact h1.of_recvSide (t3_recvSide _ nowMs)
  | shutdown =>
    show KnowsPeer (sctpAssocShutdown h)
    unfold sctpAssocShutdown
    split
    · exact hk
    · exact .of_out (fun h => nomatch h) (fun h => nomatch h)

theorem moves_knowsPeer (hk : KnowsPeer h) (steps : List Step) : KnowsPeer (h.moves steps) := by
  induction steps generalizing h with
  | nil => exact hk
  | cons st steps ih => exact ih (move_knowsPeer hk st)

end

theorem run_knowsPeer (clock : Nat → UINT64) (localPort remotePort mtu : UINT16) (ops : List Op) :
    KnowsPeer ((sctpAssocInit clock localPort remotePort mtu).run ops) := by
  rw [Host.run_eq_moves]
  refine moves_knowsPeer (.of_out ?_ ?_) _
  · exact fun hst => by cases hst
  · exact fun hst => by cases hst

/-! ## TSNs within half the circle -/

/-- The tracking state lies within half the circle from `b`. -/
structure InWindow (b cum : UINT32) (l : List UINT32) : Prop where
  cum : Serial.ahead b cum < 2 ^ 31
  received : ∀ t ∈ l, Serial.ahead b t < 2 ^ 31

theorem ahead_succ_window {b cum : UINT32} (h : Serial.ahead b cum < 2 ^ 31) :
    Serial.ahead b (cum + 1) = Serial.ahead b cum + 1 :=
  Serial.ahead_add (n := 1) (by omega)

theorem beyond_iff {b cum t : UINT32} (hcum : Serial.ahead b cum < 2 ^ 31)
    (ht : Serial.ahead b t < 2 ^ 31) :
    t = cum + 1 ∨ TSN_GT t (cum + 1) ↔ Serial.ahead b cum < Serial.ahead b t := by
  have hnext := ahead_succ_window hcum
  rw [tsn_gt_iff]
  constructor
  · rintro (rfl | hgt)
    · omega
    · have htrans := Serial.ahead_trans (a := b) (b := cum + 1) (c := t) (by omega)
      omega
  · intro hlt
    have hdist := Serial.ahead_of_le (c := b) (t := cum + 1) (u := t) (by omega)
    by_cases h0 : Serial.ahead (cum + 1) t = 0
    · exact .inl (Serial.ahead_eq_zero.mp h0)
    · exact .inr (by omega)

theorem newTsn_iff {b t : UINT32} {h : Host}
    (hcum : Serial.ahead b h.assoc.peerCumulativeTsn < 2 ^ 31) (ht : Serial.ahead b t < 2 ^ 31) :
    NewTsn h t ↔ Serial.ahead b h.assoc.peerCumulativeTsn < Serial.ahead b t :=
  beyond_iff hcum ht

theorem swapRemove_subset {l : List UINT32} {k : Nat} (hk : k < l.length) {t : UINT32}
    (ht : t ∈ swapRemove l k) : t ∈ l :=
  (swapRemove_perm hk).mem_iff.mp (List.mem_cons_of_mem _ ht)

theorem advanceCumTsn_window {b : UINT32} :
    ∀ (fuel : Nat) (cum : UINT32) (l : List UINT32), InWindow b cum l →
      InWindow b (advanceCumTsn fuel cum l).1 (advanceCumTsn fuel cum l).2 ∧
        Serial.ahead b cum ≤ Serial.ahead b (advanceCumTsn fuel cum l).1
  | 0, cum, l, hw => ⟨hw, Nat.le_refl _⟩
  | fuel + 1, cum, l, hw => by
    unfold advanceCumTsn
    split
    · rename_i k hk
      obtain ⟨hlt, heq, _⟩ := List.findIdx?_eq_some_iff_getElem.mp hk
      have hcum : l[k] = cum + 1 := by simpa using heq
      have hin := hw.received _ (List.getElem_mem hlt)
      rw [hcum] at hin
      have hnext := ahead_succ_window hw.cum
      obtain ⟨hw', hle⟩ := advanceCumTsn_window fuel (cum + 1) (swapRemove l k)
        ⟨hin, fun t ht => hw.received t (swapRemove_subset hlt ht)⟩
      exact ⟨hw', by omega⟩
    · exact ⟨hw, Nat.le_refl _⟩

theorem InWindow.after {b cum tsn : UINT32} {l : List UINT32} (hw : InWindow b cum l)
    (ht : Serial.ahead b tsn < 2 ^ 31) :
    InWindow b (trackedAfter cum l tsn).1 (trackedAfter cum l tsn).2 ∧
      Serial.ahead b cum ≤ Serial.ahead b (trackedAfter cum l tsn).1 := by
  unfold trackedAfter
  split
  · rename_i heq
    have hnext := ahead_succ_window hw.cum
    obtain ⟨hw', hle⟩ := advanceCumTsn_window (l.length + 1) tsn l ⟨ht, hw.received⟩
    rw [← heq] at hnext
    exact ⟨hw', by omega⟩
  · split
    · refine ⟨⟨hw.cum, fun t hmem => ?_⟩, Nat.le_refl _⟩
      rcases List.mem_append.mp hmem with hmem | hmem
      · exact hw.received t hmem
      · rw [List.mem_singleton.mp hmem]
        exact ht
    · exact ⟨hw, Nat.le_refl _⟩

/-! ## Sequences of DATA chunks -/

def SctpChunk.tsn (c : SctpChunk) : UINT32 := getUnalignedInt32BigEndian c.value 0

/-- The call of `messageFn` for a chunk that holds a whole message. -/
def SctpChunk.call (c : SctpChunk) : Delivery :=
  ⟨getUnalignedInt16BigEndian c.value 4, getUnalignedInt32BigEndian c.value 8, c.value.drop 12⟩

def Host.handleData (h : Host) (c : SctpChunk) : Host := sctpHandleData h true c.flags c.value

/-- The delivery block of `sctpHandleData`. -/
def Host.deliver (h : Host) (c : SctpChunk) : Host :=
  deliverData h c.flags (getUnalignedInt16BigEndian c.value 4) (getUnalignedInt16BigEndian c.value 6)
    (getUnalignedInt32BigEndian c.value 8) (c.value.drop 12)

def Host.handleDatas (h : Host) (cs : List SctpChunk) : Host := cs.foldl Host.handleData h

/-- A DATA chunk with both B and E set. -/
structure SctpChunk.Whole (c : SctpChunk) : Prop where
  length : 12 ≤ c.value.length
  begins : c.flags &&& SCTP_DATA_FLAG_BEGIN ≠ 0
  ends : c.flags &&& SCTP_DATA_FLAG_END ≠ 0

/-- The part of a host that reassembles and delivers messages. -/
structure ReasmSide where
  buf : Option Bytes
  streamId : UINT16
  ppid : UINT32
  inProgress : Bool
  delivered : List Delivery

def Host.reasmSide (h : Host) : ReasmSide where
  buf := h.assoc.reassemblyBuf
  streamId := h.assoc.reassemblyStreamId
  ppid := h.assoc.reassemblyPpid
  inProgress := h.assoc.reassemblyInProgress
  delivered := h.delivered

/-- An established receiver that knows its peer's TSNs. -/
structure Listens (h : Host) : Prop where
  state : h.assoc.state = .ESTABLISHED
  valid : h.assoc.peerCumulativeTsnValid = true

/-- A receiver whose TSNs lie within half the circle from `b`. -/
structure Receives (b : UINT32) (h : Host) : Prop extends Listens h where
  window : InWindow b h.assoc.peerCumulativeTsn h.assoc.receivedTsns

section

variable {b : UINT32} {h : Host} {c : SctpChunk}

theorem Listens.tracked (hl : Listens h) (hlen : 12 ≤ c.value.length) :
    ((h.handleData c).assoc.peerCumulativeTsn, (h.handleData c).assoc.receivedTsns) =
      if NewTsn h c.tsn then trackedAfter h.assoc.peerCumulativeTsn h.assoc.receivedTsns c.tsn
      else (h.assoc.peerCumulativeTsn, h.assoc.receivedTsns) := by
  split
  · rename_i hnew
    have hside := sctpHandleData_trackSide true c.flags hlen hl.state hl.valid hnew
    exact Prod.ext (congrArg TrackSide.peerCumulativeTsn hside)
      (congrArg TrackSide.receivedTsns hside)
  · rename_i hold
    have hside := sctpHandleData_old true c.flags hlen hl.state hl.valid hold
    exact Prod.ext (congrArg RecvSide.peerCumulativeTsn hside)
      (congrArg RecvSide.receivedTsns hside)

theorem Listens.handleData (hl : Listens h) (hlen : 12 ≤ c.value.length) :
    Listens (h.handleData c) := by
  by_cases hnew : NewTsn h c.tsn
  · have hside := sctpHandleData_trackSide true c.flags hlen hl.state hl.valid hnew
    exact ⟨(congrArg TrackSide.state hside).trans hl.state,
      (congrArg TrackSide.peerCumulativeTsnValid hside).trans hl.valid⟩
  · have hside := sctpHandleData_old true c.flags hlen hl.state hl.valid hnew
    exact ⟨(congrArg RecvSide.state hside).trans hl.state,
      (congrArg RecvSide.peerCumulativeTsnValid hside).trans hl.valid⟩

theorem Receives.handleData (hr : Receives b h) (hlen : 12 ≤ c.value.length)
    (ht : Serial.ahead b c.tsn < 2 ^ 31) :
    Receives b (h.handleData c) ∧ Serial.ahead b h.assoc.peerCumulativeTsn ≤
      Serial.ahead b (h.handleData c).assoc.peerCumulativeTsn := by
  have hnext := hr.toListens.handleData hlen
  have htrack := hr.tracked hlen
  split at htrack
  · obtain ⟨hw, hle⟩ := hr.window.after ht
    rw [← htrack] at hw hle
    exact ⟨⟨hnext, hw⟩, hle⟩
  · obtain ⟨hcum, hrecv⟩ := Prod.mk.inj htrack
    refine ⟨⟨hnext, ?_⟩, ?_⟩
    · rw [hcum, hrecv]
      exact hr.window
    · rw [hcum]

theorem Receives.handleDatas (hr : Receives b h) (cs : List SctpChunk)
    (hcs : ∀ c ∈ cs, 12 ≤ c.value.length ∧ Serial.ahead b c.tsn < 2 ^ 31) :
    Receives b (h.handleDatas cs) ∧ Serial.ahead b h.assoc.peerCumulativeTsn ≤
      Serial.ahead b (h.handleDatas cs).assoc.peerCumulativeTsn := by
  induction cs generalizing h with
  | nil => exact ⟨hr, Nat.le_refl _⟩
  | cons c cs ih =>
    obtain ⟨hlen, ht⟩ := hcs c List.mem_cons_self
    obtain ⟨hr', hle⟩ := hr.handleData hlen ht
    obtain ⟨hr'', hle'⟩ := ih hr' (fun c' hc' => hcs c' (List.mem_cons_of_mem _ hc'))
    exact ⟨hr'', Nat.le_trans hle hle'⟩

/-- Only a new TSN reaches the delivery block, which does not look at the tracking state. -/
theorem Listens.reasmSide (hl : Listens h) (hlen : 12 ≤ c.value.length) :
    (h.handleData c).reasmSide =
      if NewTsn h c.tsn then (h.deliver c).reasmSide else h.reasmSide := by
  have hack : ∀ h' : Host, (sctpSendSack h').reasmSide = h'.reasmSide := by
    intro h'
    unfold sctpSendSack
    split <;> rfl
  have hblock : ∀ (cum : UINT32) (l : List UINT32), (Host.deliver { h with
      assoc.peerCumulativeTsn := cum, assoc.receivedTsns := l, assoc.needSack := true }
      c).reasmSide = (h.deliver c).reasmSide := by
    intro cum l
    unfold Host.deliver deliverData
    simp only
    split
    · rfl
    · split
      · split <;> rfl
      · split
        · split <;> rfl
        · rfl
  unfold Host.handleData
  rw [sctpHandleData_eq hlen hl.state hl.valid]
  by_cases hnew : NewTsn h (getUnalignedInt32BigEndian c.value 0)
  · rw [if_pos hnew, if_pos (show NewTsn h c.tsn from hnew), hack, if_pos rfl, trackTsn_eq]
    exact hblock _ _
  · rw [if_neg hnew, if_neg (show ¬ NewTsn h c.tsn from hnew), hack]
    rfl

theorem Listens.delivered_whole (hl : Listens h) (hc : c.Whole) :
    (h.handleData c).delivered =
      if NewTsn h c.tsn then h.delivered ++ [c.call] else h.delivered := by
  have hside := congrArg ReasmSide.delivered (hl.reasmSide hc.length)
  have hblock : (h.deliver c).delivered = h.delivered ++ [c.call] := by
    unfold Host.deliver deliverData
    rw [if_pos ⟨hc.begins, hc.ends⟩]
    rfl
  split
  · rename_i hnew
    rw [if_pos hnew] at hside
    exact hside.trans hblock
  · rename_i hold
    rw [if_neg hold] at hside
    exact hside

end

/-! ## At most once -/

/-- Handling the chunk passes its payload to `messageFn`. -/
def Delivers (h : Host) (c : SctpChunk) : Prop := (h.handleData c).delivered = h.delivered ++ [c.call]

/-- No two chunks of the sequence with the same TSN are both delivered. -/
def AtMostOnce (h : Host) (cs : List SctpChunk) : Prop :=
  ∀ pre c mid c' post, cs = pre ++ c :: (mid ++ c' :: post) → c.tsn = c'.tsn →
    Delivers (h.handleDatas pre) c → ¬ Delivers (h.handleDatas (pre ++ c :: mid)) c'

/-- A chunk that repeats a TSN arrives when that TSN is at or below the cumulative TSN. -/
def RepeatsAreOld (h : Host) (cs : List SctpChunk) : Prop :=
  ∀ pre c mid c' post, cs = pre ++ c :: (mid ++ c' :: post) → c.tsn = c'.tsn →
    TSN_LTE c'.tsn (h.handleDatas (pre ++ c :: mid)).assoc.peerCumulativeTsn

theorem Listens.delivers_iff {h : Host} {c : SctpChunk} (hl : Listens h) (hc : c.Whole) :
    Delivers h c ↔ NewTsn h c.tsn := by
  unfold Delivers
  rw [hl.delivered_whole hc]
  split
  · rename_i hnew
    exact ⟨fun _ => hnew, fun _ => rfl⟩
  · rename_i hold
    refine ⟨fun heq => ?_, fun hnew => absurd hnew hold⟩
    have := congrArg List.length heq
    simp at this

theorem tsn_lte_iff_not_new {b t : UINT32} {h : Host}
    (hcum : Serial.ahead b h.assoc.peerCumulativeTsn < 2 ^ 31) (ht : Serial.ahead b t < 2 ^ 31) :
    TSN_LTE t h.assoc.peerCumulativeTsn ↔ ¬ NewTsn h t := by
  rw [newTsn_iff hcum ht]
  unfold TSN_LTE
  rw [Serial.le_iff_of_window (c := b) (by omega) (by omega)]
  omega

theorem Host.handleDatas_append (h : Host) (cs cs' : List SctpChunk) :
    h.handleDatas (cs ++ cs') = (h.handleDatas cs).handleDatas cs' := List.foldl_append

/-- **At most once.**  An established association handles whole messages whose TSNs, like those it
tracks already, are less than 2³¹ ahead of its cumulative TSN.  No payload is delivered twice under
one TSN exactly when every repeated TSN has fallen to the cumulative TSN or below when it arrives
again. -/
theorem delivered_at_most_once (clock : Nat → UINT64) (localPort remotePort mtu : UINT16)
    (ops : List Op) (cs : List SctpChunk)
    (hst : ((sctpAssocInit clock localPort remotePort mtu).run ops).assoc.state = .ESTABLISHED)
    (hwhole : ∀ c ∈ cs, c.Whole)
    (hwin : ∀ t, t ∈ cs.map SctpChunk.tsn ∨
      t ∈ ((sctpAssocInit clock localPort remotePort mtu).run ops).assoc.receivedTsns →
      Serial.ahead ((sctpAssocInit clock localPort remotePort mtu).run ops).assoc.peerCumulativeTsn t
        < 2 ^ 31) :
    AtMostOnce ((sctpAssocInit clock localPort remotePort mtu).run ops) cs ↔
      RepeatsAreOld ((sctpAssocInit clock localPort remotePort mtu).run ops) cs := by
  have hvalid := (run_knowsPeer clock localPort remotePort mtu ops).valid (.inr hst)
  generalize (sctpAssocInit clock localPort remotePort mtu).run ops = h at *
  generalize hb : h.assoc.peerCumulativeTsn = b at hwin
  have hr : Receives b h := by
    refine ⟨⟨hst, hvalid⟩, ?_, fun t ht => hwin t (.inr ht)⟩
    rw [hb, Serial.ahead_self]
    decide
  have hcs : ∀ c ∈ cs, 12 ≤ c.value.length ∧ Serial.ahead b c.tsn < 2 ^ 31 := fun c hc =>
    ⟨(hwhole c hc).length, hwin c.tsn (.inl (List.mem_map_of_mem hc))⟩
  have hsub : ∀ {pre post : List SctpChunk}, cs = pre ++ post → ∀ c ∈ pre, c ∈ cs := by
    intro pre post heq c hc
    rw [heq]
    exact List.mem_append_left _ hc
  refine forall_congr' fun pre => forall_congr' fun c => forall_congr' fun mid =>
    forall_congr' fun c' => forall_congr' fun post => ?_
  refine imp_congr_right fun heq => imp_congr_right fun htsn => ?_
  have hc : c ∈ cs := by simp [heq]
  have hc' : c' ∈ cs := by simp [heq]
  have hpre := hr.handleDatas pre (fun x hx => hcs x (hsub heq x hx))
  have hmid := hpre.1.handleDatas (c :: mid) (fun x hx => hcs x (by
    rw [heq]
    rcases List.mem_cons.mp hx with rfl | hx <;> simp [*]))
  rw [← Host.handleDatas_append] at hmid
  rw [hpre.1.delivers_iff (hwhole c hc), hmid.1.delivers_iff (hwhole c' hc'),
    tsn_lte_iff_not_new hmid.1.window.cum (hcs c' hc').2, htsn]
  constructor
  · intro honce hnew
    refine honce ?_ hnew
    rw [newTsn_iff hmid.1.window.cum (hcs c' hc').2] at hnew
    rw [newTsn_iff hpre.1.window.cum (hcs c' hc').2]
    exact Nat.lt_of_le_of_lt hmid.2 hnew
  · exact fun hold _ => hold

/-- The first message of the sample peer again, after it was delivered: it is old by then. -/
theorem delivered_at_most_once_inOrder :
    AtMostOnce ((sctpAssocInit (fun _ => 7) 5000 5000 1150).run
      [.handlePacket true sampleCookieEcho]) [sampleData, sampleData] := by
  have htwo : ∀ {x y z : SctpChunk} {pre mid post : List SctpChunk},
      [x, x] = pre ++ y :: (mid ++ z :: post) → pre = [] ∧ y = x ∧ mid = [] ∧ z = x := by
    intro x y z pre mid post heq
    have hlen := congrArg List.length heq
    simp only [List.length_cons, List.length_append, List.length_nil] at hlen
    obtain rfl : pre = [] := List.length_eq_zero_iff.mp (by omega)
    obtain rfl : mid = [] := List.length_eq_zero_iff.mp (by omega)
    simp only [List.nil_append, List.cons.injEq] at heq
    exact ⟨rfl, heq.1.symm, rfl, heq.2.1.symm⟩
  have hwhole : sampleData.Whole := ⟨by decide, by decide, by decide⟩
  refine (delivered_at_most_once (fun _ => 7) 5000 5000 1150 _ [sampleData, sampleData]
    (by decide +kernel) (by simp [hwhole]) (fun t ht => ?_)).mpr (fun pre c mid c' post heq _ => ?_)
  · have hnil : ((sctpAssocInit (fun _ => 7) 5000 5000 1150).run
        [.handlePacket true sampleCookieEcho]).assoc.receivedTsns = [] := by decide +kernel
    have hts : t = 100 := by
      rw [hnil] at ht
      simpa [SctpChunk.tsn, sampleData, dataValue] using ht
    subst hts
    decide +kernel
  · obtain ⟨rfl, rfl, rfl, rfl⟩ := htwo heq
    decide +kernel

/-- A message two TSNs ahead of the first. -/
def sampleAhead : SctpChunk :=
  ⟨SCTP_CHUNK_DATA, wholeFlags false, dataValue 102 0 2 51 [9, 9, 9, 9]⟩

/-- The chunk with TSN 102 arrives twice while TSN 100 is missing, and is delivered twice. -/
theorem outOfOrder_delivered_twice :
    let h := (sctpAssocInit (fun _ => 7) 5000 5000 1150).run [.handlePacket true sampleCookieEcho]
    h.assoc.state = .ESTABLISHED ∧
      Serial.ahead h.assoc.peerCumulativeTsn sampleAhead.tsn < 2 ^ 31 ∧
      ¬ AtMostOnce h [sampleAhead, sampleAhead] := by
  refine ⟨by decide +kernel, by decide +kernel, fun honce => ?_⟩
  refine honce [] sampleAhead [] sampleAhead [] rfl rfl ?_ ?_
  · unfold Delivers
    decide +kernel
  · unfold Delivers
    decide +kernel

end KvsWebrtc.Sctp
