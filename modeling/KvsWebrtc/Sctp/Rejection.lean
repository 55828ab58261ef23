import KvsWebrtc.Sctp.SackEffect

/-!
# Packets that should have no effect

`sctpValidatePacket` lets the verification tag 0 pass for every chunk, because an INIT comes with it,
and `sctpHandleInitAck` stores what the INIT-ACK announces before it looks for the State Cookie.

`Ignored` says in which states a chunk has no effect at all: nothing of the association changes,
nothing is sent and nothing is delivered.

Principal result: `rejects_quietly_iff` — packets with a foreign tag and INIT-ACKs without a cookie have
no effect exactly when each of their chunks is ignored anyway.
-/

namespace KvsWebrtc.Sctp

/-! ## Chunks without effect -/

/-- The association already holds what the INIT-ACK announces. -/
def KnownInitAck (h : Host) (pValue : Bytes) : Prop :=
  h.assoc.peerVerificationTag = getUnalignedInt32BigEndian pValue 0 ∧
    h.assoc.peerArwnd = getUnalignedInt32BigEndian pValue 4 ∧
    h.assoc.peerCumulativeTsn = getUnalignedInt32BigEndian pValue 12 - 1 ∧
    h.assoc.peerCumulativeTsnValid = true

/-- The INIT-ACK has no acceptable State Cookie. -/
def NoCookie (pValue : Bytes) : Prop := findStateCookie pValue pValue.length 16 = none

/-- An INIT-ACK without a cookie that changes nothing. -/
def IdleInitAck (h : Host) (pValue : Bytes) : Prop :=
  pValue.length < 16 ∨ (h.assoc.state ≠ .COOKIE_WAIT ∧ h.assoc.state ≠ .CLOSED) ∨
    KnownInitAck h pValue

/-- A chunk other than INIT that has no effect. -/
structure Ignored (h : Host) (c : SctpChunk) : Prop where
  initAck : c.type = SCTP_CHUNK_INIT_ACK →
    c.value.length < 16 ∨ (h.assoc.state ≠ .COOKIE_WAIT ∧ h.assoc.state ≠ .CLOSED) ∨
      (NoCookie c.value ∧ KnownInitAck h c.value)
  cookieEcho : c.type = SCTP_CHUNK_COOKIE_ECHO → c.value.length < SCTP_COOKIE_SIZE ∨
    (SctpCookie.ofBytes c.value).magic1 ≠ SCTP_COOKIE_MAGIC1 ∨
    (SctpCookie.ofBytes c.value).magic2 ≠ SCTP_COOKIE_MAGIC2
  cookieAck : c.type = SCTP_CHUNK_COOKIE_ACK → h.assoc.state ≠ .COOKIE_ECHOED
  data : c.type = SCTP_CHUNK_DATA → c.value.length < 12 ∨ h.assoc.state ≠ .ESTABLISHED
  /-- Nothing new: the same window, no higher cumulative ack and no chunk that waits for it. -/
  sack : c.type = SCTP_CHUNK_SACK → c.value.length < 12 ∨
    (h.assoc.peerArwnd = getUnalignedInt32BigEndian c.value 4 ∧
      ¬ TSN_GT (getUnalignedInt32BigEndian c.value 0) h.assoc.cumulativeAckTsn ∧
      ∀ j, ¬ ((h.assoc.outstanding.get j).Waits ∧
        SackCovers c.value (h.assoc.outstanding.get j).tsn))
  forwardTsn : c.type = SCTP_CHUNK_FORWARD_TSN → c.value.length < 4 ∨
    (h.assoc.peerCumulativeTsnValid = false ∧ h.assoc.needSack = true ∧
      ¬ TSN_GT (getUnalignedInt32BigEndian c.value 0) h.assoc.peerCumulativeTsn)
  /-- Too long for an answer, of which only the common header is written. -/
  heartbeat : c.type = SCTP_CHUNK_HEARTBEAT →
    SCTP_MAX_PACKET_SIZE < SCTP_COMMON_HEADER_SIZE + (SCTP_CHUNK_HEADER_SIZE + c.value.length) ∧
      sctpWriteCommonHeader h.assoc.localPort h.assoc.remotePort h.assoc.peerVerificationTag ++
        h.assoc.outPacket.drop SCTP_COMMON_HEADER_SIZE = h.assoc.outPacket
  shutdown : c.type ≠ SCTP_CHUNK_SHUTDOWN
  shutdownAck : c.type ≠ SCTP_CHUNK_SHUTDOWN_ACK
  close : c.type = SCTP_CHUNK_SHUTDOWN_COMPLETE ∨ c.type = SCTP_CHUNK_ABORT → h.assoc.state = .CLOSED

/-! ## Transmissions show -/

/-- Nothing is taken back from `outbound`, and the outstanding table changes only with it. -/
structure Emits (h h' : Host) : Prop where
  length : h.outbound.length ≤ h'.outbound.length
  table : h'.outbound.length = h.outbound.length → h'.assoc.outstanding = h.assoc.outstanding

section

variable {h h' h'' : Host}

theorem Emits.refl (h : Host) : Emits h h := ⟨Nat.le_refl _, fun _ => rfl⟩

theorem Emits.trans (h1 : Emits h h') (h2 : Emits h' h'') : Emits h h'' := by
  have hle1 := h1.length
  have hle2 := h2.length
  refine ⟨Nat.le_trans hle1 hle2, fun heq => ?_⟩
  rw [h2.table (by omega), h1.table (by omega)]

theorem length_sendChunk (h : Host) (vtag : UINT32) (w : Written) (o : Origin) :
    (sendChunk h vtag w o).outbound.length = h.outbound.length + 1 := by
  unfold sendChunk sctpSendPacket
  simp

theorem Emits.of_sent (hlen : h'.outbound.length = h.outbound.length + 1) : Emits h h' :=
  ⟨by omega, fun heq => by omega⟩

theorem Emits.same (h1 : Emits h h') (ho : h''.outbound = h'.outbound)
    (ht : h''.assoc.outstanding = h'.assoc.outstanding) : Emits h h'' :=
  h1.trans ⟨by rw [ho], fun _ => ht⟩

theorem Emits.sends (h : Host) : QueueKeeps (Emits h) where
  tick hp := hp.same rfl rfl
  nextSsn _ hp := hp.same rfl rfl
  enqueueSend _ _ hp := hp.same rfl rfl
  enqueuePending _ _ hp := hp.same rfl rfl
  takeTsn hp := hp.same rfl rfl
  transmit _ _ _ _ _ _ _ hp := hp.trans (.of_sent (length_sendChunk _ _ _ _))
  startT3 _ _ hp := hp.same rfl rfl
  dequeueSend _ hp := hp.same rfl rfl
  evictPending _ hp := hp.same rfl rfl

theorem Emits.flush (h : Host) : Emits h (sctpFlushSendQueue h) := (Emits.sends h).flush (.refl h)

theorem Emits.drain (h : Host) : Emits h (sctpDrainPendingQueue h) := (Emits.sends h).drain (.refl h)

theorem ne_of_sent {g : Host} (hsent : h.outbound.length < g.outbound.length) : g ≠ h := by
  rintro rfl
  exact Nat.lt_irrefl _ hsent

/-! ## Each handler -/

theorem initAck_stored_iff (h : Host) (pValue : Bytes) :
    ({ h with
        assoc.peerVerificationTag := getUnalignedInt32BigEndian pValue 0
        assoc.peerArwnd := getUnalignedInt32BigEndian pValue 4
        assoc.peerCumulativeTsn := getUnalignedInt32BigEndian pValue 12 - 1
        assoc.peerCumulativeTsnValid := true } : Host).assoc = h.assoc ↔ KnownInitAck h pValue := by
  constructor
  · intro heq
    exact ⟨(congrArg SctpAssociation.peerVerificationTag heq).symm,
      (congrArg SctpAssociation.peerArwnd heq).symm,
      (congrArg SctpAssociation.peerCumulativeTsn heq).symm,
      (congrArg SctpAssociation.peerCumulativeTsnValid heq).symm⟩
  · rintro ⟨htag, harwnd, hcum, hvalid⟩
    rw [← htag, ← harwnd, ← hcum, ← hvalid]

/-- **An INIT-ACK without a cookie** stores what it announces. -/
theorem initAck_noCookie_iff {pValue : Bytes} (hn : NoCookie pValue) :
    ((sctpHandleInitAck h pValue).assoc = h.assoc ↔ IdleInitAck h pValue) ∧
      (sctpHandleInitAck h pValue = h ↔ IdleInitAck h pValue) := by
  unfold sctpHandleInitAck IdleInitAck
  by_cases hlen : pValue.length < 16
  · rw [if_pos hlen]
    exact ⟨⟨fun _ => .inl hlen, fun _ => rfl⟩, ⟨fun _ => .inl hlen, fun _ => rfl⟩⟩
  · rw [if_neg hlen]
    by_cases hst : h.assoc.state ≠ .COOKIE_WAIT ∧ h.assoc.state ≠ .CLOSED
    · rw [if_pos hst]
      exact ⟨⟨fun _ => .inr (.inl hst), fun _ => rfl⟩, ⟨fun _ => .inr (.inl hst), fun _ => rfl⟩⟩
    · rw [if_neg hst, show findStateCookie pValue pValue.length 16 = none from hn]
      have hiff := initAck_stored_iff h pValue
      refine ⟨hiff.trans ⟨fun hk => .inr (.inr hk), fun hk => ?_⟩, ⟨fun heq => ?_, fun hk => ?_⟩⟩
      · exact (hk.resolve_left hlen).resolve_left hst
      · exact .inr (.inr (hiff.mp (congrArg Host.assoc heq)))
      · obtain ⟨htag, harwnd, hcum, hvalid⟩ := (hk.resolve_left hlen).resolve_left hst
        rw [← htag, ← harwnd, ← hcum, ← hvalid]

theorem initAck_cookie_sends {pValue : Bytes} (hlen : ¬ pValue.length < 16)
    (hst : ¬ (h.assoc.state ≠ .COOKIE_WAIT ∧ h.assoc.state ≠ .CLOSED)) (hn : ¬ NoCookie pValue) :
    sctpHandleInitAck h pValue ≠ h := by
  obtain ⟨cookie, hc⟩ := Option.ne_none_iff_exists'.mp hn
  unfold sctpHandleInitAck
  rw [if_neg hlen, if_neg hst, hc]
  refine ne_of_sent ?_
  show h.outbound.length < (sendChunk _ _ _ _).outbound.length
  rw [length_sendChunk]
  exact Nat.lt_succ_self _

theorem cookieEcho_eq_self_iff (pValue : Bytes) : sctpHandleCookieEcho h pValue = h ↔
    pValue.length < SCTP_COOKIE_SIZE ∨ (SctpCookie.ofBytes pValue).magic1 ≠ SCTP_COOKIE_MAGIC1 ∨
      (SctpCookie.ofBytes pValue).magic2 ≠ SCTP_COOKIE_MAGIC2 := by
  unfold sctpHandleCookieEcho
  by_cases hlen : pValue.length < SCTP_COOKIE_SIZE
  · rw [if_pos hlen]
    exact ⟨fun _ => .inl hlen, fun _ => rfl⟩
  · rw [if_neg hlen]
    by_cases hm : (SctpCookie.ofBytes pValue).magic1 ≠ SCTP_COOKIE_MAGIC1 ∨
        (SctpCookie.ofBytes pValue).magic2 ≠ SCTP_COOKIE_MAGIC2
    · rw [if_pos hm]
      exact ⟨fun _ => .inr hm, fun _ => rfl⟩
    · rw [if_neg hm]
      refine ⟨fun heq => absurd heq (ne_of_sent ?_), fun hk => absurd (hk.resolve_left hlen) hm⟩
      have haccept : (acceptCookie h (SctpCookie.ofBytes pValue)).outbound.length =
          h.outbound.length + 1 := length_sendChunk _ _ _ _
      have hflush := (Emits.flush (acceptCookie h (SctpCookie.ofBytes pValue))).length
      omega

theorem cookieAck_eq_self_iff : sctpHandleCookieAck h = h ↔ h.assoc.state ≠ .COOKIE_ECHOED := by
  unfold sctpHandleCookieAck
  by_cases hst : h.assoc.state ≠ .COOKIE_ECHOED
  · rw [if_pos hst]
    exact ⟨fun _ => hst, fun _ => rfl⟩
  · rw [if_neg hst]
    refine ⟨fun heq => ?_, fun hc => absurd hc hst⟩
    have hside := sctpFlushSendQueue_recvSide
      { h with assoc.state := .ESTABLISHED, assoc.t1InitExpiry := 0 }
    rw [heq] at hside
    have hest : h.assoc.state = .ESTABLISHED := congrArg RecvSide.state hside
    rw [hest]
    decide

theorem length_sctpSendSack (hv : h.assoc.peerCumulativeTsnValid = true) :
    (sctpSendSack h).outbound.length = h.outbound.length + 1 := by
  unfold sctpSendSack
  rw [if_neg (by rw [hv]; decide)]
  exact length_sendChunk _ _ _ _

/-- What `sctpSendSack` finds after the tracking and the delivery of a chunk. -/
structure ToSack (h h' : Host) : Prop where
  outbound : h'.outbound = h.outbound
  valid : h'.assoc.peerCumulativeTsnValid = true

theorem ToSack.keeps (h : Host) : TrackKeeps (ToSack h) where
  track _ _ _ _ hvalid hs := ⟨hs.outbound, hvalid hs.valid⟩
  deliver _ _ _ _ _ _ hs := ⟨hs.outbound, hs.valid⟩

theorem ToSack.sends (hs : ToSack h h') : h.outbound.length < (sctpSendSack h').outbound.length := by
  rw [length_sctpSendSack hs.valid, hs.outbound]
  exact Nat.lt_succ_self _

/-- **DATA** is always answered once it is looked at. -/
theorem data_eq_self_iff (messageFn : Bool) (flags : UINT8) (pValue : Bytes) :
    sctpHandleData h messageFn flags pValue = h ↔
      pValue.length < 12 ∨ h.assoc.state ≠ .ESTABLISHED := by
  by_cases h0 : pValue.length < 12 ∨ h.assoc.state ≠ .ESTABLISHED
  · exact ⟨fun _ => h0, fun _ => sctpHandleData_ignored h0⟩
  · refine ⟨fun heq => absurd heq (ne_of_sent ?_), fun hc => absurd hc h0⟩
    rw [not_or] at h0
    unfold sctpHandleData
    simp only
    rw [if_neg h0.1, if_neg h0.2]
    generalize hh : (if ¬ h.assoc.peerCumulativeTsnValid then
      { h with
        assoc.peerCumulativeTsn := getUnalignedInt32BigEndian pValue 0 - 1
        assoc.peerCumulativeTsnValid := true } else h) = h1
    have hs1 : ToSack h h1 := by
      subst hh
      split
      · exact ⟨rfl, rfl⟩
      · rename_i hv
        exact ⟨rfl, by simpa using hv⟩
    have hkeeps := ToSack.keeps h
    split
    · have hs2 : ToSack h { trackTsn h1 (getUnalignedInt32BigEndian pValue 0) with
          assoc.needSack := true } := hkeeps.track _ _ _ _ id (hkeeps.trackTsn _ hs1)
      split
      · exact (hkeeps.deliverData _ _ _ _ _ hs2).sends
      · exact hs2.sends
    · have hs2 : ToSack h { h1 with assoc.needSack := true } := ⟨hs1.outbound, hs1.valid⟩
      exact hs2.sends

theorem drain_windows (h : Host) : (sctpDrainPendingQueue h).windows = h.windows := by
  have hunsent : ∀ g : Host, g.unsent.windows = g.windows := fun _ => rfl
  rw [← hunsent, sctpDrainPendingQueue_unsent, hunsent]

/-- Before the window grows: the new window of the peer, the slots the SACK leaves, nothing sent. -/
theorem sackMarked_frame (h : Host) (pValue : Bytes) :
    (sackMarked h pValue).assoc.peerArwnd = getUnalignedInt32BigEndian pValue 4 ∧
      (sackMarked h pValue).outbound = h.outbound ∧
      (sackMarked h pValue).assoc.outstanding = (sackLoops { h with
        assoc.peerArwnd := getUnalignedInt32BigEndian pValue 4 } pValue).1.assoc.outstanding := by
  have hframe := sackLoops_invariant (P := fun h' =>
      h'.assoc.peerArwnd = getUnalignedInt32BigEndian pValue 4 ∧ h'.outbound = h.outbound)
    (h := { h with assoc.peerArwnd := getUnalignedInt32BigEndian pValue 4 })
    (fun _ _ _ hp => hp) pValue ⟨rfl, rfl⟩
  unfold sackMarked
  simp only
  generalize sackLoops { h with assoc.peerArwnd := getUnalignedInt32BigEndian pValue 4 } pValue = r
    at hframe
  split
  · exact ⟨hframe.1, hframe.2, rfl⟩
  · exact ⟨hframe.1, hframe.2, rfl⟩

theorem sackGrow_emits (h : Host) (n : UINT32) :
    (sackGrow h n).assoc.peerArwnd = h.assoc.peerArwnd ∧ (sackGrow h n).outbound = h.outbound ∧
      (sackGrow h n).assoc.outstanding = h.assoc.outstanding := by
  unfold sackGrow
  simp only
  split <;> exact ⟨rfl, rfl, rfl⟩

theorem sctpHandleSack_emits {pValue : Bytes} (hlen : 12 ≤ pValue.length) :
    (sctpHandleSack h pValue).assoc.peerArwnd = getUnalignedInt32BigEndian pValue 4 ∧
      Emits (sackMarked h pValue) (sctpHandleSack h pValue) := by
  have hmark := (sackMarked_frame h pValue).1
  rw [sctpHandleSack_eq hlen]
  generalize sackMarked h pValue = g at hmark
  obtain ⟨harwnd, hout, htable⟩ := sackGrow_emits g (bytesNewlyAcked h pValue)
  generalize sackGrow g (bytesNewlyAcked h pValue) = k at harwnd hout htable
  have hgrow : Emits g k := ⟨by rw [hout], fun _ => htable⟩
  split
  · split
    · have hwin : (sctpDrainPendingQueue k).assoc.peerArwnd = k.assoc.peerArwnd :=
        (windows_eq (drain_windows k)).2.1
      exact ⟨hwin.trans (harwnd.trans hmark), hgrow.trans (.drain k)⟩
    · exact ⟨harwnd.trans hmark, hgrow⟩
  · exact ⟨hmark, .refl g⟩

theorem sack_eq_self_iff (pValue : Bytes) : sctpHandleSack h pValue = h ↔ pValue.length < 12 ∨
    (h.assoc.peerArwnd = getUnalignedInt32BigEndian pValue 4 ∧
      ¬ TSN_GT (getUnalignedInt32BigEndian pValue 0) h.assoc.cumulativeAckTsn ∧
      ∀ j, ¬ ((h.assoc.outstanding.get j).Waits ∧
        SackCovers pValue (h.assoc.outstanding.get j).tsn)) := by
  by_cases hshort : pValue.length < 12
  · exact ⟨fun _ => .inl hshort, fun _ => sctpHandleSack_short (by omega)⟩
  · have hlen : 12 ≤ pValue.length := by omega
    refine ⟨fun heq => .inr ?_, fun hidle => ?_⟩
    · obtain ⟨harwnd, hemits⟩ := sctpHandleSack_emits (h := h) hlen
      have hcum := (control_eq (sctpHandleSack_control (h := h) hlen)).2.2.2.2.1
      rw [heq] at harwnd hemits hcum
      refine ⟨harwnd, fun hgt => ?_, fun j hj => ?_⟩
      · have hup : h.assoc.cumulativeAckTsn = ackedUpTo h pValue := hcum
        unfold ackedUpTo at hup
        rw [if_pos hgt] at hup
        rw [← hup] at hgt
        exact Serial.not_gt_self _ hgt
      · obtain ⟨-, hout, htable⟩ := sackMarked_frame h pValue
        have hsame := hemits.table (by rw [hout])
        rw [htable] at hsame
        have hget := get_sackLoops_covered (h := { h with
          assoc.peerArwnd := getUnalignedInt32BigEndian pValue 4 }) hj.1 hj.2
        rw [← hsame] at hget
        have huse : (h.assoc.outstanding.get j).inUse = false :=
          congrArg SctpOutstandingData.inUse hget
        exact absurd (hj.1.1.symm.trans huse) (by decide)
    · obtain ⟨harwnd, hcum, hnone⟩ := hidle.resolve_left hshort
      have hsame : ({ h with assoc.peerArwnd := getUnalignedInt32BigEndian pValue 4 } : Host) = h := by
        rw [← harwnd]
      have hloops := sackLoops_of_uncovered hlen hnone
      have hbytes : bytesNewlyAcked h pValue = 0 := by
        unfold bytesNewlyAcked
        rw [hsame, hloops]
      have hmark : sackMarked h pValue = h := by
        unfold sackMarked
        rw [hsame, hloops]
        rw [if_neg hcum]
      rw [sctpHandleSack_eq hlen, hbytes, if_neg (by decide), hmark]

theorem advanceCumTsn_length (fuel : Nat) (cum : UINT32) (l : List UINT32) :
    (advanceCumTsn fuel cum l).2.length ≤ l.length ∧
      ((advanceCumTsn fuel cum l).2.length = l.length → (advanceCumTsn fuel cum l).1 = cum) := by
  induction fuel generalizing cum l with
  | zero => exact ⟨Nat.le_refl _, fun _ => rfl⟩
  | succ fuel ih =>
    unfold advanceCumTsn
    split
    · rename_i k hk
      obtain ⟨hlt, -, -⟩ := List.findIdx?_eq_some_iff_getElem.mp hk
      have hdrop : (swapRemove l k).length + 1 = l.length := by
        unfold swapRemove
        rw [List.length_dropLast, List.length_set]
        omega
      obtain ⟨hle, -⟩ := ih (cum + 1) (swapRemove l k)
      exact ⟨by omega, fun heq => by omega⟩
    · exact ⟨Nat.le_refl _, fun _ => rfl⟩

theorem dropReceived_length (newCumTsn : UINT32) (fuel i : Nat) (l : List UINT32) :
    (dropReceived newCumTsn fuel i l).length ≤ l.length := by
  induction fuel generalizing i l with
  | zero => exact Nat.le_refl _
  | succ fuel ih =>
    unfold dropReceived
    split
    · split
      · refine Nat.le_trans (ih i (swapRemove l i)) ?_
        unfold swapRemove
        rw [List.length_dropLast, List.length_set]
        omega
      · exact ih (i + 1) l
    · exact Nat.le_refl _

theorem forwardTsn_eq_self_iff (pValue : Bytes) : sctpHandleForwardTsn h pValue = h ↔
    pValue.length < 4 ∨ (h.assoc.peerCumulativeTsnValid = false ∧ h.assoc.needSack = true ∧
      ¬ TSN_GT (getUnalignedInt32BigEndian pValue 0) h.assoc.peerCumulativeTsn) := by
  unfold sctpHandleForwardTsn
  simp only
  by_cases hshort : pValue.length < 4
  · rw [if_pos hshort]
    exact ⟨fun _ => .inl hshort, fun _ => rfl⟩
  rw [if_neg hshort, or_iff_right hshort]
  by_cases hgt : TSN_GT (getUnalignedInt32BigEndian pValue 0) h.assoc.peerCumulativeTsn
  · rw [if_pos hgt]
    refine ⟨fun heq => ?_, fun hc => absurd hgt hc.2.2⟩
    have hsend : ∀ g : Host, (sctpSendSack g).assoc.receivedTsns = g.assoc.receivedTsns ∧
        (sctpSendSack g).assoc.peerCumulativeTsn = g.assoc.peerCumulativeTsn := by
      intro g
      unfold sctpSendSack
      split <;> exact ⟨rfl, rfl⟩
    have hlist := (hsend _).1.symm.trans (congrArg (fun g : Host => g.assoc.receivedTsns) heq)
    have hcum := (hsend _).2.symm.trans (congrArg (fun g : Host => g.assoc.peerCumulativeTsn) heq)
    -- as many TSNs are listed as before, so the cumulative TSN is the one of the chunk
    have hlen := congrArg List.length hlist
    have hdrop := dropReceived_length (getUnalignedInt32BigEndian pValue 0)
      h.assoc.receivedTsns.length 0 h.assoc.receivedTsns
    simp only at hlen hcum
    generalize dropReceived _ _ _ _ = l at *
    obtain ⟨hle, hstay⟩ := advanceCumTsn_length (l.length + 1) (getUnalignedInt32BigEndian pValue 0) l
    rw [hstay (by omega)] at hcum
    rw [hcum] at hgt
    exact absurd hgt (Serial.not_gt_self _)
  · rw [if_neg hgt]
    by_cases hv : h.assoc.peerCumulativeTsnValid = true
    · refine ⟨fun heq => absurd heq (ne_of_sent ?_), fun hc => ?_⟩
      · rw [length_sctpSendSack (h := { h with assoc.needSack := true }) hv]
        exact Nat.lt_succ_self _
      · rw [hv] at hc
        exact absurd hc.1 (by decide)
    · have hquiet : sctpSendSack { h with assoc.needSack := true } =
          { h with assoc.needSack := true } := by
        unfold sctpSendSack
        rw [if_pos hv]
      rw [hquiet]
      refine ⟨fun heq => ⟨by simpa using hv, ?_, hgt⟩, fun hc => ?_⟩
      · exact (congrArg (fun g : Host => g.assoc.needSack) heq).symm
      · rw [← hc.2.1]

theorem heartbeat_eq_self_iff (pValue : Bytes) : handleHeartbeat h pValue = h ↔
    SCTP_MAX_PACKET_SIZE < SCTP_COMMON_HEADER_SIZE + (SCTP_CHUNK_HEADER_SIZE + pValue.length) ∧
      sctpWriteCommonHeader h.assoc.localPort h.assoc.remotePort h.assoc.peerVerificationTag ++
        h.assoc.outPacket.drop SCTP_COMMON_HEADER_SIZE = h.assoc.outPacket := by
  unfold handleHeartbeat
  simp only
  split
  · rename_i hfits
    refine ⟨fun heq => absurd heq (ne_of_sent ?_), fun hc => absurd hfits (by omega)⟩
    rw [length_sendChunk]
    exact Nat.lt_succ_self _
  · rename_i hlong
    refine ⟨fun heq => ⟨by omega, congrArg (fun g : Host => g.assoc.outPacket) heq⟩, fun hc => ?_⟩
    rw [hc.2]

/-! ## The dispatcher -/

theorem initAck_eq_self_iff (pValue : Bytes) : sctpHandleInitAck h pValue = h ↔
    pValue.length < 16 ∨ (h.assoc.state ≠ .COOKIE_WAIT ∧ h.assoc.state ≠ .CLOSED) ∨
      (NoCookie pValue ∧ KnownInitAck h pValue) := by
  by_cases hn : NoCookie pValue
  · rw [(initAck_noCookie_iff hn).2]
    unfold IdleInitAck
    simp only [hn, true_and]
  · by_cases hlen : pValue.length < 16
    · exact ⟨fun _ => .inl hlen, fun _ => if_pos hlen⟩
    · by_cases hst : h.assoc.state ≠ .COOKIE_WAIT ∧ h.assoc.state ≠ .CLOSED
      · exact ⟨fun _ => .inr (.inl hst), fun _ => (if_neg hlen).trans (if_pos hst)⟩
      · refine ⟨fun heq => absurd heq (initAck_cookie_sends hlen hst hn), fun hc => ?_⟩
        exact absurd ((hc.resolve_left hlen).resolve_left hst).1 hn

theorem closeAssoc_eq_self_iff : closeAssoc h = h ↔ h.assoc.state = .CLOSED := by
  constructor
  · intro heq
    exact (congrArg (fun g : Host => g.assoc.state) heq).symm
  · intro hst
    unfold closeAssoc
    rw [← hst]

theorem sctpChunkDispatch_abort {messageFn : Bool} {c : SctpChunk} (hc : c.type = SCTP_CHUNK_ABORT) :
    sctpChunkDispatch messageFn h c = closeAssoc h := by
  unfold sctpChunkDispatch
  rw [hc]
  rfl

/-- **A chunk other than INIT has no effect exactly when it is ignored.** -/
theorem sctpChunkDispatch_eq_self_iff {messageFn : Bool} {c : SctpChunk}
    (hinit : c.type ≠ SCTP_CHUNK_INIT) : sctpChunkDispatch messageFn h c = h ↔ Ignored h c := by
  constructor
  · intro heq
    refine ⟨fun hc => ?_, fun hc => ?_, fun hc => ?_, fun hc => ?_, fun hc => ?_, fun hc => ?_,
      fun hc => ?_, fun hc => ?_, fun hc => ?_, fun hc => ?_⟩
    · rw [sctpChunkDispatch_initAck hc] at heq
      exact (initAck_eq_self_iff c.value).mp heq
    · rw [sctpChunkDispatch_cookieEcho hc] at heq
      exact (cookieEcho_eq_self_iff c.value).mp heq
    · rw [sctpChunkDispatch_cookieAck hc] at heq
      exact cookieAck_eq_self_iff.mp heq
    · rw [sctpChunkDispatch_data hc] at heq
      exact (data_eq_self_iff messageFn c.flags c.value).mp heq
    · rw [sctpChunkDispatch_sack hc] at heq
      exact (sack_eq_self_iff c.value).mp heq
    · rw [sctpChunkDispatch_forwardTsn hc] at heq
      exact (forwardTsn_eq_self_iff c.value).mp heq
    · rw [sctpChunkDispatch_heartbeat hc] at heq
      exact (heartbeat_eq_self_iff c.value).mp heq
    · rw [sctpChunkDispatch_shutdown hc] at heq
      refine absurd heq (ne_of_sent ?_)
      show h.outbound.length < (sendChunk _ _ _ _).outbound.length
      rw [length_sendChunk]
      exact Nat.lt_succ_self _
    · rw [sctpChunkDispatch_shutdownAck hc] at heq
      refine absurd heq (ne_of_sent ?_)
      show h.outbound.length < (sendChunk _ _ _ _).outbound.length
      rw [length_sendChunk]
      exact Nat.lt_succ_self _
    · rcases hc with hc | hc
      · rw [sctpChunkDispatch_shutdownComplete hc] at heq
        exact closeAssoc_eq_self_iff.mp heq
      · rw [sctpChunkDispatch_abort hc] at heq
        exact closeAssoc_eq_self_iff.mp heq
  · intro hi
    exact sctpChunkDispatch_cases (P := fun h' => h' = h) (fun hc => absurd hc hinit)
      (fun hc => (initAck_eq_self_iff c.value).mpr (hi.initAck hc))
      (fun hc => (cookieEcho_eq_self_iff c.value).mpr (hi.cookieEcho hc))
      (fun hc => cookieAck_eq_self_iff.mpr (hi.cookieAck hc))
      (fun hc => (data_eq_self_iff messageFn c.flags c.value).mpr (hi.data hc))
      (fun hc => (sack_eq_self_iff c.value).mpr (hi.sack hc))
      (fun hc => (forwardTsn_eq_self_iff c.value).mpr (hi.forwardTsn hc))
      (fun hc => (heartbeat_eq_self_iff c.value).mpr (hi.heartbeat hc))
      (fun hc => absurd hc hi.shutdown) (fun hc => absurd hc hi.shutdownAck)
      (fun hc => closeAssoc_eq_self_iff.mpr (hi.close hc)) rfl

end

/-! ## Packets -/

/-- The verification tag of a packet. -/
def packetVtag (pBuf : Bytes) : UINT32 := getUnalignedInt32BigEndian pBuf 4

/-- The state in which the chunk after `pre` is handled. -/
def Host.afterChunks (h : Host) (messageFn : Bool) (pre : List SctpChunk) : Host :=
  pre.foldl (sctpChunkDispatch messageFn) h

/-- What cannot be used has no effect: under a foreign tag no chunk but an INIT has one, and an
INIT-ACK without a cookie leaves the association unchanged. -/
structure RejectsQuietly (h : Host) (messageFn : Bool) (pBuf : Bytes) : Prop where
  unchanged : packetVtag pBuf ≠ h.assoc.myVerificationTag →
    (∀ c ∈ h.acceptedChunks pBuf, c.type ≠ SCTP_CHUNK_INIT) →
    sctpAssocHandlePacket h messageFn pBuf = h
  onlyInit : packetVtag pBuf ≠ h.assoc.myVerificationTag →
    ∀ pre c post, h.acceptedChunks pBuf = pre ++ c :: post → c.type ≠ SCTP_CHUNK_INIT →
      sctpChunkDispatch messageFn (h.afterChunks messageFn pre) c = h.afterChunks messageFn pre
  initAck : ∀ pre c post, h.acceptedChunks pBuf = pre ++ c :: post →
    c.type = SCTP_CHUNK_INIT_ACK → NoCookie c.value →
      (sctpChunkDispatch messageFn (h.afterChunks messageFn pre) c).assoc =
        (h.afterChunks messageFn pre).assoc

/-- The chunks that should have no effect are ignored in the state they find. -/
structure OnlyIgnored (h : Host) (messageFn : Bool) (pBuf : Bytes) : Prop where
  foreign : packetVtag pBuf ≠ h.assoc.myVerificationTag →
    packetVtag pBuf = 0 ∨ h.assoc.myVerificationTag = 0 →
    ∀ pre c post, h.acceptedChunks pBuf = pre ++ c :: post → c.type ≠ SCTP_CHUNK_INIT →
      Ignored (h.afterChunks messageFn pre) c
  initAck : ∀ pre c post, h.acceptedChunks pBuf = pre ++ c :: post →
    c.type = SCTP_CHUNK_INIT_ACK → NoCookie c.value →
      IdleInitAck (h.afterChunks messageFn pre) c.value

section

variable {h : Host} {messageFn : Bool} {pBuf : Bytes}

theorem acceptedChunks_foreign (hne : packetVtag pBuf ≠ h.assoc.myVerificationTag)
    (h0 : packetVtag pBuf ≠ 0) (hm : h.assoc.myVerificationTag ≠ 0) : h.acceptedChunks pBuf = [] := by
  unfold Host.acceptedChunks
  split
  · rfl
  · rename_i hlen
    have h12 : 12 ≤ pBuf.length := Nat.not_lt.mp hlen
    have hback : storeChecksum (zeroChecksum pBuf) (storedChecksum pBuf) = pBuf := by
      rw [storeChecksum_zeroChecksum _ h12, storeChecksum_storedChecksum h12]
    have hbad : (sctpValidatePacket pBuf h.assoc.myVerificationTag).1 ≠ .SUCCESS := by
      unfold sctpValidatePacket
      rw [if_neg hlen]
      simp only [hback]
      have hinvalid : STATUS.SCTP_INVALID_DCEP_PACKET ≠ .SUCCESS := by decide
      split
      · exact hinvalid
      · rw [if_pos ⟨h0, hm, hne⟩]
        exact hinvalid
    rw [if_pos hbad]

theorem sctpAssocHandlePacket_eq_afterChunks :
    sctpAssocHandlePacket h messageFn pBuf = h.afterChunks messageFn (h.acceptedChunks pBuf) := by
  unfold sctpAssocHandlePacket Host.afterChunks Host.acceptedChunks
  split
  · rfl
  · simp only
    split <;> rfl

theorem afterChunks_eq_self {chunks : List SctpChunk}
    (hq : ∀ pre c post, chunks = pre ++ c :: post →
      sctpChunkDispatch messageFn (h.afterChunks messageFn pre) c = h.afterChunks messageFn pre) :
    h.afterChunks messageFn chunks = h := by
  induction chunks using List.reverseRecOn with
  | nil => rfl
  | append_singleton pre c ih =>
    have hlast := hq pre c [] rfl
    have hpre := ih fun pre' c' post heq => hq pre' c' (post ++ [c]) (by rw [heq]; simp)
    unfold Host.afterChunks at hlast hpre ⊢
    rw [List.foldl_append, List.foldl_cons, List.foldl_nil, hlast, hpre]

/-- **What cannot be used has no effect exactly when it is ignored anyway.** -/
theorem rejects_quietly_iff (h : Host) (messageFn : Bool) (pBuf : Bytes) :
    RejectsQuietly h messageFn pBuf ↔ OnlyIgnored h messageFn pBuf := by
  have hack : (∀ pre c post, h.acceptedChunks pBuf = pre ++ c :: post →
      c.type = SCTP_CHUNK_INIT_ACK → NoCookie c.value →
        (sctpChunkDispatch messageFn (h.afterChunks messageFn pre) c).assoc =
          (h.afterChunks messageFn pre).assoc) ↔
      ∀ pre c post, h.acceptedChunks pBuf = pre ++ c :: post → c.type = SCTP_CHUNK_INIT_ACK →
        NoCookie c.value → IdleInitAck (h.afterChunks messageFn pre) c.value := by
    refine forall_congr' fun pre => forall_congr' fun c => forall_congr' fun post =>
      imp_congr_right fun _ => imp_congr_right fun hc => imp_congr_right fun hn => ?_
    rw [sctpChunkDispatch_initAck hc]
    exact (initAck_noCookie_iff hn).1
  constructor
  · intro hr
    refine ⟨fun hne _ pre c post heq hinit => ?_, hack.mp hr.initAck⟩
    exact (sctpChunkDispatch_eq_self_iff hinit).mp (hr.onlyInit hne pre c post heq hinit)
  · intro ho
    have honly : packetVtag pBuf ≠ h.assoc.myVerificationTag →
        ∀ pre c post, h.acceptedChunks pBuf = pre ++ c :: post → c.type ≠ SCTP_CHUNK_INIT →
          sctpChunkDispatch messageFn (h.afterChunks messageFn pre) c =
            h.afterChunks messageFn pre := by
      intro hne pre c post heq hinit
      by_cases htag : packetVtag pBuf = 0 ∨ h.assoc.myVerificationTag = 0
      · exact (sctpChunkDispatch_eq_self_iff hinit).mpr (ho.foreign hne htag pre c post heq hinit)
      · rw [not_or] at htag
        rw [acceptedChunks_foreign hne htag.1 htag.2] at heq
        exact absurd heq.symm (by simp)
    refine ⟨fun hne hnone => ?_, honly, hack.mpr ho.initAck⟩
    rw [sctpAssocHandlePacket_eq_afterChunks]
    refine afterChunks_eq_self fun pre c post heq => honly hne pre c post heq (hnone c ?_)
    rw [heq]
    simp

end

/-- An ABORT with tag 0. -/
def foreignAbort : Bytes := onePacket 5000 5000 0 ⟨SCTP_CHUNK_ABORT, 0, []⟩

/-- An INIT-ACK with the right tag and no parameter. -/
def bareInitAck : Bytes :=
  onePacket 5000 5000 7 ⟨SCTP_CHUNK_INIT_ACK, 0, [0, 0, 0, 9] ++ List.replicate 12 0⟩

/-- An ABORT with tag 0 closes an established association, and an INIT-ACK without a cookie overwrites
the peer's tag while an INIT is under way. -/
theorem unusable_packets_have_effects :
    ¬ RejectsQuietly sampleHost true foreignAbort ∧
      ¬ RejectsQuietly (sctpAssocConnect (sctpAssocInit (fun _ => 7) 5000 5000 1150)) true
        bareInitAck := by
  constructor
  · intro hr
    have hc : Carries foreignAbort 0 ⟨SCTP_CHUNK_ABORT, 0, []⟩ := carries_onePacket _ _ _ (by decide)
    have hchunks : sampleHost.acceptedChunks foreignAbort = [⟨SCTP_CHUNK_ABORT, 0, []⟩] := by
      rw [Host.acceptedChunks_carries hc, if_neg (fun hne => hne.1 rfl)]
    have hvtag : packetVtag foreignAbort ≠ sampleHost.assoc.myVerificationTag := by
      rw [show packetVtag foreignAbort = 0 from hc.tag]
      decide
    have hquiet := hr.onlyInit hvtag [] ⟨SCTP_CHUNK_ABORT, 0, []⟩ [] hchunks (by decide)
    rw [sctpChunkDispatch_abort rfl, closeAssoc_eq_self_iff] at hquiet
    exact absurd hquiet (by decide)
  · intro hr
    have hc : Carries bareInitAck 7
        ⟨SCTP_CHUNK_INIT_ACK, 0, [0, 0, 0, 9] ++ List.replicate 12 0⟩ :=
      carries_onePacket _ _ _ (by decide)
    have hchunks : (sctpAssocConnect (sctpAssocInit (fun _ => 7) 5000 5000 1150)).acceptedChunks
        bareInitAck = [⟨SCTP_CHUNK_INIT_ACK, 0, [0, 0, 0, 9] ++ List.replicate 12 0⟩] := by
      rw [Host.acceptedChunks_carries hc, if_neg (fun hne => hne.2.2 (by decide))]
    have hquiet := hr.initAck [] _ [] hchunks rfl (by unfold NoCookie; decide)
    rw [sctpChunkDispatch_initAck rfl, (initAck_noCookie_iff (by unfold NoCookie; decide)).1] at hquiet
    rcases hquiet with hlen | hst | hknown
    · exact absurd hlen (by decide)
    · exact absurd hst.1 (by decide)
    · exact absurd hknown.1 (by decide)

end KvsWebrtc.Sctp
