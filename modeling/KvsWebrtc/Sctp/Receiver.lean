import KvsWebrtc.Sctp.Net
import KvsWebrtc.Sctp.Sender

/-!
# Receive tracking

The receiver knows which TSNs it has seen by `peerCumulativeTsn` and the list `receivedTsns` of
those beyond it.  `Tracked` is the invariant of the two: the list has no repetitions and lies ahead
of the cumulative TSN.

Principal results:

* `advanceCumTsn_spec` — the loop that moves the cumulative TSN over consecutive TSNs;
* `receive_tracking_monotone` — under a condition on each chunk, `peerCumulativeTsn` never moves
  backwards and the tracked TSNs stay distinct and strictly beyond it.
-/

namespace KvsWebrtc.Sctp

/-! ## Removing an entry -/

theorem swapRemove_perm {l : List UINT32} {k : Nat} (hk : k < l.length) :
    (l[k] :: swapRemove l k).Perm l := by
  obtain ⟨init, z, rfl⟩ : ∃ init z, l = init ++ [z] :=
    ⟨l.dropLast, l.getLast (List.ne_nil_of_length_pos (by omega)),
      (List.dropLast_append_getLast _).symm⟩
  have hlast : (init ++ [z]).getLastD 0 = z := by simp
  rw [List.length_append, List.length_singleton] at hk
  unfold swapRemove
  rw [hlast]
  by_cases hlt : k < init.length
  · rw [List.set_append_left k z hlt, List.dropLast_concat, List.getElem_append_left hlt]
    refine List.Perm.trans ?_ (List.perm_append_singleton z init).symm
    have hsplit : init = init.take k ++ init[k] :: init.drop (k + 1) := by
      rw [List.getElem_cons_drop, List.take_append_drop]
    have hset : init.set k z = init.take k ++ z :: init.drop (k + 1) :=
      List.set_eq_take_append_cons_drop.trans (if_pos hlt)
    rw [hset]
    have hback : (init[k] :: (init.take k ++ init.drop (k + 1))).Perm init := by
      conv_rhs => rw [hsplit]
      exact List.perm_middle.symm
    exact (List.perm_middle.cons _).trans ((List.Perm.swap _ _ _).trans (hback.cons z))
  · have hke : k = init.length := by omega
    subst hke
    rw [List.getElem_concat_length rfl, List.set_append_right _ _ (Nat.le_refl _), Nat.sub_self,
      List.set_cons_zero, List.dropLast_concat]
    exact (List.perm_append_singleton z init).symm

theorem swapRemove_before {l : List UINT32} {i j : Nat} (hj : j < i) (hi : i < l.length) :
    (swapRemove l i)[j]? = l[j]? := by
  unfold swapRemove
  rw [List.getElem?_dropLast, List.length_set, if_pos (by omega), List.getElem?_set_ne (by omega)]

/-! ## The cumulative TSN -/

/-- What the receiver tracks: distinct TSNs, all ahead of the cumulative TSN. -/
structure Tracked (cum : UINT32) (l : List UINT32) : Prop where
  nodup : l.Nodup
  ahead : ∀ t ∈ l, 0 < Serial.ahead cum t ∧ Serial.ahead cum t < 2 ^ 31

theorem tsn_gt_iff {t cum : UINT32} :
    TSN_GT t cum ↔ 0 < Serial.ahead cum t ∧ Serial.ahead cum t < 2 ^ 31 := by
  unfold TSN_GT
  rw [Serial.gt_iff_ahead]
  omega

theorem tsn_gte_iff {t cum : UINT32} : TSN_GTE t cum ↔ Serial.ahead cum t < 2 ^ 31 := by
  unfold TSN_GTE
  rw [Serial.ge_iff_not_lt, Serial.lt_iff_ahead]
  omega

theorem ahead_next {cum t : UINT32} (h : t ≠ cum) :
    Serial.ahead cum t = Serial.ahead (cum + 1) t + 1 := Serial.ahead_succ (by decide) h

theorem ahead_cum_succ (cum : UINT32) : Serial.ahead cum (cum + 1) = 1 :=
  Serial.ahead_add_ofNat cum 1

theorem ahead_eq_one {cum t : UINT32} : Serial.ahead cum t = 1 ↔ t = cum + 1 := by
  constructor
  · intro h
    exact Serial.ahead_inj (h.trans (ahead_cum_succ cum).symm)
  · rintro rfl
    exact ahead_cum_succ cum

theorem ahead_succ_self (cum : UINT32) : Serial.ahead (cum + 1) cum = 2 ^ 32 - 1 := by
  have h := Serial.ahead_of_lt (c := cum) (t := cum + 1) (u := cum)
    (by rw [Serial.ahead_self, ahead_cum_succ]; decide)
  rw [ahead_cum_succ, Serial.ahead_self] at h
  exact h

theorem succ_ne_self (cum : UINT32) : cum + 1 ≠ cum := by
  intro h
  have h1 := ahead_cum_succ cum
  rw [h, Serial.ahead_self] at h1
  cases h1

theorem Tracked.next {cum : UINT32} {l : List UINT32} (h : Tracked cum l) (hn : cum + 1 ∉ l) :
    Tracked (cum + 1) l := by
  refine ⟨h.nodup, fun t ht => ?_⟩
  obtain ⟨h0, hlt⟩ := h.ahead t ht
  have hne : t ≠ cum := by
    rintro rfl
    rw [Serial.ahead_self] at h0
    omega
  have h1 : Serial.ahead cum t ≠ 1 := by
    intro h1
    rw [ahead_eq_one] at h1
    exact hn (h1 ▸ ht)
  have := ahead_next hne
  omega

/-- What the loop over consecutive TSNs does to a tracked list. -/
structure Advanced (cum : UINT32) (l : List UINT32) (r : UINT32 × List UINT32) : Prop where
  tracked : Tracked r.1 r.2
  stuck : r.1 + 1 ∉ r.2
  ahead_lt : Serial.ahead cum r.1 < 2 ^ 31
  ahead_le : Serial.ahead cum r.1 ≤ l.length
  length_le : r.2.length ≤ l.length
  mem_iff : ∀ t, t ∈ l ↔ t ∈ r.2 ∨ (0 < Serial.ahead cum t ∧
    Serial.ahead cum t ≤ Serial.ahead cum r.1)

theorem advanceCumTsn_spec :
    ∀ (fuel : Nat) {cum : UINT32} {l : List UINT32}, l.length < fuel → Tracked cum l →
      Advanced cum l (advanceCumTsn fuel cum l)
  | 0, _, _, hf, _ => absurd hf (Nat.not_lt_zero _)
  | fuel + 1, cum, l, hf, ht => by
    unfold advanceCumTsn
    split
    · rename_i k hk
      obtain ⟨hlt, heq, _⟩ := List.findIdx?_eq_some_iff_getElem.mp hk
      have hcum : l[k] = cum + 1 := by simpa using heq
      have hperm := swapRemove_perm hlt
      rw [hcum] at hperm
      have hnd := hperm.nodup_iff.mpr ht.nodup
      have hnot : cum + 1 ∉ swapRemove l k := (List.nodup_cons.mp hnd).1
      have hlen : (swapRemove l k).length + 1 = l.length := hperm.length_eq
      have hmem : ∀ t, t ∈ l ↔ t = cum + 1 ∨ t ∈ swapRemove l k := by
        intro t
        rw [← hperm.mem_iff, List.mem_cons]
      have hsub : Tracked cum (swapRemove l k) :=
        ⟨(List.nodup_cons.mp hnd).2, fun t h => ht.ahead t ((hmem t).mpr (.inr h))⟩
      have ih := advanceCumTsn_spec fuel (by omega) (hsub.next hnot)
      generalize advanceCumTsn fuel (cum + 1) (swapRemove l k) = r at ih
      have hne : r.1 ≠ cum := by
        intro hr
        have hlt2 := ih.ahead_lt
        rw [hr, ahead_succ_self] at hlt2
        omega
      have hstep := ahead_next hne
      have hle := ih.ahead_le
      have hlt2 : Serial.ahead cum r.1 < 2 ^ 31 := by
        by_cases h0 : Serial.ahead (cum + 1) r.1 = 0
        · omega
        · have hr := (ih.mem_iff r.1).mpr (.inr ⟨by omega, Nat.le_refl _⟩)
          exact (ht.ahead r.1 ((hmem r.1).mpr (.inr hr))).2
      refine ⟨ih.tracked, ih.stuck, hlt2, by omega, by have := ih.length_le; omega, fun t => ?_⟩
      rw [hmem t, ih.mem_iff t]
      by_cases htc : t = cum
      · subst htc
        rw [Serial.ahead_self, ahead_succ_self]
        constructor
        · rintro (h | h | h)
          · exact absurd h.symm (succ_ne_self t)
          · exact .inl h
          · omega
        · rintro (h | h)
          · exact .inr (.inl h)
          · omega
      · have hat := ahead_next htc
        have hone : Serial.ahead cum t = 1 ↔ t = cum + 1 := ahead_eq_one
        constructor
        · rintro (h | h | h)
          · have := hone.mpr h
            exact .inr (by omega)
          · exact .inl h
          · exact .inr (by omega)
        · rintro (h | h)
          · exact .inr (.inl h)
          · by_cases h1 : Serial.ahead cum t = 1
            · exact .inl (hone.mp h1)
            · exact .inr (.inr (by omega))
    · rename_i hk
      have hnot : cum + 1 ∉ l := by
        intro hin
        have := List.findIdx?_eq_none_iff.mp hk (cum + 1) hin
        simp at this
      refine ⟨ht, hnot, ?_, ?_, Nat.le_refl _, fun t => ?_⟩
      · rw [Serial.ahead_self]
        decide
      · rw [Serial.ahead_self]
        exact Nat.zero_le _
      · rw [Serial.ahead_self]
        constructor
        · exact .inl
        · rintro (h | h)
          · exact h
          · omega

theorem dropReceived_perm (newCumTsn : UINT32) :
    ∀ (fuel i : Nat) (l : List UINT32), l.length ≤ i + fuel →
      (∀ j t, j < i → l[j]? = some t → TSN_GT t newCumTsn) →
      (dropReceived newCumTsn fuel i l).Perm (l.filter (fun t => TSN_GT t newCumTsn))
  | 0, i, l, hf, hbefore => by
    have hall : ∀ t ∈ l, TSN_GT t newCumTsn := by
      intro t ht
      obtain ⟨j, hj⟩ := List.mem_iff_getElem?.mp ht
      obtain ⟨hlt, _⟩ := List.getElem?_eq_some_iff.mp hj
      exact hbefore j t (by omega) hj
    unfold dropReceived
    rw [List.filter_eq_self.mpr (fun t ht => decide_eq_true (hall t ht))]
  | fuel + 1, i, l, hf, hbefore => by
    unfold dropReceived
    split
    · rename_i hi
      split
      · rename_i hle
        have hperm := swapRemove_perm hi
        have hlen : (swapRemove l i).length + 1 = l.length := hperm.length_eq
        have ih := dropReceived_perm newCumTsn fuel i (swapRemove l i) (by omega) (fun j t hj hget => by
          rw [swapRemove_before hj hi] at hget
          exact hbefore j t hj hget)
        refine ih.trans ?_
        have hfilter := hperm.filter (fun t => decide (TSN_GT t newCumTsn))
        rw [List.filter_cons_of_neg (by simpa using Serial.le_iff_not_gt.mp hle)] at hfilter
        exact hfilter
      · rename_i hgt
        refine dropReceived_perm newCumTsn fuel (i + 1) l (by omega) (fun j t hj hget => ?_)
        by_cases hji : j < i
        · exact hbefore j t hji hget
        · have hje : j = i := by omega
          subst hje
          rw [List.getElem?_eq_getElem hi] at hget
          cases hget
          by_contra hng
          exact hgt (Serial.le_iff_not_gt.mpr hng)
    · rename_i hi
      have hall : ∀ t ∈ l, TSN_GT t newCumTsn := by
        intro t ht
        obtain ⟨j, hj⟩ := List.mem_iff_getElem?.mp ht
        obtain ⟨hlt, _⟩ := List.getElem?_eq_some_iff.mp hj
        exact hbefore j t (by omega) hj
      rw [List.filter_eq_self.mpr (fun t ht => decide_eq_true (hall t ht))]

/-! ## The receiver's half of a host -/

/-- The part of a host that the sending functions leave alone. -/
structure RecvSide where
  state : SctpAssocState
  myVerificationTag : UINT32
  peerVerificationTag : UINT32
  peerCumulativeTsn : UINT32
  peerCumulativeTsnValid : Bool
  receivedTsns : List UINT32
  t1InitExpiry : UINT64
  reassemblyBuf : Option Bytes
  reassemblyStreamId : UINT16
  reassemblyPpid : UINT32
  reassemblyInProgress : Bool
  delivered : List Delivery

def Host.recvSide (h : Host) : RecvSide where
  state := h.assoc.state
  myVerificationTag := h.assoc.myVerificationTag
  peerVerificationTag := h.assoc.peerVerificationTag
  peerCumulativeTsn := h.assoc.peerCumulativeTsn
  peerCumulativeTsnValid := h.assoc.peerCumulativeTsnValid
  receivedTsns := h.assoc.receivedTsns
  t1InitExpiry := h.assoc.t1InitExpiry
  reassemblyBuf := h.assoc.reassemblyBuf
  reassemblyStreamId := h.assoc.reassemblyStreamId
  reassemblyPpid := h.assoc.reassemblyPpid
  reassemblyInProgress := h.assoc.reassemblyInProgress
  delivered := h.delivered

theorem recvSide_unsent (h : Host) : h.unsent.recvSide = h.recvSide := rfl

theorem sctpAssocSend_recvSide (h : Host) (m : SctpMessage) :
    (sctpAssocSend h m).recvSide = h.recvSide := by
  rw [← recvSide_unsent, sctpAssocSend_unsent, recvSide_unsent]

theorem sctpFlushSendQueue_recvSide (h : Host) : (sctpFlushSendQueue h).recvSide = h.recvSide := by
  rw [← recvSide_unsent, sctpFlushSendQueue_unsent, recvSide_unsent]

theorem sctpHandleSack_recvSide (h : Host) (pValue : Bytes) :
    (sctpHandleSack h pValue).recvSide = h.recvSide := by
  refine sctpHandleSack_keeps (P := fun h' => h'.recvSide = h.recvSide)
    (sackLoops_invariant (P := fun h' => h'.recvSide = h.recvSide) (fun _ _ _ => id) pValue)
    (fun _ _ => id) (fun n hp => ?_) (fun hp => ?_) rfl
  · unfold sackGrow
    simp only
    split <;> exact hp
  · rw [← recvSide_unsent, sctpDrainPendingQueue_unsent, recvSide_unsent]
    exact hp

theorem sctpSendSack_recvSide (h : Host) : (sctpSendSack h).recvSide = h.recvSide := by
  unfold sctpSendSack
  split <;> rfl

/-! ## Receive tracking of one chunk -/

theorem trackTsn_eq (h : Host) (tsn : UINT32) :
    trackTsn h tsn = { h with
      assoc.peerCumulativeTsn :=
        (trackedAfter h.assoc.peerCumulativeTsn h.assoc.receivedTsns tsn).1
      assoc.receivedTsns :=
        (trackedAfter h.assoc.peerCumulativeTsn h.assoc.receivedTsns tsn).2 } := by
  unfold trackTsn trackedAfter
  split
  · rfl
  · split <;> rfl

/-- The invariant of the tracking state: the tracked TSNs are distinct, ahead of the cumulative TSN
and not next to it. -/
structure TrackOk (cum : UINT32) (l : List UINT32) : Prop where
  tracked : Tracked cum l
  stuck : cum + 1 ∉ l

theorem TrackOk.inOrder {cum : UINT32} {l : List UINT32} (h : TrackOk cum l) :
    Advanced (cum + 1) l (advanceCumTsn (l.length + 1) (cum + 1) l) :=
  advanceCumTsn_spec _ (Nat.lt_succ_self _) (h.tracked.next h.stuck)

theorem TrackOk.inOrder_ahead {cum : UINT32} {l : List UINT32} (h : TrackOk cum l) :
    let r := advanceCumTsn (l.length + 1) (cum + 1) l
    Serial.ahead cum r.1 = Serial.ahead (cum + 1) r.1 + 1 ∧ Serial.ahead cum r.1 < 2 ^ 31 := by
  intro r
  have hadv : Advanced (cum + 1) l r := h.inOrder
  have hne : r.1 ≠ cum := by
    intro hr
    have hlt := hadv.ahead_lt
    rw [hr, ahead_succ_self] at hlt
    omega
  have hstep := ahead_next hne
  refine ⟨hstep, ?_⟩
  by_cases h0 : Serial.ahead (cum + 1) r.1 = 0
  · omega
  · exact (h.tracked.ahead r.1 ((hadv.mem_iff r.1).mpr (.inr ⟨by omega, Nat.le_refl _⟩))).2

/-- A new TSN keeps the invariant and never moves the cumulative TSN backwards, unless it is exactly
half the circle ahead. -/
theorem TrackOk.after {cum : UINT32} {l : List UINT32} (h : TrackOk cum l) {tsn : UINT32}
    (hnew : tsn = cum + 1 ∨ TSN_GT tsn (cum + 1)) (hhalf : Serial.ahead cum tsn ≠ 2 ^ 31) :
    TrackOk (trackedAfter cum l tsn).1 (trackedAfter cum l tsn).2 ∧
      TSN_GTE (trackedAfter cum l tsn).1 cum := by
  unfold trackedAfter
  split
  · rename_i heq
    subst heq
    exact ⟨⟨h.inOrder.tracked, h.inOrder.stuck⟩, tsn_gte_iff.mpr h.inOrder_ahead.2⟩
  · rename_i hne
    have hself : TSN_GTE cum cum := by
      rw [tsn_gte_iff, Serial.ahead_self]
      decide
    split
    · rename_i hroom
      have hgt : TSN_GT tsn (cum + 1) := hnew.resolve_left hne
      rw [tsn_gt_iff] at hgt
      have hnc : tsn ≠ cum := by
        rintro rfl
        rw [ahead_succ_self] at hgt
        omega
      have hstep := ahead_next hnc
      refine ⟨⟨⟨?_, ?_⟩, ?_⟩, hself⟩
      · rw [List.nodup_append]
        refine ⟨h.tracked.nodup, List.nodup_singleton _, ?_⟩
        rintro a ha b hb rfl
        rw [List.mem_singleton] at hb
        exact hroom.1 (hb ▸ ha)
      · intro t ht
        rcases List.mem_append.mp ht with ht | ht
        · exact h.tracked.ahead t ht
        · rw [List.mem_singleton.mp ht]
          show 0 < Serial.ahead cum tsn ∧ Serial.ahead cum tsn < 2 ^ 31
          omega
      · intro hin
        rcases List.mem_append.mp hin with hin | hin
        · exact h.stuck hin
        · exact hne (List.mem_singleton.mp hin).symm
    · exact ⟨h, hself⟩

/-- The tracking state after a FORWARD-TSN beyond the cumulative TSN. -/
def forwardedTo (l : List UINT32) (newCum : UINT32) : UINT32 × List UINT32 :=
  advanceCumTsn ((dropReceived newCum l.length 0 l).length + 1) newCum
    (dropReceived newCum l.length 0 l)

/-- A FORWARD-TSN keeps the invariant, and moves the cumulative TSN forward while the whole move is
less than half the circle. -/
theorem TrackOk.forward {cum newCum : UINT32} {l : List UINT32} (h : TrackOk cum l)
    (hroom : Serial.ahead cum newCum + l.length < 2 ^ 31) :
    TrackOk (forwardedTo l newCum).1 (forwardedTo l newCum).2 ∧
      TSN_GTE (forwardedTo l newCum).1 cum := by
  unfold forwardedTo
  generalize hkept : dropReceived newCum l.length 0 l = kept
  have hperm : kept.Perm (l.filter (fun t => TSN_GT t newCum)) :=
    hkept ▸ dropReceived_perm newCum l.length 0 l (by omega)
      (fun j t hj _ => absurd hj (Nat.not_lt_zero _))
  have htracked : Tracked newCum kept := by
    refine ⟨hperm.nodup_iff.mpr (h.tracked.nodup.filter _), fun t ht => ?_⟩
    have hmem := hperm.mem_iff.mp ht
    rw [List.mem_filter, decide_eq_true_iff] at hmem
    exact tsn_gt_iff.mp hmem.2
  have hlen : kept.length ≤ l.length := by
    rw [hperm.length_eq]
    exact List.length_filter_le _ _
  have hadv := advanceCumTsn_spec (kept.length + 1) (Nat.lt_succ_self _) htracked
  refine ⟨⟨hadv.tracked, hadv.stuck⟩, ?_⟩
  have hle := hadv.ahead_le
  rw [tsn_gte_iff, Serial.ahead_trans (b := newCum) (by omega)]
  omega

/-! ## Receive tracking of a run -/

/-- The part of the receiver that tracks TSNs. -/
structure TrackSide where
  state : SctpAssocState
  peerCumulativeTsnValid : Bool
  t1InitExpiry : UINT64
  peerCumulativeTsn : UINT32
  receivedTsns : List UINT32

def RecvSide.trackSide (r : RecvSide) : TrackSide :=
  ⟨r.state, r.peerCumulativeTsnValid, r.t1InitExpiry, r.peerCumulativeTsn, r.receivedTsns⟩

def Host.trackSide (h : Host) : TrackSide := h.recvSide.trackSide

/-- An association that has been established and tracks its peer. -/
structure Tracking (t : TrackSide) : Prop where
  state : t.state = .ESTABLISHED ∨ t.state = .SHUTDOWN_SENT
  valid : t.peerCumulativeTsnValid = true
  t1 : t.t1InitExpiry = 0
  track : TrackOk t.peerCumulativeTsn t.receivedTsns

/-- One of the chunk kinds of data transfer and handshake. -/
def ListedChunk (type : UINT8) : Prop :=
  type = SCTP_CHUNK_INIT ∨ type = SCTP_CHUNK_INIT_ACK ∨ type = SCTP_CHUNK_COOKIE_ECHO ∨
    type = SCTP_CHUNK_COOKIE_ACK ∨ type = SCTP_CHUNK_DATA ∨ type = SCTP_CHUNK_SACK ∨
    type = SCTP_CHUNK_FORWARD_TSN ∨ type = SCTP_CHUNK_HEARTBEAT

/-- The value of a COOKIE-ECHO is a cookie that `sctpHandleCookieEcho` accepts. -/
def ValidCookie (pValue : Bytes) : Prop :=
  SCTP_COOKIE_SIZE ≤ pValue.length ∧ (SctpCookie.ofBytes pValue).magic1 = SCTP_COOKIE_MAGIC1 ∧
    (SctpCookie.ofBytes pValue).magic2 = SCTP_COOKIE_MAGIC2

/-- What a chunk must meet for the tracking to be safe: a COOKIE-ECHO comes only while nothing was
received, a DATA chunk is not exactly half the TSN circle ahead, and a FORWARD-TSN moves the
cumulative TSN by less than half the circle. -/
structure ChunkOk (h : Host) (c : SctpChunk) : Prop where
  listed : ListedChunk c.type
  cookieEcho : c.type = SCTP_CHUNK_COOKIE_ECHO → ValidCookie c.value →
    (SctpCookie.ofBytes c.value).peerInitialTsn - 1 = h.assoc.peerCumulativeTsn
  data : c.type = SCTP_CHUNK_DATA →
    Serial.ahead h.assoc.peerCumulativeTsn (getUnalignedInt32BigEndian c.value 0) ≠ 2 ^ 31
  forwardTsn : c.type = SCTP_CHUNK_FORWARD_TSN →
    TSN_GT (getUnalignedInt32BigEndian c.value 0) h.assoc.peerCumulativeTsn →
    Serial.ahead h.assoc.peerCumulativeTsn (getUnalignedInt32BigEndian c.value 0) +
      h.assoc.receivedTsns.length < 2 ^ 31

/-- The tracking state of `h'` is sound and not behind that of `h`. -/
def MovesOn (h h' : Host) : Prop :=
  Tracking h'.trackSide ∧ TSN_GTE h'.assoc.peerCumulativeTsn h.assoc.peerCumulativeTsn

variable {h h' : Host}

theorem tsn_gte_self (t : UINT32) : TSN_GTE t t := by
  rw [tsn_gte_iff, Serial.ahead_self]
  decide

theorem MovesOn.of_eq (ht : Tracking h.trackSide) (heq : h'.trackSide = h.trackSide) :
    MovesOn h h' := by
  refine ⟨heq ▸ ht, ?_⟩
  have hcum : h'.assoc.peerCumulativeTsn = h.assoc.peerCumulativeTsn :=
    congrArg TrackSide.peerCumulativeTsn heq
  rw [hcum]
  exact tsn_gte_self _

theorem MovesOn.of_recvSide (ht : Tracking h.trackSide) (heq : h'.recvSide = h.recvSide) :
    MovesOn h h' := .of_eq ht (congrArg RecvSide.trackSide heq)

theorem deliverData_trackSide (h : Host) (flags : UINT8) (streamId ssn : UINT16) (ppid : UINT32)
    (pPayload : Bytes) : (deliverData h flags streamId ssn ppid pPayload).trackSide = h.trackSide := by
  unfold deliverData
  simp only
  split
  · rfl
  · split
    · split <;> rfl
    · split
      · split <;> rfl
      · rfl

theorem sctpSendSack_trackSide (h : Host) : (sctpSendSack h).trackSide = h.trackSide :=
  congrArg RecvSide.trackSide (sctpSendSack_recvSide h)

/-- The TSN of a DATA chunk is one to track: the next or a later one. -/
def NewTsn (h : Host) (tsn : UINT32) : Prop :=
  tsn = h.assoc.peerCumulativeTsn + 1 ∨ TSN_GT tsn (h.assoc.peerCumulativeTsn + 1)

instance (h : Host) (tsn : UINT32) : Decidable (NewTsn h tsn) := inferInstanceAs (Decidable (_ ∨ _))

theorem sctpHandleData_eq {messageFn : Bool} {flags : UINT8} {pValue : Bytes}
    (hlen : 12 ≤ pValue.length) (hst : h.assoc.state = .ESTABLISHED)
    (hvalid : h.assoc.peerCumulativeTsnValid = true) :
    sctpHandleData h messageFn flags pValue =
      if NewTsn h (getUnalignedInt32BigEndian pValue 0) then
        sctpSendSack (if messageFn then
          deliverData { trackTsn h (getUnalignedInt32BigEndian pValue 0) with assoc.needSack := true }
            flags (getUnalignedInt16BigEndian pValue 4) (getUnalignedInt16BigEndian pValue 6)
            (getUnalignedInt32BigEndian pValue 8) (pValue.drop 12)
          else { trackTsn h (getUnalignedInt32BigEndian pValue 0) with assoc.needSack := true })
      else sctpSendSack { h with assoc.needSack := true } := by
  unfold sctpHandleData NewTsn
  rw [if_neg (by omega), if_neg (fun hne => hne hst)]
  simp only [hvalid, not_true_eq_false, if_false]

theorem sctpHandleData_trackSide (messageFn : Bool) (flags : UINT8) {pValue : Bytes}
    (hlen : 12 ≤ pValue.length) (hst : h.assoc.state = .ESTABLISHED)
    (hvalid : h.assoc.peerCumulativeTsnValid = true)
    (hnew : NewTsn h (getUnalignedInt32BigEndian pValue 0)) :
    (sctpHandleData h messageFn flags pValue).trackSide = { h.trackSide with
      peerCumulativeTsn := (trackedAfter h.assoc.peerCumulativeTsn h.assoc.receivedTsns
        (getUnalignedInt32BigEndian pValue 0)).1
      receivedTsns := (trackedAfter h.assoc.peerCumulativeTsn h.assoc.receivedTsns
        (getUnalignedInt32BigEndian pValue 0)).2 } := by
  rw [sctpHandleData_eq hlen hst hvalid, if_pos hnew, sctpSendSack_trackSide, trackTsn_eq]
  split
  · rw [deliverData_trackSide]
    rfl
  · rfl

theorem sctpHandleData_old (messageFn : Bool) (flags : UINT8) {pValue : Bytes}
    (hlen : 12 ≤ pValue.length) (hst : h.assoc.state = .ESTABLISHED)
    (hvalid : h.assoc.peerCumulativeTsnValid = true)
    (hold : ¬ NewTsn h (getUnalignedInt32BigEndian pValue 0)) :
    (sctpHandleData h messageFn flags pValue).recvSide = h.recvSide := by
  rw [sctpHandleData_eq hlen hst hvalid, if_neg hold, sctpSendSack_recvSide]
  rfl

theorem sctpHandleData_ignored {messageFn : Bool} {flags : UINT8} {pValue : Bytes}
    (h0 : pValue.length < 12 ∨ h.assoc.state ≠ .ESTABLISHED) :
    sctpHandleData h messageFn flags pValue = h := by
  unfold sctpHandleData
  rcases h0 with hlen | hst
  · rw [if_pos hlen]
  · rw [if_pos hst, ite_self]

theorem sctpHandleData_movesOn (ht : Tracking h.trackSide) {messageFn : Bool} {flags : UINT8}
    {pValue : Bytes} (hhalf : Serial.ahead h.assoc.peerCumulativeTsn
      (getUnalignedInt32BigEndian pValue 0) ≠ 2 ^ 31) :
    MovesOn h (sctpHandleData h messageFn flags pValue) := by
  by_cases h0 : pValue.length < 12 ∨ h.assoc.state ≠ .ESTABLISHED
  · rw [sctpHandleData_ignored h0]
    exact .of_eq ht rfl
  · rw [not_or, not_not] at h0
    have hlen : 12 ≤ pValue.length := by omega
    by_cases hnew : NewTsn h (getUnalignedInt32BigEndian pValue 0)
    · have hside := sctpHandleData_trackSide messageFn flags hlen h0.2 ht.valid hnew
      obtain ⟨hok, hmono⟩ := ht.track.after hnew hhalf
      have hcum := congrArg TrackSide.peerCumulativeTsn hside
      refine ⟨?_, ?_⟩
      · rw [hside]
        exact ⟨ht.state, ht.valid, ht.t1, hok⟩
      · have hcum' : (sctpHandleData h messageFn flags pValue).assoc.peerCumulativeTsn = _ := hcum
        rw [hcum']
        exact hmono
    · exact .of_recvSide ht (sctpHandleData_old messageFn flags hlen h0.2 ht.valid hnew)

theorem sctpHandleForwardTsn_trackSide {pValue : Bytes} (hlen : 4 ≤ pValue.length)
    (hgt : TSN_GT (getUnalignedInt32BigEndian pValue 0) h.assoc.peerCumulativeTsn) :
    (sctpHandleForwardTsn h pValue).trackSide = { h.trackSide with
      peerCumulativeTsn :=
        (forwardedTo h.assoc.receivedTsns (getUnalignedInt32BigEndian pValue 0)).1
      receivedTsns :=
        (forwardedTo h.assoc.receivedTsns (getUnalignedInt32BigEndian pValue 0)).2 } := by
  unfold sctpHandleForwardTsn
  rw [if_neg (by omega)]
  simp only
  rw [if_pos hgt, sctpSendSack_trackSide]
  rfl

theorem sctpHandleForwardTsn_movesOn (ht : Tracking h.trackSide) {pValue : Bytes}
    (hroom : TSN_GT (getUnalignedInt32BigEndian pValue 0) h.assoc.peerCumulativeTsn →
      Serial.ahead h.assoc.peerCumulativeTsn (getUnalignedInt32BigEndian pValue 0) +
        h.assoc.receivedTsns.length < 2 ^ 31) :
    MovesOn h (sctpHandleForwardTsn h pValue) := by
  by_cases hlen : pValue.length < 4
  · unfold sctpHandleForwardTsn
    rw [if_pos hlen]
    exact .of_eq ht rfl
  · by_cases hgt : TSN_GT (getUnalignedInt32BigEndian pValue 0) h.assoc.peerCumulativeTsn
    · have hside := sctpHandleForwardTsn_trackSide (by omega) hgt
      obtain ⟨hok, hmono⟩ := ht.track.forward (hroom hgt)
      refine ⟨?_, ?_⟩
      · rw [hside]
        exact ⟨ht.state, ht.valid, ht.t1, hok⟩
      · have hcum : (sctpHandleForwardTsn h pValue).assoc.peerCumulativeTsn = _ :=
          congrArg TrackSide.peerCumulativeTsn hside
        rw [hcum]
        exact hmono
    · unfold sctpHandleForwardTsn
      rw [if_neg hlen]
      simp only
      rw [if_neg hgt]
      exact .of_eq ht (sctpSendSack_trackSide _)

theorem acceptCookie_trackSide (h : Host) (cookie : SctpCookie) :
    (acceptCookie h cookie).trackSide =
      ⟨.ESTABLISHED, true, 0, cookie.peerInitialTsn - 1, h.assoc.receivedTsns⟩ := rfl

theorem sctpHandleCookieEcho_movesOn (ht : Tracking h.trackSide) {pValue : Bytes}
    (hcookie : ValidCookie pValue →
      (SctpCookie.ofBytes pValue).peerInitialTsn - 1 = h.assoc.peerCumulativeTsn) :
    MovesOn h (sctpHandleCookieEcho h pValue) := by
  unfold sctpHandleCookieEcho
  split
  · exact .of_eq ht rfl
  · rename_i hlen
    simp only
    split
    · exact .of_eq ht rfl
    · rename_i hmagic
      rw [not_or, not_not, not_not] at hmagic
      have hcum := hcookie ⟨by omega, hmagic.1, hmagic.2⟩
      have hside : (sctpFlushSendQueue (acceptCookie h (SctpCookie.ofBytes pValue))).trackSide =
          (acceptCookie h (SctpCookie.ofBytes pValue)).trackSide :=
        congrArg RecvSide.trackSide (sctpFlushSendQueue_recvSide _)
      rw [acceptCookie_trackSide, hcum] at hside
      refine ⟨?_, ?_⟩
      · rw [hside]
        exact ⟨.inl rfl, rfl, rfl, ht.track⟩
      · have hc : (sctpFlushSendQueue (acceptCookie h
            (SctpCookie.ofBytes pValue))).assoc.peerCumulativeTsn = h.assoc.peerCumulativeTsn :=
          congrArg TrackSide.peerCumulativeTsn hside
        rw [hc]
        exact tsn_gte_self _

/-- **One chunk.** -/
theorem sctpChunkDispatch_movesOn (ht : Tracking h.trackSide) {messageFn : Bool} {c : SctpChunk}
    (hc : ChunkOk h c) : MovesOn h (sctpChunkDispatch messageFn h c) := by
  have hsame : MovesOn h h := .of_eq ht rfl
  have hstate : h.assoc.state = .ESTABLISHED ∨ h.assoc.state = .SHUTDOWN_SENT := ht.state
  rcases hc.listed with hty | hty | hty | hty | hty | hty | hty | hty
  · rw [sctpChunkDispatch_init hty]
    unfold sctpHandleInit
    split
    · exact hsame
    · exact .of_eq ht rfl
  · rw [sctpChunkDispatch_initAck hty]
    unfold sctpHandleInitAck
    split
    · exact hsame
    · rw [if_pos (by rcases hstate with h | h <;> rw [h] <;> decide)]
      exact hsame
  · rw [sctpChunkDispatch_cookieEcho hty]
    exact sctpHandleCookieEcho_movesOn ht (hc.cookieEcho hty)
  · rw [sctpChunkDispatch_cookieAck hty]
    unfold sctpHandleCookieAck
    rw [if_pos (by rcases hstate with h | h <;> rw [h] <;> decide)]
    exact hsame
  · rw [sctpChunkDispatch_data hty]
    exact sctpHandleData_movesOn ht (hc.data hty)
  · rw [sctpChunkDispatch_sack hty]
    exact .of_recvSide ht (sctpHandleSack_recvSide h _)
  · rw [sctpChunkDispatch_forwardTsn hty]
    exact sctpHandleForwardTsn_movesOn ht (hc.forwardTsn hty)
  · rw [sctpChunkDispatch_heartbeat hty]
    unfold handleHeartbeat
    simp only
    split
    · exact .of_eq ht rfl
    · exact .of_eq ht rfl

/-! ## Runs -/

/-- A step after which the tracking is still sound: not a new connect, and a chunk only if it is
safe. -/
def StepOk (h : Host) : Step → Prop
  | .connect => False
  | .chunk _ c => ChunkOk h c
  | _ => True

theorem t3_recvSide (h : Host) (nowMs : UINT64) : (checkT3 h nowMs).recvSide = h.recvSide :=
  T3Keeps.checkT3 (P := fun h' => h'.recvSide = h.recvSide)
    ⟨fun _ _ => id, fun _ => id, fun _ _ _ _ _ _ => id, fun _ => id, fun _ => id⟩ nowMs rfl rfl

/-- **One step.** -/
theorem move_movesOn (ht : Tracking h.trackSide) {st : Step} (hok : StepOk h st) :
    MovesOn h (h.move st) := by
  cases st with
  | connect => exact hok.elim
  | send m => exact .of_recvSide ht (sctpAssocSend_recvSide h m)
  | chunk messageFn c => exact sctpChunkDispatch_movesOn ht hok
  | checkTimers nowMs =>
    have h1 : checkT1 h nowMs = (h, false) := by
      unfold checkT1
      rw [if_neg (fun hc => hc.1 ht.t1)]
    show MovesOn h (sctpAssocCheckTimers h nowMs)
    unfold sctpAssocCheckTimers
    rw [h1]
    exact .of_recvSide ht (t3_recvSide h nowMs)
  | shutdown =>
    show MovesOn h (sctpAssocShutdown h)
    unfold sctpAssocShutdown
    split
    · exact .of_eq ht rfl
    · exact ⟨⟨.inr rfl, ht.valid, ht.t1, ht.track⟩, tsn_gte_self _⟩

/-! ## Until the association is established -/

/-- Nothing is tracked before the association is established, and then the peer's initial TSN is
known. -/
structure Opening (t : TrackSide) : Prop where
  received : t.receivedTsns = []
  echoed : t.state = .COOKIE_ECHOED → t.peerCumulativeTsnValid = true
  established : t.state = .ESTABLISHED → t.peerCumulativeTsnValid = true ∧ t.t1InitExpiry = 0

theorem Opening.other {t : TrackSide} (hr : t.receivedTsns = []) (h1 : t.state ≠ .COOKIE_ECHOED)
    (h2 : t.state ≠ .ESTABLISHED) : Opening t :=
  ⟨hr, fun h => absurd h h1, fun h => absurd h h2⟩

theorem Opening.tracking {t : TrackSide} (ho : Opening t) (hst : t.state = .ESTABLISHED) :
    Tracking t := by
  obtain ⟨hv, ht1⟩ := ho.established hst
  refine ⟨.inl hst, hv, ht1, ⟨?_, ?_⟩, ?_⟩
  · rw [ho.received]
    exact List.nodup_nil
  · rw [ho.received]
    exact fun t ht => absurd ht List.not_mem_nil
  · rw [ho.received]
    exact List.not_mem_nil

theorem sctpHandleInitAck_opening (ho : Opening h.trackSide) (pValue : Bytes) :
    Opening (sctpHandleInitAck h pValue).trackSide := by
  unfold sctpHandleInitAck
  split
  · exact ho
  · split
    · exact ho
    · rename_i hst
      split
      · refine ⟨ho.received, fun _ => rfl, fun hest => ?_⟩
        have hest : h.assoc.state = .ESTABLISHED := hest
        rw [hest] at hst
        exact absurd hst (by decide)
      · exact ⟨ho.received, fun _ => rfl, fun hest => by cases hest⟩

theorem sctpHandleCookieEcho_opening (ho : Opening h.trackSide) (pValue : Bytes) :
    Opening (sctpHandleCookieEcho h pValue).trackSide := by
  unfold sctpHandleCookieEcho
  split
  · exact ho
  · simp only
    split
    · exact ho
    · have hside : (sctpFlushSendQueue (acceptCookie h (SctpCookie.ofBytes pValue))).trackSide =
          (acceptCookie h (SctpCookie.ofBytes pValue)).trackSide :=
        congrArg RecvSide.trackSide (sctpFlushSendQueue_recvSide _)
      rw [hside, acceptCookie_trackSide]
      exact ⟨ho.received, fun _ => rfl, fun _ => ⟨rfl, rfl⟩⟩

theorem sctpHandleCookieAck_opening (ho : Opening h.trackSide) :
    Opening (sctpHandleCookieAck h).trackSide := by
  unfold sctpHandleCookieAck
  split
  · exact ho
  · rename_i hst
    rw [not_not] at hst
    have hside : (sctpFlushSendQueue { h with
        assoc.state := .ESTABLISHED, assoc.t1InitExpiry := 0 }).trackSide =
        { h.trackSide with state := .ESTABLISHED, t1InitExpiry := 0 } :=
      congrArg RecvSide.trackSide (sctpFlushSendQueue_recvSide _)
    rw [hside]
    exact ⟨ho.received, fun h => (nomatch h), fun _ => ⟨ho.echoed hst, rfl⟩⟩

theorem sctpHandleForwardTsn_opening (ho : Opening h.trackSide) (pValue : Bytes) :
    Opening (sctpHandleForwardTsn h pValue).trackSide := by
  have hnil : h.assoc.receivedTsns = [] := ho.received
  by_cases hlen : pValue.length < 4
  · unfold sctpHandleForwardTsn
    rw [if_pos hlen]
    exact ho
  · by_cases hgt : TSN_GT (getUnalignedInt32BigEndian pValue 0) h.assoc.peerCumulativeTsn
    · rw [sctpHandleForwardTsn_trackSide (by omega) hgt, hnil]
      exact ⟨rfl, ho.echoed, ho.established⟩
    · unfold sctpHandleForwardTsn
      rw [if_neg hlen]
      simp only
      rw [if_neg hgt, sctpSendSack_trackSide]
      exact ho

theorem sctpChunkDispatch_opening (ho : Opening h.trackSide)
    (hst : h.assoc.state ≠ .ESTABLISHED) (messageFn : Bool) (c : SctpChunk) :
    Opening (sctpChunkDispatch messageFn h c).trackSide := by
  refine sctpChunkDispatch_cases (P := fun h' => Opening h'.trackSide) (fun _ => ?_)
    (fun _ => sctpHandleInitAck_opening ho _) (fun _ => sctpHandleCookieEcho_opening ho _)
    (fun _ => sctpHandleCookieAck_opening ho) (fun _ => ?_) (fun _ => ?_)
    (fun _ => sctpHandleForwardTsn_opening ho _) (fun _ => ?_) (fun _ => ?_) (fun _ => ?_)
    (fun _ => ?_) ho
  · unfold sctpHandleInit
    split
    · exact ho
    · exact ho
  · rw [sctpHandleData_ignored (.inr hst)]
    exact ho
  · have hside : (sctpHandleSack h c.value).trackSide = h.trackSide :=
      congrArg RecvSide.trackSide (sctpHandleSack_recvSide h _)
    rw [hside]
    exact ho
  · unfold handleHeartbeat
    simp only
    split
    · exact ho
    · exact ho
  · exact .other ho.received (fun h => nomatch h) (fun h => nomatch h)
  · exact .other ho.received (fun h => nomatch h) (fun h => nomatch h)
  · exact .other ho.received (fun h => nomatch h) (fun h => nomatch h)

theorem checkT1_opening (ho : Opening h.trackSide) (hst : h.assoc.state ≠ .ESTABLISHED)
    (nowMs : UINT64) : Opening (checkT1 h nowMs).1.trackSide := by
  have hkeep : ∀ t : TrackSide, t.receivedTsns = h.assoc.receivedTsns →
      t.state = h.assoc.state → t.peerCumulativeTsnValid = h.assoc.peerCumulativeTsnValid →
      Opening t := by
    intro t h1 h2 h3
    refine ⟨h1.trans ho.received, fun he => ?_, fun he => absurd (h2 ▸ he) hst⟩
    rw [h3]
    exact ho.echoed (h2.symm.trans he)
  unfold checkT1
  simp only
  split
  · split
    · exact .other ho.received (fun h => nomatch h) (fun h => nomatch h)
    · split
      · exact hkeep _ rfl rfl rfl
      · split
        · exact hkeep _ rfl rfl rfl
        · exact hkeep _ rfl rfl rfl
  · exact ho

theorem move_opening (ho : Opening h.trackSide) (hst : h.assoc.state ≠ .ESTABLISHED) (st : Step) :
    Opening (h.move st).trackSide := by
  cases st with
  | connect => exact .other ho.received (fun h => nomatch h) (fun h => nomatch h)
  | send m =>
    have hside : (sctpAssocSend h m).trackSide = h.trackSide :=
      congrArg RecvSide.trackSide (sctpAssocSend_recvSide h m)
    show Opening (sctpAssocSend h m).trackSide
    rw [hside]
    exact ho
  | chunk messageFn c => exact sctpChunkDispatch_opening ho hst messageFn c
  | checkTimers nowMs =>
    have h1 := checkT1_opening ho hst nowMs
    show Opening (sctpAssocCheckTimers h nowMs).trackSide
    unfold sctpAssocCheckTimers
    simp only
    split
    · exact h1
    · have hside : (checkT3 (checkT1 h nowMs).1 nowMs).trackSide = (checkT1 h nowMs).1.trackSide :=
        congrArg RecvSide.trackSide (t3_recvSide _ nowMs)
      rw [hside]
      exact h1
  | shutdown =>
    show Opening (sctpAssocShutdown h).trackSide
    unfold sctpAssocShutdown
    rw [if_pos hst]
    exact ho

/-- The association becomes ESTABLISHED with the last of the steps and not before. -/
def FirstEstablished (h : Host) (steps : List Step) : Prop :=
  (h.moves steps).assoc.state = .ESTABLISHED ∧
    ∀ pre st post, steps = pre ++ st :: post → (h.moves pre).assoc.state ≠ .ESTABLISHED

theorem moves_opening (clock : Nat → UINT64) (localPort remotePort mtu : UINT16) (steps : List Step)
    (hnot : ∀ pre st post, steps = pre ++ st :: post →
      ((sctpAssocInit clock localPort remotePort mtu).moves pre).assoc.state ≠ .ESTABLISHED) :
    Opening ((sctpAssocInit clock localPort remotePort mtu).moves steps).trackSide := by
  induction steps using List.reverseRecOn with
  | nil => exact .other rfl (fun h => nomatch h) (fun h => nomatch h)
  | append_singleton steps st ih =>
    have ho := ih (fun pre st' post heq => hnot pre st' (post ++ [st]) (by
      rw [heq, List.append_assoc, List.cons_append]))
    rw [Host.moves_append, Host.moves_cons, Host.moves_nil]
    exact move_opening ho (hnot steps st [] rfl) st

/-- Every further step is safe for the tracking. -/
def StepsOk (h : Host) (steps : List Step) : Prop :=
  ∀ pre st post, steps = pre ++ st :: post → StepOk (h.moves pre) st

theorem moves_tracking {h : Host} (ht : Tracking h.trackSide) (steps : List Step)
    (hok : StepsOk h steps) : Tracking (h.moves steps).trackSide := by
  induction steps using List.reverseRecOn with
  | nil => exact ht
  | append_singleton steps st ih =>
    have h1 := ih (fun pre st' post heq => hok pre st' (post ++ [st]) (by
      rw [heq, List.append_assoc, List.cons_append]))
    rw [Host.moves_append, Host.moves_cons, Host.moves_nil]
    exact (move_movesOn h1 (hok steps st [] rfl)).1

/-- From `h` to `h'` the cumulative TSN does not move backwards in serial-number order; in `h'` the
tracked TSNs are pairwise distinct, none of them is `peerCumulativeTsn + 1` and all are strictly
beyond `peerCumulativeTsn`. -/
def TracksOn (h h' : Host) : Prop :=
  TSN_GTE h'.assoc.peerCumulativeTsn h.assoc.peerCumulativeTsn ∧
    h'.assoc.receivedTsns.Nodup ∧
    h'.assoc.peerCumulativeTsn + 1 ∉ h'.assoc.receivedTsns ∧
    ∀ t ∈ h'.assoc.receivedTsns, TSN_GT t h'.assoc.peerCumulativeTsn

/-- **Receive tracking is monotone in safe runs.**  Split the steps of any run where the association
first becomes ESTABLISHED.  If each chunk handled afterwards meets `ChunkOk` when it arrives, and
there is no further connect, the tracking moves on with every step. -/
theorem receive_tracking_monotone (clock : Nat → UINT64) (localPort remotePort mtu : UINT16)
    (ops : List Op) (steps steps' : List Step)
    (hsplit : (sctpAssocInit clock localPort remotePort mtu).expand ops = steps ++ steps')
    (hfirst : FirstEstablished (sctpAssocInit clock localPort remotePort mtu) steps)
    (hok : StepsOk ((sctpAssocInit clock localPort remotePort mtu).moves steps) steps') :
    (sctpAssocInit clock localPort remotePort mtu).run ops =
        (sctpAssocInit clock localPort remotePort mtu).moves (steps ++ steps') ∧
      ∀ pre st post, steps' = pre ++ st :: post →
        TracksOn ((sctpAssocInit clock localPort remotePort mtu).moves (steps ++ pre))
          ((sctpAssocInit clock localPort remotePort mtu).moves (steps ++ pre ++ [st])) := by
  refine ⟨by rw [Host.run_eq_moves, hsplit], fun pre st post heq => ?_⟩
  have hstart := (moves_opening clock localPort remotePort mtu steps hfirst.2).tracking hfirst.1
  rw [Host.moves_append _ (steps ++ pre), Host.moves_append, Host.moves_cons, Host.moves_nil]
  generalize (sctpAssocInit clock localPort remotePort mtu).moves steps = h at hstart hok
  have hpre : StepsOk h pre := by
    intro pre' st' post' heq'
    refine hok pre' st' (post' ++ st :: post) ?_
    rw [heq, heq', List.append_assoc, List.cons_append]
  have ht := moves_tracking hstart pre hpre
  obtain ⟨htrack, hmono⟩ := move_movesOn ht (hok pre st post heq)
  exact ⟨hmono, htrack.track.tracked.nodup, htrack.track.stuck,
    fun t hmem => tsn_gt_iff.mpr (htrack.track.tracked.ahead t hmem)⟩

/-! ## A late COOKIE-ECHO -/

/-- The first DATA chunk of the sample peer. -/
def sampleData : SctpChunk :=
  ⟨SCTP_CHUNK_DATA, wholeFlags false, dataValue 100 0 0 51 [1, 2, 3, 4]⟩

def sampleEcho : SctpChunk := ⟨SCTP_CHUNK_COOKIE_ECHO, 0, sampleCookie.toBytes⟩

/-- The first DATA chunk after the handshake is safe. -/
theorem receive_tracking_monotone_sample :
    TracksOn ((sctpAssocInit (fun _ => 7) 5000 5000 1150).moves [.chunk true sampleEcho])
      ((sctpAssocInit (fun _ => 7) 5000 5000 1150).moves
        [.chunk true sampleEcho, .chunk true sampleData]) := by
  have hone : ∀ {x y : Step} {pre post : List Step}, [x] = pre ++ y :: post →
      pre = [] ∧ y = x := by
    intro x y pre post heq
    have := List.append_eq_singleton_iff.mp heq.symm
    simp_all
  have hecho : Carries sampleCookieEcho 0 sampleEcho :=
    carries_onePacket _ _ _ (by rw [SctpCookie.length_toBytes]; decide)
  have hdata : Carries (onePacket 5000 5000 7 sampleData) 7 sampleData :=
    carries_onePacket _ _ _ (by decide)
  refine (receive_tracking_monotone (fun _ => 7) 5000 5000 1150
    [.handlePacket true sampleCookieEcho,
      .handlePacket true (onePacket 5000 5000 7 sampleData)]
    [.chunk true sampleEcho] [.chunk true sampleData] ?_ ⟨?_, ?_⟩ ?_).2 [] (.chunk true sampleData)
    [] rfl
  · show List.map _ _ ++ (List.map _ _ ++ []) = _
    rw [Host.acceptedChunks_carries (c := sampleEcho) hecho,
      Host.acceptedChunks_carries (c := sampleData) hdata, if_neg (by decide),
      if_neg (by decide +kernel)]
    rfl
  · decide +kernel
  · intro pre op post heq
    obtain ⟨rfl, rfl⟩ := hone heq
    decide +kernel
  · intro pre op post heq
    obtain ⟨rfl, rfl⟩ := hone heq
    refine ⟨by unfold ListedChunk; decide, ?_, fun _ => by decide +kernel, ?_⟩
    · exact fun h => absurd h (by decide)
    · exact fun h => absurd h (by decide)

/-- The left side's COOKIE-ECHO arrives once more after its first DATA chunk: the right side is
ESTABLISHED with `peerCumulativeTsn` 7, and goes back to 6. -/
theorem late_cookieEcho_moves_back :
    let evs : List NetEvent :=
      sampleHandshake ++ [.send .left ⟨0, 51, false, [1, 2, 3, 4], 0xFFFF, 0⟩, .deliver .right true 2]
    let h := (sampleNet.run evs .right).host
    let h' := (sampleNet.run (evs ++ [.deliver .right true 1]) .right).host
    h.assoc.state = .ESTABLISHED ∧
      ¬ TSN_GTE h'.assoc.peerCumulativeTsn h.assoc.peerCumulativeTsn := by
  decide +kernel

end KvsWebrtc.Sctp
