import KvsWebrtc.Sctp.Transmission

/-!
# FORWARD-TSN and reliable data

When T3 expires, chunks that have used up their retransmissions or their lifetime are abandoned and
`advancedPeerAckPoint` moves to the newest of them; a FORWARD-TSN then tells the peer to skip
everything up to that point, whatever is still outstanding below it.

Principal results:

* `t3Loop_effect` — what the T3 loop leaves outstanding and where it moves the ack point;
* `forwardTsn_skips_nothing` — in every run in which each expiry abandons only chunks older than all
  it keeps, no FORWARD-TSN covers a chunk that is still outstanding.
-/

namespace KvsWebrtc.Sctp

/-- Outstanding, not acknowledged and not abandoned. -/
def Live (d : SctpOutstandingData) : Prop :=
  d.inUse = true ∧ d.acked = false ∧ d.abandoned = false

/-- The T3 loop at `nowMs` abandons this chunk. -/
def Abandons (nowMs : UINT64) (d : SctpOutstandingData) : Prop :=
  Live d ∧ shouldAbandon nowMs d.retried = true

/-- The T3 loop at `nowMs` keeps this chunk. -/
def Keeps (nowMs : UINT64) (d : SctpOutstandingData) : Prop :=
  Live d ∧ shouldAbandon nowMs d.retried = false

/-! ## The T3 loop -/

/-- What the loop has done to `h` after `k` iterations. -/
structure T3Effect (nowMs : UINT64) (h : Host) (k : Nat) (h' : Host) : Prop where
  ahead : ∀ i : Fin SCTP_MAX_OUTSTANDING, k ≤ i.val →
    h'.assoc.outstanding.get i = h.assoc.outstanding.get i
  live : ∀ i : Fin SCTP_MAX_OUTSTANDING, Live (h'.assoc.outstanding.get i) →
    Live (h.assoc.outstanding.get i) ∧
      (h'.assoc.outstanding.get i).tsn = (h.assoc.outstanding.get i).tsn ∧
      (i.val < k → shouldAbandon nowMs (h.assoc.outstanding.get i).retried = false)
  ackPoint : h'.assoc.advancedPeerAckPoint = h.assoc.advancedPeerAckPoint ∨
    ∃ j, Abandons nowMs (h.assoc.outstanding.get j) ∧
      h'.assoc.advancedPeerAckPoint = (h.assoc.outstanding.get j).tsn
  tsnsUsed : h'.tsnsUsed = h.tsnsUsed
  outbound : ∃ new, h'.outbound = h.outbound ++ new ∧ ∀ x ∈ new, ∀ v, x.origin ≠ .forwardTsn v

variable {nowMs : UINT64} {h h' : Host} {k : Nat}

theorem T3Effect.refl : T3Effect nowMs h 0 h :=
  ⟨fun _ _ => rfl, fun _ hl => ⟨hl, rfl, fun hlt => absurd hlt (Nat.not_lt_zero _)⟩, .inl rfl, rfl,
    [], (List.append_nil _).symm, fun _ hx => nomatch hx⟩

theorem T3Effect.skip {i : Fin SCTP_MAX_OUTSTANDING} (he : T3Effect nowMs h i.val h')
    (hdead : ¬ Live (h'.assoc.outstanding.get i)) : T3Effect nowMs h (i.val + 1) h' := by
  refine ⟨fun j hj => he.ahead j (by omega), fun j hl => ?_, he.ackPoint, he.tsnsUsed, he.outbound⟩
  obtain ⟨h1, h2, h3⟩ := he.live j hl
  refine ⟨h1, h2, fun hj => h3 ?_⟩
  have hne : j ≠ i := by
    rintro rfl
    exact hdead hl
  have : j.val ≠ i.val := fun h => hne (Fin.ext h)
  omega

theorem T3Effect.abandon {i : Fin SCTP_MAX_OUTSTANDING} (he : T3Effect nowMs h i.val h')
    (hab : Abandons nowMs (h.assoc.outstanding.get i)) :
    T3Effect nowMs h (i.val + 1) (abandonSlot h' i (h.assoc.outstanding.get i).retried) := by
  refine ⟨fun j hj => ?_, fun j hl => ?_, ?_, he.tsnsUsed, he.outbound⟩
  · have hne : j ≠ i := by
      rintro rfl
      omega
    exact (SlotTable.get_set_ne _ _ hne).trans (he.ahead j (by omega))
  · have hset : (abandonSlot h' i (h.assoc.outstanding.get i).retried).assoc.outstanding.get j =
        if j = i then _ else h'.assoc.outstanding.get j := SlotTable.get_set _ _ _ _
    rw [hset] at hl ⊢
    split at hl
    · obtain ⟨hu, _⟩ := hl
      cases hu
    · rename_i hne
      rw [if_neg hne]
      obtain ⟨h1, h2, h3⟩ := he.live j hl
      refine ⟨h1, h2, fun hj => h3 ?_⟩
      have : j.val ≠ i.val := fun h => hne (Fin.ext h)
      omega
  · show (if TSN_GT (h.assoc.outstanding.get i).tsn h'.assoc.advancedPeerAckPoint then
      (h.assoc.outstanding.get i).tsn else h'.assoc.advancedPeerAckPoint) = _ ∨ _
    split
    · rename_i hgt
      refine .inr ⟨i, hab, ?_⟩
      show (if TSN_GT (h.assoc.outstanding.get i).tsn h'.assoc.advancedPeerAckPoint then
        (h.assoc.outstanding.get i).tsn else h'.assoc.advancedPeerAckPoint) = _
      rw [if_pos hgt]
    · rename_i hgt
      rcases he.ackPoint with hsame | ⟨j, hj, hadv⟩
      · exact .inl hsame
      · refine .inr ⟨j, hj, ?_⟩
        show (if TSN_GT (h.assoc.outstanding.get i).tsn h'.assoc.advancedPeerAckPoint then
          (h.assoc.outstanding.get i).tsn else h'.assoc.advancedPeerAckPoint) = _
        rw [if_neg hgt]
        exact hadv

theorem T3Effect.keep {i : Fin SCTP_MAX_OUTSTANDING} (he : T3Effect nowMs h i.val h')
    (hk : Keeps nowMs (h.assoc.outstanding.get i)) :
    T3Effect nowMs h (i.val + 1) (setOutstanding h' i (h.assoc.outstanding.get i).retried) := by
  refine ⟨fun j hj => ?_, fun j hl => ?_, he.ackPoint, he.tsnsUsed, he.outbound⟩
  · have hne : j ≠ i := by
      rintro rfl
      omega
    exact (SlotTable.get_set_ne _ _ hne).trans (he.ahead j (by omega))
  · have hset : (setOutstanding h' i (h.assoc.outstanding.get i).retried).assoc.outstanding.get j =
        if j = i then (h.assoc.outstanding.get i).retried else h'.assoc.outstanding.get j :=
      SlotTable.get_set _ _ _ _
    rw [hset] at hl ⊢
    split at hl
    · rename_i heq
      rw [if_pos heq, heq]
      exact ⟨hk.1, rfl, fun _ => hk.2⟩
    · rename_i hne
      rw [if_neg hne]
      obtain ⟨h1, h2, h3⟩ := he.live j hl
      refine ⟨h1, h2, fun hj => h3 ?_⟩
      have : j.val ≠ i.val := fun h => hne (Fin.ext h)
      omega

theorem T3Effect.emit (he : T3Effect nowMs h k h') {vtag : UINT32} {w : Written} {o : Origin}
    (ho : ∀ v, o ≠ .forwardTsn v) : T3Effect nowMs h k (sendChunk h' vtag w o) := by
  obtain ⟨new, hnew, hno⟩ := he.outbound
  obtain ⟨p, hp, _⟩ := sendChunk_emits h' vtag w o
  have hout : (sendChunk h' vtag w o).outbound = h'.outbound ++ [⟨p, o⟩] :=
    congrArg SendSide.outbound hp
  refine ⟨he.ahead, he.live, he.ackPoint, he.tsnsUsed, new ++ [⟨p, o⟩], ?_, fun x hx => ?_⟩
  · rw [hout, hnew, List.append_assoc]
  · rcases List.mem_append.mp hx with hx | hx
    · exact hno x hx
    · rw [List.mem_singleton.mp hx]
      exact ho

theorem t3Slot_effect {i : Fin SCTP_MAX_OUTSTANDING} (he : T3Effect nowMs h i.val h') :
    T3Effect nowMs h (i.val + 1) (t3Slot nowMs h' i) := by
  have hsame := he.ahead i (Nat.le_refl _)
  unfold t3Slot
  simp only
  split
  · rename_i hd
    refine he.skip (fun hl => ?_)
    obtain ⟨h1, h2, h3⟩ := hl
    simp [h1, h2, h3] at hd
  · rename_i hd
    have hlive : Live (h.assoc.outstanding.get i) := by
      rw [hsame] at hd
      unfold Live
      simpa using hd
    rw [hsame]
    split
    · rename_i hab
      exact he.abandon ⟨hlive, hab⟩
    · rename_i hab
      have hkeep := he.keep ⟨hlive, by simpa using hab⟩
      split
      · exact hkeep
      · exact hkeep.emit (fun v h => nomatch h)

theorem t3Loop_effect (nowMs : UINT64) (h : Host) :
    T3Effect nowMs h SCTP_MAX_OUTSTANDING (t3Loop h nowMs) :=
  SlotTable.forSlots_rec (P := T3Effect nowMs h) .refl (fun _ _ he => t3Slot_effect he)

/-! ## One expiry -/

/-- Every FORWARD-TSN in `out` is one on the wire, and no chunk outstanding in `h` is at or below
its new cumulative TSN. -/
def SkipsNothing (out : List OutPacket) (h : Host) : Prop :=
  ∀ p v, ⟨p, .forwardTsn v⟩ ∈ out →
    (∃ vtag, Carries p vtag ⟨SCTP_CHUNK_FORWARD_TSN, 0, putUnalignedInt32BigEndian v⟩) ∧
    ∀ i, Live (h.assoc.outstanding.get i) → ¬ TSN_LTE (h.assoc.outstanding.get i).tsn v

/-- The chunks that are kept are newer than all that are abandoned.  Once half of the TSN space is
used up, they also have to be newer than the ack point. -/
def KeepsNewest (h : Host) (nowMs : UINT64) : Prop :=
  ∀ i, Keeps nowMs (h.assoc.outstanding.get i) →
    (∀ j, Abandons nowMs (h.assoc.outstanding.get j) →
      TSN_GT (h.assoc.outstanding.get i).tsn (h.assoc.outstanding.get j).tsn) ∧
    (2 ^ 31 ≤ h.tsnsUsed → TSN_GT (h.assoc.outstanding.get i).tsn h.assoc.advancedPeerAckPoint)

/-- If `sctpAssocCheckTimers` runs the T3 loop at `nowMs`, it keeps the newest chunks. -/
def T3Orders (h : Host) (nowMs : UINT64) : Prop :=
  h.assoc.t3RtxExpiry ≠ 0 → nowMs ≥ h.assoc.t3RtxExpiry → (checkT1 h nowMs).2 = false →
    KeepsNewest h nowMs

/-- Everything outstanding is newer than the ack point, while TSNs can be compared. -/
def BeyondAckPoint (tsn0 : UINT32) (s : SendSide) : Prop :=
  s.tsnsUsed < 2 ^ 31 →
    (∀ i, Live (s.outstanding.get i) → TSN_GT (s.outstanding.get i).tsn s.ackPoint) ∧
      Serial.ahead (tsn0 - 1) s.ackPoint ≤ s.tsnsUsed

theorem restartT3_outstanding (h : Host) (nowMs : UINT64) :
    (restartT3 h nowMs).assoc.outstanding = h.assoc.outstanding :=
  congrArg SendSide.outstanding (restartT3_sendSide h nowMs)

theorem T3Effect.beyond {tsn0 : UINT32} (he : T3Effect nowMs h SCTP_MAX_OUTSTANDING h')
    (hord : KeepsNewest h nowMs) (hb : BeyondAckPoint tsn0 h.sendSide)
    (i : Fin SCTP_MAX_OUTSTANDING) (hl : Live (h'.assoc.outstanding.get i)) :
    TSN_GT (h'.assoc.outstanding.get i).tsn h'.assoc.advancedPeerAckPoint := by
  obtain ⟨hlive, htsn, hkeep⟩ := he.live i hl
  obtain ⟨h1, h2⟩ := hord i ⟨hlive, hkeep i.isLt⟩
  rw [htsn]
  rcases he.ackPoint with hsame | ⟨j, hj, hadv⟩
  · rw [hsame]
    by_cases hlt : h.tsnsUsed < 2 ^ 31
    · exact (hb hlt).1 i hlive
    · exact h2 (by omega)
  · rw [hadv]
    exact h1 j hj

theorem T3Effect.window {tsn0 : UINT32} (he : T3Effect nowMs h k h')
    (hb : BeyondAckPoint tsn0 h.sendSide)
    (hwin : ∀ i, Live (h.assoc.outstanding.get i) →
      Serial.ahead (tsn0 - 1) (h.assoc.outstanding.get i).tsn ≤ h.tsnsUsed)
    (hlt : h.tsnsUsed < 2 ^ 31) :
    Serial.ahead (tsn0 - 1) h'.assoc.advancedPeerAckPoint ≤ h'.tsnsUsed := by
  rw [he.tsnsUsed]
  rcases he.ackPoint with hsame | ⟨j, hj, hadv⟩
  · rw [hsame]
    exact (hb hlt).2
  · rw [hadv]
    exact hwin j hj.1

theorem sendForwardTsn_outbound (h : Host) :
    (sendForwardTsn h).outbound = h.outbound ∨
      ∃ p vtag, (sendForwardTsn h).outbound =
          h.outbound ++ [⟨p, .forwardTsn h.assoc.advancedPeerAckPoint⟩] ∧
        Carries p vtag ⟨SCTP_CHUNK_FORWARD_TSN, 0,
          putUnalignedInt32BigEndian h.assoc.advancedPeerAckPoint⟩ := by
  unfold sendForwardTsn
  split
  · obtain ⟨p, hp, hc⟩ := sendChunk_emits h h.assoc.peerVerificationTag
      (sctpWriteForwardTsnChunk h.assoc.advancedPeerAckPoint)
      (.forwardTsn h.assoc.advancedPeerAckPoint)
    exact .inr ⟨p, _, congrArg SendSide.outbound hp, hc _ (sctpWriteForwardTsnChunk_is _)⟩
  · exact .inl rfl

theorem sendForwardTsn_outstanding (h : Host) :
    (sendForwardTsn h).assoc.outstanding = h.assoc.outstanding := by
  unfold sendForwardTsn
  split <;> rfl

theorem sendForwardTsn_ackPoint (h : Host) :
    (sendForwardTsn h).assoc.advancedPeerAckPoint = h.assoc.advancedPeerAckPoint := by
  unfold sendForwardTsn
  split <;> rfl

theorem sendForwardTsn_tsnsUsed (h : Host) : (sendForwardTsn h).tsnsUsed = h.tsnsUsed := by
  unfold sendForwardTsn
  split <;> rfl

theorem checkT1_frame (h : Host) (nowMs : UINT64) :
    (checkT1 h nowMs).1.assoc.outstanding = h.assoc.outstanding ∧
      (checkT1 h nowMs).1.assoc.advancedPeerAckPoint = h.assoc.advancedPeerAckPoint ∧
      (checkT1 h nowMs).1.assoc.t3RtxExpiry = h.assoc.t3RtxExpiry ∧
      (checkT1 h nowMs).1.tsnsUsed = h.tsnsUsed ∧
      ∃ new, (checkT1 h nowMs).1.outbound = h.outbound ++ new ∧
        ∀ x ∈ new, ∀ v, x.origin ≠ .forwardTsn v := by
  unfold checkT1
  simp only
  split
  · split
    · exact ⟨rfl, rfl, rfl, rfl, [], (List.append_nil _).symm, fun _ hx => nomatch hx⟩
    · split
      · refine ⟨rfl, rfl, rfl, rfl, _, rfl, fun x hx => ?_⟩
        rw [List.mem_singleton.mp hx]
        exact fun _ h => nomatch h
      · split
        · refine ⟨rfl, rfl, rfl, rfl, _, rfl, fun x hx => ?_⟩
          rw [List.mem_singleton.mp hx]
          exact fun _ h => nomatch h
        · exact ⟨rfl, rfl, rfl, rfl, [], (List.append_nil _).symm, fun _ hx => nomatch hx⟩
  · exact ⟨rfl, rfl, rfl, rfl, [], (List.append_nil _).symm, fun _ hx => nomatch hx⟩

theorem skipsNothing_of_none {out : List OutPacket} (hno : ∀ x ∈ out, ∀ v, x.origin ≠ .forwardTsn v)
    (h : Host) : SkipsNothing out h := by
  intro p v hmem
  exact absurd rfl (hno _ hmem v)

theorem T3Effect.finish {tsn0 : UINT32} (he : T3Effect nowMs h SCTP_MAX_OUTSTANDING h')
    (hord : KeepsNewest h nowMs) (hb : BeyondAckPoint tsn0 h.sendSide)
    (hwin : ∀ i, Live (h.assoc.outstanding.get i) →
      Serial.ahead (tsn0 - 1) (h.assoc.outstanding.get i).tsn ≤ h.tsnsUsed) :
    (∃ new, (restartT3 (sendForwardTsn h') nowMs).outbound = h.outbound ++ new ∧
        SkipsNothing new (restartT3 (sendForwardTsn h') nowMs)) ∧
      BeyondAckPoint tsn0 (restartT3 (sendForwardTsn h') nowMs).sendSide := by
  have hbey := he.beyond hord hb
  obtain ⟨new, hnew, hno⟩ := he.outbound
  refine ⟨?_, ?_⟩
  · rcases sendForwardTsn_outbound h' with hsame | ⟨p, vtag, hout, hc⟩
    · refine ⟨new, ?_, skipsNothing_of_none hno _⟩
      rw [restartT3_outbound, hsame, hnew]
    · refine ⟨new ++ [⟨p, .forwardTsn h'.assoc.advancedPeerAckPoint⟩], ?_, ?_⟩
      · rw [restartT3_outbound, hout, hnew, List.append_assoc]
      · intro q v hmem
        rcases List.mem_append.mp hmem with hmem | hmem
        · exact absurd rfl (hno _ hmem v)
        · cases List.mem_singleton.mp hmem
          refine ⟨⟨vtag, hc⟩, fun i hl hle => ?_⟩
          rw [restartT3_outstanding, sendForwardTsn_outstanding] at hl hle
          exact Serial.le_iff_not_gt.mp hle (hbey i hl)
  · rw [restartT3_sendSide]
    intro hlt
    change (sendForwardTsn h').tsnsUsed < 2 ^ 31 at hlt
    rw [sendForwardTsn_tsnsUsed, he.tsnsUsed] at hlt
    show (∀ i, Live ((sendForwardTsn h').assoc.outstanding.get i) →
        TSN_GT ((sendForwardTsn h').assoc.outstanding.get i).tsn
          (sendForwardTsn h').assoc.advancedPeerAckPoint) ∧
      Serial.ahead _ (sendForwardTsn h').assoc.advancedPeerAckPoint ≤ (sendForwardTsn h').tsnsUsed
    rw [sendForwardTsn_outstanding, sendForwardTsn_ackPoint, sendForwardTsn_tsnsUsed]
    exact ⟨hbey, he.window hb hwin hlt⟩

theorem checkT3_skips {tsn0 : UINT32}
    (hord : h.assoc.t3RtxExpiry ≠ 0 → nowMs ≥ h.assoc.t3RtxExpiry → KeepsNewest h nowMs)
    (hb : BeyondAckPoint tsn0 h.sendSide)
    (hwin : ∀ i, Live (h.assoc.outstanding.get i) →
      Serial.ahead (tsn0 - 1) (h.assoc.outstanding.get i).tsn ≤ h.tsnsUsed) :
    (∃ new, (checkT3 h nowMs).outbound = h.outbound ++ new ∧ SkipsNothing new (checkT3 h nowMs)) ∧
      BeyondAckPoint tsn0 (checkT3 h nowMs).sendSide := by
  unfold checkT3
  split
  · rename_i hexp
    have hkn : KeepsNewest (t3Enter h) nowMs := hord hexp.1 hexp.2
    exact (t3Loop_effect nowMs (t3Enter h)).finish hkn hb hwin
  · exact ⟨⟨[], (List.append_nil _).symm, skipsNothing_of_none
      (fun _ hx => absurd hx List.not_mem_nil) _⟩, hb⟩

theorem checkTimers_skips {tsn0 : UINT32} (hord : T3Orders h nowMs)
    (hb : BeyondAckPoint tsn0 h.sendSide)
    (hwin : ∀ i, Live (h.assoc.outstanding.get i) →
      Serial.ahead (tsn0 - 1) (h.assoc.outstanding.get i).tsn ≤ h.tsnsUsed) :
    SkipsNothing ((sctpAssocCheckTimers h nowMs).outbound.drop h.outbound.length)
        (sctpAssocCheckTimers h nowMs) ∧
      BeyondAckPoint tsn0 (sctpAssocCheckTimers h nowMs).sendSide := by
  obtain ⟨hout, hadv, hexp, hused, new, hnew, hno⟩ := checkT1_frame h nowMs
  have hb1 : BeyondAckPoint tsn0 (checkT1 h nowMs).1.sendSide := by
    intro hlt
    have hlt' : h.tsnsUsed < 2 ^ 31 := hused ▸ hlt
    obtain ⟨h1, h2⟩ := hb hlt'
    show (∀ i, Live ((checkT1 h nowMs).1.assoc.outstanding.get i) →
        TSN_GT ((checkT1 h nowMs).1.assoc.outstanding.get i).tsn
          (checkT1 h nowMs).1.assoc.advancedPeerAckPoint) ∧
      Serial.ahead _ (checkT1 h nowMs).1.assoc.advancedPeerAckPoint ≤ (checkT1 h nowMs).1.tsnsUsed
    rw [hout, hadv, hused]
    exact ⟨h1, h2⟩
  unfold sctpAssocCheckTimers
  simp only
  split
  · refine ⟨?_, hb1⟩
    rw [hnew, List.drop_left]
    exact skipsNothing_of_none hno _
  · rename_i hT1
    have hkn : (checkT1 h nowMs).1.assoc.t3RtxExpiry ≠ 0 →
        nowMs ≥ (checkT1 h nowMs).1.assoc.t3RtxExpiry →
          KeepsNewest (checkT1 h nowMs).1 nowMs := by
      intro h0 h1
      rw [hexp] at h0 h1
      have := hord h0 h1 (by simpa using hT1)
      unfold KeepsNewest
      rw [hout, hadv, hused]
      exact this
    have hwin1 : ∀ i, Live ((checkT1 h nowMs).1.assoc.outstanding.get i) → Serial.ahead (tsn0 - 1)
        ((checkT1 h nowMs).1.assoc.outstanding.get i).tsn ≤ (checkT1 h nowMs).1.tsnsUsed := by
      rw [hout, hused]
      exact hwin
    obtain ⟨⟨new3, hnew3, hskip⟩, hb3⟩ := checkT3_skips hkn hb1 hwin1
    refine ⟨?_, hb3⟩
    rw [hnew3, hnew, List.append_assoc, List.drop_left]
    intro p v hmem
    rcases List.mem_append.mp hmem with hmem | hmem
    · exact absurd rfl (hno _ hmem v)
    · exact hskip p v hmem

/-! ## Runs -/

theorem ahead_tsn (tsn0 : UINT32) (n : Nat) :
    Serial.ahead (tsn0 - 1) (tsn0 + BitVec.ofNat 32 n) = (n + 1) % 2 ^ 32 := by
  rw [← Serial.ahead_add_ofNat (tsn0 - 1) (n + 1), BitVec.ofNat_add, BitVec.add_comm (BitVec.ofNat 32 n),
    ← BitVec.add_assoc]
  congr 2
  exact (BitVec.sub_add_cancel tsn0 1).symm

theorem SentLog.window {S : SctpMessage → Prop} {tsn0 : UINT32} {s : SendSide}
    (hl : SentLog S tsn0 s) {i : Fin SCTP_MAX_OUTSTANDING} (hi : Live (s.outstanding.get i)) :
    Serial.ahead (tsn0 - 1) (s.outstanding.get i).tsn ≤ s.tsnsUsed := by
  obtain ⟨p, sl, hout, htsn, _⟩ := hl.remembers i hi.1
  have hlt := hl.bounded _ p sl hout
  rw [htsn, ahead_tsn]
  exact (Nat.mod_le _ _).trans hlt

theorem SendAct.beyond {S : SctpMessage → Prop} {tsn0 : UINT32} {s s' : SendSide}
    (hact : SendAct S (fun _ => False) s s') (hl : SentLog S tsn0 s) (hb : BeyondAckPoint tsn0 s) :
    BeyondAckPoint tsn0 s' := by
  cases hact with
  | transmit i sl nowMs vtag p hm hfree hno hcut hprev hp =>
    intro hlt
    change s.tsnsUsed + 1 < 2 ^ 31 at hlt
    obtain ⟨h1, h2⟩ := hb (by omega)
    refine ⟨fun j hj => ?_, ?_⟩
    · simp only [SlotTable.get_set] at hj ⊢
      split
      · show TSN_GT s.nextTsn s.ackPoint
        have hahead : Serial.ahead (tsn0 - 1) s.nextTsn = s.tsnsUsed + 1 := by
          rw [hl.nextTsn, ahead_tsn]
          exact Nat.mod_eq_of_lt (by omega)
        refine (Serial.gt_iff_of_window (c := tsn0 - 1) ?_ ?_).mpr ?_
        · rw [hahead]
          omega
        · omega
        · omega
      · rename_i hne
        rw [if_neg hne] at hj
        exact h1 j hj
    · show Serial.ahead (tsn0 - 1) s.ackPoint ≤ s.tsnsUsed + 1
      omega
  | burnTsn =>
    intro hlt
    change s.tsnsUsed + 1 < 2 ^ 31 at hlt
    obtain ⟨h1, h2⟩ := hb (by omega)
    exact ⟨h1, Nat.le_succ_of_le h2⟩
  | count i hi =>
    intro hlt
    obtain ⟨h1, h2⟩ := hb hlt
    refine ⟨fun j hj => ?_, h2⟩
    simp only [SlotTable.get_set] at hj ⊢
    split
    · rename_i heq
      rw [if_pos heq] at hj
      exact h1 i hj
    · rename_i hne
      rw [if_neg hne] at hj
      exact h1 j hj
  | release i d point hi hd hpoint =>
    intro hlt
    obtain ⟨h1, h2⟩ := hb hlt
    rcases hpoint with rfl | hfalse
    · refine ⟨fun j hj => ?_, h2⟩
      simp only [SlotTable.get_set] at hj ⊢
      split
      · rename_i heq
        rw [if_pos heq] at hj
        have := hj.1
        rw [hd] at this
        cases this
      · rename_i hne
        rw [if_neg hne] at hj
        exact h1 j hj
    · exact hfalse.elim
  | _ => exact hb

theorem SendActs.beyond {S : SctpMessage → Prop} {tsn0 : UINT32} {s s' : SendSide}
    (hacts : SendActs S (fun _ => False) s s') (hl : SentLog S tsn0 s) (hb : BeyondAckPoint tsn0 s) :
    BeyondAckPoint tsn0 s' := by
  induction hacts with
  | refl => exact hb
  | tail hpre hact ih => exact hact.beyond (SendActs.sentLog hpre hl) ih

/-- Every expiry of T3 along the run abandons only chunks older than those it keeps. -/
def ExpiriesOrdered (h : Host) (ops : List Op) : Prop :=
  ∀ pre nowMs post, ops = pre ++ .checkTimers nowMs :: post → T3Orders (h.run pre) nowMs

theorem ExpiriesOrdered.take {h : Host} {pre post : List Op} (ho : ExpiriesOrdered h (pre ++ post)) :
    ExpiriesOrdered h pre := by
  intro pre' nowMs post' heq
  refine ho pre' nowMs (post' ++ post) ?_
  rw [heq, List.append_assoc, List.cons_append]

theorem run_beyond {mtu : UINT16} (hm : 29 ≤ mtu.toNat) (clock : Nat → UINT64)
    (localPort remotePort : UINT16) (ops : List Op)
    (ho : ExpiriesOrdered (sctpAssocInit clock localPort remotePort mtu) ops) :
    BeyondAckPoint (sctpGenerateTag clock)
      ((sctpAssocInit clock localPort remotePort mtu).run ops).sendSide := by
  induction ops using List.reverseRecOn with
  | nil =>
    intro _
    refine ⟨fun i hl => ?_, ?_⟩
    · cases hl.1
    · show Serial.ahead _ (sctpGenerateTag clock - 1) ≤ 0
      rw [Serial.ahead_self]
  | append_singleton ops op ih =>
    have hb := ih ho.take
    have hlog := run_sentLog (S := fun _ => True) hm clock localPort remotePort ops
      (fun _ _ => trivial)
    have hready := (run_acts (S := fun _ => True) ops (fun _ _ => trivial)
      (sctpAssocInit_ready hm clock localPort remotePort)).ready
      (sctpAssocInit_ready hm clock localPort remotePort)
    rw [Host.run_append, Host.run_cons, Host.run_nil]
    by_cases htick : ∃ nowMs, op = .checkTimers nowMs
    · obtain ⟨nowMs, rfl⟩ := htick
      exact (checkTimers_skips (ho ops nowMs [] rfl) hb (fun i hi => hlog.window hi)).2
    · refine (step_acts op hready (fun _ _ => trivial) (fun nowMs h => ?_)).beyond hlog hb
      exact absurd ⟨nowMs, h⟩ htick

/-- **FORWARD-TSN skips no outstanding data in ordered runs.**  In every run in which each expiry of
T3 keeps only chunks newer than all it abandons, every FORWARD-TSN that `sctpAssocCheckTimers` emits
has a new cumulative TSN below every chunk that is outstanding, not acknowledged and not
abandoned. -/
theorem forwardTsn_skips_nothing (clock : Nat → UINT64) (localPort remotePort mtu : UINT16)
    (hm : 29 ≤ mtu.toNat) (ops : List Op)
    (ho : ExpiriesOrdered (sctpAssocInit clock localPort remotePort mtu) ops) :
    ∀ pre nowMs post, ops = pre ++ .checkTimers nowMs :: post →
      SkipsNothing
        ((((sctpAssocInit clock localPort remotePort mtu).run (pre ++ [.checkTimers nowMs])).outbound).drop
          ((sctpAssocInit clock localPort remotePort mtu).run pre).outbound.length)
        ((sctpAssocInit clock localPort remotePort mtu).run (pre ++ [.checkTimers nowMs])) := by
  intro pre nowMs post heq
  have hpre : ExpiriesOrdered (sctpAssocInit clock localPort remotePort mtu) pre := by
    rw [heq] at ho
    exact ho.take
  have hlog := run_sentLog (S := fun _ => True) hm clock localPort remotePort pre
    (fun _ _ => trivial)
  rw [Host.run_append, Host.run_cons, Host.run_nil, Host.step_checkTimers]
  exact (checkTimers_skips (ho pre nowMs post heq)
    (run_beyond hm clock localPort remotePort pre hpre) (fun i hi => hlog.window hi)).1

/-! ## Reliable data before partially reliable data, and after it -/

def sampleReliable : SctpMessage := ⟨0, 51, false, [1, 2, 3, 4], 0xFFFF, 0⟩

def samplePartial : SctpMessage := ⟨0, 51, false, [5, 6, 7, 8], 0, 0⟩

/-- The sample association after two messages that each fit into a chunk. -/
def sampleTwo (m1 m2 : SctpMessage) : Host := sctpAssocSend (sctpAssocSend sampleHost m1) m2

theorem sampleTwo_free {m1 m2 : SctpMessage}
    (hm : (m1, m2) = (sampleReliable, samplePartial) ∨ (m1, m2) = (samplePartial, sampleReliable))
    (i : Fin SCTP_MAX_OUTSTANDING) (hi : 2 ≤ i.val) :
    ((sampleTwo m1 m2).assoc.outstanding.get i).inUse = false := by
  have hne : ∀ j : Fin SCTP_MAX_OUTSTANDING, j.val < 2 → i ≠ j := by
    rintro j hj rfl
    omega
  unfold sampleTwo
  rcases hm with hm | hm
  all_goals
    cases hm
    rw [sctpAssocSend_outstanding (i := 1) (by decide +kernel) (by decide +kernel)
      (by decide +kernel) (by decide +kernel), SlotTable.get_set_ne _ _ (hne 1 (by decide)),
      sctpAssocSend_outstanding (i := 0) (by decide +kernel) (by decide +kernel)
      (by decide +kernel) (by decide +kernel), SlotTable.get_set_ne _ _ (hne 0 (by decide))]
    rfl

/-- An expiry of T3 on an association with two slots in use. -/
def expireTwo (h : Host) (nowMs : UINT64) : Host :=
  restartT3 (sendForwardTsn (SlotTable.forSlotsUpTo (t3Slot nowMs) (t3Enter h) 2 (by decide))) nowMs

theorem expireTwo_eq {h : Host} {nowMs : UINT64} (ht1 : h.assoc.t1InitExpiry = 0)
    (ht3 : h.assoc.t3RtxExpiry ≠ 0) (hnow : nowMs ≥ h.assoc.t3RtxExpiry)
    (hfree : ∀ i : Fin SCTP_MAX_OUTSTANDING, 2 ≤ i.val → (h.assoc.outstanding.get i).inUse = false) :
    sctpAssocCheckTimers h nowMs = expireTwo h nowMs := by
  rw [sctpAssocCheckTimers_t3 ht1 ht3 hnow, t3Loop_eq_upTo (h := t3Enter h) (k := 2) (by decide) hfree]
  rfl

theorem forwardTsn_mem (out : List OutPacket) {v : UINT32}
    (h : (.forwardTsn v : Origin) ∈ out.map (·.origin)) : ∃ p, ⟨p, .forwardTsn v⟩ ∈ out := by
  obtain ⟨⟨p, o⟩, hx, ho⟩ := List.mem_map.mp h
  cases ho
  exact ⟨p, hx⟩

/-- A reliable chunk with TSN 7 is still outstanding when TSN 8 is abandoned and FORWARD-TSN 8 goes
out. -/
theorem forwardTsn_skips_reliable :
    ¬ SkipsNothing
      (((sctpAssocInit (fun _ => 7) 5000 5000 1150).run [.handlePacket true sampleCookieEcho,
        .send sampleReliable, .send samplePartial, .checkTimers 5000]).outbound.drop
        ((sctpAssocInit (fun _ => 7) 5000 5000 1150).run [.handlePacket true sampleCookieEcho,
          .send sampleReliable, .send samplePartial]).outbound.length)
      ((sctpAssocInit (fun _ => 7) 5000 5000 1150).run [.handlePacket true sampleCookieEcho,
        .send sampleReliable, .send samplePartial, .checkTimers 5000]) := by
  have hrun : sctpAssocCheckTimers (sctpAssocSend (sctpAssocSend sampleHost sampleReliable)
      samplePartial) 5000 = expireTwo (sampleTwo sampleReliable samplePartial) 5000 :=
    expireTwo_eq (by decide +kernel) (by decide +kernel) (by decide +kernel)
      (sampleTwo_free (Or.inl rfl))
  rw [run_sampleCookieEcho, run_sampleCookieEcho]
  simp only [Host.run_cons, Host.run_nil, Host.step_send, Host.step_checkTimers, hrun]
  intro hskip
  obtain ⟨p, hp⟩ := forwardTsn_mem (v := 8) ((expireTwo (sampleTwo sampleReliable
    samplePartial) 5000).outbound.drop (sctpAssocSend (sctpAssocSend sampleHost sampleReliable)
      samplePartial).outbound.length) (by decide +kernel)
  refine (hskip p 8 hp).2 0 ?_ ?_
  · unfold Live
    decide +kernel
  · decide +kernel

/-- With the partially reliable message first, the same expiry skips nothing. -/
theorem forwardTsn_skips_nothing_partialFirst :
    ExpiriesOrdered (sctpAssocInit (fun _ => 7) 5000 5000 1150) [.handlePacket true sampleCookieEcho,
        .send samplePartial, .send sampleReliable, .checkTimers 5000] ∧
      SkipsNothing
        (((sctpAssocInit (fun _ => 7) 5000 5000 1150).run [.handlePacket true sampleCookieEcho,
          .send samplePartial, .send sampleReliable, .checkTimers 5000]).outbound.drop
          ((sctpAssocInit (fun _ => 7) 5000 5000 1150).run [.handlePacket true sampleCookieEcho,
            .send samplePartial, .send sampleReliable]).outbound.length)
        ((sctpAssocInit (fun _ => 7) 5000 5000 1150).run [.handlePacket true sampleCookieEcho,
          .send samplePartial, .send sampleReliable, .checkTimers 5000]) := by
  have hkeep : KeepsNewest (sampleTwo samplePartial sampleReliable) 5000 := by
    intro i hi
    have hi2 : i.val < 2 := by
      by_contra hge
      have hu := sampleTwo_free (Or.inr rfl) i (by omega)
      rw [hi.1.1] at hu
      cases hu
    have hi1 : i = 1 := by
      by_contra hne
      have h0 : i = 0 := Fin.ext (by
        have : i.val ≠ 1 := fun h => hne (Fin.ext h)
        show i.val = 0
        omega)
      subst h0
      exact absurd hi.2 (by decide +kernel)
    subst hi1
    refine ⟨fun j hj => ?_, fun hbig => absurd hbig (by decide +kernel)⟩
    have hj2 : j.val < 2 := by
      by_contra hge
      have hu := sampleTwo_free (Or.inr rfl) j (by omega)
      rw [hj.1.1] at hu
      cases hu
    have hj0 : j = 0 := by
      by_contra hne
      have h1 : j = 1 := Fin.ext (by
        have : j.val ≠ 0 := fun h => hne (Fin.ext h)
        show j.val = 1
        omega)
      subst h1
      exact absurd hj.2 (by decide +kernel)
    subst hj0
    decide +kernel
  have ho : ExpiriesOrdered (sctpAssocInit (fun _ => 7) 5000 5000 1150)
      [.handlePacket true sampleCookieEcho, .send samplePartial, .send sampleReliable,
        .checkTimers 5000] := by
    intro pre nowMs post heq
    obtain ⟨rfl, rfl⟩ : pre = [.handlePacket true sampleCookieEcho, .send samplePartial,
        .send sampleReliable] ∧ nowMs = 5000 := by
      rcases pre with _ | ⟨a, _ | ⟨b, _ | ⟨c, _ | ⟨d, pre⟩⟩⟩⟩ <;> simp_all
    rw [run_sampleCookieEcho]
    intro _ _ _
    exact hkeep
  exact ⟨ho, forwardTsn_skips_nothing (fun _ => 7) 5000 5000 1150 (by decide) _ ho
    [.handlePacket true sampleCookieEcho, .send samplePartial, .send sampleReliable] 5000 [] rfl⟩

end KvsWebrtc.Sctp
