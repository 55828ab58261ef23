import KvsWebrtc.Rtp.Retransmission

/-!
# What a NACK leaves in the rolling buffer

`resendPacketOnNack` takes each packet out under the valid index at position `i`, sends it and puts
it back under the requested number at position `i`, read as an index.  The status of the send is
overwritten by the status of the put-back, so no outcome of a send matters here; a retransmission
that cannot be built leaves the loop with the packet still taken out.

Principal result: `nack_leaves_buffer_iff` — a NACK drops, moves and frees nothing exactly when every
packet it finds stands at the requested number of its own position and can be rebuilt.
-/

namespace KvsWebrtc.Rtp

variable {capacity : Nat}

/-! ## Equal contents -/

/-- The same range, and the same entry at each index of it. -/
structure SameEntries {α : Type} (b b' : RollingBuffer α capacity) : Prop where
  head : b'.headIndex = b.headIndex
  tail : b'.tailIndex = b.tailIndex
  entry : ∀ j, b.InRange j → b'.lookup j = b.lookup j

theorem SameEntries.refl {α : Type} (b : RollingBuffer α capacity) : SameEntries b b :=
  ⟨rfl, rfl, fun _ _ => rfl⟩

theorem SameEntries.inRange {α : Type} {b b' : RollingBuffer α capacity} (h : SameEntries b b')
    (j : Nat) : b'.InRange j ↔ b.InRange j := by
  unfold RollingBuffer.InRange
  rw [h.head, h.tail]

/-! ## One position -/

/-- A retransmission of the packet can be built. -/
def Rebuilds (t : KvsRtpTransceiver capacity) (p : RtpPacket) : Prop :=
  ∃ t', retransmit t p = .ok t'

/-- The packet that position `i` finds at `index` can be rebuilt, and the requested number of that
position is `index`. -/
def InPlace (t : KvsRtpTransceiver capacity) (list : Nat → UINT16) (i index : Nat) : Prop :=
  ∀ p, t.packetBuffer.pRollingBuffer.InRange index →
    t.packetBuffer.pRollingBuffer.lookup index = some p → Rebuilds t p ∧ (list i).toNat = index

section

variable {t t0 : KvsRtpTransceiver capacity} {list : Nat → UINT16}

theorem constructRetransmit_seq {raw : Bytes} {seq : UINT16} {payloadType : UINT8} {ssrc : UINT32}
    {q : RtpPacket} (h : constructRetransmitRtpPacketFromBytes raw seq payloadType ssrc = .ok q)
    (seq' : UINT16) :
    ∃ q', constructRetransmitRtpPacketFromBytes raw seq' payloadType ssrc = .ok q' := by
  unfold constructRetransmitRtpPacketFromBytes at h ⊢
  cases hp : setRtpPacketFromBytes raw with
  | error e =>
    rw [hp] at h
    cases h
  | ok p =>
    rw [hp] at h
    simp only [setBytesFromRtpPacket] at h ⊢
    by_cases hext : p.header.extension = true
    · by_cases hlen : p.header.extensionPayload.length % 4 = 0
      · simp [hext, hlen, bind, Except.bind, pure, Except.pure]
      · simp [hext, hlen, bind, Except.bind] at h
    · simp [hext, bind, Except.bind, pure, Except.pure]

/-- The stream of the retransmissions, apart from its next sequence number. -/
structure SameTarget (t0 t : KvsRtpTransceiver capacity) : Prop where
  payloadType : t.payloadType = t0.payloadType
  rtxPayloadType : t.rtxPayloadType = t0.rtxPayloadType
  rtxSsrc : t.rtxSsrc = t0.rtxSsrc

theorem rebuilds_iff (p : RtpPacket) :
    Rebuilds t p ↔ t.payloadType = t.rtxPayloadType ∨
      ∃ q, constructRetransmitRtpPacketFromBytes p.pRawPacket t.rtxSequenceNumber t.rtxPayloadType
        t.rtxSsrc = .ok q := by
  unfold Rebuilds retransmit
  by_cases htype : t.payloadType = t.rtxPayloadType
  · rw [if_pos htype]
    exact ⟨fun _ => .inl htype, fun _ => ⟨_, rfl⟩⟩
  · rw [if_neg htype]
    cases hq : constructRetransmitRtpPacketFromBytes p.pRawPacket t.rtxSequenceNumber
        t.rtxPayloadType t.rtxSsrc with
    | error e =>
      refine ⟨fun ⟨t', ht'⟩ => (by cases ht'), ?_⟩
      rintro (h | ⟨q, h⟩)
      · exact absurd h htype
      · cases h
    | ok q => exact ⟨fun _ => .inr ⟨q, rfl⟩, fun _ => ⟨_, rfl⟩⟩

theorem SameTarget.rebuilds (h : SameTarget t0 t) (p : RtpPacket) : Rebuilds t p ↔ Rebuilds t0 p := by
  rw [rebuilds_iff, rebuilds_iff, h.payloadType, h.rtxPayloadType, h.rtxSsrc]
  refine or_congr_right ⟨?_, ?_⟩
  · rintro ⟨q, hq⟩
    exact constructRetransmit_seq hq _
  · rintro ⟨q, hq⟩
    exact constructRetransmit_seq hq _

theorem resendIndex_target (h : SameTarget t0 t) (i : Nat) (seqNum : UINT16) (index : Nat) :
    SameTarget t0 (resendIndex list i seqNum index t).1 := by
  unfold resendIndex
  split
  · exact h
  · split
    · exact ⟨h.payloadType, h.rtxPayloadType, h.rtxSsrc⟩
    · rename_i t1 ht1
      obtain ⟨seq, rfl⟩ := retransmit_ok ht1
      dsimp only
      split <;> exact ⟨h.payloadType, h.rtxPayloadType, h.rtxSsrc⟩

/-- **One position** leaves the buffer as it was exactly when its packet is put back in place; the
loop then goes on. -/
theorem resendIndex_same_iff (list : Nat → UINT16) (i : Nat) (seqNum : UINT16) (index : Nat) :
    (SameEntries t.packetBuffer.pRollingBuffer
        (resendIndex list i seqNum index t).1.packetBuffer.pRollingBuffer ↔ InPlace t list i index) ∧
      (InPlace t list i index → (resendIndex list i seqNum index t).2 = true) := by
  have hstay : ∀ r : KvsRtpTransceiver capacity × Bool, r = (t, true) → InPlace t list i index →
      (SameEntries t.packetBuffer.pRollingBuffer r.1.packetBuffer.pRollingBuffer ↔
        InPlace t list i index) ∧ (InPlace t list i index → r.2 = true) := by
    rintro r rfl hin
    exact ⟨⟨fun _ => hin, fun _ => .refl _⟩, fun _ => rfl⟩
  unfold resendIndex
  rcases extract_cases t.packetBuffer.pRollingBuffer index with
    ⟨hout, heq⟩ | ⟨hin, b1, heq, hhead1, htail1, hl1⟩
  · rw [heq]
    exact hstay _ rfl fun p hr => absurd hr hout
  · rw [heq]
    cases hp : t.packetBuffer.pRollingBuffer.lookup index with
    | none => exact hstay _ rfl fun p _ hl => by rw [hp] at hl; cases hl
    | some p =>
      -- as long as nothing is put back at `index`, that entry is missing
      have hgone : ∀ b' : RollingBuffer RtpPacket capacity,
          b'.lookup index = none → ¬ SameEntries t.packetBuffer.pRollingBuffer b' := by
        intro b' hnone hsame
        have := hsame.entry index hin
        rw [hnone, hp] at this
        cases this
      have htaken : b1.lookup index = none := by rw [hl1 index hin, if_pos rfl]
      have htarget : SameTarget t (setRolling t b1) := ⟨rfl, rfl, rfl⟩
      dsimp only
      split
      · -- building the retransmission failed
        rename_i e hfail
        have hno : ¬ InPlace t list i index := by
          intro hplace
          obtain ⟨t', ht'⟩ := (htarget.rebuilds p).mpr (hplace p hin hp).1
          rw [hfail] at ht'
          cases ht'
        exact ⟨⟨fun hs => absurd hs (hgone b1 htaken), fun hplace => absurd hplace hno⟩,
          fun hplace => absurd hplace hno⟩
      · rename_i t1 ht1
        have hbuild : Rebuilds t p := (htarget.rebuilds p).mp ⟨t1, ht1⟩
        obtain ⟨rtxSeq, rfl⟩ := retransmit_ok ht1
        dsimp only [setRolling]
        rcases insert_cases b1 (list i).toNat p with ⟨hout, hins⟩ | ⟨hin2, b2, hins, hhead2, htail2, hl2⟩
        · -- the number is no index of the buffer: the packet is freed
          rw [hins]
          have hno : ¬ InPlace t list i index := by
            intro hplace
            refine hout ?_
            rw [(hplace p hin hp).2]
            exact ⟨by rw [hhead1]; exact hin.1, by rw [htail1]; exact hin.2⟩
          exact ⟨⟨fun hs => absurd hs (hgone b1 htaken), fun hplace => absurd hplace hno⟩,
            fun _ => rfl⟩
        · rw [hins]
          have hin1 : ∀ j, t.packetBuffer.pRollingBuffer.InRange j → b1.InRange j := fun j hj =>
            ⟨by rw [hhead1]; exact hj.1, by rw [htail1]; exact hj.2⟩
          refine ⟨⟨fun hs => ?_, fun hplace => ?_⟩, fun _ => rfl⟩
          · intro q hq hlq
            obtain rfl : p = q := Option.some.inj (hp.symm.trans hlq)
            refine ⟨hbuild, ?_⟩
            by_contra hne
            refine hgone b2 ?_ hs
            rw [hl2 index (hin1 index hin), if_neg (fun h => hne h.symm)]
            exact htaken
          · have hkey := (hplace p hin hp).2
            refine ⟨hhead2.trans hhead1, htail2.trans htail1, fun j hj => ?_⟩
            show b2.lookup j = _
            rw [hl2 j (hin1 j hj), hl1 j hj, hkey]
            split
            · rename_i hj'
              rw [hj', hp]
            · rfl

/-! ## All positions -/

theorem SameEntries.inPlace (h : SameEntries t0.packetBuffer.pRollingBuffer
      t.packetBuffer.pRollingBuffer) (ht : SameTarget t0 t) (list : Nat → UINT16) (i index : Nat) :
    InPlace t list i index ↔ InPlace t0 list i index := by
  have hiff : ∀ p, (t.packetBuffer.pRollingBuffer.InRange index →
      t.packetBuffer.pRollingBuffer.lookup index = some p → Rebuilds t p ∧ (list i).toNat = index) ↔
      (t0.packetBuffer.pRollingBuffer.InRange index →
        t0.packetBuffer.pRollingBuffer.lookup index = some p →
        Rebuilds t0 p ∧ (list i).toNat = index) := by
    intro p
    rw [h.inRange index, ht.rebuilds p]
    constructor
    · intro hp hin hl
      exact hp hin (by rw [h.entry index hin]; exact hl)
    · intro hp hin hl
      exact hp hin (by rw [← h.entry index hin]; exact hl)
  exact forall_congr' hiff

theorem SameEntries.trans {α : Type} {b b' b'' : RollingBuffer α capacity} (h : SameEntries b b')
    (h' : SameEntries b' b'') : SameEntries b b'' :=
  ⟨h'.head.trans h.head, h'.tail.trans h.tail,
    fun j hj => (h'.entry j ((h.inRange j).mpr hj)).trans (h.entry j hj)⟩

theorem SameEntries.symm {α : Type} {b b' : RollingBuffer α capacity} (h : SameEntries b b') :
    SameEntries b' b :=
  ⟨h.head.symm, h.tail.symm, fun j hj => (h.entry j ((h.inRange j).mp hj)).symm⟩

theorem resendIndices_same_iff (t0 : KvsRtpTransceiver capacity) (list : Nat → UINT16) :
    ∀ (found : List (UINT16 × Nat)) (i : Nat) (t : KvsRtpTransceiver capacity), SameTarget t0 t →
      SameEntries t0.packetBuffer.pRollingBuffer t.packetBuffer.pRollingBuffer →
      ((∀ k, SameEntries t0.packetBuffer.pRollingBuffer
          (resendIndices list i (found.take k) t).packetBuffer.pRollingBuffer) ↔
        ∀ (j : Nat) (seqNum : UINT16) (index : Nat), found[j]? = some (seqNum, index) →
          InPlace t0 list (i + j) index)
  | [], i, t, _, hs => by
    refine ⟨fun _ j _ _ hj => (by cases hj), fun _ k => ?_⟩
    rw [List.take_nil]
    exact hs
  | (seqNum, index) :: rest, i, t, ht, hs => by
    obtain ⟨hiff, hgo⟩ := resendIndex_same_iff (t := t) list i seqNum index
    have hplace := hs.inPlace ht list i index
    -- a position that is in place is followed by the rest of the loop
    have hcons : InPlace t0 list i index → ∀ k,
        resendIndices list i (((seqNum, index) :: rest).take (k + 1)) t =
          resendIndices list (i + 1) (rest.take k) (resendIndex list i seqNum index t).1 := by
      intro hp k
      rw [List.take_succ_cons]
      conv_lhs => unfold resendIndices
      rw [if_pos (hgo (hplace.mpr hp))]
    have ih : InPlace t0 list i index → _ := fun hp =>
      resendIndices_same_iff t0 list rest (i + 1) (resendIndex list i seqNum index t).1
        (resendIndex_target ht i seqNum index) (hs.trans (hiff.mpr (hplace.mpr hp)))
    constructor
    · intro hall
      have hfirst : InPlace t0 list i index := by
        have hone := hall 1
        rw [List.take_succ_cons, List.take_zero] at hone
        unfold resendIndices at hone
        dsimp only at hone
        have hone' : SameEntries t0.packetBuffer.pRollingBuffer
            (resendIndex list i seqNum index t).1.packetBuffer.pRollingBuffer := by
          split at hone
          · exact hone
          · exact hone
        exact hplace.mp (hiff.mp (hs.symm.trans hone'))
      have hrest := (ih hfirst).mp fun k => by
        rw [← hcons hfirst k]
        exact hall (k + 1)
      intro j s x hj
      cases j with
      | zero =>
        cases hj
        exact hfirst
      | succ j =>
        rw [Nat.add_comm j 1, ← Nat.add_assoc]
        exact hrest j s x hj
    · intro hall k
      have hfirst : InPlace t0 list i index := hall 0 seqNum index rfl
      cases k with
      | zero => exact hs
      | succ k =>
        rw [hcons hfirst k]
        refine (ih hfirst).mpr (fun j s x hj => ?_) k
        rw [Nat.add_assoc, Nat.add_comm 1 j]
        exact hall (j + 1) s x hj

end

/-! ## A whole NACK -/

/-- `resendPacketOnNack`, stopped after `k` positions. -/
def resendFirst (k : Nat) (t : KvsRtpTransceiver capacity) (n : Nack) : KvsRtpTransceiver capacity :=
  match rtcpNackListGet n.payload n.oldCells DEFAULT_SEQ_NUM_BUFFER_SIZE with
  | .error _ => t
  | .ok (_, receiverSsrc, l) =>
    if hasSsrc t receiverSsrc then resendIndices l.cells 0 ((validIndices t l n).take k) t else t

/-- After the NACK each index holds what it held before, and so it does after each position on the
way: nothing was dropped, moved to another index or freed. -/
def LeavesBuffer (t : KvsRtpTransceiver capacity) (n : Nack) : Prop :=
  SameEntries t.packetBuffer.pRollingBuffer
      (resendPacketOnNack t n).packetBuffer.pRollingBuffer ∧
    ∀ k, SameEntries t.packetBuffer.pRollingBuffer
      (resendFirst k t n).packetBuffer.pRollingBuffer

/-- Every packet the NACK finds can be rebuilt and is named by the requested number of its own
position. -/
def FoundInPlace (t : KvsRtpTransceiver capacity) (n : Nack) : Prop :=
  ∀ senderSsrc receiverSsrc l,
    rtcpNackListGet n.payload n.oldCells DEFAULT_SEQ_NUM_BUFFER_SIZE =
      .ok (senderSsrc, receiverSsrc, l) → hasSsrc t receiverSsrc →
    ∀ (i : Nat) (seqNum : UINT16) (index : Nat), (validIndices t l n)[i]? = some (seqNum, index) →
      InPlace t l.cells i index

/-- **A NACK leaves the rolling buffer as it was exactly when every packet it finds is put back in
place**, whatever the buffer holds and whatever the NACK asks for. -/
theorem nack_leaves_buffer_iff (t : KvsRtpTransceiver capacity) (n : Nack) :
    LeavesBuffer t n ↔ FoundInPlace t n := by
  unfold LeavesBuffer FoundInPlace resendPacketOnNack resendFirst
  cases hget : rtcpNackListGet n.payload n.oldCells DEFAULT_SEQ_NUM_BUFFER_SIZE with
  | error e =>
    refine ⟨fun _ _ _ _ heq => (by cases heq), fun _ => ⟨.refl _, fun _ => .refl _⟩⟩
  | ok r =>
    obtain ⟨senderSsrc, receiverSsrc, l⟩ := r
    by_cases hssrc : hasSsrc t receiverSsrc
    · simp only [if_pos hssrc]
      have hloop := resendIndices_same_iff t l.cells (validIndices t l n) 0 t
        ⟨rfl, rfl, rfl⟩ (.refl _)
      have hall : (SameEntries t.packetBuffer.pRollingBuffer
          (resendIndices l.cells 0 (validIndices t l n) t).packetBuffer.pRollingBuffer ∧
          ∀ k, SameEntries t.packetBuffer.pRollingBuffer
            (resendIndices l.cells 0 ((validIndices t l n).take k) t).packetBuffer.pRollingBuffer) ↔
          ∀ k, SameEntries t.packetBuffer.pRollingBuffer
            (resendIndices l.cells 0 ((validIndices t l n).take k) t).packetBuffer.pRollingBuffer := by
        refine ⟨fun h => h.2, fun h => ⟨?_, h⟩⟩
        have hend := h (validIndices t l n).length
        rwa [List.take_length] at hend
      rw [hall, hloop]
      constructor
      · intro h _ _ l' heq _ i s index hi
        cases heq
        have := h i s index hi
        rwa [Nat.zero_add] at this
      · intro h i s index hi
        rw [Nat.zero_add]
        exact h _ _ l rfl hssrc i s index hi
    · simp only [if_neg hssrc]
      refine ⟨fun _ _ _ _ heq hs => ?_, fun _ => ⟨.refl _, fun _ => .refl _⟩⟩
      cases heq
      exact absurd hs hssrc

/-- Three packets are buffered and 65535, 1 and 2 are asked for: packet 1 is freed, and packet 2 is
put back under 1. -/
theorem nack_moves_packet :
    ¬ LeavesBuffer ((sampleTransceiver 96 97).run [.frame (sampleFrame 3 (fun _ => sampleSent))])
      (sampleNack 65535 6) := by
  intro h
  have hsame := h.1.entry 2 (by decide +kernel)
  have hlost : ((resendPacketOnNack ((sampleTransceiver 96 97).run
      [.frame (sampleFrame 3 (fun _ => sampleSent))])
      (sampleNack 65535 6)).packetBuffer.pRollingBuffer.lookup 2).isSome = false := by
    decide +kernel
  rw [hsame] at hlost
  exact absurd hlost (by decide +kernel)

end KvsWebrtc.Rtp
