import KvsWebrtc.Rtp.Sender

/-!
# Retransmission from the rolling buffer

The buffer is addressed by its append counter, the NACKs by RTP sequence numbers.  The two agree
modulo 2^16 as long as every packet of every frame is buffered and every retransmitted packet is
put back where it was taken from; neither is guaranteed.

Principal results:

* `nack_answers_right_packet` — in a run in which no frame stops before its last packet and no
  packet is put back under another packet's number, every retransmitted packet carries the number it
  was looked up for;
* `sent_packets_buffered_iff` — the packets that were sent are in the buffer exactly when they are
  buffered before encryption and fewer than `capacity` packets were buffered after them.
-/

namespace KvsWebrtc.Rtp

variable {capacity : Nat} {t t' : KvsRtpTransceiver capacity}

/-! ## One packet of a frame -/

@[simp] theorem bufferEncrypted_none (b : Bool) (s : Progress capacity) :
    bufferEncrypted b none s = s := by
  cases b <;> rfl

/-- The loop is left at this packet. -/
def Stops (pacing : Bool) (o : PacketOutcome) : Prop :=
  o.encrypted = none ∨ (pacing = false ∧ o.sendStatus = .FAILED)

theorem sendPacket_cases (pacing b : Bool) (o : PacketOutcome) (raw : Bytes)
    (t : KvsRtpTransceiver capacity) (pacer : List Nat) :
    ∃ sentAt pacer' go,
      sendPacket pacing b o raw t pacer =
        ⟨{ t with built := t.built ++ [raw], sentAt := sentAt }, pacer', go⟩ ∧
      (sentAt = t.sentAt ∨ sentAt = t.sentAt ++ [t.built.length]) ∧
      (pacer' = pacer ∨ pacer' = pacer ++ [t.built.length]) ∧ (go = false → Stops pacing o) := by
  unfold sendPacket
  split
  · rename_i henc
    exact ⟨_, _, _, rfl, .inl rfl, .inl rfl, fun _ => .inl henc⟩
  · split
    · simp only [bufferEncrypted_none]
      exact ⟨_, _, _, rfl, .inl rfl, .inr rfl, fun h => by cases h⟩
    · rename_i hpacing
      split
      · exact ⟨_, _, _, rfl, .inl rfl, .inl rfl, fun h => by cases h⟩
      · rename_i hstatus
        exact ⟨_, _, _, rfl, .inl rfl, .inl rfl, fun _ => .inr ⟨by simpa using hpacing, hstatus⟩⟩
      · simp only [bufferEncrypted_none]
        exact ⟨_, _, _, rfl, .inr rfl, .inl rfl, fun h => by cases h⟩

theorem addTwccExtension_fst (t : KvsRtpTransceiver capacity) (p : RtpPacket) :
    ∃ twsn, (addTwccExtension t p).1 = { t with transportWideSequenceNumber := twsn } := by
  unfold addTwccExtension
  split
  · exact ⟨t.transportWideSequenceNumber, rfl⟩
  · exact ⟨_, rfl⟩

theorem addTwccExtension_snd (t : KvsRtpTransceiver capacity) {p : RtpPacket} (hp : Plain p) :
    Plain (addTwccExtension t p).2 ∧
      (addTwccExtension t p).2.header.sequenceNumber = p.header.sequenceNumber := by
  unfold addTwccExtension
  split
  · exact ⟨hp, rfl⟩
  · exact ⟨⟨hp.version, hp.csrc, by simp [TWCC_PAYLOAD]⟩, rfl⟩

theorem bufferPacket_ok {raw : Bytes} (h : bufferPacket t raw = .ok t') :
    ∃ q last, setRtpPacketFromBytes raw = .ok q ∧
      t' = { t with packetBuffer :=
        ⟨(rollingBufferAppendData t.packetBuffer.pRollingBuffer q).1, last⟩ } := by
  unfold bufferPacket rtpRollingBufferAddRtpPacket createRtpPacketFromBytes at h
  cases hq : setRtpPacketFromBytes raw with
  | error e =>
    rw [hq] at h
    cases h
  | ok q =>
    rw [hq] at h
    cases h
    exact ⟨q, _, rfl, rfl⟩

theorem bufferPacket_of_parse {raw : Bytes} {q : RtpPacket} (h : setRtpPacketFromBytes raw = .ok q) :
    ∃ t', bufferPacket t raw = .ok t' := by
  unfold bufferPacket rtpRollingBufferAddRtpPacket createRtpPacketFromBytes
  rw [h]
  exact ⟨_, rfl⟩

/-- A round that buffers before encryption either stops before the buffer or appends the packet. -/
theorem writePacket_before (pacing : Bool) (o : PacketOutcome) (p : RtpPacket)
    (t : KvsRtpTransceiver capacity) (pacer : List Nat) :
    (∃ twsn, writePacket pacing false o p t pacer =
        ⟨{ t with transportWideSequenceNumber := twsn }, pacer, false⟩ ∧ ¬ Plain p) ∨
    (∃ twsn raw q last, setBytesFromRtpPacket (addTwccExtension t p).2 = .ok raw ∧
      setRtpPacketFromBytes raw = .ok q ∧
      writePacket pacing false o p t pacer = sendPacket pacing false o raw
        { t with
          transportWideSequenceNumber := twsn
          packetBuffer := ⟨(rollingBufferAppendData t.packetBuffer.pRollingBuffer q).1, last⟩ }
        pacer) := by
  obtain ⟨twsn, htw⟩ := addTwccExtension_fst t p
  unfold writePacket
  rw [htw]
  cases hraw : setBytesFromRtpPacket (addTwccExtension t p).2 with
  | error e =>
    left
    refine ⟨twsn, rfl, ?_⟩
    intro hp
    obtain ⟨raw, hok⟩ := setBytesFromRtpPacket_plain (addTwccExtension_snd t hp).1
    rw [hraw] at hok
    cases hok
  | ok raw =>
    dsimp only
    rw [if_neg (by simp)]
    cases hbuf : bufferPacket { t with transportWideSequenceNumber := twsn } raw with
    | error e =>
      left
      refine ⟨twsn, rfl, ?_⟩
      intro hp
      obtain ⟨q, hq⟩ := setRtpPacketFromBytes_plain (addTwccExtension_snd t hp).1 hraw
      obtain ⟨t', hok⟩ := bufferPacket_of_parse
        (t := { t with transportWideSequenceNumber := twsn }) hq
      rw [hbuf] at hok
      cases hok
    | ok t' =>
      right
      obtain ⟨q, last, hq, rfl⟩ := bufferPacket_ok hbuf
      exact ⟨twsn, raw, q, last, rfl, hq, rfl⟩

theorem writePacket_after (pacing : Bool) (o : PacketOutcome) (p : RtpPacket)
    (t : KvsRtpTransceiver capacity) (pacer : List Nat) :
    (∃ twsn, writePacket pacing true o p t pacer =
        ⟨{ t with transportWideSequenceNumber := twsn }, pacer, false⟩) ∨
    (∃ twsn raw, writePacket pacing true o p t pacer = sendPacket pacing true o raw
        { t with transportWideSequenceNumber := twsn } pacer) := by
  obtain ⟨twsn, htw⟩ := addTwccExtension_fst t p
  unfold writePacket
  rw [htw]
  cases setBytesFromRtpPacket (addTwccExtension t p).2 with
  | error e => exact .inl ⟨twsn, rfl⟩
  | ok raw => exact .inr ⟨twsn, raw, rfl⟩

theorem writePackets_rec {P : KvsRtpTransceiver capacity → List Nat → Prop} {pacing b : Bool}
    (outcome : Nat → PacketOutcome)
    (hstep : ∀ o p t pacer, P t pacer →
      P (writePacket pacing b o p t pacer).transceiver (writePacket pacing b o p t pacer).pacerPackets) :
    ∀ (packets : List RtpPacket) (i : Nat) (t : KvsRtpTransceiver capacity) (pacer : List Nat),
      P t pacer →
      P (writePackets pacing b outcome i packets t pacer).transceiver
        (writePackets pacing b outcome i packets t pacer).pacerPackets
  | [], _, _, _, h => h
  | p :: rest, i, t, pacer, h => by
    have hone := hstep (outcome i) p t pacer h
    unfold writePackets
    dsimp only
    split
    · exact writePackets_rec outcome hstep rest (i + 1) _ _ hone
    · exact hone

/-- What no packet changes. -/
structure SameStream (t t' : KvsRtpTransceiver capacity) : Prop where
  payloadType : t'.payloadType = t.payloadType
  rtxPayloadType : t'.rtxPayloadType = t.rtxPayloadType
  sequenceNumber : t'.sequenceNumber = t.sequenceNumber
  resent : t'.resent = t.resent

theorem SameStream.trans {t'' : KvsRtpTransceiver capacity} (h : SameStream t t')
    (h' : SameStream t' t'') : SameStream t t'' :=
  ⟨h'.1.trans h.1, h'.2.trans h.2, h'.3.trans h.3, h'.4.trans h.4⟩

theorem writePacket_sameStream (pacing b : Bool) (o : PacketOutcome) (p : RtpPacket)
    (t : KvsRtpTransceiver capacity) (pacer : List Nat) :
    SameStream t (writePacket pacing b o p t pacer).transceiver := by
  cases b with
  | false =>
    rcases writePacket_before pacing o p t pacer with ⟨twsn, heq, -⟩ | ⟨twsn, raw, q, last, -, -, heq⟩
    · rw [heq]
      exact ⟨rfl, rfl, rfl, rfl⟩
    · obtain ⟨sentAt, pacer', go, hsend, -⟩ := sendPacket_cases pacing false o raw
        { t with
          transportWideSequenceNumber := twsn
          packetBuffer := ⟨(rollingBufferAppendData t.packetBuffer.pRollingBuffer q).1, last⟩ }
        pacer
      rw [heq, hsend]
      exact ⟨rfl, rfl, rfl, rfl⟩
  | true =>
    rcases writePacket_after pacing o p t pacer with ⟨twsn, heq⟩ | ⟨twsn, raw, heq⟩
    · rw [heq]
      exact ⟨rfl, rfl, rfl, rfl⟩
    · obtain ⟨sentAt, pacer', go, hsend, -⟩ := sendPacket_cases pacing true o raw
        { t with transportWideSequenceNumber := twsn } pacer
      rw [heq, hsend]
      exact ⟨rfl, rfl, rfl, rfl⟩

theorem writePackets_sameStream (pacing b : Bool) (outcome : Nat → PacketOutcome)
    (packets : List RtpPacket) (i : Nat) (t : KvsRtpTransceiver capacity) (pacer : List Nat) :
    SameStream t (writePackets pacing b outcome i packets t pacer).transceiver :=
  writePackets_rec (P := fun t' _ => SameStream t t') outcome
    (fun o p t' pacer h => h.trans (writePacket_sameStream pacing b o p t' pacer)) packets i t pacer
    ⟨rfl, rfl, rfl, rfl⟩

/-- A transceiver that has not sent anything yet. -/
structure Fresh (t : KvsRtpTransceiver capacity) : Prop where
  sequenceNumber : t.sequenceNumber = 0
  head : t.packetBuffer.pRollingBuffer.headIndex = 0
  built : t.built = []
  sentAt : t.sentAt = []
  resent : t.resent = []

theorem fresh_create (h : 0 < capacity) (payloadType rtxPayloadType : UINT8) (ssrc rtxSsrc : UINT32)
    (isVideo : Bool) (twccExtId : UINT16) :
    Fresh (createKvsRtpTransceiver h payloadType rtxPayloadType ssrc rtxSsrc isVideo twccExtId) :=
  ⟨rfl, rfl, rfl, rfl, rfl⟩

/-- `writeFrame` up to its loop. -/
def frameStart (t : KvsRtpTransceiver capacity) (a : PayloadArray) : KvsRtpTransceiver capacity :=
  let t := if t.seqInitialized then t else
    { t with initialSequenceNumber := t.sequenceNumber, seqInitialized := true }
  { t with sequenceNumber := t.sequenceNumber + BitVec.ofNat 16 a.payloadSubLength.length }

/-- The packets `writeFrame` builds. -/
def framePackets (t : KvsRtpTransceiver capacity) (w : FrameWrite) (a : PayloadArray) :
    List RtpPacket :=
  constructRtpPackets a w.effectivePayloadType t.sequenceNumber w.rtpTimestamp t.ssrc
    ((List.range a.payloadSubLength.length).map w.uninitialized)

theorem frameStart_frame (t : KvsRtpTransceiver capacity) (a : PayloadArray) :
    (frameStart t a).payloadType = t.payloadType ∧
      (frameStart t a).rtxPayloadType = t.rtxPayloadType ∧
      (frameStart t a).packetBuffer = t.packetBuffer ∧ (frameStart t a).built = t.built ∧
      (frameStart t a).sentAt = t.sentAt ∧ (frameStart t a).resent = t.resent ∧
      (frameStart t a).sequenceNumber =
        t.sequenceNumber + BitVec.ofNat 16 a.payloadSubLength.length := by
  unfold frameStart
  cases t.seqInitialized <;> exact ⟨rfl, rfl, rfl, rfl, rfl, rfl, rfl⟩

theorem writeFrame_cases (t : KvsRtpTransceiver capacity) (w : FrameWrite) :
    writeFrame t w = t ∨
    (∃ a, w.srtpReady = true ∧ w.payloads = some a ∧ ∃ s,
      s = writePackets (useBatchPacing t w) (decide (t.payloadType = t.rtxPayloadType)) w.outcome 0
        (framePackets t w a) (frameStart t a) [] ∧
      (writeFrame t w = s.transceiver ∨
        writeFrame t w =
          { s.transceiver with sentAt := s.transceiver.sentAt ++ s.pacerPackets })) := by
  unfold writeFrame
  split
  · rename_i a hready hpay
    right
    refine ⟨a, hready, hpay, _, rfl, ?_⟩
    unfold framePackets frameStart useBatchPacing
    cases t.seqInitialized with
    | true =>
      simp only [if_true]
      split
      · exact .inr rfl
      · exact .inl rfl
    | false =>
      simp only [Bool.false_eq_true, if_false]
      split
      · exact .inr rfl
      · exact .inl rfl
  · exact .inl rfl

/-! ## The buffer holds the newest packets -/

def writeFrames (t : KvsRtpTransceiver capacity) (ws : List FrameWrite) :
    KvsRtpTransceiver capacity :=
  ws.foldl writeFrame t

/-- The `k`-th packet is in the buffer, under the index it was appended at. -/
def Buffered (t : KvsRtpTransceiver capacity) (k : Nat) : Prop :=
  t.packetBuffer.pRollingBuffer.InRange k ∧
    ∃ q, t.packetBuffer.pRollingBuffer.lookup k = some q ∧ t.built[k]? = some q.pRawPacket

/-- How many packets were sent after the `k`-th. -/
def laterSent (t : KvsRtpTransceiver capacity) (k : Nat) : Nat :=
  (t.sentAt.filter (fun j => k < j)).length

/-- How many packets were handed to encryption after the `k`-th, sent or not. -/
def laterBuilt (t : KvsRtpTransceiver capacity) (k : Nat) : Nat := t.built.length - (k + 1)

/-- With buffering before encryption the buffer is the last `capacity` packets built. -/
structure Keeps (t : KvsRtpTransceiver capacity) : Prop where
  head : t.packetBuffer.pRollingBuffer.headIndex = t.built.length
  tail : t.packetBuffer.pRollingBuffer.tailIndex = t.built.length - capacity
  entry : ∀ k, t.packetBuffer.pRollingBuffer.InRange k →
    ∃ q, t.packetBuffer.pRollingBuffer.lookup k = some q ∧ t.built[k]? = some q.pRawPacket

/-- Positions are positions of packets built. -/
def Within (t : KvsRtpTransceiver capacity) (ks : List Nat) : Prop := ∀ k ∈ ks, k < t.built.length

theorem Within.append {ks ls : List Nat} (h : Within t ks) (h' : Within t ls) :
    Within t (ks ++ ls) := by
  intro k hk
  rcases List.mem_append.mp hk with hk | hk
  · exact h k hk
  · exact h' k hk

theorem Within.grow {ks ls : List Nat} {raw : Bytes} (h : Within t ks)
    (hb : t'.built = t.built ++ [raw]) (hl : ls = ks ∨ ls = ks ++ [t.built.length]) :
    Within t' ls := by
  have hlen : t'.built.length = t.built.length + 1 := by simp [hb]
  have hks : Within t' ks := by
    intro k hk
    have := h k hk
    omega
  rcases hl with rfl | rfl
  · exact hks
  · apply hks.append
    intro k hk
    rw [List.mem_singleton.mp hk]
    omega

theorem Keeps.append {raw : Bytes} {q : RtpPacket} (h : Keeps t) (hq : q.pRawPacket = raw)
    (hb : t'.built = t.built ++ [raw])
    (hp : t'.packetBuffer.pRollingBuffer =
      (rollingBufferAppendData t.packetBuffer.pRollingBuffer q).1) : Keeps t' := by
  have hlen : t'.built.length = t.built.length + 1 := by simp [hb]
  have hpos := t.packetBuffer.pRollingBuffer.capacity_pos
  refine ⟨?_, ?_, ?_⟩
  · rw [hp, headIndex_append, h.head, hlen]
  · rw [hp, tailIndex_append, h.head, h.tail, hlen]
    split <;> omega
  · intro k hk
    rw [hp] at hk ⊢
    rw [lookup_append hk, hb, h.head]
    by_cases hnew : k = t.built.length
    · subst hnew
      rw [if_pos rfl]
      exact ⟨q, rfl, by simp [hq]⟩
    · have hold : t.packetBuffer.pRollingBuffer.InRange k := by
        obtain ⟨hlt, hge⟩ := hk
        rw [headIndex_append, h.head] at hlt
        rw [tailIndex_append, h.head, h.tail] at hge
        refine ⟨by rw [h.head]; omega, ?_⟩
        rw [h.tail]
        split at hge <;> omega
      obtain ⟨q', hl, hraw⟩ := h.entry k hold
      rw [if_neg hnew]
      refine ⟨q', hl, ?_⟩
      rw [List.getElem?_append_left (by rw [← h.head]; exact hold.1), hraw]

theorem writePacket_keeps (pacing : Bool) (o : PacketOutcome) (p : RtpPacket)
    (t : KvsRtpTransceiver capacity) (pacer : List Nat)
    (h : Keeps t ∧ Within t t.sentAt ∧ Within t pacer) :
    let s := writePacket pacing false o p t pacer
    Keeps s.transceiver ∧ Within s.transceiver s.transceiver.sentAt ∧
      Within s.transceiver s.pacerPackets := by
  obtain ⟨hk, hs, hw⟩ := h
  rcases writePacket_before pacing o p t pacer with ⟨twsn, heq, -⟩ | ⟨twsn, raw, q, last, hset, hq, heq⟩
  · rw [heq]
    exact ⟨⟨hk.head, hk.tail, hk.entry⟩, hs, hw⟩
  · obtain ⟨sentAt, pacer', go, hsend, hsent, hpacer, -⟩ := sendPacket_cases pacing false o raw
      { t with
        transportWideSequenceNumber := twsn
        packetBuffer := ⟨(rollingBufferAppendData t.packetBuffer.pRollingBuffer q).1, last⟩ } pacer
    rw [heq, hsend]
    exact ⟨hk.append (setRtpPacketFromBytes_sequenceNumber hset hq).2 rfl rfl,
      hs.grow rfl hsent, hw.grow rfl hpacer⟩

theorem writePacket_skips (pacing : Bool) (o : PacketOutcome) (p : RtpPacket)
    (t : KvsRtpTransceiver capacity) (pacer : List Nat)
    (h : t.packetBuffer.pRollingBuffer.headIndex = 0) :
    (writePacket pacing true o p t pacer).transceiver.packetBuffer.pRollingBuffer.headIndex = 0 := by
  rcases writePacket_after pacing o p t pacer with ⟨twsn, heq⟩ | ⟨twsn, raw, heq⟩
  · rw [heq]
    exact h
  · obtain ⟨sentAt, pacer', go, hsend, -⟩ := sendPacket_cases pacing true o raw
      { t with transportWideSequenceNumber := twsn } pacer
    rw [heq, hsend]
    exact h

theorem writeFrame_types (t : KvsRtpTransceiver capacity) (w : FrameWrite) :
    (writeFrame t w).payloadType = t.payloadType ∧
      (writeFrame t w).rtxPayloadType = t.rtxPayloadType := by
  rcases writeFrame_cases t w with heq | ⟨a, -, -, s, rfl, heq⟩
  · rw [heq]
    exact ⟨rfl, rfl⟩
  · have hframe := frameStart_frame t a
    have hsame := writePackets_sameStream (useBatchPacing t w)
      (decide (t.payloadType = t.rtxPayloadType)) w.outcome (framePackets t w a) 0 (frameStart t a) []
    rcases heq with heq | heq
    · rw [heq]
      exact ⟨hsame.payloadType.trans hframe.1, hsame.rtxPayloadType.trans hframe.2.1⟩
    · rw [heq]
      exact ⟨hsame.payloadType.trans hframe.1, hsame.rtxPayloadType.trans hframe.2.1⟩

theorem writeFrame_keeps {w : FrameWrite} (hpt : t.payloadType ≠ t.rtxPayloadType)
    (h : Keeps t ∧ Within t t.sentAt) :
    Keeps (writeFrame t w) ∧ Within (writeFrame t w) (writeFrame t w).sentAt := by
  rcases writeFrame_cases t w with heq | ⟨a, -, -, s, hs, heq⟩
  · rw [heq]
    exact h
  · obtain ⟨-, -, hbuf, hbuilt, hsent, -⟩ := frameStart_frame t a
    have hstart : Keeps (frameStart t a) ∧ Within (frameStart t a) (frameStart t a).sentAt ∧
        Within (frameStart t a) [] := by
      refine ⟨⟨?_, ?_, ?_⟩, ?_, fun k hk => by cases hk⟩
      · rw [hbuf, hbuilt]
        exact h.1.head
      · rw [hbuf, hbuilt]
        exact h.1.tail
      · rw [hbuf, hbuilt]
        exact h.1.entry
      · unfold Within
        rw [hsent, hbuilt]
        exact h.2
    rw [decide_eq_false hpt] at hs
    have hloop := writePackets_rec
      (P := fun t' pacer => Keeps t' ∧ Within t' t'.sentAt ∧ Within t' pacer)
      w.outcome (writePacket_keeps (useBatchPacing t w)) (framePackets t w a) 0
      (frameStart t a) [] hstart
    rw [← hs] at hloop
    obtain ⟨hkeeps, hwithin, hpacer⟩ := hloop
    rcases heq with heq | heq
    · rw [heq]
      exact ⟨hkeeps, hwithin⟩
    · rw [heq]
      exact ⟨⟨hkeeps.head, hkeeps.tail, hkeeps.entry⟩, hwithin.append hpacer⟩

theorem writeFrame_skips {w : FrameWrite} (hpt : t.payloadType = t.rtxPayloadType)
    (h : t.packetBuffer.pRollingBuffer.headIndex = 0) :
    (writeFrame t w).packetBuffer.pRollingBuffer.headIndex = 0 := by
  rcases writeFrame_cases t w with heq | ⟨a, -, -, s, hs, heq⟩
  · rw [heq]
    exact h
  · obtain ⟨-, -, hbuf, -⟩ := frameStart_frame t a
    rw [decide_eq_true hpt] at hs
    have hloop := writePackets_rec
      (P := fun t' _ => t'.packetBuffer.pRollingBuffer.headIndex = 0)
      w.outcome (writePacket_skips (useBatchPacing t w)) (framePackets t w a) 0
      (frameStart t a) [] (by rw [hbuf]; exact h)
    rw [← hs] at hloop
    rcases heq with heq | heq
    · rw [heq]
      exact hloop
    · rw [heq]
      exact hloop

theorem writeFrames_keeps :
    ∀ {t : KvsRtpTransceiver capacity} (ws : List FrameWrite), t.payloadType ≠ t.rtxPayloadType →
      Keeps t ∧ Within t t.sentAt →
      Keeps (writeFrames t ws) ∧ Within (writeFrames t ws) (writeFrames t ws).sentAt
  | _, [], _, h => h
  | t, w :: ws, hpt, h => by
    obtain ⟨h1, h2⟩ := writeFrame_types t w
    exact writeFrames_keeps ws (by rw [h1, h2]; exact hpt) (writeFrame_keeps hpt h)

theorem writeFrames_skips :
    ∀ {t : KvsRtpTransceiver capacity} (ws : List FrameWrite), t.payloadType = t.rtxPayloadType →
      t.packetBuffer.pRollingBuffer.headIndex = 0 →
      (writeFrames t ws).packetBuffer.pRollingBuffer.headIndex = 0
  | _, [], _, h => h
  | t, w :: ws, hpt, h => by
    obtain ⟨h1, h2⟩ := writeFrame_types t w
    exact writeFrames_skips ws (by rw [h1, h2]; exact hpt) (writeFrame_skips hpt h)

theorem Fresh.keeps (h : Fresh t) : Keeps t ∧ Within t t.sentAt := by
  have htail := t.packetBuffer.pRollingBuffer.tail_le_head
  rw [h.head] at htail
  refine ⟨⟨?_, ?_, ?_⟩, ?_⟩
  · rw [h.head, h.built, List.length_nil]
  · rw [h.built, List.length_nil]
    omega
  · intro k hk
    have := hk.1
    rw [h.head] at this
    omega
  · intro k hk
    rw [h.sentAt] at hk
    cases hk

/-- A packet that was sent is in the buffer exactly when it was buffered before encryption and fewer
than `capacity` packets were buffered after it. -/
theorem buffered_iff (h : Fresh t) (ws : List FrameWrite) {k : Nat}
    (hk : k ∈ (writeFrames t ws).sentAt) :
    Buffered (writeFrames t ws) k ↔
      t.payloadType ≠ t.rtxPayloadType ∧ laterBuilt (writeFrames t ws) k < capacity := by
  by_cases hpt : t.payloadType = t.rtxPayloadType
  · have hskip := writeFrames_skips ws hpt h.head
    constructor
    · intro hbuf
      have := hbuf.1.1
      omega
    · intro hcond
      exact absurd hpt hcond.1
  · obtain ⟨hkeeps, hwithin⟩ := writeFrames_keeps ws hpt h.keeps
    have hlt := hwithin k hk
    have hpos := t.packetBuffer.pRollingBuffer.capacity_pos
    have hrange : (writeFrames t ws).packetBuffer.pRollingBuffer.InRange k ↔
        laterBuilt (writeFrames t ws) k < capacity := by
      unfold RollingBuffer.InRange laterBuilt
      rw [hkeeps.head, hkeeps.tail]
      omega
    constructor
    · intro hbuf
      exact ⟨hpt, hrange.mp hbuf.1⟩
    · intro hcond
      have hin := hrange.mpr hcond.2
      exact ⟨hin, hkeeps.entry k hin⟩

/-- **Which sent packets can be retransmitted.** -/
theorem sent_packets_buffered_iff (h : Fresh t) (ws : List FrameWrite) :
    (∀ k ∈ (writeFrames t ws).sentAt, laterSent (writeFrames t ws) k < capacity →
      Buffered (writeFrames t ws) k) ↔
    (∀ k ∈ (writeFrames t ws).sentAt, laterSent (writeFrames t ws) k < capacity →
      t.payloadType ≠ t.rtxPayloadType ∧ laterBuilt (writeFrames t ws) k < capacity) := by
  constructor
  · intro hall k hk hlater
    exact (buffered_iff h ws hk).mp (hall k hk hlater)
  · intro hall k hk hlater
    exact (buffered_iff h ws hk).mpr (hall k hk hlater)

theorem sent_packets_buffered_separate_types :
    let t := sampleTransceiver 96 97
    let ws := [sampleFrame 2 (fun _ => sampleSent)]
    (writeFrames t ws).sentAt = [0, 1] ∧
      ∀ k ∈ (writeFrames t ws).sentAt, laterSent (writeFrames t ws) k < 4 →
        Buffered (writeFrames t ws) k :=
  ⟨by decide +kernel,
    (sent_packets_buffered_iff (fresh_create (by decide) 96 97 1 2 true 0)
      [sampleFrame 2 (fun _ => sampleSent)]).mpr (by decide +kernel)⟩

/-- With one payload type for both streams the packet is freed before the buffering step, so what was
sent is not in the buffer. -/
theorem shared_type_not_buffered :
    let t := writeFrames (sampleTransceiver 96 96) [sampleFrame 1 (fun _ => sampleSent)]
    0 ∈ t.sentAt ∧ laterSent t 0 < 4 ∧ ¬ Buffered t 0 := by
  refine ⟨by decide +kernel, by decide +kernel, ?_⟩
  intro hbuf
  exact absurd hbuf.1 (by decide +kernel)

/-! ## Indices and sequence numbers -/

/-- Every entry carries the sequence number of its index. -/
def Aligned (b : RollingBuffer RtpPacket capacity) : Prop :=
  ∀ i q, b.InRange i → b.lookup i = some q → q.header.sequenceNumber = GET_UINT16_SEQ_NUM i

theorem Aligned.append {b : RollingBuffer RtpPacket capacity} {q : RtpPacket} (h : Aligned b)
    (hq : q.header.sequenceNumber = GET_UINT16_SEQ_NUM b.headIndex) :
    Aligned (rollingBufferAppendData b q).1 := by
  intro i q' hi hl
  rw [lookup_append hi] at hl
  split at hl
  · rename_i heq
    cases hl
    rw [heq, hq]
  · rename_i hne
    refine h i q' ⟨?_, ?_⟩ hl
    · have := hi.1
      rw [headIndex_append] at this
      omega
    · have := hi.2
      rw [tailIndex_append] at this
      split at this <;> omega

theorem Aligned.replace {b b' : RollingBuffer RtpPacket capacity} {index : Nat}
    {x : Option RtpPacket} (h : Aligned b) (hhead : b'.headIndex = b.headIndex)
    (htail : b'.tailIndex = b.tailIndex)
    (hl : ∀ j, b.InRange j → b'.lookup j = if j = index then x else b.lookup j)
    (hx : ∀ q, x = some q → q.header.sequenceNumber = GET_UINT16_SEQ_NUM index) : Aligned b' := by
  intro i q hi hq
  have hi' : b.InRange i := ⟨hhead ▸ hi.1, htail ▸ hi.2⟩
  rw [hl i hi'] at hq
  split at hq
  · rename_i heq
    rw [heq]
    exact hx q hq
  · exact h i q hi' hq

/-- The buffer is aligned, the next sequence number is that of the next index, and every packet
retransmitted so far was the right one. -/
structure Tracks (t : KvsRtpTransceiver capacity) : Prop where
  aligned : Aligned t.packetBuffer.pRollingBuffer
  next : t.sequenceNumber = GET_UINT16_SEQ_NUM t.packetBuffer.pRollingBuffer.headIndex
  right : ∀ r ∈ t.resent, r.2.header.sequenceNumber = r.1

theorem Fresh.tracks (h : Fresh t) : Tracks t where
  aligned := by
    intro i q hi
    have := hi.1
    rw [h.head] at this
    omega
  next := by
    rw [h.head, h.sequenceNumber]
    rfl
  right := by
    rw [h.resent]
    intro r hr
    cases hr

/-- No packet but the last stops the loop, and there is a payload to send. -/
def FrameGoesThrough (t : KvsRtpTransceiver capacity) (w : FrameWrite) : Prop :=
  w.srtpReady = true → ∀ a, w.payloads = some a →
    (a.payloadSubLength ≠ [] → a.payloadBuffer ≠ []) ∧
    ∀ i, i + 1 < a.payloadSubLength.length → ¬ Stops (useBatchPacing t w) (w.outcome i)

theorem writePackets_aligned (pacing : Bool) (outcome : Nat → PacketOutcome) :
    ∀ (packets : List RtpPacket) (i : Nat) (t : KvsRtpTransceiver capacity) (pacer : List Nat),
      (∀ (j : Nat) (p : RtpPacket), packets[j]? = some p → Plain p ∧ p.header.sequenceNumber =
        GET_UINT16_SEQ_NUM (t.packetBuffer.pRollingBuffer.headIndex + j)) →
      (∀ j, j + 1 < packets.length → ¬ Stops pacing (outcome (i + j))) →
      Aligned t.packetBuffer.pRollingBuffer →
      let t' := (writePackets pacing false outcome i packets t pacer).transceiver
      Aligned t'.packetBuffer.pRollingBuffer ∧
        t'.packetBuffer.pRollingBuffer.headIndex =
          t.packetBuffer.pRollingBuffer.headIndex + packets.length
  | [], _, _, _, _, _, h => ⟨h, rfl⟩
  | p :: rest, i, t, pacer, hnum, hgo, h => by
    obtain ⟨hplain, hseq⟩ := hnum 0 p rfl
    rcases writePacket_before pacing (outcome i) p t pacer with
      ⟨twsn, -, hnot⟩ | ⟨twsn, raw, q, last, hset, hq, heq⟩
    · exact absurd hplain hnot
    · obtain ⟨sentAt, pacer', go, hsend, -, -, hstop⟩ := sendPacket_cases pacing false (outcome i) raw
        { t with
          transportWideSequenceNumber := twsn
          packetBuffer := ⟨(rollingBufferAppendData t.packetBuffer.pRollingBuffer q).1, last⟩ }
        pacer
      have hqseq : q.header.sequenceNumber =
          GET_UINT16_SEQ_NUM t.packetBuffer.pRollingBuffer.headIndex := by
        rw [(setRtpPacketFromBytes_sequenceNumber hset hq).1, (addTwccExtension_snd t hplain).2,
          hseq, Nat.add_zero]
      have happ := h.append hqseq
      have hhead := headIndex_append t.packetBuffer.pRollingBuffer q
      unfold writePackets
      rw [heq, hsend]
      dsimp only
      split
      · -- the loop goes on with the remaining packets
        have hrest := writePackets_aligned pacing outcome rest (i + 1)
          { t with
            transportWideSequenceNumber := twsn
            packetBuffer := ⟨(rollingBufferAppendData t.packetBuffer.pRollingBuffer q).1, last⟩
            built := t.built ++ [raw]
            sentAt := sentAt } pacer' ?_ ?_ happ
        · refine ⟨hrest.1, hrest.2.trans ?_⟩
          show (rollingBufferAppendData t.packetBuffer.pRollingBuffer q).1.headIndex + rest.length =
            t.packetBuffer.pRollingBuffer.headIndex + (rest.length + 1)
          omega
        · intro j p' hp'
          obtain ⟨hplain', hseq'⟩ := hnum (j + 1) p' hp'
          refine ⟨hplain', hseq'.trans ?_⟩
          show GET_UINT16_SEQ_NUM (t.packetBuffer.pRollingBuffer.headIndex + (j + 1)) =
            GET_UINT16_SEQ_NUM
              ((rollingBufferAppendData t.packetBuffer.pRollingBuffer q).1.headIndex + j)
          rw [hhead, Nat.add_assoc, Nat.add_comm 1 j]
        · intro j hj
          rw [Nat.add_assoc, Nat.add_comm 1 j]
          exact hgo (j + 1) (by simp only [List.length_cons]; omega)
      · -- the loop stops here, so this was the last packet
        rename_i hgoes
        have hempty : rest = [] := by
          by_contra hne
          have hpos : 0 < rest.length := List.length_pos_iff.mpr hne
          exact hgo 0 (by simp only [List.length_cons]; omega) (hstop (by simpa using hgoes))
        subst hempty
        exact ⟨happ, hhead⟩

theorem writeFrame_tracks {w : FrameWrite} (hpt : t.payloadType ≠ t.rtxPayloadType)
    (hok : FrameGoesThrough t w) (h : Tracks t) : Tracks (writeFrame t w) := by
  rcases writeFrame_cases t w with heq | ⟨a, hready, hpay, s, hs, heq⟩
  · rw [heq]
    exact h
  · obtain ⟨hbytes, hstops⟩ := hok hready a hpay
    obtain ⟨-, -, hbuf, -, -, hres, hseq⟩ := frameStart_frame t a
    have hlen : (framePackets t w a).length = a.payloadSubLength.length := by
      unfold framePackets constructRtpPackets
      split
      · simp
      · exact length_constructRtpPacketsFrom _ _ _ _ _ _
    have hnum : ∀ (j : Nat) (p : RtpPacket), (framePackets t w a)[j]? = some p →
        Plain p ∧ p.header.sequenceNumber =
          GET_UINT16_SEQ_NUM ((frameStart t a).packetBuffer.pRollingBuffer.headIndex + j) := by
      intro j p hp
      have hne : a.payloadSubLength ≠ [] := by
        intro hnil
        have : j < (framePackets t w a).length := (List.getElem?_eq_some_iff.mp hp).1
        rw [hlen, hnil] at this
        cases this
      unfold framePackets constructRtpPackets at hp
      rw [if_neg (hbytes hne)] at hp
      obtain ⟨hplain, -, hnumber⟩ := getElem_constructRtpPacketsFrom _ _ _ _ _ _ _ _ hp
      refine ⟨hplain, hnumber.trans ?_⟩
      rw [hbuf, h.next]
      exact (BitVec.ofNat_add _ _).symm
    rw [decide_eq_false hpt] at hs
    have hloop := writePackets_aligned (useBatchPacing t w) w.outcome (framePackets t w a) 0
      (frameStart t a) [] hnum
      (by
        intro j hj
        rw [hlen] at hj
        rw [Nat.zero_add]
        exact hstops j hj)
      (by rw [hbuf]; exact h.aligned)
    have hsame := writePackets_sameStream (useBatchPacing t w) false w.outcome (framePackets t w a) 0
      (frameStart t a) []
    rw [← hs] at hloop hsame
    have hdone : Tracks s.transceiver := by
      refine ⟨hloop.1, ?_, ?_⟩
      · rw [hloop.2, hsame.sequenceNumber, hseq, hbuf, hlen, h.next]
        exact (BitVec.ofNat_add _ _).symm
      · rw [hsame.resent, hres]
        exact h.right
    rcases heq with heq | heq
    · rw [heq]
      exact hdone
    · rw [heq]
      exact ⟨hdone.aligned, hdone.next, hdone.right⟩

/-! ## Answering a NACK -/

theorem retransmit_ok {p : RtpPacket} (h : retransmit t p = .ok t') :
    ∃ seq, t' = { t with rtxSequenceNumber := seq } := by
  unfold retransmit at h
  split at h
  · cases h
    exact ⟨t.rtxSequenceNumber, rfl⟩
  · cases hq : constructRetransmitRtpPacketFromBytes p.pRawPacket t.rtxSequenceNumber
      t.rtxPayloadType t.rtxSsrc with
    | error e =>
      rw [hq] at h
      cases h
    | ok q =>
      rw [hq] at h
      cases h
      exact ⟨_, rfl⟩

/-- The packet sent at position `i` is put back where it came from, or nowhere, or there is none. -/
def PutBackFits (b : RollingBuffer RtpPacket capacity) (list : Nat → UINT16) (i : Nat)
    (seqNum : UINT16) (index : Nat) : Prop :=
  list i = seqNum ∨ ¬ b.InRange (list i).toNat ∨
    (b.lookup index = none ∧ ∀ j < i, (list j).toNat ≠ index)

/-- Every packet the NACK makes the transceiver send is put back under its own number. -/
def NackFits (t : KvsRtpTransceiver capacity) (n : Nack) : Prop :=
  ∀ senderSsrc receiverSsrc l,
    rtcpNackListGet n.payload n.oldCells DEFAULT_SEQ_NUM_BUFFER_SIZE =
      .ok (senderSsrc, receiverSsrc, l) → hasSsrc t receiverSsrc →
    ∀ (i : Nat) (seqNum : UINT16) (index : Nat), (validIndices t l n)[i]? = some (seqNum, index) →
      PutBackFits t.packetBuffer.pRollingBuffer l.cells i seqNum index

/-- The loop of `resendPacketOnNack` between two positions: `b` is the buffer it started with. -/
structure Resending (b : RollingBuffer RtpPacket capacity) (list : Nat → UINT16) (i : Nat)
    (seq : UINT16) (t : KvsRtpTransceiver capacity) : Prop where
  aligned : Aligned t.packetBuffer.pRollingBuffer
  head : t.packetBuffer.pRollingBuffer.headIndex = b.headIndex
  tail : t.packetBuffer.pRollingBuffer.tailIndex = b.tailIndex
  sequenceNumber : t.sequenceNumber = seq
  right : ∀ r ∈ t.resent, r.2.header.sequenceNumber = r.1
  /-- An entry was there from the start or was put there by an earlier position. -/
  origin : ∀ j, b.InRange j → t.packetBuffer.pRollingBuffer.lookup j ≠ none →
    b.lookup j ≠ none ∨ ∃ k < i, (list k).toNat = j

theorem Resending.inRange {b : RollingBuffer RtpPacket capacity} {list : Nat → UINT16} {i : Nat}
    {seq : UINT16} (h : Resending b list i seq t) (j : Nat) :
    t.packetBuffer.pRollingBuffer.InRange j ↔ b.InRange j := by
  unfold RollingBuffer.InRange
  rw [h.head, h.tail]

/-- The loop invariant after position `i`, from what it did to the buffer: one entry taken out and
perhaps one put in. -/
theorem Resending.advance {b b' : RollingBuffer RtpPacket capacity} {list : Nat → UINT16} {i : Nat}
    {seq : UINT16} (h : Resending b list i seq t) (haligned : Aligned b')
    (hhead : b'.headIndex = b.headIndex) (htail : b'.tailIndex = b.tailIndex)
    (horigin : ∀ j, b.InRange j → b'.lookup j ≠ none →
      t.packetBuffer.pRollingBuffer.lookup j ≠ none ∨ (list i).toNat = j)
    (hbuf : t'.packetBuffer.pRollingBuffer = b') (hseq : t'.sequenceNumber = t.sequenceNumber)
    (hright : ∀ r ∈ t'.resent, r.2.header.sequenceNumber = r.1) :
    Resending b list (i + 1) seq t' := by
  refine ⟨by rw [hbuf]; exact haligned, by rw [hbuf]; exact hhead, by rw [hbuf]; exact htail,
    hseq.trans h.sequenceNumber, hright, ?_⟩
  intro j hj hne
  rw [hbuf] at hne
  rcases horigin j hj hne with hold | hput
  · rcases h.origin j hj hold with h0 | ⟨k, hk, hkj⟩
    · exact .inl h0
    · exact .inr ⟨k, Nat.lt_succ_of_lt hk, hkj⟩
  · exact .inr ⟨i, Nat.lt_succ_self i, hput⟩

theorem resendIndex_resending {b : RollingBuffer RtpPacket capacity} {list : Nat → UINT16} {i : Nat}
    {seq seqNum : UINT16} {index : Nat} (h : Resending b list i seq t)
    (hmod : GET_UINT16_SEQ_NUM index = seqNum) (hfit : PutBackFits b list i seqNum index) :
    Resending b list (i + 1) seq (resendIndex list i seqNum index t).1 := by
  have hstay : Resending b list (i + 1) seq t :=
    h.advance h.aligned h.head h.tail (fun j _ hne => .inl hne) rfl rfl h.right
  unfold resendIndex
  rcases extract_cases t.packetBuffer.pRollingBuffer index with
    ⟨-, heq⟩ | ⟨hin, b1, heq, hhead1, htail1, hl1⟩
  · rw [heq]
    exact hstay
  · rw [heq]
    cases hp : t.packetBuffer.pRollingBuffer.lookup index with
    | none => exact hstay
    | some p =>
      have hpseq : p.header.sequenceNumber = seqNum := (h.aligned index p hin hp).trans hmod
      have haligned1 : Aligned b1 :=
        h.aligned.replace hhead1 htail1 hl1 (fun q hq => by cases hq)
      have horigin1 : ∀ j, b.InRange j → b1.lookup j ≠ none →
          t.packetBuffer.pRollingBuffer.lookup j ≠ none ∨ (list i).toNat = j := by
        intro j hj hne
        rw [hl1 j ((h.inRange j).mpr hj)] at hne
        split at hne
        · exact absurd rfl hne
        · exact .inl hne
      dsimp only
      split
      · -- building the retransmission failed: the packet is gone
        exact h.advance haligned1 (hhead1.trans h.head) (htail1.trans h.tail) horigin1 rfl rfl h.right
      · rename_i t1 ht1
        obtain ⟨rtxSeq, rfl⟩ := retransmit_ok ht1
        have hright : ∀ r ∈ t.resent ++ [(seqNum, p)], r.2.header.sequenceNumber = r.1 := by
          intro r hr
          rcases List.mem_append.mp hr with hr | hr
          · exact h.right r hr
          · rw [List.mem_singleton.mp hr]
            exact hpseq
        dsimp only [setRolling]
        rcases insert_cases b1 (list i).toNat p with ⟨-, hins⟩ | ⟨hin2, b2, hins, hhead2, htail2, hl2⟩
        · rw [hins]
          exact h.advance haligned1 (hhead1.trans h.head) (htail1.trans h.tail) horigin1 rfl rfl
            hright
        · rw [hins]
          have hin2' : b.InRange (list i).toNat := by
            unfold RollingBuffer.InRange at hin2 ⊢
            rw [hhead1, htail1, h.head, h.tail] at hin2
            exact hin2
          -- a packet was found and the put-back is in range, so the position names the packet
          have hname : list i = seqNum := by
            rcases hfit with hname | hout | ⟨hnone, hfirst⟩
            · exact hname
            · exact absurd hin2' hout
            · have hin' : b.InRange index := (h.inRange index).mp hin
              rcases h.origin index hin' (by rw [hp]; simp) with h0 | ⟨k, hk, hkj⟩
              · exact absurd hnone h0
              · exact absurd hkj (hfirst k hk)
          refine h.advance ?_ (hhead2.trans (hhead1.trans h.head))
            (htail2.trans (htail1.trans h.tail)) ?_ rfl rfl hright
          · refine haligned1.replace hhead2 htail2 hl2 ?_
            intro q hq
            cases hq
            rw [hpseq, hname]
            simp [GET_UINT16_SEQ_NUM]
          · intro j hj hne
            have hj1 : b1.InRange j := by
              unfold RollingBuffer.InRange at hj ⊢
              rw [hhead1, htail1, h.head, h.tail]
              exact hj
            rw [hl2 j hj1] at hne
            split at hne
            · rename_i heqj
              exact .inr heqj.symm
            · exact horigin1 j hj hne

theorem resendIndices_resending {b : RollingBuffer RtpPacket capacity} {list : Nat → UINT16}
    {seq : UINT16} :
    ∀ (found : List (UINT16 × Nat)) (i : Nat) (t : KvsRtpTransceiver capacity),
      Resending b list i seq t →
      (∀ (j : Nat) (seqNum : UINT16) (index : Nat), found[j]? = some (seqNum, index) →
        GET_UINT16_SEQ_NUM index = seqNum ∧ PutBackFits b list (i + j) seqNum index) →
      ∃ k, Resending b list k seq (resendIndices list i found t)
  | [], i, _, h, _ => ⟨i, h⟩
  | (seqNum, index) :: rest, i, t, h, hall => by
    obtain ⟨hmod, hfit⟩ := hall 0 seqNum index rfl
    have hone := resendIndex_resending h hmod hfit
    unfold resendIndices
    dsimp only
    split
    · refine resendIndices_resending rest (i + 1) _ hone ?_
      intro j seqNum' index' hj
      rw [Nat.add_assoc, Nat.add_comm 1 j]
      exact hall (j + 1) seqNum' index' hj
    · exact ⟨i + 1, hone⟩

theorem resendPacketOnNack_tracks {n : Nack} (hok : NackFits t n) (h : Tracks t) :
    Tracks (resendPacketOnNack t n) := by
  unfold resendPacketOnNack
  split
  · exact h
  · rename_i senderSsrc receiverSsrc l hget
    split
    · rename_i hssrc
      have hstart : Resending t.packetBuffer.pRollingBuffer l.cells 0 t.sequenceNumber t :=
        ⟨h.aligned, rfl, rfl, rfl, h.right, fun j _ hne => .inl hne⟩
      obtain ⟨k, hend⟩ := resendIndices_resending (validIndices t l n) 0 t hstart (by
        intro j seqNum index hj
        rw [Nat.zero_add]
        exact ⟨rtpRollingBufferGetValidSeqIndexList_mod (List.mem_of_getElem? hj),
          hok senderSsrc receiverSsrc l hget hssrc j seqNum index hj⟩)
      exact ⟨hend.aligned, by rw [hend.sequenceNumber, hend.head]; exact h.next, hend.right⟩
    · exact h

/-! ## Runs -/

/-- The condition on one step. -/
def StepFits (t : KvsRtpTransceiver capacity) : Event → Prop
  | .frame w => FrameGoesThrough t w
  | .nack n => NackFits t n

/-- Every step of the run meets the condition. -/
def RunFits : KvsRtpTransceiver capacity → List Event → Prop
  | _, [] => True
  | t, e :: evs => StepFits t e ∧ RunFits (t.step e) evs

theorem resendIndices_types (list : Nat → UINT16) :
    ∀ (found : List (UINT16 × Nat)) (i : Nat) (t : KvsRtpTransceiver capacity),
      (resendIndices list i found t).payloadType = t.payloadType ∧
        (resendIndices list i found t).rtxPayloadType = t.rtxPayloadType
  | [], _, _ => ⟨rfl, rfl⟩
  | (seqNum, index) :: rest, i, t => by
    have hone : (resendIndex list i seqNum index t).1.payloadType = t.payloadType ∧
        (resendIndex list i seqNum index t).1.rtxPayloadType = t.rtxPayloadType := by
      unfold resendIndex
      split
      · exact ⟨rfl, rfl⟩
      · split
        · exact ⟨rfl, rfl⟩
        · rename_i t1 ht1
          obtain ⟨rtxSeq, rfl⟩ := retransmit_ok ht1
          dsimp only
          split <;> exact ⟨rfl, rfl⟩
    unfold resendIndices
    dsimp only
    split
    · obtain ⟨h1, h2⟩ := resendIndices_types list rest (i + 1) (resendIndex list i seqNum index t).1
      exact ⟨h1.trans hone.1, h2.trans hone.2⟩
    · exact hone

theorem step_types (t : KvsRtpTransceiver capacity) (e : Event) :
    (t.step e).payloadType = t.payloadType ∧ (t.step e).rtxPayloadType = t.rtxPayloadType := by
  cases e with
  | frame w => exact writeFrame_types t w
  | nack n =>
    show (resendPacketOnNack t n).payloadType = _ ∧ (resendPacketOnNack t n).rtxPayloadType = _
    unfold resendPacketOnNack
    split
    · exact ⟨rfl, rfl⟩
    · split
      · exact resendIndices_types _ _ _ _
      · exact ⟨rfl, rfl⟩

theorem run_tracks :
    ∀ (evs : List Event) (t : KvsRtpTransceiver capacity), t.payloadType ≠ t.rtxPayloadType →
      RunFits t evs → Tracks t → Tracks (t.run evs)
  | [], _, _, _, h => h
  | e :: evs, t, hpt, hfits, h => by
    obtain ⟨h1, h2⟩ := step_types t e
    have hstep : Tracks (t.step e) := by
      cases e with
      | frame w => exact writeFrame_tracks hpt hfits.1 h
      | nack n => exact resendPacketOnNack_tracks hfits.1 h
    exact run_tracks evs (t.step e) (by rw [h1, h2]; exact hpt) hfits.2 hstep

/-- **A NACK is answered with the packet it asks for**, in every run whose frames go through to
their last packet and whose NACKs put every packet back under its own number. -/
theorem nack_answers_right_packet (h : Fresh t) (hpt : t.payloadType ≠ t.rtxPayloadType)
    (evs : List Event) (hfits : RunFits t evs) :
    ∀ r ∈ (t.run evs).resent, r.2.header.sequenceNumber = r.1 :=
  (run_tracks evs t hpt hfits h.tracks).right

/-- Three packets are sent, then the second is asked for. -/
def sampleAnswered : List Event := [.frame (sampleFrame 3 (fun _ => sampleSent)), .nack (sampleNack 1 0)]

theorem nack_answers_right_packet_second :
    ((sampleTransceiver 96 97).run sampleAnswered).resent.length = 1 ∧
      ∀ r ∈ ((sampleTransceiver 96 97).run sampleAnswered).resent,
        r.2.header.sequenceNumber = r.1 := by
  refine ⟨by decide +kernel, nack_answers_right_packet
    (fresh_create (by decide) 96 97 1 2 true 0) (by decide) sampleAnswered ⟨?_, ?_, trivial⟩⟩
  · intro _ a ha
    cases ha
    refine ⟨fun _ => by decide, ?_⟩
    intro i _ hstop
    rcases hstop with h | ⟨-, h⟩ <;> cases h
  · intro senderSsrc receiverSsrc l hget _ i seqNum index hi
    simp only [rtcpNackListGet] at hget
    rw [if_neg (by decide)] at hget
    cases hget
    rw [show validIndices _ _ (sampleNack 1 0) = [(1, 1)] by decide +kernel] at hi
    cases i with
    | zero =>
      cases hi
      exact .inl (by decide)
    | succ i => cases hi

/-- A frame of two packets stops at the first, whose encryption fails; the next frame's packet 2 then
takes the index of packet 1 and is sent to a receiver that asked for packet 1. -/
theorem stopped_frame_shifts_answers :
    let evs : List Event :=
      [.frame (sampleFrame 2 (fun _ => ⟨none, .SUCCESS⟩)), .frame (sampleFrame 1 (fun _ => sampleSent)),
        .nack (sampleNack 1 0)]
    ((sampleTransceiver 96 97).run evs).resent.map (fun r => (r.1, r.2.header.sequenceNumber)) =
      [(1, 2)] := by
  decide +kernel

end KvsWebrtc.Rtp
