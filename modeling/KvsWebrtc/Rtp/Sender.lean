import KvsWebrtc.Rtp.RollingBuffer

/-!
# The sending side of a transceiver (`Rtp.c`, `Retransmitter.c`)

`writeFrame` cuts a frame into packets, buffers, encrypts and sends each of them, and may stop in
the middle; `resendPacketOnNack` answers a NACK from the buffer.  Encryption, the ICE agent, the
pacer and the payloader are outside: what they answer is part of the event, as is the content of
memory that the code reads without having written it.  Statistics, the PCAP dump and the TWCC
manager are left out, and allocations succeed.

The fields `built`, `sentAt` and `resent` of the transceiver record what happened; no function reads
them.
-/

namespace KvsWebrtc.Rtp

variable {capacity : Nat}

abbrev DEFAULT_SEQ_NUM_BUFFER_SIZE : Nat := 1000
abbrev DEFAULT_VALID_INDEX_BUFFER_SIZE : Nat := 1000
abbrev RTCP_NACK_LIST_LEN : Nat := 8

/-- `KvsRtpTransceiver` with its `sender`, and the two fields of the peer connection that number
packets across transceivers. -/
structure KvsRtpTransceiver (capacity : Nat) where
  payloadType : UINT8
  rtxPayloadType : UINT8
  sequenceNumber : UINT16
  initialSequenceNumber : UINT16
  seqInitialized : Bool
  rtxSequenceNumber : UINT16
  ssrc : UINT32
  rtxSsrc : UINT32
  jitterBufferSsrc : UINT32
  isVideo : Bool
  packetBuffer : RtpRollingBuffer capacity
  twccExtId : UINT16
  transportWideSequenceNumber : UINT16
  /-- The raw packets handed to `encryptRtpPacket`, in order. -/
  built : List Bytes
  /-- Positions in `built` of the packets `iceAgentSendPacket` or the pacer accepted. -/
  sentAt : List Nat
  /-- The stored packets that were retransmitted, each with the number it was looked up for. -/
  resent : List (UINT16 × RtpPacket)

/-! ## Sending a frame -/

/-- What `iceAgentSendPacket` returns. -/
inductive SendStatus where
  | SUCCESS
  | SEND_DATA_FAILED
  /-- Any other failure. -/
  | FAILED
  deriving DecidableEq, Repr

/-- What happens to one packet outside: `encrypted` is `none` when `encryptRtpPacket` fails. -/
structure PacketOutcome where
  encrypted : Option Bytes
  sendStatus : SendStatus
  deriving DecidableEq, Repr

/-- One call of `writeFrame`. -/
structure FrameWrite where
  /-- `pSrtpSession != NULL`. -/
  srtpReady : Bool
  /-- The payloader's result; `none` when the codec is unknown or the payloader fails. -/
  payloads : Option PayloadArray
  effectivePayloadType : UINT8
  rtpTimestamp : UINT32
  pacerEnabled : Bool
  pacerAccepts : Bool
  /-- What the freshly allocated `pPacketList` holds. -/
  uninitialized : Nat → RtpPacket
  outcome : Nat → PacketOutcome

/-- `TWCC_PAYLOAD`, as it lies in memory. -/
def TWCC_PAYLOAD (extId twsn : UINT16) : Bytes :=
  putUnalignedInt32BigEndian
    (((extId.zeroExtend 32 &&& 0xF) <<< 28) ||| (1 <<< 24) ||| (twsn.zeroExtend 32 <<< 8))

variable (t : KvsRtpTransceiver capacity)

/-- The transport-wide header extension, when it was negotiated. -/
def addTwccExtension (p : RtpPacket) :
    KvsRtpTransceiver capacity × RtpPacket :=
  if t.twccExtId = 0 then (t, p)
  else
    ({ t with transportWideSequenceNumber := t.transportWideSequenceNumber + 1 },
      { p with header := { p.header with
          extension := true
          extensionProfile := TWCC_EXT_PROFILE
          extensionPayload := TWCC_PAYLOAD t.twccExtId t.transportWideSequenceNumber } })

def bufferPacket (pRawPacket : Bytes) :
    Except STATUS (KvsRtpTransceiver capacity) := do
  let b ← rtpRollingBufferAddRtpPacket t.packetBuffer pRawPacket
  return { t with packetBuffer := b }

/-- The loop of `writeFrame` between two packets: the transceiver, the packets collected for the
pacer (as positions in `built`), and whether the loop goes on. -/
structure Progress (capacity : Nat) where
  transceiver : KvsRtpTransceiver capacity
  pacerPackets : List Nat
  go : Bool

/-- The buffering step after encryption.  `rawPacket` is `none` once it was freed or given to the
pacer. -/
def bufferEncrypted (bufferAfterEncrypt : Bool) (rawPacket : Option Bytes)
    (s : Progress capacity) : Progress capacity :=
  match bufferAfterEncrypt, rawPacket with
  | true, some raw =>
    match bufferPacket s.transceiver raw with
    | .ok t => { s with transceiver := t }
    | .error _ => { s with go := false }
  | _, _ => s

/-- From the encryption of a packet to the end of its round. -/
def sendPacket (useBatchPacing bufferAfterEncrypt : Bool) (o : PacketOutcome) (raw : Bytes)
    (t : KvsRtpTransceiver capacity) (pacerPackets : List Nat) : Progress capacity :=
  let here := t.built.length
  let t := { t with built := t.built ++ [raw] }
  match o.encrypted with
  | none => ⟨t, pacerPackets, false⟩
  | some _ =>
    if useBatchPacing then
      -- the pacer owns the packet from here on
      bufferEncrypted bufferAfterEncrypt none ⟨t, pacerPackets ++ [here], true⟩
    else
      match o.sendStatus with
      | .SEND_DATA_FAILED => ⟨t, pacerPackets, true⟩
      | .FAILED => ⟨t, pacerPackets, false⟩
      | .SUCCESS =>
        -- the packet was sent and freed
        bufferEncrypted bufferAfterEncrypt none
          ⟨{ t with sentAt := t.sentAt ++ [here] }, pacerPackets, true⟩

/-- One round of the loop. -/
def writePacket (useBatchPacing bufferAfterEncrypt : Bool) (o : PacketOutcome) (p : RtpPacket)
    (t : KvsRtpTransceiver capacity) (pacerPackets : List Nat) : Progress capacity :=
  let t' := (addTwccExtension t p).1
  match setBytesFromRtpPacket (addTwccExtension t p).2 with
  | .error _ => ⟨t', pacerPackets, false⟩
  | .ok raw =>
    if bufferAfterEncrypt then sendPacket useBatchPacing bufferAfterEncrypt o raw t' pacerPackets
    else
      match bufferPacket t' raw with
      | .error _ => ⟨t', pacerPackets, false⟩
      | .ok t'' => sendPacket useBatchPacing bufferAfterEncrypt o raw t'' pacerPackets

/-- The loop from packet `i` on. -/
def writePackets (useBatchPacing bufferAfterEncrypt : Bool) (outcome : Nat → PacketOutcome) :
    Nat → List RtpPacket → KvsRtpTransceiver capacity → List Nat → Progress capacity
  | _, [], t, pacerPackets => ⟨t, pacerPackets, true⟩
  | i, p :: rest, t, pacerPackets =>
    let s := writePacket useBatchPacing bufferAfterEncrypt (outcome i) p t pacerPackets
    if s.go then
      writePackets useBatchPacing bufferAfterEncrypt outcome (i + 1) rest s.transceiver
        s.pacerPackets
    else s

def useBatchPacing (w : FrameWrite) : Bool :=
  w.pacerEnabled && t.isVideo

def writeFrame (w : FrameWrite) : KvsRtpTransceiver capacity :=
  match w.srtpReady, w.payloads with
  | true, some a =>
    let t := if t.seqInitialized then t else
      { t with initialSequenceNumber := t.sequenceNumber, seqInitialized := true }
    let packets := constructRtpPackets a w.effectivePayloadType t.sequenceNumber w.rtpTimestamp
      t.ssrc ((List.range a.payloadSubLength.length).map w.uninitialized)
    let t := { t with
      sequenceNumber := t.sequenceNumber + BitVec.ofNat 16 a.payloadSubLength.length }
    let bufferAfterEncrypt : Bool := t.payloadType = t.rtxPayloadType
    let s := writePackets (useBatchPacing t w) bufferAfterEncrypt w.outcome 0 packets t []
    if s.go && w.pacerAccepts then
      { s.transceiver with sentAt := s.transceiver.sentAt ++ s.pacerPackets }
    else s.transceiver
  | _, _ => t

/-! ## Answering a NACK -/

/-- The numbers `rtcpNackListGet` stores: the memory from `pSequenceNumberList` on, and how many
numbers there were. -/
structure NackList where
  cells : Nat → UINT16
  count : UINT16

/-- One number; it is stored while the count is at most the capacity. -/
def NackList.push (len : Nat) (l : NackList) (v : UINT16) : NackList where
  cells := if l.count.toNat ≤ len then fun i => if i = l.count.toNat then v else l.cells i
    else l.cells
  count := l.count + 1

/-- One generic NACK: the packet id and the bit mask of the sixteen following packets. -/
def nackNumbers (pid blp : UINT16) : List UINT16 :=
  pid :: ((List.range 16).filter fun j => blp.getLsbD j).map fun j => pid + BitVec.ofNat 16 (j + 1)

/-- The (PID, BLP) words of the payload from one offset on. -/
def nackWords : Bytes → List (UINT16 × UINT16)
  | a :: b :: c :: d :: rest =>
    (getUnalignedInt16BigEndian [a, b] 0, getUnalignedInt16BigEndian [c, d] 0) :: nackWords rest
  | _ => []

def rtcpNackListGet (pPayload : Bytes) (pSequenceNumberList : Nat → UINT16) (len : Nat) :
    Except STATUS (UINT32 × UINT32 × NackList) :=
  if pPayload.length < RTCP_NACK_LIST_LEN ∨ pPayload.length % 4 ≠ 0 then
    .error .RTCP_INPUT_NACK_LIST_INVALID
  else
    let numbers := (nackWords (pPayload.drop RTCP_NACK_LIST_LEN)).flatMap fun w =>
      nackNumbers w.1 w.2
    .ok (getUnalignedInt32BigEndian pPayload 0, getUnalignedInt32BigEndian pPayload 4,
      numbers.foldl (NackList.push len) ⟨pSequenceNumberList, 0⟩)

/-- One NACK: its payload, what the retransmitter's list held before and what lies behind it. -/
structure Nack where
  payload : Bytes
  oldCells : Nat → UINT16
  behind : Nat → UINT16

/-- The numbers the lookup reads: `filledLen` cells from the start of the list, past its end too. -/
def requestedNumbers (l : NackList) (behind : Nat → UINT16) : List UINT16 :=
  (List.range l.count.toNat).map fun i =>
    if i < DEFAULT_SEQ_NUM_BUFFER_SIZE then l.cells i else behind i

/-- What one stored packet turns into on the wire, and the transceiver afterwards. -/
def retransmit (p : RtpPacket) :
    Except STATUS (KvsRtpTransceiver capacity) :=
  if t.payloadType = t.rtxPayloadType then .ok t
  else do
    let _ ← constructRetransmitRtpPacketFromBytes p.pRawPacket t.rtxSequenceNumber t.rtxPayloadType
      t.rtxSsrc
    return { t with rtxSequenceNumber := t.rtxSequenceNumber + 1 }

def setRolling (b : RollingBuffer RtpPacket capacity) :
    KvsRtpTransceiver capacity :=
  { t with packetBuffer := { t.packetBuffer with pRollingBuffer := b } }

/-- One round of the loop over the valid indices: position `i` holds `index`, found for `seqNum`.
The packet is taken out, sent and put back under the number at position `i` of the requested
numbers; it is freed when that number is no index of the buffer. -/
def resendIndex (sequenceNumberList : Nat → UINT16) (i : Nat) (seqNum : UINT16) (index : Nat)
    (t : KvsRtpTransceiver capacity) : KvsRtpTransceiver capacity × Bool :=
  match rollingBufferExtractData t.packetBuffer.pRollingBuffer index with
  | (_, none) => (t, true)
  | (b, some p) =>
    match retransmit (setRolling t b) p with
    | .error _ => (setRolling t b, false)
    | .ok t' =>
      let t' := { t' with resent := t'.resent ++ [(seqNum, p)] }
      match rollingBufferInsertData t'.packetBuffer.pRollingBuffer (sequenceNumberList i).toNat p with
      | .ok b' => (setRolling t' b', true)
      | .error _ => (t', true)

def resendIndices (sequenceNumberList : Nat → UINT16) :
    Nat → List (UINT16 × Nat) → KvsRtpTransceiver capacity → KvsRtpTransceiver capacity
  | _, [], t => t
  | i, (seqNum, index) :: rest, t =>
    let r := resendIndex sequenceNumberList i seqNum index t
    if r.2 then resendIndices sequenceNumberList (i + 1) rest r.1 else r.1

/-- `findTransceiverBySsrc` for this transceiver. -/
def hasSsrc (ssrc : UINT32) : Prop :=
  t.ssrc = ssrc ∨ t.rtxSsrc = ssrc ∨ t.jitterBufferSsrc = ssrc

instance (t : KvsRtpTransceiver capacity) (ssrc : UINT32) : Decidable (hasSsrc t ssrc) :=
  inferInstanceAs (Decidable (_ ∨ _))

/-- The valid indices of a NACK. -/
def validIndices (l : NackList) (n : Nack) :
    List (UINT16 × Nat) :=
  rtpRollingBufferGetValidSeqIndexList t.packetBuffer (requestedNumbers l n.behind)
    DEFAULT_VALID_INDEX_BUFFER_SIZE

/-- A NACK whose media SSRC is not the transceiver's fails, also when its sender SSRC is. -/
def resendPacketOnNack (n : Nack) : KvsRtpTransceiver capacity :=
  match rtcpNackListGet n.payload n.oldCells DEFAULT_SEQ_NUM_BUFFER_SIZE with
  | .error _ => t
  | .ok (_, receiverSsrc, l) =>
    if hasSsrc t receiverSsrc then resendIndices l.cells 0 (validIndices t l n) t else t

/-! ## Runs -/

inductive Event where
  | frame (w : FrameWrite)
  | nack (n : Nack)

def KvsRtpTransceiver.step : Event → KvsRtpTransceiver capacity
  | .frame w => writeFrame t w
  | .nack n => resendPacketOnNack t n

def KvsRtpTransceiver.run (evs : List Event) :
    KvsRtpTransceiver capacity :=
  evs.foldl KvsRtpTransceiver.step t

/-- A transceiver after negotiation, before its first frame. -/
def createKvsRtpTransceiver (h : 0 < capacity) (payloadType rtxPayloadType : UINT8)
    (ssrc rtxSsrc : UINT32) (isVideo : Bool) (twccExtId : UINT16) : KvsRtpTransceiver capacity where
  payloadType := payloadType
  rtxPayloadType := rtxPayloadType
  sequenceNumber := 0
  initialSequenceNumber := 0
  seqInitialized := false
  rtxSequenceNumber := 0
  ssrc := ssrc
  rtxSsrc := rtxSsrc
  jitterBufferSsrc := 0
  isVideo := isVideo
  packetBuffer := createRtpRollingBuffer capacity h
  twccExtId := twccExtId
  transportWideSequenceNumber := 0
  built := []
  sentAt := []
  resent := []

/-! ## Fixed inputs for the examples -/

/-- A buffer of four packets, no header extension, no pacing. -/
def sampleTransceiver (payloadType rtxPayloadType : UINT8) : KvsRtpTransceiver 4 :=
  createKvsRtpTransceiver (by decide) payloadType rtxPayloadType 1 2 true 0

/-- A frame of `n` one-byte packets with the given outcomes. -/
def sampleFrame (n : Nat) (outcome : Nat → PacketOutcome) : FrameWrite where
  srtpReady := true
  payloads := some ⟨List.replicate n 7, List.replicate n 1⟩
  effectivePayloadType := 96
  rtpTimestamp := 0
  pacerEnabled := false
  pacerAccepts := true
  uninitialized := fun _ =>
    ⟨⟨0, false, false, false, 0, 0, 0, 0, [], 0, []⟩, [], 0, []⟩
  outcome := outcome

/-- Encrypted and sent. -/
def sampleSent : PacketOutcome := ⟨some [], .SUCCESS⟩

/-- A NACK for the media SSRC 1 that names `pid` and the packets of the mask `blp` after it. -/
def sampleNack (pid blp : UINT16) : Nack where
  payload := putUnalignedInt32BigEndian 9 ++ putUnalignedInt32BigEndian 1 ++
    putUnalignedInt16BigEndian pid ++ putUnalignedInt16BigEndian blp
  oldCells := fun _ => 0
  behind := fun _ => 0

end KvsWebrtc.Rtp
