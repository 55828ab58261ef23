import KvsWebrtc.Rtp.Packet

/-!
# The receiving side of a transceiver (`PeerConnection.c`)

`transceiverOnRtpPacketReceived` follows the sequence numbers of the stream after RFC 3550, hands
the packet (or the packets of a RED packet) to the jitter buffer and updates the inbound
statistics.  The jitter buffer and the RED splitter are operations of an arbitrary type here: the
statistics read nothing of them but the status and the discarded flag of each push.  The
interarrival jitter is a floating point number and is left out.
-/

namespace KvsWebrtc.Rtp

abbrev RTP_SEQ_MOD : Nat := 65536
abbrev MAX_DROPOUT : Nat := 3000
abbrev MAX_MISORDER : Nat := 100
abbrev HUNDREDS_OF_NANOS_IN_A_SECOND : UINT64 := 10000000

/-- A packet with the fields that only the receiving side sets. -/
structure InboundRtpPacket extends RtpPacket where
  receivedTime : UINT64
  isSynthetic : Bool
  deriving DecidableEq, Repr

/-- `RTP_HEADER_LEN`. -/
def RTP_HEADER_LEN (p : RtpPacket) : Nat :=
  12 + p.header.csrcArray.length * CSRC_LENGTH +
    if p.header.extension then 4 + p.header.extensionPayload.length else 0

/-- Receiver sequence number state (RFC 3550 A.1/A.3). -/
structure RrSeq where
  rrMaxSeq : UINT16
  rrCycles : UINT32
  rrBaseSeq : UINT32
  rrBadSeq : UINT32
  rrExpectedPrior : UINT32
  rrReceivedPrior : UINT32
  rrSeqInitialized : Bool
  deriving DecidableEq, Repr

/-- `RtcInboundRtpStreamStats`, the counters of its `received` part among them. -/
structure InboundStats where
  packetsReceived : UINT64
  packetsLost : Int
  packetsDiscarded : UINT64
  lastPacketReceivedTimestamp : UINT64
  headerBytesReceived : UINT64
  bytesReceived : UINT64
  fecPacketsReceived : UINT64
  fecBytesReceived : UINT64
  fecPacketsDiscarded : UINT64
  deriving DecidableEq, Repr

/-- The receiving side of `KvsRtpTransceiver` over a jitter buffer of type `J`. -/
structure InboundTransceiver (J : Type) extends RrSeq where
  pJitterBuffer : J
  inboundStats : InboundStats
  receiverRedPayloadType : UINT8
  receiverOpusPayloadType : UINT8

/-! ## Sequence numbers -/

def rrInitSeq (seq : UINT16) : RrSeq where
  rrMaxSeq := seq
  rrCycles := 0
  rrBaseSeq := seq.zeroExtend 32
  rrBadSeq := BitVec.ofNat 32 (RTP_SEQ_MOD + 1)
  rrExpectedPrior := 0
  rrReceivedPrior := 0
  rrSeqInitialized := true

def rrUpdateSeq (r : RrSeq) (seq : UINT16) : RrSeq :=
  let udelta := seq - r.rrMaxSeq
  if udelta.toNat < MAX_DROPOUT then
    { r with
      rrCycles := if seq.toNat < r.rrMaxSeq.toNat then r.rrCycles + BitVec.ofNat 32 RTP_SEQ_MOD
        else r.rrCycles
      rrMaxSeq := seq }
  else if udelta.toNat ≤ RTP_SEQ_MOD - MAX_MISORDER then
    -- a very large jump; two in a row restart the stream
    if seq.zeroExtend 32 = r.rrBadSeq then rrInitSeq seq
    else { r with rrBadSeq := (seq.zeroExtend 32 + 1) &&& BitVec.ofNat 32 (RTP_SEQ_MOD - 1) }
  else
    let backward : UINT32 := (r.rrMaxSeq - seq).zeroExtend 32
    let extPacket := r.rrCycles + r.rrMaxSeq.zeroExtend 32 - backward
    if extPacket.toNat < r.rrBaseSeq.toNat then { r with rrBaseSeq := extPacket } else r

/-- The extended highest sequence number, `extMax`. -/
def RrSeq.extMax (r : RrSeq) : UINT32 := r.rrCycles + r.rrMaxSeq.zeroExtend 32

/-- `expected`: how many packets lie between the base and the highest number. -/
def RrSeq.expected (r : RrSeq) : UINT32 := r.extMax - r.rrBaseSeq + 1

/-! ## A received packet -/

/-- What the receiving side calls: `push` answers whether it succeeded, whether the packet was
discarded, and the buffer afterwards; `splitRed` answers the packets of a RED packet, or nothing
when it fails. -/
structure ReceiveOps (J : Type) where
  push : J → InboundRtpPacket → Bool × Bool × J
  splitRed : UINT8 → InboundRtpPacket → Option (List InboundRtpPacket)

/-- The counters a packet adds to, and whether it reached the jitter buffer. -/
structure Delivery (J : Type) where
  buffer : J
  packetsDiscarded : UINT64
  fecPacketsReceived : UINT64
  fecBytesReceivedCount : UINT64
  fecPacketsDiscarded : UINT64
  pushed : Bool

variable {J : Type}

/-- One packet of a RED packet. -/
def pushSynthetic (ops : ReceiveOps J) (d : Delivery J) (p : InboundRtpPacket) : Delivery J :=
  let (succeeded, synDiscarded, buffer) := ops.push d.buffer p
  let failed := !succeeded || synDiscarded
  { d with
    buffer := buffer
    fecPacketsReceived := if p.isSynthetic then d.fecPacketsReceived + 1 else d.fecPacketsReceived
    fecBytesReceivedCount :=
      if p.isSynthetic then d.fecBytesReceivedCount + p.payloadLength.zeroExtend 64
      else d.fecBytesReceivedCount
    fecPacketsDiscarded :=
      if failed && p.isSynthetic then d.fecPacketsDiscarded + 1 else d.fecPacketsDiscarded
    packetsDiscarded :=
      if failed && !p.isSynthetic && synDiscarded then d.packetsDiscarded + 1
      else d.packetsDiscarded }

/-- From the packet to the jitter buffer. -/
def deliver (ops : ReceiveOps J) (t : InboundTransceiver J) (p : InboundRtpPacket) : Delivery J :=
  let start : Delivery J := ⟨t.pJitterBuffer, 0, 0, 0, 0, true⟩
  if t.receiverRedPayloadType ≠ 0 ∧ p.header.payloadType = t.receiverRedPayloadType then
    match ops.splitRed t.receiverOpusPayloadType p with
    | some (q :: qs) => (q :: qs).foldl (pushSynthetic ops) start
    -- malformed, or nothing in it
    | _ => { start with packetsDiscarded := 1 }
  else
    let (succeeded, discarded, buffer) := ops.push t.pJitterBuffer p
    { start with
      buffer := buffer
      packetsDiscarded := if succeeded && discarded then 1 else 0
      pushed := succeeded }

/-- `packetsLost` from the sequence number state and the packets counted so far. -/
def packetsLost (r : RrSeq) (packetsReceived : UINT64) : Int :=
  (r.expected.toNat : Int) - packetsReceived.toInt

/-- `transceiverOnRtpPacketReceived`.  A push that fails leaves the time of the last packet 0. -/
def transceiverOnRtpPacketReceived (ops : ReceiveOps J) (t : InboundTransceiver J)
    (p : InboundRtpPacket) : InboundTransceiver J :=
  let seq := p.header.sequenceNumber
  let rr := if t.rrSeqInitialized then rrUpdateSeq t.toRrSeq seq else rrInitSeq seq
  let d := deliver ops t p
  let s := t.inboundStats
  let packetsReceived := s.packetsReceived + 1
  let headerLen := BitVec.ofNat 32 (RTP_HEADER_LEN p.toRtpPacket)
  { t with
    toRrSeq := rr
    pJitterBuffer := d.buffer
    inboundStats := {
      packetsReceived := packetsReceived
      packetsLost := if rr.rrSeqInitialized then packetsLost rr packetsReceived else s.packetsLost
      packetsDiscarded := s.packetsDiscarded + d.packetsDiscarded
      lastPacketReceivedTimestamp :=
        if d.pushed then p.receivedTime * 1000 / HUNDREDS_OF_NANOS_IN_A_SECOND else 0
      headerBytesReceived := s.headerBytesReceived + headerLen.zeroExtend 64
      bytesReceived := s.bytesReceived +
        (BitVec.ofNat 32 p.pRawPacket.length - headerLen).zeroExtend 64
      fecPacketsReceived := s.fecPacketsReceived + d.fecPacketsReceived
      fecBytesReceived := s.fecBytesReceived + d.fecBytesReceivedCount
      fecPacketsDiscarded := s.fecPacketsDiscarded + d.fecPacketsDiscarded } }

/-- The packets of a stream, one after the other. -/
def receiveAll (ops : ReceiveOps J) (t : InboundTransceiver J) (ps : List InboundRtpPacket) :
    InboundTransceiver J :=
  ps.foldl (transceiverOnRtpPacketReceived ops) t

theorem receiveAll_concat (ops : ReceiveOps J) (t : InboundTransceiver J)
    (ps : List InboundRtpPacket) (p : InboundRtpPacket) :
    receiveAll ops t (ps ++ [p]) = transceiverOnRtpPacketReceived ops (receiveAll ops t ps) p := by
  simp [receiveAll]

@[simp] theorem transceiverOnRtpPacketReceived_packetsReceived (ops : ReceiveOps J)
    (t : InboundTransceiver J) (p : InboundRtpPacket) :
    (transceiverOnRtpPacketReceived ops t p).inboundStats.packetsReceived =
      t.inboundStats.packetsReceived + 1 := rfl

@[simp] theorem transceiverOnRtpPacketReceived_toRrSeq (ops : ReceiveOps J)
    (t : InboundTransceiver J) (p : InboundRtpPacket) :
    (transceiverOnRtpPacketReceived ops t p).toRrSeq =
      if t.rrSeqInitialized then rrUpdateSeq t.toRrSeq p.header.sequenceNumber
      else rrInitSeq p.header.sequenceNumber := rfl

theorem rrUpdateSeq_initialized {r : RrSeq} (h : r.rrSeqInitialized = true) (seq : UINT16) :
    (rrUpdateSeq r seq).rrSeqInitialized = true := by
  unfold rrUpdateSeq
  dsimp only
  split
  · exact h
  · split
    · split
      · rfl
      · exact h
    · split
      · exact h
      · exact h

theorem transceiverOnRtpPacketReceived_packetsLost (ops : ReceiveOps J) (t : InboundTransceiver J)
    (p : InboundRtpPacket) :
    (transceiverOnRtpPacketReceived ops t p).inboundStats.packetsLost =
      packetsLost (transceiverOnRtpPacketReceived ops t p).toRrSeq
        (t.inboundStats.packetsReceived + 1) := by
  rw [transceiverOnRtpPacketReceived_toRrSeq]
  unfold transceiverOnRtpPacketReceived
  dsimp only
  split
  · rename_i h
    rw [rrUpdateSeq_initialized h]
    rfl
  · rfl

end KvsWebrtc.Rtp
