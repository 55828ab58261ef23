import KvsWebrtc.Common

/-!
# Parsing transport-wide feedback (`RtcpPacket.c`, `Rtcp.c`)

`setRtcpPacketFromBytes` and `parseRtcpTwccPacket`: a first pass over the status chunks finds where
the receive deltas start, a second one walks chunks and deltas side by side and stores the remote
arrival time of every packet the sender still knows.

`payload` is everything that can be read behind the RTCP header; the second pass of the source is
not bounded by `payloadLength`, so it is given one round for every byte of the payload and answers
`none` when these do not suffice.
-/

namespace KvsWebrtc.Rtcp

inductive STATUS where
  | RTCP_INPUT_PACKET_TOO_SMALL
  | RTCP_INPUT_PARTIAL_PACKET
  | RTCP_INPUT_PACKET_INVALID_VERSION
  deriving DecidableEq, Repr

abbrev RTCP_PACKET_HEADER_LEN : Nat := 4
abbrev RTCP_PACKET_LEN_OFFSET : Nat := 2
abbrev RTCP_PACKET_LEN_WORD_SIZE : Nat := 4
abbrev TWCC_FB_PACKETCHUNK_SIZE : Nat := 2
/-- `TWCC_PACKET_LOST_TIME`. -/
abbrev TWCC_PACKET_LOST_TIME : UINT64 := BitVec.allOnes 64
abbrev MIN_INT16 : Int := -32768

structure RtcpPacket where
  version : UINT8
  receptionReportCount : UINT8
  packetType : UINT8
  packetLength : UINT16
  payload : Bytes
  payloadLength : Nat
  deriving DecidableEq, Repr

def setRtcpPacketFromBytes (raw : Bytes) : Except STATUS RtcpPacket :=
  if raw.length < RTCP_PACKET_HEADER_LEN then .error .RTCP_INPUT_PACKET_TOO_SMALL else
  let packetLen := getUnalignedInt16BigEndian raw RTCP_PACKET_LEN_OFFSET
  if raw.length < (packetLen.toNat + 1) * RTCP_PACKET_LEN_WORD_SIZE then
    .error .RTCP_INPUT_PARTIAL_PACKET else
  let version := (raw.getD 0 0 >>> 6) &&& 3
  if version ≠ 2 then .error .RTCP_INPUT_PACKET_INVALID_VERSION else
  .ok {
    version := version
    receptionReportCount := raw.getD 0 0 &&& 0x1F
    packetType := raw.getD 1 0
    packetLength := packetLen
    payload := raw.drop RTCP_PACKET_LEN_WORD_SIZE
    payloadLength := packetLen.toNat * RTCP_PACKET_LEN_WORD_SIZE }

/-! ## Status chunks -/

def IS_TWCC_RUNLEN (packetChunk : UINT16) : Bool := (packetChunk >>> 15) &&& 1 = 0
def TWCC_RUNLEN_STATUS_SYMBOL (packetChunk : UINT16) : UINT16 := (packetChunk >>> 13) &&& 3
def TWCC_RUNLEN_GET (packetChunk : UINT16) : Nat := (packetChunk &&& 0x1FFF).toNat
def TWCC_STATUSVECTOR_IS_2BIT (packetChunk : UINT16) : Bool := (packetChunk >>> 14) &&& 1 ≠ 0
def TWCC_STATUSVECTOR_COUNT (packetChunk : UINT16) : Nat :=
  if TWCC_STATUSVECTOR_IS_2BIT packetChunk then 7 else 14
def TWCC_STATUSVECTOR_STATUS (packetChunk : UINT16) (i : Nat) : UINT16 :=
  if TWCC_STATUSVECTOR_IS_2BIT packetChunk then (packetChunk >>> (12 - i * 2)) &&& 3
  else (packetChunk >>> (13 - i)) &&& 1

/-! ## The sender's table -/

structure TwccRtpPacketInfo where
  localTimeKvs : UINT64
  remoteTimeKvs : UINT64
  packetSize : UINT32
  deriving DecidableEq, Repr

structure TwccManager where
  pTwccRtpPktInfosHashTable : UINT16 → Option TwccRtpPacketInfo
  firstSeqNumInRollingWindow : UINT16
  lastReportedSeqNum : UINT16
  prevReportedBaseSeqNum : UINT16

/-- The entry of `seqNum`, if there is one, gets the remote time. -/
def setRemoteTime (t : TwccManager) (seqNum : UINT16) (remoteTimeKvs : UINT64) : TwccManager :=
  { t with
    pTwccRtpPktInfosHashTable := fun s =>
      if s = seqNum then
        (t.pTwccRtpPktInfosHashTable s).map fun e => { e with remoteTimeKvs := remoteTimeKvs }
      else t.pTwccRtpPktInfosHashTable s
    lastReportedSeqNum := seqNum }

/-- The second pass between two packets. -/
structure TwccCursor where
  manager : TwccManager
  recvOffset : Nat
  packetSeqNum : UINT16
  referenceTime : UINT64

/-- The delta of a packet with the given symbol and the offset behind it. -/
def readDelta (payload : Bytes) (statusSymbol : UINT16) (recvOffset : Nat) : Int × Nat :=
  if statusSymbol = 1 then (((payload.getD recvOffset 0).toNat : Int), recvOffset + 1)
  else if statusSymbol = 2 then
    ((getUnalignedInt16BigEndian payload recvOffset).toInt, recvOffset + 2)
  else (MIN_INT16, recvOffset)

/-- One packet of a chunk.  A large delta of `MIN_INT16` counts as no delta at all. -/
def reportPacket (payload : Bytes) (statusSymbol : UINT16) (c : TwccCursor) : TwccCursor :=
  let (recvDelta, recvOffset) := readDelta payload statusSymbol c.recvOffset
  let lost := if statusSymbol = 0 then
    setRemoteTime c.manager c.packetSeqNum TWCC_PACKET_LOST_TIME else c.manager
  if recvDelta ≠ MIN_INT16 then
    -- `KVS_CONVERT_TIMESCALE` from 4000 ticks a second to 100 ns
    let referenceTime := c.referenceTime + BitVec.ofInt 64 ((recvDelta * 10000000).tdiv 4000)
    { manager := setRemoteTime lost c.packetSeqNum referenceTime
      recvOffset := recvOffset
      packetSeqNum := c.packetSeqNum + 1
      referenceTime := referenceTime }
  else
    { c with manager := lost, recvOffset := recvOffset, packetSeqNum := c.packetSeqNum + 1 }

/-- `n` packets of a run-length chunk. -/
def reportRun (payload : Bytes) (statusSymbol : UINT16) : Nat → TwccCursor → TwccCursor
  | 0, c => c
  | n + 1, c => reportRun payload statusSymbol n (reportPacket payload statusSymbol c)

/-- `n` packets of a status vector from the `i`-th on. -/
def reportVector (payload : Bytes) (packetChunk : UINT16) : Nat → Nat → TwccCursor → TwccCursor
  | _, 0, c => c
  | i, n + 1, c =>
    reportVector payload packetChunk (i + 1) n
      (reportPacket payload (TWCC_STATUSVECTOR_STATUS packetChunk i) c)

/-- The first pass: the offset behind the last chunk. -/
def findDeltas (payload : Bytes) (payloadLength : Nat) : Nat → Int → Nat → Nat
  | 0, _, chunkOffset => chunkOffset
  | fuel + 1, packetsRemaining, chunkOffset =>
    if 0 < packetsRemaining ∧ chunkOffset < payloadLength then
      let packetChunk := getUnalignedInt16BigEndian payload chunkOffset
      let packetsRemaining := if IS_TWCC_RUNLEN packetChunk then
          packetsRemaining - TWCC_RUNLEN_GET packetChunk
        else packetsRemaining - min (TWCC_STATUSVECTOR_COUNT packetChunk : Int) packetsRemaining
      findDeltas payload payloadLength fuel packetsRemaining (chunkOffset + TWCC_FB_PACKETCHUNK_SIZE)
    else chunkOffset

/-- The second pass. -/
def reportChunks (payload : Bytes) : Nat → Int → Nat → TwccCursor → Option TwccManager
  | 0, packetsRemaining, _, c => if 0 < packetsRemaining then none else some c.manager
  | fuel + 1, packetsRemaining, chunkOffset, c =>
    if 0 < packetsRemaining then
      let packetChunk := getUnalignedInt16BigEndian payload chunkOffset
      if IS_TWCC_RUNLEN packetChunk then
        let n := TWCC_RUNLEN_GET packetChunk
        reportChunks payload fuel (packetsRemaining - n) (chunkOffset + TWCC_FB_PACKETCHUNK_SIZE)
          (reportRun payload (TWCC_RUNLEN_STATUS_SYMBOL packetChunk) n c)
      else
        let statuses := min (TWCC_STATUSVECTOR_COUNT packetChunk) packetsRemaining.toNat
        reportChunks payload fuel (packetsRemaining - statuses)
          (chunkOffset + TWCC_FB_PACKETCHUNK_SIZE) (reportVector payload packetChunk 0 statuses c)
    else some c.manager

/-- The reference time of the payload in units of 100 ns. -/
def readReferenceTime (payload : Bytes) : UINT64 :=
  BitVec.ofNat 64 (((payload.getD 12 0).toNat * 65536 + (payload.getD 13 0).toNat * 256 +
    (payload.getD 14 0).toNat) * 64 * 10000000 / 1000)

def parseRtcpTwccPacket (p : RtcpPacket) (t : TwccManager) : Option TwccManager :=
  let baseSeqNum := getUnalignedInt16BigEndian p.payload 8
  let packetStatusCount := (getUnalignedInt16BigEndian p.payload 10).toNat
  reportChunks p.payload p.payload.length packetStatusCount 16 {
    manager := { t with prevReportedBaseSeqNum := baseSeqNum }
    recvOffset := findDeltas p.payload p.payloadLength p.payloadLength packetStatusCount 16
    packetSeqNum := baseSeqNum
    referenceTime := readReferenceTime p.payload }

end KvsWebrtc.Rtcp
