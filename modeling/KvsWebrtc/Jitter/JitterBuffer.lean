import KvsWebrtc.Rtp.Receiver

/-!
# The default jitter buffer (`JitterBuffer.c`)

`defaultPush` keeps the received packets in a table keyed by their 16 bit sequence number, moves the
head and the tail of the window, and scans the window for frames; `jitterBufferInternalParse` is
that scan.  Two flags remember that the wrap of the sequence numbers, or of the timestamps, lies
between head and tail.

The depayloader and the callbacks are the caller's: the model takes the depayloader as a pair of
functions and the answers of the callbacks as a sequence, one for each call.  Each call is recorded
with the table it is made on, since the callback reads the frame out of that table.  The variable
`isFrameDataContinuous` of the source is written and never read, and is left out; allocations and
hash table operations succeed.
-/

namespace KvsWebrtc.Jitter

open Rtp

abbrev MAX_OUT_OF_ORDER_PACKET_DIFFERENCE : Nat := 512
abbrev MAX_RTP_SEQUENCE_NUM : Nat := 65535
abbrev MAX_RTP_TIMESTAMP : Nat := 4294967295
/-- Two seconds. -/
abbrev DEFAULT_JITTER_BUFFER_MAX_LATENCY : UINT64 := 20000000

/-- `DepayRtpPayloadFunc`: the call without an output buffer answers the size of the depayloaded
data and whether the payload starts a frame; the call with a buffer of a given size answers the
data.  Both are told whether the packet is the first of its frame; `none` is an error. -/
structure DepayRtpPayloadFunc where
  size : Bytes → Bool → Option (UINT32 × Bool)
  copy : Bytes → UINT32 → Bool → Option Bytes

abbrev PacketTable := UINT16 → Option InboundRtpPacket

/-- `JitterBufferInternal` without the function pointers. -/
structure JitterBufferInternal where
  clockRate : UINT32
  tailTimestamp : UINT32
  headSequenceNumber : UINT16
  tailSequenceNumber : UINT16
  headTimestamp : UINT32
  maxLatency : UINT64
  started : Bool
  firstFrameProcessed : Bool
  sequenceNumberOverflowState : Bool
  timestampOverFlowState : Bool
  alwaysSinglePacketFrames : Bool
  pPkgBufferHashTable : PacketTable

/-- A call of `onFrameReadyFn` or `onFrameDroppedFn`. -/
inductive Event where
  | ready (start last : UINT16) (size : UINT32)
  | dropped (start last : UINT16) (timestamp : UINT32)
  deriving DecidableEq, Repr

structure Call where
  event : Event
  table : PacketTable

/-- The latency in units of the clock rate. -/
def scaledLatency (maxLatency clockRate : UINT32) : UINT64 :=
  (if maxLatency = 0 then DEFAULT_JITTER_BUFFER_MAX_LATENCY else maxLatency.zeroExtend 64) *
    clockRate.zeroExtend 64 / HUNDREDS_OF_NANOS_IN_A_SECOND

/-- `createJitterBuffer`; `none` when an argument is invalid. -/
def createJitterBuffer (maxLatency clockRate : UINT32) (alwaysSinglePacketFrames : Bool) :
    Option JitterBufferInternal :=
  if clockRate = 0 ∨ MAX_RTP_TIMESTAMP ≤ (scaledLatency maxLatency clockRate).toNat then none
  else some {
    clockRate := clockRate
    tailTimestamp := 0
    headSequenceNumber := BitVec.ofNat 16 MAX_RTP_SEQUENCE_NUM
    tailSequenceNumber := BitVec.ofNat 16 MAX_RTP_SEQUENCE_NUM
    headTimestamp := BitVec.allOnes 32
    maxLatency := scaledLatency maxLatency clockRate
    started := false
    firstFrameProcessed := false
    sequenceNumberOverflowState := false
    timestampOverFlowState := false
    alwaysSinglePacketFrames := alwaysSinglePacketFrames
    pPkgBufferHashTable := fun _ => none }

/-! ## Head and tail -/

section Window

variable (b : JitterBufferInternal) (p : InboundRtpPacket)

def underflowPossible : Bool :=
  let seq := p.header.sequenceNumber.toNat
  let timestamp := p.header.timestamp
  if b.headTimestamp = timestamp then true
  else
    let seqNoDifference := MAX_RTP_SEQUENCE_NUM - seq + b.headSequenceNumber.toNat
    let timestampDifference :=
      if b.headTimestamp > timestamp then b.headTimestamp.toNat - timestamp.toNat
      else MAX_RTP_TIMESTAMP - timestamp.toNat + b.headTimestamp.toNat
    -- one frame per second and one packet per frame
    let maxTimePassed :=
      if MAX_RTP_TIMESTAMP / b.clockRate.toNat ≤ seqNoDifference then MAX_RTP_TIMESTAMP
      else b.clockRate.toNat * seqNoDifference
    maxTimePassed ≥ timestampDifference

def headCheckingAllowed : Bool :=
  !b.firstFrameProcessed || b.headTimestamp = p.header.timestamp

/-- Answers whether the packet holds the head sequence number. -/
def headSequenceNumberCheck : Bool × JitterBufferInternal :=
  let seq := p.header.sequenceNumber
  let minimumHead : UINT16 :=
    if b.headSequenceNumber.toNat ≥ MAX_OUT_OF_ORDER_PACKET_DIFFERENCE then
      b.headSequenceNumber - BitVec.ofNat 16 MAX_OUT_OF_ORDER_PACKET_DIFFERENCE
    else 0
  if b.headSequenceNumber = seq then (true, b)
  else if headCheckingAllowed b p then
    if b.sequenceNumberOverflowState then
      if b.tailSequenceNumber < seq ∧ b.headSequenceNumber > seq ∧ seq ≥ minimumHead then
        (true, { b with headSequenceNumber := seq })
      else (false, b)
    else if seq < b.headSequenceNumber ∧ seq ≥ minimumHead then
      (true, { b with headSequenceNumber := seq })
    else (false, b)
  else (false, b)

/-- Answers whether the packet holds the tail sequence number. -/
def tailSequenceNumberCheck : Bool × JitterBufferInternal :=
  let seq := p.header.sequenceNumber
  if b.tailSequenceNumber = seq then (true, b)
  else if seq > b.tailSequenceNumber ∧
      (b.sequenceNumberOverflowState = false ∨ b.headSequenceNumber > seq) then
    (true, { b with tailSequenceNumber := seq })
  else (false, b)

/-- The two tests of `enterSequenceNumberOverflowCheck`. -/
def sequenceNumberOverflows : Bool :=
  let seq := p.header.sequenceNumber
  let packetsUntilOverflow := MAX_RTP_SEQUENCE_NUM - b.tailSequenceNumber.toNat
  !b.sequenceNumberOverflowState && packetsUntilOverflow ≤ MAX_OUT_OF_ORDER_PACKET_DIFFERENCE &&
    seq < b.tailSequenceNumber &&
    seq.toNat ≤ MAX_OUT_OF_ORDER_PACKET_DIFFERENCE - packetsUntilOverflow

def sequenceNumberUnderflows : Bool :=
  let seq := p.header.sequenceNumber
  let packetsUntilOverflow := MAX_RTP_SEQUENCE_NUM - b.tailSequenceNumber.toNat
  !b.sequenceNumberOverflowState && !(packetsUntilOverflow ≤ MAX_OUT_OF_ORDER_PACKET_DIFFERENCE) &&
    headCheckingAllowed b p &&
    b.headSequenceNumber.toNat < MAX_OUT_OF_ORDER_PACKET_DIFFERENCE &&
    seq.toNat ≥ MAX_RTP_SEQUENCE_NUM -
      (MAX_OUT_OF_ORDER_PACKET_DIFFERENCE - b.headSequenceNumber.toNat) &&
    underflowPossible b p

/-- Answers whether the sequence numbers are overflowing now. -/
def enterSequenceNumberOverflowCheck : Bool × JitterBufferInternal :=
  if sequenceNumberOverflows b p then
    (true, { b with
      sequenceNumberOverflowState := true
      tailSequenceNumber := p.header.sequenceNumber
      tailTimestamp := p.header.timestamp })
  else if sequenceNumberUnderflows b p then
    (true, { b with
      sequenceNumberOverflowState := true
      headSequenceNumber := p.header.sequenceNumber
      headTimestamp := p.header.timestamp })
  else (false, b)

def enterTimestampOverflowCheck : Bool × JitterBufferInternal :=
  let timestamp := p.header.timestamp
  if b.timestampOverFlowState then (false, b)
  else if b.headTimestamp > timestamp ∧ b.tailTimestamp > timestamp then
    let (isTail, b') := tailSequenceNumberCheck b p
    if isTail then (true, { b' with timestampOverFlowState := true, tailTimestamp := timestamp })
    else (false, b')
  else if b.headTimestamp < timestamp ∧ b.tailTimestamp < timestamp then
    let prevHead := b.headSequenceNumber
    let (isHead, b') := headSequenceNumberCheck b p
    if isHead ∧ b'.headSequenceNumber ≠ prevHead then
      (true, { b' with timestampOverFlowState := true, headTimestamp := timestamp })
    else (false, b')
  else (false, b)

def exitSequenceNumberOverflowCheck : JitterBufferInternal :=
  if b.sequenceNumberOverflowState ∧ b.headSequenceNumber ≤ b.tailSequenceNumber then
    { b with sequenceNumberOverflowState := false }
  else b

def exitTimestampOverflowCheck : JitterBufferInternal :=
  if b.timestampOverFlowState ∧ b.headTimestamp ≤ b.tailTimestamp then
    { b with timestampOverFlowState := false }
  else b

/-- The timestamp tests of `headTimestampCheck`. -/
def timestampBeforeHead : Bool :=
  let timestamp := p.header.timestamp
  if b.timestampOverFlowState then b.headTimestamp > timestamp && b.tailTimestamp < timestamp
  else b.headTimestamp > timestamp || b.tailTimestamp < timestamp

/-- Answers whether the packet holds a new head timestamp. -/
def headTimestampCheck : Bool × JitterBufferInternal :=
  if headCheckingAllowed b p && timestampBeforeHead b p then
    let (isHead, b') := headSequenceNumberCheck b p
    if isHead then (true, { b' with headTimestamp := p.header.timestamp }) else (false, b')
  else (false, b)

/-- Answers whether the packet holds a new tail timestamp. -/
def tailTimestampCheck : Bool × JitterBufferInternal :=
  let timestamp := p.header.timestamp
  if b.tailTimestamp < timestamp ∧
      (b.timestampOverFlowState = false ∨ b.headTimestamp > timestamp) then
    let (isTail, b') := tailSequenceNumberCheck b p
    if isTail then (true, { b' with tailTimestamp := timestamp }) else (false, b')
  else (false, b)

/-- The tests of `withinLatencyTolerance` for a packet that is neither new nor at the tail. -/
def lateWithinTolerance : Bool :=
  let timestamp := p.header.timestamp
  if b.timestampOverFlowState then
    let minimumTimestamp :=
      if b.tailTimestamp.toNat < b.maxLatency.toNat then
        MAX_RTP_TIMESTAMP - (b.maxLatency.toNat - b.tailTimestamp.toNat)
      else 0
    timestamp < b.tailTimestamp || timestamp > b.headTimestamp ||
      timestamp.toNat ≥ minimumTimestamp
  else
    -- the subtraction is unsigned and wraps
    (timestamp.toNat < b.maxLatency.toNat && b.tailTimestamp.toNat ≤ b.maxLatency.toNat) ||
      timestamp.toNat ≥ (b.tailTimestamp.zeroExtend 64 - b.maxLatency).toNat

/-- Answers whether the packet is within the latency tolerance. -/
def withinLatencyTolerance : Bool × JitterBufferInternal :=
  let (isTail, b') := tailTimestampCheck b p
  if isTail || b'.tailTimestamp = p.header.timestamp then (true, b')
  else (lateWithinTolerance b' p, b')

end Window

/-! ## Dropping and reading a range -/

/-- The loop of `defaultDropBufferData` over `n` numbers. -/
def dropRange : Nat → UINT16 → PacketTable → PacketTable
  | 0, _, table => table
  | n + 1, index, table => dropRange n (index + 1) (Function.update table index none)

/-- Removes the packets from `startIndex` to `endIndex`. -/
def defaultDropBufferData (b : JitterBufferInternal) (startIndex endIndex : UINT16)
    (nextTimestamp : UINT32) : JitterBufferInternal :=
  let b := { b with
    pPkgBufferHashTable :=
      dropRange (endIndex + 1 - startIndex).toNat startIndex b.pPkgBufferHashTable
    headTimestamp := nextTimestamp
    headSequenceNumber := endIndex + 1 }
  exitSequenceNumberOverflowCheck (exitTimestampOverflowCheck b)

/-- The bytes a depayloader gets. -/
def payloadBytes (p : InboundRtpPacket) : Bytes := p.payload.take p.payloadLength.toNat

/-- The loop of `defaultFillFrameData` over `n` numbers, with the space that is left. -/
def fillLoop (depay : DepayRtpPayloadFunc) (table : PacketTable) :
    Nat → UINT16 → UINT32 → Bool → Option Bytes
  | 0, _, _, _ => some []
  | n + 1, index, remainingFrameSize, isFirstInFrame =>
    match table index with
    | none => none
    | some p =>
      match depay.copy (payloadBytes p) remainingFrameSize isFirstInFrame with
      | none => none
      | some bytes =>
        (fillLoop depay table n (index + 1) (remainingFrameSize - BitVec.ofNat 32 bytes.length)
          false).map (bytes ++ ·)

/-- The frame data from `startIndex` to `endIndex`; `none` is an error. -/
def defaultFillFrameData (depay : DepayRtpPayloadFunc) (table : PacketTable) (frameSize : UINT32)
    (startIndex endIndex : UINT16) : Option Bytes :=
  fillLoop depay table (endIndex + 1 - startIndex).toNat startIndex frameSize true

/-! ## The scan -/

/-- The variables of `jitterBufferInternalParse`. -/
structure ParseState where
  buffer : JitterBufferInternal
  calls : List Call
  index : UINT16
  startDropIndex : UINT16
  curFrameSize : UINT32
  sizeCalcIsFirst : Bool
  containStartForEarliestFrame : Bool
  headFrameIsContiguous : Bool
  lastNonNullIndex : UINT16
  lastHeadFrameSeqNum : UINT16
  seenHeadFramePacket : Bool
  firstGapIndex : UINT16
  sawGapSinceLastFrame : Bool
  headFrameEnded : Bool

/-- How a round of the scan ends: on with the next number, `break`, or a jump to the end of the
function with success or an error. -/
inductive Flow where
  | next
  | leave
  | done (succeeded : Bool)
  deriving DecidableEq, Repr

section Scan

variable (depay : DepayRtpPayloadFunc) (answers : Nat → Bool) (bufferClosed : Bool)
  (earliestAllowedTimestamp : UINT32)

/-- A callback: what it answers depends on how many calls there were before. -/
def callBack (s : ParseState) (e : Event) : Bool × ParseState :=
  (answers s.calls.length,
    { s with calls := s.calls ++ [⟨e, s.buffer.pPkgBufferHashTable⟩] })

def endsFrame (b : JitterBufferInternal) (p : InboundRtpPacket) : Bool :=
  p.header.marker || b.alwaysSinglePacketFrames

/-- The head frame is too old to wait for. -/
def headExpired (b : JitterBufferInternal) : Bool :=
  b.headTimestamp < earliestAllowedTimestamp || bufferClosed

/-- The number at `index` is missing. -/
def noteGap (s : ParseState) : ParseState :=
  { s with
    firstGapIndex := if s.sawGapSinceLastFrame then s.firstGapIndex else s.index
    sawGapSinceLastFrame := true
    headFrameIsContiguous :=
      if s.seenHeadFramePacket && !s.headFrameEnded then false else s.headFrameIsContiguous }

/-- A number that is not in the table. -/
def gapStep (s : ParseState) : ParseState × Flow :=
  (noteGap s,
    if headExpired bufferClosed earliestAllowedTimestamp s.buffer then .next else .done true)

/-- The packet at `index` becomes the first of the head frame. -/
def startFrame (s : ParseState) (p : InboundRtpPacket) : ParseState :=
  { s with
    startDropIndex := s.index
    lastHeadFrameSeqNum := s.index
    seenHeadFramePacket := true
    headFrameEnded := endsFrame s.buffer p
    headFrameIsContiguous := true
    sawGapSinceLastFrame := false
    curFrameSize := 0
    sizeCalcIsFirst := true }

/-- The head frame is removed up to `last`, and the next one starts with `nextTimestamp`. -/
def dropFrame (s : ParseState) (last : UINT16) (nextTimestamp : UINT32) : ParseState :=
  { s with buffer :=
    { defaultDropBufferData s.buffer s.startDropIndex last nextTimestamp with
      firstFrameProcessed := true } }

/-- The first packet of another timestamp: is the head frame still whole? -/
def checkContiguous (s : ParseState) : ParseState :=
  if s.sawGapSinceLastFrame ∧ s.seenHeadFramePacket ∧
      (s.firstGapIndex ≤ s.lastHeadFrameSeqNum ∨ s.headFrameEnded = false) then
    { s with headFrameIsContiguous := false }
  else s

/-- A packet whose timestamp is not the head's. -/
def changeFrame (s : ParseState) (p : InboundRtpPacket) : ParseState × Flow :=
  let curTimestamp := p.header.timestamp
  let s := checkContiguous s
  if s.containStartForEarliestFrame && s.headFrameIsContiguous then
    let (succeeded, s) := callBack answers s (.ready s.startDropIndex (s.index - 1) s.curFrameSize)
    if succeeded then
      let s := dropFrame s (s.index - 1) curTimestamp
      (startFrame { s with containStartForEarliestFrame := false } p, .next)
    else (s, .done false)
  else if s.seenHeadFramePacket && s.startDropIndex ≠ s.index &&
      headExpired bufferClosed earliestAllowedTimestamp s.buffer then
    -- the answer is ignored
    let (_, s) :=
      callBack answers s (.dropped s.startDropIndex (s.index - 1) s.buffer.headTimestamp)
    (startFrame (dropFrame s (s.index - 1) curTimestamp) p, .next)
  else if s.seenHeadFramePacket then (s, .leave)
  else
    (startFrame { s with buffer := { s.buffer with headTimestamp := curTimestamp } } p, .next)

/-- A packet of the head's timestamp before its size is known. -/
def noteHeadPacket (s : ParseState) (p : InboundRtpPacket) : ParseState :=
  { s with
    lastHeadFrameSeqNum := s.index
    seenHeadFramePacket := true
    headFrameEnded := s.headFrameEnded || endsFrame s.buffer p }

/-- The size of the packet is added to the head frame. -/
def addSize (s : ParseState) (p : InboundRtpPacket) (partialFrameSize : UINT32) (isStart : Bool) :
    ParseState :=
  { s with
    curFrameSize := s.curFrameSize + partialFrameSize
    sizeCalcIsFirst := false
    containStartForEarliestFrame := s.containStartForEarliestFrame ||
      (isStart && s.buffer.headTimestamp = p.header.timestamp) }

/-- The packet ends a head frame that is complete. -/
def frameComplete (s : ParseState) (p : InboundRtpPacket) : Bool :=
  (s.buffer.firstFrameProcessed || s.buffer.alwaysSinglePacketFrames) &&
    p.header.timestamp = s.buffer.headTimestamp && endsFrame s.buffer p &&
    s.containStartForEarliestFrame && s.headFrameIsContiguous

/-- The head frame is reported up to the packet at `index`. -/
def reportFrame (s : ParseState) (p : InboundRtpPacket) : ParseState × Flow :=
  let (succeeded, s) := callBack answers s (.ready s.startDropIndex s.index s.curFrameSize)
  if succeeded then
    ({ dropFrame s s.index p.header.timestamp with
        startDropIndex := s.index + 1, curFrameSize := 0, sizeCalcIsFirst := true }, .leave)
  else (s, .done false)

/-- The packet counts for the head frame, and a frame that is complete is reported. -/
def countPacket (s : ParseState) (p : InboundRtpPacket) : ParseState × Flow :=
  match depay.size (payloadBytes p) s.sizeCalcIsFirst with
  | none => (s, .done false)
  | some (partialFrameSize, isStart) =>
    let s := addSize s p partialFrameSize isStart
    if frameComplete s p then reportFrame answers s p else (s, .next)

/-- A number that is in the table. -/
def packetStep (s : ParseState) (p : InboundRtpPacket) : ParseState × Flow :=
  let s := { s with lastNonNullIndex := s.index }
  if p.header.timestamp = s.buffer.headTimestamp then
    countPacket depay answers (noteHeadPacket s p) p
  else
    match changeFrame answers bufferClosed earliestAllowedTimestamp s p with
    | (s, .next) => countPacket depay answers s p
    | (s, flow) => (s, flow)

def parseStep (s : ParseState) : ParseState × Flow :=
  match s.buffer.pPkgBufferHashTable s.index with
  | none => gapStep bufferClosed earliestAllowedTimestamp s
  | some p => packetStep depay answers bufferClosed earliestAllowedTimestamp s p

/-- At most `n` rounds. -/
def parseLoop : Nat → ParseState → ParseState × Flow
  | 0, s => (s, .leave)
  | n + 1, s =>
    match parseStep depay answers bufferClosed earliestAllowedTimestamp s with
    | (s, .next) => parseLoop n { s with index := s.index + 1 }
    | (s, flow) => (s, flow)

end Scan

def parseStart (b : JitterBufferInternal) (calls : List Call) : ParseState where
  buffer := b
  calls := calls
  index := b.headSequenceNumber
  startDropIndex := b.headSequenceNumber
  curFrameSize := 0
  sizeCalcIsFirst := true
  containStartForEarliestFrame := false
  headFrameIsContiguous := true
  lastNonNullIndex := 0
  lastHeadFrameSeqNum := 0
  seenHeadFramePacket := false
  firstGapIndex := 0
  sawGapSinceLastFrame := false
  headFrameEnded := false

def earliestAllowed (b : JitterBufferInternal) : UINT32 :=
  if b.tailTimestamp.toNat > b.maxLatency.toNat then
    BitVec.ofNat 32 (b.tailTimestamp.toNat - b.maxLatency.toNat)
  else 0

/-- How many numbers the scan has before it. -/
def windowLength (b : JitterBufferInternal) : Nat :=
  (b.tailSequenceNumber + 1 - b.headSequenceNumber).toNat

/-- The size of the last frame when the buffer is closed, up to the first gap: the number behind
what was counted, the size, and whether there was no gap; `none` when the depayloader fails. -/
def lastFrameLoop (depay : DepayRtpPayloadFunc) (table : PacketTable) :
    Nat → UINT16 → UINT32 → Bool → Option (UINT16 × UINT32 × Bool)
  | 0, index, size, _ => some (index, size, true)
  | n + 1, index, size, isFirst =>
    match table index with
    -- the number behind the gap is looked at as well
    | none => some (index + 1, size, false)
    | some p =>
      match depay.size (payloadBytes p) isFirst with
      | none => none
      | some (partialFrameSize, _) =>
        lastFrameLoop depay table n (index + 1) (size + partialFrameSize) false

/-- The part of the scan that only runs when the buffer is closed. -/
def closeLastFrame (depay : DepayRtpPayloadFunc) (answers : Nat → Bool) (s : ParseState) :
    ParseState × Bool :=
  let n := (s.lastNonNullIndex + 1 - s.startDropIndex).toNat
  match lastFrameLoop depay s.buffer.pPkgBufferHashTable n s.startDropIndex 0 true with
  | none => (s, false)
  | some (index, size, _) =>
    let event := if index - 1 = s.lastNonNullIndex then
        Event.ready s.startDropIndex s.lastNonNullIndex size
      else Event.dropped s.startDropIndex (index - 1) s.buffer.headTimestamp
    let (succeeded, s) := callBack answers s event
    let b := s.buffer
    if succeeded then
      ({ s with buffer :=
          defaultDropBufferData b s.startDropIndex s.lastNonNullIndex b.headTimestamp }, true)
    else (s, false)

/-- What a function of the buffer leaves: the buffer, the calls so far, and its status. -/
structure Result where
  buffer : JitterBufferInternal
  calls : List Call
  succeeded : Bool

def jitterBufferInternalParse (depay : DepayRtpPayloadFunc) (answers : Nat → Bool)
    (bufferClosed : Bool) (b : JitterBufferInternal) (calls : List Call) : Result :=
  if b.started then
    match parseLoop depay answers bufferClosed (earliestAllowed b) (windowLength b)
        (parseStart b calls) with
    | (s, .done succeeded) => ⟨s.buffer, s.calls, succeeded⟩
    | (s, _) =>
      if bufferClosed ∧ s.curFrameSize ≠ 0 then
        let (s, succeeded) := closeLastFrame depay answers s
        ⟨s.buffer, s.calls, succeeded⟩
      else ⟨s.buffer, s.calls, true⟩
  else ⟨b, calls, true⟩

/-! ## Pushing a packet -/

/-- The first packet sets head and tail. -/
def startBuffer (b : JitterBufferInternal) (p : InboundRtpPacket) : JitterBufferInternal :=
  if b.started then b
  else { b with
    started := true
    headSequenceNumber := p.header.sequenceNumber
    tailSequenceNumber := p.header.sequenceNumber
    headTimestamp := p.header.timestamp }

/-- Head and tail before the latency test. -/
def moveWindow (b : JitterBufferInternal) (p : InboundRtpPacket) : JitterBufferInternal :=
  let (entered, b) := enterSequenceNumberOverflowCheck b p
  let b := if entered then b else (tailSequenceNumberCheck b p).2
  let (entered, b) := enterTimestampOverflowCheck b p
  if entered then b else (tailTimestampCheck b p).2

/-- The packet goes into the table, and may become the head. -/
def storePacket (b : JitterBufferInternal) (p : InboundRtpPacket) : JitterBufferInternal :=
  let table := Function.update b.pPkgBufferHashTable p.header.sequenceNumber (some p)
  let b := { b with pPkgBufferHashTable := table }
  if headCheckingAllowed b p then
    let b := (headTimestampCheck b p).2
    (headSequenceNumberCheck b p).2
  else b

/-- A redundant copy does not replace the packet itself. -/
def keepsExisting (b : JitterBufferInternal) (p : InboundRtpPacket) : Bool :=
  match b.pPkgBufferHashTable p.header.sequenceNumber with
  | some q => !q.isSynthetic && p.isSynthetic
  | none => false

/-- What a push does before the scan: the buffer, whether the packet is discarded, and whether
there is a scan. -/
structure Insertion where
  buffer : JitterBufferInternal
  discarded : Bool
  scan : Bool

def insertPacket (b : JitterBufferInternal) (p : InboundRtpPacket) : Insertion :=
  let b := moveWindow (startBuffer b p) p
  let (within, b) := withinLatencyTolerance b p
  if within then
    if keepsExisting b p then ⟨b, true, false⟩ else ⟨storePacket b p, false, true⟩
  else ⟨b, true, true⟩

structure PushResult extends Result where
  discarded : Bool

def defaultPush (depay : DepayRtpPayloadFunc) (answers : Nat → Bool) (b : JitterBufferInternal)
    (calls : List Call) (p : InboundRtpPacket) : PushResult :=
  let i := insertPacket b p
  if i.scan then ⟨jitterBufferInternalParse depay answers false i.buffer calls, i.discarded⟩
  else ⟨⟨i.buffer, calls, true⟩, i.discarded⟩

/-- A buffer with what happened since it was created. -/
structure History where
  buffer : JitterBufferInternal
  calls : List Call
  /-- For each packet, whether it was discarded. -/
  discarded : List Bool

def History.push (depay : DepayRtpPayloadFunc) (answers : Nat → Bool) (h : History)
    (p : InboundRtpPacket) : History :=
  let r := defaultPush depay answers h.buffer h.calls p
  ⟨r.buffer, r.calls, h.discarded ++ [r.discarded]⟩

def pushAll (depay : DepayRtpPayloadFunc) (answers : Nat → Bool) (b : JitterBufferInternal)
    (ps : List InboundRtpPacket) : History :=
  ps.foldl (History.push depay answers) ⟨b, [], []⟩

theorem pushAll_concat (depay : DepayRtpPayloadFunc) (answers : Nat → Bool)
    (b : JitterBufferInternal) (ps : List InboundRtpPacket) (p : InboundRtpPacket) :
    pushAll depay answers b (ps ++ [p]) = (pushAll depay answers b ps).push depay answers p := by
  simp [pushAll]

/-! ## What the window functions leave alone -/

/-- Nothing but head, tail, their timestamps and the overflow states differs. -/
structure SameContent (b b' : JitterBufferInternal) : Prop where
  clockRate : b'.clockRate = b.clockRate
  maxLatency : b'.maxLatency = b.maxLatency
  started : b'.started = b.started
  firstFrameProcessed : b'.firstFrameProcessed = b.firstFrameProcessed
  alwaysSinglePacketFrames : b'.alwaysSinglePacketFrames = b.alwaysSinglePacketFrames
  table : b'.pPkgBufferHashTable = b.pPkgBufferHashTable

theorem SameContent.refl (b : JitterBufferInternal) : SameContent b b :=
  ⟨rfl, rfl, rfl, rfl, rfl, rfl⟩

theorem SameContent.trans {a b c : JitterBufferInternal} (h : SameContent a b)
    (h' : SameContent b c) : SameContent a c :=
  ⟨h'.1.trans h.1, h'.2.trans h.2, h'.3.trans h.3, h'.4.trans h.4, h'.5.trans h.5, h'.6.trans h.6⟩

section SameContent

variable (b : JitterBufferInternal) (p : InboundRtpPacket)

theorem headSequenceNumberCheck_content : SameContent b (headSequenceNumberCheck b p).2 := by
  unfold headSequenceNumberCheck
  dsimp only
  repeat' split
  all_goals exact ⟨rfl, rfl, rfl, rfl, rfl, rfl⟩

theorem tailSequenceNumberCheck_content : SameContent b (tailSequenceNumberCheck b p).2 := by
  unfold tailSequenceNumberCheck
  dsimp only
  repeat' split
  all_goals exact ⟨rfl, rfl, rfl, rfl, rfl, rfl⟩

theorem enterSequenceNumberOverflowCheck_content :
    SameContent b (enterSequenceNumberOverflowCheck b p).2 := by
  unfold enterSequenceNumberOverflowCheck
  repeat' split
  all_goals exact ⟨rfl, rfl, rfl, rfl, rfl, rfl⟩

theorem enterTimestampOverflowCheck_content :
    SameContent b (enterTimestampOverflowCheck b p).2 := by
  have htail := tailSequenceNumberCheck_content b p
  have hhead := headSequenceNumberCheck_content b p
  unfold enterTimestampOverflowCheck
  dsimp only
  split
  · exact .refl b
  · split
    · split
      · exact ⟨htail.1, htail.2, htail.3, htail.4, htail.5, htail.6⟩
      · exact htail
    · split
      · split
        · exact ⟨hhead.1, hhead.2, hhead.3, hhead.4, hhead.5, hhead.6⟩
        · exact hhead
      · exact .refl b

theorem headTimestampCheck_content : SameContent b (headTimestampCheck b p).2 := by
  have hhead := headSequenceNumberCheck_content b p
  unfold headTimestampCheck
  dsimp only
  split
  · split
    · exact ⟨hhead.1, hhead.2, hhead.3, hhead.4, hhead.5, hhead.6⟩
    · exact hhead
  · exact .refl b

theorem tailTimestampCheck_content : SameContent b (tailTimestampCheck b p).2 := by
  have htail := tailSequenceNumberCheck_content b p
  unfold tailTimestampCheck
  dsimp only
  split
  · split
    · exact ⟨htail.1, htail.2, htail.3, htail.4, htail.5, htail.6⟩
    · exact htail
  · exact .refl b

theorem withinLatencyTolerance_content : SameContent b (withinLatencyTolerance b p).2 := by
  have htail := tailTimestampCheck_content b p
  unfold withinLatencyTolerance
  dsimp only
  split
  · exact htail
  · exact htail

theorem moveWindow_content : SameContent b (moveWindow b p) := by
  unfold moveWindow
  dsimp only
  have h1 := enterSequenceNumberOverflowCheck_content b p
  generalize enterSequenceNumberOverflowCheck b p = r1 at h1 ⊢
  have h2 : SameContent b (if r1.1 then r1.2 else (tailSequenceNumberCheck r1.2 p).2) := by
    split
    · exact h1
    · exact h1.trans (tailSequenceNumberCheck_content r1.2 p)
  generalize (if r1.1 then r1.2 else (tailSequenceNumberCheck r1.2 p).2) = b2 at h2 ⊢
  have h3 := h2.trans (enterTimestampOverflowCheck_content b2 p)
  split
  · exact h3
  · exact h3.trans (tailTimestampCheck_content _ p)

end SameContent

theorem insertPacket_table (b : JitterBufferInternal) (p : InboundRtpPacket) :
    (insertPacket b p).buffer.pPkgBufferHashTable = b.pPkgBufferHashTable ∨
    (insertPacket b p).buffer.pPkgBufferHashTable =
      Function.update b.pPkgBufferHashTable p.header.sequenceNumber (some p) := by
  have hstart : (startBuffer b p).pPkgBufferHashTable = b.pPkgBufferHashTable := by
    unfold startBuffer
    split <;> rfl
  have hmove := ((moveWindow_content (startBuffer b p) p).trans
    (withinLatencyTolerance_content _ p)).table.trans hstart
  unfold insertPacket
  dsimp only
  split
  · split
    · exact .inl hmove
    · right
      unfold storePacket
      dsimp only
      split
      · rw [(headSequenceNumberCheck_content _ p).table, (headTimestampCheck_content _ p).table,
          hmove]
      · rw [hmove]
  · exact .inl hmove

/-! ## A sample packet -/

/-- A packet whose payload is one byte, 1 for the start of a frame. -/
def samplePacket (seq ts : Nat) (marker start : Bool) : InboundRtpPacket where
  header := {
    version := 2, padding := false, extension := false, marker := marker, payloadType := 96,
    sequenceNumber := BitVec.ofNat 16 seq, timestamp := BitVec.ofNat 32 ts, ssrc := 1,
    csrcArray := [], extensionProfile := 0, extensionPayload := [] }
  payload := [if start then 1 else 0]
  payloadLength := 1
  pRawPacket := []
  receivedTime := 0
  isSynthetic := false

end KvsWebrtc.Jitter
