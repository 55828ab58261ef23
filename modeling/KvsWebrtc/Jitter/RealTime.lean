import KvsWebrtc.Jitter.JitterBuffer
import KvsWebrtc.Lib.SerialNumber

/-!
# The real-time jitter buffer (`RealTimeJitterBuffer.c`)

Packets are kept in a ring indexed by sequence number, frames in a table indexed by timestamp whose
entries move when one is removed.  A push stores the packet, drops stale frames from the head and
hands over complete ones.

The table is the entries in use and, behind them, what the other slots still hold.  The calls of the
callbacks and of `freeRtpPacket` are recorded; the answers of `onFrameReadyFn`, one for each call, say
whether it drops the range it is given and whether it succeeds.  The depayloader is the two values
it leaves behind, whatever its status.
-/

namespace KvsWebrtc.Jitter

open Rtp

abbrev RT_MAX_FRAMES : Nat := 2048
abbrev RT_PKT_RING_SIZE : Nat := 4096
abbrev RT_PROCESSED_TS_RING_SIZE : Nat := 512

structure RtFrameEntry where
  timestamp : UINT32
  firstSeqNum : UINT16
  lastSeqNum : UINT16
  packetCount : UINT16
  hasStart : Bool
  hasEnd : Bool
  deriving DecidableEq, Repr

/-- A call of `onFrameReadyFn` or `onFrameDroppedFn`, with the frame it is made for. -/
inductive RtReport where
  | ready (frame : RtFrameEntry) (frameSize : UINT32)
  | dropped (frame : RtFrameEntry)
  deriving DecidableEq, Repr

def RtReport.frame : RtReport → RtFrameEntry
  | .ready frame _ => frame
  | .dropped frame => frame

/-- An answer of `onFrameReadyFn`: the next timestamp of its `jitterBufferDropBufferData` on the
delivered range, if it calls it, and its status. -/
structure ReadyAnswer where
  drops : Option UINT32
  succeeds : Bool

structure RealTimeJitterBuffer where
  maxLatency : UINT64
  tailTimestamp : UINT32
  started : Bool
  sequenceNumberOverflowState : Bool
  timestampOverFlowState : Bool
  alwaysSinglePacketFrames : Bool
  headSequenceNumber : UINT16
  tailSequenceNumber : UINT16
  headTimestamp : UINT32
  hasDelivered : Bool
  pktRing : Fin RT_PKT_RING_SIZE → Option InboundRtpPacket
  /-- The last `RT_PROCESSED_TS_RING_SIZE` timestamps, the newest in front. -/
  processedTimestamps : List UINT32
  frames : List RtFrameEntry
  stale : List RtFrameEntry
  reports : List RtReport
  freed : List InboundRtpPacket

/-- What the buffer is given: the depayloader without an output buffer, and the answers of
`onFrameReadyFn`. -/
structure RtCallbacks where
  depayPayload : Bytes → Bool → UINT32 × Bool
  onFrameReady : Nat → ReadyAnswer

/-- `createRealTimeJitterBuffer`; `none` when an argument is invalid. -/
def createRealTimeJitterBuffer (maxLatency clockRate : UINT32) (alwaysSinglePacketFrames : Bool) :
    Option RealTimeJitterBuffer :=
  if clockRate = 0 ∨ MAX_RTP_TIMESTAMP ≤ (scaledLatency maxLatency clockRate).toNat then none
  else some {
    maxLatency := scaledLatency maxLatency clockRate
    tailTimestamp := 0
    started := false
    sequenceNumberOverflowState := false
    timestampOverFlowState := false
    alwaysSinglePacketFrames := alwaysSinglePacketFrames
    headSequenceNumber := BitVec.ofNat 16 MAX_RTP_SEQUENCE_NUM
    tailSequenceNumber := BitVec.ofNat 16 MAX_RTP_SEQUENCE_NUM
    headTimestamp := BitVec.allOnes 32
    hasDelivered := false
    pktRing := fun _ => none
    processedTimestamps := []
    frames := []
    stale := []
    reports := []
    freed := [] }

/-! ## The ring of packets -/

/-- The slot of a sequence number. -/
def ringSlot (seq : UINT16) : Fin RT_PKT_RING_SIZE :=
  ⟨seq.toNat % RT_PKT_RING_SIZE, Nat.mod_lt _ (by decide)⟩

variable (b : RealTimeJitterBuffer)

/-- The packet of a sequence number, when its slot holds it. -/
def packetAt (seq : UINT16) : Option InboundRtpPacket :=
  match b.pktRing (ringSlot seq) with
  | some p => if p.header.sequenceNumber = seq then some p else none
  | none => none

def putPacket (p : InboundRtpPacket) : RealTimeJitterBuffer :=
  { b with pktRing := Function.update b.pktRing (ringSlot p.header.sequenceNumber) (some p) }

/-- `freeRtpPacket`. -/
def freePacket (p : InboundRtpPacket) : RealTimeJitterBuffer :=
  { b with freed := b.freed ++ [p] }

def freePacketAt (seq : UINT16) : RealTimeJitterBuffer :=
  match packetAt b seq with
  | some p =>
    { freePacket b p with pktRing := Function.update b.pktRing (ringSlot seq) none }
  | none => b

/-- How many rounds a loop from `first` through `last` makes. -/
def rangeLength (first last : UINT16) : Nat := Serial.ahead first last + 1

def freePackets : Nat → UINT16 → RealTimeJitterBuffer → RealTimeJitterBuffer
  | 0, _, b => b
  | n + 1, seq, b => freePackets n (seq + 1) (freePacketAt b seq)

def rtFreePacketsInRange (firstSeq lastSeq : UINT16) :
    RealTimeJitterBuffer :=
  freePackets (rangeLength firstSeq lastSeq) firstSeq b

/-- The sizes of the packets among `n` numbers from `seq` on; the depayloader is told which is the
first. -/
def sumSizes (depay : Bytes → Bool → UINT32 × Bool) (b : RealTimeJitterBuffer) :
    Nat → UINT16 → Bool → UINT32 → UINT32
  | 0, _, _, totalSize => totalSize
  | n + 1, seq, isFirst, totalSize =>
    match packetAt b seq with
    | some p =>
      sumSizes depay b n (seq + 1) false (totalSize + (depay (payloadBytes p) isFirst).1)
    | none => sumSizes depay b n (seq + 1) isFirst totalSize

def rtCalcFrameSize (depay : Bytes → Bool → UINT32 × Bool) (b : RealTimeJitterBuffer)
    (firstSeq lastSeq : UINT16) : UINT32 :=
  sumSizes depay b (rangeLength firstSeq lastSeq) firstSeq true 0

/-! ## The table of frames -/

def rtMarkTimestampProcessed (timestamp : UINT32) :
    RealTimeJitterBuffer :=
  { b with processedTimestamps :=
      (timestamp :: b.processedTimestamps).take RT_PROCESSED_TS_RING_SIZE }

def rtIsTimestampProcessed (timestamp : UINT32) : Bool :=
  b.processedTimestamps.contains timestamp

def rtFindFrame (timestamp : UINT32) : Option Nat :=
  b.frames.findIdx? fun f => f.timestamp = timestamp

/-- The last entry moves to the slot of the one removed. -/
def rtRemoveFrame (index : Nat) : RealTimeJitterBuffer :=
  match b.frames.getLast? with
  | none => b
  | some moved =>
    let frames := if index < b.frames.length - 1 then b.frames.set index moved else b.frames
    { b with frames := frames.dropLast, stale := moved :: b.stale }

/-- Change an entry. -/
def updateFrame (index : Nat) (f : RtFrameEntry → RtFrameEntry) :
    RealTimeJitterBuffer :=
  { b with frames := b.frames.modify index f }

/-- In overflow state a timestamp in front of the head has wrapped. -/
def tsWrapped (timestamp : UINT32) : Bool := timestamp < b.headTimestamp

def rtTimestampAge (timestamp : UINT32) : UINT32 :=
  if b.timestampOverFlowState then
    if tsWrapped b timestamp = tsWrapped b b.tailTimestamp then
      if timestamp ≤ b.tailTimestamp then b.tailTimestamp - timestamp else 0
    else BitVec.ofNat 32 MAX_RTP_TIMESTAMP - timestamp + b.tailTimestamp + 1
  else if timestamp ≤ b.tailTimestamp then b.tailTimestamp - timestamp
  else 0

/-- Older, equal or newer. -/
def rtTimestampCompare (x y : UINT32) : Ordering :=
  if x = y then .eq
  else if b.timestampOverFlowState && tsWrapped b x && !tsWrapped b y then .gt
  else if b.timestampOverFlowState && !tsWrapped b x && tsWrapped b y then .lt
  else if x < y then .lt
  else .gt

def rtFrameIsComplete (f : RtFrameEntry) : Bool :=
  if b.alwaysSinglePacketFrames then 0 < f.packetCount
  else if !f.hasStart || !f.hasEnd then false
  else f.packetCount = f.lastSeqNum - f.firstSeqNum + 1

/-- The earliest frame of the list and its index, against the best one so far. -/
def earliestFrom (b : RealTimeJitterBuffer) :
    List RtFrameEntry → Nat → Nat × RtFrameEntry → Nat × RtFrameEntry
  | [], _, best => best
  | f :: rest, i, best =>
    earliestFrom b rest (i + 1)
      (if rtTimestampCompare b f.timestamp best.2.timestamp = .lt then (i, f) else best)

/-- `rtFindEarliestFrameIdx`, with the entry at the index. -/
def rtFindEarliestFrame : Option (Nat × RtFrameEntry) :=
  match b.frames with
  | [] => none
  | f :: rest => some (earliestFrom b rest 1 (0, f))

/-- The frame behind a timestamp that comes next, against the best one so far. -/
def nextFenceFrom (b : RealTimeJitterBuffer) (currentTimestamp : UINT32) :
    List RtFrameEntry → Option RtFrameEntry → Option RtFrameEntry
  | [], best => best
  | f :: rest, best =>
    nextFenceFrom b currentTimestamp rest
      (if f.timestamp ≠ currentTimestamp ∧
          rtTimestampCompare b f.timestamp currentTimestamp = .gt ∧
          best.all (fun g => rtTimestampCompare b f.timestamp g.timestamp = .lt) then some f
        else best)

def rtFindNextFrameFence (currentTimestamp : UINT32) : Option UINT16 :=
  (nextFenceFrom b currentTimestamp b.frames none).map (·.firstSeqNum)

/-- The packets present among `n` numbers, up to one of another frame, and whether there is a gap. -/
def fenceScan (b : RealTimeJitterBuffer) (expectedTimestamp : UINT32) :
    Nat → UINT16 → UINT16 → UINT16 × Bool
  | 0, _, present => (present, false)
  | n + 1, seq, present =>
    match packetAt b seq with
    | none => (present, true)
    | some p =>
      if p.header.timestamp ≠ expectedTimestamp then (present, false)
      else fenceScan b expectedTimestamp n (seq + 1) (present + 1)

def rtFenceScan (startSeq fenceSeq : UINT16)
    (expectedTimestamp : UINT32) : UINT16 × Bool :=
  fenceScan b expectedTimestamp (Serial.ahead startSeq fenceSeq) startSeq 0

/-- The entry afterwards. -/
def rtTryMarkFrameComplete (fenceSeq : UINT16) (f : RtFrameEntry) :
    RtFrameEntry :=
  let slotsInRange := Serial.ahead f.firstSeqNum fenceSeq
  if slotsInRange = 0 ∨ 1000 < slotsInRange then f
  else
    let (present, gapFound) := rtFenceScan b f.firstSeqNum fenceSeq f.timestamp
    if !gapFound && present = f.packetCount then
      { f with hasEnd := true, lastSeqNum := fenceSeq - 1 }
    else f

/-- The overflow states end when head and tail are on one side again. -/
def exitOverflow : RealTimeJitterBuffer :=
  { b with
    timestampOverFlowState := b.timestampOverFlowState && b.tailTimestamp < b.headTimestamp
    sequenceNumberOverflowState :=
      b.sequenceNumberOverflowState && b.tailSequenceNumber < b.headSequenceNumber }

def rtUpdateHead : RealTimeJitterBuffer :=
  match rtFindEarliestFrame b with
  | none =>
    { b with
      headTimestamp := b.tailTimestamp
      headSequenceNumber := b.tailSequenceNumber
      timestampOverFlowState := false
      sequenceNumberOverflowState := false }
  | some (_, f) =>
    exitOverflow { b with headTimestamp := f.timestamp, headSequenceNumber := f.firstSeqNum }

/-! ## Dropping data -/

/-- A packet of the range is freed, and no longer counted in the frame of its timestamp. -/
def dropPacketAt (index : UINT16) : RealTimeJitterBuffer :=
  match packetAt b index with
  | none => b
  | some p =>
    let b := match rtFindFrame b p.header.timestamp with
      | none => b
      | some fi => updateFrame b fi fun f =>
        if 0 < f.packetCount then { f with packetCount := f.packetCount - 1 } else f
    freePacketAt b index

def dropPackets : Nat → UINT16 → RealTimeJitterBuffer → RealTimeJitterBuffer
  | 0, _, b => b
  | n + 1, index, b => dropPackets n (index + 1) (dropPacketAt b index)

/-- Whether a packet is left in the range of a frame. -/
def hasRemaining (f : RtFrameEntry) : Bool :=
  (Serial.numbers f.firstSeqNum (rangeLength f.firstSeqNum f.lastSeqNum)).any fun seq =>
    (packetAt b seq).isSome

/-- Remove the frames without a packet from the `i`-th on; an entry that has moved to `i` is looked
at as well. -/
def removeEmpty : Nat → Nat → RealTimeJitterBuffer → RealTimeJitterBuffer
  | 0, _, b => b
  | fuel + 1, i, b =>
    match b.frames[i]? with
    | none => b
    | some f =>
      if hasRemaining b f then removeEmpty fuel (i + 1) b
      else removeEmpty fuel i (rtRemoveFrame b i)

def rtDropBufferData (startIndex endIndex : UINT16)
    (nextTimestamp : UINT32) : RealTimeJitterBuffer :=
  let b := dropPackets (rangeLength startIndex endIndex) startIndex b
  let b := removeEmpty b.frames.length 0 b
  let b := { b with
    headSequenceNumber := endIndex + 1
    headTimestamp := if nextTimestamp ≠ 0 then nextTimestamp else b.headTimestamp }
  exitOverflow (if b.frames = [] then b else rtUpdateHead b)

/-! ## Pushing: overflow tracking -/

/-- The first packet sets head and tail. -/
def rtStart (p : InboundRtpPacket) : RealTimeJitterBuffer :=
  if b.started then b
  else { b with
    started := true
    headSequenceNumber := p.header.sequenceNumber
    tailSequenceNumber := p.header.sequenceNumber
    headTimestamp := p.header.timestamp
    tailTimestamp := p.header.timestamp }

/-- The sequence number enters the overflow state, from either side. -/
def enterSequenceOverflow (seq : UINT16) : RealTimeJitterBuffer :=
  if b.sequenceNumberOverflowState then b
  else
    let packetsUntilOverflow := MAX_RTP_SEQUENCE_NUM - b.tailSequenceNumber.toNat
    if packetsUntilOverflow ≤ 512 ∧ seq < b.tailSequenceNumber ∧
        seq.toNat ≤ 512 - packetsUntilOverflow then
      { b with sequenceNumberOverflowState := true, tailSequenceNumber := seq }
    else if b.headSequenceNumber.toNat < 512 ∧ 65535 - 512 ≤ seq.toNat ∧
        b.tailSequenceNumber < seq then
      { b with sequenceNumberOverflowState := true, headSequenceNumber := seq }
    else b

def moveTailSequence (seq : UINT16) : RealTimeJitterBuffer :=
  if b.sequenceNumberOverflowState then
    let distFromTail := Serial.ahead b.tailSequenceNumber seq
    if 0 < distFromTail ∧ distFromTail < 512 then { b with tailSequenceNumber := seq } else b
  else if b.tailSequenceNumber < seq then { b with tailSequenceNumber := seq } else b

/-- The timestamp enters the overflow state: a smaller one with the newest sequence number has
wrapped, a larger one with an older sequence number is from before the wrap. -/
def enterTimestampOverflow (p : InboundRtpPacket) :
    RealTimeJitterBuffer :=
  let timestamp := p.header.timestamp
  let seq := p.header.sequenceNumber
  if b.timestampOverFlowState then b
  else if timestamp < b.tailTimestamp ∧ timestamp < b.headTimestamp then
    if seq = b.tailSequenceNumber then
      { b with timestampOverFlowState := true, tailTimestamp := timestamp }
    else b
  else if b.headTimestamp < timestamp ∧ b.tailTimestamp < timestamp then
    let distFromHead := Serial.ahead seq b.headSequenceNumber
    if 0 < distFromHead ∧ distFromHead < 512 then
      { b with
        timestampOverFlowState := true
        headTimestamp := timestamp
        headSequenceNumber := seq }
    else b
  else b

def moveTailTimestamp (timestamp : UINT32) : RealTimeJitterBuffer :=
  if b.timestampOverFlowState then
    if rtTimestampCompare b timestamp b.tailTimestamp = .gt then
      { b with tailTimestamp := timestamp }
    else b
  else if b.tailTimestamp < timestamp then { b with tailTimestamp := timestamp } else b

/-- Head, tail and the overflow states before the packet is looked at further. -/
def rtTrack (p : InboundRtpPacket) : RealTimeJitterBuffer :=
  let b := rtStart b p
  let b := moveTailSequence (enterSequenceOverflow b p.header.sequenceNumber)
    p.header.sequenceNumber
  moveTailTimestamp (enterTimestampOverflow b p) p.header.timestamp

/-! ## Pushing: storing -/

/-- A new entry for the packet; the frames without an end that are older are closed by it. -/
def openFrame (p : InboundRtpPacket) : RealTimeJitterBuffer :=
  let timestamp := p.header.timestamp
  let seq := p.header.sequenceNumber
  let b := { b with
    frames := b.frames ++ [⟨timestamp, seq, seq, 0, false, false⟩]
    stale := b.stale.tail }
  let b := if rtTimestampCompare b timestamp b.headTimestamp = .lt then
      { b with headTimestamp := timestamp, headSequenceNumber := seq }
    else b
  { b with frames := b.frames.map fun f =>
      if f.timestamp ≠ timestamp ∧ !f.hasEnd ∧
          rtTimestampCompare b f.timestamp timestamp = .lt then
        rtTryMarkFrameComplete b seq f
      else f }

/-- The range of sequence numbers of a frame grows on the nearer side. -/
def extendRange (seq : UINT16) (f : RtFrameEntry) : RtFrameEntry :=
  if Serial.ahead f.firstSeqNum f.lastSeqNum < Serial.ahead f.firstSeqNum seq then
    if Serial.ahead seq f.firstSeqNum < Serial.ahead f.lastSeqNum seq then
      { f with firstSeqNum := seq }
    else { f with lastSeqNum := seq }
  else f

/-- The entry with the packet counted. -/
def countPacketIn (depay : Bytes → Bool → UINT32 × Bool) (p : InboundRtpPacket)
    (f : RtFrameEntry) : RtFrameEntry :=
  let f := extendRange p.header.sequenceNumber { f with packetCount := f.packetCount + 1 }
  { f with
    hasStart := f.hasStart || (depay (payloadBytes p) true).2
    hasEnd := f.hasEnd || p.header.marker }

/-- A late packet may have completed its own frame. -/
def closeByNext (index : Nat) : RealTimeJitterBuffer :=
  updateFrame b index fun f =>
    if !f.hasEnd && f.hasStart && 1 < b.frames.length then
      match rtFindNextFrameFence b f.timestamp with
      | none => f
      | some fence => rtTryMarkFrameComplete b fence f
    else f

/-- It may have moved the fence of older frames. -/
def closeOlder (myFirstSeq : UINT16) (myTimestamp : UINT32) :
    RealTimeJitterBuffer :=
  if 1 < b.frames.length then
    { b with frames := b.frames.map fun f =>
        if f.timestamp = myTimestamp || f.hasEnd then f
        else if rtTimestampCompare b f.timestamp myTimestamp ≠ .lt then f
        else if rtFindNextFrameFence b f.timestamp ≠ some myFirstSeq then f
        else rtTryMarkFrameComplete b myFirstSeq f }
  else b

def moveHeadSequence (p : InboundRtpPacket) : RealTimeJitterBuffer :=
  if p.header.timestamp = b.headTimestamp then
    let distNew := Serial.ahead p.header.sequenceNumber b.headSequenceNumber
    if 0 < distNew ∧ distNew < 512 then
      { b with headSequenceNumber := p.header.sequenceNumber }
    else b
  else b

/-- The packet is counted in the entry at an index. -/
def addToFrame (depay : Bytes → Bool → UINT32 × Bool) (b : RealTimeJitterBuffer)
    (p : InboundRtpPacket) (index : Nat) : RealTimeJitterBuffer :=
  let b := updateFrame b index (countPacketIn depay p)
  let b := closeByNext b index
  let b := match b.frames[index]? with
    | none => b
    | some f => closeOlder b f.firstSeqNum f.timestamp
  moveHeadSequence b p

/-- What storing a packet ends with.  A full table leaves the packet in the ring. -/
structure RtStored where
  buffer : RealTimeJitterBuffer
  discarded : Bool
  succeeded : Bool

/-- From the latency test on, up to the eviction pass. -/
def rtStore (depay : Bytes → Bool → UINT32 × Bool) (b : RealTimeJitterBuffer)
    (p : InboundRtpPacket) : RtStored :=
  if b.maxLatency < (rtTimestampAge b p.header.timestamp).zeroExtend 64 then
    ⟨freePacket b p, true, true⟩
  else
    match packetAt b p.header.sequenceNumber with
    | some existing =>
      if !existing.isSynthetic && p.isSynthetic then ⟨freePacket b p, true, true⟩
      else ⟨putPacket (freePacket b existing) p, false, true⟩
    | none =>
      match rtFindFrame b p.header.timestamp with
      | some index => ⟨addToFrame depay (putPacket b p) p index, false, true⟩
      | none =>
        if rtIsTimestampProcessed b p.header.timestamp then ⟨freePacket b p, true, true⟩
        else if RT_MAX_FRAMES ≤ b.frames.length then ⟨putPacket b p, false, false⟩
        else
          ⟨addToFrame depay (openFrame (putPacket b p) p) p b.frames.length, false, true⟩

/-! ## Pushing: eviction and delivery -/

/-- The earliest frame is dropped when it is stale and not complete. -/
def evictHead : Option RealTimeJitterBuffer :=
  match rtFindEarliestFrame b with
  | none => none
  | some (index, f) =>
    if b.maxLatency < (rtTimestampAge b f.timestamp).zeroExtend 64 ∧ !rtFrameIsComplete b f then
      let b := rtMarkTimestampProcessed b f.timestamp
      let b := { b with reports := b.reports ++ [.dropped f] }
      let b := rtRemoveFrame (rtFreePacketsInRange b f.firstSeqNum f.lastSeqNum) index
      some (rtUpdateHead { b with hasDelivered := true })
    else none

/-- The eviction pass; a round takes one frame out. -/
def evictStale : Nat → RealTimeJitterBuffer → RealTimeJitterBuffer
  | 0, b => b
  | fuel + 1, b =>
    match evictHead b with
    | none => b
    | some b' => evictStale fuel b'

/-- What `onFrameReadyFn` does to the buffer. -/
def callFrameReady (answer : ReadyAnswer) (f : RtFrameEntry) (b : RealTimeJitterBuffer) :
    RealTimeJitterBuffer :=
  match answer.drops with
  | none => b
  | some nextTimestamp => rtDropBufferData b f.firstSeqNum f.lastSeqNum nextTimestamp

/-- Free and remove the frame of a timestamp, when it is there. -/
def removeReported (timestamp : UINT32) : RealTimeJitterBuffer :=
  match rtFindFrame b timestamp with
  | none => b
  | some index =>
    match b.frames[index]? with
    | none => b
    | some f => rtRemoveFrame (rtFreePacketsInRange b f.firstSeqNum f.lastSeqNum) index

/-- A round of the delivery pass. -/
inductive Delivery where
  | stopped
  | failed (b : RealTimeJitterBuffer)
  | delivered (b : RealTimeJitterBuffer)

/-- The earliest frame is handed over when it is complete.  The first one of all waits for a second
frame, unless a frame is a single packet. -/
def deliverHead (cb : RtCallbacks) (b : RealTimeJitterBuffer) : Delivery :=
  match rtFindEarliestFrame b with
  | none => .stopped
  | some (_, f) =>
    if rtFrameIsComplete b f then
      if !b.hasDelivered && !b.alwaysSinglePacketFrames && b.frames.length ≤ 1 then .stopped
      else
        let b := rtMarkTimestampProcessed b f.timestamp
        let frameSize := rtCalcFrameSize cb.depayPayload b f.firstSeqNum f.lastSeqNum
        let answer := cb.onFrameReady b.reports.length
        let b := callFrameReady answer f { b with reports := b.reports ++ [.ready f frameSize] }
        if answer.succeeds then
          .delivered (rtUpdateHead { removeReported b f.timestamp with hasDelivered := true })
        else .failed b
    else .stopped

/-- The delivery pass, and whether it ends without an error. -/
def deliverComplete (cb : RtCallbacks) : Nat → RealTimeJitterBuffer → RealTimeJitterBuffer × Bool
  | 0, b => (b, true)
  | fuel + 1, b =>
    match deliverHead cb b with
    | .stopped => (b, true)
    | .failed b' => (b', false)
    | .delivered b' => deliverComplete cb fuel b'

structure RtPushResult where
  buffer : RealTimeJitterBuffer
  discarded : Bool
  succeeded : Bool

def rtPush (cb : RtCallbacks) (b : RealTimeJitterBuffer) (p : InboundRtpPacket) : RtPushResult :=
  let stored := rtStore cb.depayPayload (rtTrack b p) p
  if stored.succeeded then
    let b := evictStale stored.buffer.frames.length stored.buffer
    let (b, succeeded) := deliverComplete cb b.frames.length b
    ⟨b, stored.discarded, succeeded⟩
  else ⟨stored.buffer, stored.discarded, false⟩

/-! ## Destroying -/

/-- Before the flush: the `i`-th frame is closed by the next one, the last frame by its count. -/
def closeAt (i : Nat) : RealTimeJitterBuffer :=
  updateFrame b i fun f =>
    if f.hasEnd then f
    else
      match rtFindNextFrameFence b f.timestamp with
      | some fence => rtTryMarkFrameComplete b fence f
      | none =>
        if f.packetCount = f.lastSeqNum - f.firstSeqNum + 1 then { f with hasEnd := true } else f

def closeFrames : RealTimeJitterBuffer :=
  (List.range b.frames.length).foldl closeAt b

/-- A round of the flush.  Behind the callback the timestamp is read again from the slot of the
frame, whatever entry that holds by then. -/
def flushHead (cb : RtCallbacks) (b : RealTimeJitterBuffer) : RealTimeJitterBuffer :=
  match rtFindEarliestFrame b with
  | none => b
  | some (index, f) =>
    if rtFrameIsComplete b f then
      let frameSize := rtCalcFrameSize cb.depayPayload b f.firstSeqNum f.lastSeqNum
      let answer := cb.onFrameReady b.reports.length
      let b := callFrameReady answer f { b with reports := b.reports ++ [.ready f frameSize] }
      match (b.frames ++ b.stale)[index]? with
      | none => b
      | some slot => removeReported b slot.timestamp
    else
      let b := { b with reports := b.reports ++ [.dropped f] }
      rtRemoveFrame (rtFreePacketsInRange b f.firstSeqNum f.lastSeqNum) index

/-- The loop `while (frameCount > 0)`; `none` when it does not end in time. -/
def flushFrames (cb : RtCallbacks) : Nat → RealTimeJitterBuffer → Option RealTimeJitterBuffer
  | 0, b => if b.frames = [] then some b else none
  | fuel + 1, b => if b.frames = [] then some b else flushFrames cb fuel (flushHead cb b)

/-- The buffer just before its memory is freed. -/
def rtDestroy (cb : RtCallbacks) (b : RealTimeJitterBuffer) : Option RealTimeJitterBuffer :=
  if b.started && !b.frames.isEmpty then flushFrames cb b.frames.length (closeFrames b)
  else some b

end KvsWebrtc.Jitter
