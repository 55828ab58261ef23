import KvsWebrtc.Sctp.Packet

/-!
# The SCTP association (`SctpAssoc.c`)

Every function of the source under its own name, as a function on `Host`: the association record
together with what surrounds it — the readings of the clock to come, the packets handed to
`outboundFn` and the calls of `messageFn`, oldest first.  All functions of the source return
`STATUS_SUCCESS`, so the status is left out.

Four ghost fields observe a run without influencing it: `tsnsUsed` counts the TSNs taken from
`nextTsn`, `firstTx` remembers for each outstanding slot which packet first carried its chunk,
`underflow` is set when an unsigned decrement of a counter or of `flightSize` wraps, and `overrun`
when a packet does not fit `outPacket[]`.  Each packet in `outbound` is also tagged with its
`Origin`.
-/

namespace KvsWebrtc.Sctp

/-- The bytes `[offset, offset + len)` of a message, as `sctpAssocSend` sends them.  `tsnNo` counts
the TSNs taken before. -/
structure Slice where
  msg : SctpMessage
  tsnNo : Nat
  ssn : UINT16
  offset : Nat
  len : Nat
  deriving DecidableEq, Repr

/-- Why a packet was sent. -/
inductive Origin where
  /-- A packet without user data, other than a FORWARD-TSN. -/
  | control
  /-- A FORWARD-TSN. -/
  | forwardTsn (newCumTsn : UINT32)
  /-- A slice of a message, sent for the first time by `sctpAssocSend`. -/
  | transmission (sl : Slice)
  /-- A retransmission of the chunk first sent by packet number `first`. -/
  | retransmission (first : Nat)
  deriving DecidableEq, Repr

/-- A packet without user data. -/
def Origin.isControl : Origin → Bool
  | control => true
  | forwardTsn _ => true
  | _ => false

structure OutPacket where
  bytes : Bytes
  origin : Origin
  deriving DecidableEq, Repr

/-- One call of `messageFn`. -/
structure Delivery where
  streamId : UINT16
  ppid : UINT32
  payload : Bytes
  deriving DecidableEq, Repr

structure Host where
  assoc : SctpAssociation
  clock : Nat → UINT64
  outbound : List OutPacket
  delivered : List Delivery
  tsnsUsed : Nat
  firstTx : SlotTable Nat SCTP_MAX_OUTSTANDING
  underflow : Bool
  overrun : Bool

/-! ## Clock, tags and the outbound packet -/

variable (h : Host)

/-- The reading of `SCTP_NOW_MS()` at this point. -/
def Host.SCTP_NOW_MS : UINT64 :=
  h.clock 0 / (10 * HUNDREDS_OF_NANOS_IN_A_MILLISECOND)

/-- The clock was read. -/
def Host.tick : Host := { h with clock := fun n => h.clock (n + 1) }

/-- `sctpGenerateTag` on the next two clock readings. -/
def sctpGenerateTag (clock : Nat → UINT64) : UINT32 :=
  let tag := (clock 0).setWidth 32 ^^^ (clock 1 >>> 32).setWidth 32
  if tag = 0 then 0x12345678 else tag

/-- The writers have stored `written` at the start of `outPacket[]` before the call, and none asks
whether it fits.  A packet of more than `SCTP_MAX_PACKET_SIZE` bytes overwrites the fields that
follow the array, with which the model does not go on: it sets `overrun`, and what it says of the
association holds as long as that is not set. -/
def sctpSendPacket (written : Bytes) (packetLen : Nat) (origin : Origin) : Host :=
  let outPacket := sctpFinalizePacket (written ++ h.assoc.outPacket.drop written.length) packetLen
  { h with
    assoc.outPacket := outPacket
    outbound := h.outbound ++ [⟨outPacket.take packetLen, origin⟩]
    overrun := h.overrun || SCTP_MAX_PACKET_SIZE < packetLen }

/-- The common header with `vtag`, one chunk, and `sctpSendPacket`. -/
def sendChunk (vtag : UINT32) (w : Written) (origin : Origin) : Host :=
  sctpSendPacket h (sctpWriteCommonHeader h.assoc.localPort h.assoc.remotePort vtag ++ w.bytes)
    (SCTP_COMMON_HEADER_SIZE + w.size) origin

/-! ## Sending -/

/-- The pending-queue block of `sctpAssocSend` (it stands there twice). -/
def queuePending (m : SctpMessage) : Host :=
  if h.assoc.pendingQueueCount.toNat < SCTP_MAX_PENDING_SENDS then
    match h.assoc.pendingQueue.firstFree (·.inUse) with
    | none => h
    | some slot =>
      { h with
        assoc.pendingQueue := h.assoc.pendingQueue.set slot ⟨m, true⟩
        assoc.pendingQueueCount := h.assoc.pendingQueueCount + 1 }
  else h

/-- The block of `sctpAssocSend` for a state other than ESTABLISHED. -/
def queueSend (m : SctpMessage) : Host :=
  if h.assoc.sendQueueCount.toNat < SCTP_MAX_QUEUED_MESSAGES ∧
      m.payload.length ≤ SCTP_MAX_QUEUED_PAYLOAD then
    match h.assoc.sendQueue.firstFree (·.inUse) with
    | none => h
    | some i =>
      { h with
        assoc.sendQueue := h.assoc.sendQueue.set i ⟨m, true⟩
        assoc.sendQueueCount := h.assoc.sendQueueCount + 1 }
  else h

/-- `nextSsn[streamId] += d` for an ordered message on a stream the table covers. -/
def addNextSsn (m : SctpMessage) (d : UINT16) : Host :=
  if hs : ¬ m.unordered ∧ m.streamId.toNat < SCTP_MAX_STREAMS then
    { h with
      assoc.nextSsn := h.assoc.nextSsn.set ⟨m.streamId.toNat, hs.2⟩
        (h.assoc.nextSsn.get ⟨m.streamId.toNat, hs.2⟩ + d) }
  else h

/-- The SSN an ordered message gets; 0 for the others. -/
def assignedSsn (m : SctpMessage) : UINT16 :=
  if hs : ¬ m.unordered ∧ m.streamId.toNat < SCTP_MAX_STREAMS then
    h.assoc.nextSsn.get ⟨m.streamId.toNat, hs.2⟩
  else 0

def maxDataPayload : UINT32 :=
  h.assoc.mtu.setWidth 32 - BitVec.ofNat 32 SCTP_COMMON_HEADER_SIZE -
    BitVec.ofNat 32 SCTP_DATA_HEADER_SIZE

/-- Take the next TSN. -/
def takeTsn : Host :=
  { h with assoc.nextTsn := h.assoc.nextTsn + 1, tsnsUsed := h.tsnsUsed + 1 }

/-- What `sctpAssocSend` stores about one chunk. -/
def sentChunk (m : SctpMessage) (tsn : UINT32) (ssn : UINT16) (fragment : Bytes)
    (nowMs : UINT64) : SctpOutstandingData where
  tsn := tsn
  streamId := m.streamId
  ssn := ssn
  ppid := m.ppid
  payload := some fragment
  payloadLen := BitVec.ofNat 32 fragment.length
  unordered := m.unordered
  sentTime := nowMs
  retransmitCount := 0
  acked := false
  abandoned := false
  maxRetransmits := m.maxRetransmits
  lifetimeMs := m.lifetimeMs
  creationTime := nowMs
  inUse := true

/-- Fill slot `i` of `outstanding[]` with one chunk. -/
def storeOutstanding (i : Fin SCTP_MAX_OUTSTANDING) (m : SctpMessage) (tsn : UINT32)
    (ssn : UINT16) (fragment : Bytes) (nowMs : UINT64) : Host :=
  { h with
    assoc.outstanding := h.assoc.outstanding.set i (sentChunk m tsn ssn fragment nowMs)
    assoc.outstandingCount := h.assoc.outstandingCount + 1
    assoc.flightSize := h.assoc.flightSize + BitVec.ofNat 32 fragment.length
    firstTx := h.firstTx.set i h.outbound.length }

/-- Start T3-rtx if it is not running. -/
def startT3 (nowMs : UINT64) : Host :=
  if h.assoc.t3RtxExpiry = 0 then
    { h with assoc.t3RtxExpiry := nowMs + h.assoc.rtoMs.setWidth 64 }
  else h

/-- The single-chunk branch of `sctpAssocSend` once slot `i` was found. -/
def sendWhole (i : Fin SCTP_MAX_OUTSTANDING) (m : SctpMessage) (ssn : UINT16)
    (nowMs : UINT64) : Host :=
  let tsn := h.assoc.nextTsn
  let h1 := storeOutstanding (takeTsn h) i m tsn ssn m.payload nowMs
  let h2 := sendChunk h1 h1.assoc.peerVerificationTag
    (sctpWriteDataChunk tsn m.streamId ssn m.ppid m.unordered m.payload)
    (.transmission ⟨m, h.tsnsUsed, ssn, 0, m.payload.length⟩)
  startT3 h2 nowMs

/-- The flags of one fragment. -/
def fragFlags (isFirst isLast unordered : Bool) : UINT8 :=
  (if isFirst then SCTP_DATA_FLAG_BEGIN else 0) ||| (if isLast then SCTP_DATA_FLAG_END else 0) |||
    (if unordered then SCTP_DATA_FLAG_UNORDERED else 0)

/-- The length of the fragment that starts at byte `offset`. -/
def fragmentLen (m : SctpMessage) (offset : Nat) : Nat :=
  let remaining := m.payload.length - offset
  if remaining > (maxDataPayload h).toNat then (maxDataPayload h).toNat else remaining

/-- One round of the fragmentation loop once slot `i` was found. -/
def sendFragment (i : Fin SCTP_MAX_OUTSTANDING) (m : SctpMessage) (ssn : UINT16)
    (nowMs : UINT64) (offset : Nat) (isFirst : Bool) : Host :=
  let len := fragmentLen h m offset
  let isLast : Bool := m.payload.length - offset - len = 0
  let fragment := (m.payload.drop offset).take len
  let tsn := h.assoc.nextTsn
  let h1 := storeOutstanding (takeTsn h) i m tsn ssn fragment nowMs
  sendChunk h1 h1.assoc.peerVerificationTag
    (writeDataChunk (fragFlags isFirst isLast m.unordered) tsn m.streamId ssn m.ppid fragment)
    (.transmission ⟨m, h.tsnsUsed, ssn, offset, len⟩)

/-- The fragmentation loop of `sctpAssocSend` from byte `offset` on.  A round takes a TSN before it
looks for a slot, and leaves the loop when the table is full.  Every round fills a slot, so
`SCTP_MAX_OUTSTANDING + 1` rounds are never all used. -/
def sendFragments : Nat → Host → SctpMessage → UINT16 → UINT64 → Nat → Bool → Host
  | 0, h, _, _, _, _, _ => h
  | fuel + 1, h, m, ssn, nowMs, offset, isFirst =>
    if m.payload.length - offset = 0 then startT3 h nowMs else
    match (takeTsn h).assoc.outstanding.firstFree (·.inUse) with
    | none => takeTsn h
    | some i =>
      sendFragments fuel (sendFragment h i m ssn nowMs offset isFirst) m ssn nowMs
        (offset + fragmentLen h m offset) false

def sctpAssocSend (m : SctpMessage) : Host :=
  let nowMs := h.SCTP_NOW_MS
  let h := h.tick
  if h.assoc.state ≠ .ESTABLISHED then queueSend h m
  else if h.assoc.flightSize ≥ h.assoc.cwnd ∨ h.assoc.flightSize ≥ h.assoc.peerArwnd then
    queuePending h m
  else
    let ssn := assignedSsn h m
    let h1 := addNextSsn h m 1
    if m.payload.length ≤ (maxDataPayload h1).toNat then
      match h1.assoc.outstanding.firstFree (·.inUse) with
      | none => queuePending (addNextSsn h1 m (-1)) m
      | some i => sendWhole h1 i m ssn nowMs
    else sendFragments (SCTP_MAX_OUTSTANDING + 1) h1 m ssn nowMs 0 true

theorem sctpAssocSend_whole {h : Host} {m : SctpMessage} {i : Fin SCTP_MAX_OUTSTANDING}
    (hst : h.assoc.state = .ESTABLISHED)
    (hwin : ¬ (h.assoc.flightSize ≥ h.assoc.cwnd ∨ h.assoc.flightSize ≥ h.assoc.peerArwnd))
    (hfit : m.payload.length ≤ (maxDataPayload (addNextSsn h.tick m 1)).toNat)
    (hfree : (addNextSsn h.tick m 1).assoc.outstanding.firstFree (·.inUse) = some i) :
    sctpAssocSend h m =
      sendWhole (addNextSsn h.tick m 1) i m (assignedSsn h.tick m) h.SCTP_NOW_MS := by
  have hwin' : ¬ (h.tick.assoc.flightSize ≥ h.tick.assoc.cwnd ∨
      h.tick.assoc.flightSize ≥ h.tick.assoc.peerArwnd) := hwin
  unfold sctpAssocSend
  rw [if_neg (fun hne => hne hst), if_neg hwin', if_pos hfit, hfree]

/-- One iteration of `sctpFlushSendQueue`. -/
def flushSlot (i : Fin SCTP_MAX_QUEUED_MESSAGES) : Host :=
  if ¬ (h.assoc.sendQueue.get i).inUse then h else
  let h1 := sctpAssocSend h (h.assoc.sendQueue.get i).msg
  { h1 with
    assoc.sendQueue := h1.assoc.sendQueue.set i { h1.assoc.sendQueue.get i with inUse := false }
    assoc.sendQueueCount := h1.assoc.sendQueueCount - 1
    underflow := h1.underflow || h1.assoc.sendQueueCount = 0 }

def sctpFlushSendQueue : Host := SlotTable.forSlots flushSlot h

/-- Take the message out of a pending slot. -/
def evictPending (slot : Fin SCTP_MAX_PENDING_SENDS) : Host :=
  { h with
    assoc.pendingQueue := h.assoc.pendingQueue.set slot ⟨(h.assoc.pendingQueue.get slot).msg, false⟩
    assoc.pendingQueueCount := h.assoc.pendingQueueCount - 1
    underflow := h.underflow || h.assoc.pendingQueueCount = 0 }

/-- One iteration of `sctpDrainPendingQueue`; the flag leaves the loop. -/
def drainSlot (slot : Fin SCTP_MAX_PENDING_SENDS) : Host × Bool :=
  if ¬ (h.assoc.pendingQueue.get slot).inUse then (h, false)
  else if h.assoc.flightSize ≥ h.assoc.cwnd ∨ h.assoc.flightSize ≥ h.assoc.peerArwnd ∨
      h.assoc.outstandingCount.toNat ≥ SCTP_MAX_OUTSTANDING then (h, true)
  else (sctpAssocSend (evictPending h slot) (h.assoc.pendingQueue.get slot).msg, false)

def sctpDrainPendingQueue : Host := SlotTable.forSlotsBreak drainSlot h

/-! ## Selective acknowledgements -/

/-- The insertion step of the sort in `sctpSendSack`, on the sorted prefix read from its end. -/
def insertTsn (temp : UINT32) : List UINT32 → List UINT32
  | [] => [temp]
  | x :: xs => if TSN_GT x temp then x :: insertTsn temp xs else temp :: x :: xs

def sortTsns (tsns : List UINT32) : List UINT32 :=
  (tsns.foldl (fun sorted t => insertTsn t sorted) []).reverse

/-- One iteration of the gap-block loop; the newest block stands first. -/
def gapStep (cum : UINT32) (gaps : List (UINT16 × UINT16)) (tsn : UINT32) :
    List (UINT16 × UINT16) :=
  if gaps.length ≥ SCTP_MAX_GAP_BLOCKS then gaps
  else if TSN_LTE tsn cum then gaps
  else
    let offset16 : UINT16 := (tsn - cum).setWidth 16
    match gaps with
    | (s, e) :: rest =>
      if offset16.toNat = e.toNat + 1 then (s, offset16) :: rest
      else (offset16, offset16) :: (s, e) :: rest
    | [] => [(offset16, offset16)]

def gapBlocks (cum : UINT32) (receivedTsns : List UINT32) : List (UINT16 × UINT16) :=
  ((sortTsns (receivedTsns.take SCTP_MAX_RECEIVED)).foldl (gapStep cum) []).reverse

def sctpSendSack : Host :=
  if ¬ h.assoc.peerCumulativeTsnValid then h else
  let h1 := sendChunk h h.assoc.peerVerificationTag
    (sctpWriteSackChunk h.assoc.peerCumulativeTsn SCTP_DEFAULT_ARWND
      (gapBlocks h.assoc.peerCumulativeTsn h.assoc.receivedTsns)) .control
  { h1 with assoc.needSack := false }

/-- Give slot `i` back: free the payload of its chunk `d` and take it off the counters. -/
def releaseSlot (i : Fin SCTP_MAX_OUTSTANDING) (d : SctpOutstandingData) : Host :=
  { h with
    assoc.outstanding := h.assoc.outstanding.set i { d with payload := none, inUse := false }
    assoc.flightSize := h.assoc.flightSize - d.payloadLen
    assoc.outstandingCount := h.assoc.outstandingCount - 1
    underflow := h.underflow || h.assoc.flightSize < d.payloadLen || h.assoc.outstandingCount = 0 }

/-- The body of both acknowledgement loops of `sctpHandleSack`: slot `i` is released when its TSN is
`covered`.  The second component is `bytesNewlyAcked`. -/
def sackSlot (covered : UINT32 → Bool) (s : Host × UINT32) (i : Fin SCTP_MAX_OUTSTANDING) :
    Host × UINT32 :=
  let d := s.1.assoc.outstanding.get i
  if ¬ d.inUse ∨ d.acked then s
  else if covered d.tsn then (releaseSlot s.1 i { d with acked := true }, s.2 + d.payloadLen)
  else s

/-- One round of the gap-block loop: the block at `pValue[12 + 4 * i]`. -/
def sackGap (pValue : Bytes) (cumTsn : UINT32) (s : Host × UINT32) (i : Nat) : Host × UINT32 :=
  let gapTsnStart := cumTsn + (getUnalignedInt16BigEndian pValue (12 + 4 * i)).setWidth 32
  let gapTsnEnd := cumTsn + (getUnalignedInt16BigEndian pValue (12 + 4 * i + 2)).setWidth 32
  SlotTable.forSlots (sackSlot (fun tsn => TSN_GTE tsn gapTsnStart ∧ TSN_LTE tsn gapTsnEnd)) s

/-- Both acknowledgement loops of `sctpHandleSack`. -/
def sackLoops (pValue : Bytes) : Host × UINT32 :=
  let cumTsn := getUnalignedInt32BigEndian pValue 0
  let numGaps := (getUnalignedInt16BigEndian pValue 8).toNat
  let s := SlotTable.forSlots (sackSlot (fun tsn => TSN_LTE tsn cumTsn)) (h, 0)
  if numGaps > 0 ∧ pValue.length ≥ 12 + numGaps * 4 then
    (List.range numGaps).foldl (sackGap pValue cumTsn) s
  else s

/-- Congestion control and T3 after bytes were newly acknowledged. -/
def sackGrow (bytesNewlyAcked : UINT32) : Host :=
  let mtu : UINT32 := h.assoc.mtu.setWidth 32
  let increase :=
    if h.assoc.cwnd ≤ h.assoc.ssthresh then
      if bytesNewlyAcked > mtu then mtu else bytesNewlyAcked
    else mtu
  let h1 := { h with assoc.cwnd := h.assoc.cwnd + increase }
  if h1.assoc.outstandingCount = 0 then { h1 with assoc.t3RtxExpiry := 0 }
  else { h1.tick with assoc.t3RtxExpiry := h1.SCTP_NOW_MS + h1.assoc.rtoMs.setWidth 64 }

def sctpHandleSack (pValue : Bytes) : Host :=
  if pValue.length < 12 then h else
  let cumTsn := getUnalignedInt32BigEndian pValue 0
  let s := sackLoops { h with assoc.peerArwnd := getUnalignedInt32BigEndian pValue 4 } pValue
  let h1 :=
    if TSN_GT cumTsn s.1.assoc.cumulativeAckTsn then
      { s.1 with assoc.cumulativeAckTsn := cumTsn }
    else s.1
  if s.2 > 0 then
    let h2 := sackGrow h1 s.2
    if h2.assoc.pendingQueueCount > 0 then sctpDrainPendingQueue h2 else h2
  else h1

/-! ## The handshake -/

def sctpHandleInit (pValue : Bytes) : Host :=
  if pValue.length < 16 then h else
  let peerTag := getUnalignedInt32BigEndian pValue 0
  let peerOutStreams := getUnalignedInt16BigEndian pValue 8
  let peerInStreams := getUnalignedInt16BigEndian pValue 10
  let maxStreams : UINT16 := BitVec.ofNat 16 SCTP_MAX_STREAMS
  let cookie : SctpCookie :=
    { magic1 := SCTP_COOKIE_MAGIC1
      magic2 := SCTP_COOKIE_MAGIC2
      peerTag := peerTag
      myTag := h.assoc.myVerificationTag
      peerInitialTsn := getUnalignedInt32BigEndian pValue 12
      myInitialTsn := h.assoc.nextTsn
      peerArwnd := getUnalignedInt32BigEndian pValue 4
      tieTag := h.assoc.tieTag
      numInStreams := if peerOutStreams < maxStreams then peerOutStreams else maxStreams
      numOutStreams := if peerInStreams < maxStreams then peerInStreams else maxStreams
      reserved := 0 }
  sendChunk h peerTag
    (sctpWriteInitAckChunk h.assoc.myVerificationTag SCTP_DEFAULT_ARWND maxStreams maxStreams
      h.assoc.nextTsn cookie.toBytes) .control

theorem sctpHandleInit_sends (pValue : Bytes) : sctpHandleInit h pValue = h ∨
    ∃ vtag w, sctpHandleInit h pValue = sendChunk h vtag w .control := by
  unfold sctpHandleInit
  split
  · exact .inl rfl
  · exact .inr ⟨_, _, rfl⟩

/-- The parameter loop of `sctpHandleInitAck`: the State Cookie, when it is acceptable. -/
def findStateCookie (pValue : Bytes) : Nat → Nat → Option Bytes
  | 0, _ => none
  | fuel + 1, paramOffset =>
    if paramOffset + 4 ≤ pValue.length then
      let paramType := getUnalignedInt16BigEndian pValue paramOffset
      let paramLen := (getUnalignedInt16BigEndian pValue (paramOffset + 2)).toNat
      if paramLen < 4 then none
      else if paramType = SCTP_PARAM_STATE_COOKIE then
        if paramLen - 4 ≤ SCTP_COOKIE_SIZE ∧ paramOffset + paramLen ≤ pValue.length then
          some ((pValue.drop (paramOffset + 4)).take (paramLen - 4))
        else none
      else findStateCookie pValue fuel (paramOffset + SCTP_PAD4 paramLen)
    else none

def sctpHandleInitAck (pValue : Bytes) : Host :=
  if pValue.length < 16 then h
  else if h.assoc.state ≠ .COOKIE_WAIT ∧ h.assoc.state ≠ .CLOSED then h
  else
    let h1 := { h with
      assoc.peerVerificationTag := getUnalignedInt32BigEndian pValue 0
      assoc.peerArwnd := getUnalignedInt32BigEndian pValue 4
      assoc.peerCumulativeTsn := getUnalignedInt32BigEndian pValue 12 - 1
      assoc.peerCumulativeTsnValid := true }
    match findStateCookie pValue pValue.length 16 with
    | none => h1
    | some cookie =>
      let h2 := { h1 with assoc.cookieEchoData := cookie, assoc.cookieEchoValid := true }
      let h3 := sendChunk h2 h2.assoc.peerVerificationTag
        (sctpWriteCookieEchoChunk h2.assoc.cookieEchoData) .control
      { h3.tick with
        assoc.state := .COOKIE_ECHOED
        assoc.t1InitExpiry := h3.SCTP_NOW_MS + h3.assoc.rtoMs.setWidth 64 }

/-- The part of `sctpHandleCookieEcho` that a valid cookie reaches, before the queue is flushed. -/
def acceptCookie (cookie : SctpCookie) : Host :=
  let h1 := { h with
    assoc.peerVerificationTag := cookie.peerTag
    assoc.peerCumulativeTsn := cookie.peerInitialTsn - 1
    assoc.peerCumulativeTsnValid := true
    assoc.peerArwnd := cookie.peerArwnd }
  let h2 := sendChunk h1 h1.assoc.peerVerificationTag sctpWriteCookieAckChunk .control
  { h2 with assoc.state := .ESTABLISHED, assoc.t1InitExpiry := 0 }

def sctpHandleCookieEcho (pValue : Bytes) : Host :=
  if pValue.length < SCTP_COOKIE_SIZE then h else
  let cookie := SctpCookie.ofBytes pValue
  if cookie.magic1 ≠ SCTP_COOKIE_MAGIC1 ∨ cookie.magic2 ≠ SCTP_COOKIE_MAGIC2 then h
  else sctpFlushSendQueue (acceptCookie h cookie)

def sctpHandleCookieAck : Host :=
  if h.assoc.state ≠ .COOKIE_ECHOED then h else
  sctpFlushSendQueue { h with assoc.state := .ESTABLISHED, assoc.t1InitExpiry := 0 }

/-! ## Receiving data -/

/-- Drop entry `k` by moving the last entry into its place. -/
def swapRemove (l : List UINT32) (k : Nat) : List UINT32 := (l.set k (l.getLastD 0)).dropLast

/-- The loop that moves the cumulative TSN over the TSNs that have become consecutive.  Every round
drops an entry, so `l.length + 1` rounds are enough. -/
def advanceCumTsn : Nat → UINT32 → List UINT32 → UINT32 × List UINT32
  | 0, cum, l => (cum, l)
  | fuel + 1, cum, l =>
    match l.findIdx? (· = cum + 1) with
    | some k => advanceCumTsn fuel (cum + 1) (swapRemove l k)
    | none => (cum, l)

/-- The loop of `sctpHandleForwardTsn` that drops the TSNs at or below `newCumTsn`. -/
def dropReceived (newCumTsn : UINT32) : Nat → Nat → List UINT32 → List UINT32
  | 0, _, l => l
  | fuel + 1, i, l =>
    if h : i < l.length then
      if TSN_LTE l[i] newCumTsn then dropReceived newCumTsn fuel i (swapRemove l i)
      else dropReceived newCumTsn fuel (i + 1) l
    else l

/-- The delivery block of `sctpHandleData`. -/
def deliverData (flags : UINT8) (streamId ssn : UINT16) (ppid : UINT32)
    (pPayload : Bytes) : Host :=
  let isBegin := flags &&& SCTP_DATA_FLAG_BEGIN ≠ 0
  let isEnd := flags &&& SCTP_DATA_FLAG_END ≠ 0
  if isBegin ∧ isEnd then
    { h with delivered := h.delivered ++ [⟨streamId, ppid, pPayload⟩] }
  else if isBegin then
    let h1 := { h with assoc.reassemblyBuf := some (h.assoc.reassemblyBuf.getD []) }
    if pPayload.length ≤ SCTP_MAX_REASSEMBLY_SIZE then
      { h1 with
        assoc.reassemblyBuf := some pPayload
        assoc.reassemblyStreamId := streamId
        assoc.reassemblySsn := ssn
        assoc.reassemblyPpid := ppid
        assoc.reassemblyInProgress := true }
    else h1
  else if h.assoc.reassemblyInProgress then
    let buf := h.assoc.reassemblyBuf.getD []
    let buf1 :=
      if h.assoc.reassemblyBuf.isSome ∧
          buf.length + pPayload.length ≤ SCTP_MAX_REASSEMBLY_SIZE then buf ++ pPayload
      else buf
    let h1 := { h with assoc.reassemblyBuf := h.assoc.reassemblyBuf.map (fun _ => buf1) }
    if isEnd then
      { h1 with
        delivered := h1.delivered ++ [⟨h1.assoc.reassemblyStreamId, h1.assoc.reassemblyPpid, buf1⟩]
        assoc.reassemblyInProgress := false
        assoc.reassemblyBuf := h1.assoc.reassemblyBuf.map (fun _ => []) }
    else h1
  else h

/-- Receive tracking of a TSN that is not old: in order, or remembered for later. -/
def trackTsn (tsn : UINT32) : Host :=
  if tsn = h.assoc.peerCumulativeTsn + 1 then
    let r := advanceCumTsn (h.assoc.receivedTsns.length + 1) tsn h.assoc.receivedTsns
    { h with assoc.peerCumulativeTsn := r.1, assoc.receivedTsns := r.2 }
  else if tsn ∉ h.assoc.receivedTsns ∧ h.assoc.receivedTsns.length < SCTP_MAX_RECEIVED then
    { h with assoc.receivedTsns := h.assoc.receivedTsns ++ [tsn] }
  else h

/-- The tracking state after a TSN that is not old. -/
def trackedAfter (cum : UINT32) (l : List UINT32) (tsn : UINT32) : UINT32 × List UINT32 :=
  if tsn = cum + 1 then advanceCumTsn (l.length + 1) tsn l
  else if tsn ∉ l ∧ l.length < SCTP_MAX_RECEIVED then (cum, l ++ [tsn])
  else (cum, l)

def sctpHandleData (messageFn : Bool) (flags : UINT8) (pValue : Bytes) : Host :=
  if pValue.length < 12 then h
  else if h.assoc.state ≠ .ESTABLISHED then h
  else
    let tsn := getUnalignedInt32BigEndian pValue 0
    let h1 :=
      if ¬ h.assoc.peerCumulativeTsnValid then
        { h with assoc.peerCumulativeTsn := tsn - 1, assoc.peerCumulativeTsnValid := true }
      else h
    if tsn = h1.assoc.peerCumulativeTsn + 1 ∨ TSN_GT tsn (h1.assoc.peerCumulativeTsn + 1) then
      let h2 := { trackTsn h1 tsn with assoc.needSack := true }
      let h3 :=
        if messageFn then
          deliverData h2 flags (getUnalignedInt16BigEndian pValue 4)
            (getUnalignedInt16BigEndian pValue 6) (getUnalignedInt32BigEndian pValue 8)
            (pValue.drop 12)
        else h2
      sctpSendSack h3
    else sctpSendSack { h1 with assoc.needSack := true }

def sctpHandleForwardTsn (pValue : Bytes) : Host :=
  if pValue.length < 4 then h else
  let newCumTsn := getUnalignedInt32BigEndian pValue 0
  let h1 :=
    if TSN_GT newCumTsn h.assoc.peerCumulativeTsn then
      let kept := dropReceived newCumTsn h.assoc.receivedTsns.length 0 h.assoc.receivedTsns
      let r := advanceCumTsn (kept.length + 1) newCumTsn kept
      { h with assoc.peerCumulativeTsn := r.1, assoc.receivedTsns := r.2 }
    else h
  sctpSendSack { h1 with assoc.needSack := true }

/-! ## Shutdown, heartbeat and dispatch -/

def sctpHandleShutdown : Host :=
  let h1 := sendChunk h h.assoc.peerVerificationTag sctpWriteShutdownAckChunk .control
  { h1 with assoc.state := .SHUTDOWN_ACK_SENT }

def sctpHandleShutdownAck : Host :=
  let h1 := sendChunk h h.assoc.peerVerificationTag sctpWriteShutdownCompleteChunk .control
  { h1 with assoc.state := .CLOSED }

/-- The HEARTBEAT case of the dispatcher: echo the value in a HEARTBEAT-ACK.  The common header is
written before the length is checked. -/
def handleHeartbeat (pValue : Bytes) : Host :=
  let chunkLen := SCTP_CHUNK_HEADER_SIZE + pValue.length
  if SCTP_COMMON_HEADER_SIZE + chunkLen ≤ SCTP_MAX_PACKET_SIZE then
    sendChunk h h.assoc.peerVerificationTag
      ⟨[SCTP_CHUNK_HEARTBEAT_ACK, 0] ++ putUnalignedInt16BigEndian (BitVec.ofNat 16 chunkLen) ++
        pValue, SCTP_PAD4 chunkLen⟩ .control
  else
    { h with
      assoc.outPacket := sctpWriteCommonHeader h.assoc.localPort h.assoc.remotePort
        h.assoc.peerVerificationTag ++ h.assoc.outPacket.drop SCTP_COMMON_HEADER_SIZE }

/-- The SHUTDOWN-COMPLETE and ABORT cases of the dispatcher. -/
def closeAssoc : Host := { h with assoc.state := .CLOSED }

def sctpChunkDispatch (messageFn : Bool) (h : Host) (c : SctpChunk) : Host :=
  if c.type = SCTP_CHUNK_INIT then sctpHandleInit h c.value
  else if c.type = SCTP_CHUNK_INIT_ACK then sctpHandleInitAck h c.value
  else if c.type = SCTP_CHUNK_COOKIE_ECHO then sctpHandleCookieEcho h c.value
  else if c.type = SCTP_CHUNK_COOKIE_ACK then sctpHandleCookieAck h
  else if c.type = SCTP_CHUNK_DATA then sctpHandleData h messageFn c.flags c.value
  else if c.type = SCTP_CHUNK_SACK then sctpHandleSack h c.value
  else if c.type = SCTP_CHUNK_FORWARD_TSN then sctpHandleForwardTsn h c.value
  else if c.type = SCTP_CHUNK_HEARTBEAT then handleHeartbeat h c.value
  else if c.type = SCTP_CHUNK_SHUTDOWN then sctpHandleShutdown h
  else if c.type = SCTP_CHUNK_SHUTDOWN_ACK then sctpHandleShutdownAck h
  else if c.type = SCTP_CHUNK_SHUTDOWN_COMPLETE then closeAssoc h
  else if c.type = SCTP_CHUNK_ABORT then closeAssoc h
  else h

theorem sctpChunkDispatch_cases {P : Host → Prop} {messageFn : Bool} {h : Host} {c : SctpChunk}
    (init : c.type = SCTP_CHUNK_INIT → P (sctpHandleInit h c.value))
    (initAck : c.type = SCTP_CHUNK_INIT_ACK → P (sctpHandleInitAck h c.value))
    (cookieEcho : c.type = SCTP_CHUNK_COOKIE_ECHO → P (sctpHandleCookieEcho h c.value))
    (cookieAck : c.type = SCTP_CHUNK_COOKIE_ACK → P (sctpHandleCookieAck h))
    (data : c.type = SCTP_CHUNK_DATA → P (sctpHandleData h messageFn c.flags c.value))
    (sack : c.type = SCTP_CHUNK_SACK → P (sctpHandleSack h c.value))
    (forwardTsn : c.type = SCTP_CHUNK_FORWARD_TSN → P (sctpHandleForwardTsn h c.value))
    (heartbeat : c.type = SCTP_CHUNK_HEARTBEAT → P (handleHeartbeat h c.value))
    (shutdown : c.type = SCTP_CHUNK_SHUTDOWN → P (sctpHandleShutdown h))
    (shutdownAck : c.type = SCTP_CHUNK_SHUTDOWN_ACK → P (sctpHandleShutdownAck h))
    (close : c.type = SCTP_CHUNK_SHUTDOWN_COMPLETE ∨ c.type = SCTP_CHUNK_ABORT → P (closeAssoc h))
    (other : P h) : P (sctpChunkDispatch messageFn h c) := by
  refine iteInduction init fun _ => iteInduction initAck fun _ => iteInduction cookieEcho fun _ =>
    iteInduction cookieAck fun _ => iteInduction data fun _ => iteInduction sack fun _ =>
    iteInduction forwardTsn fun _ => iteInduction heartbeat fun _ => iteInduction shutdown fun _ =>
    iteInduction shutdownAck fun _ => iteInduction (fun h11 => close (.inl h11)) fun _ =>
    iteInduction (fun h12 => close (.inr h12)) fun _ => other

section

variable {messageFn : Bool} {h : Host} {c : SctpChunk}

theorem sctpChunkDispatch_init (hc : c.type = SCTP_CHUNK_INIT) :
    sctpChunkDispatch messageFn h c = sctpHandleInit h c.value := by
  unfold sctpChunkDispatch
  rw [if_pos hc]

theorem sctpChunkDispatch_initAck (hc : c.type = SCTP_CHUNK_INIT_ACK) :
    sctpChunkDispatch messageFn h c = sctpHandleInitAck h c.value := by
  unfold sctpChunkDispatch
  repeat rw [if_neg (by rw [hc]; decide)]
  rw [if_pos hc]

theorem sctpChunkDispatch_cookieEcho (hc : c.type = SCTP_CHUNK_COOKIE_ECHO) :
    sctpChunkDispatch messageFn h c = sctpHandleCookieEcho h c.value := by
  unfold sctpChunkDispatch
  repeat rw [if_neg (by rw [hc]; decide)]
  rw [if_pos hc]

theorem sctpChunkDispatch_cookieAck (hc : c.type = SCTP_CHUNK_COOKIE_ACK) :
    sctpChunkDispatch messageFn h c = sctpHandleCookieAck h := by
  unfold sctpChunkDispatch
  repeat rw [if_neg (by rw [hc]; decide)]
  rw [if_pos hc]

theorem sctpChunkDispatch_data (hc : c.type = SCTP_CHUNK_DATA) :
    sctpChunkDispatch messageFn h c = sctpHandleData h messageFn c.flags c.value := by
  unfold sctpChunkDispatch
  repeat rw [if_neg (by rw [hc]; decide)]
  rw [if_pos hc]

theorem sctpChunkDispatch_sack (hc : c.type = SCTP_CHUNK_SACK) :
    sctpChunkDispatch messageFn h c = sctpHandleSack h c.value := by
  unfold sctpChunkDispatch
  repeat rw [if_neg (by rw [hc]; decide)]
  rw [if_pos hc]

theorem sctpChunkDispatch_forwardTsn (hc : c.type = SCTP_CHUNK_FORWARD_TSN) :
    sctpChunkDispatch messageFn h c = sctpHandleForwardTsn h c.value := by
  unfold sctpChunkDispatch
  repeat rw [if_neg (by rw [hc]; decide)]
  rw [if_pos hc]

theorem sctpChunkDispatch_heartbeat (hc : c.type = SCTP_CHUNK_HEARTBEAT) :
    sctpChunkDispatch messageFn h c = handleHeartbeat h c.value := by
  unfold sctpChunkDispatch
  repeat rw [if_neg (by rw [hc]; decide)]
  rw [if_pos hc]

theorem sctpChunkDispatch_shutdown (hc : c.type = SCTP_CHUNK_SHUTDOWN) :
    sctpChunkDispatch messageFn h c = sctpHandleShutdown h := by
  unfold sctpChunkDispatch
  repeat rw [if_neg (by rw [hc]; decide)]
  rw [if_pos hc]

theorem sctpChunkDispatch_shutdownAck (hc : c.type = SCTP_CHUNK_SHUTDOWN_ACK) :
    sctpChunkDispatch messageFn h c = sctpHandleShutdownAck h := by
  unfold sctpChunkDispatch
  repeat rw [if_neg (by rw [hc]; decide)]
  rw [if_pos hc]

theorem sctpChunkDispatch_shutdownComplete (hc : c.type = SCTP_CHUNK_SHUTDOWN_COMPLETE) :
    sctpChunkDispatch messageFn h c = closeAssoc h := by
  unfold sctpChunkDispatch
  repeat rw [if_neg (by rw [hc]; decide)]
  rw [if_pos hc]

end

/-! ## Public API -/

def sctpAssocInit (clock : Nat → UINT64) (localPort remotePort mtu : UINT16) : Host :=
  let tag := sctpGenerateTag clock
  let tie1 := sctpGenerateTag (fun n => clock (n + 2))
  let tie2 := sctpGenerateTag (fun n => clock (n + 4))
  { assoc :=
      { state := .CLOSED
        localPort := localPort
        remotePort := remotePort
        myVerificationTag := tag
        peerVerificationTag := 0
        nextTsn := tag
        cumulativeAckTsn := tag - 1
        outstanding := SlotTable.replicate _ SctpOutstandingData.zero
        outstandingCount := 0
        nextSsn := SlotTable.replicate _ 0
        peerCumulativeTsn := 0
        peerCumulativeTsnValid := false
        receivedTsns := []
        needSack := false
        cwnd := SCTP_INITIAL_CWND_MTUS * mtu.setWidth 32
        ssthresh := SCTP_DEFAULT_ARWND
        peerArwnd := SCTP_DEFAULT_ARWND
        flightSize := 0
        mtu := mtu
        t1InitExpiry := 0
        t3RtxExpiry := 0
        initRetransmitCount := 0
        rtoMs := SCTP_RTO_INITIAL_MS
        outPacket := List.replicate SCTP_MAX_PACKET_SIZE 0
        cookieEchoData := []
        cookieEchoValid := false
        tieTag := tie1.setWidth 64 <<< 32 ||| tie2.setWidth 64
        advancedPeerAckPoint := tag - 1
        reassemblyBuf := none
        reassemblyStreamId := 0
        reassemblySsn := 0
        reassemblyPpid := 0
        reassemblyInProgress := false
        sendQueue := SlotTable.replicate _ SctpQueueSlot.zero
        sendQueueCount := 0
        pendingQueue := SlotTable.replicate _ SctpQueueSlot.zero
        pendingQueueCount := 0 }
    clock := fun n => clock (n + 6)
    outbound := []
    delivered := []
    tsnsUsed := 0
    firstTx := SlotTable.replicate _ 0
    underflow := false
    overrun := false }

/-- Emit an INIT chunk (`vtag` 0). -/
def sendInit : Host :=
  sendChunk h 0 (sctpWriteInitChunk h.assoc.myVerificationTag SCTP_DEFAULT_ARWND
    (BitVec.ofNat 16 SCTP_MAX_STREAMS) (BitVec.ofNat 16 SCTP_MAX_STREAMS) h.assoc.nextTsn) .control

def sctpAssocConnect : Host :=
  let h1 := sendInit h
  { h1.tick with
    assoc.state := .COOKIE_WAIT
    assoc.t1InitExpiry := h1.SCTP_NOW_MS + h1.assoc.rtoMs.setWidth 64
    assoc.initRetransmitCount := 0 }

def sctpAssocHandlePacket (messageFn : Bool) (pBuf : Bytes) : Host :=
  if pBuf.length < SCTP_COMMON_HEADER_SIZE then h else
  let v := sctpValidatePacket pBuf h.assoc.myVerificationTag
  if v.1 ≠ .SUCCESS then h
  else (sctpParseChunks v.2).foldl (sctpChunkDispatch messageFn) h

theorem sctpAssocHandlePacket_carries {h : Host} {messageFn : Bool} {p : Bytes} {vtag : UINT32}
    {c : SctpChunk} (hp : Carries p vtag c) :
    sctpAssocHandlePacket h messageFn p =
      if vtag ≠ 0 ∧ h.assoc.myVerificationTag ≠ 0 ∧ vtag ≠ h.assoc.myVerificationTag then h
      else sctpChunkDispatch messageFn h c := by
  unfold sctpAssocHandlePacket
  rw [if_neg (Nat.not_lt.mpr hp.length)]
  simp only [hp.validate]
  split
  · rw [if_pos (by decide)]
  · rw [if_neg (by decide), hp.chunks]
    rfl

theorem sctpFlushSendQueue_empty {h : Host} (hq : ∀ i, (h.assoc.sendQueue.get i).inUse = false) :
    sctpFlushSendQueue h = h := by
  refine SlotTable.forSlots_invariant (P := fun h' => h' = h) rfl (fun i h' heq => ?_)
  subst heq
  unfold flushSlot
  rw [if_pos (by simp [hq i])]

theorem sctpAssocHandlePacket_cookieEcho {h : Host} {messageFn : Bool} {p : Bytes}
    {cookie : SctpCookie} (hp : Carries p 0 ⟨SCTP_CHUNK_COOKIE_ECHO, 0, cookie.toBytes⟩)
    (h1 : cookie.magic1 = SCTP_COOKIE_MAGIC1) (h2 : cookie.magic2 = SCTP_COOKIE_MAGIC2)
    (hq : ∀ i, (h.assoc.sendQueue.get i).inUse = false) :
    sctpAssocHandlePacket h messageFn p = acceptCookie h cookie := by
  have htag : ¬ ((0 : UINT32) ≠ 0 ∧ h.assoc.myVerificationTag ≠ 0 ∧
      0 ≠ h.assoc.myVerificationTag) := fun hne => hne.1 rfl
  have hecho : sctpHandleCookieEcho h cookie.toBytes = sctpFlushSendQueue (acceptCookie h cookie) := by
    unfold sctpHandleCookieEcho
    rw [if_neg (by rw [SctpCookie.length_toBytes]; exact Nat.lt_irrefl _)]
    simp only [SctpCookie.ofBytes_toBytes]
    rw [if_neg (by simp [h1, h2])]
  rw [sctpAssocHandlePacket_carries hp, if_neg htag, sctpChunkDispatch_cookieEcho rfl, hecho,
    sctpFlushSendQueue_empty]
  intro i
  exact hq i

/-- Double the RTO, up to its maximum. -/
def backOff : Host :=
  let rtoMs := h.assoc.rtoMs * 2
  { h with assoc.rtoMs := if rtoMs > SCTP_RTO_MAX_MS then SCTP_RTO_MAX_MS else rtoMs }

/-- PR-SCTP: the chunk has used up its retransmissions or its lifetime. -/
def shouldAbandon (nowMs : UINT64) (d : SctpOutstandingData) : Bool :=
  (d.maxRetransmits ≠ 0xFFFF ∧ d.retransmitCount.toNat > d.maxRetransmits.toNat) ∨
    (d.lifetimeMs > 0 ∧ nowMs - d.creationTime > d.lifetimeMs)

/-- One more retransmission of the chunk. -/
def SctpOutstandingData.retried (d : SctpOutstandingData) : SctpOutstandingData :=
  { d with retransmitCount := d.retransmitCount + 1 }

def setOutstanding (i : Fin SCTP_MAX_OUTSTANDING) (d : SctpOutstandingData) : Host :=
  { h with assoc.outstanding := h.assoc.outstanding.set i d }

/-- The abandonment block of the T3 loop. -/
def abandonSlot (i : Fin SCTP_MAX_OUTSTANDING) (d : SctpOutstandingData) : Host :=
  { releaseSlot h i { d with abandoned := true } with
    assoc.advancedPeerAckPoint :=
      if TSN_GT d.tsn h.assoc.advancedPeerAckPoint then d.tsn else h.assoc.advancedPeerAckPoint }

/-- One iteration of the T3 loop of `sctpAssocCheckTimers`. -/
def t3Slot (nowMs : UINT64) (h : Host) (i : Fin SCTP_MAX_OUTSTANDING) : Host :=
  let d0 := h.assoc.outstanding.get i
  if ¬ d0.inUse ∨ d0.acked ∨ d0.abandoned then h else
  let d := d0.retried
  if shouldAbandon nowMs d then abandonSlot h i d
  else
    let h1 := setOutstanding h i d
    match d.payload with
    | none => h1
    | some payload =>
      sendChunk h1 h1.assoc.peerVerificationTag
        (sctpWriteDataChunk d.tsn d.streamId d.ssn d.ppid d.unordered payload)
        (.retransmission (h1.firstTx.get i))

/-- The T1 block of `sctpAssocCheckTimers`; the flag is its early return. -/
def checkT1 (nowMs : UINT64) : Host × Bool :=
  if h.assoc.t1InitExpiry ≠ 0 ∧ nowMs ≥ h.assoc.t1InitExpiry then
    let h1 := { h with assoc.initRetransmitCount := h.assoc.initRetransmitCount + 1 }
    if h1.assoc.initRetransmitCount > SCTP_MAX_INIT_RETRANS then
      ({ h1 with assoc.state := .CLOSED, assoc.t1InitExpiry := 0 }, true)
    else
      let h2 := backOff h1
      let h3 :=
        if h2.assoc.state = .COOKIE_WAIT then sendInit h2
        else if h2.assoc.state = .COOKIE_ECHOED ∧ h2.assoc.cookieEchoValid then
          sendChunk h2 h2.assoc.peerVerificationTag
            (sctpWriteCookieEchoChunk h2.assoc.cookieEchoData) .control
        else h2
      ({ h3 with assoc.t1InitExpiry := nowMs + h3.assoc.rtoMs.setWidth 64 }, false)
  else (h, false)

/-- The state in which the T3 loop starts: window and threshold cut, RTO doubled. -/
def t3Enter : Host :=
  let mtu : UINT32 := h.assoc.mtu.setWidth 32
  backOff { h with
    assoc.ssthresh := if h.assoc.cwnd / 2 > 2 * mtu then h.assoc.cwnd / 2 else 2 * mtu
    assoc.cwnd := mtu }

/-- The FORWARD-TSN of `sctpAssocCheckTimers`. -/
def sendForwardTsn : Host :=
  if TSN_GT h.assoc.advancedPeerAckPoint h.assoc.cumulativeAckTsn then
    sendChunk h h.assoc.peerVerificationTag
      (sctpWriteForwardTsnChunk h.assoc.advancedPeerAckPoint)
      (.forwardTsn h.assoc.advancedPeerAckPoint)
  else h

/-- The T3 loop. -/
def t3Loop (nowMs : UINT64) : Host := SlotTable.forSlots (t3Slot nowMs) h

/-- Restart T3-rtx while something is outstanding. -/
def restartT3 (nowMs : UINT64) : Host :=
  if h.assoc.outstandingCount > 0 then
    { h with assoc.t3RtxExpiry := nowMs + h.assoc.rtoMs.setWidth 64 }
  else { h with assoc.t3RtxExpiry := 0 }

/-- The T3 block of `sctpAssocCheckTimers`. -/
def checkT3 (nowMs : UINT64) : Host :=
  if h.assoc.t3RtxExpiry ≠ 0 ∧ nowMs ≥ h.assoc.t3RtxExpiry then
    restartT3 (sendForwardTsn (t3Loop (t3Enter h) nowMs)) nowMs
  else h

def sctpAssocCheckTimers (nowMs : UINT64) : Host :=
  let r := checkT1 h nowMs
  if r.2 then r.1 else checkT3 r.1 nowMs

theorem sctpAssocCheckTimers_t3 {h : Host} {nowMs : UINT64} (ht1 : h.assoc.t1InitExpiry = 0)
    (ht3 : h.assoc.t3RtxExpiry ≠ 0) (hnow : nowMs ≥ h.assoc.t3RtxExpiry) :
    sctpAssocCheckTimers h nowMs =
      restartT3 (sendForwardTsn (t3Loop (t3Enter h) nowMs)) nowMs := by
  have h1 : checkT1 h nowMs = (h, false) := by
    unfold checkT1
    rw [if_neg (fun hc => hc.1 ht1)]
  unfold sctpAssocCheckTimers
  rw [h1]
  show checkT3 h nowMs = _
  unfold checkT3
  rw [if_pos ⟨ht3, hnow⟩]

def sctpAssocShutdown : Host :=
  if h.assoc.state ≠ .ESTABLISHED then h else
  let h1 := sendChunk h h.assoc.peerVerificationTag
    (sctpWriteShutdownChunk
      (if h.assoc.peerCumulativeTsnValid then h.assoc.peerCumulativeTsn else 0)) .control
  { h1 with assoc.state := .SHUTDOWN_SENT }

/-! ## Runs -/

/-- One call of the public API. -/
inductive Op where
  | connect
  | send (m : SctpMessage)
  | handlePacket (messageFn : Bool) (pBuf : Bytes)
  | checkTimers (nowMs : UINT64)
  | shutdown

def Host.step : Op → Host
  | .connect => sctpAssocConnect h
  | .send m => sctpAssocSend h m
  | .handlePacket messageFn pBuf => sctpAssocHandlePacket h messageFn pBuf
  | .checkTimers nowMs => sctpAssocCheckTimers h nowMs
  | .shutdown => sctpAssocShutdown h

def Host.run (ops : List Op) : Host := ops.foldl Host.step h

@[simp] theorem Host.run_nil : h.run [] = h := rfl

@[simp] theorem Host.run_cons (op : Op) (ops : List Op) :
    h.run (op :: ops) = (h.step op).run ops := rfl

theorem Host.run_append (ops ops' : List Op) :
    h.run (ops ++ ops') = (h.run ops).run ops' := List.foldl_append

@[simp] theorem Host.step_send (m : SctpMessage) :
    h.step (.send m) = sctpAssocSend h m := rfl

@[simp] theorem Host.step_checkTimers (nowMs : UINT64) :
    h.step (.checkTimers nowMs) = sctpAssocCheckTimers h nowMs := rfl

@[simp] theorem Host.step_handlePacket (messageFn : Bool) (pBuf : Bytes) :
    h.step (.handlePacket messageFn pBuf) = sctpAssocHandlePacket h messageFn pBuf := rfl

/-! ## The steps of a run

A packet is handled chunk by chunk, so a call is a sequence of steps, and a run is one long sequence
of them. -/

inductive Step where
  | connect
  | send (m : SctpMessage)
  | chunk (messageFn : Bool) (c : SctpChunk)
  | checkTimers (nowMs : UINT64)
  | shutdown

def Host.move : Step → Host
  | .connect => sctpAssocConnect h
  | .send m => sctpAssocSend h m
  | .chunk messageFn c => sctpChunkDispatch messageFn h c
  | .checkTimers nowMs => sctpAssocCheckTimers h nowMs
  | .shutdown => sctpAssocShutdown h

def Host.moves (steps : List Step) : Host := steps.foldl Host.move h

/-- The chunks of a packet that reach the dispatcher. -/
def Host.acceptedChunks (pBuf : Bytes) : List SctpChunk :=
  if pBuf.length < SCTP_COMMON_HEADER_SIZE then [] else
  let v := sctpValidatePacket pBuf h.assoc.myVerificationTag
  if v.1 ≠ .SUCCESS then [] else sctpParseChunks v.2

def Host.stepsOf : Op → List Step
  | .connect => [.connect]
  | .send m => [.send m]
  | .handlePacket messageFn pBuf => (h.acceptedChunks pBuf).map (.chunk messageFn)
  | .checkTimers nowMs => [.checkTimers nowMs]
  | .shutdown => [.shutdown]

/-- The steps of a run. -/
def Host.expand : Host → List Op → List Step
  | _, [] => []
  | h, op :: ops => h.stepsOf op ++ (h.step op).expand ops

@[simp] theorem Host.moves_nil : h.moves [] = h := rfl

@[simp] theorem Host.moves_cons (st : Step) (steps : List Step) :
    h.moves (st :: steps) = (h.move st).moves steps := rfl

theorem Host.moves_append (steps steps' : List Step) :
    h.moves (steps ++ steps') = (h.moves steps).moves steps' := List.foldl_append

theorem Host.step_eq_moves (op : Op) : h.step op = h.moves (h.stepsOf op) := by
  cases op with
  | handlePacket messageFn pBuf =>
    show sctpAssocHandlePacket h messageFn pBuf = List.foldl Host.move h _
    unfold sctpAssocHandlePacket Host.stepsOf Host.acceptedChunks
    rw [List.foldl_map]
    split
    · rfl
    · simp only
      split <;> rfl
  | _ => rfl

theorem Host.run_eq_moves (ops : List Op) : h.run ops = h.moves (h.expand ops) := by
  induction ops generalizing h with
  | nil => rfl
  | cons op ops ih =>
    rw [Host.run_cons, ih, h.step_eq_moves op, Host.expand, Host.moves_append, ← h.step_eq_moves op]

theorem Host.expand_append (ops ops' : List Op) :
    h.expand (ops ++ ops') = h.expand ops ++ (h.run ops).expand ops' := by
  induction ops generalizing h with
  | nil => rfl
  | cons op ops ih =>
    show h.stepsOf op ++ (h.step op).expand (ops ++ ops') = _
    rw [ih, ← List.append_assoc]
    rfl

theorem Host.acceptedChunks_carries {h : Host} {p : Bytes} {vtag : UINT32} {c : SctpChunk}
    (hp : Carries p vtag c) :
    h.acceptedChunks p =
      if vtag ≠ 0 ∧ h.assoc.myVerificationTag ≠ 0 ∧ vtag ≠ h.assoc.myVerificationTag then []
      else [c] := by
  unfold Host.acceptedChunks
  rw [if_neg (Nat.not_lt.mpr hp.length)]
  simp only [hp.validate]
  split
  · rw [if_pos (by decide)]
  · rw [if_neg (by decide), hp.chunks]

/-! ## A fixed association for the examples -/

def sampleCookie : SctpCookie :=
  ⟨SCTP_COOKIE_MAGIC1, SCTP_COOKIE_MAGIC2, 9, 7, 100, 7, SCTP_DEFAULT_ARWND, 0, 300, 300, 0⟩

def sampleCookieEcho : Bytes :=
  onePacket 5000 5000 0 ⟨SCTP_CHUNK_COOKIE_ECHO, 0, sampleCookie.toBytes⟩

/-- An association that the COOKIE-ECHO above has established. -/
def sampleHost : Host := acceptCookie (sctpAssocInit (fun _ => 7) 5000 5000 1150) sampleCookie

theorem run_sampleCookieEcho (ops : List Op) :
    (sctpAssocInit (fun _ => 7) 5000 5000 1150).run (.handlePacket true sampleCookieEcho :: ops) =
      sampleHost.run ops := by
  have hstep : (sctpAssocInit (fun _ => 7) 5000 5000 1150).step
      (.handlePacket true sampleCookieEcho) = sampleHost :=
    sctpAssocHandlePacket_cookieEcho (carries_onePacket _ _ _ (by
      rw [SctpCookie.length_toBytes]
      decide)) rfl rfl (fun _ => rfl)
  rw [Host.run_cons, hstep]

end KvsWebrtc.Sctp
