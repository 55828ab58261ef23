import KvsWebrtc.Rtp.PacketLayout
import KvsWebrtc.Rtp.Receiver

/-!
# Redundant audio (`RtpRedPayloader.c`)

The sender keeps its last `redundancyLevel` Opus frames in a ring and repeats some of them in front
of each new frame; the receiver cuts a RED packet into its blocks again and numbers them by their
position.  An oversize frame is sent as plain Opus and does not enter the ring.  Lengths are
natural numbers (they stay far below `2^32`), a slot with an empty payload is unused, and
allocations succeed.
-/

namespace KvsWebrtc.Rtp

abbrev RED_HEADER_LEN_NON_LAST : Nat := 4
abbrev RED_HEADER_LEN_LAST : Nat := 1
abbrev RED_MAX_BLOCK_LEN : Nat := 1023
abbrev RED_MAX_TS_DELTA : Nat := 16384
abbrev RED_MAX_BLOCKS : Nat := 32
abbrev RED_MAX_REDUNDANCY : Nat := 9
abbrev RED_DEFAULT_REDUNDANCY : Nat := 1
abbrev SRTP_AUTH_TAG_OVERHEAD : Nat := 10

/-! ## The sender -/

structure RedSenderSlot where
  rtpTimestamp : UINT32
  payload : Bytes
  deriving DecidableEq, Repr

structure RedSenderState where
  redundancyLevel : Nat
  opusPayloadType : UINT8
  nextSlot : Nat
  slots : Nat → RedSenderSlot

def unusedSlot : RedSenderSlot := ⟨0, []⟩

def createRedSenderState (redundancyLevel opusPayloadType : UINT8) : RedSenderState where
  redundancyLevel :=
    if redundancyLevel = 0 then RED_DEFAULT_REDUNDANCY
    else min redundancyLevel.toNat RED_MAX_REDUNDANCY
  opusPayloadType := opusPayloadType
  nextSlot := 0
  slots := fun _ => unusedSlot

/-- The loop of `selectRedundantBlocks` over `n` slots from the `i`-th oldest on. -/
def selectLoop (st : RedSenderState) (rtpTimestamp : UINT32) (mtuBudget : Nat) :
    Nat → Nat → List Nat → Nat → List Nat × Nat
  | 0, _, chosen, bodyBytes => (chosen, bodyBytes)
  | n + 1, i, chosen, bodyBytes =>
    let slotIdx := (st.nextSlot + i) % st.redundancyLevel
    let slot := st.slots slotIdx
    let tsDelta := rtpTimestamp - slot.rtpTimestamp
    if slot.payload.length = 0 then
      selectLoop st rtpTimestamp mtuBudget n (i + 1) chosen bodyBytes
    else if tsDelta = 0 ∨ tsDelta.toNat ≥ RED_MAX_TS_DELTA then
      selectLoop st rtpTimestamp mtuBudget n (i + 1) chosen bodyBytes
    else if slot.payload.length > RED_MAX_BLOCK_LEN then
      selectLoop st rtpTimestamp mtuBudget n (i + 1) chosen bodyBytes
    else
      let addedBytes := RED_HEADER_LEN_NON_LAST + slot.payload.length
      if bodyBytes + addedBytes > mtuBudget then (chosen, bodyBytes)
      else if chosen.length + 1 ≥ RED_MAX_BLOCKS - 1 then
        (chosen ++ [slotIdx], bodyBytes + addedBytes)
      else selectLoop st rtpTimestamp mtuBudget n (i + 1) (chosen ++ [slotIdx])
        (bodyBytes + addedBytes)

/-- The slots that are repeated, oldest first, and the size of the body. -/
def selectRedundantBlocks (st : RedSenderState) (rtpTimestamp : UINT32)
    (mtuBudget primaryLen : Nat) : List Nat × Nat :=
  selectLoop st rtpTimestamp mtuBudget st.redundancyLevel 0 [] (RED_HEADER_LEN_LAST + primaryLen)

/-- The header of a block that is not the last. -/
def redBlockHeader (opusPt : UINT8) (tsDelta blockLen : UINT32) : Bytes :=
  [0x80 ||| (opusPt &&& 0x7F),
    (((tsDelta &&& 0x3FFF) >>> 6) &&& 0xFF).truncate 8,
    ((((tsDelta &&& 0x3F) <<< 2) ||| ((blockLen >>> 8) &&& 0x3)) &&& 0xFF).truncate 8,
    (blockLen &&& 0xFF).truncate 8]

/-- The body of a RED packet that repeats `chosen`. -/
def redBody (opusPt : UINT8) (rtpTimestamp : UINT32) (chosen : List RedSenderSlot)
    (opusFrame : Bytes) : Bytes :=
  (chosen.flatMap fun slot => redBlockHeader opusPt (rtpTimestamp - slot.rtpTimestamp)
      (BitVec.ofNat 32 slot.payload.length)) ++
    (opusPt &&& 0x7F) :: (chosen.flatMap RedSenderSlot.payload ++ opusFrame)

def mtuBudgetOf (mtu : UINT32) : Nat :=
  if mtu.toNat > SRTP_AUTH_TAG_OVERHEAD + 24 then mtu.toNat - SRTP_AUTH_TAG_OVERHEAD - 24 else 0

/-- What a call that writes leaves: the payload, whether it is plain Opus, and the ring. -/
structure RedPayload where
  payload : Bytes
  isFallbackToPlainOpus : Bool
  state : RedSenderState

/-- The call with a buffer.  The call without one answers the length of `payload`, and the caller
passes a buffer of that length. -/
def createPayloadForOpusRed (mtu : UINT32) (opusFrame : Bytes) (rtpTimestamp : UINT32)
    (st : RedSenderState) : Except STATUS RedPayload :=
  if opusFrame.length = 0 then .error .INVALID_ARG
  else if opusFrame.length > RED_MAX_BLOCK_LEN then .ok ⟨opusFrame, true, st⟩
  else
    let chosen := (selectRedundantBlocks st rtpTimestamp (mtuBudgetOf mtu) opusFrame.length).1
    .ok {
      payload := redBody st.opusPayloadType rtpTimestamp (chosen.map st.slots) opusFrame
      isFallbackToPlainOpus := false
      state := { st with
        slots := Function.update st.slots st.nextSlot ⟨rtpTimestamp, opusFrame⟩
        nextSlot := (st.nextSlot + 1) % st.redundancyLevel } }

/-! ## The receiver -/

structure RedBlockInfo where
  payloadType : UINT8
  tsOffset : UINT32
  payloadLen : Nat
  isLast : Bool
  deriving DecidableEq, Repr

/-- The loop of `parseRedHeaders` with room for `n` more blocks: the blocks, the last of which still
has no length, and the length of the headers.  Leaving the loop without a last block is an error. -/
def parseRedHeaders (body : Bytes) : Nat → Nat → List RedBlockInfo →
    Except STATUS (List RedBlockInfo × Nat)
  | n, off, blocks =>
    if off < body.length then
      match n with
      | 0 => .error .RTP_INVALID_RED_PACKET
      | n + 1 =>
        let first := byteAt body off
        if first &&& 0x80 ≠ 0 then
          if off + RED_HEADER_LEN_NON_LAST ≤ body.length then
            let b1 := (byteAt body (off + 1)).zeroExtend 32
            let b2 := (byteAt body (off + 2)).zeroExtend 32
            let b3 := (byteAt body (off + 3)).zeroExtend 32
            parseRedHeaders body n (off + RED_HEADER_LEN_NON_LAST) (blocks ++ [{
              payloadType := first &&& 0x7F
              tsOffset := (b1 <<< 6) ||| (b2 >>> 2)
              payloadLen := (((b2 &&& 0x3) <<< 8) ||| b3).toNat
              isLast := false }])
          else .error .RTP_INVALID_RED_PACKET
        else .ok (blocks ++ [⟨first &&& 0x7F, 0, 0, true⟩], off + RED_HEADER_LEN_LAST)
    else .error .RTP_INVALID_RED_PACKET

/-- A packet of its own for one block. -/
def buildSyntheticPacket (red : InboundRtpPacket) (opusPt : UINT8) (timestamp : UINT32)
    (sequenceNumber : UINT16) (payload : Bytes) (isSynthetic : Bool) : InboundRtpPacket where
  header := {
    version := 2, padding := false, extension := false, marker := red.header.marker
    payloadType := opusPt, sequenceNumber := sequenceNumber, timestamp := timestamp
    ssrc := red.header.ssrc, csrcArray := [], extensionProfile := 0, extensionPayload := [] }
  payload := payload
  payloadLength := BitVec.ofNat 32 payload.length
  pRawPacket := payload
  receivedTime := red.receivedTime
  isSynthetic := isSynthetic

/-- The loop over the blocks; `payloads` starts with the payload of the first one. -/
def splitLoop (red : InboundRtpPacket) (opusPt : UINT8) :
    List RedBlockInfo → Bytes → List InboundRtpPacket
  | [], _ => []
  | block :: blocks, payloads =>
    let rest := splitLoop red opusPt blocks (payloads.drop block.payloadLen)
    if block.payloadType ≠ opusPt then rest
    else if block.isLast then
      buildSyntheticPacket red opusPt red.header.timestamp red.header.sequenceNumber
        (payloads.take block.payloadLen) false :: rest
    else
      buildSyntheticPacket red opusPt (red.header.timestamp - block.tsOffset)
        (red.header.sequenceNumber - BitVec.ofNat 16 blocks.length)
        (payloads.take block.payloadLen) true :: rest

/-- The payload lengths the headers declare. -/
def declaredLength (blocks : List RedBlockInfo) : Nat := (blocks.map RedBlockInfo.payloadLen).sum

/-- The packets of the blocks, oldest first. -/
def splitRedRtpPacket (red : InboundRtpPacket) (negotiatedOpusPt : UINT8) (maxCount : Nat) :
    Except STATUS (List InboundRtpPacket) :=
  if maxCount < 1 then .error .INVALID_ARG
  else if red.body = [] then .error .RTP_INVALID_RED_PACKET
  else
    match parseRedHeaders red.body RED_MAX_BLOCKS 0 [] with
    | .error e => .error e
    | .ok (blocks, headerTotalLen) =>
      let payloadsTotalLen := declaredLength blocks
      if headerTotalLen + payloadsTotalLen > red.body.length then .error .RTP_INVALID_RED_PACKET
      else if blocks.length > maxCount then .error .RTP_INVALID_RED_PACKET
      else
        -- the last block has the rest of the body
        let blocks := blocks.map fun block =>
          if block.isLast then
            { block with payloadLen := red.body.length - headerTotalLen - payloadsTotalLen }
          else block
        .ok (splitLoop red negotiatedOpusPt blocks (red.body.drop headerTotalLen))

end KvsWebrtc.Rtp
