import KvsWebrtc.Common

/-!
# H.264 payloads (`RtpH264Payloader.c`)

A frame in Annex B format is cut into NAL units; small units are aggregated into STAP-A payloads,
large ones are fragmented into FU-A payloads, and `depayH264FromRtpPayload` turns one payload back
into Annex B.  Every function of the payloader runs in one of two modes, without a buffer (only the
sizes are computed) and with one.  Pointers are given, and the 32-bit counters wrap where the
source's do.  A read outside the bytes that were passed, or a write outside the buffer, is
the failure `outOfBounds`.
-/

namespace KvsWebrtc.H264

open ByteOrder

inductive STATUS where
  | RTP_INPUT_MTU_TOO_SMALL
  | RTP_INVALID_NALU
  | BUFFER_TOO_SMALL
  | INVALID_ARG
  deriving DecidableEq, Repr

inductive Failure where
  | status (s : STATUS)
  | outOfBounds
  deriving DecidableEq, Repr

abbrev MAX_NALUS_PER_FRAME : Nat := 64
abbrev STAP_A_NALU_OVERHEAD : Nat := 2
abbrev FU_A_HEADER_SIZE : Nat := 2
abbrev STAP_A_HEADER_SIZE : Nat := 1
abbrev STAP_B_HEADER_SIZE : Nat := 3
abbrev FU_A_INDICATOR : UINT8 := 28
abbrev FU_B_INDICATOR : UINT8 := 29
abbrev STAP_A_INDICATOR : UINT8 := 24
abbrev STAP_B_INDICATOR : UINT8 := 25
abbrev NAL_TYPE_MASK : UINT8 := 31
abbrev H264_NALU_TYPE_SLICE : UINT8 := 1
abbrev H264_NALU_TYPE_IDR : UINT8 := 5
abbrev H264_NALU_TYPE_SEI : UINT8 := 6
abbrev H264_NALU_TYPE_SPS : UINT8 := 7
abbrev H264_NALU_TYPE_PPS : UINT8 := 8
abbrev H264_NALU_TYPE_AUD : UINT8 := 9

/-- The value a `UINT32` keeps of `n`. -/
def wrap32 (n : Nat) : Nat := n % 2 ^ 32

def readAt (bytes : Bytes) (i : Nat) : Except Failure UINT8 :=
  match bytes[i]? with
  | some b => .ok b
  | none => .error .outOfBounds

def read16At (bytes : Bytes) (i : Nat) : Except Failure Nat :=
  if i + 2 ≤ bytes.length then .ok (getUnalignedInt16BigEndian bytes i).toNat
  else .error .outOfBounds

/-! ## Cutting the frame into NAL units -/

/-- The search for the next start code from `pCurrent` on.  The counter `offset` is a `UINT32`, the
pointer is not.  The answer is the offset where the search ends and the zeros before it that belong
to a start code. -/
def naluScan (nalus : Bytes) : Nat → Nat → Nat → Except Failure (Nat × Nat)
  | 0, _, offset => if offset < nalus.length then .error .outOfBounds else .ok (offset, 0)
  | n + 1, pCurrent, offset =>
    if offset < nalus.length then
      match nalus[pCurrent]? with
      | none => .error .outOfBounds
      | some c =>
        if c = 0 then naluScan nalus n (pCurrent + 1) (wrap32 (offset + 1))
        else if c = 1 ∧ nalus[pCurrent - 1]? = some 0 ∧ nalus[pCurrent - 2]? = some 0 then
          .ok (offset, if nalus[pCurrent - 3]? = some 0 then 3 else 2)
        else naluScan nalus n (pCurrent + 3) (wrap32 (offset + 3))
    else .ok (offset, 0)

/-- The zeros at the start of the frame, at most four. -/
def leadingZeros (nalus : Bytes) : Nat := ((nalus.take 4).takeWhile (· = 0)).length

/-- The start and the length of the first NAL unit. -/
def getNextNaluLength (nalus : Bytes) : Except Failure (Nat × Nat) :=
  let offset := leadingZeros nalus
  if offset < nalus.length ∧ offset < 4 ∧ 2 ≤ offset ∧ nalus[offset]? = some 1 then
    match naluScan nalus nalus.length (offset + 1) (offset + 1) with
    | .error e => .error e
    | .ok (stop, zeroCount) => .ok (offset + 1, min stop nalus.length - (offset + 1) - zeroCount)
  else .error (.status .RTP_INVALID_NALU)

/-- `nalu` is the `length` bytes at `pNalu`; the first byte there is read even if the length is
zero. -/
structure NaluInfo where
  firstByte : UINT8
  nalu : Bytes
  deriving DecidableEq, Repr

/-- The first pass, with room for so many NAL units: the units, and what remains of the frame. -/
def collectNalus : Nat → Bytes → Except Failure (List NaluInfo × Bytes)
  | 0, remaining => .ok ([], remaining)
  | n + 1, remaining =>
    if remaining.length = 0 then .ok ([], [])
    else
      match getNextNaluLength remaining with
      | .error e => .error e
      | .ok (startIndex, nextNaluLength) =>
        match remaining.drop startIndex with
        | [] => .ok ([], [])
        | b :: rest =>
          match collectNalus n ((b :: rest).drop nextNaluLength) with
          | .error e => .error e
          | .ok (infos, left) => .ok (⟨b, (b :: rest).take nextNaluLength⟩ :: infos, left)

/-! ## Payloads -/

/-- What is left of the buffers: bytes, and entries of `payloadSubLength`. -/
structure Room where
  maxPayloadLength : Nat
  maxPayloadSubLenSize : Nat
  deriving DecidableEq, Repr

/-- What one call produces; a call without a buffer writes nothing. -/
structure Filled where
  filledLength : Nat
  filledSubLenSize : Nat
  payloadBuffer : Bytes
  payloadSubLength : List Nat
  deriving DecidableEq, Repr

def maxNri (infos : List NaluInfo) : UINT8 :=
  infos.foldl (fun m info =>
    let nri := info.firstByte &&& 0x60
    if nri > m then nri else m) 0

def stapSize (infos : List NaluInfo) : Nat :=
  STAP_A_HEADER_SIZE + (infos.map fun info => STAP_A_NALU_OVERHEAD + info.nalu.length).sum

def createStapAPayload (infos : List NaluInfo) (room : Option Room) : Except Failure Filled :=
  let totalSize := wrap32 (stapSize infos)
  match room with
  | none => .ok ⟨totalSize, 1, [], []⟩
  | some room =>
    if 1 ≤ room.maxPayloadSubLenSize ∧ totalSize ≤ room.maxPayloadLength then
      if stapSize infos ≤ room.maxPayloadLength then
        .ok ⟨totalSize, 1,
          (STAP_A_INDICATOR ||| maxNri infos) :: infos.flatMap fun info =>
            putUnalignedInt16BigEndian (BitVec.ofNat 16 info.nalu.length) ++ info.nalu,
          [totalSize]⟩
      else .error .outOfBounds
    else .error (.status .BUFFER_TOO_SMALL)

/-- The FU header: the type of the unit, with a mark on the first and on the last fragment. -/
def fuHeader (naluType : UINT8) (isFirst isLast : Bool) : UINT8 :=
  if isFirst then naluType ||| 0x80 else if isLast then naluType ||| 0x40 else naluType

/-- The loop over the fragments; `rest` is what remains of the unit. -/
def fuaLoop (mtu : Nat) (info : NaluInfo) (room : Option Room) :
    Nat → Bytes → Filled → Except Failure Filled
  | 0, _, f => .ok f
  | n + 1, rest, f =>
    if rest.length = 0 then .ok f
    else
      let curPayloadSize := min (mtu - FU_A_HEADER_SIZE) rest.length
      let payloadSubLenSize := wrap32 (f.filledSubLenSize + 1)
      let payloadLength := wrap32 (f.filledLength + FU_A_HEADER_SIZE + curPayloadSize)
      match room with
      | none => fuaLoop mtu info room n (rest.drop curPayloadSize)
          { f with filledLength := payloadLength, filledSubLenSize := payloadSubLenSize }
      | some r =>
        if payloadSubLenSize ≤ r.maxPayloadSubLenSize ∧ payloadLength ≤ r.maxPayloadLength then
          if f.payloadBuffer.length + FU_A_HEADER_SIZE + curPayloadSize ≤ r.maxPayloadLength then
            fuaLoop mtu info room n (rest.drop curPayloadSize) {
              filledLength := payloadLength
              filledSubLenSize := payloadSubLenSize
              payloadBuffer := f.payloadBuffer ++
                (28 ||| (info.firstByte &&& 0x60)) ::
                  fuHeader (info.firstByte &&& 0x1F) (rest.length = info.nalu.length - 1)
                    (rest.length = curPayloadSize) ::
                  rest.take curPayloadSize
              payloadSubLength := f.payloadSubLength ++ [FU_A_HEADER_SIZE + curPayloadSize] }
          else .error .outOfBounds
        else .error (.status .BUFFER_TOO_SMALL)

def createPayloadFromNalu (mtu : Nat) (info : NaluInfo) (room : Option Room) :
    Except Failure Filled :=
  if mtu > FU_A_HEADER_SIZE then
    if info.nalu.length ≤ mtu then
      match room with
      | none => .ok ⟨info.nalu.length, 1, [], []⟩
      | some r =>
        if 1 ≤ r.maxPayloadSubLenSize ∧ info.nalu.length ≤ r.maxPayloadLength then
          .ok ⟨info.nalu.length, 1, info.nalu, [info.nalu.length]⟩
        else .error (.status .BUFFER_TOO_SMALL)
    else fuaLoop mtu info room info.nalu.length (info.nalu.drop 1) ⟨0, 0, [], []⟩
  else .error (.status .RTP_INPUT_MTU_TOO_SMALL)

/-- `payloadBuffer` and `payloadSubLength` are what was written there; `room` is absent in a call
that only computes the sizes. -/
structure PayloadArray where
  payloadLength : Nat
  payloadSubLenSize : Nat
  payloadBuffer : Bytes
  payloadSubLength : List Nat
  room : Option Room
  deriving DecidableEq, Repr

/-- What follows each call that creates payloads. -/
def PayloadArray.add (a : PayloadArray) (f : Filled) : PayloadArray :=
  match a.room with
  | none => { a with
      payloadLength := wrap32 (a.payloadLength + f.filledLength)
      payloadSubLenSize := wrap32 (a.payloadSubLenSize + f.filledSubLenSize) }
  | some r => { a with
      payloadBuffer := a.payloadBuffer ++ f.payloadBuffer
      payloadSubLength := a.payloadSubLength ++ f.payloadSubLength
      room := some ⟨r.maxPayloadLength - f.filledLength,
        r.maxPayloadSubLenSize - f.filledSubLenSize⟩ }

/-- The block that flushes the units that wait for aggregation; the source has it three times. -/
def flushStap (mtu : Nat) (waiting : List NaluInfo) (a : PayloadArray) :
    Except Failure PayloadArray :=
  match waiting with
  | [] => .ok a
  | [info] => (createPayloadFromNalu mtu info a.room).map a.add
  | infos => (createStapAPayload infos a.room).map a.add

/-- The second pass.  `waiting` is `naluInfos[stapStartIndex ..]`, `stapNaluCount` long. -/
def aggregate (mtu : Nat) : List NaluInfo → List NaluInfo → Nat → PayloadArray →
    Except Failure PayloadArray
  | [], waiting, _, a => flushStap mtu waiting a
  | info :: infos, waiting, currentStapSize, a =>
    let stapNaluSize := STAP_A_NALU_OVERHEAD + info.nalu.length
    if info.nalu.length > mtu then
      match flushStap mtu waiting a with
      | .error e => .error e
      | .ok a =>
        match createPayloadFromNalu mtu info a.room with
        | .error e => .error e
        | .ok f => aggregate mtu infos [] STAP_A_HEADER_SIZE (a.add f)
    else if currentStapSize + stapNaluSize ≤ mtu then
      aggregate mtu infos (waiting ++ [info]) (currentStapSize + stapNaluSize) a
    else
      match flushStap mtu waiting a with
      | .error e => .error e
      | .ok a => aggregate mtu infos [info] (STAP_A_HEADER_SIZE + stapNaluSize) a

/-- The array at the start of a call. -/
def initialArray (room : Option Room) : PayloadArray :=
  match room with
  | none => ⟨0, 0, [], [], none⟩
  | some r => ⟨r.maxPayloadLength, r.maxPayloadSubLenSize, [], [], some r⟩

/-- The call without a buffer has no room and answers the two sizes; the call with a buffer gets
its room through the same two arguments and answers them unchanged. -/
def createPayloadForH264 (mtu : Nat) (nalus : Bytes) (room : Option Room) :
    Except Failure PayloadArray :=
  if mtu > FU_A_HEADER_SIZE then
    match collectNalus MAX_NALUS_PER_FRAME nalus with
    | .error e => .error e
    | .ok (infos, left) =>
      if left.length > 0 then .error (.status .INVALID_ARG)
      else aggregate mtu infos [] STAP_A_HEADER_SIZE (initialArray room)
  else .error (.status .RTP_INPUT_MTU_TOO_SMALL)

/-- The payloads in the buffer, as the lengths cut it. -/
def cutPayloads : List Nat → Bytes → List Bytes
  | [], _ => []
  | n :: ns, buffer => buffer.take n :: cutPayloads ns (buffer.drop n)

def PayloadArray.payloads (a : PayloadArray) : List Bytes :=
  cutPayloads a.payloadSubLength a.payloadBuffer

/-! ## Frame starts -/

/-- The byte is an emulation prevention byte. -/
def isEmulationByte (data : Bytes) (byteIdx : Nat) : Except Failure Bool :=
  if byteIdx ≥ 2 then do
    let b0 ← readAt data byteIdx
    let b1 ← readAt data (byteIdx - 1)
    let b2 ← readAt data (byteIdx - 2)
    return b0 = 3 ∧ b1 = 0 ∧ b2 = 0
  else return false

def bitAt (data : Bytes) (bitPos : Nat) : Except Failure Nat := do
  let b ← readAt data (bitPos / 8)
  return b.toNat / 2 ^ (7 - bitPos % 8) % 2

/-- The loop over the leading zero bits: the position of the first set bit, and the zeros. -/
def countZeroBits (data : Bytes) (maxBits : Nat) : Nat → Nat → Nat → Except Failure (Nat × Nat)
  | 0, bitPos, zeroBits => .ok (bitPos, zeroBits)
  | n + 1, bitPos, zeroBits =>
    if bitPos < maxBits then do
      if ← isEmulationByte data (bitPos / 8) then
        countZeroBits data maxBits n (bitPos + 8) zeroBits
      else if (← bitAt data bitPos) = 1 then .ok (bitPos, zeroBits)
      else countZeroBits data maxBits n (bitPos + 1) (zeroBits + 1)
    else .ok (bitPos, zeroBits)

/-- The loop over the `n` value bits that remain. -/
def readValueBits (data : Bytes) (maxBits : Nat) : Nat → Nat → Nat → Except Failure (Option Nat)
  | 0, _, value => .ok (some value)
  | n + 1, bitPos, value => do
    if ← isEmulationByte data (bitPos / 8) then
      if bitPos + 8 + (n + 1) > maxBits then .ok none
      else
        let bit ← bitAt data (bitPos + 8)
        readValueBits data maxBits n (bitPos + 9) (2 * value + bit)
    else
      let bit ← bitAt data bitPos
      readValueBits data maxBits n (bitPos + 1) (2 * value + bit)

/-- The first Exp-Golomb code of `nBytes` bytes at `data`, if there is one. -/
def h264ReadUeGolomb (data : Bytes) (nBytes : Nat) : Except Failure (Option Nat) := do
  let maxBits := min nBytes 8 * 8
  let (bitPos, zeroBits) ← countZeroBits data maxBits maxBits 0 0
  if bitPos ≥ maxBits ∨ zeroBits ≥ 32 then return none
  else if bitPos + 1 + zeroBits > maxBits then return none
  else
    let value ← readValueBits data maxBits zeroBits (bitPos + 1) 0
    return value.map fun v => 2 ^ zeroBits - 1 + v

/-- A unit of this type starts a frame whatever its contents. -/
def alwaysStarts (naluType : UINT8) : Bool :=
  naluType = H264_NALU_TYPE_SPS ∨ naluType = H264_NALU_TYPE_PPS ∨
    naluType = H264_NALU_TYPE_SEI ∨ naluType = H264_NALU_TYPE_AUD

def isSlice (naluType : UINT8) : Bool :=
  naluType = H264_NALU_TYPE_SLICE ∨ naluType = H264_NALU_TYPE_IDR

def h264NaluIsFrameStart (nalu : Bytes) (naluLen : Nat) : Except Failure Bool :=
  if naluLen = 0 then return false
  else do
    let header ← readAt nalu 0
    let naluType := header &&& NAL_TYPE_MASK
    if alwaysStarts naluType then return true
    else if isSlice naluType then
      if naluLen < 2 then return false
      else return (← h264ReadUeGolomb (nalu.drop 1) (naluLen - 1)) = some 0
    else return false

/-! ## The depayloader -/

def start4ByteCode : Bytes := [0, 0, 0, 1]
def start3ByteCode : Bytes := [0, 0, 1]

/-- What a call leaves in `*pNaluLength`, in the buffer and in `*pIsStart`. -/
structure Depayed where
  naluLength : Nat
  naluData : Bytes
  isStart : Bool
  deriving DecidableEq, Repr

/-- The loop over the units of an aggregate at `pos`, for their total length.  `startCodeSize` is
that of the next unit. -/
def stapLengths (packet : Bytes) : Nat → Nat → Nat → Nat → Bool → Except Failure (Nat × Bool)
  | 0, _, _, _, _ => .error .outOfBounds
  | n + 1, pos, startCodeSize, naluLength, isFrameStart => do
    let subNaluSize ← read16At packet pos
    let naluLength := wrap32 (naluLength + subNaluSize + startCodeSize)
    let isFrameStart ←
      if isFrameStart then pure true else h264NaluIsFrameStart (packet.drop (pos + 2)) subNaluSize
    if subNaluSize > 0 ∧ pos + 2 + subNaluSize < packet.length then
      stapLengths packet n (pos + 2 + subNaluSize) start3ByteCode.length naluLength isFrameStart
    else .ok (naluLength, isFrameStart)

/-- The same loop when it copies. -/
def stapCopy (packet : Bytes) : Nat → Nat → Bytes → Except Failure Bytes
  | 0, _, _ => .error .outOfBounds
  | n + 1, pos, startCode => do
    let subNaluSize ← read16At packet pos
    if pos + 2 + subNaluSize ≤ packet.length then
      let copied := startCode ++ (packet.drop (pos + 2)).take subNaluSize
      if subNaluSize > 0 ∧ pos + 2 + subNaluSize < packet.length then
        return copied ++ (← stapCopy packet n (pos + 2 + subNaluSize) start3ByteCode)
      else return copied
    else .error .outOfBounds

/-- The first part of the function: the length, and whether the packet starts a frame. -/
def depayLength (packet startCode : Bytes) (b0 : UINT8) : Except Failure (Nat × Bool) :=
  let indicator := b0 &&& NAL_TYPE_MASK
  if indicator = FU_A_INDICATOR then do
    let b1 ← readAt packet 1
    let naluType := b1 &&& 0x1F
    if b1 &&& 0x80 ≠ 0 then
      let isFrameStart ←
        if alwaysStarts naluType then pure true
        else if isSlice naluType ∧ packet.length > FU_A_HEADER_SIZE then do
          let firstMb ← h264ReadUeGolomb (packet.drop FU_A_HEADER_SIZE)
            (packet.length - FU_A_HEADER_SIZE)
          pure (firstMb = some 0 : Bool)
        else pure false
      return (wrap32 (packet.length - FU_A_HEADER_SIZE + 1 + startCode.length), isFrameStart)
    else return (packet.length - FU_A_HEADER_SIZE, false)
  else if indicator = FU_B_INDICATOR then return (packet.length - 1, false)
  else if indicator = STAP_A_INDICATOR then
    stapLengths packet packet.length STAP_A_HEADER_SIZE startCode.length 0 false
  else if indicator = STAP_B_INDICATOR then
    stapLengths packet packet.length STAP_B_HEADER_SIZE startCode.length 0 false
  else do
    let isFrameStart ← h264NaluIsFrameStart packet packet.length
    return (wrap32 (packet.length + startCode.length), isFrameStart)

/-- The second part, which copies. -/
def depayData (packet startCode : Bytes) (b0 : UINT8) : Except Failure Bytes :=
  let indicator := b0 &&& NAL_TYPE_MASK
  if indicator = FU_A_INDICATOR then do
    let b1 ← readAt packet 1
    if b1 &&& 0x80 ≠ 0 then
      return startCode ++ ((b0 &&& 0x60) ||| (b1 &&& 0x1F)) :: packet.drop FU_A_HEADER_SIZE
    else return packet.drop FU_A_HEADER_SIZE
  else if indicator = FU_B_INDICATOR then
    -- never a starting packet, and the length that was computed reaches past the end
    if packet.length - 1 = 0 then return [] else .error .outOfBounds
  else if indicator = STAP_A_INDICATOR then
    stapCopy packet packet.length STAP_A_HEADER_SIZE startCode
  else if indicator = STAP_B_INDICATOR then
    stapCopy packet packet.length STAP_B_HEADER_SIZE startCode
  else return startCode ++ packet

/-- `capacity` is `*pNaluLength` if there is a buffer; `isStart` is `*pIsStart` if there is one. -/
def depayH264FromRtpPayload (packet : Bytes) (capacity : Option Nat) (isStart : Option Bool) :
    Except Failure Depayed :=
  let startCode := if isStart = some false then start3ByteCode else start4ByteCode
  match packet with
  | [] => return ⟨0, [], false⟩
  | b0 :: _ => do
    let (naluLength, isFrameStart) ← depayLength packet startCode b0
    match capacity with
    | none => return ⟨naluLength, [], isFrameStart⟩
    | some capacity =>
      if naluLength ≤ capacity then
        let naluData ← depayData packet startCode b0
        return ⟨naluLength, naluData, isFrameStart⟩
      else .error (.status .BUFFER_TOO_SMALL)

end KvsWebrtc.H264
