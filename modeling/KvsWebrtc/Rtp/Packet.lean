import KvsWebrtc.Common

/-!
# RTP packets (`RtpPacket.c`)

The packet record, its serialisation and its parser, the packets of one frame and the packet of a
retransmission.  `csrcCount` and `extensionLength` are the lengths of the lists they belong to.
The CSRC list of a parsed packet is a pointer into the raw bytes that is never byte-swapped, so its
entries are the host's (little-endian) view of them.

Principal results:

* `setRtpPacketFromBytes_sequenceNumber` — a parsed packet carries the sequence number that was
  written;
* `setRtpPacketFromBytes_plain` — a packet without CSRCs is parsed at all;
* `getElem_constructRtpPacketsFrom` — the `i`-th packet of a frame has the `i`-th sequence number.
-/

namespace KvsWebrtc.Rtp

open ByteOrder

inductive STATUS where
  | RTP_INPUT_PACKET_TOO_SMALL
  | RTP_INVALID_EXTENSION_LEN
  | RTCP_INPUT_NACK_LIST_INVALID
  | RTCP_INPUT_SSRC_INVALID
  | ROLLING_BUFFER_NOT_IN_RANGE
  | NOT_ENOUGH_MEMORY
  | RTP_INVALID_RED_PACKET
  | INVALID_ARG
  | BUFFER_TOO_SMALL
  deriving DecidableEq, Repr

abbrev MIN_HEADER_LENGTH : Nat := 12
abbrev CSRC_OFFSET : Nat := 12
abbrev CSRC_LENGTH : Nat := 4
abbrev SEQ_NUMBER_OFFSET : Nat := 2
abbrev TIMESTAMP_OFFSET : Nat := 4
abbrev SSRC_OFFSET : Nat := 8

/-- `TWCC_EXT_PROFILE`: one-byte header extensions. -/
abbrev TWCC_EXT_PROFILE : UINT16 := 0xBEDE

structure RtpPacketHeader where
  version : UINT8
  padding : Bool
  extension : Bool
  marker : Bool
  payloadType : UINT8
  sequenceNumber : UINT16
  timestamp : UINT32
  ssrc : UINT32
  csrcArray : List UINT32
  extensionProfile : UINT16
  extensionPayload : Bytes
  deriving DecidableEq, Repr

/-- `payload` is what can be read from the payload pointer on; `payloadLength` of it is payload. -/
structure RtpPacket where
  header : RtpPacketHeader
  payload : Bytes
  payloadLength : UINT32
  pRawPacket : Bytes
  deriving DecidableEq, Repr

/-! ## Writing -/

def flagBit (b : Bool) (shift : Nat) : UINT8 := if b then 1#8 <<< shift else 0

/-- The fixed part of the header, twelve bytes long. -/
def fixedHeaderBytes (h : RtpPacketHeader) : Bytes :=
  [(h.version <<< 6) ||| BitVec.ofNat 8 h.csrcArray.length ||| flagBit h.padding 5 |||
      flagBit h.extension 4,
    h.payloadType ||| flagBit h.marker 7] ++ putUnalignedInt16BigEndian h.sequenceNumber ++
  putUnalignedInt32BigEndian h.timestamp ++ putUnalignedInt32BigEndian h.ssrc

def extensionBytes (h : RtpPacketHeader) : Bytes :=
  putUnalignedInt16BigEndian h.extensionProfile ++
    putUnalignedInt16BigEndian (BitVec.ofNat 16 (h.extensionPayload.length / 4)) ++
    h.extensionPayload

def setBytesFromRtpPacket (p : RtpPacket) : Except STATUS Bytes :=
  let h := p.header
  let start := fixedHeaderBytes h ++ h.csrcArray.flatMap putUnalignedInt32BigEndian
  if h.extension then
    if h.extensionPayload.length % 4 ≠ 0 then .error .RTP_INVALID_EXTENSION_LEN
    else .ok (start ++ extensionBytes h ++ p.payload.take p.payloadLength.toNat)
  else .ok (start ++ p.payload.take p.payloadLength.toNat)

/-! ## Parsing -/

def byteAt (raw : Bytes) (i : Nat) : UINT8 := raw.getD i 0

/-- The parser; `packetLength` is the length of `raw`.  The extension is read without a length
check, and its length in bytes is kept in 16 bits. -/
def setRtpPacketFromBytes (raw : Bytes) : Except STATUS RtpPacket :=
  if raw.length < MIN_HEADER_LENGTH then .error .RTP_INPUT_PACKET_TOO_SMALL else
  let csrcCount := (byteAt raw 0 &&& 0xF).toNat
  let currOffset := CSRC_OFFSET + csrcCount * CSRC_LENGTH
  if raw.length < currOffset then .error .RTP_INPUT_PACKET_TOO_SMALL else
  let extension := (byteAt raw 0 >>> 4) &&& 1 ≠ 0
  let extensionProfile := if extension then getUnalignedInt16BigEndian raw currOffset else 0
  let extensionLength : UINT16 :=
    if extension then getUnalignedInt16BigEndian raw (currOffset + 2) * 4 else 0
  let extOffset := if extension then currOffset + 4 else currOffset
  let payloadOffset := extOffset + extensionLength.toNat
  .ok {
    header := {
      version := (byteAt raw 0 >>> 6) &&& 3
      padding := (byteAt raw 0 >>> 5) &&& 1 ≠ 0
      extension := extension
      marker := (byteAt raw 1 >>> 7) &&& 1 ≠ 0
      payloadType := byteAt raw 1 &&& 0x7F
      sequenceNumber := getUnalignedInt16BigEndian raw SEQ_NUMBER_OFFSET
      timestamp := getUnalignedInt32BigEndian raw TIMESTAMP_OFFSET
      ssrc := getUnalignedInt32BigEndian raw SSRC_OFFSET
      csrcArray := (List.range csrcCount).map fun i =>
        BitVec.ofNat 32 (readLE raw (CSRC_OFFSET + i * CSRC_LENGTH) 4)
      extensionProfile := extensionProfile
      extensionPayload := (raw.drop extOffset).take extensionLength.toNat }
    payload := raw.drop payloadOffset
    payloadLength := BitVec.ofNat 32 raw.length - BitVec.ofNat 32 payloadOffset
    pRawPacket := raw }

/-- The parsed packet owns the bytes it was parsed from. -/
def createRtpPacketFromBytes (raw : Bytes) : Except STATUS RtpPacket := setRtpPacketFromBytes raw

/-- The retransmission of a packet: its payload is the original sequence number and the original
payload, under the sequence number, payload type and SSRC of the retransmission stream. -/
def constructRetransmitRtpPacketFromBytes (raw : Bytes) (sequenceNum : UINT16) (payloadType : UINT8)
    (ssrc : UINT32) : Except STATUS RtpPacket := do
  let p ← setRtpPacketFromBytes raw
  let q : RtpPacket := {
    header := { p.header with
      sequenceNumber := sequenceNum, ssrc := ssrc, payloadType := payloadType, padding := false }
    payload := putUnalignedInt16BigEndian p.header.sequenceNumber ++
      p.payload.take p.payloadLength.toNat
    payloadLength := p.payloadLength + 2
    pRawPacket := [] }
  let bytes ← setBytesFromRtpPacket q
  return { q with pRawPacket := bytes }

/-! ## The packets of a frame -/

/-- What a payloader leaves behind: the payload bytes and how they are cut. -/
structure PayloadArray where
  payloadBuffer : Bytes
  payloadSubLength : List Nat
  deriving DecidableEq, Repr

/-- The loop of `constructRtpPackets` from one fragment on. -/
def constructRtpPacketsFrom (payloadType : UINT8) (timestamp ssrc : UINT32) :
    UINT16 → Bytes → List Nat → List RtpPacket
  | _, _, [] => []
  | seq, buf, n :: rest =>
    { header := {
        version := 2, padding := false, extension := false, marker := rest.isEmpty,
        payloadType := payloadType, sequenceNumber := seq, timestamp := timestamp, ssrc := ssrc,
        csrcArray := [], extensionProfile := 0, extensionPayload := [] }
      payload := buf
      payloadLength := BitVec.ofNat 32 n
      pRawPacket := [] } ::
    constructRtpPacketsFrom payloadType timestamp ssrc (seq + 1) (buf.drop n) rest

/-- An empty payload returns at once and leaves `pPackets`, which the caller has just allocated,
as it is. -/
def constructRtpPackets (a : PayloadArray) (payloadType : UINT8) (startSequenceNumber : UINT16)
    (timestamp ssrc : UINT32) (pPackets : List RtpPacket) : List RtpPacket :=
  if a.payloadBuffer = [] then pPackets
  else constructRtpPacketsFrom payloadType timestamp ssrc startSequenceNumber a.payloadBuffer
    a.payloadSubLength

/-- A packet as `constructRtpPackets` builds it, with at most the header extension of
`writeFrame` added. -/
structure Plain (p : RtpPacket) : Prop where
  version : p.header.version = 2
  csrc : p.header.csrcArray = []
  aligned : p.header.extensionPayload.length % 4 = 0

/-! ## Reading back what was written -/

@[simp] theorem length_fixedHeaderBytes (h : RtpPacketHeader) : (fixedHeaderBytes h).length = 12 := by
  simp [fixedHeaderBytes]

theorem setBytesFromRtpPacket_start {p : RtpPacket} {raw : Bytes}
    (h : setBytesFromRtpPacket p = .ok raw) : ∃ rest, raw = fixedHeaderBytes p.header ++ rest := by
  unfold setBytesFromRtpPacket at h
  dsimp only at h
  split at h
  · split at h
    · cases h
    · cases h
      exact ⟨_, by simp only [List.append_assoc]; rfl⟩
  · cases h
    exact ⟨_, by simp only [List.append_assoc]; rfl⟩

theorem get16_fixedHeaderBytes (h : RtpPacketHeader) (rest : Bytes) :
    getUnalignedInt16BigEndian (fixedHeaderBytes h ++ rest) SEQ_NUMBER_OFFSET =
      h.sequenceNumber := by
  simp only [fixedHeaderBytes, List.append_assoc]
  rw [get16_skip _ (by simp)]
  simp

/-- **A parsed packet carries the sequence number that was written.** -/
theorem setRtpPacketFromBytes_sequenceNumber {p q : RtpPacket} {raw : Bytes}
    (hw : setBytesFromRtpPacket p = .ok raw) (hr : setRtpPacketFromBytes raw = .ok q) :
    q.header.sequenceNumber = p.header.sequenceNumber ∧ q.pRawPacket = raw := by
  obtain ⟨rest, rfl⟩ := setBytesFromRtpPacket_start hw
  unfold setRtpPacketFromBytes at hr
  split at hr
  · cases hr
  · dsimp only at hr
    split at hr
    · cases hr
    · cases hr
      exact ⟨get16_fixedHeaderBytes p.header rest, rfl⟩

theorem setBytesFromRtpPacket_plain {p : RtpPacket} (hp : Plain p) :
    ∃ raw, setBytesFromRtpPacket p = .ok raw := by
  unfold setBytesFromRtpPacket
  dsimp only
  split
  · rw [if_neg (by simp [hp.aligned])]
    exact ⟨_, rfl⟩
  · exact ⟨_, rfl⟩

theorem csrcCount_plain {p : RtpPacket} (hp : Plain p) (rest : Bytes) :
    byteAt (fixedHeaderBytes p.header ++ rest) 0 &&& 0xF = 0 := by
  have hflags : ∀ padding extension : Bool,
      ((2#8 <<< 6) ||| BitVec.ofNat 8 0 ||| flagBit padding 5 ||| flagBit extension 4) &&& 0xF =
        0 := by
    decide
  simp only [fixedHeaderBytes, hp.version, hp.csrc, List.length_nil, byteAt]
  exact hflags p.header.padding p.header.extension

/-- **A packet without CSRCs is parsed back.** -/
theorem setRtpPacketFromBytes_plain {p : RtpPacket} (hp : Plain p) {raw : Bytes}
    (hw : setBytesFromRtpPacket p = .ok raw) : ∃ q, setRtpPacketFromBytes raw = .ok q := by
  obtain ⟨rest, rfl⟩ := setBytesFromRtpPacket_start hw
  unfold setRtpPacketFromBytes
  rw [csrcCount_plain hp rest, if_neg (by simp)]
  rw [if_neg (by simp)]
  exact ⟨_, rfl⟩

/-! ## Sequence numbers of a frame -/

theorem length_constructRtpPacketsFrom (payloadType : UINT8) (timestamp ssrc : UINT32) :
    ∀ (lens : List Nat) (seq : UINT16) (buf : Bytes),
      (constructRtpPacketsFrom payloadType timestamp ssrc seq buf lens).length = lens.length
  | [], _, _ => rfl
  | n :: rest, seq, buf => by
    simp [constructRtpPacketsFrom, length_constructRtpPacketsFrom payloadType timestamp ssrc rest]

theorem getElem_constructRtpPacketsFrom (payloadType : UINT8) (timestamp ssrc : UINT32) :
    ∀ (lens : List Nat) (seq : UINT16) (buf : Bytes) (i : Nat) (p : RtpPacket),
      (constructRtpPacketsFrom payloadType timestamp ssrc seq buf lens)[i]? = some p →
      Plain p ∧ p.header.extension = false ∧
        p.header.sequenceNumber = seq + BitVec.ofNat 16 i
  | [], _, _, _, _, h => by simp [constructRtpPacketsFrom] at h
  | n :: rest, seq, buf, 0, p, h => by
    simp only [constructRtpPacketsFrom, List.getElem?_cons_zero, Option.some.injEq] at h
    subst h
    exact ⟨⟨rfl, rfl, rfl⟩, rfl, by simp⟩
  | n :: rest, seq, buf, i + 1, p, h => by
    obtain ⟨hplain, hext, hseq⟩ := getElem_constructRtpPacketsFrom payloadType timestamp ssrc rest
      (seq + 1) (buf.drop n) i p h
    refine ⟨hplain, hext, hseq.trans ?_⟩
    rw [BitVec.add_assoc, BitVec.add_comm 1, BitVec.ofNat_add]
    rfl

end KvsWebrtc.Rtp
