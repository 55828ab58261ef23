import KvsWebrtc.Rtp.PacketLayout

/-!
# Writing and parsing RTP packets (`RtpPacket.c`)

`createBytesFromRtpPacket` writes the CSRC identifiers in network order, and `setRtpPacketFromBytes`
leaves a pointer to them as they are on the wire.  A packet that is written and parsed, bytes that
are parsed and written, and a packet that is retransmitted therefore come back unchanged exactly
when every CSRC identifier reads the same in both byte orders and the size of the packet fits its 32
bit length.

Principal results:

* `setBytesFromRtpPacket_parts` — the parts of the bytes that are written;
* `rtp_round_trip_iff` — the three round trips.
-/

namespace KvsWebrtc.Rtp

open ByteOrder

attribute [ext] RtpPacketHeader

/-- `RTP_GET_RAW_PACKET_SIZE` -/
def rawPacketSize (p : RtpPacket) : UINT32 :=
  BitVec.ofNat 32 (12 + p.header.csrcArray.length * CSRC_LENGTH +
    if p.header.extension then 4 + p.header.extensionPayload.length else 0) + p.payloadLength

/-- The call with a buffer of `packetLength` bytes; the call without one answers
`rawPacketSize`. -/
def createBytesFromRtpPacket (p : RtpPacket) (packetLength : UINT32) : Except STATUS Bytes :=
  if packetLength < rawPacketSize p then .error .NOT_ENOUGH_MEMORY else setBytesFromRtpPacket p

/-- A packet with fields in range, as `setRtpPacket` leaves it. -/
structure WellFormed (p : RtpPacket) : Prop where
  version : p.header.version.toNat < 4
  csrcCount : p.header.csrcArray.length ≤ 15
  payloadType : p.header.payloadType.toNat < 128
  extension : p.header.extension = true →
    p.header.extensionPayload.length % 4 = 0 ∧ p.header.extensionPayload.length < 65536
  noExtension : p.header.extension = false →
    p.header.extensionProfile = 0 ∧ p.header.extensionPayload = []
  payload : p.payloadLength.toNat ≤ p.payload.length

/-- How many bytes come before the payload. -/
def headerLength (h : RtpPacketHeader) : Nat :=
  12 + 4 * h.csrcArray.length + if h.extension then 4 + h.extensionPayload.length else 0

/-- Every identifier reads the same in both byte orders. -/
def Symmetric (csrcArray : List UINT32) : Prop :=
  ∀ c ∈ csrcArray, putUnalignedInt32BigEndian c = encodeLE 4 c.toNat

instance (csrcArray : List UINT32) : Decidable (Symmetric csrcArray) :=
  List.decidableBAll _ csrcArray

/-! ## The bytes of the fixed header -/

section FixedHeader

variable (h : RtpPacketHeader) (rest : Bytes)

theorem get32_timestamp :
    getUnalignedInt32BigEndian (fixedHeaderBytes h ++ rest) TIMESTAMP_OFFSET = h.timestamp := by
  simp only [fixedHeaderBytes, List.append_assoc]
  rw [get32_skip _ (by simp [TIMESTAMP_OFFSET]), get32_skip _ (by simp [TIMESTAMP_OFFSET])]
  simp

theorem get32_ssrc :
    getUnalignedInt32BigEndian (fixedHeaderBytes h ++ rest) SSRC_OFFSET = h.ssrc := by
  simp only [fixedHeaderBytes, List.append_assoc]
  rw [get32_skip _ (by simp [SSRC_OFFSET]), get32_skip _ (by simp [SSRC_OFFSET]),
    get32_skip _ (by simp [SSRC_OFFSET])]
  simp

theorem firstByte_bits : ∀ (version : Fin 4) (csrcCount : Fin 16) (padding extension : Bool),
    let b := (BitVec.ofNat 8 version.val <<< 6) ||| BitVec.ofNat 8 csrcCount.val |||
      flagBit padding 5 ||| flagBit extension 4
    (b >>> 6) &&& 3 = BitVec.ofNat 8 version.val ∧ (b &&& 0xF).toNat = csrcCount.val ∧
      decide ((b >>> 5) &&& 1 ≠ 0) = padding ∧ decide ((b >>> 4) &&& 1 ≠ 0) = extension := by
  decide

theorem secondByte_bits : ∀ (payloadType : Fin 128) (marker : Bool),
    let b := BitVec.ofNat 8 payloadType.val ||| flagBit marker 7
    b &&& 0x7F = BitVec.ofNat 8 payloadType.val ∧ decide ((b >>> 7) &&& 1 ≠ 0) = marker := by
  decide

theorem byteAt_zero (hv : h.version.toNat < 4) (hc : h.csrcArray.length ≤ 15) :
    let b := byteAt (fixedHeaderBytes h ++ rest) 0
    (b >>> 6) &&& 3 = h.version ∧ (b &&& 0xF).toNat = h.csrcArray.length ∧
      decide ((b >>> 5) &&& 1 ≠ 0) = h.padding ∧ decide ((b >>> 4) &&& 1 ≠ 0) = h.extension := by
  have hbits := firstByte_bits ⟨h.version.toNat, hv⟩ ⟨h.csrcArray.length, by omega⟩ h.padding
    h.extension
  rw [BitVec.ofNat_toNat, BitVec.setWidth_eq] at hbits
  exact hbits

theorem byteAt_one (hp : h.payloadType.toNat < 128) :
    let b := byteAt (fixedHeaderBytes h ++ rest) 1
    b &&& 0x7F = h.payloadType ∧ decide ((b >>> 7) &&& 1 ≠ 0) = h.marker := by
  have hbits := secondByte_bits ⟨h.payloadType.toNat, hp⟩ h.marker
  rw [BitVec.ofNat_toNat, BitVec.setWidth_eq] at hbits
  exact hbits

end FixedHeader

/-! ## The bytes of the CSRC list -/

/-- The CSRC list in network order. -/
def csrcWireBytes (csrcArray : List UINT32) : Bytes := csrcArray.flatMap putUnalignedInt32BigEndian

theorem length_csrcWireBytes (csrcArray : List UINT32) :
    (csrcWireBytes csrcArray).length = 4 * csrcArray.length := by
  induction csrcArray with
  | nil => rfl
  | cons c cs ih =>
    rw [csrcWireBytes, List.flatMap_cons, List.length_append, length_put32, ← csrcWireBytes, ih,
      List.length_cons]
    omega

theorem encodeLE_inj {c d : UINT32} (h : encodeLE 4 c.toNat = encodeLE 4 d.toNat) : c = d := by
  have hdec := congrArg decodeLE h
  rw [decodeLE_encodeLE, decodeLE_encodeLE] at hdec
  apply BitVec.eq_of_toNat_eq
  have hc := c.isLt
  have hd := d.isLt
  omega

theorem csrcBytes_inj : ∀ {cs ds : List UINT32}, cs.length = ds.length →
    csrcBytes cs = csrcBytes ds → cs = ds
  | [], [], _, _ => rfl
  | c :: cs, d :: ds, hlen, h => by
    obtain ⟨hhead, htail⟩ := List.append_inj h (by simp)
    rw [encodeLE_inj hhead, csrcBytes_inj (by simpa using hlen) htail]

/-- Written in network order and read in host order, a list is the same when it is symmetric. -/
theorem csrcBytes_eq_wire_iff {cs : List UINT32} : csrcBytes cs = csrcWireBytes cs ↔ Symmetric cs := by
  induction cs with
  | nil => exact ⟨fun _ c hc => absurd hc (by simp), fun _ => rfl⟩
  | cons c cs ih =>
    unfold Symmetric at ih ⊢
    rw [List.forall_mem_cons, ← ih]
    simp only [csrcBytes, csrcWireBytes, List.flatMap_cons]
    constructor
    · intro h
      obtain ⟨hhead, htail⟩ := List.append_inj h (by simp)
      exact ⟨hhead.symm, htail⟩
    · rintro ⟨hhead, htail⟩
      rw [hhead, htail]

/-! ## The parts of the bytes that are written -/

/-- The extension header of a packet. -/
def extensionHeaderBytes (h : RtpPacketHeader) : Bytes :=
  if h.extension then putUnalignedInt16BigEndian h.extensionProfile ++
    putUnalignedInt16BigEndian (BitVec.ofNat 16 (h.extensionPayload.length / 4)) else []

theorem WellFormed.length_body {p : RtpPacket} (hp : WellFormed p) :
    p.body.length = p.payloadLength.toNat := by
  rw [RtpPacket.body, List.length_take]
  exact Nat.min_eq_left hp.payload

theorem setBytesFromRtpPacket_eq {p : RtpPacket} (hp : WellFormed p) :
    setBytesFromRtpPacket p = .ok (fixedHeaderBytes p.header ++ (csrcWireBytes p.header.csrcArray ++
      (extensionHeaderBytes p.header ++ (p.header.extensionPayload ++ p.body)))) := by
  unfold setBytesFromRtpPacket extensionHeaderBytes
  dsimp only
  split
  · rename_i hext
    rw [if_neg (by simp [(hp.extension hext).1])]
    simp [extensionBytes, csrcWireBytes, RtpPacket.body]
  · rename_i hext
    simp only [Bool.not_eq_true] at hext
    simp [(hp.noExtension hext).2, csrcWireBytes, RtpPacket.body]

theorem length_extensionHeaderBytes (h : RtpPacketHeader) :
    (extensionHeaderBytes h).length = if h.extension then 4 else 0 := by
  unfold extensionHeaderBytes
  split <;> simp

theorem get16_extensionHeaderBytes {h : RtpPacketHeader} (hext : h.extension = true)
    (hlen : h.extensionPayload.length < 65536) :
    (getUnalignedInt16BigEndian (extensionHeaderBytes h) 2).toNat =
      h.extensionPayload.length / 4 := by
  rw [extensionHeaderBytes, if_pos hext, get16_skip _ (by simp), length_put16, Nat.sub_self,
    ← List.append_nil (putUnalignedInt16BigEndian (BitVec.ofNat 16 _)), get16_put16,
    BitVec.toNat_ofNat]
  omega

/-- **What is written has the parts of the packet.** -/
theorem setBytesFromRtpPacket_parts {p : RtpPacket} (hp : WellFormed p) :
    ∃ raw, setBytesFromRtpPacket p = .ok raw ∧
      Parts raw (fixedHeaderBytes p.header) (csrcWireBytes p.header.csrcArray)
        (extensionHeaderBytes p.header) p.header.extensionPayload p.body ∧
      hasExtension raw = p.header.extension ∧
      (hasExtension raw = true → extensionWords raw < 2 ^ 14) ∧
      raw.length = headerLength p.header + p.payloadLength.toNat := by
  obtain ⟨-, hcount, -, hext⟩ := byteAt_zero p.header (csrcWireBytes p.header.csrcArray ++
    (extensionHeaderBytes p.header ++ (p.header.extensionPayload ++ p.body))) hp.version hp.csrcCount
  have hw := setBytesFromRtpPacket_eq hp
  generalize hraw : fixedHeaderBytes p.header ++ (csrcWireBytes p.header.csrcArray ++
    (extensionHeaderBytes p.header ++ (p.header.extensionPayload ++ p.body))) = raw
    at hw hcount hext
  refine ⟨raw, hw, ?_⟩
  have hparts : Parts raw (fixedHeaderBytes p.header) (csrcWireBytes p.header.csrcArray)
      (extensionHeaderBytes p.header) p.header.extensionPayload p.body := by
    refine ⟨hraw.symm, length_fixedHeaderBytes _, ?_, ?_, ?_⟩
    · rw [length_csrcWireBytes, csrcCountOf, hcount]
    · rw [length_extensionHeaderBytes, hasExtension, hext]
    · rw [hasExtension, hext]
      split
      · rename_i hx
        rw [get16_extensionHeaderBytes hx (hp.extension hx).2]
        have := (hp.extension hx).1
        omega
      · rename_i hx
        rw [(hp.noExtension (by simpa using hx)).2, List.length_nil]
  refine ⟨hparts, hext, ?_, ?_⟩
  · intro hx
    have hx' : p.header.extension = true := hext.symm.trans hx
    rw [hparts.extensionWords_eq hx, get16_extensionHeaderBytes hx' (hp.extension hx').2]
    have := (hp.extension hx').2
    omega
  · rw [hparts.length_eq, hp.length_body, length_extensionHeaderBytes, hparts.csrcEnd_eq,
      List.length_append, length_fixedHeaderBytes, length_csrcWireBytes, headerLength]
    split
    · omega
    · rename_i hx
      rw [(hp.noExtension (by simpa using hx)).2, List.length_nil]
      omega

theorem toNat_rawPacketSize {p : RtpPacket} :
    (rawPacketSize p).toNat = (headerLength p.header + p.payloadLength.toNat) % 2 ^ 32 := by
  rw [rawPacketSize, BitVec.toNat_add, BitVec.toNat_ofNat, headerLength, CSRC_LENGTH,
    Nat.mul_comm p.header.csrcArray.length]
  omega

/-! ## The packet that is parsed from what was written -/

/-- What is parsed is the packet that was written, with the CSRC identifiers in the other byte
order. -/
theorem parsedPacket_written {p : RtpPacket} (hp : WellFormed p) {raw : Bytes}
    (hw : setBytesFromRtpPacket p = .ok raw) :
    ∃ csrcs, csrcBytes csrcs = csrcWireBytes p.header.csrcArray ∧
      csrcs.length = p.header.csrcArray.length ∧
      setRtpPacketFromBytes raw = .ok (parsedPacket raw) ∧
      (parsedPacket raw).header = { p.header with csrcArray := csrcs } ∧
      (parsedPacket raw).payload = p.body ∧
      (parsedPacket raw).payloadLength = p.payloadLength := by
  obtain ⟨raw', hw', hparts, hext, hwords, hlen⟩ := setBytesFromRtpPacket_parts hp
  rw [hw', Except.ok.injEq] at hw
  subst hw
  obtain ⟨hcsrc, hprofile, hpayload, hbody, hplen⟩ := parsedPacket_parts hparts hwords
  have hraw := hparts.eq
  obtain ⟨hversion, hcount, hpadding, -⟩ := byteAt_zero p.header (csrcWireBytes p.header.csrcArray ++
    (extensionHeaderBytes p.header ++ (p.header.extensionPayload ++ p.body))) hp.version hp.csrcCount
  obtain ⟨htype, hmarker⟩ := byteAt_one p.header (csrcWireBytes p.header.csrcArray ++
    (extensionHeaderBytes p.header ++ (p.header.extensionPayload ++ p.body))) hp.payloadType
  rw [← hraw] at hversion hcount hpadding htype hmarker
  have hcsrcLength : (parsedPacket raw').header.csrcArray.length = p.header.csrcArray.length := by
    rw [← hcount]
    simp [parsedPacket, csrcCountOf]
  refine ⟨_, hcsrc, hcsrcLength, ?_, ?_, hbody, ?_⟩
  · refine setRtpPacketFromBytes_ok_iff.mpr ⟨?_, rfl⟩
    have := hparts.length_eq
    omega
  · have hprofile' : (parsedPacket raw').header.extensionProfile = p.header.extensionProfile := by
      rw [hprofile, hext]
      split
      · rename_i hx
        rw [extensionHeaderBytes, if_pos hx, get16_put16]
      · rename_i hx
        rw [(hp.noExtension (by simpa using hx)).1]
    have hseq : (parsedPacket raw').header.sequenceNumber = p.header.sequenceNumber := by
      show getUnalignedInt16BigEndian raw' SEQ_NUMBER_OFFSET = _
      rw [hraw, get16_fixedHeaderBytes]
    have hts : (parsedPacket raw').header.timestamp = p.header.timestamp := by
      show getUnalignedInt32BigEndian raw' TIMESTAMP_OFFSET = _
      rw [hraw, get32_timestamp]
    have hssrc : (parsedPacket raw').header.ssrc = p.header.ssrc := by
      show getUnalignedInt32BigEndian raw' SSRC_OFFSET = _
      rw [hraw, get32_ssrc]
    exact RtpPacketHeader.ext hversion hpadding hext hmarker htype hseq hts hssrc rfl hprofile'
      hpayload
  · rw [hplen, hp.length_body, BitVec.ofNat_toNat, BitVec.setWidth_eq]

theorem csrcs_eq_iff {csrcs written : List UINT32} (h : csrcBytes csrcs = csrcWireBytes written)
    (hlen : csrcs.length = written.length) : csrcs = written ↔ Symmetric written := by
  rw [← csrcBytes_eq_wire_iff, ← h]
  exact ⟨fun heq => by rw [heq], fun heq => csrcBytes_inj hlen heq.symm⟩

/-! ## From a packet to bytes and back -/

/-- What is written fills a buffer of the size that was asked for, and is parsed into the same
packet. -/
def RoundTrips (p : RtpPacket) : Prop :=
  ∃ raw q, createBytesFromRtpPacket p (rawPacketSize p) = .ok raw ∧
    raw.length = (rawPacketSize p).toNat ∧ setRtpPacketFromBytes raw = .ok q ∧
    q.header = p.header ∧ q.body = p.body

theorem createBytesFromRtpPacket_self (p : RtpPacket) :
    createBytesFromRtpPacket p (rawPacketSize p) = setBytesFromRtpPacket p :=
  if_neg (by simp)

theorem roundTrips_iff {p : RtpPacket} (hp : WellFormed p) :
    RoundTrips p ↔
      Symmetric p.header.csrcArray ∧ headerLength p.header + p.payloadLength.toNat < 2 ^ 32 := by
  obtain ⟨raw, hw, -, -, -, hlen⟩ := setBytesFromRtpPacket_parts hp
  obtain ⟨csrcs, hcsrc, hcount, hparse, hheader, hbody, hplen⟩ := parsedPacket_written hp hw
  constructor
  · rintro ⟨raw', q, hw', hsize, hparse', hq, -⟩
    rw [createBytesFromRtpPacket_self, hw, Except.ok.injEq] at hw'
    subst hw'
    rw [hparse, Except.ok.injEq] at hparse'
    subst hparse'
    rw [hheader] at hq
    refine ⟨(csrcs_eq_iff hcsrc hcount).mp (congrArg RtpPacketHeader.csrcArray hq), ?_⟩
    rw [← hlen, hsize]
    exact (rawPacketSize p).isLt
  · rintro ⟨hsym, hsize⟩
    have heq := (csrcs_eq_iff hcsrc hcount).mpr hsym
    refine ⟨raw, parsedPacket raw, (createBytesFromRtpPacket_self p).trans hw, ?_, hparse, ?_, ?_⟩
    · rw [toNat_rawPacketSize, Nat.mod_eq_of_lt hsize, hlen]
    · rw [hheader, heq]
    · rw [RtpPacket.body, hbody, hplen, ← hp.length_body, List.take_length]

/-! ## From bytes to a packet and back -/

/-- The bytes are parsed, and what is parsed is written as the same bytes. -/
def Reproduces (raw : Bytes) : Prop :=
  ∃ p, setRtpPacketFromBytes raw = .ok p ∧
    createBytesFromRtpPacket p (rawPacketSize p) = .ok raw

theorem firstByte_compose : ∀ b : UINT8,
    (((b >>> 6) &&& 3) <<< 6) ||| BitVec.ofNat 8 (b &&& 0xF).toNat |||
      flagBit (decide ((b >>> 5) &&& 1 ≠ 0)) 5 ||| flagBit (decide ((b >>> 4) &&& 1 ≠ 0)) 4 = b := by
  decide

theorem secondByte_compose : ∀ b : UINT8,
    (b &&& 0x7F) ||| flagBit (decide ((b >>> 7) &&& 1 ≠ 0)) 7 = b := by
  decide

theorem parsedVersion_lt : ∀ b : UINT8, ((b >>> 6) &&& 3).toNat < 4 := by decide

theorem parsedCsrcCount_le : ∀ b : UINT8, (b &&& 0xF).toNat ≤ 15 := by decide

theorem parsedPayloadType_lt : ∀ b : UINT8, (b &&& 0x7F).toNat < 128 := by decide

/-- **A parsed header is written as it was.** -/
theorem fixedHeaderBytes_parsedPacket {raw : Bytes} (h : 12 ≤ raw.length) :
    fixedHeaderBytes (parsedPacket raw).header = raw.take 12 := by
  have hcount : (parsedPacket raw).header.csrcArray.length = (byteAt raw 0 &&& 0xF).toNat := by
    simp [parsedPacket, csrcCountOf]
  obtain ⟨b0, b1, rest, rfl⟩ : ∃ b0 b1 rest, raw = b0 :: b1 :: rest := by
    rcases raw with _ | ⟨b0, _ | ⟨b1, rest⟩⟩
    · simp at h
    · simp at h
    · exact ⟨b0, b1, rest, rfl⟩
  have h2 : (2 : Nat) + 2 ≤ (b0 :: b1 :: rest).length := by omega
  have h4 : (4 : Nat) + 4 ≤ (b0 :: b1 :: rest).length := by omega
  have h8 : (8 : Nat) + 4 ≤ (b0 :: b1 :: rest).length := by omega
  have hbytes : fixedHeaderBytes (parsedPacket (b0 :: b1 :: rest)).header =
      [b0, b1] ++ ((b0 :: b1 :: rest).drop 2).take 2 ++ ((b0 :: b1 :: rest).drop 4).take 4 ++
        ((b0 :: b1 :: rest).drop 8).take 4 := by
    rw [fixedHeaderBytes, hcount, ← put16_get16 h2, ← put32_get32 h4, ← put32_get32 h8]
    congr 4
    · exact firstByte_compose b0
    · exact congrArg (fun y => [y]) (secondByte_compose b1)
  rw [hbytes, show [b0, b1] = (b0 :: b1 :: rest).take 2 from rfl, ← List.take_add, ← List.take_add,
    ← List.take_add]

/-- A packet whose parts are known is parsed into a packet with fields in range, and its extension
header is written as it was. -/
theorem parsedPacket_wellFormed {raw fixed csrcs extensionHeader extensionPayload payload : Bytes}
    (h : Parts raw fixed csrcs extensionHeader extensionPayload payload)
    (hlen : raw.length < 2 ^ 32) (hwords : hasExtension raw = true → extensionWords raw < 2 ^ 14) :
    WellFormed (parsedPacket raw) ∧
      extensionHeaderBytes (parsedPacket raw).header = extensionHeader ∧
      (parsedPacket raw).body = payload ∧
      (parsedPacket raw).payloadLength.toNat = payload.length := by
  obtain ⟨-, hprofile, hpayload, hbody, hplen⟩ := parsedPacket_parts h hwords
  have hlt : payload.length < 2 ^ 32 := by
    have := h.length_eq
    omega
  have htoNat : (parsedPacket raw).payloadLength.toNat = payload.length := by
    rw [hplen, BitVec.toNat_ofNat, Nat.mod_eq_of_lt hlt]
  have hext : (parsedPacket raw).header.extension = hasExtension raw := rfl
  refine ⟨⟨parsedVersion_lt _, ?_, parsedPayloadType_lt _, ?_, ?_, ?_⟩, ?_, ?_, htoNat⟩
  · have hcount : (parsedPacket raw).header.csrcArray.length = (byteAt raw 0 &&& 0xF).toNat := by
      simp [parsedPacket, csrcCountOf]
    rw [hcount]
    exact parsedCsrcCount_le _
  · intro hx
    rw [hext] at hx
    have hle := h.payload_length
    rw [if_pos hx, ← h.extensionWords_eq hx] at hle
    have := hwords hx
    rw [hpayload]
    omega
  · intro hx
    have hx' : ¬ hasExtension raw = true := by simpa [← hext] using hx
    have hnil := h.payload_length
    rw [if_neg hx'] at hnil
    refine ⟨by rw [hprofile, if_neg hx'], ?_⟩
    rw [hpayload]
    exact List.eq_nil_of_length_eq_zero hnil
  · rw [htoNat, hbody]
  · rw [extensionHeaderBytes, hext, hprofile, hpayload, h.payload_length]
    have hheader := h.header_length
    split
    · rename_i hx
      rw [if_pos hx] at hheader
      rw [Nat.mul_div_cancel_left _ (by decide), BitVec.ofNat_toNat, BitVec.setWidth_eq,
        put16_get16 (by omega), put16_get16 (by omega), List.drop_zero, ← List.take_add,
        List.take_of_length_le (by omega)]
    · rename_i hx
      rw [if_neg hx] at hheader
      exact (List.eq_nil_of_length_eq_zero hheader).symm
  · rw [RtpPacket.body, htoNat, hbody, List.take_length]

theorem headerLength_parsedPacket
    {raw fixed csrcs extensionHeader extensionPayload payload : Bytes}
    (h : Parts raw fixed csrcs extensionHeader extensionPayload payload)
    (hwords : hasExtension raw = true → extensionWords raw < 2 ^ 14) :
    headerLength (parsedPacket raw).header =
      csrcEnd raw + (extensionHeader.length + extensionPayload.length) := by
  obtain ⟨-, -, hpayload, -, -⟩ := parsedPacket_parts h hwords
  have hcount : (parsedPacket raw).header.csrcArray.length = csrcCountOf raw := by
    simp [parsedPacket]
  have hext : (parsedPacket raw).header.extension = hasExtension raw := rfl
  rw [headerLength, hcount, hext, hpayload, h.header_length, csrcEnd, CSRC_OFFSET, CSRC_LENGTH,
    Nat.mul_comm]
  split
  · rfl
  · rename_i hx
    rw [h.payload_length, if_neg hx]

theorem reproduces_iff {raw : Bytes} (hlen : raw.length < 2 ^ 32) (hend : csrcEnd raw ≤ raw.length)
    (hfits : ExtensionFits raw) :
    Reproduces raw ↔ Symmetric (parsedPacket raw).header.csrcArray := by
  obtain ⟨fixed, csrcs, extensionHeader, extensionPayload, payload, hparts⟩ :=
    exists_parts hend hfits
  have hwords := fun h => (hfits hend h).2
  obtain ⟨hcsrc, -, hext, -, -⟩ := parsedPacket_parts hparts hwords
  obtain ⟨hp, hheader, hbody, -⟩ := parsedPacket_wellFormed hparts hlen hwords
  have hfixed : fixedHeaderBytes (parsedPacket raw).header = fixed := by
    rw [fixedHeaderBytes_parsedPacket (le_trans (Nat.le_add_right 12 _) hend)]
    conv_lhs => rw [hparts.eq]
    exact List.take_left' hparts.fixed_length
  have hwrite := setBytesFromRtpPacket_eq hp
  rw [hfixed, hheader, hext, hbody] at hwrite
  rw [← csrcBytes_eq_wire_iff, hcsrc]
  constructor
  · rintro ⟨p, hparse, hw⟩
    obtain ⟨-, rfl⟩ := setRtpPacketFromBytes_ok_iff.mp hparse
    rw [createBytesFromRtpPacket_self, hwrite, Except.ok.injEq] at hw
    have hwire := List.append_cancel_left (hw.trans hparts.eq)
    refine (List.append_inj hwire ?_).1.symm
    rw [length_csrcWireBytes, ← hcsrc, length_csrcBytes]
  · intro heq
    refine ⟨parsedPacket raw, setRtpPacketFromBytes_ok_iff.mpr ⟨hend, rfl⟩, ?_⟩
    rw [createBytesFromRtpPacket_self, hwrite, ← heq, ← hparts.eq]

/-! ## Retransmission -/

/-- The retransmission of `raw` fills a buffer of its size, and is parsed into the packet of `raw`
under the new sequence number, payload type and SSRC, behind the original sequence number. -/
def Retransmits (raw : Bytes) (sequenceNum : UINT16) (payloadType : UINT8) (ssrc : UINT32) : Prop :=
  ∃ q r, constructRetransmitRtpPacketFromBytes raw sequenceNum payloadType ssrc = .ok q ∧
    q.pRawPacket.length = (rawPacketSize q).toNat ∧ setRtpPacketFromBytes q.pRawPacket = .ok r ∧
    r.header = { (parsedPacket raw).header with
      sequenceNumber := sequenceNum, ssrc := ssrc, payloadType := payloadType, padding := false } ∧
    r.body = putUnalignedInt16BigEndian (parsedPacket raw).header.sequenceNumber ++
      (parsedPacket raw).body

/-- The packet that is written for a retransmission. -/
def retransmission (raw : Bytes) (sequenceNum : UINT16) (payloadType : UINT8) (ssrc : UINT32) :
    RtpPacket where
  header := { (parsedPacket raw).header with
    sequenceNumber := sequenceNum, ssrc := ssrc, payloadType := payloadType, padding := false }
  payload := putUnalignedInt16BigEndian (parsedPacket raw).header.sequenceNumber ++
    (parsedPacket raw).body
  payloadLength := (parsedPacket raw).payloadLength + 2
  pRawPacket := []

theorem constructRetransmitRtpPacketFromBytes_eq {raw : Bytes} (hend : csrcEnd raw ≤ raw.length)
    (sequenceNum : UINT16) (payloadType : UINT8) (ssrc : UINT32) :
    constructRetransmitRtpPacketFromBytes raw sequenceNum payloadType ssrc =
      (setBytesFromRtpPacket (retransmission raw sequenceNum payloadType ssrc)).map fun bytes =>
        { retransmission raw sequenceNum payloadType ssrc with pRawPacket := bytes } := by
  unfold constructRetransmitRtpPacketFromBytes
  rw [setRtpPacketFromBytes_ok_iff.mpr ⟨hend, rfl⟩]
  show (setBytesFromRtpPacket (retransmission raw sequenceNum payloadType ssrc) >>= fun bytes =>
    .ok { retransmission raw sequenceNum payloadType ssrc with pRawPacket := bytes }) = _
  cases setBytesFromRtpPacket (retransmission raw sequenceNum payloadType ssrc) <;> rfl

theorem retransmits_iff {raw : Bytes} (hlen : raw.length < 2 ^ 32) (hend : csrcEnd raw ≤ raw.length)
    (hfits : ExtensionFits raw) (sequenceNum : UINT16) {payloadType : UINT8} (ssrc : UINT32)
    (htype : payloadType.toNat < 128) :
    Retransmits raw sequenceNum payloadType ssrc ↔
      Symmetric (parsedPacket raw).header.csrcArray ∧ raw.length + 2 < 2 ^ 32 := by
  obtain ⟨fixed, csrcs, extensionHeader, extensionPayload, payload, hparts⟩ :=
    exists_parts hend hfits
  have hwords := fun h => (hfits hend h).2
  obtain ⟨hp, hheader, hbody, htoNat⟩ := parsedPacket_wellFormed hparts hlen hwords
  have hrawLength := hparts.length_eq
  have hmin : 12 ≤ csrcEnd raw := Nat.le_add_right 12 _
  have htwo : ((parsedPacket raw).payloadLength + 2).toNat = payload.length + 2 := by
    rw [BitVec.toNat_add, htoNat, show (2 : UINT32).toNat = 2 from rfl]
    omega
  -- the packet that is written is one that `roundTrips_iff` speaks of
  have hq : WellFormed (retransmission raw sequenceNum payloadType ssrc) := by
    refine ⟨hp.version, hp.csrcCount, htype, hp.extension, hp.noExtension, ?_⟩
    show ((parsedPacket raw).payloadLength + 2).toNat ≤ _
    rw [htwo, retransmission, List.length_append, length_put16, hbody]
    omega
  have hsize : headerLength (parsedPacket raw).header +
      ((parsedPacket raw).payloadLength + 2).toNat = raw.length + 2 := by
    rw [htwo, headerLength_parsedPacket hparts hwords]
    omega
  have hqbody : (retransmission raw sequenceNum payloadType ssrc).body =
      putUnalignedInt16BigEndian (parsedPacket raw).header.sequenceNumber ++
        (parsedPacket raw).body := by
    apply List.take_of_length_le
    show (putUnalignedInt16BigEndian _ ++ (parsedPacket raw).body).length ≤
      ((parsedPacket raw).payloadLength + 2).toNat
    rw [htwo, List.length_append, length_put16, hbody, Nat.add_comm]
  have hround := roundTrips_iff hq
  rw [show headerLength (retransmission raw sequenceNum payloadType ssrc).header +
    (retransmission raw sequenceNum payloadType ssrc).payloadLength.toNat = raw.length + 2
    from hsize] at hround
  refine Iff.trans ?_ hround
  unfold Retransmits RoundTrips
  rw [constructRetransmitRtpPacketFromBytes_eq hend, ← hqbody, createBytesFromRtpPacket_self]
  constructor
  · rintro ⟨q, r, hconstruct, hfill, hparse, hr, hrbody⟩
    cases hw : setBytesFromRtpPacket (retransmission raw sequenceNum payloadType ssrc) with
    | error e =>
      rw [hw] at hconstruct
      cases hconstruct
    | ok bytes =>
      rw [hw] at hconstruct
      cases hconstruct
      exact ⟨bytes, r, rfl, hfill, hparse, hr, hrbody⟩
  · rintro ⟨bytes, r, hw, hfill, hparse, hr, hrbody⟩
    rw [hw]
    exact ⟨_, r, rfl, hfill, hparse, hr, hrbody⟩

/-! ## The three round trips -/

/-- **Packets, bytes and retransmissions come back unchanged exactly when the CSRC identifiers are
symmetric and the size fits.** -/
theorem rtp_round_trip_iff (p : RtpPacket) (raw : Bytes) (sequenceNum : UINT16)
    (payloadType : UINT8) (ssrc : UINT32) :
    (WellFormed p → (RoundTrips p ↔
      Symmetric p.header.csrcArray ∧ headerLength p.header + p.payloadLength.toNat < 2 ^ 32)) ∧
    (raw.length < 2 ^ 32 → csrcEnd raw ≤ raw.length → ExtensionFits raw →
      (Reproduces raw ↔ Symmetric (parsedPacket raw).header.csrcArray) ∧
      (payloadType.toNat < 128 →
        (Retransmits raw sequenceNum payloadType ssrc ↔
          Symmetric (parsedPacket raw).header.csrcArray ∧ raw.length + 2 < 2 ^ 32))) := by
  refine ⟨fun hp => roundTrips_iff hp, fun hlen hend hfits => ⟨reproduces_iff hlen hend hfits, ?_⟩⟩
  intro htype
  exact retransmits_iff hlen hend hfits sequenceNum ssrc htype

/-- A packet with one CSRC identifier. -/
def oneCsrcPacket (csrc : UINT32) : RtpPacket where
  header := {
    version := 2, padding := false, extension := true, marker := true, payloadType := 96
    sequenceNumber := 7, timestamp := 8, ssrc := 9, csrcArray := [csrc]
    extensionProfile := TWCC_EXT_PROFILE, extensionPayload := [0x10, 1, 2, 0] }
  payload := [5, 6]
  payloadLength := 2
  pRawPacket := []

theorem oneCsrcPacket_wellFormed (csrc : UINT32) : WellFormed (oneCsrcPacket csrc) :=
  ⟨by simp [oneCsrcPacket], by simp [oneCsrcPacket], by simp [oneCsrcPacket],
    fun _ => by simp [oneCsrcPacket], fun h => by simp [oneCsrcPacket] at h,
    by simp [oneCsrcPacket]⟩

theorem rtp_round_trip_symmetric_csrc :
    WellFormed (oneCsrcPacket 0x01020201) ∧
    (RoundTrips (oneCsrcPacket 0x01020201) ↔
      Symmetric (oneCsrcPacket 0x01020201).header.csrcArray ∧
        headerLength (oneCsrcPacket 0x01020201).header +
          (oneCsrcPacket 0x01020201).payloadLength.toNat < 2 ^ 32) ∧
    (Reproduces (extendedPacket.take 26) ↔
      Symmetric (parsedPacket (extendedPacket.take 26)).header.csrcArray) ∧
    (Retransmits (extendedPacket.take 26) 3 97 4 ↔
      Symmetric (parsedPacket (extendedPacket.take 26)).header.csrcArray ∧
        (extendedPacket.take 26).length + 2 < 2 ^ 32) ∧
    Symmetric (oneCsrcPacket 0x01020201).header.csrcArray := by
  have hlen : (extendedPacket.take 26).length < 2 ^ 32 := by
    rw [show (extendedPacket.take 26).length = 26 from rfl]
    omega
  have hall := rtp_round_trip_iff (oneCsrcPacket 0x01020201) (extendedPacket.take 26) 3 97 4
  obtain ⟨hrepr, hretr⟩ := hall.2 hlen (by decide) (by decide)
  exact ⟨oneCsrcPacket_wellFormed _, hall.1 (oneCsrcPacket_wellFormed _), hrepr,
    hretr (by decide), by decide⟩

theorem csrc_identifier_swapped :
    WellFormed (oneCsrcPacket 1) ∧ ¬ RoundTrips (oneCsrcPacket 1) := by
  refine ⟨oneCsrcPacket_wellFormed 1, ?_⟩
  rw [roundTrips_iff (oneCsrcPacket_wellFormed 1)]
  rintro ⟨hsym, -⟩
  exact absurd hsym (by decide)

end KvsWebrtc.Rtp
