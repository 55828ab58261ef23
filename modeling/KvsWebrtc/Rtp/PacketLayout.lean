import KvsWebrtc.Rtp.Packet

/-!
# The layout of an RTP packet (`RtpPacket.c`)

A packet is a fixed header, the CSRC list, the extension header, the extension payload and the
payload.  `setRtpPacketFromBytes` checks that the CSRC list lies inside the packet and nothing
behind it, and keeps the extension length, four times a 16 bit field, in 16 bits.

Principal results:

* `setRtpPacketFromBytes_ok_iff`, `parsedPacket_parts` — what is parsed from bytes of a given
  layout;
* `rtpParse_partitions_iff` — the parts of a parsed packet partition its bytes exactly when the
  extension fits.
-/

namespace KvsWebrtc.Rtp

open ByteOrder

/-! ## Parts of a packet -/

def csrcCountOf (raw : Bytes) : Nat := (byteAt raw 0 &&& 0xF).toNat

def hasExtension (raw : Bytes) : Bool := (byteAt raw 0 >>> 4) &&& 1 ≠ 0

/-- Where the CSRC list ends. -/
def csrcEnd (raw : Bytes) : Nat := CSRC_OFFSET + csrcCountOf raw * CSRC_LENGTH

/-- The length field of the extension, in words. -/
def extensionWords (raw : Bytes) : Nat :=
  (getUnalignedInt16BigEndian raw (csrcEnd raw + 2)).toNat

def extensionLengthOf (raw : Bytes) : UINT16 :=
  if hasExtension raw then getUnalignedInt16BigEndian raw (csrcEnd raw + 2) * 4 else 0

def extensionStart (raw : Bytes) : Nat :=
  if hasExtension raw then csrcEnd raw + 4 else csrcEnd raw

def payloadStart (raw : Bytes) : Nat := extensionStart raw + (extensionLengthOf raw).toNat

/-- What the parser makes of bytes that are long enough for the CSRC list. -/
def parsedPacket (raw : Bytes) : RtpPacket where
  header := {
    version := (byteAt raw 0 >>> 6) &&& 3
    padding := (byteAt raw 0 >>> 5) &&& 1 ≠ 0
    extension := hasExtension raw
    marker := (byteAt raw 1 >>> 7) &&& 1 ≠ 0
    payloadType := byteAt raw 1 &&& 0x7F
    sequenceNumber := getUnalignedInt16BigEndian raw SEQ_NUMBER_OFFSET
    timestamp := getUnalignedInt32BigEndian raw TIMESTAMP_OFFSET
    ssrc := getUnalignedInt32BigEndian raw SSRC_OFFSET
    csrcArray := (List.range (csrcCountOf raw)).map fun i =>
      BitVec.ofNat 32 (readLE raw (CSRC_OFFSET + i * CSRC_LENGTH) 4)
    extensionProfile :=
      if hasExtension raw then getUnalignedInt16BigEndian raw (csrcEnd raw) else 0
    extensionPayload := (raw.drop (extensionStart raw)).take (extensionLengthOf raw).toNat }
  payload := raw.drop (payloadStart raw)
  payloadLength := BitVec.ofNat 32 raw.length - BitVec.ofNat 32 (payloadStart raw)
  pRawPacket := raw

theorem setRtpPacketFromBytes_ok_iff {raw : Bytes} {p : RtpPacket} :
    setRtpPacketFromBytes raw = .ok p ↔ csrcEnd raw ≤ raw.length ∧ p = parsedPacket raw := by
  have hend : csrcEnd raw = CSRC_OFFSET + (byteAt raw 0 &&& 0xF).toNat * CSRC_LENGTH := rfl
  have hmin : 12 ≤ csrcEnd raw := Nat.le_add_right 12 _
  unfold setRtpPacketFromBytes
  split
  · rename_i h
    have : raw.length < 12 := h
    simp only [reduceCtorEq, false_iff, not_and]
    omega
  · dsimp only
    rw [← hend]
    split
    · simp only [reduceCtorEq, false_iff, not_and]
      omega
    · rename_i h
      have hext : (if (byteAt raw 0 >>> 4) &&& 1 ≠ 0 then csrcEnd raw + 4 else csrcEnd raw) =
          extensionStart raw := by
        simp [extensionStart, hasExtension]
      have hlen : (if (byteAt raw 0 >>> 4) &&& 1 ≠ 0 then
          getUnalignedInt16BigEndian raw (csrcEnd raw + 2) * 4 else 0) = extensionLengthOf raw := by
        simp [extensionLengthOf, hasExtension]
      have hprofile : (if (byteAt raw 0 >>> 4) &&& 1 ≠ 0 then
          getUnalignedInt16BigEndian raw (csrcEnd raw) else 0) =
          if hasExtension raw then getUnalignedInt16BigEndian raw (csrcEnd raw) else 0 := by
        simp [hasExtension]
      rw [hext, hlen, hprofile, Except.ok.injEq]
      constructor
      · rintro rfl
        exact ⟨by omega, rfl⟩
      · rintro ⟨-, rfl⟩
        rfl

/-- If there is an extension behind the CSRC list, it lies in the packet and its length in bytes
fits 16 bits. -/
def ExtensionFits (raw : Bytes) : Prop :=
  csrcEnd raw ≤ raw.length → hasExtension raw = true →
    csrcEnd raw + 4 + 4 * extensionWords raw ≤ raw.length ∧ extensionWords raw < 2 ^ 14

instance (raw : Bytes) : Decidable (ExtensionFits raw) := by
  unfold ExtensionFits
  infer_instance

/-- The payload of a packet. -/
def RtpPacket.body (p : RtpPacket) : Bytes := p.payload.take p.payloadLength.toNat

/-- The bytes of the CSRC list a packet points to. -/
def csrcBytes (csrcArray : List UINT32) : Bytes := csrcArray.flatMap fun c => encodeLE 4 c.toNat

/-- The fixed header, the CSRC list, the extension header, the extension payload and the payload of
`p` follow each other and are all of `raw`. -/
def Partitions (raw : Bytes) (p : RtpPacket) : Prop :=
  ∃ fixed extensionHeader : Bytes,
    raw = fixed ++ csrcBytes p.header.csrcArray ++ extensionHeader ++ p.header.extensionPayload ++
      p.body ∧
    fixed.length = MIN_HEADER_LENGTH ∧
    p.header.csrcArray.length = csrcCountOf raw ∧
    (p.header.extension = true → extensionHeader.length = 4 ∧
      p.header.extensionPayload.length =
        4 * (getUnalignedInt16BigEndian extensionHeader 2).toNat) ∧
    (p.header.extension = false → extensionHeader = [] ∧ p.header.extensionPayload = []) ∧
    p.payloadLength.toNat = p.body.length

/-- Bytes cut into the parts of a packet. -/
structure Parts (raw fixed csrcs extensionHeader extensionPayload payload : Bytes) : Prop where
  eq : raw = fixed ++ (csrcs ++ (extensionHeader ++ (extensionPayload ++ payload)))
  fixed_length : fixed.length = 12
  csrcs_length : csrcs.length = 4 * csrcCountOf raw
  header_length : extensionHeader.length = if hasExtension raw then 4 else 0
  payload_length : extensionPayload.length =
    if hasExtension raw then 4 * (getUnalignedInt16BigEndian extensionHeader 2).toNat else 0

section Parts

variable {raw fixed csrcs extensionHeader extensionPayload payload : Bytes}

theorem Parts.csrcEnd_eq (h : Parts raw fixed csrcs extensionHeader extensionPayload payload) :
    csrcEnd raw = (fixed ++ csrcs).length := by
  rw [List.length_append, h.fixed_length, h.csrcs_length, csrcEnd, CSRC_OFFSET, Nat.mul_comm]

theorem Parts.length_eq (h : Parts raw fixed csrcs extensionHeader extensionPayload payload) :
    raw.length = csrcEnd raw + (extensionHeader.length + (extensionPayload.length + payload.length)) := by
  rw [h.csrcEnd_eq]
  conv_lhs => rw [h.eq]
  simp only [List.length_append]
  omega

theorem Parts.extensionWords_eq
    (h : Parts raw fixed csrcs extensionHeader extensionPayload payload)
    (hext : hasExtension raw = true) :
    extensionWords raw = (getUnalignedInt16BigEndian extensionHeader 2).toNat := by
  have hlen : extensionHeader.length = 4 := by simpa [hext] using h.header_length
  unfold extensionWords
  rw [h.csrcEnd_eq]
  conv_lhs => rw [h.eq]
  rw [← List.append_assoc, get16_skip _ (by omega), Nat.add_sub_cancel_left,
    getUnalignedInt16BigEndian, getUnalignedInt16BigEndian]
  congr 2
  unfold readBE
  rw [List.drop_append_of_le_length (by omega), List.take_append_of_le_length (by simp [hlen])]

theorem length_csrcBytes (csrcArray : List UINT32) :
    (csrcBytes csrcArray).length = 4 * csrcArray.length := by
  induction csrcArray with
  | nil => rfl
  | cons c cs ih =>
    rw [csrcBytes, List.flatMap_cons, List.length_append, length_encodeLE, ← csrcBytes, ih,
      List.length_cons]
    omega

theorem csrcBytes_words (pre : Bytes) : ∀ (n : Nat) (bs rest : Bytes), bs.length = 4 * n →
    csrcBytes ((List.range n).map fun i =>
      BitVec.ofNat 32 (readLE (pre ++ (bs ++ rest)) (pre.length + i * 4) 4)) = bs
  | 0, bs, rest, h => by
    have hbs : bs = [] := List.eq_nil_of_length_eq_zero h
    simp [hbs, csrcBytes]
  | n + 1, bs, rest, h => by
    obtain ⟨front, last, rfl, hfront, hlast⟩ : ∃ front last : Bytes, bs = front ++ last ∧
        front.length = 4 * n ∧ last.length = 4 :=
      ⟨bs.take (4 * n), bs.drop (4 * n), (List.take_append_drop _ _).symm,
        by simp only [List.length_take]; omega, by simp only [List.length_drop]; omega⟩
    have ih := csrcBytes_words pre n front (last ++ rest) hfront
    have hword : readLE (pre ++ (front ++ (last ++ rest))) (pre.length + n * 4) 4 =
        decodeLE last := by
      rw [readLE_skip _ _ (by omega), readLE_skip _ _ (by omega), readLE]
      congr 1
      rw [show pre.length + n * 4 - pre.length - front.length = 0 by omega,
        List.drop_zero, List.take_append_of_le_length (by omega), List.take_of_length_le (by omega)]
    have hlt := decodeLE_lt last
    rw [hlast] at hlt
    rw [List.append_assoc, List.range_succ, List.map_append, csrcBytes, List.flatMap_append]
    congr 1
    rw [List.map_singleton, List.flatMap_singleton, hword, BitVec.toNat_ofNat,
      Nat.mod_eq_of_lt (by omega)]
    conv_lhs => rw [← hlast]
    exact encodeLE_decodeLE last

theorem toNat_mul_four {w : UINT16} (h : w.toNat < 2 ^ 14) : (w * 4).toNat = 4 * w.toNat := by
  rw [BitVec.toNat_mul, show (4 : UINT16).toNat = 4 from rfl]
  omega

theorem ofNat_add_sub (a b : Nat) :
    BitVec.ofNat 32 (a + b) - BitVec.ofNat 32 a = BitVec.ofNat 32 b := by
  rw [BitVec.ofNat_add, BitVec.add_comm, BitVec.add_sub_cancel]

/-- **A packet whose parts are known is parsed into them.** -/
theorem parsedPacket_parts (h : Parts raw fixed csrcs extensionHeader extensionPayload payload)
    (hwords : hasExtension raw = true → extensionWords raw < 2 ^ 14) :
    csrcBytes (parsedPacket raw).header.csrcArray = csrcs ∧
      (parsedPacket raw).header.extensionProfile =
        (if hasExtension raw then getUnalignedInt16BigEndian extensionHeader 0 else 0) ∧
      (parsedPacket raw).header.extensionPayload = extensionPayload ∧
      (parsedPacket raw).payload = payload ∧
      (parsedPacket raw).payloadLength = BitVec.ofNat 32 payload.length := by
  have hlen := h.length_eq
  have hcsrc := csrcBytes_words fixed (csrcCountOf raw) csrcs
    (extensionHeader ++ (extensionPayload ++ payload)) h.csrcs_length
  rw [h.fixed_length, ← h.eq] at hcsrc
  -- everything behind the CSRC list
  have hdrop : ∀ n, raw.drop (csrcEnd raw + n) =
      (extensionHeader ++ (extensionPayload ++ payload)).drop n := by
    intro n
    rw [h.csrcEnd_eq]
    conv_lhs => rw [h.eq]
    rw [← List.append_assoc, drop_skip _ (by omega), Nat.add_sub_cancel_left]
  cases hext : hasExtension raw with
  | false =>
    have hheader : extensionHeader = [] := by simpa [hext] using h.header_length
    have hpayload : extensionPayload = [] := by simpa [hext] using h.payload_length
    have hstart : payloadStart raw = csrcEnd raw := by
      simp [payloadStart, extensionStart, extensionLengthOf, hext]
    refine ⟨hcsrc, ?_, ?_, ?_, ?_⟩
    · simp [parsedPacket, hext]
    · simp [parsedPacket, extensionLengthOf, hext, hpayload]
    · simpa [parsedPacket, hstart, hheader, hpayload] using hdrop 0
    · simp only [parsedPacket]
      rw [hstart, hlen, hheader, hpayload, List.length_nil, Nat.zero_add, Nat.zero_add,
        ofNat_add_sub]
  | true =>
    have hheader : extensionHeader.length = 4 := by simpa [hext] using h.header_length
    have hpayload : extensionPayload.length = 4 * extensionWords raw := by
      rw [h.extensionWords_eq hext]
      simpa [hext] using h.payload_length
    have hbytes : (extensionLengthOf raw).toNat = extensionPayload.length := by
      rw [extensionLengthOf, if_pos hext, toNat_mul_four (hwords hext), hpayload]
      rfl
    have hstart : payloadStart raw = csrcEnd raw + (4 + extensionPayload.length) := by
      rw [payloadStart, extensionStart, if_pos hext, hbytes, Nat.add_assoc]
    refine ⟨hcsrc, ?_, ?_, ?_, ?_⟩
    · rw [if_pos rfl]
      simp only [parsedPacket, hext, if_true, getUnalignedInt16BigEndian, readBE]
      rw [show csrcEnd raw = csrcEnd raw + 0 from rfl, hdrop 0, List.drop_zero, List.drop_zero,
        List.take_append_of_le_length (by omega)]
    · simp only [parsedPacket, extensionStart, hext, if_true, hbytes]
      rw [hdrop 4, ← hheader, List.drop_left, List.take_left]
    · simp only [parsedPacket]
      rw [hstart, hdrop, ← List.append_assoc, List.drop_left' (by simp [hheader])]
    · simp only [parsedPacket]
      rw [hstart, hlen, hheader, ← Nat.add_assoc 4, ← Nat.add_assoc, ofNat_add_sub]

end Parts

/-! ## Staying inside the packet -/

theorem take_drop_append (l : Bytes) (i j : Nat) :
    (l.drop i).take j ++ l.drop (i + j) = l.drop i := by
  rw [← List.drop_drop, List.take_append_drop]

theorem exists_parts {raw : Bytes} (hend : csrcEnd raw ≤ raw.length) (hfits : ExtensionFits raw) :
    ∃ fixed csrcs extensionHeader extensionPayload payload,
      Parts raw fixed csrcs extensionHeader extensionPayload payload := by
  have hdef : csrcEnd raw = 12 + 4 * csrcCountOf raw := by
    rw [csrcEnd, CSRC_OFFSET, Nat.mul_comm]
  cases hext : hasExtension raw with
  | false =>
    refine ⟨raw.take 12, (raw.drop 12).take (4 * csrcCountOf raw), [], [], raw.drop (csrcEnd raw),
      ?_, ?_, ?_, by simp [hext], by simp [hext]⟩
    · rw [List.nil_append, List.nil_append, hdef, take_drop_append, List.take_append_drop]
    · rw [List.length_take]
      omega
    · rw [List.length_take, List.length_drop]
      omega
  | true =>
    obtain ⟨hin, -⟩ := hfits hend hext
    have hwords : (getUnalignedInt16BigEndian ((raw.drop (csrcEnd raw)).take 4) 2).toNat =
        extensionWords raw := by
      simp only [extensionWords, getUnalignedInt16BigEndian, readBE]
      rw [List.drop_take, List.drop_drop, List.take_take, Nat.min_self]
    refine ⟨raw.take 12, (raw.drop 12).take (4 * csrcCountOf raw), (raw.drop (csrcEnd raw)).take 4,
      (raw.drop (csrcEnd raw + 4)).take (4 * extensionWords raw),
      raw.drop (csrcEnd raw + 4 + 4 * extensionWords raw), ?_, ?_, ?_, ?_, ?_⟩
    · rw [take_drop_append, take_drop_append, hdef, take_drop_append, List.take_append_drop]
    · rw [List.length_take]
      omega
    · rw [List.length_take, List.length_drop]
      omega
    · rw [List.length_take, List.length_drop, if_pos hext]
      omega
    · rw [List.length_take, List.length_drop, if_pos hext, hwords]
      omega

theorem partitions_of_fits {raw : Bytes} (hlen : raw.length < 2 ^ 32)
    (hend : csrcEnd raw ≤ raw.length) (hfits : ExtensionFits raw) :
    Partitions raw (parsedPacket raw) := by
  obtain ⟨fixed, csrcs, extensionHeader, extensionPayload, payload, hparts⟩ :=
    exists_parts hend hfits
  obtain ⟨hcsrc, -, hext, hpayload, hplen⟩ :=
    parsedPacket_parts hparts (fun h => (hfits hend h).2)
  have hle : payload.length < 2 ^ 32 := by
    have := hparts.length_eq
    omega
  have htoNat : (parsedPacket raw).payloadLength.toNat = payload.length := by
    rw [hplen, BitVec.toNat_ofNat, Nat.mod_eq_of_lt hle]
  have hbody : (parsedPacket raw).body = payload := by
    rw [RtpPacket.body, htoNat, hpayload, List.take_length]
  refine ⟨fixed, extensionHeader, ?_, hparts.fixed_length, by simp [parsedPacket], ?_, ?_, ?_⟩
  · rw [hcsrc, hext, hbody]
    simpa using hparts.eq
  · intro h
    have hx : hasExtension raw = true := h
    rw [hext]
    exact ⟨by simpa [hx] using hparts.header_length, by simpa [hx] using hparts.payload_length⟩
  · intro h
    have hx : hasExtension raw = false := h
    rw [hext]
    exact ⟨by simpa [hx] using hparts.header_length, by simpa [hx] using hparts.payload_length⟩
  · rw [htoNat, hbody]

theorem fits_of_partitions {raw : Bytes} (h : Partitions raw (parsedPacket raw)) :
    ExtensionFits raw := by
  obtain ⟨fixed, extensionHeader, heq, hfixed, hcount, hext, -, -⟩ := h
  intro hend hx
  obtain ⟨hheader, hpayload⟩ := hext hx
  have hparts : Parts raw fixed (csrcBytes (parsedPacket raw).header.csrcArray) extensionHeader
      (parsedPacket raw).header.extensionPayload (parsedPacket raw).body := by
    refine ⟨by simpa using heq, hfixed, ?_, by rw [if_pos hx, hheader], by rw [if_pos hx, hpayload]⟩
    rw [length_csrcBytes, hcount]
  have hlen := hparts.length_eq
  rw [hheader, hpayload, ← hparts.extensionWords_eq hx] at hlen
  -- the extension payload is no longer than its 16 bit length says
  have hshort : (parsedPacket raw).header.extensionPayload.length ≤ (extensionLengthOf raw).toNat :=
    List.length_take_le _ _
  rw [hpayload, ← hparts.extensionWords_eq hx] at hshort
  have := (extensionLengthOf raw).isLt
  exact ⟨by omega, by omega⟩

/-- **The parts of a parsed packet partition it exactly when its extension fits.** -/
theorem rtpParse_partitions_iff (rawPacket : Bytes) (packetLength : UINT32)
    (hlen : packetLength.toNat ≤ rawPacket.length) :
    (∀ p, setRtpPacketFromBytes (rawPacket.take packetLength.toNat) = .ok p →
      Partitions (rawPacket.take packetLength.toNat) p) ↔
    ExtensionFits (rawPacket.take packetLength.toNat) := by
  have hlt : (rawPacket.take packetLength.toNat).length < 2 ^ 32 := by
    rw [List.length_take]
    have := packetLength.isLt
    omega
  generalize rawPacket.take packetLength.toNat = raw at hlt ⊢
  constructor
  · intro h hend
    exact fits_of_partitions (h _ (setRtpPacketFromBytes_ok_iff.mpr ⟨hend, rfl⟩)) hend
  · intro hfits p hp
    obtain ⟨hend, rfl⟩ := setRtpPacketFromBytes_ok_iff.mp hp
    exact partitions_of_fits hlt hend hfits

/-- A packet with one CSRC, one word of extension and two bytes of payload, and two bytes behind
it. -/
def extendedPacket : Bytes :=
  [0x91, 96, 0, 1, 0, 0, 0, 2, 0, 0, 0, 3, 1, 2, 3, 4, 0xBE, 0xDE, 0, 1, 0x10, 7, 0, 0, 5, 6, 9, 9]

theorem rtpParse_partitions_extended :
    (26#32).toNat ≤ extendedPacket.length ∧
    ((∀ p, setRtpPacketFromBytes (extendedPacket.take (26#32).toNat) = .ok p →
        Partitions (extendedPacket.take (26#32).toNat) p) ↔
      ExtensionFits (extendedPacket.take (26#32).toNat)) ∧
    ExtensionFits (extendedPacket.take (26#32).toNat) :=
  ⟨by decide, rtpParse_partitions_iff extendedPacket 26#32 (by decide), by decide⟩

/-- Twelve bytes with the extension bit: the length field is read behind the packet, and the payload
length wraps. -/
def truncatedExtension : Bytes := 0x90 :: List.replicate 11 0

theorem truncated_extension_accepted :
    ∃ p, setRtpPacketFromBytes truncatedExtension = .ok p ∧
      p.payloadLength.toNat = 2 ^ 32 - 4 ∧ ¬ Partitions truncatedExtension p := by
  refine ⟨_, setRtpPacketFromBytes_ok_iff.mpr ⟨by decide, rfl⟩, by decide, ?_⟩
  intro h
  exact absurd (fits_of_partitions h) (by decide)

end KvsWebrtc.Rtp
