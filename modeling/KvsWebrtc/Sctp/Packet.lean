import KvsWebrtc.Sctp.Crc32c

/-!
# SCTP packets (`SctpPacket.c`)

The chunk writers, the checksum seal, packet validation and the chunk parser.  A writer stores
bytes from `pBuf[0]` on and returns the padded size, so it is modelled by the bytes it stores
together with that size (`Written`): the padding itself is not written and keeps what the buffer
held before.

Principal results:

* `sctpParseChunks_chunkBytes` — one well-formed chunk is parsed back whatever its padding;
* `carries_sealPacket` — a sealed packet with one chunk has a valid checksum, shows its
  verification tag and parses to exactly that chunk;
* `Carries.validate` — what `sctpValidatePacket` answers on such a packet;
* one `_eq` lemma for each writer: the stored length and the stored bytes agree.
-/

namespace KvsWebrtc.Sctp

open ByteOrder

/-! ## Writers -/

/-- What a chunk writer does to its buffer: the bytes it stores and the size it returns. -/
structure Written where
  bytes : Bytes
  size : Nat
  deriving DecidableEq, Repr

def sctpWriteCommonHeader (srcPort dstPort : UINT16) (vtag : UINT32) : Bytes :=
  putUnalignedInt16BigEndian srcPort ++ putUnalignedInt16BigEndian dstPort ++
    putUnalignedInt32BigEndian vtag ++ putUnalignedInt32BigEndian 0

def sctpWriteInitChunk (initTag arwnd : UINT32) (numOutStreams numInStreams : UINT16)
    (initialTsn : UINT32) : Written :=
  let chunkLen := SCTP_INIT_HEADER_SIZE + 4
  let bytes := [SCTP_CHUNK_INIT, 0] ++ putUnalignedInt16BigEndian (BitVec.ofNat 16 chunkLen) ++
    (putUnalignedInt32BigEndian initTag ++ putUnalignedInt32BigEndian arwnd ++
      putUnalignedInt16BigEndian numOutStreams ++ putUnalignedInt16BigEndian numInStreams ++
      putUnalignedInt32BigEndian initialTsn ++
      putUnalignedInt16BigEndian SCTP_PARAM_FORWARD_TSN_SUPPORTED ++ putUnalignedInt16BigEndian 4)
  ⟨bytes, SCTP_PAD4 bytes.length⟩

def sctpWriteInitAckChunk (initTag arwnd : UINT32) (numOutStreams numInStreams : UINT16)
    (initialTsn : UINT32) (pCookie : Bytes) : Written :=
  let paramLen := 4 + pCookie.length
  let chunkLen := SCTP_INIT_HEADER_SIZE + paramLen + 4
  let body := [SCTP_CHUNK_INIT_ACK, 0] ++ putUnalignedInt16BigEndian (BitVec.ofNat 16 chunkLen) ++
    (putUnalignedInt32BigEndian initTag ++ putUnalignedInt32BigEndian arwnd ++
      putUnalignedInt16BigEndian numOutStreams ++ putUnalignedInt16BigEndian numInStreams ++
      putUnalignedInt32BigEndian initialTsn ++
      putUnalignedInt16BigEndian SCTP_PARAM_STATE_COOKIE ++
      putUnalignedInt16BigEndian (BitVec.ofNat 16 (4 + pCookie.length)) ++ pCookie)
  let padded := body ++ List.replicate (SCTP_PAD4 body.length - body.length) 0
  let bytes := padded ++ putUnalignedInt16BigEndian SCTP_PARAM_FORWARD_TSN_SUPPORTED ++
    putUnalignedInt16BigEndian 4
  ⟨bytes, SCTP_PAD4 bytes.length⟩

def sctpWriteCookieEchoChunk (pCookie : Bytes) : Written :=
  let chunkLen := SCTP_CHUNK_HEADER_SIZE + pCookie.length
  ⟨[SCTP_CHUNK_COOKIE_ECHO, 0] ++ putUnalignedInt16BigEndian (BitVec.ofNat 16 chunkLen) ++ pCookie,
    SCTP_PAD4 chunkLen⟩

def sctpWriteCookieAckChunk : Written :=
  ⟨[SCTP_CHUNK_COOKIE_ACK, 0] ++
    putUnalignedInt16BigEndian (BitVec.ofNat 16 SCTP_COOKIE_ACK_SIZE), SCTP_COOKIE_ACK_SIZE⟩

/-- A DATA chunk with explicit flags: the stores `sctpWriteDataChunk` and the fragment encoder of
`sctpAssocSend` have in common. -/
def writeDataChunk (flags : UINT8) (tsn : UINT32) (streamId ssn : UINT16) (ppid : UINT32)
    (pPayload : Bytes) : Written :=
  let chunkLen := SCTP_DATA_HEADER_SIZE + pPayload.length
  ⟨[SCTP_CHUNK_DATA, flags] ++ putUnalignedInt16BigEndian (BitVec.ofNat 16 chunkLen) ++
    (putUnalignedInt32BigEndian tsn ++ putUnalignedInt16BigEndian streamId ++
      putUnalignedInt16BigEndian ssn ++ putUnalignedInt32BigEndian ppid ++ pPayload),
    SCTP_PAD4 chunkLen⟩

/-- The flags of a whole message: B and E, and U when it is unordered. -/
def wholeFlags (unordered : Bool) : UINT8 :=
  SCTP_DATA_FLAG_BEGIN ||| SCTP_DATA_FLAG_END |||
    (if unordered then SCTP_DATA_FLAG_UNORDERED else 0)

def sctpWriteDataChunk (tsn : UINT32) (streamId ssn : UINT16) (ppid : UINT32) (unordered : Bool)
    (pPayload : Bytes) : Written :=
  writeDataChunk (wholeFlags unordered) tsn streamId ssn ppid pPayload

def sctpWriteSackChunk (cumTsn arwnd : UINT32) (gaps : List (UINT16 × UINT16)) : Written :=
  let chunkLen := SCTP_SACK_HEADER_SIZE + gaps.length * 4
  let bytes := [SCTP_CHUNK_SACK, 0] ++ putUnalignedInt16BigEndian (BitVec.ofNat 16 chunkLen) ++
    (putUnalignedInt32BigEndian cumTsn ++ putUnalignedInt32BigEndian arwnd ++
      putUnalignedInt16BigEndian (BitVec.ofNat 16 gaps.length) ++ putUnalignedInt16BigEndian 0 ++
      gaps.flatMap (fun g => putUnalignedInt16BigEndian g.1 ++ putUnalignedInt16BigEndian g.2))
  ⟨bytes, SCTP_PAD4 bytes.length⟩

def sctpWriteForwardTsnChunk (newCumTsn : UINT32) : Written :=
  let chunkLen := SCTP_FORWARD_TSN_HEADER_SIZE
  ⟨[SCTP_CHUNK_FORWARD_TSN, 0] ++ putUnalignedInt16BigEndian (BitVec.ofNat 16 chunkLen) ++
    putUnalignedInt32BigEndian newCumTsn, SCTP_PAD4 chunkLen⟩

def sctpWriteShutdownChunk (cumTsn : UINT32) : Written :=
  ⟨[SCTP_CHUNK_SHUTDOWN, 0] ++ putUnalignedInt16BigEndian (BitVec.ofNat 16 SCTP_SHUTDOWN_SIZE) ++
    putUnalignedInt32BigEndian cumTsn, SCTP_SHUTDOWN_SIZE⟩

def sctpWriteShutdownAckChunk : Written :=
  ⟨[SCTP_CHUNK_SHUTDOWN_ACK, 0] ++
    putUnalignedInt16BigEndian (BitVec.ofNat 16 SCTP_SHUTDOWN_ACK_SIZE), SCTP_SHUTDOWN_ACK_SIZE⟩

def sctpWriteShutdownCompleteChunk : Written :=
  ⟨[SCTP_CHUNK_SHUTDOWN_COMPLETE, 0] ++
    putUnalignedInt16BigEndian (BitVec.ofNat 16 SCTP_SHUTDOWN_COMPLETE_SIZE),
    SCTP_SHUTDOWN_COMPLETE_SIZE⟩

/-! ## Seal, validation and parsing -/

/-- The buffer with its checksum field zeroed. -/
def zeroChecksum (pBuf : Bytes) : Bytes := pBuf.take 8 ++ [0, 0, 0, 0] ++ pBuf.drop 12

/-- The buffer with `crc` stored in its checksum field, little-endian. -/
def storeChecksum (pBuf : Bytes) (crc : UINT32) : Bytes :=
  pBuf.take 8 ++ encodeLE 4 crc.toNat ++ pBuf.drop 12

def sctpFinalizePacket (pBuf : Bytes) (len : Nat) : Bytes :=
  storeChecksum (zeroChecksum pBuf) (sctpCrc32c ((zeroChecksum pBuf).take len))

inductive STATUS where
  | SUCCESS
  | SCTP_INVALID_DCEP_PACKET
  deriving DecidableEq, Repr

def storedChecksum (pBuf : Bytes) : UINT32 := BitVec.ofNat 32 (readLE pBuf 8 4)

/-- The verdict, and the buffer after the checksum field was zeroed and restored. -/
def sctpValidatePacket (pBuf : Bytes) (expectedVtag : UINT32) : STATUS × Bytes :=
  if pBuf.length < SCTP_COMMON_HEADER_SIZE then (.SCTP_INVALID_DCEP_PACKET, pBuf) else
  let storedCrc := storedChecksum pBuf
  let computedCrc := sctpCrc32c (zeroChecksum pBuf)
  let restored := storeChecksum (zeroChecksum pBuf) storedCrc
  if storedCrc ≠ computedCrc then (.SCTP_INVALID_DCEP_PACKET, restored) else
  let vtag := getUnalignedInt32BigEndian restored 4
  if vtag ≠ 0 ∧ expectedVtag ≠ 0 ∧ vtag ≠ expectedVtag then (.SCTP_INVALID_DCEP_PACKET, restored)
  else (.SUCCESS, restored)

/-- One chunk as the parser hands it to its callback. -/
structure SctpChunk where
  type : UINT8
  flags : UINT8
  value : Bytes
  deriving DecidableEq, Repr

/-- The parser loop on the bytes from the current offset on; every round consumes at least a chunk
header, so the packet length is fuel enough. -/
def sctpParseChunksFrom : Nat → Bytes → List SctpChunk
  | 0, _ => []
  | fuel + 1, p =>
    if p.length < SCTP_CHUNK_HEADER_SIZE then [] else
    let chunkLen := (getUnalignedInt16BigEndian p 2).toNat
    if chunkLen < SCTP_CHUNK_HEADER_SIZE ∨ p.length < chunkLen then [] else
    ⟨p.getD 0 0, p.getD 1 0, (p.drop SCTP_CHUNK_HEADER_SIZE).take (chunkLen - SCTP_CHUNK_HEADER_SIZE)⟩
      :: sctpParseChunksFrom fuel (p.drop (SCTP_PAD4 chunkLen))

def sctpParseChunks (pBuf : Bytes) : List SctpChunk :=
  sctpParseChunksFrom pBuf.length (pBuf.drop SCTP_COMMON_HEADER_SIZE)

/-! ## Chunks read back -/

/-- A chunk header whose length field is right, and the value. -/
def chunkBytes (type flags : UINT8) (value : Bytes) : Bytes :=
  [type, flags] ++ putUnalignedInt16BigEndian (BitVec.ofNat 16 (4 + value.length)) ++ value

@[simp] theorem length_chunkBytes (type flags : UINT8) (value : Bytes) :
    (chunkBytes type flags value).length = 4 + value.length := by
  simp [chunkBytes]
  omega

theorem le_pad4 (n : Nat) : n ≤ SCTP_PAD4 n ∧ SCTP_PAD4 n < n + 4 := by
  unfold SCTP_PAD4
  omega

theorem sctpParseChunksFrom_short (fuel : Nat) {p : Bytes} (h : p.length < 4) :
    sctpParseChunksFrom fuel p = [] := by
  cases fuel with
  | zero => rfl
  | succ fuel => simp [sctpParseChunksFrom, h]

theorem sctpParseChunksFrom_chunkBytes (fuel : Nat) (type flags : UINT8) (value rest : Bytes)
    (hlen : 4 + value.length < 65536) :
    sctpParseChunksFrom (fuel + 1) (chunkBytes type flags value ++ rest) =
      ⟨type, flags, value⟩ :: sctpParseChunksFrom fuel
        (rest.drop (SCTP_PAD4 (4 + value.length) - (4 + value.length))) := by
  have hfield : (getUnalignedInt16BigEndian (chunkBytes type flags value ++ rest) 2).toNat =
      4 + value.length := by
    unfold chunkBytes
    rw [List.append_assoc, List.append_assoc, get16_skip _ (by simp)]
    simp only [List.length_cons, List.length_nil, Nat.reduceAdd, Nat.sub_self, get16_put16,
      BitVec.toNat_ofNat]
    omega
  have hpad := le_pad4 (4 + value.length)
  have hdrop : (chunkBytes type flags value ++ rest).drop (SCTP_PAD4 (4 + value.length)) =
      rest.drop (SCTP_PAD4 (4 + value.length) - (4 + value.length)) := by
    rw [drop_skip rest (by simpa using hpad.1), length_chunkBytes]
  have hvalue : ((chunkBytes type flags value ++ rest).drop 4).take (4 + value.length - 4) =
      value := by
    unfold chunkBytes
    rw [List.append_assoc, drop_skip _ (by simp)]
    simp
  rw [sctpParseChunksFrom, if_neg (by simp [SCTP_CHUNK_HEADER_SIZE]; omega)]
  simp only [hfield]
  rw [if_neg (by simp [SCTP_CHUNK_HEADER_SIZE]), hdrop, hvalue]
  rfl

theorem sctpParseChunks_chunkBytes {p pad : Bytes} {type flags : UINT8} {value : Bytes}
    (h : p.drop 12 = chunkBytes type flags value ++ pad) (hlen : 4 + value.length < 65536)
    (hpad : pad.length < 4) : sctpParseChunks p = [⟨type, flags, value⟩] := by
  have hp : 0 < p.length := by
    have := congrArg List.length h
    simp only [List.length_drop, List.length_append, length_chunkBytes] at this
    omega
  obtain ⟨fuel, hfuel⟩ : ∃ fuel, p.length = fuel + 1 := ⟨p.length - 1, by omega⟩
  rw [sctpParseChunks, h, hfuel, sctpParseChunksFrom_chunkBytes fuel type flags value pad hlen,
    sctpParseChunksFrom_short]
  simp only [List.length_drop]
  omega

/-! ## Sealed packets -/

@[simp] theorem length_sctpWriteCommonHeader (srcPort dstPort : UINT16) (vtag : UINT32) :
    (sctpWriteCommonHeader srcPort dstPort vtag).length = 12 := by
  simp [sctpWriteCommonHeader]

theorem length_storeChecksum {p : Bytes} (crc : UINT32) (h : 12 ≤ p.length) :
    (storeChecksum p crc).length = p.length := by
  simp only [storeChecksum, List.length_append, List.length_take, length_encodeLE, List.length_drop]
  omega

theorem length_zeroChecksum {p : Bytes} (h : 12 ≤ p.length) :
    (zeroChecksum p).length = p.length := by
  simp only [zeroChecksum, List.length_append, List.length_take, List.length_cons, List.length_nil,
    List.length_drop]
  omega

theorem storeChecksum_parts {p : Bytes} (crc : UINT32) (h : 12 ≤ p.length) :
    (storeChecksum p crc).take 8 = p.take 8 ∧ (storeChecksum p crc).drop 12 = p.drop 12 ∧
      storedChecksum (storeChecksum p crc) = crc := by
  have h8 : (p.take 8).length = 8 := by
    rw [List.length_take]
    omega
  refine ⟨?_, ?_, ?_⟩
  · rw [storeChecksum, List.append_assoc, List.take_append_of_le_length (by omega),
      List.take_of_length_le (by omega)]
  · rw [storeChecksum, drop_skip _ (by simp [h8])]
    simp [h8]
  · rw [storedChecksum, storeChecksum, List.append_assoc, readLE_skip _ _ (by omega), h8,
      Nat.sub_self, readLE_encodeLE]
    apply BitVec.eq_of_toNat_eq
    have := crc.isLt
    simp only [BitVec.toNat_ofNat]
    omega

theorem zeroChecksum_parts {p : Bytes} (h : 12 ≤ p.length) :
    (zeroChecksum p).take 8 = p.take 8 ∧ (zeroChecksum p).drop 12 = p.drop 12 := by
  have h8 : (p.take 8).length = 8 := by
    rw [List.length_take]
    omega
  refine ⟨?_, ?_⟩
  · rw [zeroChecksum, List.append_assoc, List.take_append_of_le_length (by omega),
      List.take_of_length_le (by omega)]
  · rw [zeroChecksum, drop_skip _ (by simp [h8])]
    simp [h8]

theorem storeChecksum_zeroChecksum {p : Bytes} (crc : UINT32) (h : 12 ≤ p.length) :
    storeChecksum (zeroChecksum p) crc = storeChecksum p crc := by
  rw [storeChecksum, storeChecksum, (zeroChecksum_parts h).1, (zeroChecksum_parts h).2]

theorem zeroChecksum_storeChecksum {p : Bytes} (crc : UINT32) (h : 12 ≤ p.length) :
    zeroChecksum (storeChecksum p crc) = zeroChecksum p := by
  obtain ⟨h1, h2, _⟩ := storeChecksum_parts crc h
  rw [zeroChecksum, zeroChecksum, h1, h2]

theorem storeChecksum_storedChecksum {p : Bytes} (h : 12 ≤ p.length) :
    storeChecksum p (storedChecksum p) = p := by
  have hfield : encodeLE 4 (storedChecksum p).toNat = (p.drop 8).take 4 := by
    obtain ⟨a, b, c, d, hq⟩ : ∃ a b c d, (p.drop 8).take 4 = [a, b, c, d] := by
      have hlen : ((p.drop 8).take 4).length = 4 := by
        simp only [List.length_take, List.length_drop]
        omega
      match hm : (p.drop 8).take 4, hlen with
      | [a, b, c, d], _ => exact ⟨a, b, c, d, rfl⟩
    have ha := a.isLt
    have hb := b.isLt
    have hc := c.isLt
    have hd := d.isLt
    have hval : (storedChecksum p).toNat =
        a.toNat + 256 * b.toNat + 65536 * c.toNat + 16777216 * d.toNat := by
      simp only [storedChecksum, readLE, hq, decodeLE, decodeBE, List.reverse_cons,
        List.reverse_nil, List.nil_append, List.cons_append, List.foldl_cons, List.foldl_nil,
        BitVec.toNat_ofNat]
      omega
    simp only [hq, hval, encodeLE, encodeBE, List.reverse_cons, List.reverse_nil, List.nil_append,
      List.cons_append, List.cons.injEq, and_true]
    refine ⟨?_, ?_, ?_, ?_⟩ <;>
    · apply BitVec.eq_of_toNat_eq
      simp only [BitVec.toNat_ofNat]
      omega
  have hmid : (p.drop 8).take 4 ++ p.drop 12 = p.drop 8 := by
    have := List.take_append_drop 4 (p.drop 8)
    rwa [List.drop_drop] at this
  rw [storeChecksum, hfield, List.append_assoc, hmid, List.take_append_drop]

/-- The packet handed to `outboundFn` for a buffer whose first `len` bytes are `p`. -/
def sealPacket (p : Bytes) : Bytes := storeChecksum p (sctpCrc32c (zeroChecksum p))

theorem take_sctpFinalizePacket {buf : Bytes} {len : Nat} (h12 : 12 ≤ len) (hb : 12 ≤ buf.length) :
    (sctpFinalizePacket buf len).take len = sealPacket (buf.take len) := by
  have h8 : (buf.take 8).length = 8 := by
    rw [List.length_take]
    omega
  have hzero : (zeroChecksum buf).take len = zeroChecksum (buf.take len) := by
    rw [zeroChecksum, zeroChecksum, List.take_append, List.take_of_length_le (by simp [h8]; omega),
      List.take_take, Nat.min_eq_left (by omega), List.drop_take]
    simp [h8]
  rw [sctpFinalizePacket, storeChecksum_zeroChecksum _ hb, hzero, sealPacket]
  generalize sctpCrc32c (zeroChecksum (buf.take len)) = crc
  rw [storeChecksum, storeChecksum, List.take_append, List.take_of_length_le (by simp [h8]; omega),
    List.take_take, Nat.min_eq_left (by omega), List.drop_take]
  simp [h8]

/-- The packet `p` has a valid checksum, shows the verification tag `vtag` and has the chunks `body`
after its header. -/
structure Sealed (p : Bytes) (vtag : UINT32) (body : Bytes) : Prop where
  length : 12 ≤ p.length
  checksum : storedChecksum p = sctpCrc32c (zeroChecksum p)
  tag : getUnalignedInt32BigEndian p 4 = vtag
  body : p.drop 12 = body

theorem sealed_sealPacket (srcPort dstPort : UINT16) (vtag : UINT32) (body : Bytes) :
    Sealed (sealPacket (sctpWriteCommonHeader srcPort dstPort vtag ++ body)) vtag body := by
  generalize hp : sctpWriteCommonHeader srcPort dstPort vtag ++ body = p
  have h12 : 12 ≤ p.length := by
    rw [← hp]
    simp
  have hdrop : p.drop 12 = body := by
    rw [← hp, drop_skip _ (by simp)]
    simp
  have htake : p.take 8 = putUnalignedInt16BigEndian srcPort ++ putUnalignedInt16BigEndian dstPort ++
      putUnalignedInt32BigEndian vtag := by
    rw [← hp, List.take_append_of_le_length (by simp), sctpWriteCommonHeader,
      List.take_append_of_le_length (by simp), List.take_of_length_le (by simp)]
  obtain ⟨hs1, hs2, hs3⟩ := storeChecksum_parts (sctpCrc32c (zeroChecksum p)) h12
  refine ⟨?_, ?_, ?_, ?_⟩
  · rw [sealPacket, length_storeChecksum _ h12]
    exact h12
  · rw [sealPacket, hs3, zeroChecksum_storeChecksum _ h12]
  · rw [sealPacket, storeChecksum, htake, List.append_assoc, List.append_assoc, List.append_assoc,
      get32_skip _ (by simp), get32_skip _ (by simp)]
    simp
  · rw [sealPacket, hs2, hdrop]

theorem Sealed.validate {p body : Bytes} {vtag : UINT32} (h : Sealed p vtag body)
    (expectedVtag : UINT32) :
    sctpValidatePacket p expectedVtag =
      (if vtag ≠ 0 ∧ expectedVtag ≠ 0 ∧ vtag ≠ expectedVtag then .SCTP_INVALID_DCEP_PACKET
        else .SUCCESS, p) := by
  have h12 : ¬ p.length < SCTP_COMMON_HEADER_SIZE := Nat.not_lt.mpr h.length
  have hback : storeChecksum (zeroChecksum p) (storedChecksum p) = p := by
    rw [storeChecksum_zeroChecksum _ h.length, storeChecksum_storedChecksum h.length]
  unfold sctpValidatePacket
  rw [if_neg h12]
  simp only [hback, h.tag]
  rw [if_neg (by simp [h.checksum])]
  split <;> rfl

/-- The packet `p` has a valid checksum, shows the verification tag `vtag` and parses to the one
chunk `c`. -/
structure Carries (p : Bytes) (vtag : UINT32) (c : SctpChunk) : Prop where
  length : 12 ≤ p.length
  checksum : storedChecksum p = sctpCrc32c (zeroChecksum p)
  tag : getUnalignedInt32BigEndian p 4 = vtag
  chunks : sctpParseChunks p = [c]

/-- **A sealed packet with one chunk carries that chunk**, whatever its padding bytes are. -/
theorem carries_sealPacket (srcPort dstPort : UINT16) (vtag : UINT32) (type flags : UINT8)
    (value pad : Bytes) (hlen : 4 + value.length < 65536) (hpad : pad.length < 4) :
    Carries (sealPacket
      (sctpWriteCommonHeader srcPort dstPort vtag ++ chunkBytes type flags value ++ pad))
      vtag ⟨type, flags, value⟩ := by
  have hs := sealed_sealPacket srcPort dstPort vtag (chunkBytes type flags value ++ pad)
  rw [← List.append_assoc] at hs
  exact ⟨hs.length, hs.checksum, hs.tag, sctpParseChunks_chunkBytes hs.body hlen hpad⟩

theorem Carries.validate {p : Bytes} {vtag : UINT32} {c : SctpChunk} (h : Carries p vtag c)
    (expectedVtag : UINT32) :
    sctpValidatePacket p expectedVtag =
      (if vtag ≠ 0 ∧ expectedVtag ≠ 0 ∧ vtag ≠ expectedVtag then .SCTP_INVALID_DCEP_PACKET
        else .SUCCESS, p) :=
  Sealed.validate ⟨h.length, h.checksum, h.tag, rfl⟩ expectedVtag

/-- A sealed packet with one chunk and no padding. -/
def onePacket (srcPort dstPort : UINT16) (vtag : UINT32) (c : SctpChunk) : Bytes :=
  sealPacket (sctpWriteCommonHeader srcPort dstPort vtag ++ chunkBytes c.type c.flags c.value)

theorem carries_onePacket (srcPort dstPort : UINT16) (vtag : UINT32) {c : SctpChunk}
    (hlen : 4 + c.value.length < 65536) : Carries (onePacket srcPort dstPort vtag c) vtag c := by
  have h := carries_sealPacket srcPort dstPort vtag c.type c.flags c.value [] hlen (by decide)
  rwa [List.append_nil] at h

/-! ## What each writer writes -/

/-- The writer stores the chunk `c`, with a length field that is right, and returns its padded
length. -/
structure Written.Is (w : Written) (c : SctpChunk) : Prop where
  bytes : w.bytes = chunkBytes c.type c.flags c.value
  size : w.size = SCTP_PAD4 (4 + c.value.length)
  fits : 4 + c.value.length < 65536

def initValue (initTag arwnd : UINT32) (numOutStreams numInStreams : UINT16)
    (initialTsn : UINT32) : Bytes :=
  putUnalignedInt32BigEndian initTag ++ putUnalignedInt32BigEndian arwnd ++
    putUnalignedInt16BigEndian numOutStreams ++ putUnalignedInt16BigEndian numInStreams ++
    putUnalignedInt32BigEndian initialTsn

def dataValue (tsn : UINT32) (streamId ssn : UINT16) (ppid : UINT32) (pPayload : Bytes) : Bytes :=
  putUnalignedInt32BigEndian tsn ++ putUnalignedInt16BigEndian streamId ++
    putUnalignedInt16BigEndian ssn ++ putUnalignedInt32BigEndian ppid ++ pPayload

def sackValue (cumTsn arwnd : UINT32) (gaps : List (UINT16 × UINT16)) : Bytes :=
  putUnalignedInt32BigEndian cumTsn ++ putUnalignedInt32BigEndian arwnd ++
    putUnalignedInt16BigEndian (BitVec.ofNat 16 gaps.length) ++ putUnalignedInt16BigEndian 0 ++
    gaps.flatMap (fun g => putUnalignedInt16BigEndian g.1 ++ putUnalignedInt16BigEndian g.2)

theorem length_gaps (gaps : List (UINT16 × UINT16)) :
    (gaps.flatMap (fun g => putUnalignedInt16BigEndian g.1 ++
      putUnalignedInt16BigEndian g.2)).length = gaps.length * 4 := by
  induction gaps with
  | nil => rfl
  | cons g gaps ih =>
    simp only [List.flatMap_cons, List.length_append, length_put16, ih, List.length_cons]
    omega

theorem get16_gaps {gaps : List (UINT16 × UINT16)} {i : Nat} (hi : i < gaps.length) :
    getUnalignedInt16BigEndian (gaps.flatMap (fun g => putUnalignedInt16BigEndian g.1 ++
        putUnalignedInt16BigEndian g.2)) (4 * i) = gaps[i].1 ∧
      getUnalignedInt16BigEndian (gaps.flatMap (fun g => putUnalignedInt16BigEndian g.1 ++
        putUnalignedInt16BigEndian g.2)) (4 * i + 2) = gaps[i].2 := by
  induction gaps generalizing i with
  | nil => cases hi
  | cons g gaps ih =>
    rw [List.flatMap_cons, List.append_assoc]
    cases i with
    | zero =>
      refine ⟨get16_put16 _ _, ?_⟩
      rw [get16_skip _ (by simp)]
      simp
    | succ i =>
      have hrest := ih (Nat.lt_of_succ_lt_succ hi)
      have hskip : ∀ off, 4 ≤ off → getUnalignedInt16BigEndian (putUnalignedInt16BigEndian g.1 ++
          (putUnalignedInt16BigEndian g.2 ++ gaps.flatMap (fun g => putUnalignedInt16BigEndian g.1 ++
            putUnalignedInt16BigEndian g.2))) off =
          getUnalignedInt16BigEndian (gaps.flatMap (fun g => putUnalignedInt16BigEndian g.1 ++
            putUnalignedInt16BigEndian g.2)) (off - 4) := by
        intro off hoff
        rw [get16_skip _ (by rw [length_put16]; omega), get16_skip _ (by simp only [length_put16]; omega)]
        rfl
      rw [hskip _ (by omega), hskip _ (by omega)]
      rw [show 4 * (i + 1) - 4 = 4 * i by omega, show 4 * (i + 1) + 2 - 4 = 4 * i + 2 by omega]
      exact hrest

theorem length_initValue (tag arwnd : UINT32) (os is : UINT16) (tsn : UINT32) :
    (initValue tag arwnd os is tsn).length = 16 := by
  simp [initValue]

theorem get_initValue_tag (tag arwnd : UINT32) (os is : UINT16) (tsn : UINT32) (rest : Bytes) :
    getUnalignedInt32BigEndian (initValue tag arwnd os is tsn ++ rest) 0 = tag := by
  simp [initValue]

theorem get_initValue_tsn (tag arwnd : UINT32) (os is : UINT16) (tsn : UINT32) (rest : Bytes) :
    getUnalignedInt32BigEndian (initValue tag arwnd os is tsn ++ rest) 12 = tsn := by
  unfold initValue
  rw [List.append_assoc, get32_skip _ (by simp)]
  simp

theorem sctpWriteInitChunk_is (initTag arwnd : UINT32) (numOutStreams numInStreams : UINT16)
    (initialTsn : UINT32) :
    (sctpWriteInitChunk initTag arwnd numOutStreams numInStreams initialTsn).Is
      ⟨SCTP_CHUNK_INIT, 0, initValue initTag arwnd numOutStreams numInStreams initialTsn ++
        putUnalignedInt16BigEndian SCTP_PARAM_FORWARD_TSN_SUPPORTED ++
        putUnalignedInt16BigEndian 4⟩ := by
  refine ⟨?_, ?_, ?_⟩ <;>
    simp [sctpWriteInitChunk, initValue, chunkBytes, SCTP_INIT_HEADER_SIZE]

theorem sctpWriteInitAckChunk_is (initTag arwnd : UINT32) (numOutStreams numInStreams : UINT16)
    (initialTsn : UINT32) {pCookie : Bytes} (h4 : pCookie.length % 4 = 0)
    (hlen : pCookie.length < 65000) :
    (sctpWriteInitAckChunk initTag arwnd numOutStreams numInStreams initialTsn pCookie).Is
      ⟨SCTP_CHUNK_INIT_ACK, 0, initValue initTag arwnd numOutStreams numInStreams initialTsn ++
        putUnalignedInt16BigEndian SCTP_PARAM_STATE_COOKIE ++
        putUnalignedInt16BigEndian (BitVec.ofNat 16 (4 + pCookie.length)) ++ pCookie ++
        putUnalignedInt16BigEndian SCTP_PARAM_FORWARD_TSN_SUPPORTED ++
        putUnalignedInt16BigEndian 4⟩ := by
  have hpad : SCTP_PAD4 (24 + pCookie.length) - (24 + pCookie.length) = 0 := by
    unfold SCTP_PAD4
    omega
  refine ⟨?_, ?_, ?_⟩
  · simp only [sctpWriteInitAckChunk, initValue, chunkBytes, SCTP_INIT_HEADER_SIZE,
      List.length_append, List.length_cons, List.length_nil, length_put16, length_put32]
    rw [show 0 + 1 + 1 + 2 + (4 + 4 + 2 + 2 + 4 + 2 + 2 + pCookie.length) = 24 + pCookie.length by
      omega, hpad, show 20 + (4 + pCookie.length) + 4 =
        4 + (4 + 4 + 2 + 2 + 4 + 2 + 2 + pCookie.length + 2 + 2) by omega]
    simp
  · simp only [sctpWriteInitAckChunk, initValue, List.length_append, List.length_cons,
      List.length_nil, length_put16, length_put32, List.length_replicate]
    rw [show 0 + 1 + 1 + 2 + (4 + 4 + 2 + 2 + 4 + 2 + 2 + pCookie.length) = 24 + pCookie.length by
      omega, hpad]
    congr 1
    omega
  · simp [initValue]
    omega

theorem sctpWriteCookieEchoChunk_is {pCookie : Bytes} (hlen : 4 + pCookie.length < 65536) :
    (sctpWriteCookieEchoChunk pCookie).Is ⟨SCTP_CHUNK_COOKIE_ECHO, 0, pCookie⟩ := by
  refine ⟨?_, ?_, ?_⟩
  · simp [sctpWriteCookieEchoChunk, chunkBytes, SCTP_CHUNK_HEADER_SIZE]
  · simp [sctpWriteCookieEchoChunk, SCTP_CHUNK_HEADER_SIZE]
  · exact hlen

theorem sctpWriteCookieAckChunk_is : sctpWriteCookieAckChunk.Is ⟨SCTP_CHUNK_COOKIE_ACK, 0, []⟩ :=
  ⟨rfl, rfl, by decide⟩

theorem writeDataChunk_is (flags : UINT8) (tsn : UINT32) (streamId ssn : UINT16) (ppid : UINT32)
    {pPayload : Bytes} (hlen : pPayload.length < 65520) :
    (writeDataChunk flags tsn streamId ssn ppid pPayload).Is
      ⟨SCTP_CHUNK_DATA, flags, dataValue tsn streamId ssn ppid pPayload⟩ := by
  have hl : 4 + (dataValue tsn streamId ssn ppid pPayload).length = 16 + pPayload.length := by
    simp [dataValue]
    omega
  refine ⟨?_, ?_, ?_⟩
  · simp only [chunkBytes, hl]
    simp [writeDataChunk, dataValue, SCTP_DATA_HEADER_SIZE]
  · simp only [hl, writeDataChunk, SCTP_DATA_HEADER_SIZE]
  · simp only [hl]
    omega

theorem sctpWriteSackChunk_is (cumTsn arwnd : UINT32) {gaps : List (UINT16 × UINT16)}
    (hlen : 16 + gaps.length * 4 < 65536) :
    (sctpWriteSackChunk cumTsn arwnd gaps).Is
      ⟨SCTP_CHUNK_SACK, 0, sackValue cumTsn arwnd gaps⟩ := by
  have hl : 4 + (sackValue cumTsn arwnd gaps).length = 16 + gaps.length * 4 := by
    simp only [sackValue, List.length_append, length_put16, length_put32, length_gaps]
    omega
  refine ⟨?_, ?_, ?_⟩
  · simp only [chunkBytes, hl]
    simp [sctpWriteSackChunk, sackValue, SCTP_SACK_HEADER_SIZE]
  · simp only [hl, sctpWriteSackChunk, List.length_append, List.length_cons, List.length_nil,
      length_put16, length_put32, length_gaps]
    congr 1
    omega
  · simp only [hl]
    exact hlen

theorem sctpWriteForwardTsnChunk_is (newCumTsn : UINT32) :
    (sctpWriteForwardTsnChunk newCumTsn).Is
      ⟨SCTP_CHUNK_FORWARD_TSN, 0, putUnalignedInt32BigEndian newCumTsn⟩ := by
  refine ⟨?_, ?_, ?_⟩ <;> simp [sctpWriteForwardTsnChunk, chunkBytes, SCTP_FORWARD_TSN_HEADER_SIZE]

/-! ## The state cookie -/

/-- The packed cookie structure in memory (little-endian host). -/
def SctpCookie.toBytes (c : SctpCookie) : Bytes :=
  encodeLE 4 c.magic1.toNat ++ encodeLE 4 c.magic2.toNat ++ encodeLE 4 c.peerTag.toNat ++
    encodeLE 4 c.myTag.toNat ++ encodeLE 4 c.peerInitialTsn.toNat ++
    encodeLE 4 c.myInitialTsn.toNat ++ encodeLE 4 c.peerArwnd.toNat ++ encodeLE 8 c.tieTag.toNat ++
    encodeLE 2 c.numInStreams.toNat ++ encodeLE 2 c.numOutStreams.toNat ++
    encodeLE 4 c.reserved.toNat

/-- The cast `(SctpCookie*) pValue`. -/
def SctpCookie.ofBytes (p : Bytes) : SctpCookie where
  magic1 := BitVec.ofNat 32 (readLE p 0 4)
  magic2 := BitVec.ofNat 32 (readLE p 4 4)
  peerTag := BitVec.ofNat 32 (readLE p 8 4)
  myTag := BitVec.ofNat 32 (readLE p 12 4)
  peerInitialTsn := BitVec.ofNat 32 (readLE p 16 4)
  myInitialTsn := BitVec.ofNat 32 (readLE p 20 4)
  peerArwnd := BitVec.ofNat 32 (readLE p 24 4)
  tieTag := BitVec.ofNat 64 (readLE p 28 8)
  numInStreams := BitVec.ofNat 16 (readLE p 36 2)
  numOutStreams := BitVec.ofNat 16 (readLE p 38 2)
  reserved := BitVec.ofNat 32 (readLE p 40 4)

theorem SctpCookie.length_toBytes (c : SctpCookie) : c.toBytes.length = SCTP_COOKIE_SIZE := by
  simp [SctpCookie.toBytes]

theorem SctpCookie.ofBytes_toBytes (c : SctpCookie) : SctpCookie.ofBytes c.toBytes = c := by
  have e2 : ∀ v : UINT16, BitVec.ofNat 16 (v.toNat % 256 ^ 2) = v := by
    intro v
    apply BitVec.eq_of_toNat_eq
    have := v.isLt
    simp only [BitVec.toNat_ofNat]
    omega
  have e4 : ∀ v : UINT32, BitVec.ofNat 32 (v.toNat % 256 ^ 4) = v := by
    intro v
    apply BitVec.eq_of_toNat_eq
    have := v.isLt
    simp only [BitVec.toNat_ofNat]
    omega
  have e8 : ∀ v : UINT64, BitVec.ofNat 64 (v.toNat % 256 ^ 8) = v := by
    intro v
    apply BitVec.eq_of_toNat_eq
    have := v.isLt
    simp only [BitVec.toNat_ofNat]
    omega
  have last : ∀ n v, readLE (encodeLE n v) 0 n = v % 256 ^ n := by
    intro n v
    simpa using readLE_encodeLE n v []
  cases c
  simp [SctpCookie.ofBytes, SctpCookie.toBytes, readLE_skip, readLE_encodeLE, last, e2, e4, e8,
    -Nat.reducePow]

end KvsWebrtc.Sctp
