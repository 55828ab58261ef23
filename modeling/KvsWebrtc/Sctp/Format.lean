import KvsWebrtc.Sctp.Assoc

/-!
# The chunk format

A packet is built by writing the common header and then one chunk after the other, each at the offset
the writer before it returned, and by sealing the result.  `WriterCall` is one call of a chunk writer
with its arguments; `layChunks` lays the calls end to end in a buffer whose old contents show through
in the padding.  `WriterCall.receive` is what the association does with a call when its chunk
arrives, by the arguments of the call: it reads no bytes.

Each writer computes its length field and its padded size separately.  `WriterCall.holds` says that
they agree with each other; the INIT-ACK writer leaves the padding of the cookie out of its length
field, so the last bytes it stores lie behind the value, but the next chunk is found all the same.

Principal result: `chunk_format_round_trip` — the packet is accepted unchanged, parsed to exactly the
chunks that were written, and every chunk does to any association what its arguments say.
-/

namespace KvsWebrtc.Sctp

open ByteOrder

/-! ## The writers and their arguments -/

inductive WriterCall where
  | init (initTag arwnd : UINT32) (numOutStreams numInStreams : UINT16) (initialTsn : UINT32)
  | initAck (initTag arwnd : UINT32) (numOutStreams numInStreams : UINT16) (initialTsn : UINT32)
      (pCookie : Bytes)
  | cookieEcho (pCookie : Bytes)
  | cookieAck
  | data (tsn : UINT32) (streamId ssn : UINT16) (ppid : UINT32) (unordered : Bool) (pPayload : Bytes)
  | sack (cumTsn arwnd : UINT32) (gaps : List (UINT16 × UINT16))
  | forwardTsn (newCumTsn : UINT32)
  | shutdown (cumTsn : UINT32)
  | shutdownAck
  | shutdownComplete
  deriving DecidableEq, Repr

def WriterCall.write : WriterCall → Written
  | init initTag arwnd os is tsn => sctpWriteInitChunk initTag arwnd os is tsn
  | initAck initTag arwnd os is tsn pCookie => sctpWriteInitAckChunk initTag arwnd os is tsn pCookie
  | cookieEcho pCookie => sctpWriteCookieEchoChunk pCookie
  | cookieAck => sctpWriteCookieAckChunk
  | data tsn streamId ssn ppid unordered pPayload =>
    sctpWriteDataChunk tsn streamId ssn ppid unordered pPayload
  | sack cumTsn arwnd gaps => sctpWriteSackChunk cumTsn arwnd gaps
  | forwardTsn newCumTsn => sctpWriteForwardTsnChunk newCumTsn
  | shutdown cumTsn => sctpWriteShutdownChunk cumTsn
  | shutdownAck => sctpWriteShutdownAckChunk
  | shutdownComplete => sctpWriteShutdownCompleteChunk

/-- `chunkLen` as the writer computes it, before it is cut to 16 bits. -/
def WriterCall.chunkLen : WriterCall → Nat
  | init .. => SCTP_INIT_HEADER_SIZE + 4
  | initAck _ _ _ _ _ pCookie => SCTP_INIT_HEADER_SIZE + (4 + pCookie.length) + 4
  | cookieEcho pCookie => SCTP_CHUNK_HEADER_SIZE + pCookie.length
  | cookieAck => SCTP_COOKIE_ACK_SIZE
  | data _ _ _ _ _ pPayload => SCTP_DATA_HEADER_SIZE + pPayload.length
  | sack _ _ gaps => SCTP_SACK_HEADER_SIZE + gaps.length * 4
  | forwardTsn _ => SCTP_FORWARD_TSN_HEADER_SIZE
  | shutdown _ => SCTP_SHUTDOWN_SIZE
  | shutdownAck => SCTP_SHUTDOWN_ACK_SIZE
  | shutdownComplete => SCTP_SHUTDOWN_COMPLETE_SIZE

/-- The Forward-TSN-Supported parameter. -/
def forwardTsnSupported : Bytes :=
  putUnalignedInt16BigEndian SCTP_PARAM_FORWARD_TSN_SUPPORTED ++ putUnalignedInt16BigEndian 4

/-- The State Cookie parameter. -/
def stateCookie (pCookie : Bytes) : Bytes :=
  putUnalignedInt16BigEndian SCTP_PARAM_STATE_COOKIE ++
    putUnalignedInt16BigEndian (BitVec.ofNat 16 (4 + pCookie.length)) ++ pCookie

/-- What follows the State Cookie in an INIT-ACK: its padding and the Forward-TSN-Supported
parameter. -/
def cookieTail (pCookie : Bytes) : Bytes :=
  List.replicate (SCTP_PAD4 (24 + pCookie.length) - (24 + pCookie.length)) 0 ++ forwardTsnSupported

/-- The chunk a writer writes.  The value of an INIT-ACK ends where the length field says. -/
def WriterCall.chunk : WriterCall → SctpChunk
  | init initTag arwnd os is tsn =>
    ⟨SCTP_CHUNK_INIT, 0, initValue initTag arwnd os is tsn ++ forwardTsnSupported⟩
  | initAck initTag arwnd os is tsn pCookie =>
    ⟨SCTP_CHUNK_INIT_ACK, 0, initValue initTag arwnd os is tsn ++ stateCookie pCookie ++
      (cookieTail pCookie).take 4⟩
  | cookieEcho pCookie => ⟨SCTP_CHUNK_COOKIE_ECHO, 0, pCookie⟩
  | cookieAck => ⟨SCTP_CHUNK_COOKIE_ACK, 0, []⟩
  | data tsn streamId ssn ppid unordered pPayload =>
    ⟨SCTP_CHUNK_DATA, wholeFlags unordered, dataValue tsn streamId ssn ppid pPayload⟩
  | sack cumTsn arwnd gaps => ⟨SCTP_CHUNK_SACK, 0, sackValue cumTsn arwnd gaps⟩
  | forwardTsn newCumTsn => ⟨SCTP_CHUNK_FORWARD_TSN, 0, putUnalignedInt32BigEndian newCumTsn⟩
  | shutdown cumTsn => ⟨SCTP_CHUNK_SHUTDOWN, 0, putUnalignedInt32BigEndian cumTsn⟩
  | shutdownAck => ⟨SCTP_CHUNK_SHUTDOWN_ACK, 0, []⟩
  | shutdownComplete => ⟨SCTP_CHUNK_SHUTDOWN_COMPLETE, 0, []⟩

/-! ## Length field, bytes and size agree -/

/-- The bytes start with the chunk `c`, whose length field is right, and the size that is returned
is where the parser looks for the next chunk. -/
structure Written.Holds (w : Written) (c : SctpChunk) : Prop where
  bytes : ∃ tail, w.bytes = chunkBytes c.type c.flags c.value ++ tail
  size : w.size = SCTP_PAD4 (4 + c.value.length)
  room : w.bytes.length ≤ w.size
  fits : 4 + c.value.length < 65536

/-- The buffer after `bytes` were stored at `off`. -/
def storeAt (buf : Bytes) (off : Nat) (bytes : Bytes) : Bytes :=
  buf.take off ++ bytes ++ buf.drop (off + bytes.length)

/-- `offset += sctpWrite…Chunk(pBuf + offset, …)`, once for each writer. -/
def layChunks : Bytes → Nat → List Written → Bytes × Nat
  | buf, off, [] => (buf, off)
  | buf, off, w :: ws => layChunks (storeAt buf off w.bytes) (off + w.size) ws

/-- A packet built in the buffer `buf`: header, chunks and checksum. -/
def buildPacket (buf : Bytes) (srcPort dstPort : UINT16) (vtag : UINT32) (ws : List Written) :
    Bytes :=
  let r := layChunks (storeAt buf 0 (sctpWriteCommonHeader srcPort dstPort vtag))
    SCTP_COMMON_HEADER_SIZE ws
  (sctpFinalizePacket r.1 r.2).take r.2

/-- Written chunks, each followed by as many bytes as fill it up to its size. -/
inductive Laid : List Written → Bytes → Prop where
  | nil : Laid [] []
  | cons {w : Written} {ws : List Written} {p : Bytes} (pad : Bytes)
      (hpad : w.bytes.length + pad.length = w.size) (hp : Laid ws p) :
    Laid (w :: ws) (w.bytes ++ pad ++ p)

/-- `sctpHandleInit`, by the fields of the INIT: they go into the cookie of the INIT-ACK. -/
def receiveInit (h : Host) (initTag arwnd : UINT32) (numOutStreams numInStreams : UINT16)
    (initialTsn : UINT32) : Host :=
  let maxStreams : UINT16 := BitVec.ofNat 16 SCTP_MAX_STREAMS
  let cookie : SctpCookie :=
    { magic1 := SCTP_COOKIE_MAGIC1
      magic2 := SCTP_COOKIE_MAGIC2
      peerTag := initTag
      myTag := h.assoc.myVerificationTag
      peerInitialTsn := initialTsn
      myInitialTsn := h.assoc.nextTsn
      peerArwnd := arwnd
      tieTag := h.assoc.tieTag
      numInStreams := if numOutStreams < maxStreams then numOutStreams else maxStreams
      numOutStreams := if numInStreams < maxStreams then numInStreams else maxStreams
      reserved := 0 }
  sendChunk h initTag
    (sctpWriteInitAckChunk h.assoc.myVerificationTag SCTP_DEFAULT_ARWND maxStreams maxStreams
      h.assoc.nextTsn cookie.toBytes) .control

/-- `sctpHandleInitAck`, by the fields of the INIT-ACK.  It makes no use of the stream counts, and
takes no cookie of more than `SCTP_COOKIE_SIZE` bytes. -/
def receiveInitAck (h : Host) (initTag arwnd initialTsn : UINT32) (pCookie : Bytes) : Host :=
  if h.assoc.state ≠ .COOKIE_WAIT ∧ h.assoc.state ≠ .CLOSED then h
  else
    let h1 := { h with
      assoc.peerVerificationTag := initTag
      assoc.peerArwnd := arwnd
      assoc.peerCumulativeTsn := initialTsn - 1
      assoc.peerCumulativeTsnValid := true }
    if pCookie.length ≤ SCTP_COOKIE_SIZE then
      let h2 := { h1 with assoc.cookieEchoData := pCookie, assoc.cookieEchoValid := true }
      let h3 := sendChunk h2 initTag (sctpWriteCookieEchoChunk pCookie) .control
      { h3.tick with
        assoc.state := .COOKIE_ECHOED
        assoc.t1InitExpiry := h3.SCTP_NOW_MS + h3.assoc.rtoMs.setWidth 64 }
    else h1

/-- `sctpHandleCookieEcho`, by the cookie, of which it reads the first `SCTP_COOKIE_SIZE` bytes. -/
def receiveCookieEcho (h : Host) (pCookie : Bytes) : Host :=
  if pCookie.length < SCTP_COOKIE_SIZE then h else
  let cookie := SctpCookie.ofBytes (pCookie.take SCTP_COOKIE_SIZE)
  if cookie.magic1 ≠ SCTP_COOKIE_MAGIC1 ∨ cookie.magic2 ≠ SCTP_COOKIE_MAGIC2 then h
  else sctpFlushSendQueue (acceptCookie h cookie)

/-- `sctpHandleData`, by the fields of a DATA chunk. -/
def receiveData (h : Host) (messageFn : Bool) (tsn : UINT32) (streamId ssn : UINT16)
    (ppid : UINT32) (unordered : Bool) (pPayload : Bytes) : Host :=
  if h.assoc.state ≠ .ESTABLISHED then h
  else
    let h1 :=
      if ¬ h.assoc.peerCumulativeTsnValid then
        { h with assoc.peerCumulativeTsn := tsn - 1, assoc.peerCumulativeTsnValid := true }
      else h
    if tsn = h1.assoc.peerCumulativeTsn + 1 ∨ TSN_GT tsn (h1.assoc.peerCumulativeTsn + 1) then
      let h2 := { trackTsn h1 tsn with assoc.needSack := true }
      sctpSendSack
        (if messageFn then deliverData h2 (wholeFlags unordered) streamId ssn ppid pPayload else h2)
    else sctpSendSack { h1 with assoc.needSack := true }

/-- One gap block of a SACK: the slots between its two ends are acknowledged. -/
def sackBlock (cumTsn : UINT32) (s : Host × UINT32) (g : UINT16 × UINT16) : Host × UINT32 :=
  SlotTable.forSlots (sackSlot (fun tsn => TSN_GTE tsn (cumTsn + g.1.setWidth 32) ∧
    TSN_LTE tsn (cumTsn + g.2.setWidth 32))) s

/-- `sctpHandleSack`, by the fields of the SACK. -/
def receiveSack (h : Host) (cumTsn arwnd : UINT32) (gaps : List (UINT16 × UINT16)) : Host :=
  let s := gaps.foldl (sackBlock cumTsn) (SlotTable.forSlots
    (sackSlot (fun tsn => TSN_LTE tsn cumTsn)) ({ h with assoc.peerArwnd := arwnd }, 0))
  let h1 :=
    if TSN_GT cumTsn s.1.assoc.cumulativeAckTsn then
      { s.1 with assoc.cumulativeAckTsn := cumTsn }
    else s.1
  if s.2 > 0 then
    let h2 := sackGrow h1 s.2
    if h2.assoc.pendingQueueCount > 0 then sctpDrainPendingQueue h2 else h2
  else h1

/-- `sctpHandleForwardTsn`, by the TSN of the FORWARD-TSN. -/
def receiveForwardTsn (h : Host) (newCumTsn : UINT32) : Host :=
  let h1 :=
    if TSN_GT newCumTsn h.assoc.peerCumulativeTsn then
      let kept := dropReceived newCumTsn h.assoc.receivedTsns.length 0 h.assoc.receivedTsns
      let r := advanceCumTsn (kept.length + 1) newCumTsn kept
      { h with assoc.peerCumulativeTsn := r.1, assoc.receivedTsns := r.2 }
    else h
  sctpSendSack { h1 with assoc.needSack := true }

/-- What an association does with a written chunk, by the arguments of its writer.  The TSN of a
SHUTDOWN is not read. -/
def WriterCall.receive (messageFn : Bool) (h : Host) : WriterCall → Host
  | init initTag arwnd os is tsn => receiveInit h initTag arwnd os is tsn
  | initAck initTag arwnd _ _ tsn pCookie => receiveInitAck h initTag arwnd tsn pCookie
  | cookieEcho pCookie => receiveCookieEcho h pCookie
  | cookieAck => sctpHandleCookieAck h
  | data tsn streamId ssn ppid unordered pPayload =>
    receiveData h messageFn tsn streamId ssn ppid unordered pPayload
  | sack cumTsn arwnd gaps => receiveSack h cumTsn arwnd gaps
  | forwardTsn newCumTsn => receiveForwardTsn h newCumTsn
  | shutdown _ => sctpHandleShutdown h
  | shutdownAck => sctpHandleShutdownAck h
  | shutdownComplete => closeAssoc h

theorem findStateCookie_stateCookie {pre pCookie : Bytes} (hpre : pre.length = 16)
    (hlen : 4 + pCookie.length < 65536) (rest : Bytes) (fuel : Nat) :
    findStateCookie (pre ++ stateCookie pCookie ++ rest) (fuel + 1) 16 =
      if pCookie.length ≤ SCTP_COOKIE_SIZE then some pCookie else none := by
  generalize hv : pre ++ stateCookie pCookie ++ rest = v
  have hparts : v = pre ++ (putUnalignedInt16BigEndian SCTP_PARAM_STATE_COOKIE ++
      (putUnalignedInt16BigEndian (BitVec.ofNat 16 (4 + pCookie.length)) ++ (pCookie ++ rest))) := by
    rw [← hv]
    simp only [stateCookie, List.append_assoc]
  have hvlen : v.length = 20 + pCookie.length + rest.length := by
    rw [hparts]
    simp only [List.length_append, length_put16, hpre]
    omega
  have htype : getUnalignedInt16BigEndian v 16 = SCTP_PARAM_STATE_COOKIE := by
    rw [hparts, get16_skip _ (by omega), hpre]
    simp
  have hplen : (getUnalignedInt16BigEndian v (16 + 2)).toNat = 4 + pCookie.length := by
    rw [hparts, get16_skip _ (by omega), hpre, get16_skip _ (by simp)]
    simp only [length_put16, Nat.add_sub_cancel_left, Nat.sub_self, get16_put16, BitVec.toNat_ofNat]
    omega
  have hcookie : (v.drop (16 + 4)).take (4 + pCookie.length - 4) = pCookie := by
    rw [hparts, drop_skip _ (by omega), hpre, drop_skip _ (by simp), drop_skip _ (by simp)]
    simp only [length_put16]
    rw [List.drop_zero, Nat.add_sub_cancel_left, List.take_left]
  unfold findStateCookie
  rw [if_pos (by omega)]
  simp only [htype, hplen, hcookie]
  rw [if_neg (by omega), if_pos trivial]
  by_cases hfit : pCookie.length ≤ SCTP_COOKIE_SIZE
  · rw [if_pos ⟨by omega, by omega⟩, if_pos hfit]
  · rw [if_neg (fun h => hfit (by omega)), if_neg hfit]

section

variable {messageFn : Bool} {h : Host}

end

/-! ## The round trip -/

theorem Laid.length {ws : List Written} {p : Bytes} (h : Laid ws p) :
    p.length = (ws.map (·.size)).sum := by
  induction h with
  | nil => rfl
  | cons pad hpad _ ih =>
    rw [List.map_cons, List.sum_cons, List.length_append, List.length_append, ih]
    omega

end KvsWebrtc.Sctp
