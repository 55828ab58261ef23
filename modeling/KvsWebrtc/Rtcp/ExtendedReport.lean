import KvsWebrtc.Rtcp.Compound

/-!
# Building extended reports (`rtcpBuildExtendedReport`)

An extended report has a receiver reference time (RRTR) when the last one is old enough, and a block
with an answer (DLRR) to every reporter whose reference time is pending.  A slot is pending when its
timestamp is not the one answered last.

Principal results:

* `onRtcpExtendedReport_eq` — the handler applies the blocks it visits, one after the other;
* `visitedBlocks_payload` — of a packet it visits the blocks that were written;
* `built_packet` — a packet that was built parses, and its blocks are applied.
-/

namespace KvsWebrtc.Rtcp.Compound

open ByteOrder Rtp

abbrev MAX_RECEIVED_RRTR : Nat := 4
abbrev RTCP_XR_HEADER_LEN : Nat := 8
abbrev RTCP_XR_RRTR_BLOCK_LEN : Nat := 12
abbrev RTCP_XR_DLRR_BLOCK_HDR_LEN : Nat := 4
abbrev RTCP_XR_RRTR_INTERVAL_HNS : UINT64 := 2 * HUNDREDS_OF_NANOS_IN_A_SECOND

/-! ## The blocks of a report -/

structure DlrrSubBlock where
  ssrc : UINT32
  lrr : UINT32
  dlrr : UINT32
  deriving DecidableEq, Repr

/-- A block as the handler finds it; one of another type or with a length that does not belong to
its type is skipped. -/
inductive XrBlock where
  | rrtr (ntp : UINT64)
  | dlrr (subs : List DlrrSubBlock)
  | skipped
  deriving DecidableEq, Repr

def getUnalignedInt64BigEndian (p : Bytes) (off : Nat) : UINT64 := BitVec.ofNat 64 (readBE p off 8)

def putUnalignedInt64BigEndian (v : UINT64) : Bytes := encodeBE 8 v.toNat

def subBlocksAt (payload : Bytes) : Nat → Nat → List DlrrSubBlock
  | 0, _ => []
  | n + 1, off =>
    ⟨getUnalignedInt32BigEndian payload off, getUnalignedInt32BigEndian payload (off + 4),
      getUnalignedInt32BigEndian payload (off + 8)⟩ ::
      subBlocksAt payload n (off + RTCP_XR_DLRR_SUBBLOCK_LEN)

def blockAt (payload : Bytes) (bt : UINT8) (words offset : Nat) : XrBlock :=
  if bt = RTCP_XR_BLOCK_TYPE_RRTR then
    if words ≠ 2 then .skipped else .rrtr (getUnalignedInt64BigEndian payload (offset + 4))
  else if bt = RTCP_XR_BLOCK_TYPE_DLRR then
    if words % 3 ≠ 0 then .skipped else .dlrr (subBlocksAt payload (words / 3) (offset + 4))
  else .skipped

/-- The blocks from an offset on, up to one that does not fit. -/
def blocksFrom (payload : Bytes) (payloadLength : Nat) : Nat → Nat → List XrBlock
  | 0, _ => []
  | fuel + 1, offset =>
    if offset + 4 ≤ payloadLength then
      let words := (getUnalignedInt16BigEndian payload (offset + 2)).toNat
      if payloadLength < offset + 4 + words * 4 then []
      else blockAt payload (payload.getD offset 0) words offset ::
        blocksFrom payload payloadLength fuel (offset + 4 + words * 4)
    else []

/-- The blocks the handler visits; a round moves on by four bytes at least. -/
def visitedBlocks (payload : Bytes) (payloadLength : Nat) : List XrBlock :=
  blocksFrom payload payloadLength payloadLength 4

def applySubBlock (env : RtcpEnv) (conn : KvsPeerConnection) (sub : DlrrSubBlock) :
    KvsPeerConnection :=
  match findTransceiverBySsrc conn sub.ssrc with
  | none => conn
  | some i => if sub.lrr = 0 then conn else updateTransceiver conn i (storeDlrr env sub.lrr sub.dlrr)

def applyBlock (env : RtcpEnv) (reporterSsrc : UINT32) (conn : KvsPeerConnection) :
    XrBlock → KvsPeerConnection
  | .rrtr ntp =>
    { conn with receivedRrtrs := storeRrtr conn.receivedRrtrs reporterSsrc (MID_NTP ntp) env.now }
  | .dlrr subs => subs.foldl (applySubBlock env) conn
  | .skipped => conn

theorem run_dlrrSubBlocks (env : RtcpEnv) (payload : Bytes) (n off : Nat)
    (conn : KvsPeerConnection) : ((dlrrSubBlocks env n off conn).run payload).1 =
      (subBlocksAt payload n off).foldl (applySubBlock env) conn := by
  induction n generalizing off conn with
  | zero => rfl
  | succ n ih => exact ih (off + RTCP_XR_DLRR_SUBBLOCK_LEN) _

theorem run_xrBlock (env : RtcpEnv) (reporterSsrc : UINT32) (payload : Bytes) (bt : UINT8)
    (words offset : Nat) (conn : KvsPeerConnection) :
    ((xrBlock env reporterSsrc bt words offset conn).run payload).1 =
      applyBlock env reporterSsrc conn (blockAt payload bt words offset) := by
  unfold xrBlock blockAt
  split
  · split
    · rfl
    · rfl
  · split
    · split
      · rfl
      · exact run_dlrrSubBlocks env payload _ _ conn
    · rfl

theorem run_xrBlocks (env : RtcpEnv) (reporterSsrc : UINT32) (payload : Bytes)
    (payloadLength fuel offset : Nat) (conn : KvsPeerConnection) :
    ((xrBlocks env payloadLength reporterSsrc fuel offset conn).run payload).1 =
      (blocksFrom payload payloadLength fuel offset).foldl (applyBlock env reporterSsrc) conn := by
  induction fuel generalizing offset conn with
  | zero => rfl
  | succ fuel ih =>
    unfold xrBlocks blocksFrom
    by_cases hheader : offset + 4 ≤ payloadLength
    · simp only [if_pos hheader, Traced.run_bind]
      change ((if payloadLength < offset + 4 +
        (getUnalignedInt16BigEndian payload (offset + 2)).toNat * 4 then _ else _ :
          Traced Bytes _).run payload).1 = _
      split
      · rfl
      · rw [Traced.run_bind, List.foldl_cons, ← run_xrBlock, ← ih]
        rfl
    · rw [if_neg hheader, if_neg hheader]
      rfl

/-- **The handler** applies the blocks it visits. -/
theorem onRtcpExtendedReport_eq (env : RtcpEnv) {payload : Bytes} {payloadLength : Nat}
    (conn : KvsPeerConnection) (h : 4 ≤ payloadLength) :
    ((onRtcpExtendedReport env payloadLength conn).run payload).1 =
      ((visitedBlocks payload payloadLength).foldl
        (applyBlock env (getUnalignedInt32BigEndian payload 0)) conn, .SUCCESS) := by
  rw [onRtcpExtendedReport, if_neg (Nat.not_lt.mpr h)]
  exact Prod.ext (run_xrBlocks env _ payload payloadLength payloadLength 4 conn) rfl

/-! ## The packet -/

/-- What `rtcpBuildExtendedReport` reads and writes of the transceiver. -/
structure XrSender where
  ssrc : UINT32
  lastRrtrSentTime : UINT64
  lastRrtrNtpMid : UINT32
  deriving DecidableEq, Repr

def rrtrBytes (ntp : UINT64) : Bytes :=
  [RTCP_XR_BLOCK_TYPE_RRTR, 0] ++ (putUnalignedInt16BigEndian 2 ++ putUnalignedInt64BigEndian ntp)

def subBlockBytes (sub : DlrrSubBlock) : Bytes :=
  putUnalignedInt32BigEndian sub.ssrc ++ (putUnalignedInt32BigEndian sub.lrr ++
    putUnalignedInt32BigEndian sub.dlrr)

def dlrrBytes (subs : List DlrrSubBlock) : Bytes :=
  [RTCP_XR_BLOCK_TYPE_DLRR, 0] ++
    (putUnalignedInt16BigEndian (BitVec.ofNat 16 (subs.length * 3)) ++ subs.flatMap subBlockBytes)

def sendsRrtr (t : XrSender) (currentTime : UINT64) : Bool :=
  t.lastRrtrSentTime = 0 || currentTime - t.lastRrtrSentTime ≥ RTCP_XR_RRTR_INTERVAL_HNS

def ReceivedRrtrEntry.isPending (e : ReceivedRrtrEntry) : Bool :=
  e.ssrc ≠ 0 && e.ntpMid ≠ e.lastRepliedNtpMid

/-- The delay is computed in 64 bits and stored in 32. -/
def ReceivedRrtrEntry.answer (currentTime : UINT64) (e : ReceivedRrtrEntry) : DlrrSubBlock :=
  let delayHns := currentTime - e.arrivalTimeHns
  ⟨e.ssrc, e.ntpMid,
    (delayHns * BitVec.ofNat 64 DLSR_TIMESCALE / HUNDREDS_OF_NANOS_IN_A_SECOND).truncate 32⟩

/-- The first slot of that reporter with that timestamp is marked. -/
def markReplied (pending : ReceivedRrtrEntry) : List ReceivedRrtrEntry → List ReceivedRrtrEntry
  | [] => []
  | e :: es =>
    if e.ssrc = pending.ssrc ∧ e.ntpMid = pending.ntpMid then
      { e with lastRepliedNtpMid := pending.ntpMid } :: es
    else e :: markReplied pending es

/-- The blocks that are written. -/
def writtenBlocks (sendRrtr : Bool) (currentTime : UINT64) (pending : List ReceivedRrtrEntry) :
    List XrBlock :=
  (if sendRrtr then [.rrtr (convertTimestampToNTP currentTime)] else []) ++
    if pending = [] then [] else [.dlrr (pending.map (ReceivedRrtrEntry.answer currentTime))]

def XrBlock.bytes : XrBlock → Bytes
  | .rrtr ntp => rrtrBytes ntp
  | .dlrr subs => dlrrBytes subs
  | .skipped => []

def extendedReportPayload (reporterSsrc : UINT32) (blocks : List XrBlock) : Bytes :=
  putUnalignedInt32BigEndian reporterSsrc ++ blocks.flatMap XrBlock.bytes

def extendedReportBytes (reporterSsrc : UINT32) (blocks : List XrBlock) (packetLen : Nat) : Bytes :=
  [RTCP_PACKET_VERSION_VAL <<< 6, RTCP_PACKET_TYPE_EXTENDED_REPORT] ++
    (putUnalignedInt16BigEndian (BitVec.ofNat 16 (packetLen / RTCP_PACKET_LEN_WORD_SIZE - 1)) ++
      extendedReportPayload reporterSsrc blocks)

/-- The length is computed before the buffer is written, from what will be sent. -/
def extendedReportLen (sendRrtr : Bool) (pendingCount : Nat) : Nat :=
  RTCP_XR_HEADER_LEN + (if sendRrtr then RTCP_XR_RRTR_BLOCK_LEN else 0) +
    if pendingCount > 0 then RTCP_XR_DLRR_BLOCK_HDR_LEN + pendingCount * RTCP_XR_DLRR_SUBBLOCK_LEN
    else 0

structure XrBuilt where
  result : BuildResult
  receivedRrtrs : List ReceivedRrtrEntry
  sender : XrSender

/-- `packetLen` is the size of the caller's buffer. -/
def rtcpBuildExtendedReport (receivedRrtrs : List ReceivedRrtrEntry) (t : XrSender)
    (currentTime : UINT64) (packetLen : Nat) : XrBuilt :=
  let sendRrtr := sendsRrtr t currentTime
  let pending := receivedRrtrs.filter ReceivedRrtrEntry.isPending
  if !sendRrtr && pending.length = 0 then ⟨.nothingToSend, receivedRrtrs, t⟩
  else
    let len := extendedReportLen sendRrtr pending.length
    if packetLen < len then ⟨.BUFFER_TOO_SMALL, receivedRrtrs, t⟩
    else
      { result := .packet
          (extendedReportBytes t.ssrc (writtenBlocks sendRrtr currentTime pending) len)
        receivedRrtrs := pending.foldl (fun entries e => markReplied e entries) receivedRrtrs
        sender :=
          if sendRrtr then
            { t with
              lastRrtrNtpMid := MID_NTP (convertTimestampToNTP currentTime)
              lastRrtrSentTime := currentTime }
          else t }

theorem rtcpBuildExtendedReport_cases (entries : List ReceivedRrtrEntry) (t : XrSender)
    (currentTime : UINT64) (packetLen : Nat) :
    let built := rtcpBuildExtendedReport entries t currentTime packetLen
    let pending := entries.filter ReceivedRrtrEntry.isPending
    (built.result = .nothingToSend ∧ built.receivedRrtrs = entries ∧ pending = []) ∨
    (built.result = .BUFFER_TOO_SMALL ∧ built.receivedRrtrs = entries) ∨
    (built.result = .packet (extendedReportBytes t.ssrc
        (writtenBlocks (sendsRrtr t currentTime) currentTime pending)
        (extendedReportLen (sendsRrtr t currentTime) pending.length)) ∧
      built.receivedRrtrs = pending.foldl (fun entries e => markReplied e entries) entries) := by
  unfold rtcpBuildExtendedReport
  dsimp only
  split
  · rename_i hnothing
    simp only [Bool.and_eq_true, decide_eq_true_eq] at hnothing
    exact .inl ⟨rfl, rfl, List.eq_nil_of_length_eq_zero hnothing.2⟩
  · split
    · exact .inr (.inl ⟨rfl, rfl⟩)
    · exact .inr (.inr ⟨rfl, rfl⟩)

/-! ## Reading it back -/

theorem get64_put64 (v : UINT64) (rest : Bytes) :
    getUnalignedInt64BigEndian (putUnalignedInt64BigEndian v ++ rest) 0 = v := by
  rw [getUnalignedInt64BigEndian, putUnalignedInt64BigEndian, readBE_encodeBE]
  apply BitVec.eq_of_toNat_eq
  have := v.isLt
  simp only [BitVec.toNat_ofNat]
  omega

theorem get64_skip {pre : Bytes} {off : Nat} (rest : Bytes) (h : pre.length ≤ off) :
    getUnalignedInt64BigEndian (pre ++ rest) off =
      getUnalignedInt64BigEndian rest (off - pre.length) := by
  rw [getUnalignedInt64BigEndian, readBE_skip rest 8 h, getUnalignedInt64BigEndian]

@[simp] theorem length_put64 (v : UINT64) : (putUnalignedInt64BigEndian v).length = 8 := by
  simp [putUnalignedInt64BigEndian]

@[simp] theorem length_subBlockBytes (sub : DlrrSubBlock) : (subBlockBytes sub).length = 12 := by
  simp [subBlockBytes]

theorem length_flatMap_subBlockBytes (subs : List DlrrSubBlock) :
    (subs.flatMap subBlockBytes).length = subs.length * 12 := by
  induction subs with
  | nil => rfl
  | cons sub subs ih =>
    rw [List.flatMap_cons, List.length_append, ih, length_subBlockBytes, List.length_cons]
    omega

theorem subBlocksAt_written (subs : List DlrrSubBlock) (pre rest : Bytes) :
    subBlocksAt (pre ++ (subs.flatMap subBlockBytes ++ rest)) subs.length pre.length = subs := by
  induction subs generalizing pre with
  | nil => rfl
  | cons sub subs ih =>
    have hnext := ih (pre ++ subBlockBytes sub)
    rw [List.length_append, length_subBlockBytes, List.append_assoc] at hnext
    rw [List.flatMap_cons, List.append_assoc, List.length_cons, subBlocksAt, hnext]
    refine congrArg (· :: subs) ?_
    rw [get32_skip _ (Nat.le_refl _), get32_skip _ (Nat.le_add_right _ _),
      get32_skip _ (Nat.le_add_right _ _), Nat.sub_self, Nat.add_sub_cancel_left,
      Nat.add_sub_cancel_left, subBlockBytes, List.append_assoc, List.append_assoc, get32_put32,
      get32_skip _ (by simp), length_put32, get32_put32, get32_skip _ (by simp), length_put32,
      get32_skip _ (by simp), length_put32, get32_put32]

/-- A block the handler does not skip; the length of its body fits into the field. -/
def XrBlock.Proper : XrBlock → Prop
  | .rrtr _ => True
  | .dlrr subs => subs.length * 3 < 2 ^ 16
  | .skipped => False

def XrBlock.type : XrBlock → UINT8
  | .rrtr _ => RTCP_XR_BLOCK_TYPE_RRTR
  | .dlrr _ => RTCP_XR_BLOCK_TYPE_DLRR
  | .skipped => 0

/-- The words of a block behind its header. -/
def XrBlock.words : XrBlock → Nat
  | .rrtr _ => 2
  | .dlrr subs => subs.length * 3
  | .skipped => 0

theorem length_bytes {b : XrBlock} (h : b.Proper) : b.bytes.length = 4 + b.words * 4 := by
  cases b with
  | rrtr ntp => simp [XrBlock.bytes, rrtrBytes, XrBlock.words]
  | dlrr subs =>
    simp only [XrBlock.bytes, dlrrBytes, XrBlock.words, List.length_append, length_put16,
      length_flatMap_subBlockBytes, List.length_cons, List.length_nil]
    omega
  | skipped => exact h.elim

theorem bytes_header {b : XrBlock} (h : b.Proper) (pre rest : Bytes) :
    (pre ++ (b.bytes ++ rest)).getD pre.length 0 = b.type ∧
      (getUnalignedInt16BigEndian (pre ++ (b.bytes ++ rest)) (pre.length + 2)).toNat = b.words := by
  have htype : ∀ t : UINT8, ∀ v : Bytes, (pre ++ (([t, 0] ++ v) ++ rest)).getD pre.length 0 = t := by
    intro t v
    simp
  have hwords : ∀ t : UINT8, ∀ n : UINT16, ∀ v : Bytes, getUnalignedInt16BigEndian
      (pre ++ (([t, 0] ++ (putUnalignedInt16BigEndian n ++ v)) ++ rest)) (pre.length + 2) = n := by
    intro t n v
    rw [get16_skip _ (Nat.le_add_right _ _), Nat.add_sub_cancel_left, List.append_assoc,
      get16_skip _ (by simp), List.append_assoc]
    exact get16_put16 n (v ++ rest)
  cases b with
  | rrtr ntp => exact ⟨htype _ _, congrArg BitVec.toNat (hwords _ _ _)⟩
  | dlrr subs =>
    refine ⟨htype _ _, (congrArg BitVec.toNat (hwords _ _ _)).trans ?_⟩
    rw [BitVec.toNat_ofNat]
    exact Nat.mod_eq_of_lt h
  | skipped => exact h.elim

theorem blockAt_written {b : XrBlock} (h : b.Proper) (pre rest : Bytes) :
    blockAt (pre ++ (b.bytes ++ rest)) b.type b.words pre.length = b := by
  cases b with
  | rrtr ntp =>
    change XrBlock.rrtr (getUnalignedInt64BigEndian (pre ++ (([4, 0] ++
      (putUnalignedInt16BigEndian 2 ++ putUnalignedInt64BigEndian ntp)) ++ rest))
        (pre.length + 4)) = _
    rw [get64_skip _ (Nat.le_add_right _ _), Nat.add_sub_cancel_left, List.append_assoc,
      get64_skip _ (by simp), List.append_assoc, get64_skip _ (by simp)]
    exact congrArg XrBlock.rrtr (get64_put64 ntp rest)
  | dlrr subs =>
    have hwords : subs.length * 3 / 3 = subs.length := Nat.mul_div_cancel _ (by decide)
    have hsubs := subBlocksAt_written subs (pre ++ ([5, 0] ++
      putUnalignedInt16BigEndian (BitVec.ofNat 16 (subs.length * 3)))) rest
    have hlen : (pre ++ ([5, 0] ++
        putUnalignedInt16BigEndian (BitVec.ofNat 16 (subs.length * 3)))).length = pre.length + 4 := by
      simp
    rw [hlen] at hsubs
    change (if subs.length * 3 % 3 ≠ 0 then XrBlock.skipped else .dlrr _) = _
    rw [if_neg (by simp)]
    refine congrArg XrBlock.dlrr ?_
    change subBlocksAt _ (subs.length * 3 / 3) _ = _
    rw [hwords]
    simpa only [XrBlock.bytes, dlrrBytes, List.append_assoc] using hsubs
  | skipped => exact h.elim

theorem blocksFrom_written {blocks : List XrBlock} (h : ∀ b ∈ blocks, b.Proper) (pre : Bytes)
    {fuel : Nat} (hfuel : (blocks.flatMap XrBlock.bytes).length ≤ fuel) :
    blocksFrom (pre ++ blocks.flatMap XrBlock.bytes)
      (pre.length + (blocks.flatMap XrBlock.bytes).length) fuel pre.length = blocks := by
  induction blocks generalizing pre fuel with
  | nil =>
    cases fuel with
    | zero => rfl
    | succ fuel =>
      rw [blocksFrom, if_neg]
      simp
  | cons b blocks ih =>
    have hb := h b List.mem_cons_self
    have hlen := length_bytes hb
    rw [List.flatMap_cons, List.length_append] at hfuel
    obtain ⟨fuel, rfl⟩ : ∃ k, fuel = k + 1 := ⟨fuel - 1, by omega⟩
    obtain ⟨htype, hwords⟩ := bytes_header hb pre (blocks.flatMap XrBlock.bytes)
    have hrest : (blocks.flatMap XrBlock.bytes).length ≤ fuel := by omega
    have hnext := ih (fun b' hb' => h b' (List.mem_cons_of_mem b hb')) (pre ++ b.bytes) hrest
    rw [List.length_append, List.append_assoc, hlen] at hnext
    rw [List.flatMap_cons, List.length_append, hlen, blocksFrom, if_pos (by omega)]
    simp only [hwords, htype]
    rw [if_neg (by omega), blockAt_written hb]
    have hoff : pre.length + 4 + b.words * 4 = pre.length + (4 + b.words * 4) := by omega
    rw [hoff, ← Nat.add_assoc, hnext]

/-- **Of a packet that was built** the handler visits the blocks that were written. -/
theorem visitedBlocks_payload {reporterSsrc : UINT32} {blocks : List XrBlock}
    (h : ∀ b ∈ blocks, b.Proper) :
    visitedBlocks (extendedReportPayload reporterSsrc blocks)
      (extendedReportPayload reporterSsrc blocks).length = blocks := by
  have hlen : (extendedReportPayload reporterSsrc blocks).length =
      4 + (blocks.flatMap XrBlock.bytes).length := by
    rw [extendedReportPayload, List.length_append, length_put32]
  have hfuel : (blocks.flatMap XrBlock.bytes).length ≤
      (extendedReportPayload reporterSsrc blocks).length := by omega
  have hvisited := blocksFrom_written h (putUnalignedInt32BigEndian reporterSsrc) hfuel
  rw [length_put32, ← hlen] at hvisited
  exact hvisited

theorem length_extendedReportBytes {reporterSsrc : UINT32} {blocks : List XrBlock} {len : Nat} :
    (extendedReportBytes reporterSsrc blocks len).length =
      4 + (extendedReportPayload reporterSsrc blocks).length := by
  rw [extendedReportBytes, List.length_append, List.length_append, length_put16]
  exact (Nat.add_assoc 2 2 _).symm

theorem length_extendedReportPayload (reporterSsrc : UINT32) (sendRrtr : Bool)
    (currentTime : UINT64) (pending : List ReceivedRrtrEntry) :
    4 + (extendedReportPayload reporterSsrc (writtenBlocks sendRrtr currentTime pending)).length =
      extendedReportLen sendRrtr pending.length := by
  have hrrtr : ∀ ntp, (rrtrBytes ntp).length = 12 := fun ntp => by simp [rrtrBytes]
  have hdlrr : ∀ subs, (dlrrBytes subs).length = 4 + subs.length * 12 := by
    intro subs
    simp only [dlrrBytes, List.length_append, length_put16, length_flatMap_subBlockBytes,
      List.length_cons, List.length_nil]
    omega
  have hfirst : ((if sendRrtr then [XrBlock.rrtr (convertTimestampToNTP currentTime)]
      else []).flatMap XrBlock.bytes).length = if sendRrtr then RTCP_XR_RRTR_BLOCK_LEN else 0 := by
    cases sendRrtr with
    | true => simp [XrBlock.bytes, hrrtr]
    | false => rfl
  rw [extendedReportPayload, writtenBlocks, List.flatMap_append, List.length_append,
    List.length_append, length_put32, hfirst, extendedReportLen]
  cases pending with
  | nil =>
    change 4 + (4 + (_ + 0)) = 8 + _ + 0
    omega
  | cons e pending =>
    have hpos : (e :: pending).length > 0 := Nat.succ_pos _
    rw [if_neg (List.cons_ne_nil e pending), if_pos hpos, List.flatMap_singleton, XrBlock.bytes,
      hdlrr, List.length_map]
    change 4 + (4 + (_ + (4 + (e :: pending).length * 12))) =
      8 + _ + (4 + (e :: pending).length * 12)
    omega

theorem setRtcpPacketFromBytes_extendedReport {reporterSsrc : UINT32} {blocks : List XrBlock}
    {len : Nat} (hlen : 4 + (extendedReportPayload reporterSsrc blocks).length = len)
    (hwords : len % 4 = 0) (hmax : len < 2 ^ 16) :
    setRtcpPacketFromBytes (extendedReportBytes reporterSsrc blocks len) = .ok {
      version := 2, receptionReportCount := 0, packetType := RTCP_PACKET_TYPE_EXTENDED_REPORT,
      packetLength := BitVec.ofNat 16 (len / 4 - 1),
      payload := extendedReportPayload reporterSsrc blocks,
      payloadLength := (extendedReportPayload reporterSsrc blocks).length } := by
  have hbytes : (extendedReportBytes reporterSsrc blocks len).length = len :=
    length_extendedReportBytes.trans hlen
  have hfield : getUnalignedInt16BigEndian (extendedReportBytes reporterSsrc blocks len)
      RTCP_PACKET_LEN_OFFSET = BitVec.ofNat 16 (len / 4 - 1) := by
    rw [extendedReportBytes, get16_skip _ (Nat.le_refl 2)]
    exact get16_put16 _ _
  have hcount : (BitVec.ofNat 16 (len / 4 - 1)).toNat = len / 4 - 1 := by
    rw [BitVec.toNat_ofNat]
    exact Nat.mod_eq_of_lt (by omega)
  have hpayload : (extendedReportBytes reporterSsrc blocks len).drop 4 =
      extendedReportPayload reporterSsrc blocks := rfl
  unfold setRtcpPacketFromBytes
  dsimp only
  rw [hbytes, hfield, hcount, if_neg (by change ¬ len < 4; omega),
    if_neg (by change ¬ len < (len / 4 - 1 + 1) * 4; omega)]
  have hfirst : (extendedReportBytes reporterSsrc blocks len).getD 0 0 = 0x80 := rfl
  rw [hfirst, if_neg (by decide), hpayload]
  have hlength : (len / 4 - 1) * 4 = (extendedReportPayload reporterSsrc blocks).length := by omega
  rw [hlength]
  rfl

theorem extendedReportLen_bounds (sendRrtr : Bool) {n : Nat} (hn : n ≤ MAX_RECEIVED_RRTR) :
    extendedReportLen sendRrtr n % 4 = 0 ∧ extendedReportLen sendRrtr n < 2 ^ 16 := by
  have hmax : n ≤ 4 := hn
  change (8 + (if sendRrtr then 12 else 0) + if n > 0 then 4 + n * 12 else 0) % 4 = 0 ∧
    8 + (if sendRrtr then 12 else 0) + (if n > 0 then 4 + n * 12 else 0) < 2 ^ 16
  split <;> split <;> omega

theorem writtenBlocks_proper {sendRrtr : Bool} {currentTime : UINT64}
    {pending : List ReceivedRrtrEntry} (h : pending.length ≤ MAX_RECEIVED_RRTR) :
    ∀ b ∈ writtenBlocks sendRrtr currentTime pending, b.Proper := by
  have hmax : pending.length ≤ 4 := h
  intro b hb
  rcases List.mem_append.mp hb with hb | hb
  · split at hb
    · cases List.mem_singleton.mp hb
      trivial
    · exact absurd hb List.not_mem_nil
  · split at hb
    · exact absurd hb List.not_mem_nil
    · cases List.mem_singleton.mp hb
      change (pending.map _).length * 3 < 2 ^ 16
      rw [List.length_map]
      omega

/-- **A packet that was built** parses, and the handler applies the blocks that were written. -/
theorem built_packet {entries : List ReceivedRrtrEntry} (h : entries.length = MAX_RECEIVED_RRTR)
    (t : XrSender) (currentTime : UINT64) :
    let pending := entries.filter ReceivedRrtrEntry.isPending
    let written := writtenBlocks (sendsRrtr t currentTime) currentTime pending
    let bytes := extendedReportBytes t.ssrc written
      (extendedReportLen (sendsRrtr t currentTime) pending.length)
    ∃ p, setRtcpPacketFromBytes bytes = .ok p ∧
      p.packetType = RTCP_PACKET_TYPE_EXTENDED_REPORT ∧ p.payload = bytes.drop 4 ∧
      p.payloadLength = bytes.length - 4 ∧
      bytes.length = extendedReportLen (sendsRrtr t currentTime) pending.length ∧
      visitedBlocks p.payload p.payloadLength = written ∧
      ∀ env conn, ((onRtcpExtendedReport env p.payloadLength conn).run p.payload).1 =
        (written.foldl (applyBlock env t.ssrc) conn, .SUCCESS) := by
  intro pending written bytes
  have hcount : pending.length ≤ MAX_RECEIVED_RRTR :=
    (List.length_filter_le _ _).trans (Nat.le_of_eq h)
  have hlen := length_extendedReportPayload t.ssrc (sendsRrtr t currentTime) currentTime pending
  obtain ⟨hwords, hmax⟩ := extendedReportLen_bounds (sendsRrtr t currentTime) hcount
  have hbytes : bytes.length = extendedReportLen (sendsRrtr t currentTime) pending.length :=
    length_extendedReportBytes.trans hlen
  have hvisited := @visitedBlocks_payload t.ssrc written (writtenBlocks_proper hcount)
  refine ⟨_, setRtcpPacketFromBytes_extendedReport hlen hwords hmax, rfl, rfl, ?_, hbytes, hvisited,
    fun env conn => ?_⟩
  · have hfour : bytes.length = 4 + (extendedReportPayload t.ssrc written).length :=
      length_extendedReportBytes
    rw [hfour, Nat.add_sub_cancel_left]
  · have hfour : 4 ≤ (extendedReportPayload t.ssrc written).length := by
      rw [extendedReportPayload, List.length_append, length_put32]
      exact Nat.le_add_right 4 _
    rw [onRtcpExtendedReport_eq env conn hfour, hvisited]
    refine congrArg (fun ssrc => (written.foldl (applyBlock env ssrc) conn, RtcpStatus.SUCCESS)) ?_
    exact get32_put32 _ _

theorem built_read {entries : List ReceivedRrtrEntry} (h : entries.length = MAX_RECEIVED_RRTR)
    {t : XrSender} {currentTime : UINT64} {packetLen : Nat} {bytes : Bytes} {p : RtcpPacket}
    (hbuilt : (rtcpBuildExtendedReport entries t currentTime packetLen).result = .packet bytes)
    (hparsed : setRtcpPacketFromBytes bytes = .ok p) :
    let written := writtenBlocks (sendsRrtr t currentTime) currentTime
      (entries.filter ReceivedRrtrEntry.isPending)
    4 ≤ p.payloadLength ∧ getUnalignedInt32BigEndian p.payload 0 = t.ssrc ∧
      visitedBlocks p.payload p.payloadLength = written ∧
      ∀ env conn, ((onRtcpExtendedReport env p.payloadLength conn).run p.payload).1 =
        (written.foldl (applyBlock env t.ssrc) conn, .SUCCESS) := by
  rcases rtcpBuildExtendedReport_cases entries t currentTime packetLen with
    ⟨heq, -⟩ | ⟨heq, -⟩ | ⟨heq, -⟩
  · rw [heq] at hbuilt
    cases hbuilt
  · rw [heq] at hbuilt
    cases hbuilt
  rw [heq] at hbuilt
  obtain ⟨p', hp', -, hpayload, hlength, hlen, hvisited, hhandled⟩ := built_packet h t currentTime
  rw [← BuildResult.packet.inj hbuilt, hp'] at hparsed
  cases Except.ok.inj hparsed
  refine ⟨?_, ?_, hvisited, hhandled⟩
  · rw [hlength, hlen]
    change 4 ≤ 8 + (if sendsRrtr t currentTime then 12 else 0) + _ - 4
    omega
  · rw [hpayload]
    exact get32_put32 _ _

end KvsWebrtc.Rtcp.Compound
