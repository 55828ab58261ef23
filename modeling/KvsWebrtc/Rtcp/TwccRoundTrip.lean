import KvsWebrtc.Rtcp.Twcc
import KvsWebrtc.Rtcp.TwccParse
import Mathlib.Data.List.Forall2
import Mathlib.Data.List.Induction

/-!
# Transport-wide feedback: what the sender learns

The bytes of a feedback, parsed by a sender that still knows every packet of the span.  The
decoder inverts the run-length encoding and the deltas, so every packet gets the time the deltas
add up to (`parse_feedback`); these are truncated one by one against the exact arrival before, so
the sum drifts away from the recorded times.

Principal result: `twcc_round_trip_iff` — every recorded packet is reported within one tick of its
arrival, and every other as lost, exactly when the first arrival fits in 32 bits of milliseconds and
the accumulated truncation stays below one tick.
-/

namespace KvsWebrtc.Rtcp

open ByteOrder

/-! ## Chunks -/

/-- The packets of a list of runs. -/
def expandRuns (runs : List (TWCC_STATUS_SYMBOL × Nat)) : List TWCC_STATUS_SYMBOL :=
  runs.flatMap fun r => List.replicate r.2 r.1

@[simp] theorem expandRuns_cons (r : TWCC_STATUS_SYMBOL × Nat)
    (runs : List (TWCC_STATUS_SYMBOL × Nat)) :
    expandRuns (r :: runs) = List.replicate r.2 r.1 ++ expandRuns runs :=
  List.flatMap_cons

/-- Every run can be written in one chunk. -/
def Chunkable (runs : List (TWCC_STATUS_SYMBOL × Nat)) : Prop :=
  ∀ r ∈ runs, 0 < r.2 ∧ r.2 ≤ TWCC_MAX_PACKET_STATUS_COUNT

theorem statusRunsFrom_spec : ∀ (rest : List TWCC_STATUS_SYMBOL) (cur : TWCC_STATUS_SYMBOL)
    (len : Nat), 0 < len → len ≤ TWCC_MAX_PACKET_STATUS_COUNT →
      expandRuns (statusRunsFrom cur len rest) = List.replicate len cur ++ rest ∧
        Chunkable (statusRunsFrom cur len rest)
  | [], cur, len, hpos, hle => by
    refine ⟨by simp [statusRunsFrom, expandRuns], ?_⟩
    intro r hr
    rw [List.mem_singleton.mp hr]
    exact ⟨hpos, hle⟩
  | s :: rest, cur, len, hpos, hle => by
    unfold statusRunsFrom
    split
    · rename_i h
      obtain ⟨hexp, hchunk⟩ := statusRunsFrom_spec rest cur (len + 1) (by omega) h.2
      refine ⟨?_, hchunk⟩
      rw [hexp, h.1, List.replicate_succ', List.append_assoc]
      rfl
    · obtain ⟨hexp, hchunk⟩ := statusRunsFrom_spec rest s 1 (by omega) (by decide)
      refine ⟨by rw [expandRuns_cons, hexp]; rfl, ?_⟩
      intro r hr
      rcases List.mem_cons.mp hr with rfl | hr
      · exact ⟨hpos, hle⟩
      · exact hchunk r hr

theorem expandRuns_statusRuns (syms : List TWCC_STATUS_SYMBOL) :
    expandRuns (statusRuns syms) = syms ∧ Chunkable (statusRuns syms) := by
  cases syms with
  | nil => exact ⟨rfl, fun r hr => by cases hr⟩
  | cons s rest => exact statusRunsFrom_spec rest s 1 (by omega) (by decide)

theorem toNat_makeRunLen (s : TWCC_STATUS_SYMBOL) {n : Nat} (h : n ≤ TWCC_MAX_PACKET_STATUS_COUNT) :
    (TWCC_MAKE_RUNLEN s n).toNat = s.val.toNat * 8192 + n := by
  have hn : n ≤ 8191 := h
  have hmask : (BitVec.ofNat 16 n &&& 0x1FFF).toNat = n := by
    rw [BitVec.toNat_and, BitVec.toNat_ofNat]
    show n % 2 ^ 16 &&& 2 ^ 13 - 1 = n
    rw [Nat.and_two_pow_sub_one_eq_mod]
    omega
  have hshift : (s.val <<< 13).toNat = s.val.toNat * 8192 := by cases s <;> rfl
  rw [TWCC_MAKE_RUNLEN, BitVec.toNat_or, hmask, hshift]
  show s.val.toNat * 2 ^ 13 ||| n = s.val.toNat * 2 ^ 13 + n
  rw [← Nat.shiftLeft_eq, Nat.shiftLeft_add_eq_or_of_lt (by omega)]

/-- **A run-length chunk is read back.** -/
theorem readChunk (s : TWCC_STATUS_SYMBOL) {n : Nat} (h : n ≤ TWCC_MAX_PACKET_STATUS_COUNT) :
    IS_TWCC_RUNLEN (TWCC_MAKE_RUNLEN s n) = true ∧
      TWCC_RUNLEN_STATUS_SYMBOL (TWCC_MAKE_RUNLEN s n) = s.val ∧
      TWCC_RUNLEN_GET (TWCC_MAKE_RUNLEN s n) = n := by
  have hn : n ≤ 8191 := h
  have hnat := toNat_makeRunLen s h
  have hval : s.val.toNat ≤ 2 := by cases s <;> decide
  refine ⟨?_, ?_, ?_⟩
  · rw [IS_TWCC_RUNLEN, decide_eq_true_eq]
    apply BitVec.eq_of_toNat_eq
    rw [BitVec.toNat_and, BitVec.toNat_ushiftRight, hnat, Nat.shiftRight_eq_div_pow]
    show _ &&& 1 = 0
    rw [Nat.and_one_is_mod]
    omega
  · rw [TWCC_RUNLEN_STATUS_SYMBOL]
    apply BitVec.eq_of_toNat_eq
    rw [BitVec.toNat_and, BitVec.toNat_ushiftRight, hnat, Nat.shiftRight_eq_div_pow]
    show _ &&& 2 ^ 2 - 1 = _
    rw [Nat.and_two_pow_sub_one_eq_mod]
    omega
  · rw [TWCC_RUNLEN_GET, BitVec.toNat_and, hnat]
    show _ &&& 2 ^ 13 - 1 = n
    rw [Nat.and_two_pow_sub_one_eq_mod]
    omega

/-! ## The two passes -/

theorem get16_drop (p : Bytes) (off : Nat) :
    getUnalignedInt16BigEndian p off = getUnalignedInt16BigEndian (p.drop off) 0 := by
  simp [getUnalignedInt16BigEndian, readBE]

theorem drop_behind {p front back : Bytes} {off : Nat} (h : p.drop off = front ++ back) :
    p.drop (off + front.length) = back := by
  rw [← List.drop_drop, h, List.drop_left]

theorem chunkBytes_cons (r : TWCC_STATUS_SYMBOL × Nat) (runs : List (TWCC_STATUS_SYMBOL × Nat)) :
    chunkBytes (r :: runs) =
      putUnalignedInt16BigEndian (TWCC_MAKE_RUNLEN r.1 r.2) ++ chunkBytes runs :=
  List.flatMap_cons

theorem nextChunk {p back : Bytes} {off : Nat} {r : TWCC_STATUS_SYMBOL × Nat}
    {runs : List (TWCC_STATUS_SYMBOL × Nat)} (h : p.drop off = chunkBytes (r :: runs) ++ back) :
    getUnalignedInt16BigEndian p off = TWCC_MAKE_RUNLEN r.1 r.2 ∧
      p.drop (off + 2) = chunkBytes runs ++ back := by
  rw [chunkBytes_cons, List.append_assoc] at h
  refine ⟨by rw [get16_drop, h, get16_put16], ?_⟩
  have := drop_behind h
  rwa [length_put16] at this

theorem findDeltas_chunks {p back : Bytes} (payloadLength : Nat) :
    ∀ (runs : List (TWCC_STATUS_SYMBOL × Nat)) (fuel off : Nat), Chunkable runs →
      p.drop off = chunkBytes runs ++ back → runs.length ≤ fuel →
      off + 2 * runs.length ≤ payloadLength →
      findDeltas p payloadLength fuel (expandRuns runs).length off = off + 2 * runs.length
  | [], fuel, off, _, _, _, _ => by
    cases fuel with
    | zero => rfl
    | succ fuel =>
      unfold findDeltas
      rw [if_neg (by simp [expandRuns])]
      rfl
  | r :: runs, fuel, off, hc, hp, hfuel, hroom => by
    cases fuel with
    | zero => simp only [List.length_cons] at hfuel; omega
    | succ fuel =>
      simp only [List.length_cons] at hfuel hroom ⊢
      obtain ⟨hpos, hle⟩ := hc r (List.mem_cons_self ..)
      obtain ⟨hget, hrest⟩ := nextChunk hp
      obtain ⟨hrun, -, hlen⟩ := readChunk r.1 hle
      unfold findDeltas
      rw [if_pos ⟨by simp; omega, by omega⟩]
      dsimp only
      rw [hget, hrun, if_pos rfl, hlen]
      have hcount : (((expandRuns (r :: runs)).length : Nat) : Int) - (r.2 : Int) =
          ((expandRuns runs).length : Nat) := by
        rw [expandRuns_cons, List.length_append, List.length_replicate]
        omega
      rw [hcount, findDeltas_chunks payloadLength runs fuel (off + 2)
        (fun r' hr' => hc r' (List.mem_cons_of_mem _ hr')) hrest (by omega) (by omega)]
      omega

/-- The packets of a list of symbols, one after the other. -/
def reportAll (payload : Bytes) (syms : List TWCC_STATUS_SYMBOL) (c : TwccCursor) : TwccCursor :=
  syms.foldl (fun c s => reportPacket payload s.val c) c

theorem reportRun_eq (payload : Bytes) (s : TWCC_STATUS_SYMBOL) : ∀ (n : Nat) (c : TwccCursor),
    reportRun payload s.val n c = reportAll payload (List.replicate n s) c
  | 0, _ => rfl
  | n + 1, c => by
    unfold reportRun
    rw [reportRun_eq payload s n, List.replicate_succ]
    rfl

theorem reportChunks_chunks {p back : Bytes} :
    ∀ (runs : List (TWCC_STATUS_SYMBOL × Nat)) (fuel off : Nat) (c : TwccCursor), Chunkable runs →
      p.drop off = chunkBytes runs ++ back → runs.length ≤ fuel →
      reportChunks p fuel (expandRuns runs).length off c =
        some (reportAll p (expandRuns runs) c).manager
  | [], fuel, off, c, _, _, _ => by
    cases fuel with
    | zero => rfl
    | succ fuel => rfl
  | r :: runs, fuel, off, c, hc, hp, hfuel => by
    cases fuel with
    | zero => simp only [List.length_cons] at hfuel; omega
    | succ fuel =>
      simp only [List.length_cons] at hfuel
      obtain ⟨hpos, hle⟩ := hc r (List.mem_cons_self ..)
      obtain ⟨hget, hrest⟩ := nextChunk hp
      obtain ⟨hrun, hsym, hlen⟩ := readChunk r.1 hle
      unfold reportChunks
      rw [if_pos (by simp; omega)]
      dsimp only
      rw [hget, hrun, if_pos rfl, hlen, hsym, reportRun_eq]
      have hcount : (((expandRuns (r :: runs)).length : Nat) : Int) - (r.2 : Int) =
          ((expandRuns runs).length : Nat) := by
        rw [expandRuns_cons, List.length_append, List.length_replicate]
        omega
      rw [hcount, reportChunks_chunks runs fuel (off + 2) _
        (fun r' hr' => hc r' (List.mem_cons_of_mem _ hr')) hrest (by omega), expandRuns_cons]
      unfold reportAll
      rw [List.foldl_append]

/-! ## Deltas -/

/-- The delta can be read back as one. -/
def Encodable : TWCC_STATUS_SYMBOL × Int → Prop
  | (.SMALLDELTA, d) => 0 ≤ d ∧ d ≤ 255
  | (.LARGEDELTA, d) => -32767 ≤ d ∧ d ≤ 32767
  | (.NOTRECEIVED, _) => True

/-- The remote time of each packet, from the reference time on. -/
def remoteTimes : List (TWCC_STATUS_SYMBOL × Int) → UINT64 → List UINT64
  | [], _ => []
  | (.NOTRECEIVED, _) :: rest, ref => TWCC_PACKET_LOST_TIME :: remoteTimes rest ref
  | (_, d) :: rest, ref =>
    (ref + BitVec.ofInt 64 (2500 * d)) :: remoteTimes rest (ref + BitVec.ofInt 64 (2500 * d))

@[simp] theorem length_remoteTimes : ∀ (items : List (TWCC_STATUS_SYMBOL × Int)) (ref : UINT64),
    (remoteTimes items ref).length = items.length
  | [], _ => rfl
  | (.NOTRECEIVED, _) :: rest, ref => by simp [remoteTimes, length_remoteTimes rest]
  | (.SMALLDELTA, _) :: rest, ref => by simp [remoteTimes, length_remoteTimes rest]
  | (.LARGEDELTA, _) :: rest, ref => by simp [remoteTimes, length_remoteTimes rest]

/-- The times of consecutive packets from `seqNum` on. -/
def setRemoteTimes : UINT16 → List UINT64 → TwccManager → TwccManager
  | _, [], t => t
  | seqNum, time :: rest, t => setRemoteTimes (seqNum + 1) rest (setRemoteTime t seqNum time)

theorem getD_of_drop {p back : Bytes} {off : Nat} {b : UINT8} (h : p.drop off = b :: back) :
    p.getD off 0 = b := by
  rw [List.getD_eq_getElem?_getD, ← Nat.add_zero off, ← List.getElem?_drop, h]
  rfl

theorem convertTicks (d : Int) : (d * 10000000).tdiv 4000 = 2500 * d := by
  rw [show d * 10000000 = 4000 * (2500 * d) by ring, Int.mul_tdiv_cancel_left _ (by decide)]

theorem reportPacket_received {p : Bytes} {sym : UINT16} {c : TwccCursor} {d : Int} {off : Nat}
    (hsym : sym ≠ 0) (hread : readDelta p sym c.recvOffset = (d, off)) (hd : d ≠ MIN_INT16) :
    reportPacket p sym c =
      { manager := setRemoteTime c.manager c.packetSeqNum
          (c.referenceTime + BitVec.ofInt 64 (2500 * d))
        recvOffset := off
        packetSeqNum := c.packetSeqNum + 1
        referenceTime := c.referenceTime + BitVec.ofInt 64 (2500 * d) } := by
  unfold reportPacket
  rw [hread]
  dsimp only
  rw [if_pos hd, if_neg hsym, convertTicks]

/-- **The deltas are read back**: every packet gets the time they add up to. -/
theorem reportAll_items {p : Bytes} : ∀ (items : List (TWCC_STATUS_SYMBOL × Int)) (c : TwccCursor)
    (back : Bytes), (∀ item ∈ items, Encodable item) →
      p.drop c.recvOffset = deltaBytes items ++ back →
      (reportAll p (items.map Prod.fst) c).manager =
        setRemoteTimes c.packetSeqNum (remoteTimes items c.referenceTime) c.manager
  | [], _, _, _, _ => rfl
  | (sym, d) :: rest, c, back, hall, hp => by
    have hitem := hall (sym, d) (List.mem_cons_self ..)
    have hrest := fun item hi => hall item (List.mem_cons_of_mem _ hi)
    rw [deltaBytes, List.flatMap_cons, List.append_assoc] at hp
    have hnext := drop_behind hp
    show (reportAll p (rest.map Prod.fst) (reportPacket p sym.val c)).manager = _
    cases sym with
    | NOTRECEIVED => exact reportAll_items rest _ back hrest hnext
    | SMALLDELTA =>
      obtain ⟨hlo, hhi⟩ := hitem
      have hbyte : (BitVec.ofInt 8 d).toNat = d.toNat := by
        rw [BitVec.toNat_ofInt]
        omega
      have hread : readDelta p 1 c.recvOffset = (d, c.recvOffset + 1) := by
        unfold readDelta
        rw [if_pos rfl, getD_of_drop hp, hbyte, Int.toNat_of_nonneg hlo]
      rw [show TWCC_STATUS_SYMBOL.SMALLDELTA.val = 1 from rfl,
        reportPacket_received (by decide) hread (by simp only [MIN_INT16]; omega),
        reportAll_items rest _ back hrest hnext]
      rfl
    | LARGEDELTA =>
      obtain ⟨hlo, hhi⟩ := hitem
      have hword : (BitVec.ofInt 16 d).toInt = d := by
        rw [BitVec.toInt_ofInt]
        exact Int.bmod_eq_of_le (by omega) (by omega)
      have hread : readDelta p 2 c.recvOffset = (d, c.recvOffset + 2) := by
        unfold readDelta
        rw [if_neg (by decide), if_pos rfl, get16_drop, hp, deltaBytesOf, get16_put16, hword]
      rw [show TWCC_STATUS_SYMBOL.LARGEDELTA.val = 2 from rfl,
        reportPacket_received (by decide) hread (by simp only [MIN_INT16]; omega),
        reportAll_items rest _ back hrest (by simpa [deltaBytesOf, deltaBytes] using hnext)]
      rfl

theorem setRemoteTimes_table : ∀ (times : List UINT64) (seqNum : UINT16) (t : TwccManager)
    (s : UINT16), times.length ≤ 65536 →
      (setRemoteTimes seqNum times t).pTwccRtpPktInfosHashTable s =
        match times[Serial.ahead seqNum s]? with
        | some time => (t.pTwccRtpPktInfosHashTable s).map
            fun e => { e with remoteTimeKvs := time }
        | none => t.pTwccRtpPktInfosHashTable s
  | [], _, _, _, _ => by simp [setRemoteTimes]
  | time :: rest, seqNum, t, s, hlen => by
    simp only [List.length_cons] at hlen
    unfold setRemoteTimes
    rw [setRemoteTimes_table rest (seqNum + 1) _ s (by omega)]
    by_cases hs : s = seqNum
    · subst hs
      have hfar : rest[Serial.ahead (s + 1) s]? = none := by
        rw [List.getElem?_eq_none_iff, Serial.ahead_eq, BitVec.toNat_add]
        have := s.isLt
        have hone : (1 : UINT16).toNat = 1 := rfl
        split <;> omega
      rw [hfar, Serial.ahead_self]
      simp [setRemoteTime]
    · rw [Serial.ahead_succ (by decide) hs, List.getElem?_cons_succ]
      simp only [setRemoteTime, if_neg hs]
      rfl

/-! ## The whole packet -/

/-- What stands behind the RTCP header. -/
def twccPayload (fixed : Bytes) (items : List (TWCC_STATUS_SYMBOL × Int)) : Bytes :=
  let body := fixed ++ chunkBytes (statusRuns (items.map Prod.fst)) ++ deltaBytes items
  body ++ List.replicate (pad4 (4 + body.length) - (4 + body.length)) 0

theorem length_deltaBytes_le (items : List (TWCC_STATUS_SYMBOL × Int)) :
    (deltaBytes items).length ≤ 2 * items.length := by
  induction items with
  | nil => simp [deltaBytes]
  | cons item items ih =>
    have hone : (deltaBytesOf item).length ≤ 2 := by
      obtain ⟨sym, d⟩ := item
      cases sym <;> simp [deltaBytesOf]
    unfold deltaBytes at ih ⊢
    rw [List.flatMap_cons, List.length_append, List.length_cons]
    omega

theorem length_statusRuns_le (syms : List TWCC_STATUS_SYMBOL) :
    (statusRuns syms).length ≤ syms.length := by
  obtain ⟨hexp, hchunk⟩ := expandRuns_statusRuns syms
  have hall : ∀ runs : List (TWCC_STATUS_SYMBOL × Nat), Chunkable runs →
      runs.length ≤ (expandRuns runs).length := by
    intro runs
    induction runs with
    | nil => intro _; exact Nat.zero_le _
    | cons r runs ih =>
      intro hc
      have h1 := (hc r (List.mem_cons_self ..)).1
      have h2 := ih (fun r' hr' => hc r' (List.mem_cons_of_mem _ hr'))
      rw [expandRuns_cons, List.length_append, List.length_replicate, List.length_cons]
      omega
  have := hall _ hchunk
  rwa [hexp] at this

theorem setRtcpPacketFromBytes_twcc {fixed : Bytes} {items : List (TWCC_STATUS_SYMBOL × Int)}
    (hf : fixed.length = 16) (hlen : items.length ≤ TWCC_MAX_PACKET_STATUS_COUNT) :
    ∃ p, setRtcpPacketFromBytes (twccPacketBytes fixed items) = .ok p ∧
      p.payload = twccPayload fixed items ∧ p.payloadLength = (twccPayload fixed items).length := by
  have hitems : items.length ≤ 8191 := hlen
  have hruns := length_statusRuns_le (items.map Prod.fst)
  have hdeltas := length_deltaBytes_le items
  rw [List.length_map] at hruns
  have hbody : (fixed ++ chunkBytes (statusRuns (items.map Prod.fst)) ++ deltaBytes items).length =
      16 + 2 * (statusRuns (items.map Prod.fst)).length + (deltaBytes items).length := by
    simp [hf, Nat.add_assoc]
  have hpay : (twccPayload fixed items).length + 4 = pad4 (4 + (fixed ++ chunkBytes (statusRuns
      (items.map Prod.fst)) ++ deltaBytes items).length) := by
    unfold twccPayload
    rw [List.length_append, List.length_replicate]
    unfold pad4
    omega
  have hbytes : twccPacketBytes fixed items =
      [(RTCP_PACKET_VERSION_VAL <<< 6) ||| RTCP_FEEDBACK_MESSAGE_TYPE_TWCC,
        RTCP_PACKET_TYPE_GENERIC_RTP_FEEDBACK] ++
      (putUnalignedInt16BigEndian (BitVec.ofNat 16 (pad4 (4 + (fixed ++ chunkBytes (statusRuns
        (items.map Prod.fst)) ++ deltaBytes items).length) / 4 - 1)) ++
      twccPayload fixed items) := by
    unfold twccPacketBytes twccPayload
    simp only [List.append_assoc]
  have hword : getUnalignedInt16BigEndian (twccPacketBytes fixed items) 2 =
      BitVec.ofNat 16 (((twccPayload fixed items).length + 4) / 4 - 1) := by
    rw [hbytes, get16_skip _ (by simp), ← hpay]
    exact get16_put16 _ _
  have htotal : (twccPacketBytes fixed items).length = (twccPayload fixed items).length + 4 := by
    rw [hbytes]
    simp only [List.length_append, List.length_cons, List.length_nil, length_put16]
    omega
  have hmult : ((twccPayload fixed items).length + 4) % 4 = 0 := by
    rw [hpay]
    unfold pad4
    omega
  have hsmall : (twccPayload fixed items).length < 40000 := by
    rw [hbody] at hpay
    unfold pad4 at hpay
    omega
  have hfield : (BitVec.ofNat 16 (((twccPayload fixed items).length + 4) / 4 - 1)).toNat =
      (twccPayload fixed items).length / 4 := by
    rw [BitVec.toNat_ofNat]
    omega
  unfold setRtcpPacketFromBytes
  rw [if_neg (by rw [htotal]; simp)]
  dsimp only
  rw [hword, hfield, htotal, if_neg (by simp only [RTCP_PACKET_LEN_WORD_SIZE]; omega)]
  rw [show (twccPacketBytes fixed items).getD 0 0 = 143#8 by rw [hbytes]; rfl]
  rw [if_neg (by decide)]
  refine ⟨_, rfl, ?_, ?_⟩
  · dsimp only
    rw [hbytes, ← List.append_assoc]
    exact List.drop_left' (by simp)
  · dsimp only [RTCP_PACKET_LEN_WORD_SIZE]
    omega

theorem readFixed (senderSsrc mediaSourceSsrc : UINT32) (base : UINT16) (n : Nat)
    (refTime24 : UINT32) (fb : UINT8) (back : Bytes) :
    let p := twccFixedBytes senderSsrc mediaSourceSsrc base n refTime24 fb ++ back
    getUnalignedInt16BigEndian p 8 = base ∧ getUnalignedInt16BigEndian p 10 = BitVec.ofNat 16 n ∧
      p.getD 12 0 = (refTime24 >>> 16).truncate 8 ∧ p.getD 13 0 = (refTime24 >>> 8).truncate 8 ∧
      p.getD 14 0 = refTime24.truncate 8 := by
  simp only [twccFixedBytes, List.append_assoc]
  refine ⟨?_, ?_, ?_, ?_, ?_⟩
  · rw [get16_skip _ (by simp), get16_skip _ (by simp)]
    simp
  · rw [get16_skip _ (by simp), get16_skip _ (by simp), get16_skip _ (by simp)]
    simp
  · rfl
  · rfl
  · rfl

theorem readReferenceTime_of {p : Bytes} {ref24 : UINT32} (hlt : ref24.toNat < 2 ^ 24)
    (h12 : p.getD 12 0 = (ref24 >>> 16).truncate 8) (h13 : p.getD 13 0 = (ref24 >>> 8).truncate 8)
    (h14 : p.getD 14 0 = ref24.truncate 8) :
    readReferenceTime p = BitVec.ofNat 64 (ref24.toNat * 640000) := by
  unfold readReferenceTime
  rw [h12, h13, h14]
  simp only [BitVec.truncate_eq_setWidth, BitVec.toNat_setWidth, BitVec.toNat_ushiftRight,
    Nat.shiftRight_eq_div_pow]
  congr 1
  omega

/-- **What the sender learns from a feedback.** -/
theorem parse_feedback (senderSsrc mediaSourceSsrc : UINT32) (base : UINT16) (fb : UINT8)
    (t : TwccManager) {ref24 : UINT32} {items : List (TWCC_STATUS_SYMBOL × Int)}
    (hlen : items.length ≤ TWCC_MAX_PACKET_STATUS_COUNT) (henc : ∀ item ∈ items, Encodable item)
    (href : ref24.toNat < 2 ^ 24) :
    ∃ p, setRtcpPacketFromBytes (twccPacketBytes
        (twccFixedBytes senderSsrc mediaSourceSsrc base items.length ref24 fb) items) = .ok p ∧
      parseRtcpTwccPacket p t = some (setRemoteTimes base
        (remoteTimes items (BitVec.ofNat 64 (ref24.toNat * 640000)))
        { t with prevReportedBaseSeqNum := base }) := by
  have hitems : items.length ≤ 8191 := hlen
  obtain ⟨p, hp, hpay, hplen⟩ := setRtcpPacketFromBytes_twcc
    (length_twccFixedBytes senderSsrc mediaSourceSsrc base items.length ref24 fb) hlen
  refine ⟨p, hp, ?_⟩
  obtain ⟨hexp, hchunk⟩ := expandRuns_statusRuns (items.map Prod.fst)
  have hcount : (expandRuns (statusRuns (items.map Prod.fst))).length = items.length := by
    rw [hexp, List.length_map]
  have hruns := length_statusRuns_le (items.map Prod.fst)
  rw [List.length_map] at hruns
  -- the payload, cut where the parser starts to read
  obtain ⟨pad, hsplit⟩ : ∃ pad, p.payload =
      twccFixedBytes senderSsrc mediaSourceSsrc base items.length ref24 fb ++
        (chunkBytes (statusRuns (items.map Prod.fst)) ++ (deltaBytes items ++ pad)) := by
    rw [hpay]
    exact ⟨_, by unfold twccPayload; simp only [List.append_assoc]; rfl⟩
  have hsize : p.payload.length = 16 + 2 * (statusRuns (items.map Prod.fst)).length +
      ((deltaBytes items).length + pad.length) := by
    rw [hsplit]
    simp [Nat.add_assoc]
  have h16 : p.payload.drop 16 =
      chunkBytes (statusRuns (items.map Prod.fst)) ++ (deltaBytes items ++ pad) := by
    rw [hsplit]
    exact List.drop_left' (by simp)
  obtain ⟨hbase, hn, h12, h13, h14⟩ := readFixed senderSsrc mediaSourceSsrc base items.length ref24
    fb (chunkBytes (statusRuns (items.map Prod.fst)) ++ (deltaBytes items ++ pad))
  rw [← hsplit] at hbase hn h12 h13 h14
  have hnat : (BitVec.ofNat 16 items.length).toNat = items.length := by
    rw [BitVec.toNat_ofNat]
    omega
  have hfind := findDeltas_chunks p.payloadLength (statusRuns (items.map Prod.fst)) p.payloadLength
    16 hchunk h16 (by rw [hplen, ← hpay]; omega) (by rw [hplen, ← hpay]; omega)
  unfold parseRtcpTwccPacket
  dsimp only
  rw [hbase, hn, hnat, readReferenceTime_of href h12 h13 h14, ← hcount, hfind,
    reportChunks_chunks (statusRuns (items.map Prod.fst)) p.payload.length 16 _ hchunk h16
      (by omega), hexp]
  rw [reportAll_items items _ pad henc]
  have hdelta := drop_behind h16
  rw [length_chunkBytes] at hdelta
  exact hdelta

/-! ## Truncation -/

/-- The range of the 24-bit reference time, in units of 100 ns. -/
abbrev REFERENCE_RANGE : Int := 10737418240000

/-- The recorded arrivals of `n` numbers from `seqNum` on. -/
def spanArrivals (table : UINT16 → Option UINT64) : Nat → UINT16 → List (Option UINT64)
  | 0, _ => []
  | n + 1, seqNum => table seqNum :: spanArrivals table n (seqNum + 1)

/-- The arrival times alone, in the order of the sequence numbers. -/
def arrivals (table : UINT16 → Option UINT64) (n : Nat) (seqNum : UINT16) : List UINT64 :=
  (spanArrivals table n seqNum).filterMap id

theorem arrivals_none {table : UINT16 → Option UINT64} {n : Nat} {seqNum : UINT16}
    (h : table seqNum = none) : arrivals table (n + 1) seqNum = arrivals table n (seqNum + 1) := by
  simp [arrivals, spanArrivals, h]

theorem arrivals_some {table : UINT16 → Option UINT64} {n : Nat} {seqNum : UINT16} {a : UINT64}
    (h : table seqNum = some a) :
    arrivals table (n + 1) seqNum = a :: arrivals table n (seqNum + 1) := by
  simp [arrivals, spanArrivals, h]

/-- Two successive arrivals are at most 32767 ticks apart. -/
def TicksWithin (a b : UINT64) : Prop :=
  -32767 ≤ (b.toInt - a.toInt).tdiv 2500 ∧ (b.toInt - a.toInt).tdiv 2500 ≤ 32767

instance (a b : UINT64) : Decidable (TicksWithin a b) := inferInstanceAs (Decidable (_ ∧ _))

/-- The truncated parts of the differences, added up from `drift` on, stay below one tick. -/
def DriftWithin : Int → UINT64 → List UINT64 → Prop
  | _, _, [] => True
  | drift, prev, a :: rest =>
    (-2500 < drift + (a.toInt - prev.toInt).tmod 2500 ∧
      drift + (a.toInt - prev.toInt).tmod 2500 < 2500) ∧
    DriftWithin (drift + (a.toInt - prev.toInt).tmod 2500) a rest

/-- Less than one tick apart, up to the range of the reference time. -/
def Close (remote arrival : UINT64) : Prop :=
  ∃ k : Int, -2500 < remote.toInt - arrival.toInt + k * REFERENCE_RANGE ∧
    remote.toInt - arrival.toInt + k * REFERENCE_RANGE < 2500

/-- What the sender should learn about one packet. -/
def Faithful (arrival : Option UINT64) (remote : UINT64) : Prop :=
  match arrival with
  | none => remote = TWCC_PACKET_LOST_TIME
  | some a => remote ≠ TWCC_PACKET_LOST_TIME ∧ Close remote a

theorem tdiv_tmod_2500 (x : Int) :
    2500 * x.tdiv 2500 + x.tmod 2500 = x ∧ -2500 < x.tmod 2500 ∧ x.tmod 2500 < 2500 :=
  ⟨Int.mul_tdiv_add_tmod x 2500, Int.lt_tmod_of_pos x (by decide), Int.tmod_lt_of_pos x (by decide)⟩

theorem toInt_add_ofInt {x : UINT64} {d : Int} (hlo : -2 ^ 63 ≤ x.toInt + d)
    (hhi : x.toInt + d < 2 ^ 63) : (x + BitVec.ofInt 64 d).toInt = x.toInt + d := by
  rw [BitVec.toInt_add, BitVec.toInt_ofInt, Int.add_bmod_bmod]
  exact Int.bmod_eq_of_le (by omega) (by omega)

theorem getTwccPacketStatus_within {a last : UINT64} (h : TicksWithin last a) :
    ∃ sym, getTwccPacketStatus a last = (sym, (a.toInt - last.toInt).tdiv 2500) ∧
      sym ≠ .NOTRECEIVED ∧ Encodable (sym, (a.toInt - last.toInt).tdiv 2500) := by
  obtain ⟨hlo, hhi⟩ := h
  unfold getTwccPacketStatus
  dsimp only
  split
  · rename_i hsmall
    exact ⟨_, rfl, by decide, hsmall⟩
  · rw [if_pos ⟨by omega, hhi⟩]
    exact ⟨_, rfl, by decide, hlo, hhi⟩

theorem remoteTimes_received {sym : TWCC_STATUS_SYMBOL} (h : sym ≠ .NOTRECEIVED) (d : Int)
    (rest : List (TWCC_STATUS_SYMBOL × Int)) (ref : UINT64) :
    remoteTimes ((sym, d) :: rest) ref = (ref + BitVec.ofInt 64 (2500 * d)) ::
      remoteTimes rest (ref + BitVec.ofInt 64 (2500 * d)) := by
  cases sym with
  | NOTRECEIVED => exact absurd rfl h
  | SMALLDELTA => rfl
  | LARGEDELTA => rfl

theorem encodable_packetStatuses {table : UINT16 → Option UINT64} :
    ∀ (n : Nat) (seqNum : UINT16) (last : UINT64),
      List.IsChain TicksWithin (last :: arrivals table n seqNum) →
      ∀ item ∈ packetStatuses table n seqNum last, Encodable item
  | 0, _, _, _, item, hitem => by cases hitem
  | n + 1, seqNum, last, hchain, item, hitem => by
    unfold packetStatuses at hitem
    cases ha : table seqNum with
    | none =>
      rw [arrivals_none ha] at hchain
      simp only [ha] at hitem
      rcases List.mem_cons.mp hitem with rfl | hitem
      · trivial
      · exact encodable_packetStatuses n (seqNum + 1) last hchain item hitem
    | some a =>
      rw [arrivals_some ha, List.isChain_cons_cons] at hchain
      simp only [ha] at hitem
      obtain ⟨sym, hstatus, -, henc⟩ := getTwccPacketStatus_within hchain.1
      rw [hstatus] at hitem
      rcases List.mem_cons.mp hitem with rfl | hitem
      · exact henc
      · exact encodable_packetStatuses n (seqNum + 1) a hchain.2 item hitem

theorem faithful_iff_drift {remote a : UINT64} {drift k : Int}
    (htime : remote.toInt = a.toInt - drift + k * REFERENCE_RANGE) (hdvd : remote.toInt % 2500 = 0)
    (hlo : -20480000 ≤ drift) (hhi : drift ≤ 20480000) :
    Faithful (some a) remote ↔ -2500 < drift ∧ drift < 2500 := by
  have hne : remote ≠ TWCC_PACKET_LOST_TIME := by
    rintro rfl
    revert hdvd
    decide
  unfold Faithful Close
  simp only [REFERENCE_RANGE] at htime ⊢
  constructor
  · rintro ⟨-, j, hj1, hj2⟩
    omega
  · intro h
    exact ⟨hne, -k, by omega, by omega⟩

/-- **The times the deltas add up to are faithful exactly while the drift is below one tick.** -/
theorem faithful_packetStatuses_iff {table : UINT16 → Option UINT64} :
    ∀ (n : Nat) (seqNum : UINT16) (last ref : UINT64) (drift k bound : Int),
      List.IsChain TicksWithin (last :: arrivals table n seqNum) →
      ref.toInt = last.toInt - drift + k * REFERENCE_RANGE → ref.toInt % 2500 = 0 →
      -2500 * (8192 - n : Int) ≤ drift → drift ≤ 2500 * (8192 - n : Int) →
      -bound ≤ ref.toInt → ref.toInt ≤ bound → bound + 81917500 * (n : Int) < 2 ^ 63 →
      (List.Forall₂ Faithful (spanArrivals table n seqNum)
          (remoteTimes (packetStatuses table n seqNum last) ref) ↔
        DriftWithin drift last (arrivals table n seqNum)) := by
  intro n
  induction n with
  | zero =>
    intro seqNum last ref drift k bound _ _ _ _ _ _ _ _
    simp [spanArrivals, packetStatuses, remoteTimes, arrivals, DriftWithin]
  | succ n ih =>
    intro seqNum last ref drift k bound hchain hk hdvd hdlo hdhi hrlo hrhi hb
    unfold packetStatuses spanArrivals
    cases ha : table seqNum with
    | none =>
      rw [arrivals_none ha] at hchain ⊢
      have hrec := ih (seqNum + 1) last ref drift k bound hchain hk hdvd
        (by push_cast at hdlo; omega) (by push_cast at hdhi; omega) hrlo hrhi
        (by push_cast at hb; omega)
      rw [← hrec, remoteTimes, List.forall₂_cons]
      exact and_iff_right rfl
    | some a =>
      rw [arrivals_some ha] at hchain ⊢
      rw [List.isChain_cons_cons] at hchain
      obtain ⟨hticks, hrest⟩ := hchain
      obtain ⟨sym, hstatus, hsym, -⟩ := getTwccPacketStatus_within hticks
      obtain ⟨hsplit, hmlo, hmhi⟩ := tdiv_tmod_2500 (a.toInt - last.toInt)
      obtain ⟨htlo, hthi⟩ := hticks
      push_cast at hdlo hdhi hb
      -- the time after this packet
      have htime : (ref + BitVec.ofInt 64 (2500 * (a.toInt - last.toInt).tdiv 2500)).toInt =
          ref.toInt + 2500 * (a.toInt - last.toInt).tdiv 2500 :=
        toInt_add_ofInt (by omega) (by omega)
      have hnext : (ref + BitVec.ofInt 64 (2500 * (a.toInt - last.toInt).tdiv 2500)).toInt =
          a.toInt - (drift + (a.toInt - last.toInt).tmod 2500) + k * REFERENCE_RANGE := by
        rw [htime, hk]
        omega
      have hdvd' : (ref + BitVec.ofInt 64 (2500 * (a.toInt - last.toInt).tdiv 2500)).toInt % 2500 =
          0 := by
        rw [htime]
        omega
      have hrec := ih (seqNum + 1) a
        (ref + BitVec.ofInt 64 (2500 * (a.toInt - last.toInt).tdiv 2500))
        (drift + (a.toInt - last.toInt).tmod 2500) k (bound + 81917500) hrest hnext hdvd'
        (by omega) (by omega) (by omega) (by omega) (by omega)
      dsimp only
      rw [hstatus, remoteTimes_received hsym, List.forall₂_cons, hrec,
        faithful_iff_drift hnext hdvd' (by omega) (by omega), DriftWithin]

/-! ## The reference time -/

/-- The milliseconds of the reference fit in 32 bits. -/
def ReferenceFits (ref : UINT64) : Prop := ref.toNat < 2 ^ 32 * 10000

instance (ref : UINT64) : Decidable (ReferenceFits ref) := inferInstanceAs (Decidable (_ < _))

theorem toNat_referenceMs (ref : UINT64) : (referenceMs ref).toNat = ref.toNat / 10000 % 2 ^ 32 := by
  simp [referenceMs]

theorem toNat_alignedReference (ref : UINT64) :
    (alignedReference ref).toNat = ref.toNat / 10000 % 2 ^ 32 / 64 * 640000 := by
  unfold alignedReference
  rw [BitVec.toNat_ofNat, toNat_referenceMs]
  simp only [TWCC_REFERENCE_TIME_DIVISOR, HUNDREDS_OF_NANOS_IN_A_MILLISECOND]
  omega

theorem toInt_alignedReference (ref : UINT64) :
    (alignedReference ref).toInt = ((ref.toNat / 10000 % 2 ^ 32 / 64 * 640000 : Nat) : Int) := by
  rw [BitVec.toInt_eq_toNat_of_lt (by rw [toNat_alignedReference]; omega), toNat_alignedReference]

theorem toNat_referenceTime24 (ref : UINT64) :
    (referenceTime24 ref).toNat = ref.toNat / 10000 % 2 ^ 32 / 64 % 2 ^ 24 := by
  unfold referenceTime24
  rw [BitVec.toNat_and, BitVec.toNat_ofNat, toNat_referenceMs]
  show _ &&& 2 ^ 24 - 1 = _
  rw [Nat.and_two_pow_sub_one_eq_mod]
  simp only [TWCC_REFERENCE_TIME_DIVISOR]
  omega

theorem ticksWithin_reference {ref : UINT64} (h : ReferenceFits ref) :
    TicksWithin (alignedReference ref) ref := by
  unfold ReferenceFits at h
  have hint : ref.toInt = ref.toNat := BitVec.toInt_eq_toNat_of_lt (by omega)
  obtain ⟨hsplit, hmlo, hmhi⟩ := tdiv_tmod_2500 (ref.toInt - (alignedReference ref).toInt)
  have haligned := toInt_alignedReference ref
  constructor <;> omega

/-- When it does not fit, the first packet is reported as not received. -/
theorem status_reference_overflow {ref : UINT64} (h : ¬ ReferenceFits ref) :
    (getTwccPacketStatus ref (alignedReference ref)).1 = .NOTRECEIVED := by
  unfold ReferenceFits at h
  have hlt := ref.isLt
  obtain ⟨hsplit, hmlo, hmhi⟩ := tdiv_tmod_2500 (ref.toInt - (alignedReference ref).toInt)
  have haligned := toInt_alignedReference ref
  have hint := BitVec.toInt_eq_toNat_cond ref
  have hout : ¬ (-32768 ≤ (ref.toInt - (alignedReference ref).toInt).tdiv 2500 ∧
      (ref.toInt - (alignedReference ref).toInt).tdiv 2500 ≤ 32767) := by
    intro hin
    split at hint <;> omega
  unfold getTwccPacketStatus
  rw [if_neg (by omega), if_neg hout]

theorem first_packet_lost {table : UINT16 → Option UINT64} {ref last : UINT64}
    (hlost : (getTwccPacketStatus ref last).1 = .NOTRECEIVED) :
    ∀ (n : Nat) (seqNum : UINT16), firstArrival table n seqNum = some ref →
      List.IsChain TicksWithin (arrivals table n seqNum) →
      (∀ item ∈ packetStatuses table n seqNum last, Encodable item) ∧
        ∀ time, ¬ List.Forall₂ Faithful (spanArrivals table n seqNum)
          (remoteTimes (packetStatuses table n seqNum last) time)
  | 0, _, hfirst, _ => by cases hfirst
  | n + 1, seqNum, hfirst, hchain => by
    unfold firstArrival at hfirst
    unfold packetStatuses spanArrivals
    cases ha : table seqNum with
    | none =>
      rw [arrivals_none ha] at hchain
      simp only [ha] at hfirst
      obtain ⟨henc, hnot⟩ := first_packet_lost hlost n (seqNum + 1) hfirst hchain
      refine ⟨?_, ?_⟩
      · intro item hitem
        rcases List.mem_cons.mp hitem with rfl | hitem
        · trivial
        · exact henc item hitem
      · intro time hall
        exact hnot time (List.forall₂_cons.mp hall).2
    | some a =>
      rw [arrivals_some ha] at hchain
      simp only [ha, Option.some.injEq] at hfirst
      subst hfirst
      obtain ⟨⟨sym, d⟩, hitem⟩ : ∃ item, getTwccPacketStatus a last = item := ⟨_, rfl⟩
      rw [hitem] at hlost
      subst hlost
      dsimp only
      rw [hitem]
      refine ⟨?_, ?_⟩
      · intro item' hitem'
        rcases List.mem_cons.mp hitem' with rfl | hitem'
        · trivial
        · exact encodable_packetStatuses n (seqNum + 1) a hchain item' hitem'
      · intro time hall
        exact (List.forall₂_cons.mp hall).1.1 rfl

/-! ## The recorded window -/

/-- Nothing has been recorded since the last feedback. -/
structure Idle (m : TwccReceiverManager) : Prop where
  table : ∀ s, m.pReceivedPktsHashTable s = none
  waiting : m.firstPacketReceived = false

/-- The numbers lie in one window of the largest size that is reported. -/
def SpanWithin (b : UINT16) (ps : List TwccArrival) : Prop :=
  ∀ p ∈ ps, Serial.ahead b p.twccSeqNum < TWCC_MAX_PACKET_STATUS_COUNT

/-- The table holds exactly the arrivals and the window is spanned by them. -/
structure Recorded (b : UINT16) (ps : List TwccArrival) (m : TwccReceiverManager) : Prop where
  table : ∀ s, m.pReceivedPktsHashTable s ≠ none ↔ ∃ p ∈ ps, p.twccSeqNum = s
  started : ps ≠ [] → m.firstPacketReceived = true
  waiting : ps = [] → m.firstPacketReceived = false
  first : ps ≠ [] → ∃ p ∈ ps, p.twccSeqNum = m.firstSeqNum
  last : ps ≠ [] → ∃ p ∈ ps, p.twccSeqNum = m.lastSeqNum
  window : ∀ p ∈ ps, Serial.ahead b m.firstSeqNum ≤ Serial.ahead b p.twccSeqNum ∧
    Serial.ahead b p.twccSeqNum ≤ Serial.ahead b m.lastSeqNum

theorem Recorded.seen_twice {b : UINT16} {ps : List TwccArrival} {m : TwccReceiverManager}
    (h : Recorded b ps m) {p : TwccArrival} (hp : ∃ q ∈ ps, q.twccSeqNum = p.twccSeqNum) :
    Recorded b (ps ++ [p]) m := by
  obtain ⟨q, hq, hqs⟩ := hp
  have hne : ps ≠ [] := List.ne_nil_of_mem hq
  refine ⟨?_, fun _ => h.started hne, fun hnil => by simp at hnil, ?_, ?_, ?_⟩
  · intro s
    rw [h.table s]
    constructor
    · rintro ⟨p', hp', hs⟩
      exact ⟨p', List.mem_append_left _ hp', hs⟩
    · rintro ⟨p', hp', hs⟩
      rcases List.mem_append.mp hp' with hp' | hp'
      · exact ⟨p', hp', hs⟩
      · rw [List.mem_singleton.mp hp'] at hs
        exact ⟨q, hq, hqs.trans hs⟩
  · intro _
    obtain ⟨p', hp', hs⟩ := h.first hne
    exact ⟨p', List.mem_append_left _ hp', hs⟩
  · intro _
    obtain ⟨p', hp', hs⟩ := h.last hne
    exact ⟨p', List.mem_append_left _ hp', hs⟩
  · intro p' hp'
    rcases List.mem_append.mp hp' with hp' | hp'
    · exact h.window p' hp'
    · rw [List.mem_singleton.mp hp', ← hqs]
      exact h.window q hq

theorem Recorded.seen_first {b : UINT16} {ps : List TwccArrival} {m m' : TwccReceiverManager}
    (h : Recorded b ps m) {p : TwccArrival} (hspan : SpanWithin b (ps ++ [p]))
    (htable : ∀ s, m'.pReceivedPktsHashTable s ≠ none ↔
      s = p.twccSeqNum ∨ m.pReceivedPktsHashTable s ≠ none)
    (hfirst : m'.firstSeqNum = (trackWindow m p.twccSeqNum).1)
    (hlast : m'.lastSeqNum = (trackWindow m p.twccSeqNum).2)
    (hstarted : m'.firstPacketReceived = true) : Recorded b (ps ++ [p]) m' := by
  have hp : Serial.ahead b p.twccSeqNum < 8191 :=
    hspan p (List.mem_append_right _ (List.mem_singleton_self p))
  have htab : ∀ s, m'.pReceivedPktsHashTable s ≠ none ↔ ∃ q ∈ ps ++ [p], q.twccSeqNum = s := by
    intro s
    rw [htable s, h.table s]
    constructor
    · rintro (rfl | ⟨q, hq, hs⟩)
      · exact ⟨p, List.mem_append_right _ (List.mem_singleton_self p), rfl⟩
      · exact ⟨q, List.mem_append_left _ hq, hs⟩
    · rintro ⟨q, hq, hs⟩
      rcases List.mem_append.mp hq with hq | hq
      · exact .inr ⟨q, hq, hs⟩
      · rw [List.mem_singleton.mp hq] at hs
        exact .inl hs.symm
  have hself : ∃ q ∈ ps ++ [p], q.twccSeqNum = p.twccSeqNum :=
    ⟨p, List.mem_append_right _ (List.mem_singleton_self p), rfl⟩
  by_cases hnil : ps = []
  · -- the very first packet
    have hwin : trackWindow m p.twccSeqNum = (p.twccSeqNum, p.twccSeqNum) := by
      unfold trackWindow
      rw [h.waiting hnil]
      rfl
    rw [hwin] at hfirst hlast
    refine ⟨htab, fun _ => hstarted, fun hc => by simp at hc, fun _ => hfirst ▸ hself,
      fun _ => hlast ▸ hself, ?_⟩
    intro q hq
    rw [hnil, List.nil_append] at hq
    rw [List.mem_singleton.mp hq, hfirst, hlast]
    exact ⟨Nat.le_refl _, Nat.le_refl _⟩
  · obtain ⟨pf, hpf, hpfs⟩ := h.first hnil
    obtain ⟨pl, hpl, hpls⟩ := h.last hnil
    have hbf : Serial.ahead b m.firstSeqNum < 8191 := by
      rw [← hpfs]
      exact hspan pf (List.mem_append_left _ hpf)
    have hbl : Serial.ahead b m.lastSeqNum < 8191 := by
      rw [← hpls]
      exact hspan pl (List.mem_append_left _ hpl)
    have hlt : Serial.lt p.twccSeqNum m.firstSeqNum ↔
        Serial.ahead b p.twccSeqNum < Serial.ahead b m.firstSeqNum :=
      Serial.lt_iff_of_window (by omega) (by omega)
    have hgt : Serial.gt p.twccSeqNum m.lastSeqNum ↔
        Serial.ahead b m.lastSeqNum < Serial.ahead b p.twccSeqNum :=
      Serial.gt_iff_of_window (by omega) (by omega)
    have hwin : trackWindow m p.twccSeqNum =
        (if Serial.lt p.twccSeqNum m.firstSeqNum then p.twccSeqNum else m.firstSeqNum,
          if Serial.gt p.twccSeqNum m.lastSeqNum then p.twccSeqNum else m.lastSeqNum) := by
      unfold trackWindow
      rw [h.started hnil]
      rfl
    rw [hwin] at hfirst hlast
    dsimp only at hfirst hlast
    refine ⟨htab, fun _ => hstarted, fun hc => by simp at hc, ?_, ?_, ?_⟩
    · intro _
      rw [hfirst]
      split
      · exact hself
      · exact ⟨pf, List.mem_append_left _ hpf, hpfs⟩
    · intro _
      rw [hlast]
      split
      · exact hself
      · exact ⟨pl, List.mem_append_left _ hpl, hpls⟩
    · -- the window is widened to the packet
      have hlow : Serial.ahead b m'.firstSeqNum =
          min (Serial.ahead b p.twccSeqNum) (Serial.ahead b m.firstSeqNum) := by
        rw [hfirst, apply_ite (Serial.ahead b), if_congr hlt rfl rfl]
        split <;> omega
      have hhigh : Serial.ahead b m'.lastSeqNum =
          max (Serial.ahead b p.twccSeqNum) (Serial.ahead b m.lastSeqNum) := by
        rw [hlast, apply_ite (Serial.ahead b), if_congr hgt rfl rfl]
        split <;> omega
      intro q hq
      rw [hlow, hhigh]
      rcases List.mem_append.mp hq with hq | hq
      · have hwindow := h.window q hq
        omega
      · rw [List.mem_singleton.mp hq]
        omega

theorem recorded_arrivals {b : UINT16} {m₀ : TwccReceiverManager} (h0 : Idle m₀)
    (ps : List TwccArrival) (hspan : SpanWithin b ps) : Recorded b ps (recordArrivals m₀ ps) := by
  induction ps using List.reverseRecOn with
  | nil =>
    refine ⟨?_, fun h => absurd rfl h, fun _ => h0.waiting, fun h => absurd rfl h,
      fun h => absurd rfl h, fun p hp => by cases hp⟩
    intro s
    show m₀.pReceivedPktsHashTable s ≠ none ↔ _
    rw [h0.table s]
    simp
  | append_singleton ps p ih =>
    have hprev := ih (fun q hq => hspan q (List.mem_append_left _ hq))
    unfold recordArrivals at hprev ⊢
    rw [List.foldl_append, List.foldl_cons, List.foldl_nil]
    generalize ps.foldl twccReceiverOnPacketReceived m₀ = m at hprev
    unfold twccReceiverOnPacketReceived
    split
    · rename_i a hdup
      apply hprev.seen_twice
      rw [← hprev.table, hdup]
      simp
    · apply hprev.seen_first hspan
      · intro s
        by_cases hs : s = p.twccSeqNum
        · simp [hs]
        · simp [hs]
      · rfl
      · rfl
      · rfl

/-! ## The round trip -/

/-- The numbers a feedback reports. -/
def InSpan (m : TwccReceiverManager) (s : UINT16) : Prop :=
  Serial.ahead m.firstSeqNum s < packetStatusCount m

/-- The sender has a remote time for `s`. -/
def RemoteKnown (t : TwccManager) (s : UINT16) : Prop :=
  ∃ e, t.pTwccRtpPktInfosHashTable s = some e ∧ e.remoteTimeKvs ≠ TWCC_PACKET_LOST_TIME

theorem forall₂_spanArrivals_iff (table : UINT16 → Option UINT64)
    {R : Option UINT64 → UINT64 → Prop} :
    ∀ (n : Nat) (seqNum : UINT16) (times : List UINT64), n ≤ 65536 → times.length = n →
      (List.Forall₂ R (spanArrivals table n seqNum) times ↔
        ∀ s, Serial.ahead seqNum s < n →
          ∃ time, times[Serial.ahead seqNum s]? = some time ∧ R (table s) time)
  | 0, _, times, _, hlen => by
    rw [List.length_eq_zero_iff.mp hlen]
    simp [spanArrivals]
  | n + 1, seqNum, [], _, hlen => by simp at hlen
  | n + 1, seqNum, time :: times, hn, hlen => by
    have ih := forall₂_spanArrivals_iff table (R := R) n (seqNum + 1) times (by omega)
      (by simpa using hlen)
    unfold spanArrivals
    rw [List.forall₂_cons, ih]
    constructor
    · rintro ⟨hhead, hrest⟩ s hs
      by_cases heq : s = seqNum
      · subst heq
        rw [Serial.ahead_self]
        exact ⟨time, rfl, hhead⟩
      · rw [Serial.ahead_succ (by decide) heq] at hs ⊢
        rw [List.getElem?_cons_succ]
        exact hrest s (Nat.lt_of_succ_lt_succ hs)
    · intro hall
      constructor
      · obtain ⟨time', htime, hR⟩ := hall seqNum (by rw [Serial.ahead_self]; omega)
        rw [Serial.ahead_self] at htime
        cases htime
        exact hR
      · intro s hs
        have hne : s ≠ seqNum := by
          rintro rfl
          rw [Serial.ahead_eq, BitVec.toNat_add] at hs
          have := s.isLt
          have hone : (1 : UINT16).toNat = 1 := rfl
          split at hs <;> omega
        have hs' := hall s (by
          rw [Serial.ahead_succ (by decide) hne]
          exact Nat.succ_lt_succ hs)
        rw [Serial.ahead_succ (by decide) hne, List.getElem?_cons_succ] at hs'
        exact hs'

theorem Recorded.inSpan {b : UINT16} {ps : List TwccArrival} {m : TwccReceiverManager}
    (h : Recorded b ps m) (hspan : SpanWithin b ps) (hne : ps ≠ []) :
    0 < packetStatusCount m ∧ ∀ p ∈ ps, InSpan m p.twccSeqNum := by
  obtain ⟨pf, hpf, hpfs⟩ := h.first hne
  obtain ⟨pl, hpl, hpls⟩ := h.last hne
  have hbl : Serial.ahead b m.lastSeqNum < 8191 := by
    rw [← hpls]
    exact hspan pl hpl
  have hfl := (h.window pf hpf).2
  rw [hpfs] at hfl
  have hdist := Serial.ahead_of_le hfl
  have hcount : packetStatusCount m = Serial.ahead m.firstSeqNum m.lastSeqNum + 1 := by
    unfold packetStatusCount Serial.ahead
    rw [BitVec.toNat_add]
    unfold Serial.ahead at hdist hbl
    have hone : (1 : UINT16).toNat = 1 := rfl
    simp only [TWCC_MAX_PACKET_STATUS_COUNT]
    omega
  refine ⟨by omega, ?_⟩
  intro p hp
  obtain ⟨hlo, hhi⟩ := h.window p hp
  unfold InSpan
  rw [hcount, Serial.ahead_of_le hlo]
  omega

theorem firstArrival_head {table : UINT16 → Option UINT64} {n : Nat} {seqNum : UINT16} {a : UINT64}
    (hn : 0 < n) (h : table seqNum = some a) : firstArrival table n seqNum = some a := by
  cases n with
  | zero => omega
  | succ n =>
    unfold firstArrival
    rw [h]

theorem Recorded.report {b : UINT16} {ps : List TwccArrival} {m : TwccReceiverManager}
    (h : Recorded b ps m) (hspan : SpanWithin b ps) (hne : ps ≠ []) :
    ∃ ref, m.pReceivedPktsHashTable m.firstSeqNum = some ref ∧
      firstArrival m.pReceivedPktsHashTable (packetStatusCount m) m.firstSeqNum = some ref ∧
      twccReport m = some (ref, packetStatuses m.pReceivedPktsHashTable (packetStatusCount m)
        m.firstSeqNum (alignedReference ref)) := by
  have hrec := (h.table m.firstSeqNum).mpr (h.first hne)
  obtain ⟨ref, href⟩ := Option.ne_none_iff_exists'.mp hrec
  have hfirst := firstArrival_head (h.inSpan hspan hne).1 href
  refine ⟨ref, href, hfirst, ?_⟩
  unfold twccReport
  rw [h.started hne, if_pos rfl, hfirst]

/-- **The decoded times are faithful exactly when the reference fits in its 32 bits and the
truncation does not add up to a tick.** -/
theorem faithful_report_iff {table : UINT16 → Option UINT64} {n : Nat} {seqNum : UINT16} {ref : UINT64}
    (hn : n ≤ TWCC_MAX_PACKET_STATUS_COUNT) (hfirst : firstArrival table n seqNum = some ref)
    (hhead : (arrivals table n seqNum).head? = some ref)
    (hchain : List.IsChain TicksWithin (arrivals table n seqNum)) :
    (∀ item ∈ packetStatuses table n seqNum (alignedReference ref), Encodable item) ∧
      (List.Forall₂ Faithful (spanArrivals table n seqNum)
          (remoteTimes (packetStatuses table n seqNum (alignedReference ref))
            (BitVec.ofNat 64 ((referenceTime24 ref).toNat * 640000))) ↔
        ReferenceFits ref ∧ DriftWithin 0 (alignedReference ref) (arrivals table n seqNum)) := by
  have hn' : n ≤ 8191 := hn
  by_cases hfits : ReferenceFits ref
  · have hlink : List.IsChain TicksWithin (alignedReference ref :: arrivals table n seqNum) := by
      cases harr : arrivals table n seqNum with
      | nil => exact List.IsChain.singleton _
      | cons a rest =>
        rw [harr] at hhead hchain
        cases hhead
        exact List.isChain_cons_cons.mpr ⟨ticksWithin_reference hfits, hchain⟩
    refine ⟨encodable_packetStatuses n seqNum _ hlink, ?_⟩
    have h24 := toNat_referenceTime24 ref
    have hsmall : (referenceTime24 ref).toNat < 2 ^ 24 := h24 ▸ Nat.mod_lt _ (by decide)
    have haligned := toInt_alignedReference ref
    have hint : (BitVec.ofNat 64 ((referenceTime24 ref).toNat * 640000)).toInt =
        (((referenceTime24 ref).toNat * 640000 : Nat) : Int) := by
      have hnat : (BitVec.ofNat 64 ((referenceTime24 ref).toNat * 640000)).toNat =
          (referenceTime24 ref).toNat * 640000 := by
        rw [BitVec.toNat_ofNat]
        exact Nat.mod_eq_of_lt (by omega)
      rw [BitVec.toInt_eq_toNat_of_lt (by omega), hnat]
    have hiff := faithful_packetStatuses_iff n seqNum (alignedReference ref)
      (BitVec.ofNat 64 ((referenceTime24 ref).toNat * 640000)) 0
      (-((ref.toNat / 10000 % 2 ^ 32 / 64 / 2 ^ 24 : Nat) : Int)) 10737418240000 hlink
      (by rw [hint, haligned]; simp only [REFERENCE_RANGE]; omega) (by rw [hint]; omega) (by omega)
      (by omega) (by rw [hint]; omega) (by rw [hint]; omega) (by omega)
    rw [hiff]
    exact (and_iff_right hfits).symm
  · obtain ⟨henc, hnot⟩ := first_packet_lost (status_reference_overflow hfits) n seqNum hfirst hchain
    refine ⟨henc, ?_⟩
    constructor
    · intro hall
      exact absurd hall (hnot _)
    · intro hcond
      exact absurd hcond.1 hfits

theorem head?_arrivals {table : UINT16 → Option UINT64} {n : Nat} {seqNum : UINT16} {a : UINT64}
    (hn : 0 < n) (h : table seqNum = some a) : (arrivals table n seqNum).head? = some a := by
  cases n with
  | zero => omega
  | succ n => rw [arrivals_some h, List.head?_cons]

theorem learned_iff {t : TwccManager} {s : UINT16} {e : TwccRtpPacketInfo} {arrival : Option UINT64}
    {time : UINT64} {recorded : Prop} (hrec : arrival ≠ none ↔ recorded)
    (h : t.pTwccRtpPktInfosHashTable s = some { e with remoteTimeKvs := time }) :
    ((recorded ↔ RemoteKnown t s) ∧ ∀ a, arrival = some a →
      ∃ e, t.pTwccRtpPktInfosHashTable s = some e ∧ Close e.remoteTimeKvs a) ↔
    Faithful arrival time := by
  have hknown : RemoteKnown t s ↔ time ≠ TWCC_PACKET_LOST_TIME := by
    unfold RemoteKnown
    rw [h]
    constructor
    · rintro ⟨e', he', hne⟩
      cases he'
      exact hne
    · intro hne
      exact ⟨_, rfl, hne⟩
  rw [hknown, ← hrec]
  cases arrival with
  | none =>
    constructor
    · rintro ⟨hiff, -⟩
      by_contra hne
      exact hiff.mpr hne rfl
    · intro hlost
      exact ⟨⟨fun hc => absurd rfl hc, fun hne => absurd hlost hne⟩, fun a ha => by cases ha⟩
  | some a =>
    constructor
    · rintro ⟨hiff, hclose⟩
      obtain ⟨e', he', hc⟩ := hclose a rfl
      rw [h] at he'
      cases he'
      exact ⟨hiff.mp (by simp), hc⟩
    · rintro ⟨hne, hc⟩
      refine ⟨⟨fun _ => hne, fun _ => by simp⟩, ?_⟩
      intro a' ha'
      cases ha'
      exact ⟨_, h, hc⟩

/-- **Transport-wide feedback round trip.**  A recorded set whose span and whose successive
differences can be reported is sent and parsed; the sender learns exactly the recorded packets, each
within one tick, if and only if the first arrival fits in 32 bits of milliseconds and the truncated
parts of the differences never add up to a tick. -/
theorem twcc_round_trip_iff {b : UINT16} {m₀ : TwccReceiverManager} (h0 : Idle m₀)
    (ps : List TwccArrival) (hne : ps ≠ []) (hspan : SpanWithin b ps) (trailer : Nat)
    (senderSsrc : UINT32) (t : TwccManager)
    (hknown : ∀ s, InSpan (recordArrivals m₀ ps) s → t.pTwccRtpPktInfosHashTable s ≠ none)
    (hticks : List.IsChain TicksWithin (arrivals (recordArrivals m₀ ps).pReceivedPktsHashTable
      (packetStatusCount (recordArrivals m₀ ps)) (recordArrivals m₀ ps).firstSeqNum)) :
    (∀ p ∈ ps, InSpan (recordArrivals m₀ ps) p.twccSeqNum) ∧
    ∃ f p t' ref, (sendRtcpTwccFeedback trailer senderSsrc true (recordArrivals m₀ ps)).2 = some f ∧
      setRtcpPacketFromBytes f.packet = .ok p ∧ parseRtcpTwccPacket p t = some t' ∧
      (recordArrivals m₀ ps).pReceivedPktsHashTable (recordArrivals m₀ ps).firstSeqNum = some ref ∧
      ((∀ s, InSpan (recordArrivals m₀ ps) s →
          ((∃ p ∈ ps, p.twccSeqNum = s) ↔ RemoteKnown t' s) ∧
          ∀ a, (recordArrivals m₀ ps).pReceivedPktsHashTable s = some a →
            ∃ e, t'.pTwccRtpPktInfosHashTable s = some e ∧ Close e.remoteTimeKvs a) ↔
        ReferenceFits ref ∧ DriftWithin 0 (alignedReference ref)
          (arrivals (recordArrivals m₀ ps).pReceivedPktsHashTable
            (packetStatusCount (recordArrivals m₀ ps)) (recordArrivals m₀ ps).firstSeqNum)) := by
  have hrec := recorded_arrivals h0 ps hspan
  generalize recordArrivals m₀ ps = m at hrec hknown hticks ⊢
  obtain ⟨hpos, hall⟩ := hrec.inSpan hspan hne
  obtain ⟨ref, href, hfirst, hreport⟩ := hrec.report hspan hne
  have hcount := packetStatusCount_le m
  have hcount' : packetStatusCount m ≤ 8191 := hcount
  have hlen := length_packetStatuses m.pReceivedPktsHashTable (packetStatusCount m) m.firstSeqNum
    (alignedReference ref)
  obtain ⟨henc, hfaithful⟩ := faithful_report_iff hcount hfirst (head?_arrivals hpos href) hticks
  obtain ⟨p, hset, hparse⟩ := parse_feedback senderSsrc m.mediaSourceSsrc m.firstSeqNum
    m.feedbackPacketCount t (by rw [hlen]; exact hcount) henc
    (by rw [toNat_referenceTime24]; exact Nat.mod_lt _ (by decide) :
      (referenceTime24 ref).toNat < 2 ^ 24)
  rw [hlen] at hset
  refine ⟨hall, ⟨_, twccAllocSize trailer (packetStatuses m.pReceivedPktsHashTable
    (packetStatusCount m) m.firstSeqNum (alignedReference ref))⟩, p, _, ref, ?_, hset, hparse, href,
    ?_⟩
  · unfold sendRtcpTwccFeedback
    rw [hreport]
    rfl
  · rw [← hfaithful, forall₂_spanArrivals_iff _ _ _ _ (by omega) (by rw [length_remoteTimes, hlen])]
    apply forall₂_congr
    intro s hs
    -- the entry of `s` after the parse
    obtain ⟨e, he⟩ := Option.ne_none_iff_exists'.mp (hknown s hs)
    obtain ⟨time, htime⟩ : ∃ time, (remoteTimes (packetStatuses m.pReceivedPktsHashTable
        (packetStatusCount m) m.firstSeqNum (alignedReference ref)) (BitVec.ofNat 64
          ((referenceTime24 ref).toNat * 640000)))[Serial.ahead m.firstSeqNum s]? = some time := by
      exact ⟨_, List.getElem?_eq_getElem (by rw [length_remoteTimes, hlen]; exact hs)⟩
    have hentry := setRemoteTimes_table (remoteTimes (packetStatuses m.pReceivedPktsHashTable
      (packetStatusCount m) m.firstSeqNum (alignedReference ref)) (BitVec.ofNat 64
        ((referenceTime24 ref).toNat * 640000))) m.firstSeqNum
      { t with prevReportedBaseSeqNum := m.firstSeqNum } s (by rw [length_remoteTimes, hlen]; omega)
    rw [htime] at hentry ⊢
    dsimp only at hentry
    rw [he, Option.map_some] at hentry
    rw [learned_iff (hrec.table s) hentry]
    constructor
    · intro hf
      exact ⟨time, rfl, hf⟩
    · rintro ⟨time', htime', hf⟩
      cases htime'
      exact hf

/-- A sender that knows every number. -/
def sampleTwccManager : TwccManager where
  pTwccRtpPktInfosHashTable := fun _ => some ⟨1, 0, 100⟩
  firstSeqNumInRollingWindow := 0
  lastReportedSeqNum := 0
  prevReportedBaseSeqNum := 0

/-- Three packets, the given time apart. -/
def sampleSpaced (gap : UINT64) : List TwccArrival :=
  [⟨0, 10000, 1⟩, ⟨1, 10000 + gap, 1⟩, ⟨2, 10000 + 2 * gap, 1⟩]

theorem twcc_round_trip_whole_ticks :
    let m := recordArrivals createTwccReceiverManager (sampleSpaced 2500)
    ∃ f p t', (sendRtcpTwccFeedback 144 7 true m).2 = some f ∧
      setRtcpPacketFromBytes f.packet = .ok p ∧ parseRtcpTwccPacket p sampleTwccManager = some t' ∧
      ∀ s, InSpan m s → ((∃ p ∈ sampleSpaced 2500, p.twccSeqNum = s) ↔ RemoteKnown t' s) ∧
        ∀ a, m.pReceivedPktsHashTable s = some a →
          ∃ e, t'.pTwccRtpPktInfosHashTable s = some e ∧ Close e.remoteTimeKvs a := by
  have harr : arrivals (recordArrivals createTwccReceiverManager (sampleSpaced
      2500)).pReceivedPktsHashTable (packetStatusCount (recordArrivals createTwccReceiverManager
      (sampleSpaced 2500))) (recordArrivals createTwccReceiverManager (sampleSpaced
      2500)).firstSeqNum = [0, 2500, 5000] := by
    decide +kernel
  obtain ⟨-, f, p, t', ref, hsend, hset, hparse, href, hiff⟩ :=
    twcc_round_trip_iff (b := 0) ⟨fun _ => rfl, rfl⟩ (sampleSpaced 2500) (by decide) (by unfold SpanWithin; decide) 144 7 sampleTwccManager
      (fun s _ => Option.some_ne_none _) (by rw [harr]; decide)
  have hzero : some (0 : UINT64) = some ref := by
    rw [← href]
    decide +kernel
  cases hzero
  refine ⟨f, p, t', hsend, hset, hparse, hiff.mpr ⟨by decide, ?_⟩⟩
  rw [harr]
  exact ⟨by decide, by decide, by decide, trivial⟩

/-- Three packets one and a half ticks apart: each difference is truncated to one tick, so the third
packet is reported one whole tick early. -/
theorem truncation_adds_up :
    let m := recordArrivals createTwccReceiverManager (sampleSpaced 3750)
    let learned := (sendRtcpTwccFeedback 144 7 true m).2.bind fun f =>
      match setRtcpPacketFromBytes f.packet with
      | .ok p => (parseRtcpTwccPacket p sampleTwccManager).map fun t =>
          (t.pTwccRtpPktInfosHashTable 2).map fun e => e.remoteTimeKvs
      | .error _ => none
    m.pReceivedPktsHashTable 2 = some 7500 ∧ learned = some (some 5000) ∧ ¬ Close 5000 7500 := by
  refine ⟨by decide +kernel, by decide +kernel, ?_⟩
  rintro ⟨k, h1, h2⟩
  have hr : ((5000 : UINT64).toInt : Int) = 5000 := by decide
  have ha : ((7500 : UINT64).toInt : Int) = 7500 := by decide
  simp only [hr, ha, REFERENCE_RANGE] at h1 h2
  omega

end KvsWebrtc.Rtcp
