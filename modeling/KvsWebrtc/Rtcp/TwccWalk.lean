import KvsWebrtc.Lib.SerialNumber
import KvsWebrtc.Rtcp.TwccParse

/-!
# Where `parseRtcpTwccPacket` reads, and what it reports

The parser walks the status chunks twice and the receive deltas once.  The trace kept here next to
its state lists every payload offset it reads and every sequence number it stores a status for; the
walk itself is the one of `parseRtcpTwccPacket` (`walkChunks_cursor`).

The first pass stops at `payloadLength`, the second one only when the status count is used up, and a
run-length chunk is taken whole however few packets are left.

Principal results:

* `parseRtcpTwccPacket_isSome_iff` — when the parser returns;
* `walkChunks_of_statuses` — the walk over a payload whose chunks lie inside it;
* `twcc_parsed_safely_iff` — the parser returns, reads inside the payload only and reports numbers of
  the announced range only, exactly when the header, the chunks for the announced count and the
  deltas of all their symbols lie inside the payload and no chunk reports a packet behind the count.
-/

namespace KvsWebrtc.Rtcp

/-! ## Symbols -/

/-- The status symbols of one chunk, when `remaining` packets are still to be reported.  A run is not
cut at the end, a status vector is. -/
def chunkSymbols (packetChunk : UINT16) (remaining : Nat) : List UINT16 :=
  if IS_TWCC_RUNLEN packetChunk then
    List.replicate (TWCC_RUNLEN_GET packetChunk) (TWCC_RUNLEN_STATUS_SYMBOL packetChunk)
  else (List.range (min (TWCC_STATUSVECTOR_COUNT packetChunk) remaining)).map
    (TWCC_STATUSVECTOR_STATUS packetChunk)

/-- The bytes of delta a symbol takes. -/
def deltaSize (statusSymbol : UINT16) : Nat :=
  if statusSymbol = 1 then 1 else if statusSymbol = 2 then 2 else 0

def deltaSizes (symbols : List UINT16) : Nat := (symbols.map deltaSize).sum

/-- A packet with this symbol, whose delta is at `recvOffset`, gets a status. -/
def assigns (payload : Bytes) (statusSymbol : UINT16) (recvOffset : Nat) : Bool :=
  statusSymbol = 0 || (readDelta payload statusSymbol recvOffset).1 ≠ MIN_INT16

def reportSymbols (payload : Bytes) (symbols : List UINT16) (c : TwccCursor) : TwccCursor :=
  symbols.foldl (fun c s => reportPacket payload s c) c

@[simp] theorem deltaSizes_nil : deltaSizes [] = 0 := rfl

@[simp] theorem deltaSizes_cons (s : UINT16) (symbols : List UINT16) :
    deltaSizes (s :: symbols) = deltaSize s + deltaSizes symbols := rfl

theorem deltaSizes_append (xs ys : List UINT16) :
    deltaSizes (xs ++ ys) = deltaSizes xs + deltaSizes ys := by
  rw [deltaSizes, List.map_append, List.sum_append]
  rfl

theorem readDelta_snd (payload : Bytes) (s : UINT16) (r : Nat) :
    (readDelta payload s r).2 = r + deltaSize s := by
  unfold readDelta deltaSize
  split
  · rfl
  · split <;> rfl

theorem TWCC_RUNLEN_GET_lt (packetChunk : UINT16) : TWCC_RUNLEN_GET packetChunk < 8192 := by
  unfold TWCC_RUNLEN_GET
  rw [BitVec.toNat_and]
  exact Nat.lt_of_le_of_lt Nat.and_le_right (by decide)

theorem length_chunkSymbols_le (packetChunk : UINT16) (remaining : Nat) :
    (chunkSymbols packetChunk remaining).length ≤ 8191 := by
  unfold chunkSymbols
  split
  · have := TWCC_RUNLEN_GET_lt packetChunk
    rw [List.length_replicate]
    omega
  · rw [List.length_map, List.length_range]
    unfold TWCC_STATUSVECTOR_COUNT
    split <;> omega

theorem reportRun_eq_symbols (payload : Bytes) (s : UINT16) : ∀ (n : Nat) (c : TwccCursor),
    reportRun payload s n c = reportSymbols payload (List.replicate n s) c
  | 0, _ => rfl
  | n + 1, c => by
    unfold reportRun
    rw [reportRun_eq_symbols payload s n, List.replicate_succ]
    rfl

theorem reportVector_eq_symbols (payload : Bytes) (chunk : UINT16) :
    ∀ (n i : Nat) (c : TwccCursor), reportVector payload chunk i n c =
      reportSymbols payload ((List.range' i n).map (TWCC_STATUSVECTOR_STATUS chunk)) c
  | 0, _, _ => rfl
  | n + 1, i, c => by
    unfold reportVector
    rw [reportVector_eq_symbols payload chunk n, List.range'_succ]
    rfl

theorem reportChunks_succ {payload : Bytes} {remaining : Int} (fuel off : Nat) (c : TwccCursor)
    (h : 0 < remaining) :
    reportChunks payload (fuel + 1) remaining off c =
      reportChunks payload fuel
        (remaining -
          (chunkSymbols (getUnalignedInt16BigEndian payload off) remaining.toNat).length)
        (off + TWCC_FB_PACKETCHUNK_SIZE)
        (reportSymbols payload
          (chunkSymbols (getUnalignedInt16BigEndian payload off) remaining.toNat) c) := by
  rw [reportChunks, if_pos h]
  dsimp only
  unfold chunkSymbols
  split
  · rw [reportRun_eq_symbols, List.length_replicate]
  · rw [reportVector_eq_symbols, List.length_map, List.length_range, List.range_eq_range']

/-! ## The trace -/

/-- The second pass with the offsets read so far and the numbers that got a status. -/
structure TwccWalk where
  cursor : TwccCursor
  reads : List Nat
  assigned : List UINT16

def walkPacket (payload : Bytes) (w : TwccWalk) (s : UINT16) : TwccWalk where
  cursor := reportPacket payload s w.cursor
  reads := w.reads ++ List.range' w.cursor.recvOffset (deltaSize s)
  assigned := w.assigned ++
    if assigns payload s w.cursor.recvOffset then [w.cursor.packetSeqNum] else []

def walkSymbols (payload : Bytes) (symbols : List UINT16) (w : TwccWalk) : TwccWalk :=
  symbols.foldl (walkPacket payload) w

/-- The second pass. -/
def walkChunks (payload : Bytes) : Nat → Int → Nat → TwccWalk → Option TwccWalk
  | 0, remaining, _, w => if 0 < remaining then none else some w
  | fuel + 1, remaining, off, w =>
    if 0 < remaining then
      let symbols := chunkSymbols (getUnalignedInt16BigEndian payload off) remaining.toNat
      walkChunks payload fuel (remaining - symbols.length) (off + TWCC_FB_PACKETCHUNK_SIZE)
        (walkSymbols payload symbols { w with reads := w.reads ++ [off, off + 1] })
    else some w

/-- What the first pass reads. -/
def findDeltasReads (payload : Bytes) (payloadLength : Nat) : Nat → Int → Nat → List Nat
  | 0, _, _ => []
  | fuel + 1, remaining, off =>
    if 0 < remaining ∧ off < payloadLength then
      let symbols := chunkSymbols (getUnalignedInt16BigEndian payload off) remaining.toNat
      off :: (off + 1) ::
        findDeltasReads payload payloadLength fuel (remaining - symbols.length)
          (off + TWCC_FB_PACKETCHUNK_SIZE)
    else []

def twccBaseSeqNum (p : RtcpPacket) : UINT16 := getUnalignedInt16BigEndian p.payload 8

def twccStatusCount (p : RtcpPacket) : Nat := (getUnalignedInt16BigEndian p.payload 10).toNat

/-- The second pass where it starts. -/
def twccStart (p : RtcpPacket) (t : TwccManager) : TwccCursor where
  manager := { t with prevReportedBaseSeqNum := twccBaseSeqNum p }
  recvOffset := findDeltas p.payload p.payloadLength p.payloadLength (twccStatusCount p) 16
  packetSeqNum := twccBaseSeqNum p
  referenceTime := readReferenceTime p.payload

/-- `parseRtcpTwccPacket` with its trace; the base number, the count and the reference time are the
bytes 8 to 14. -/
def walkRtcpTwccPacket (p : RtcpPacket) (t : TwccManager) (fuel : Nat) : Option TwccWalk :=
  walkChunks p.payload fuel (twccStatusCount p) 16 {
    cursor := twccStart p t
    reads := List.range' 8 7 ++
      findDeltasReads p.payload p.payloadLength p.payloadLength (twccStatusCount p) 16
    assigned := [] }

theorem walkSymbols_cursor (payload : Bytes) : ∀ (symbols : List UINT16) (w : TwccWalk),
    (walkSymbols payload symbols w).cursor = reportSymbols payload symbols w.cursor
  | [], _ => rfl
  | _ :: symbols, _ => walkSymbols_cursor payload symbols _

/-- The packets that a chunk reports, when enough are left. -/
def chunkCount (packetChunk : UINT16) : Nat :=
  if IS_TWCC_RUNLEN packetChunk then TWCC_RUNLEN_GET packetChunk
  else TWCC_STATUSVECTOR_COUNT packetChunk

/-- The packets that `n` chunks from an offset on report. -/
def reportedBy (payload : Bytes) : Nat → Nat → Nat
  | 0, _ => 0
  | n + 1, off =>
    chunkCount (getUnalignedInt16BigEndian payload off) +
      reportedBy payload n (off + TWCC_FB_PACKETCHUNK_SIZE)

theorem sub_length_chunkSymbols (packetChunk : UINT16) (remaining : Nat) :
    remaining - (chunkSymbols packetChunk remaining).length =
      remaining - chunkCount packetChunk := by
  unfold chunkSymbols chunkCount
  split
  · rw [List.length_replicate]
  · rw [List.length_map, List.length_range]
    omega

theorem reportChunks_isSome_iff (payload : Bytes) : ∀ (fuel : Nat) (remaining : Int) (off : Nat)
    (c : TwccCursor), (reportChunks payload fuel remaining off c).isSome ↔
      ∃ n ≤ fuel, remaining.toNat ≤ reportedBy payload n off
  | 0, remaining, off, c => by
    unfold reportChunks
    constructor
    · intro h
      refine ⟨0, Nat.le_refl 0, ?_⟩
      split at h
      · cases h
      · rw [reportedBy]
        omega
    · rintro ⟨n, hn, hcount⟩
      rw [Nat.le_zero.mp hn, reportedBy] at hcount
      rw [if_neg (by omega)]
      rfl
  | fuel + 1, remaining, off, c => by
    by_cases hpos : 0 < remaining
    · have hsub := sub_length_chunkSymbols (getUnalignedInt16BigEndian payload off) remaining.toNat
      rw [reportChunks_succ fuel off c hpos, reportChunks_isSome_iff payload fuel]
      constructor
      · rintro ⟨n, hn, hcount⟩
        refine ⟨n + 1, Nat.succ_le_succ hn, ?_⟩
        rw [reportedBy]
        omega
      · rintro ⟨n, hn, hcount⟩
        cases n with
        | zero =>
          rw [reportedBy] at hcount
          omega
        | succ n =>
          rw [reportedBy] at hcount
          exact ⟨n, Nat.le_of_succ_le_succ hn, by omega⟩
    · rw [reportChunks, if_neg hpos]
      exact iff_of_true rfl ⟨0, Nat.zero_le _, by omega⟩

theorem reportedBy_end {payload : Bytes} : ∀ (n off : Nat), payload.length ≤ off →
    reportedBy payload n off = 0
  | 0, _, _ => rfl
  | n + 1, off, hoff => by
    have hzero : getUnalignedInt16BigEndian payload off = 0 := by
      rw [getUnalignedInt16BigEndian, ByteOrder.readBE, List.drop_eq_nil_of_le hoff]
      rfl
    rw [reportedBy, hzero, reportedBy_end n _ (Nat.le_add_right_of_le hoff)]
    decide

theorem reportedBy_le (payload : Bytes) : ∀ (n fuel off : Nat), payload.length ≤ off + fuel →
    reportedBy payload n off ≤ reportedBy payload fuel off
  | 0, _, _, _ => Nat.zero_le _
  | n + 1, 0, off, h => by
    rw [reportedBy_end (n + 1) off h]
    exact Nat.zero_le _
  | n + 1, fuel + 1, off, h => by
    have ih := reportedBy_le payload n fuel (off + TWCC_FB_PACKETCHUNK_SIZE)
      (by unfold TWCC_FB_PACKETCHUNK_SIZE; omega)
    rw [reportedBy, reportedBy]
    omega

/-- **The parser returns exactly when the chunks report the announced count.** -/
theorem parseRtcpTwccPacket_isSome_iff (p : RtcpPacket) (t : TwccManager) :
    (parseRtcpTwccPacket p t).isSome ↔ ∃ n, twccStatusCount p ≤ reportedBy p.payload n 16 := by
  unfold parseRtcpTwccPacket
  rw [reportChunks_isSome_iff]
  constructor
  · rintro ⟨n, -, h⟩
    exact ⟨n, h⟩
  · rintro ⟨n, h⟩
    exact ⟨_, Nat.le_refl _, Nat.le_trans h (reportedBy_le p.payload n _ 16 (by omega))⟩

/-! ## One chunk -/

theorem reportPacket_recvOffset (payload : Bytes) (s : UINT16) (c : TwccCursor) :
    (reportPacket payload s c).recvOffset = c.recvOffset + deltaSize s := by
  rw [← readDelta_snd payload]
  unfold reportPacket
  dsimp only
  split <;> rfl

theorem reportPacket_packetSeqNum (payload : Bytes) (s : UINT16) (c : TwccCursor) :
    (reportPacket payload s c).packetSeqNum = c.packetSeqNum + 1 := by
  unfold reportPacket
  dsimp only
  split <;> rfl

theorem reportSymbols_recvOffset (payload : Bytes) : ∀ (symbols : List UINT16) (c : TwccCursor),
    (reportSymbols payload symbols c).recvOffset = c.recvOffset + deltaSizes symbols
  | [], _ => rfl
  | s :: symbols, c => by
    show (reportSymbols payload symbols (reportPacket payload s c)).recvOffset = _
    rw [reportSymbols_recvOffset payload symbols, reportPacket_recvOffset, deltaSizes_cons]
    omega

theorem reportSymbols_packetSeqNum (payload : Bytes) : ∀ (symbols : List UINT16) (c : TwccCursor),
    (reportSymbols payload symbols c).packetSeqNum =
      c.packetSeqNum + BitVec.ofNat 16 symbols.length
  | [], c => by simp [reportSymbols]
  | s :: symbols, c => by
    show (reportSymbols payload symbols (reportPacket payload s c)).packetSeqNum = _
    rw [reportSymbols_packetSeqNum payload symbols, reportPacket_packetSeqNum, List.length_cons,
      BitVec.ofNat_add, BitVec.add_assoc, BitVec.add_comm (BitVec.ofNat 16 symbols.length)]
    rfl

/-- The numbers that get a status, when the deltas start at `r` and the numbers at `seq`. -/
def assignedFrom (payload : Bytes) : Nat → UINT16 → List UINT16 → List UINT16
  | _, _, [] => []
  | r, seq, s :: symbols =>
    (if assigns payload s r then [seq] else []) ++
      assignedFrom payload (r + deltaSize s) (seq + 1) symbols

theorem assignedFrom_append (payload : Bytes) : ∀ (xs ys : List UINT16) (r : Nat) (seq : UINT16),
    assignedFrom payload r seq (xs ++ ys) = assignedFrom payload r seq xs ++
      assignedFrom payload (r + deltaSizes xs) (seq + BitVec.ofNat 16 xs.length) ys
  | [], ys, r, seq => by simp [assignedFrom]
  | s :: xs, ys, r, seq => by
    rw [List.cons_append, assignedFrom, assignedFrom, assignedFrom_append payload xs ys,
      List.append_assoc, deltaSizes_cons, List.length_cons, BitVec.ofNat_add, Nat.add_assoc,
      BitVec.add_assoc, BitVec.add_comm (1 : UINT16)]
    rfl

theorem mem_assignedFrom (payload : Bytes) {x : UINT16} : ∀ (symbols : List UINT16) (r : Nat)
    (seq : UINT16), x ∈ assignedFrom payload r seq symbols ↔
      ∃ i, ∃ s, symbols[i]? = some s ∧ x = seq + BitVec.ofNat 16 i ∧
        assigns payload s (r + deltaSizes (symbols.take i)) = true
  | [], r, seq => by simp [assignedFrom]
  | s :: symbols, r, seq => by
    rw [assignedFrom, List.mem_append, mem_assignedFrom payload symbols]
    constructor
    · rintro (h | ⟨i, s', hs', rfl, ha⟩)
      · split at h
        · rename_i ha
          rw [List.mem_singleton] at h
          exact ⟨0, s, rfl, by simp [h], by simpa using ha⟩
        · cases h
      · refine ⟨i + 1, s', hs', ?_, ?_⟩
        · rw [BitVec.ofNat_add, BitVec.add_assoc, BitVec.add_comm (1 : UINT16)]
          rfl
        · rw [List.take_succ_cons, deltaSizes_cons, ← Nat.add_assoc]
          exact ha
    · rintro ⟨i, s', hs', rfl, ha⟩
      cases i with
      | zero =>
        left
        obtain rfl : s = s' := by simpa using hs'
        have ha : assigns payload s r = true := by simpa using ha
        rw [if_pos ha]
        simp
      | succ i =>
        right
        refine ⟨i, s', hs', ?_, ?_⟩
        · rw [BitVec.ofNat_add, BitVec.add_assoc, BitVec.add_comm (1 : UINT16)]
          rfl
        · rw [List.take_succ_cons, deltaSizes_cons, ← Nat.add_assoc] at ha
          exact ha

theorem walkSymbols_trace (payload : Bytes) : ∀ (symbols : List UINT16) (w : TwccWalk),
    (walkSymbols payload symbols w).reads =
        w.reads ++ List.range' w.cursor.recvOffset (deltaSizes symbols) ∧
      (walkSymbols payload symbols w).assigned =
        w.assigned ++ assignedFrom payload w.cursor.recvOffset w.cursor.packetSeqNum symbols
  | [], w => by simp [walkSymbols, assignedFrom]
  | s :: symbols, w => by
    obtain ⟨hreads, hassigned⟩ := walkSymbols_trace payload symbols (walkPacket payload w s)
    constructor
    · show (walkSymbols payload symbols (walkPacket payload w s)).reads = _
      rw [hreads]
      show (w.reads ++ List.range' w.cursor.recvOffset (deltaSize s)) ++
        List.range' (reportPacket payload s w.cursor).recvOffset (deltaSizes symbols) = _
      rw [reportPacket_recvOffset, List.append_assoc, deltaSizes_cons, List.range'_append_1]
    · show (walkSymbols payload symbols (walkPacket payload w s)).assigned = _
      rw [hassigned]
      show (w.assigned ++ if assigns payload s w.cursor.recvOffset then
        [w.cursor.packetSeqNum] else []) ++ assignedFrom payload
          (reportPacket payload s w.cursor).recvOffset
          (reportPacket payload s w.cursor).packetSeqNum symbols = _
      rw [reportPacket_recvOffset, reportPacket_packetSeqNum, List.append_assoc]
      rfl

/-! ## Chunks inside the payload -/

/-- The symbols of the chunks up to the announced count and the offset behind them, when all of these
chunks lie inside the payload. -/
def twccStatuses (payload : Bytes) (payloadLength : Nat) :
    Nat → Nat → Nat → Option (List UINT16 × Nat)
  | _, 0, off => some ([], off)
  | 0, _ + 1, _ => none
  | fuel + 1, remaining + 1, off =>
    if off + TWCC_FB_PACKETCHUNK_SIZE ≤ payloadLength then
      let symbols := chunkSymbols (getUnalignedInt16BigEndian payload off) (remaining + 1)
      (twccStatuses payload payloadLength fuel (remaining + 1 - symbols.length)
        (off + TWCC_FB_PACKETCHUNK_SIZE)).map fun r => (symbols ++ r.1, r.2)
    else none

theorem twccStatuses_succ {payload : Bytes} {payloadLength fuel remaining off recvOffset : Nat}
    {symbols : List UINT16}
    (h : twccStatuses payload payloadLength (fuel + 1) (remaining + 1) off =
      some (symbols, recvOffset)) :
    off + TWCC_FB_PACKETCHUNK_SIZE ≤ payloadLength ∧ ∃ rest,
      symbols = chunkSymbols (getUnalignedInt16BigEndian payload off) (remaining + 1) ++ rest ∧
      twccStatuses payload payloadLength fuel (remaining + 1 -
        (chunkSymbols (getUnalignedInt16BigEndian payload off) (remaining + 1)).length)
        (off + TWCC_FB_PACKETCHUNK_SIZE) = some (rest, recvOffset) := by
  rw [twccStatuses] at h
  split at h
  · rename_i hin
    refine ⟨hin, ?_⟩
    obtain ⟨⟨rest, r⟩, hrest, heq⟩ := Option.map_eq_some_iff.mp h
    cases heq
    exact ⟨rest, rfl, hrest⟩
  · cases h

theorem twccStatuses_length {payload : Bytes} {payloadLength : Nat} :
    ∀ (fuel remaining off : Nat) {symbols : List UINT16} {recvOffset : Nat},
      twccStatuses payload payloadLength fuel remaining off = some (symbols, recvOffset) →
      remaining ≤ symbols.length ∧ symbols.length ≤ remaining + 8190 ∧ off ≤ recvOffset ∧
        (remaining ≠ 0 → recvOffset ≤ payloadLength)
  | fuel, 0, off, symbols, recvOffset, h => by
    rw [twccStatuses] at h
    cases h
    exact ⟨Nat.zero_le _, Nat.zero_le _, Nat.le_refl _, fun h => absurd rfl h⟩
  | 0, remaining + 1, off, symbols, recvOffset, h => by
    rw [twccStatuses] at h
    cases h
  | fuel + 1, remaining + 1, off, symbols, recvOffset, h => by
    obtain ⟨hin, rest, rfl, hrest⟩ := twccStatuses_succ h
    have hle := length_chunkSymbols_le (getUnalignedInt16BigEndian payload off) (remaining + 1)
    have ih := twccStatuses_length fuel _ _ hrest
    rw [List.length_append]
    unfold TWCC_FB_PACKETCHUNK_SIZE at *
    by_cases hlast : remaining + 1 -
        (chunkSymbols (getUnalignedInt16BigEndian payload off) (remaining + 1)).length = 0
    · rw [hlast] at hrest ih
      have hnil : rest = [] ∧ recvOffset = off + 2 := by
        cases fuel <;> rw [twccStatuses] at hrest <;> cases hrest <;> exact ⟨rfl, rfl⟩
      rw [hnil.1, hnil.2, List.length_nil]
      omega
    · have := ih.2.2.2 hlast
      omega

theorem findDeltas_of_statuses {payload : Bytes} {payloadLength : Nat} :
    ∀ (fuel : Nat) (remaining : Int) (off : Nat) {symbols : List UINT16} {recvOffset : Nat},
      twccStatuses payload payloadLength fuel remaining.toNat off = some (symbols, recvOffset) →
      findDeltas payload payloadLength fuel remaining off = recvOffset ∧
        ∀ r ∈ findDeltasReads payload payloadLength fuel remaining off, r < payloadLength
  | 0, remaining, off, symbols, recvOffset, h => by
    cases hr : remaining.toNat with
    | zero =>
      rw [hr, twccStatuses] at h
      cases h
      exact ⟨rfl, fun r hr => by cases hr⟩
    | succ n =>
      rw [hr, twccStatuses] at h
      cases h
  | fuel + 1, remaining, off, symbols, recvOffset, h => by
    cases hr : remaining.toNat with
    | zero =>
      have hdone : ¬ (0 < remaining ∧ off < payloadLength) := by omega
      rw [hr, twccStatuses] at h
      cases h
      rw [findDeltas, if_neg hdone, findDeltasReads, if_neg hdone]
      exact ⟨rfl, fun r hr => by cases hr⟩
    | succ n =>
      rw [hr] at h
      obtain ⟨hin, rest, rfl, hrest⟩ := twccStatuses_succ h
      have hinside : off + 2 ≤ payloadLength := hin
      have hgo : 0 < remaining ∧ off < payloadLength := by omega
      have hnext : ∀ k : Nat, (remaining - (k : Int)).toNat = n + 1 - k := by omega
      rw [← hnext, ← hr] at hrest
      obtain ⟨hfind, hreads⟩ := findDeltas_of_statuses fuel _ _ hrest
      rw [findDeltas, if_pos hgo, findDeltasReads, if_pos hgo]
      dsimp only
      constructor
      · rw [← hfind]
        congr 1
        unfold chunkSymbols
        split
        · rw [List.length_replicate]
        · rw [List.length_map, List.length_range]
          omega
      · intro r hmem
        rcases List.mem_cons.mp hmem with rfl | hmem
        · omega
        · rcases List.mem_cons.mp hmem with rfl | hmem
          · omega
          · exact hreads r hmem

theorem walkChunks_end {payload : Bytes} {off : Nat} {w : TwccWalk} :
    w.cursor = reportSymbols payload [] w.cursor ∧
      (∀ r, r ∈ w.reads ↔ r ∈ w.reads ∨ (off ≤ r ∧ r < off) ∨
        (w.cursor.recvOffset ≤ r ∧ r < w.cursor.recvOffset + deltaSizes [])) ∧
      w.assigned = w.assigned ++
        assignedFrom payload w.cursor.recvOffset w.cursor.packetSeqNum [] := by
  refine ⟨rfl, fun r => ?_, by simp [assignedFrom]⟩
  have hdeltas : ¬ (w.cursor.recvOffset ≤ r ∧ r < w.cursor.recvOffset + deltaSizes []) := by
    rw [deltaSizes_nil]
    omega
  have hoff : ¬ (off ≤ r ∧ r < off) := by omega
  tauto

theorem walkChunks_of_statuses {payload : Bytes} {payloadLength : Nat} :
    ∀ (fuel : Nat) (remaining : Int) (off : Nat) (w : TwccWalk) {symbols : List UINT16}
      {recvOffset : Nat},
      twccStatuses payload payloadLength fuel remaining.toNat off = some (symbols, recvOffset) →
      ∃ w', walkChunks payload fuel remaining off w = some w' ∧
        w'.cursor = reportSymbols payload symbols w.cursor ∧
        (∀ r, r ∈ w'.reads ↔ r ∈ w.reads ∨ (off ≤ r ∧ r < recvOffset) ∨
          (w.cursor.recvOffset ≤ r ∧ r < w.cursor.recvOffset + deltaSizes symbols)) ∧
        w'.assigned = w.assigned ++
          assignedFrom payload w.cursor.recvOffset w.cursor.packetSeqNum symbols
  | 0, remaining, off, w, symbols, recvOffset, h => by
    cases hr : remaining.toNat with
    | zero =>
      rw [hr, twccStatuses] at h
      cases h
      exact ⟨w, by rw [walkChunks, if_neg (by omega)], walkChunks_end⟩
    | succ n =>
      rw [hr, twccStatuses] at h
      cases h
  | fuel + 1, remaining, off, w, symbols, recvOffset, h => by
    cases hr : remaining.toNat with
    | zero =>
      rw [hr, twccStatuses] at h
      cases h
      exact ⟨w, by rw [walkChunks, if_neg (by omega)], walkChunks_end⟩
    | succ n =>
      rw [hr] at h
      obtain ⟨hin, rest, rfl, hrest⟩ := twccStatuses_succ h
      have hnext : ∀ k : Nat, (remaining - (k : Int)).toNat = n + 1 - k := by omega
      rw [← hnext, ← hr] at hrest
      rw [walkChunks, if_pos (by omega), ← hr]
      have hoff := (twccStatuses_length _ _ _ hrest).2.2.1
      generalize chunkSymbols (getUnalignedInt16BigEndian payload off) remaining.toNat = here at *
      obtain ⟨hreads, hassigned⟩ := walkSymbols_trace payload here
        { w with reads := w.reads ++ [off, off + 1] }
      have hcursor := walkSymbols_cursor payload here { w with reads := w.reads ++ [off, off + 1] }
      obtain ⟨w', hwalk, hc, hr', ha⟩ := walkChunks_of_statuses fuel _ _
        (walkSymbols payload here { w with reads := w.reads ++ [off, off + 1] }) hrest
      rw [hcursor] at hc hr' ha
      rw [reportSymbols_recvOffset] at hr' ha
      rw [reportSymbols_packetSeqNum] at ha
      refine ⟨w', hwalk, ?_, fun r => ?_, ?_⟩
      · rw [hc]
        unfold reportSymbols
        rw [List.foldl_append]
      · rw [hr', hreads, deltaSizes_append]
        simp only [List.mem_append, List.mem_cons, List.not_mem_nil, or_false,
          List.mem_range'_1]
        unfold TWCC_FB_PACKETCHUNK_SIZE at *
        by_cases hold : r ∈ w.reads
        · simp only [hold, true_or]
        · simp only [hold, false_or]
          omega
      · rw [ha, hassigned, assignedFrom_append, List.append_assoc]

/-! ## Chunks that leave the payload -/

theorem walkSymbols_reads_mono (payload : Bytes) (symbols : List UINT16) (w : TwccWalk) {r : Nat}
    (h : r ∈ w.reads) : r ∈ (walkSymbols payload symbols w).reads := by
  rw [(walkSymbols_trace payload symbols w).1]
  exact List.mem_append_left _ h

theorem walkChunks_reads_mono {payload : Bytes} {r : Nat} : ∀ (fuel : Nat) (remaining : Int)
    (off : Nat) {w w' : TwccWalk}, walkChunks payload fuel remaining off w = some w' →
      r ∈ w.reads → r ∈ w'.reads
  | 0, remaining, off, w, w', h, hr => by
    rw [walkChunks] at h
    split at h
    · cases h
    · cases h
      exact hr
  | fuel + 1, remaining, off, w, w', h, hr => by
    rw [walkChunks] at h
    split at h
    · exact walkChunks_reads_mono fuel _ _ h
        (walkSymbols_reads_mono _ _ _ (List.mem_append_left _ hr))
    · cases h
      exact hr

/-- A walk that needs a chunk behind the payload reads there, if it ends at all. -/
theorem walkChunks_leaves {payload : Bytes} {payloadLength : Nat} :
    ∀ (fuel' fuel : Nat) (remaining : Int) (off : Nat) {w w' : TwccWalk},
      twccStatuses payload payloadLength fuel remaining.toNat off = none →
      payloadLength ≤ off + 2 * fuel →
      walkChunks payload fuel' remaining off w = some w' → ∃ r ∈ w'.reads, payloadLength ≤ r
  | fuel', fuel, remaining, off, w, w', hnone, hfuel, h => by
    have hpos : 0 < remaining := by
      by_contra hle
      rw [show remaining.toNat = 0 by omega, twccStatuses] at hnone
      cases hnone
    cases fuel' with
    | zero =>
      rw [walkChunks, if_pos hpos] at h
      cases h
    | succ fuel' =>
      rw [walkChunks, if_pos hpos] at h
      by_cases hin : off + TWCC_FB_PACKETCHUNK_SIZE ≤ payloadLength
      · cases fuel with
        | zero =>
          unfold TWCC_FB_PACKETCHUNK_SIZE at hin
          omega
        | succ fuel =>
          obtain ⟨n, hn⟩ : ∃ n, remaining.toNat = n + 1 := ⟨remaining.toNat - 1, by omega⟩
          have hnext : ∀ k : Nat, (remaining - (k : Int)).toNat = n + 1 - k := by omega
          rw [hn, twccStatuses, if_pos hin, Option.map_eq_none_iff, ← hnext, ← hn] at hnone
          refine walkChunks_leaves fuel' fuel _ _ hnone ?_ h
          unfold TWCC_FB_PACKETCHUNK_SIZE
          omega
      · refine ⟨off + 1, ?_, ?_⟩
        · exact walkChunks_reads_mono fuel' _ _ h
            (walkSymbols_reads_mono _ _ _ (by simp))
        · unfold TWCC_FB_PACKETCHUNK_SIZE at hin
          omega

theorem walkChunks_succ {payload : Bytes} : ∀ (fuel : Nat) (remaining : Int) (off : Nat)
    {w w' : TwccWalk}, walkChunks payload fuel remaining off w = some w' →
      walkChunks payload (fuel + 1) remaining off w = some w'
  | 0, remaining, off, w, w', h => by
    rw [walkChunks] at h
    split at h
    · cases h
    · rename_i hdone
      rw [walkChunks, if_neg hdone]
      exact h
  | fuel + 1, remaining, off, w, w', h => by
    rw [walkChunks] at h ⊢
    split at h
    · rename_i hpos
      rw [if_pos hpos]
      exact walkChunks_succ fuel _ _ h
    · rename_i hdone
      rw [if_neg hdone]
      exact h

theorem walkChunks_le {payload : Bytes} {remaining : Int} {off : Nat} {w w' : TwccWalk}
    {fuel fuel' : Nat} (hle : fuel ≤ fuel')
    (h : walkChunks payload fuel remaining off w = some w') :
    walkChunks payload fuel' remaining off w = some w' := by
  induction hle with
  | refl => exact h
  | step _ ih => exact walkChunks_succ _ _ _ ih

theorem walkChunks_unique {payload : Bytes} {remaining : Int} {off : Nat} {w w₁ w₂ : TwccWalk}
    {fuel₁ fuel₂ : Nat} (h₁ : walkChunks payload fuel₁ remaining off w = some w₁)
    (h₂ : walkChunks payload fuel₂ remaining off w = some w₂) : w₁ = w₂ := by
  have h₁ := walkChunks_le (Nat.le_max_left fuel₁ fuel₂) h₁
  have h₂ := walkChunks_le (Nat.le_max_right fuel₁ fuel₂) h₂
  rw [h₁] at h₂
  exact Option.some.inj h₂

/-! ## Safety -/

/-- The parser returns, reads inside the payload only, and reports numbers of the announced range
only. -/
def TwccParsedSafely (p : RtcpPacket) (t : TwccManager) : Prop :=
  ∃ fuel w, walkRtcpTwccPacket p t fuel = some w ∧ (∀ r ∈ w.reads, r < p.payloadLength) ∧
    ∀ s ∈ w.assigned, Serial.ahead (twccBaseSeqNum p) s < twccStatusCount p

/-- Header, chunks and deltas inside the payload, and nothing reported behind the count.  The last
chunk may be a run that exceeds the count only when its symbols there assign no status. -/
structure TwccWellFormed (p : RtcpPacket) (symbols : List UINT16) (recvOffset : Nat) : Prop where
  header : 15 ≤ p.payloadLength
  chunks : twccStatuses p.payload p.payloadLength p.payloadLength (twccStatusCount p) 16 =
    some (symbols, recvOffset)
  deltas : deltaSizes symbols = 0 ∨ recvOffset + deltaSizes symbols ≤ p.payloadLength
  overrun : ∀ i s, symbols[i]? = some s → twccStatusCount p ≤ i → i < 65536 →
    assigns p.payload s (recvOffset + deltaSizes (symbols.take i)) = false

theorem twccStatusCount_lt (p : RtcpPacket) : twccStatusCount p < 65536 :=
  (getUnalignedInt16BigEndian p.payload 10).isLt

theorem walkRtcpTwccPacket_of_statuses {p : RtcpPacket} (t : TwccManager) {symbols : List UINT16}
    {recvOffset : Nat}
    (h : twccStatuses p.payload p.payloadLength p.payloadLength (twccStatusCount p) 16 =
      some (symbols, recvOffset)) :
    ∃ w, walkRtcpTwccPacket p t p.payloadLength = some w ∧
      w.cursor = reportSymbols p.payload symbols { twccStart p t with recvOffset := recvOffset } ∧
      (∀ r, r ∈ w.reads ↔ (8 ≤ r ∧ r < 15) ∨
        r ∈ findDeltasReads p.payload p.payloadLength p.payloadLength (twccStatusCount p) 16 ∨
        (16 ≤ r ∧ r < recvOffset) ∨
        (recvOffset ≤ r ∧ r < recvOffset + deltaSizes symbols)) ∧
      w.assigned = assignedFrom p.payload recvOffset (twccBaseSeqNum p) symbols ∧
      (∀ r ∈ findDeltasReads p.payload p.payloadLength p.payloadLength (twccStatusCount p) 16,
        r < p.payloadLength) := by
  have hfirst := findDeltas_of_statuses p.payloadLength (twccStatusCount p : Int) 16 h
  obtain ⟨w, hwalk, hcursor, hreads, hassigned⟩ :=
    walkChunks_of_statuses p.payloadLength (twccStatusCount p : Int) 16 {
      cursor := twccStart p t
      reads := List.range' 8 7 ++
        findDeltasReads p.payload p.payloadLength p.payloadLength (twccStatusCount p) 16
      assigned := [] } h
  have hstart : (twccStart p t).recvOffset = recvOffset := hfirst.1
  rw [hstart] at hreads hassigned
  refine ⟨w, hwalk, ?_, fun r => ?_, hassigned, hfirst.2⟩
  · rw [hcursor, ← hstart]
  · rw [hreads, List.mem_append, List.mem_range'_1, or_assoc]

/-- A payload that ends before its chunks do is never parsed safely. -/
theorem not_twccParsedSafely {p : RtcpPacket} {t : TwccManager}
    (h : twccStatuses p.payload p.payloadLength p.payloadLength (twccStatusCount p) 16 = none) :
    ¬ TwccParsedSafely p t := by
  rintro ⟨fuel, w, hwalk, hreads, -⟩
  obtain ⟨r, hr, hout⟩ := walkChunks_leaves fuel p.payloadLength (twccStatusCount p : Int) 16 h
    (by omega) hwalk
  have := hreads r hr
  omega

/-- **The parser is safe exactly on the well-formed payloads.** -/
theorem twcc_parsed_safely_iff (p : RtcpPacket) (t : TwccManager) :
    TwccParsedSafely p t ↔ ∃ symbols recvOffset, TwccWellFormed p symbols recvOffset := by
  have hcount := twccStatusCount_lt p
  constructor
  · intro hsafe
    cases hstat : twccStatuses p.payload p.payloadLength p.payloadLength (twccStatusCount p) 16 with
    | none => exact absurd hsafe (not_twccParsedSafely hstat)
    | some stat =>
      obtain ⟨fuel, w, hwalk, hreads, hassigned⟩ := hsafe
      obtain ⟨symbols, recvOffset⟩ := stat
      obtain ⟨w', hwalk', -, hreads', hassigned', -⟩ := walkRtcpTwccPacket_of_statuses t hstat
      obtain rfl := walkChunks_unique hwalk hwalk'
      refine ⟨symbols, recvOffset, ?_, hstat, ?_, ?_⟩
      · have := hreads 14 ((hreads' 14).mpr (.inl (by omega)))
        omega
      · by_cases hzero : deltaSizes symbols = 0
        · exact .inl hzero
        · right
          have := hreads (recvOffset + deltaSizes symbols - 1)
            ((hreads' _).mpr (.inr (.inr (.inr (by omega)))))
          omega
      · intro i s hs hi hlt
        by_contra hassigns
        have hmem : twccBaseSeqNum p + BitVec.ofNat 16 i ∈ w.assigned := by
          rw [hassigned', mem_assignedFrom]
          exact ⟨i, s, hs, rfl, by simpa using hassigns⟩
        have := hassigned _ hmem
        rw [Serial.ahead_add_ofNat] at this
        omega
  · rintro ⟨symbols, recvOffset, h⟩
    have hlen := twccStatuses_length _ _ _ h.chunks
    obtain ⟨w, hwalk, -, hreads, hassigned, hfirst⟩ := walkRtcpTwccPacket_of_statuses t h.chunks
    refine ⟨p.payloadLength, w, hwalk, fun r hr => ?_, fun x hx => ?_⟩
    · have hheader := h.header
      rcases (hreads r).mp hr with hr | hr | hr | hr
      · omega
      · exact hfirst r hr
      · by_cases hzero : twccStatusCount p = 0
        · have hchunks := h.chunks
          rw [hzero] at hchunks
          cases hp : p.payloadLength <;> rw [hp, twccStatuses] at hchunks <;> cases hchunks <;> omega
        · have := hlen.2.2.2 hzero
          omega
      · rcases h.deltas with hd | hd <;> omega
    · rw [hassigned, mem_assignedFrom] at hx
      obtain ⟨i, s, hs, rfl, hassigns⟩ := hx
      obtain ⟨hi, -⟩ := List.getElem?_eq_some_iff.mp hs
      rw [Serial.ahead_add_ofNat]
      by_cases hwrap : i < 65536
      · by_cases hover : twccStatusCount p ≤ i
        · rw [h.overrun i s hs hover hwrap] at hassigns
          cases hassigns
        · omega
      · omega

/-- A feedback that announces one packet and ends behind its header. -/
def sampleBareTwcc : Bytes :=
  [0x8F, 205, 0, 4, 0, 0, 0, 1, 0, 0, 0, 2, 0, 0, 0, 1, 0, 0, 0, 0]

/-- The chunk of the announced packet is looked for behind the payload. -/
theorem bare_twcc_read_behind_payload :
    ∃ p, setRtcpPacketFromBytes sampleBareTwcc = .ok p ∧ ∀ t, ¬ TwccParsedSafely p t := by
  refine ⟨_, rfl, ?_⟩
  intro t
  apply not_twccParsedSafely
  decide +kernel

end KvsWebrtc.Rtcp
