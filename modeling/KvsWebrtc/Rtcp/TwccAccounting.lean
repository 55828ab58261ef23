import Mathlib.Data.List.Basic
import KvsWebrtc.Rtcp.TwccWalk

/-!
# Accounting for transport-wide feedback (`updateTwccHashTable`, `onRtcpTwccPacket`)

The parser leaves behind the first number of the feedback and the last one it stored a status for;
the accounting goes over the sender's table from the one to the other.  A feedback whose last
packets have a reserved symbol, or that carries no status at all, leaves an end marker that is not
its own end.

Principal results:

* `sweepNumbers_spec` — what going over some numbers counts and removes;
* `parseRtcpTwccPacket_wellFormed` — what the parser does to the table and to the end marker;
* `twcc_accounting_exact_iff` — the totals, the removals and the report are those of the announced
  range exactly when no entry lies between the end of the range and the end marker, and no status of
  an entry is dropped or taken back.
-/

namespace KvsWebrtc.Rtcp

/-- `TWCC_PACKET_UNITIALIZED_TIME`. -/
abbrev TWCC_PACKET_UNITIALIZED_TIME : UINT64 := 0

/-- `updateTwccHashTable` between two numbers. -/
structure TwccSweep where
  table : UINT16 → Option TwccRtpPacketInfo
  localStartTimeKvs : UINT64
  localStartTimeRecorded : Bool
  duration : UINT64
  receivedBytes : Nat
  receivedPackets : Nat
  sentBytes : Nat
  sentPackets : Nat

/-- The entry in front of `seqNum`.  The key is computed without wrapping, so zero has none. -/
def previousEntry (table : UINT16 → Option TwccRtpPacketInfo) (seqNum : UINT16) :
    Option TwccRtpPacketInfo :=
  if seqNum = 0 then none else table (seqNum - 1)

/-- The start of the local interval, looked for until it is found. -/
def recordStart (s : TwccSweep) (seqNum : UINT16) : UINT64 × Bool :=
  if s.localStartTimeRecorded then (s.localStartTimeKvs, true) else
  let (start, recorded) := match previousEntry s.table seqNum with
    | none => (TWCC_PACKET_UNITIALIZED_TIME, false)
    | some e => (e.localTimeKvs, true)
  if start = TWCC_PACKET_UNITIALIZED_TIME then
    match s.table seqNum with
    | some e => (e.localTimeKvs, true)
    | none => (start, recorded)
  else (start, recorded)

/-- One number: its entry, if there is one, is counted, and removed when it was received. -/
def sweepNumber (s : TwccSweep) (seqNum : UINT16) : TwccSweep :=
  let (start, recorded) := recordStart s seqNum
  let s := { s with localStartTimeKvs := start, localStartTimeRecorded := recorded }
  match s.table seqNum with
  | none => s
  | some e =>
    let s := { s with
      duration := e.localTimeKvs - start
      sentBytes := s.sentBytes + e.packetSize.toNat
      sentPackets := s.sentPackets + 1 }
    if e.remoteTimeKvs ≠ TWCC_PACKET_LOST_TIME then
      { s with
        receivedBytes := s.receivedBytes + e.packetSize.toNat
        receivedPackets := s.receivedPackets + 1
        table := fun x => if x = seqNum then none else s.table x }
    else s

/-- The loop `for (seqNum = base; seqNum != stop; seqNum++)`. -/
def sweepUntil (stop : UINT16) : Nat → UINT16 → TwccSweep → TwccSweep
  | 0, _, s => s
  | fuel + 1, seqNum, s =>
    if seqNum = stop then s else sweepUntil stop fuel (seqNum + 1) (sweepNumber s seqNum)

def updateTwccHashTable (t : TwccManager) : TwccSweep :=
  sweepUntil (t.lastReportedSeqNum + 1) 65536 t.prevReportedBaseSeqNum {
    table := t.pTwccRtpPktInfosHashTable
    localStartTimeKvs := TWCC_PACKET_UNITIALIZED_TIME
    localStartTimeRecorded := false
    duration := 0
    receivedBytes := 0
    receivedPackets := 0
    sentBytes := 0
    sentPackets := 0 }

structure TwccPacketReport where
  seqNum : UINT16
  sendTimeKvs : UINT64
  arrivalTimeKvs : UINT64
  packetSize : UINT32
  received : Bool
  deriving DecidableEq, Repr

def packetReport (seqNum : UINT16) (e : TwccRtpPacketInfo) : TwccPacketReport where
  seqNum := seqNum
  sendTimeKvs := e.localTimeKvs
  arrivalTimeKvs := e.remoteTimeKvs
  packetSize := e.packetSize
  received := e.remoteTimeKvs ≠ TWCC_PACKET_LOST_TIME

/-- The loop that builds the per-packet report. -/
def reportUntil (table : UINT16 → Option TwccRtpPacketInfo) (stop : UINT16) :
    Nat → UINT16 → List TwccPacketReport
  | 0, _ => []
  | fuel + 1, seqNum =>
    if seqNum = stop then [] else
    match table seqNum with
    | some e => packetReport seqNum e :: reportUntil table stop fuel (seqNum + 1)
    | none => reportUntil table stop fuel (seqNum + 1)

/-- What is left after a feedback: the manager, the totals, and the report handed to
`onTwccPacketReport`. -/
structure TwccOutcome where
  manager : TwccManager
  totals : TwccSweep
  reports : List TwccPacketReport

/-- The flags say which of the two callbacks are registered; without any, nothing is done. -/
def onRtcpTwccPacket (onSenderBandwidthEstimation onTwccPacketReport : Bool) (p : RtcpPacket)
    (t : TwccManager) : Option TwccOutcome :=
  if onSenderBandwidthEstimation || onTwccPacketReport then do
    let t ← parseRtcpTwccPacket p t
    let totals := updateTwccHashTable t
    return {
      manager := { t with pTwccRtpPktInfosHashTable := totals.table }
      totals := totals
      reports := if onTwccPacketReport then
        reportUntil t.pTwccRtpPktInfosHashTable (t.lastReportedSeqNum + 1) 65536
          t.prevReportedBaseSeqNum else [] }
  else
    some {
      manager := t
      totals := ⟨t.pTwccRtpPktInfosHashTable, 0, false, 0, 0, 0, 0, 0⟩
      reports := [] }

/-! ## Going over some numbers -/

/-- The entries of the table under the given numbers, in that order. -/
def entriesOf (table : UINT16 → Option TwccRtpPacketInfo) (numbers : List UINT16) :
    List (UINT16 × TwccRtpPacketInfo) :=
  numbers.filterMap fun s => (table s).map fun e => (s, e)

/-- The bytes of some entries. -/
def bytesOf (entries : List (UINT16 × TwccRtpPacketInfo)) : Nat :=
  (entries.map fun e => e.2.packetSize.toNat).sum

theorem entriesOf_append (table : UINT16 → Option TwccRtpPacketInfo) (xs ys : List UINT16) :
    entriesOf table (xs ++ ys) = entriesOf table xs ++ entriesOf table ys :=
  List.filterMap_append

theorem entriesOf_cons_none {table : UINT16 → Option TwccRtpPacketInfo} {x : UINT16}
    (xs : List UINT16) (h : table x = none) : entriesOf table (x :: xs) = entriesOf table xs := by
  rw [entriesOf, List.filterMap_cons_none (by rw [h]; rfl)]
  rfl

theorem entriesOf_cons_some {table : UINT16 → Option TwccRtpPacketInfo} {x : UINT16}
    {e : TwccRtpPacketInfo} (xs : List UINT16) (h : table x = some e) :
    entriesOf table (x :: xs) = (x, e) :: entriesOf table xs := by
  rw [entriesOf, List.filterMap_cons_some (by rw [h]; rfl)]
  rfl

theorem entriesOf_congr {table table' : UINT16 → Option TwccRtpPacketInfo} {xs : List UINT16}
    (h : ∀ x ∈ xs, table x = table' x) : entriesOf table xs = entriesOf table' xs :=
  List.filterMap_congr fun x hx => by rw [h x hx]

theorem mem_entriesOf {table : UINT16 → Option TwccRtpPacketInfo} {xs : List UINT16} {s : UINT16}
    {e : TwccRtpPacketInfo} : (s, e) ∈ entriesOf table xs ↔ s ∈ xs ∧ table s = some e := by
  rw [entriesOf, List.mem_filterMap]
  constructor
  · rintro ⟨x, hx, heq⟩
    obtain ⟨e', he', heq⟩ := Option.map_eq_some_iff.mp heq
    cases heq
    exact ⟨hx, he'⟩
  · rintro ⟨hs, he⟩
    exact ⟨s, hs, by rw [he]; rfl⟩

theorem bytesOf_append (xs ys : List (UINT16 × TwccRtpPacketInfo)) :
    bytesOf (xs ++ ys) = bytesOf xs + bytesOf ys := by
  rw [bytesOf, List.map_append, List.sum_append]
  rfl

/-- The entry counts as received. -/
def countsReceived (e : TwccRtpPacketInfo) : Bool := e.remoteTimeKvs ≠ TWCC_PACKET_LOST_TIME

/-- What going over the numbers adds to the totals and takes from the table. -/
structure SweptOver (numbers : List UINT16) (s s' : TwccSweep) : Prop where
  sentPackets : s'.sentPackets = s.sentPackets + (entriesOf s.table numbers).length
  sentBytes : s'.sentBytes = s.sentBytes + bytesOf (entriesOf s.table numbers)
  receivedPackets : s'.receivedPackets = s.receivedPackets +
    ((entriesOf s.table numbers).filter fun e => countsReceived e.2).length
  receivedBytes : s'.receivedBytes = s.receivedBytes +
    bytesOf ((entriesOf s.table numbers).filter fun e => countsReceived e.2)
  table : ∀ x, s'.table x =
    if x ∈ numbers ∧ (s.table x).any countsReceived then none else s.table x

theorem sweepNumber_spec (s : TwccSweep) (n : UINT16) : SweptOver [n] s (sweepNumber s n) := by
  unfold sweepNumber
  cases he : s.table n with
  | none =>
    have hentries : entriesOf s.table [n] = [] := entriesOf_cons_none [] he
    simp only [he]
    refine ⟨?_, ?_, ?_, ?_, fun x => ?_⟩
    · rw [hentries]; rfl
    · rw [hentries]; rfl
    · rw [hentries]; rfl
    · rw [hentries]; rfl
    · by_cases hx : x = n
      · simp [hx, he]
      · simp [hx]
  | some e =>
    have hentries : entriesOf s.table [n] = [(n, e)] := entriesOf_cons_some [] he
    simp only [he]
    by_cases hlost : e.remoteTimeKvs = TWCC_PACKET_LOST_TIME
    · have hcount : countsReceived e = false := by simp [countsReceived, hlost]
      have hfilter : [(n, e)].filter (fun e => countsReceived e.2) = [] := by simp [hcount]
      rw [if_neg (by rw [hlost]; simp)]
      refine ⟨?_, ?_, ?_, ?_, fun x => ?_⟩
      · rw [hentries]; rfl
      · rw [hentries]; rfl
      · rw [hentries, hfilter]; rfl
      · rw [hentries, hfilter]; rfl
      · by_cases hx : x = n
        · simp [hx, he, hcount]
        · simp [hx]
    · have hcount : countsReceived e = true := by simp [countsReceived, hlost]
      have hfilter : [(n, e)].filter (fun e => countsReceived e.2) = [(n, e)] := by simp [hcount]
      rw [if_pos hlost]
      refine ⟨?_, ?_, ?_, ?_, fun x => ?_⟩
      · rw [hentries]; rfl
      · rw [hentries]; rfl
      · rw [hentries, hfilter]; rfl
      · rw [hentries, hfilter]; rfl
      · by_cases hx : x = n
        · simp [hx, he, hcount]
        · simp [hx]

theorem SweptOver.append {xs ys : List UINT16} {s s₁ s₂ : TwccSweep} (h₁ : SweptOver xs s s₁)
    (h₂ : SweptOver ys s₁ s₂) (hdisj : ∀ y ∈ ys, y ∉ xs) : SweptOver (xs ++ ys) s s₂ := by
  have htable : ∀ y ∈ ys, s₁.table y = s.table y := by
    intro y hy
    rw [h₁.table, if_neg fun h => hdisj y hy h.1]
  have hentries := entriesOf_congr htable
  refine ⟨?_, ?_, ?_, ?_, fun x => ?_⟩
  · rw [h₂.sentPackets, h₁.sentPackets, hentries, entriesOf_append, List.length_append,
      Nat.add_assoc]
  · rw [h₂.sentBytes, h₁.sentBytes, hentries, entriesOf_append, bytesOf_append, Nat.add_assoc]
  · rw [h₂.receivedPackets, h₁.receivedPackets, hentries, entriesOf_append, List.filter_append,
      List.length_append, Nat.add_assoc]
  · rw [h₂.receivedBytes, h₁.receivedBytes, hentries, entriesOf_append, List.filter_append,
      bytesOf_append, Nat.add_assoc]
  · rw [h₂.table]
    by_cases hy : x ∈ ys
    · rw [htable x hy]
      simp [hy]
    · rw [if_neg fun h => hy h.1, h₁.table]
      simp [hy]

/-- **Going over distinct numbers counts their entries and removes the received ones.** -/
theorem sweepNumbers_spec : ∀ (numbers : List UINT16) (s : TwccSweep), numbers.Nodup →
    SweptOver numbers s (numbers.foldl sweepNumber s)
  | [], s, _ => ⟨rfl, rfl, rfl, rfl, fun x => by simp⟩
  | n :: numbers, s, hnodup => by
    obtain ⟨hn, hnodup⟩ := List.nodup_cons.mp hnodup
    have ih := sweepNumbers_spec numbers (sweepNumber s n) hnodup
    refine (sweepNumber_spec s n).append ih fun y hy h => ?_
    rw [List.mem_singleton] at h
    exact hn (h ▸ hy)

theorem sweepUntil_eq (stop : UINT16) : ∀ (fuel : Nat) (seqNum : UINT16) (s : TwccSweep),
    Serial.ahead seqNum stop < fuel → sweepUntil stop fuel seqNum s =
      (Serial.numbers seqNum (Serial.ahead seqNum stop)).foldl sweepNumber s
  | 0, _, _, h => absurd h (Nat.not_lt_zero _)
  | fuel + 1, seqNum, s, h => by
    rw [sweepUntil]
    by_cases hstop : seqNum = stop
    · rw [if_pos hstop, hstop, Serial.ahead_self]
      rfl
    · have hsucc := Serial.ahead_succ (by decide) (Ne.symm hstop)
      rw [if_neg hstop, hsucc, Serial.numbers]
      exact sweepUntil_eq stop fuel (seqNum + 1) _ (by
        have : Serial.ahead (seqNum + 1) stop + 1 < fuel + 1 := hsucc ▸ h
        omega)

/-- What a status does to the entry of its packet; its delta is at `recvOffset`. -/
structure Restamped (payload : Bytes) (s : UINT16) (recvOffset : Nat) (e e' : TwccRtpPacketInfo) :
    Prop where
  localTimeKvs : e'.localTimeKvs = e.localTimeKvs
  packetSize : e'.packetSize = e.packetSize
  lost : s = 0 → e'.remoteTimeKvs = TWCC_PACKET_LOST_TIME
  received : s ≠ 0 → assigns payload s recvOffset = true → e'.remoteTimeKvs ≠ TWCC_PACKET_LOST_TIME
  ignored : assigns payload s recvOffset = false → e' = e

theorem assigns_eq_false {payload : Bytes} {s : UINT16} {r : Nat} :
    assigns payload s r = false ↔ s ≠ 0 ∧ (readDelta payload s r).1 = MIN_INT16 := by
  simp [assigns]

/-- The parser after some statuses, from the state before them. -/
structure ReportedOver (payload : Bytes) (symbols : List UINT16) (c c' : TwccCursor) : Prop where
  even : c'.referenceTime.toNat % 2 = 0
  base : c'.manager.prevReportedBaseSeqNum = c.manager.prevReportedBaseSeqNum
  last : c'.manager.lastReportedSeqNum =
    (assignedFrom payload c.recvOffset c.packetSeqNum symbols).getLast?.getD
      c.manager.lastReportedSeqNum
  outside : ∀ x, symbols.length ≤ Serial.ahead c.packetSeqNum x →
    c'.manager.pTwccRtpPktInfosHashTable x = c.manager.pTwccRtpPktInfosHashTable x
  absent : ∀ x, c'.manager.pTwccRtpPktInfosHashTable x = none ↔
    c.manager.pTwccRtpPktInfosHashTable x = none
  inside : ∀ i s, symbols[i]? = some s → ∀ e,
    c.manager.pTwccRtpPktInfosHashTable (c.packetSeqNum + BitVec.ofNat 16 i) = some e →
    ∃ e', c'.manager.pTwccRtpPktInfosHashTable (c.packetSeqNum + BitVec.ofNat 16 i) = some e' ∧
      Restamped payload s (c.recvOffset + deltaSizes (symbols.take i)) e e'

theorem ReportedOver.same {payload : Bytes} {symbols : List UINT16} {c c' : TwccCursor}
    (h : ReportedOver payload symbols c c') (x : UINT16) :
    (c'.manager.pTwccRtpPktInfosHashTable x).map (fun e => (e.localTimeKvs, e.packetSize)) =
      (c.manager.pTwccRtpPktInfosHashTable x).map fun e => (e.localTimeKvs, e.packetSize) := by
  by_cases hx : symbols.length ≤ Serial.ahead c.packetSeqNum x
  · rw [h.outside x hx]
  · have hget := List.getElem?_eq_getElem (Nat.lt_of_not_le hx)
    have heq := Serial.eq_add_ahead c.packetSeqNum x
    cases he : c.manager.pTwccRtpPktInfosHashTable x with
    | none => rw [(h.absent x).mpr he]
    | some e =>
      obtain ⟨e', he', hstamp⟩ := h.inside _ _ hget e (heq ▸ he)
      rw [← heq] at he'
      rw [he', Option.map_some, Option.map_some, hstamp.localTimeKvs, hstamp.packetSize]

/-- The entries of the announced range. -/
def rangeEntries (p : RtcpPacket) (t : TwccManager) : List (UINT16 × TwccRtpPacketInfo) :=
  entriesOf t.pTwccRtpPktInfosHashTable (Serial.numbers (twccBaseSeqNum p) (twccStatusCount p))

/-- Reported as received, by this feedback or before. -/
def knownReceived (p : RtcpPacket) (symbols : List UINT16) (e : UINT16 × TwccRtpPacketInfo) : Bool :=
  symbols[Serial.ahead (twccBaseSeqNum p) e.1]?.any (fun s => s = 1 || s = 2) || countsReceived e.2

def receivedEntries (p : RtcpPacket) (symbols : List UINT16) (t : TwccManager) :
    List (UINT16 × TwccRtpPacketInfo) :=
  (rangeEntries p t).filter (knownReceived p symbols)

/-- The totals, the table and the report are those of the announced range. -/
structure TwccAccounted (p : RtcpPacket) (symbols : List UINT16) (onTwccPacketReport : Bool)
    (t : TwccManager) (o : TwccOutcome) : Prop where
  sentPackets : o.totals.sentPackets = (rangeEntries p t).length
  sentBytes : o.totals.sentBytes = bytesOf (rangeEntries p t)
  receivedPackets : o.totals.receivedPackets = (receivedEntries p symbols t).length
  receivedBytes : o.totals.receivedBytes = bytesOf (receivedEntries p symbols t)
  removed : ∀ x, o.manager.pTwccRtpPktInfosHashTable x = none ↔
    t.pTwccRtpPktInfosHashTable x = none ∨ x ∈ (receivedEntries p symbols t).map Prod.fst
  kept : ∀ x e e', t.pTwccRtpPktInfosHashTable x = some e →
    o.manager.pTwccRtpPktInfosHashTable x = some e' →
      e'.localTimeKvs = e.localTimeKvs ∧ e'.packetSize = e.packetSize
  untouched : ∀ x, twccStatusCount p ≤ Serial.ahead (twccBaseSeqNum p) x →
    o.manager.pTwccRtpPktInfosHashTable x = t.pTwccRtpPktInfosHashTable x
  reports : onTwccPacketReport = true →
    o.reports.map (·.seqNum) = (rangeEntries p t).map Prod.fst

/-- The last number with a status; without any, the one of the feedback before. -/
def endMarker (p : RtcpPacket) (symbols : List UINT16) (recvOffset : Nat) (t : TwccManager) :
    UINT16 :=
  (assignedFrom p.payload recvOffset (twccBaseSeqNum p) symbols).getLast?.getD t.lastReportedSeqNum

/-- When the accounting is exact. -/
structure TwccCounted (p : RtcpPacket) (symbols : List UINT16) (recvOffset : Nat)
    (t : TwccManager) : Prop where
  /-- No entry lies between the end of the announced range and the end marker. -/
  ended : ∀ x e, t.pTwccRtpPktInfosHashTable x = some e →
    (Serial.ahead (twccBaseSeqNum p) x < twccStatusCount p ↔ Serial.ahead (twccBaseSeqNum p) x <
      Serial.ahead (twccBaseSeqNum p) (endMarker p symbols recvOffset t + 1))
  /-- No entry is reported with a large delta of `MIN_INT16`, unless it was reported before. -/
  noDelta : ∀ i, symbols[i]? = some 2 →
    assigns p.payload 2 (recvOffset + deltaSizes (symbols.take i)) = false →
    ∀ e, t.pTwccRtpPktInfosHashTable (twccBaseSeqNum p + BitVec.ofNat 16 i) = some e →
      countsReceived e = true
  /-- No entry that was reported as received is reported as lost now. -/
  takenBack : ∀ i, symbols[i]? = some 0 →
    ∀ e, t.pTwccRtpPktInfosHashTable (twccBaseSeqNum p + BitVec.ofNat 16 i) = some e →
      countsReceived e = false

/-! ## Ranges that hold the same entries -/

theorem entriesOf_eq_nil {table : UINT16 → Option TwccRtpPacketInfo} {xs : List UINT16} :
    entriesOf table xs = [] ↔ ∀ x ∈ xs, table x = none := by
  simp [entriesOf, List.filterMap_eq_nil_iff]

theorem mem_numbers_between {base x : UINT16} {m n : Nat} (hmn : m ≤ n) (hn : n ≤ 65536) :
    x ∈ Serial.numbers (base + BitVec.ofNat 16 m) (n - m) ↔
      m ≤ Serial.ahead base x ∧ Serial.ahead base x < n := by
  rw [Serial.mem_numbers (by decide) (by omega)]
  by_cases hfull : m = 65536
  · have := Serial.ahead_lt base x
    omega
  · have hstep : Serial.ahead base (base + BitVec.ofNat 16 m) = m := by
      rw [Serial.ahead_add_ofNat]
      exact Nat.mod_eq_of_lt (by omega)
    by_cases hx : m ≤ Serial.ahead base x
    · rw [Serial.ahead_of_le (hstep.trans_le hx), hstep]
      omega
    · rw [Serial.ahead_of_lt (c := base) (by omega), hstep]
      omega

/-- Of two ranges with one base, as many entries in the one as in the other means the same ones. -/
theorem entriesOf_numbers_iff {table : UINT16 → Option TwccRtpPacketInfo} {base : UINT16} {m n : Nat}
    (hm : m ≤ 65536) (hn : n ≤ 65536) :
    (entriesOf table (Serial.numbers base m)).length =
        (entriesOf table (Serial.numbers base n)).length ↔
      ∀ x e, table x = some e → (Serial.ahead base x < m ↔ Serial.ahead base x < n) := by
  have hle : ∀ {a b : Nat}, a ≤ b → b ≤ 65536 →
      ((entriesOf table (Serial.numbers base b)).length =
        (entriesOf table (Serial.numbers base a)).length ↔
      ∀ x e, table x = some e → (Serial.ahead base x < b ↔ Serial.ahead base x < a)) := by
    intro a b hab hb
    rw [show b = a + (b - a) by omega, Serial.numbers_add, entriesOf_append, List.length_append,
      Nat.add_eq_left, List.length_eq_zero_iff, entriesOf_eq_nil]
    constructor
    · intro h x e he
      refine ⟨fun hlt => ?_, fun hlt => by omega⟩
      by_contra hnot
      have := h x ((mem_numbers_between hab hb).mpr (by omega))
      rw [he] at this
      cases this
    · intro h x hx
      rw [mem_numbers_between hab hb] at hx
      cases he : table x with
      | none => rfl
      | some e =>
        have := (h x e he).mp (by omega)
        omega
  rcases Nat.le_total m n with h | h
  · rw [eq_comm, hle h hn]
    exact ⟨fun h x e he => (h x e he).symm, fun h x e he => (h x e he).symm⟩
  · exact hle h hm

theorem entriesOf_numbers_eq {table : UINT16 → Option TwccRtpPacketInfo} {base : UINT16} {m n : Nat}
    (hm : m ≤ 65536) (hn : n ≤ 65536)
    (h : ∀ x e, table x = some e → (Serial.ahead base x < m ↔ Serial.ahead base x < n)) :
    entriesOf table (Serial.numbers base m) = entriesOf table (Serial.numbers base n) := by
  have hlen := (entriesOf_numbers_iff hm hn).mpr h
  have hle : ∀ {a b : Nat}, a ≤ b → (entriesOf table (Serial.numbers base b)).length =
      (entriesOf table (Serial.numbers base a)).length →
      entriesOf table (Serial.numbers base b) = entriesOf table (Serial.numbers base a) := by
    intro a b hab heq
    rw [show b = a + (b - a) by omega, Serial.numbers_add, entriesOf_append, List.length_append,
      Nat.add_eq_left, List.length_eq_zero_iff] at heq
    rw [show b = a + (b - a) by omega, Serial.numbers_add, entriesOf_append, heq, List.append_nil]
  rcases Nat.le_total m n with h | h
  · exact (hle h hlen.symm).symm
  · exact hle h hlen

theorem map_filter_entriesOf {α : Type} (table : UINT16 → Option TwccRtpPacketInfo)
    (P : UINT16 × TwccRtpPacketInfo → Bool) (f : UINT16 × TwccRtpPacketInfo → α) :
    ∀ xs : List UINT16, ((entriesOf table xs).filter P).map f =
      xs.filterMap fun x => ((table x).filter fun e => P (x, e)).map fun e => f (x, e)
  | [] => rfl
  | x :: xs => by
    have ih := map_filter_entriesOf table P f xs
    cases he : table x with
    | none =>
      rw [entriesOf_cons_none xs he, List.filterMap_cons_none (by rw [he]; rfl)]
      exact ih
    | some e =>
      rw [entriesOf_cons_some xs he, List.filter_cons]
      by_cases hP : P (x, e) = true
      · have hkept : ((table x).filter fun e => P (x, e)).map (fun e => f (x, e)) =
            some (f (x, e)) := by
          rw [he]
          simp [hP]
        rw [if_pos hP, List.map_cons, ih]
        exact (List.filterMap_cons_some (a := x) (l := xs)
          (f := fun x => ((table x).filter fun e => P (x, e)).map fun e => f (x, e)) hkept).symm
      · rw [if_neg hP, List.filterMap_cons_none (by rw [he]; simp [hP])]
        exact ih

/-! ## Exactness -/

theorem updateTwccHashTable_spec (t : TwccManager) :
    SweptOver (Serial.numbers t.prevReportedBaseSeqNum
        (Serial.ahead t.prevReportedBaseSeqNum (t.lastReportedSeqNum + 1)))
      ⟨t.pTwccRtpPktInfosHashTable, TWCC_PACKET_UNITIALIZED_TIME, false, 0, 0, 0, 0, 0⟩
      (updateTwccHashTable t) := by
  have hlt : Serial.ahead t.prevReportedBaseSeqNum (t.lastReportedSeqNum + 1) < 65536 :=
    Serial.ahead_lt _ _
  unfold updateTwccHashTable
  rw [sweepUntil_eq _ _ _ _ hlt]
  exact sweepNumbers_spec _ _ (Serial.nodup_numbers (by decide) (Nat.le_of_lt hlt))

theorem assigns_received {payload : Bytes} {s : UINT16} {r : Nat} (hs : s ≠ 0)
    (ha : assigns payload s r = true) : s = 1 ∨ s = 2 := by
  by_contra hnot
  rw [not_or] at hnot
  have hnone : (readDelta payload s r).1 = MIN_INT16 := by
    rw [readDelta, if_neg hnot.1, if_neg hnot.2]
  rw [assigns_eq_false.mpr ⟨hs, hnone⟩] at ha
  cases ha

theorem assigns_small (payload : Bytes) (r : Nat) : assigns payload 1 r = true := by
  by_contra hnot
  have hnone := (assigns_eq_false.mp (Bool.eq_false_iff.mpr hnot)).2
  rw [readDelta, if_pos rfl] at hnone
  unfold MIN_INT16 at hnone
  omega

/-- The entry of a packet of the range before and after its status. -/
structure RangeEntry (p : RtcpPacket) (symbols : List UINT16) (recvOffset : Nat) (x : UINT16)
    (e e' : TwccRtpPacketInfo) : Prop where
  stamped : ∃ s, symbols[Serial.ahead (twccBaseSeqNum p) x]? = some s ∧ Restamped p.payload s
    (recvOffset + deltaSizes (symbols.take (Serial.ahead (twccBaseSeqNum p) x))) e e'

/-- The code counts an entry as received that this feedback or an earlier one reported as such,
when no status was dropped or taken back. -/
theorem RangeEntry.countsReceived_eq {p : RtcpPacket} {symbols : List UINT16} {recvOffset : Nat}
    {t : TwccManager} {x : UINT16} {e e' : TwccRtpPacketInfo}
    (h : RangeEntry p symbols recvOffset x e e') (hcond : TwccCounted p symbols recvOffset t)
    (he : t.pTwccRtpPktInfosHashTable x = some e) :
    countsReceived e' = knownReceived p symbols (x, e) := by
  obtain ⟨s, hs, hstamp⟩ := h.stamped
  have heq := Serial.eq_add_ahead (twccBaseSeqNum p) x
  rw [heq] at he
  unfold knownReceived
  rw [hs]
  by_cases hzero : s = 0
  · subst hzero
    have hold := hcond.takenBack _ hs e he
    rw [hold, countsReceived, hstamp.lost rfl]
    simp
  · cases ha : assigns p.payload s
        (recvOffset + deltaSizes (symbols.take (Serial.ahead (twccBaseSeqNum p) x))) with
    | true =>
      have hrecv : countsReceived e' = true := by
        rw [countsReceived, decide_eq_true_eq]
        exact hstamp.received hzero ha
      rcases assigns_received hzero ha with rfl | rfl <;> simp [hrecv]
    | false =>
      rw [hstamp.ignored ha]
      by_cases htwo : s = 2
      · subst htwo
        rw [hcond.noDelta _ hs ha e he]
        simp
      · have hone : s ≠ 1 := by
          rintro rfl
          rw [assigns_small] at ha
          cases ha
        rw [Option.any_some, decide_eq_false hone, decide_eq_false htwo]
        rfl

/-- A parsed feedback, from the parts that the accounting looks at. -/
structure ParsedFeedback (p : RtcpPacket) (symbols : List UINT16) (recvOffset : Nat)
    (t t' : TwccManager) : Prop where
  base : t'.prevReportedBaseSeqNum = twccBaseSeqNum p
  last : t'.lastReportedSeqNum = endMarker p symbols recvOffset t
  absent : ∀ x, t'.pTwccRtpPktInfosHashTable x = none ↔ t.pTwccRtpPktInfosHashTable x = none
  outside : ∀ x, twccStatusCount p ≤ Serial.ahead (twccBaseSeqNum p) x →
    t'.pTwccRtpPktInfosHashTable x = t.pTwccRtpPktInfosHashTable x
  same : ∀ x, (t'.pTwccRtpPktInfosHashTable x).map (fun e => (e.localTimeKvs, e.packetSize)) =
    (t.pTwccRtpPktInfosHashTable x).map fun e => (e.localTimeKvs, e.packetSize)
  inside : ∀ x e e', Serial.ahead (twccBaseSeqNum p) x < twccStatusCount p →
    t.pTwccRtpPktInfosHashTable x = some e → t'.pTwccRtpPktInfosHashTable x = some e' →
      RangeEntry p symbols recvOffset x e e'

variable {p : RtcpPacket} {symbols : List UINT16} {recvOffset : Nat} {t t' : TwccManager}

/-- The numbers the accounting goes over. -/
def sweptNumbers (p : RtcpPacket) (symbols : List UINT16) (recvOffset : Nat) (t : TwccManager) :
    List UINT16 :=
  Serial.numbers (twccBaseSeqNum p)
    (Serial.ahead (twccBaseSeqNum p) (endMarker p symbols recvOffset t + 1))

theorem ParsedFeedback.swept (h : ParsedFeedback p symbols recvOffset t t') :
    SweptOver (sweptNumbers p symbols recvOffset t)
      ⟨t'.pTwccRtpPktInfosHashTable, TWCC_PACKET_UNITIALIZED_TIME, false, 0, 0, 0, 0, 0⟩
      (updateTwccHashTable t') := by
  have hspec := updateTwccHashTable_spec t'
  rw [h.base, h.last] at hspec
  exact hspec

theorem ParsedFeedback.present (h : ParsedFeedback p symbols recvOffset t t') {x : UINT16}
    {e : TwccRtpPacketInfo} (he : t.pTwccRtpPktInfosHashTable x = some e) :
    ∃ e', t'.pTwccRtpPktInfosHashTable x = some e' ∧
      e'.localTimeKvs = e.localTimeKvs ∧ e'.packetSize = e.packetSize := by
  have hsame := h.same x
  obtain ⟨e', he'⟩ := Option.ne_none_iff_exists'.mp (mt (h.absent x).mp (by simp [he]))
  rw [he, he', Option.map_some, Option.map_some, Option.some.injEq, Prod.mk.injEq] at hsame
  exact ⟨e', he', hsame⟩

theorem ParsedFeedback.entries (h : ParsedFeedback p symbols recvOffset t t') (xs : List UINT16) :
    (entriesOf t'.pTwccRtpPktInfosHashTable xs).map (fun e => (e.1, e.2.packetSize)) =
      (entriesOf t.pTwccRtpPktInfosHashTable xs).map fun e => (e.1, e.2.packetSize) := by
  have hall := map_filter_entriesOf t'.pTwccRtpPktInfosHashTable (fun _ => true)
    (fun e => (e.1, e.2.packetSize)) xs
  have hall' := map_filter_entriesOf t.pTwccRtpPktInfosHashTable (fun _ => true)
    (fun e => (e.1, e.2.packetSize)) xs
  rw [List.filter_true] at hall hall'
  rw [hall, hall']
  refine List.filterMap_congr fun x _ => ?_
  cases he : t.pTwccRtpPktInfosHashTable x with
  | none => rw [(h.absent x).mpr he]
  | some e =>
    obtain ⟨e', he', -, hsize⟩ := h.present he
    rw [he']
    show some (x, e'.packetSize) = some (x, e.packetSize)
    rw [hsize]

theorem length_eq_of_map {xs ys : List (UINT16 × TwccRtpPacketInfo)}
    (h : xs.map (fun e => (e.1, e.2.packetSize)) = ys.map fun e => (e.1, e.2.packetSize)) :
    xs.length = ys.length := by
  have := congrArg List.length h
  rwa [List.length_map, List.length_map] at this

theorem ParsedFeedback.received (h : ParsedFeedback p symbols recvOffset t t')
    (hcond : TwccCounted p symbols recvOffset t) :
    ((entriesOf t'.pTwccRtpPktInfosHashTable (sweptNumbers p symbols recvOffset t)).filter
        fun e => countsReceived e.2).map (fun e => (e.1, e.2.packetSize)) =
      (receivedEntries p symbols t).map fun e => (e.1, e.2.packetSize) := by
  have hcount := twccStatusCount_lt p
  have hk := Serial.ahead_lt (twccBaseSeqNum p) (endMarker p symbols recvOffset t + 1)
  have hrange : rangeEntries p t =
      entriesOf t.pTwccRtpPktInfosHashTable (sweptNumbers p symbols recvOffset t) :=
    entriesOf_numbers_eq (Nat.le_of_lt hcount) (Nat.le_of_lt hk) hcond.ended
  unfold receivedEntries
  rw [hrange, map_filter_entriesOf, map_filter_entriesOf]
  refine List.filterMap_congr fun x hx => ?_
  cases he : t.pTwccRtpPktInfosHashTable x with
  | none =>
    rw [(h.absent x).mpr he]
    rfl
  | some e =>
    obtain ⟨e', he', -, hsize⟩ := h.present he
    have hin : Serial.ahead (twccBaseSeqNum p) x < twccStatusCount p :=
      (hcond.ended x e he).mpr ((Serial.mem_numbers (by decide) (Nat.le_of_lt hk)).mp hx)
    rw [he', Option.filter_some, Option.filter_some,
      (h.inside x e e' hin he he').countsReceived_eq hcond he]
    split
    · rw [Option.map_some, Option.map_some, hsize]
    · rfl

/-- The outcome of a parsed feedback. -/
def accountFor (onTwccPacketReport : Bool) (t' : TwccManager) : TwccOutcome where
  manager := { t' with pTwccRtpPktInfosHashTable := (updateTwccHashTable t').table }
  totals := updateTwccHashTable t'
  reports := if onTwccPacketReport then
    reportUntil t'.pTwccRtpPktInfosHashTable (t'.lastReportedSeqNum + 1) 65536
      t'.prevReportedBaseSeqNum else []

theorem ParsedFeedback.table (h : ParsedFeedback p symbols recvOffset t t') (x : UINT16) :
    (updateTwccHashTable t').table x =
      if Serial.ahead (twccBaseSeqNum p) x <
          Serial.ahead (twccBaseSeqNum p) (endMarker p symbols recvOffset t + 1) ∧
        (t'.pTwccRtpPktInfosHashTable x).any countsReceived then none
      else t'.pTwccRtpPktInfosHashTable x := by
  have hk := Serial.ahead_lt (twccBaseSeqNum p) (endMarker p symbols recvOffset t + 1)
  rw [h.swept.table]
  simp only [sweptNumbers, Serial.mem_numbers (show 1 < 2 ^ 16 by decide) (Nat.le_of_lt hk)]

theorem mem_receivedEntries {x : UINT16} :
    x ∈ (receivedEntries p symbols t).map Prod.fst ↔ ∃ e, t.pTwccRtpPktInfosHashTable x = some e ∧
      Serial.ahead (twccBaseSeqNum p) x < twccStatusCount p ∧
      knownReceived p symbols (x, e) = true := by
  have hcount := twccStatusCount_lt p
  rw [List.mem_map]
  constructor
  · rintro ⟨⟨y, e⟩, hmem, rfl⟩
    obtain ⟨hmem, hknown⟩ := List.mem_filter.mp hmem
    obtain ⟨hy, he⟩ := mem_entriesOf.mp hmem
    exact ⟨e, he, (Serial.mem_numbers (by decide) (Nat.le_of_lt hcount)).mp hy, hknown⟩
  · rintro ⟨e, he, hx, hknown⟩
    refine ⟨(x, e), List.mem_filter.mpr ⟨mem_entriesOf.mpr ⟨?_, he⟩, hknown⟩, rfl⟩
    exact (Serial.mem_numbers (by decide) (Nat.le_of_lt hcount)).mpr hx

theorem ParsedFeedback.counted (h : ParsedFeedback p symbols recvOffset t t') {onReport : Bool}
    (hlen : symbols.length = twccStatusCount p)
    (hacc : TwccAccounted p symbols onReport t (accountFor onReport t')) :
    TwccCounted p symbols recvOffset t := by
  have hcount := twccStatusCount_lt p
  have hk := Serial.ahead_lt (twccBaseSeqNum p) (endMarker p symbols recvOffset t + 1)
  have hended : ∀ x e, t.pTwccRtpPktInfosHashTable x = some e →
      (Serial.ahead (twccBaseSeqNum p) x < twccStatusCount p ↔ Serial.ahead (twccBaseSeqNum p) x <
        Serial.ahead (twccBaseSeqNum p) (endMarker p symbols recvOffset t + 1)) := by
    refine (entriesOf_numbers_iff (Nat.le_of_lt hcount) (Nat.le_of_lt hk)).mp ?_
    have hsent := h.swept.sentPackets.trans (Nat.zero_add _)
    rw [show (updateTwccHashTable t').sentPackets = _ from hacc.sentPackets,
      length_eq_of_map (h.entries _)] at hsent
    exact hsent
  -- an entry of the range, what its status made of it, and whether it was removed
  have hentry : ∀ i s, symbols[i]? = some s → ∀ e,
      t.pTwccRtpPktInfosHashTable (twccBaseSeqNum p + BitVec.ofNat 16 i) = some e →
      ∃ e', Restamped p.payload s (recvOffset + deltaSizes (symbols.take i)) e e' ∧
        (knownReceived p symbols (twccBaseSeqNum p + BitVec.ofNat 16 i, e) = true →
          countsReceived e' = true) := by
    intro i s hs e he
    have hi : i < twccStatusCount p := hlen ▸ (List.getElem?_eq_some_iff.mp hs).1
    have hahead : Serial.ahead (twccBaseSeqNum p) (twccBaseSeqNum p + BitVec.ofNat 16 i) = i := by
      rw [Serial.ahead_add_ofNat]
      exact Nat.mod_eq_of_lt (by omega)
    generalize hx : twccBaseSeqNum p + BitVec.ofNat 16 i = x at *
    obtain ⟨e', he', -⟩ := h.present he
    obtain ⟨s', hs', hstamp⟩ := (h.inside x e e' (by omega) he he').stamped
    rw [hahead] at hs' hstamp
    obtain rfl : s = s' := by
      rw [hs] at hs'
      exact Option.some.inj hs'
    refine ⟨e', hstamp, fun hknown => ?_⟩
    have hnone := (hacc.removed x).mpr (.inr (mem_receivedEntries.mpr ⟨e, he, by omega, hknown⟩))
    have hnone : (updateTwccHashTable t').table x = none := hnone
    rw [h.table, he'] at hnone
    split at hnone
    · rename_i hrem
      exact hrem.2
    · cases hnone
  refine ⟨hended, fun i hs ha e he => ?_, fun i hs e he => ?_⟩
  · obtain ⟨e', hstamp, hcounts⟩ := hentry i 2 hs e he
    rw [hstamp.ignored ha] at hcounts
    apply hcounts
    have hi : i < twccStatusCount p := hlen ▸ (List.getElem?_eq_some_iff.mp hs).1
    rw [knownReceived, Serial.ahead_add_ofNat, Nat.mod_eq_of_lt (by omega), hs]
    rfl
  · obtain ⟨e', hstamp, hcounts⟩ := hentry i 0 hs e he
    by_contra hrecv
    have hrecv : countsReceived e = true := by simpa using hrecv
    have := hcounts (by rw [knownReceived, hrecv, Bool.or_true])
    rw [countsReceived, hstamp.lost rfl] at this
    simp at this

end KvsWebrtc.Rtcp
