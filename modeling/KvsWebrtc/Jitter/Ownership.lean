import KvsWebrtc.Jitter.PushRounds

/-!
# Who owns a packet that has been pushed

Both jitter buffers take the packet: whatever the push ends with, afterwards the packet is in the
buffer or has been freed by it, once (`defaultPush_takes`, `rtPush_takes`).  An error comes from a
callback, from the depayloader or from a full frame table, and each of these is met behind the point at
which the packet is stored or freed.  So a packet is left to the caller in no case, and a caller that
frees it on an error frees it a second time.

Principal results:

* `ownership_kept_iff` — the contract that an error leaves the packet to the caller holds exactly for
  the pushes in which nothing is refused.
-/

namespace KvsWebrtc.Jitter

open Rtp

variable {b : JitterBufferInternal} {calls : List Call} {p : InboundRtpPacket}

/-! ## The packets of a table -/

/-- All sequence numbers. -/
def allNumbers : List UINT16 := Serial.numbers 0 (2 ^ 16)

theorem nodup_allNumbers : allNumbers.Nodup := Serial.nodup_numbers (by decide) le_rfl

theorem mem_allNumbers (seq : UINT16) : seq ∈ allNumbers :=
  (Serial.mem_numbers (by decide) le_rfl).mpr (Serial.ahead_lt _ _)

/-- The packets of a hash table. -/
def tablePackets (table : PacketTable) : List InboundRtpPacket := allNumbers.filterMap table

/-- The packets of `n` numbers. -/
def rangePackets (table : PacketTable) (start : UINT16) (n : Nat) : List InboundRtpPacket :=
  (Serial.numbers start n).filterMap table

theorem tablePackets_update (table : PacketTable) (seq : UINT16) (o : Option InboundRtpPacket) :
    ((table seq).toList ++ tablePackets (Function.update table seq o)).Perm
      (o.toList ++ tablePackets table) :=
  SlotTable.filterMap_update nodup_allNumbers (mem_allNumbers seq) table o

/-- **Dropping a range frees its packets.** -/
theorem tablePackets_dropRange {n : Nat} (hn : n ≤ 2 ^ 16) (start : UINT16)
    (table : PacketTable) :
    (rangePackets table start n ++ tablePackets (dropRange n start table)).Perm
      (tablePackets table) := by
  induction n generalizing start table with
  | zero =>
    have hnone : rangePackets table start 0 = [] := rfl
    rw [hnone, List.nil_append, dropRange]
  | succ n ih =>
    have hne : ∀ seq ∈ Serial.numbers (start + 1) n, seq ≠ start := by
      rintro seq hseq rfl
      exact (List.nodup_cons.mp (Serial.nodup_numbers (c := seq) (by decide) hn)).1 hseq
    have hrest : rangePackets (Function.update table start none) (start + 1) n =
        rangePackets table (start + 1) n :=
      List.filterMap_congr fun seq hseq => Function.update_of_ne (hne seq hseq) _ _
    have hclear := tablePackets_update table start none
    rw [Option.toList_none, List.nil_append] at hclear
    have hfirst : rangePackets table start (n + 1) =
        (table start).toList ++ rangePackets table (start + 1) n := by
      change List.filterMap table (start :: _) = _
      cases hs : table start with
      | none => exact List.filterMap_cons_none hs
      | some q => exact List.filterMap_cons_some hs
    rw [dropRange, hfirst, List.append_assoc, ← hrest]
    exact ((ih (by omega) (start + 1) (Function.update table start none)).append_left _).trans hclear

/-! ## What the callbacks are followed by -/

/-- The packets freed behind a call: its range, unless the callback has refused it. -/
def Call.frees (answer : Bool) (c : Call) : List InboundRtpPacket :=
  match c.event with
  | .ready start last _ =>
    if answer then rangePackets c.table start (last + 1 - start).toNat else []
  | .dropped start last _ => rangePackets c.table start (last + 1 - start).toNat

/-- The packets freed behind calls, the first of which is the `n`-th. -/
def freedBehind (answers : Nat → Bool) : Nat → List Call → List InboundRtpPacket
  | _, [] => []
  | n, c :: calls => c.frees (answers n) ++ freedBehind answers (n + 1) calls

theorem freedBehind_concat (answers : Nat → Bool) (n : Nat) (calls : List Call) (c : Call) :
    freedBehind answers n (calls ++ [c]) =
      freedBehind answers n calls ++ c.frees (answers (n + calls.length)) := by
  induction calls generalizing n with
  | nil => simp [freedBehind]
  | cons d calls ih =>
    rw [List.cons_append, freedBehind, ih, freedBehind, List.append_assoc, List.length_cons,
      Nat.add_right_comm, Nat.add_assoc]

/-- The packets of the table and those freed so far. -/
def ledger (answers : Nat → Bool) (b : JitterBufferInternal) (calls : List Call) :
    List InboundRtpPacket :=
  freedBehind answers 0 calls ++ tablePackets b.pPkgBufferHashTable

/-! ## The scan -/

section Scan

variable {depay : DepayRtpPayloadFunc} {answers : Nat → Bool} {bufferClosed : Bool}
  {earliest : UINT32} {s s' : ParseState}

def ParseState.ledger (answers : Nat → Bool) (s : ParseState) : List InboundRtpPacket :=
  Jitter.ledger answers s.buffer s.calls

theorem windowed_le (start last : UINT16) : (last + 1 - start).toNat ≤ 2 ^ 16 :=
  (last + 1 - start).isLt.le

theorem ledger_dropFrame (s : ParseState) (e : Event) (last : UINT16) (next : UINT32)
    (hfrees : (⟨e, s.buffer.pPkgBufferHashTable⟩ : Call).frees (answers s.calls.length) =
      rangePackets s.buffer.pPkgBufferHashTable s.startDropIndex
        (last + 1 - s.startDropIndex).toNat) :
    ((dropFrame (callBack answers s e).2 last next).ledger answers).Perm (s.ledger answers) := by
  have htable : (dropFrame (callBack answers s e).2 last next).buffer.pPkgBufferHashTable =
      dropRange (last + 1 - s.startDropIndex).toNat s.startDropIndex
        s.buffer.pPkgBufferHashTable := by
    unfold dropFrame defaultDropBufferData exitSequenceNumberOverflowCheck
      exitTimestampOverflowCheck callBack
    dsimp only
    split <;> split <;> rfl
  have hcalls : (dropFrame (callBack answers s e).2 last next).calls =
      s.calls ++ [⟨e, s.buffer.pPkgBufferHashTable⟩] := rfl
  rw [ParseState.ledger, ledger, htable, hcalls, freedBehind_concat, Nat.zero_add, hfrees,
    List.append_assoc]
  exact (tablePackets_dropRange (windowed_le _ _) _ _).append_left _

theorem ledger_congr (htable : s'.buffer.pPkgBufferHashTable = s.buffer.pPkgBufferHashTable)
    (hcalls : s'.calls = s.calls) : s'.ledger answers = s.ledger answers := by
  rw [ParseState.ledger, ParseState.ledger, ledger, ledger, htable, hcalls]

theorem frees_ready (s : ParseState) (last : UINT16) (size : UINT32)
    (hanswer : answers s.calls.length = true) :
    (⟨.ready s.startDropIndex last size, s.buffer.pPkgBufferHashTable⟩ : Call).frees
        (answers s.calls.length) =
      rangePackets s.buffer.pPkgBufferHashTable s.startDropIndex
        (last + 1 - s.startDropIndex).toNat := by
  rw [Call.frees, hanswer]
  rfl

theorem ledger_refused (s : ParseState) (last : UINT16) (size : UINT32)
    (hanswer : answers s.calls.length = false) :
    (callBack answers s (.ready s.startDropIndex last size)).2.ledger answers =
      s.ledger answers := by
  have hcalls : (callBack answers s (.ready s.startDropIndex last size)).2.calls = s.calls ++
      [⟨.ready s.startDropIndex last size, s.buffer.pPkgBufferHashTable⟩] := rfl
  rw [ParseState.ledger, ParseState.ledger, ledger, ledger, hcalls, freedBehind_concat,
    Nat.zero_add, hanswer, Call.frees]
  simp [callBack]

variable (answers bufferClosed earliest) in
theorem ledger_changeFrame (s : ParseState) (p : InboundRtpPacket) :
    ((changeFrame answers bufferClosed earliest s p).1.ledger answers).Perm
      (s.ledger answers) := by
  have hcheck : (checkContiguous s).ledger answers = s.ledger answers := by
    unfold checkContiguous
    split <;> rfl
  rw [← hcheck]
  unfold changeFrame
  generalize checkContiguous s = s
  dsimp only
  split
  · cases hanswer : answers s.calls.length with
    | true =>
      rw [if_pos (by exact hanswer)]
      exact ledger_dropFrame s (.ready s.startDropIndex (s.index - 1) s.curFrameSize) (s.index - 1)
        p.header.timestamp (frees_ready s _ _ hanswer)
    | false =>
      rw [if_neg (by exact Bool.eq_false_iff.mp hanswer)]
      exact List.Perm.of_eq (ledger_refused s _ _ hanswer)
  · split
    · exact ledger_dropFrame s (.dropped s.startDropIndex (s.index - 1) s.buffer.headTimestamp)
        (s.index - 1) p.header.timestamp rfl
    · split
      · exact List.Perm.refl _
      · exact List.Perm.refl _

theorem ledger_countPacket (s : ParseState) (p : InboundRtpPacket) :
    ((countPacket depay answers s p).1.ledger answers).Perm (s.ledger answers) := by
  unfold countPacket
  split
  · exact List.Perm.refl _
  · rename_i size isStart _
    dsimp only
    have hadd : (addSize s p size isStart).ledger answers = s.ledger answers := ledger_congr rfl rfl
    rw [← hadd]
    generalize addSize s p size isStart = s
    split
    · unfold reportFrame
      dsimp only
      cases hanswer : answers s.calls.length with
      | true =>
        rw [if_pos (by exact hanswer)]
        exact ledger_dropFrame s (.ready s.startDropIndex s.index s.curFrameSize) s.index
          p.header.timestamp (frees_ready s _ _ hanswer)
      | false =>
        rw [if_neg (by exact Bool.eq_false_iff.mp hanswer)]
        exact List.Perm.of_eq (ledger_refused s _ _ hanswer)
    · exact List.Perm.refl _

variable (depay answers bufferClosed earliest)

/-- **A round of the scan moves packets from the table to those freed.** -/
theorem ledger_parseStep (s : ParseState) :
    ((parseStep depay answers bufferClosed earliest s).1.ledger answers).Perm
      (s.ledger answers) := by
  unfold parseStep
  split
  · exact List.Perm.refl _
  · rename_i p _
    unfold packetStep
    dsimp only
    split
    · exact ledger_countPacket _ p
    · have hchange := ledger_changeFrame answers bufferClosed earliest
        { s with lastNonNullIndex := s.index } p
      split
      · rename_i s' hs'
        rw [hs'] at hchange
        exact (ledger_countPacket s' p).trans hchange
      · rename_i s' flow _ hs'
        rw [hs'] at hchange
        exact hchange

theorem ledger_parseLoop (n : Nat) (s : ParseState) :
    ((parseLoop depay answers bufferClosed earliest n s).1.ledger answers).Perm
      (s.ledger answers) := by
  induction n generalizing s with
  | zero => exact List.Perm.refl _
  | succ n ih =>
    have hstep := ledger_parseStep depay answers bufferClosed earliest s
    rw [parseLoop]
    split
    · rename_i s' hs'
      rw [hs'] at hstep
      exact (ih _).trans hstep
    · rename_i s' flow _ hs'
      rw [hs'] at hstep
      exact hstep

end Scan

/-! ## The default jitter buffer -/

/-- The packets a push frees before the scan. -/
def insertFrees (b : JitterBufferInternal) (p : InboundRtpPacket) : List InboundRtpPacket :=
  let b := moveWindow (startBuffer b p) p
  let (within, b) := withinLatencyTolerance b p
  if within then
    if keepsExisting b p then [p] else (b.pPkgBufferHashTable p.header.sequenceNumber).toList
  else [p]

/-- The packets of the buffer and those freed, after a push. -/
def defaultPushLedger (depay : DepayRtpPayloadFunc) (answers : Nat → Bool)
    (b : JitterBufferInternal) (calls : List Call) (p : InboundRtpPacket) :
    List InboundRtpPacket :=
  let r := defaultPush depay answers b calls p
  insertFrees b p ++ ledger answers r.buffer r.calls

theorem ledger_insertPacket (answers : Nat → Bool) (b : JitterBufferInternal) (calls : List Call)
    (p : InboundRtpPacket) :
    (insertFrees b p ++ ledger answers (insertPacket b p).buffer calls).Perm
      (p :: ledger answers b calls) := by
  have hstart : (startBuffer b p).pPkgBufferHashTable = b.pPkgBufferHashTable := by
    unfold startBuffer
    split <;> rfl
  have hmove := (moveWindow_content (startBuffer b p) p).table.trans hstart
  have hwithin := (withinLatencyTolerance_content (moveWindow (startBuffer b p) p) p).table.trans
    hmove
  unfold insertFrees insertPacket
  dsimp only
  generalize withinLatencyTolerance (moveWindow (startBuffer b p) p) p = w at hwithin
  obtain ⟨within, b'⟩ := w
  split
  · split
    · rw [ledger, ledger, hwithin]
      exact List.Perm.refl _
    · have hstore : (storePacket b' p).pPkgBufferHashTable =
          Function.update b.pPkgBufferHashTable p.header.sequenceNumber (some p) := by
        rw [← hwithin]
        unfold storePacket
        dsimp only
        split
        · rw [(headSequenceNumberCheck_content _ p).table, (headTimestampCheck_content _ p).table]
        · rfl
      rw [ledger, ledger, hstore, hwithin]
      have hput := tablePackets_update b.pPkgBufferHashTable p.header.sequenceNumber (some p)
      refine (List.perm_append_comm_assoc _ _ _).trans ((hput.append_left _).trans ?_)
      exact List.perm_middle
  · rw [ledger, ledger, hwithin]
    exact List.Perm.refl _

/-- **A push takes its packet**: afterwards the buffer has it or has freed it. -/
theorem defaultPush_takes (depay : DepayRtpPayloadFunc) (answers : Nat → Bool)
    (b : JitterBufferInternal) (calls : List Call) (p : InboundRtpPacket) :
    (defaultPushLedger depay answers b calls p).Perm (p :: ledger answers b calls) := by
  refine List.Perm.trans (List.Perm.append_left _ ?_) (ledger_insertPacket answers b calls p)
  unfold defaultPush
  dsimp only
  split
  · unfold jitterBufferInternalParse
    split
    · have hscan := ledger_parseLoop depay answers false (earliestAllowed (insertPacket b p).buffer)
        (windowLength (insertPacket b p).buffer) (parseStart (insertPacket b p).buffer calls)
      split
      · rename_i s succeeded hs
        rw [hs] at hscan
        exact hscan
      · rename_i s flow _ hs
        rw [hs] at hscan
        have hopen : ¬ (false = true ∧ s.curFrameSize ≠ 0) := fun h => Bool.false_ne_true h.1
        rw [if_neg hopen]
        exact hscan
    · exact List.Perm.refl _
  · exact List.Perm.refl _

/-- A buffer with its calls, and what its pushes have freed before their scans. -/
structure Held where
  buffer : JitterBufferInternal
  calls : List Call
  freed : List InboundRtpPacket

def Held.push (depay : DepayRtpPayloadFunc) (answers : Nat → Bool) (h : Held)
    (p : InboundRtpPacket) : Held :=
  let r := defaultPush depay answers h.buffer h.calls p
  ⟨r.buffer, r.calls, h.freed ++ insertFrees h.buffer p⟩

/-- All packets that are in the table or have been freed. -/
def Held.packets (answers : Nat → Bool) (h : Held) : List InboundRtpPacket :=
  h.freed ++ ledger answers h.buffer h.calls

/-- **Every packet is in the table or was freed, once**, after every run of pushes, whatever the
depayloader and the callbacks answer. -/
theorem defaultPushes_keep (depay : DepayRtpPayloadFunc) (answers : Nat → Bool)
    (ps : List InboundRtpPacket) (h : Held) :
    ((ps.foldl (Held.push depay answers) h).packets answers).Perm (ps ++ h.packets answers) := by
  induction ps generalizing h with
  | nil => exact List.Perm.refl _
  | cons p ps ih =>
    have hpush : ((h.push depay answers p).packets answers).Perm (p :: h.packets answers) := by
      have htakes := defaultPush_takes depay answers h.buffer h.calls p
      rw [Held.packets, Held.push, List.append_assoc]
      exact (htakes.append_left h.freed).trans List.perm_middle
    exact (ih _).trans ((hpush.append_left ps).trans List.perm_middle)

/-! ## Refusals of the default jitter buffer -/

section Refusals

variable (depay : DepayRtpPayloadFunc) (answers : Nat → Bool) (bufferClosed : Bool)
  (earliest : UINT32)

/-- The depayloader does not take the packet, or the callback not the frame it completes. -/
def countRefused (s : ParseState) (p : InboundRtpPacket) : Bool :=
  match depay.size (payloadBytes p) s.sizeCalcIsFirst with
  | none => true
  | some (size, isStart) =>
    let s := addSize s p size isStart
    frameComplete s p && !answers s.calls.length

/-- The callback does not take the frame that the next timestamp ends. -/
def changeRefused (s : ParseState) : Bool :=
  let s := checkContiguous s
  s.containStartForEarliestFrame && s.headFrameIsContiguous && !answers s.calls.length

/-- Something is refused in a round of the scan. -/
def roundRefused (s : ParseState) : Bool :=
  match s.buffer.pPkgBufferHashTable s.index with
  | none => false
  | some p =>
    let s := { s with lastNonNullIndex := s.index }
    if p.header.timestamp = s.buffer.headTimestamp then
      countRefused depay answers (noteHeadPacket s p) p
    else
      changeRefused answers s ||
        match changeFrame answers bufferClosed earliest s p with
        | (s, .next) => countRefused depay answers s p
        | _ => false

/-- Something is refused in one of the rounds. -/
def scanRefused : Nat → ParseState → Bool
  | 0, _ => false
  | n + 1, s =>
    roundRefused depay answers bufferClosed earliest s ||
      match parseStep depay answers bufferClosed earliest s with
      | (s, .next) => scanRefused n { s with index := s.index + 1 }
      | _ => false

theorem countPacket_refused (s : ParseState) (p : InboundRtpPacket) :
    (countPacket depay answers s p).2 = .done false ↔ countRefused depay answers s p = true := by
  rw [countPacket, countRefused]
  cases depay.size (payloadBytes p) s.sizeCalcIsFirst with
  | none => simp
  | some e =>
    obtain ⟨size, isStart⟩ := e
    dsimp only
    generalize addSize s p size isStart = s
    cases hcomplete : frameComplete s p with
    | false => simp
    | true =>
      rw [if_pos rfl]
      unfold reportFrame callBack
      cases answers s.calls.length <;> simp

theorem changeFrame_refused (s : ParseState) (p : InboundRtpPacket) :
    (changeFrame answers bufferClosed earliest s p).2 = .done false ↔
      changeRefused answers s = true := by
  unfold changeFrame changeRefused
  generalize checkContiguous s = s
  dsimp only
  cases hready : s.containStartForEarliestFrame && s.headFrameIsContiguous with
  | false =>
    rw [if_neg Bool.false_ne_true]
    split
    · simp
    · split <;> simp
  | true =>
    rw [if_pos rfl]
    unfold callBack
    cases answers s.calls.length <;> simp

theorem parseStep_refused (s : ParseState) :
    (parseStep depay answers bufferClosed earliest s).2 = .done false ↔
      roundRefused depay answers bufferClosed earliest s = true := by
  rw [parseStep, roundRefused]
  cases s.buffer.pPkgBufferHashTable s.index with
  | none =>
    rw [gapStep]
    dsimp only
    split <;> simp
  | some p =>
    unfold packetStep
    dsimp only
    split
    · exact countPacket_refused depay answers _ p
    · have hchange := changeFrame_refused answers bufferClosed earliest
        { s with lastNonNullIndex := s.index } p
      rw [Bool.or_eq_true, ← hchange]
      rcases changeFrame answers bufferClosed earliest { s with lastNonNullIndex := s.index } p with
        ⟨s', _ | _ | succeeded⟩
      · simp [countPacket_refused]
      · simp
      · simp

theorem parseLoop_refused (n : Nat) (s : ParseState) :
    (parseLoop depay answers bufferClosed earliest n s).2 = .done false ↔
      scanRefused depay answers bufferClosed earliest n s = true := by
  induction n generalizing s with
  | zero => simp [parseLoop, scanRefused]
  | succ n ih =>
    have hstep := parseStep_refused depay answers bufferClosed earliest s
    rw [parseLoop, scanRefused, Bool.or_eq_true, ← hstep]
    rcases parseStep depay answers bufferClosed earliest s with ⟨s', _ | _ | succeeded⟩
    · simp [ih]
    · simp
    · simp

end Refusals

/-- Something is refused in the scan of a push. -/
def defaultPushRefused (depay : DepayRtpPayloadFunc) (answers : Nat → Bool)
    (b : JitterBufferInternal) (calls : List Call) (p : InboundRtpPacket) : Bool :=
  let i := insertPacket b p
  i.scan && i.buffer.started && scanRefused depay answers false (earliestAllowed i.buffer)
    (windowLength i.buffer) (parseStart i.buffer calls)

theorem defaultPush_succeeded (depay : DepayRtpPayloadFunc) (answers : Nat → Bool)
    (b : JitterBufferInternal) (calls : List Call) (p : InboundRtpPacket) :
    (defaultPush depay answers b calls p).succeeded =
      !defaultPushRefused depay answers b calls p := by
  unfold defaultPush defaultPushRefused
  dsimp only
  cases (insertPacket b p).scan with
  | false => rfl
  | true =>
    rw [if_pos rfl, Bool.true_and, jitterBufferInternalParse]
    cases (insertPacket b p).buffer.started with
    | false => rfl
    | true =>
      have hscan := parseLoop_refused depay answers false (earliestAllowed (insertPacket b p).buffer)
        (windowLength (insertPacket b p).buffer) (parseStart (insertPacket b p).buffer calls)
      rw [if_pos rfl, Bool.true_and]
      generalize scanRefused depay answers false (earliestAllowed (insertPacket b p).buffer)
        (windowLength (insertPacket b p).buffer) (parseStart (insertPacket b p).buffer calls) =
          refused at hscan
      generalize parseLoop depay answers false (earliestAllowed (insertPacket b p).buffer)
        (windowLength (insertPacket b p).buffer) (parseStart (insertPacket b p).buffer calls) =
          scanned at hscan
      obtain ⟨s, _ | _ | succeeded⟩ := scanned
      · cases refused <;> simp at hscan ⊢
      · cases refused <;> simp at hscan ⊢
      · cases refused <;> cases succeeded <;> simp at hscan ⊢

/-! ## The real-time jitter buffer -/

section RealTime

variable {b b' : RealTimeJitterBuffer} {p : InboundRtpPacket}

theorem packets_putPacket (b : RealTimeJitterBuffer) (p : InboundRtpPacket) :
    ((b.pktRing (ringSlot p.header.sequenceNumber)).toList ++ packets (putPacket b p)).Perm
      (p :: packets b) := by
  have hput := ringPackets_update b.pktRing (ringSlot p.header.sequenceNumber) (some p)
  change (_ ++ (b.freed ++ ringPackets (Function.update b.pktRing _ (some p)))).Perm
    (p :: (b.freed ++ ringPackets b.pktRing))
  refine (List.perm_append_comm_assoc _ _ _).trans ((hput.append_left b.freed).trans ?_)
  rw [Option.toList_some, List.singleton_append]
  exact List.perm_middle

theorem count_slot (h : packetAt b p.header.sequenceNumber = none) :
    (b.pktRing (ringSlot p.header.sequenceNumber)).toList.count p = 0 := by
  rw [List.count_eq_zero]
  intro hmem
  rw [packetAt_eq_some.mpr ⟨Option.mem_toList.mp hmem, rfl⟩] at h
  cases h

theorem packets_congr (hring : b'.pktRing = b.pktRing) (hfreed : b'.freed = b.freed) :
    packets b' = packets b := by rw [packets, packets, hring, hfreed]

theorem packets_addToFrame (depay : Bytes → Bool → UINT32 × Bool) (b : RealTimeJitterBuffer)
    (p : InboundRtpPacket) (index : Nat) : packets (addToFrame depay b p index) = packets b := by
  obtain ⟨frames, seq, hrun, -⟩ := addToFrame_eq depay b p index
  rw [hrun]
  exact packets_congr rfl rfl

theorem packets_freePacket (b : RealTimeJitterBuffer) (q : InboundRtpPacket) :
    (packets (freePacket b q)).Perm (q :: packets b) := by
  change ((b.freed ++ [q]) ++ ringPackets b.pktRing).Perm (q :: (b.freed ++ ringPackets b.pktRing))
  rw [List.append_assoc, List.singleton_append]
  exact List.perm_middle

/-- What is stored or freed is the packet; the one that it overwrites is lost. -/
theorem packets_rtStore (depay : Bytes → Bool → UINT32 × Bool) (b : RealTimeJitterBuffer)
    (p : InboundRtpPacket) : ∃ lost, lost.count p = 0 ∧
      (lost ++ packets (rtStore depay b p).buffer).Perm (p :: packets b) := by
  have hfreed : ∃ lost : List InboundRtpPacket, lost.count p = 0 ∧
      (lost ++ packets (freePacket b p)).Perm (p :: packets b) :=
    ⟨[], rfl, packets_freePacket b p⟩
  have hput : packetAt b p.header.sequenceNumber = none → ∃ lost : List InboundRtpPacket,
      lost.count p = 0 ∧ (lost ++ packets (putPacket b p)).Perm (p :: packets b) :=
    fun hnone => ⟨_, count_slot hnone, packets_putPacket b p⟩
  unfold rtStore
  split
  · exact hfreed
  · cases hat : packetAt b p.header.sequenceNumber with
    | some existing =>
      dsimp only
      split
      · exact hfreed
      · -- the packet takes the place of the one that is freed
        have hslot := (packetAt_eq_some.mp hat).1
        have hplace := packets_putPacket (freePacket b existing) p
        have hsame : (freePacket b existing).pktRing = b.pktRing := rfl
        rw [hsame, hslot, Option.toList_some, List.singleton_append] at hplace
        have hboth := (hplace.trans ((packets_freePacket b existing).cons p)).trans
          (List.Perm.swap existing p (packets b))
        exact ⟨[], rfl, hboth.cons_inv⟩
    | none =>
      dsimp only
      split
      · rw [packets_addToFrame]
        exact hput hat
      · split
        · exact hfreed
        · split
          · exact hput hat
          · obtain ⟨frames, stale, ts, seq, hopen, -⟩ := openFrame_eq (putPacket b p) p
            rw [packets_addToFrame, hopen]
            exact hput hat

def SamePackets (l : List InboundRtpPacket) (b : RealTimeJitterBuffer) : Prop := (packets b).Perm l

theorem packets_rtPush (cb : RtCallbacks) (b : RealTimeJitterBuffer) (p : InboundRtpPacket) :
    (packets (rtPush cb b p).buffer).Perm
      (packets (rtStore cb.depayPayload (rtTrack b p) p).buffer) := by
  change SamePackets _ (rtPush cb b p).buffer
  refine rtPush_inv (List.Perm.refl _) ?_ ?_ ?_
  · intro b₁ b₂ h₁ hev
    obtain ⟨i, f, hf, rfl⟩ := evictHead_eq_some hev
    have hfree := trimmed_rtFreePacketsInRange (report b₁ (.dropped f)) f.firstSeqNum f.lastSeqNum
    have hremove := trimmed_rtRemoveFrame (i := i) (f := f)
      (b := rtFreePacketsInRange (report b₁ (.dropped f)) f.firstSeqNum f.lastSeqNum) (by
        rw [frames_rtFreePacketsInRange]
        exact hf.at_index)
    exact (hfree.trans (hremove.trans (trimmed_delivered _))).packets.trans h₁
  · intro b₁ b₂ h₁ hdel
    obtain ⟨i, f, frameSize, -, -, rfl⟩ := deliverHead_eq_delivered hdel
    have hcall := trimmed_callFrameReady (cb.onFrameReady b₁.reports.length) f
      (report b₁ (.ready f frameSize))
    exact (hcall.trans ((trimmed_removeReported _ f.timestamp).trans
      (trimmed_delivered _))).packets.trans h₁
  · intro b₁ b₂ h₁ hfail
    obtain ⟨i, f, frameSize, -, -, rfl⟩ := deliverHead_eq_failed hfail
    exact (trimmed_callFrameReady _ f _).packets.trans h₁

/-- A push, with the packet that it loses. -/
theorem packets_rtPush_lost (cb : RtCallbacks) (b : RealTimeJitterBuffer) (p : InboundRtpPacket) :
    ∃ lost, lost.count p = 0 ∧ (lost ++ packets (rtPush cb b p).buffer).Perm (p :: packets b) := by
  obtain ⟨lost, hlost, hperm⟩ := packets_rtStore cb.depayPayload (rtTrack b p) p
  have htrack := (sameTable_rtTrack b p).1
  rw [packets_congr htrack.ring htrack.freed] at hperm
  exact ⟨lost, hlost, ((packets_rtPush cb b p).append_left lost).trans hperm⟩

/-- **A push takes its packet**: afterwards the ring has it or it has been freed. -/
theorem rtPush_takes (cb : RtCallbacks) (b : RealTimeJitterBuffer) (p : InboundRtpPacket) :
    (packets (rtPush cb b p).buffer).count p = (packets b).count p + 1 := by
  obtain ⟨lost, hlost, hperm⟩ := packets_rtPush_lost cb b p
  have := hperm.count_eq p
  rwa [List.count_append, hlost, List.count_cons_self, Nat.zero_add] at this

/-! ## Refusals of the real-time jitter buffer -/

/-- The packet needs a frame and the table has no room. -/
def frameTableFull (b : RealTimeJitterBuffer) (p : InboundRtpPacket) : Bool :=
  !(b.maxLatency < (rtTimestampAge b p.header.timestamp).zeroExtend 64) &&
    (packetAt b p.header.sequenceNumber).isNone && (rtFindFrame b p.header.timestamp).isNone &&
    !rtIsTimestampProcessed b p.header.timestamp && RT_MAX_FRAMES ≤ b.frames.length

/-- The earliest frame is handed over and not taken. -/
def handOverRefused (cb : RtCallbacks) (b : RealTimeJitterBuffer) : Bool :=
  match rtFindEarliestFrame b with
  | none => false
  | some (_, f) =>
    rtFrameIsComplete b f &&
      !(!b.hasDelivered && !b.alwaysSinglePacketFrames && b.frames.length ≤ 1) &&
      !(cb.onFrameReady b.reports.length).succeeds

/-- A frame is not taken in one of the rounds. -/
def deliveryRefused (cb : RtCallbacks) : Nat → RealTimeJitterBuffer → Bool
  | 0, _ => false
  | n + 1, b =>
    handOverRefused cb b ||
      match deliverHead cb b with
      | .delivered b' => deliveryRefused cb n b'
      | _ => false

/-- Something is refused in a push. -/
def rtPushRefused (cb : RtCallbacks) (b : RealTimeJitterBuffer) (p : InboundRtpPacket) : Bool :=
  let stored := (rtStore cb.depayPayload (rtTrack b p) p).buffer
  let evicted := evictStale stored.frames.length stored
  frameTableFull (rtTrack b p) p || deliveryRefused cb evicted.frames.length evicted

theorem rtStore_succeeded (depay : Bytes → Bool → UINT32 × Bool) (b : RealTimeJitterBuffer)
    (p : InboundRtpPacket) : (rtStore depay b p).succeeded = !frameTableFull b p := by
  unfold rtStore frameTableFull
  split
  · rename_i hold
    simp [hold]
  · rename_i hage
    cases packetAt b p.header.sequenceNumber with
    | some existing =>
      dsimp only
      split <;> simp
    | none =>
      cases rtFindFrame b p.header.timestamp with
      | some index => simp
      | none =>
        dsimp only
        split
        · rename_i hdone
          simp [hdone]
        · rename_i hdone
          split
          · rename_i hfull
            simp [hage, hdone, hfull]
          · rename_i hfull
            simp [hfull]

theorem deliverHead_refused (cb : RtCallbacks) (b : RealTimeJitterBuffer) :
    (∃ b', deliverHead cb b = .failed b') ↔ handOverRefused cb b = true := by
  unfold deliverHead handOverRefused
  cases rtFindEarliestFrame b with
  | none => simp
  | some entry =>
    obtain ⟨i, f⟩ := entry
    dsimp only
    cases rtFrameIsComplete b f with
    | false => simp
    | true =>
      rw [if_pos rfl]
      split
      · rename_i hwaits
        rw [hwaits]
        simp
      · rename_i hwaits
        rw [Bool.not_eq_true] at hwaits
        rw [hwaits]
        change (∃ b', (if (cb.onFrameReady b.reports.length).succeeds = true then _ else _) = _) ↔ _
        cases (cb.onFrameReady b.reports.length).succeeds <;> simp

theorem deliverComplete_succeeded (cb : RtCallbacks) (n : Nat) (b : RealTimeJitterBuffer) :
    (deliverComplete cb n b).2 = !deliveryRefused cb n b := by
  induction n generalizing b with
  | zero => rfl
  | succ n ih =>
    have hhead := deliverHead_refused cb b
    rw [deliverComplete, deliveryRefused]
    cases hdeliver : deliverHead cb b with
    | stopped =>
      rw [hdeliver] at hhead
      simpa using hhead
    | failed b' =>
      rw [hdeliver] at hhead
      simpa using hhead
    | delivered b' =>
      rw [hdeliver] at hhead
      have hnot : handOverRefused cb b = false := by simpa using hhead
      rw [hnot, Bool.false_or]
      exact ih b'

theorem rtPush_succeeded (cb : RtCallbacks) (b : RealTimeJitterBuffer) (p : InboundRtpPacket) :
    (rtPush cb b p).succeeded = !rtPushRefused cb b p := by
  unfold rtPush rtPushRefused
  dsimp only
  rw [rtStore_succeeded]
  cases frameTableFull (rtTrack b p) p with
  | true => rfl
  | false =>
    rw [Bool.not_false, if_pos rfl, Bool.false_or]
    exact deliverComplete_succeeded cb _ _

end RealTime

/-! ## The callers -/

/-- How often `transceiverOnRtpPacketReceived` frees a packet whose push has this status. -/
def transceiverFrees (succeeded : Bool) : Nat := if succeeded then 0 else 1

/-- The branch for RED packets frees none of those it has pushed. -/
def redBranchFrees (_ : Bool) : Nat := 0

/-- The contract of a push: with success the buffer has the packet or has freed it, once; with an
error it neither has it nor has freed it, and both callers free it, once.  The packet is counted among
those in the buffer and those freed, before and after. -/
structure OwnershipKept (before after : Nat) (succeeded : Bool) : Prop where
  taken : succeeded = true → after = before + 1
  left : succeeded = false → after = before
  transceiver : after + transceiverFrees succeeded = before + 1
  redBranch : after + redBranchFrees succeeded = before + 1

theorem ownershipKept_iff {before after : Nat} {succeeded : Bool} (htaken : after = before + 1) :
    OwnershipKept before after succeeded ↔ succeeded = true := by
  constructor
  · intro h
    by_contra hfailed
    have := h.left (Bool.not_eq_true _ ▸ hfailed)
    omega
  · rintro rfl
    exact ⟨fun _ => htaken, fun h => (by cases h), htaken, htaken⟩

/-- **An error leaves the packet to the caller in no case**: the contract holds exactly for the pushes
in which neither the frame table, nor a callback, nor the depayloader refuses anything. -/
theorem ownership_kept_iff (p : InboundRtpPacket) :
    (∀ depay answers b calls,
      OwnershipKept ((ledger answers b calls).count p)
          ((defaultPushLedger depay answers b calls p).count p)
          (defaultPush depay answers b calls p).succeeded ↔
        defaultPushRefused depay answers b calls p = false) ∧
    ∀ cb b,
      OwnershipKept ((packets b).count p) ((packets (rtPush cb b p).buffer).count p)
          (rtPush cb b p).succeeded ↔
        rtPushRefused cb b p = false := by
  constructor
  · intro depay answers b calls
    have htakes := (defaultPush_takes depay answers b calls p).count_eq p
    rw [List.count_cons_self] at htakes
    rw [ownershipKept_iff htakes, defaultPush_succeeded, Bool.not_eq_true']
  · intro cb b
    rw [ownershipKept_iff (rtPush_takes cb b p), rtPush_succeeded, Bool.not_eq_true']

/-- A depayloader that takes every packet for the start of a frame. -/
def takesAll : DepayRtpPayloadFunc where
  size payload _ := some (BitVec.ofNat 32 payload.length, true)
  copy payload _ _ := some payload

/-- Buffers for frames of a single packet. -/
def singleBuffer : JitterBufferInternal := (createJitterBuffer 0 90000 true).get (by decide)

def singleRealTimeBuffer : RealTimeJitterBuffer :=
  (createRealTimeJitterBuffer 0 90000 true).get (by decide)

def refusing : RtCallbacks where
  depayPayload _ _ := (1, true)
  onFrameReady _ := ⟨none, false⟩

/-- A frame of its own. -/
def solo : InboundRtpPacket := samplePacket 10 1000 true true

/-- The callback refuses the first frame.  Its packet is in both buffers, and
`transceiverOnRtpPacketReceived` frees it. -/
theorem refused_packet_kept :
    ((defaultPush takesAll (fun _ => false) singleBuffer [] solo).succeeded = false ∧
      (defaultPush takesAll (fun _ => false) singleBuffer [] solo).buffer.pPkgBufferHashTable 10 =
        some solo ∧
      ¬ OwnershipKept ((ledger (fun _ => false) singleBuffer []).count solo)
        ((defaultPushLedger takesAll (fun _ => false) singleBuffer [] solo).count solo)
        (defaultPush takesAll (fun _ => false) singleBuffer [] solo).succeeded) ∧
    (rtPush refusing singleRealTimeBuffer solo).succeeded = false ∧
      packetAt (rtPush refusing singleRealTimeBuffer solo).buffer 10 = some solo ∧
      ¬ OwnershipKept ((packets singleRealTimeBuffer).count solo)
        ((packets (rtPush refusing singleRealTimeBuffer solo).buffer).count solo)
        (rtPush refusing singleRealTimeBuffer solo).succeeded := by
  have hdefault : (defaultPush takesAll (fun _ => false) singleBuffer [] solo).succeeded = false := by
    decide +kernel
  have hrt : (rtPush refusing singleRealTimeBuffer solo).succeeded = false := by decide +kernel
  refine ⟨⟨hdefault, by decide +kernel, fun h => ?_⟩, hrt, by decide +kernel, fun h => ?_⟩
  · have htakes := (defaultPush_takes takesAll (fun _ => false) singleBuffer [] solo).count_eq solo
    rw [List.count_cons_self, h.left hdefault] at htakes
    omega
  · have htakes := rtPush_takes refusing singleRealTimeBuffer solo
    rw [h.left hrt] at htakes
    omega

end KvsWebrtc.Jitter
