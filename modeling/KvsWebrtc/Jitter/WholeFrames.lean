import KvsWebrtc.Jitter.JitterBuffer
import KvsWebrtc.Lib.SerialNumber
import Mathlib.Data.List.Induction

/-!
# Which frames the default jitter buffer reports

The scan of the window keeps a head frame: the numbers from `startDropIndex` to the one before
`index`.  `ScanInv` says what each of its flags means in terms of the table, so that a round of the
scan is a statement about the slots of the head frame.

A missing number makes the frame non-contiguous only when a packet of the frame comes before it and
none of these ends the frame.  A number missing in front of the frame's first packet, or behind the
packet that ends it, is not noticed there, and the frame is reported with the gap inside.

* `frames_whole_iff` — in every run, every reported range is a whole frame exactly when in every
  round of every scan a packet that completes the head frame finds no gap or one that is noticed.
-/

namespace KvsWebrtc.Jitter

open Rtp

/-! ## Slots -/

/-- What the table holds at `n` numbers from `start` on. -/
def slots (table : PacketTable) (start : UINT16) (n : Nat) : List (Option InboundRtpPacket) :=
  (List.range n).map fun i => table (start + BitVec.ofNat 16 i)

@[simp] theorem slots_zero (table : PacketTable) (start : UINT16) : slots table start 0 = [] := rfl

theorem slots_succ (table : PacketTable) (start : UINT16) (n : Nat) :
    slots table start (n + 1) = slots table start n ++ [table (start + BitVec.ofNat 16 n)] := by
  simp [slots, List.range_succ]

theorem slots_cons (table : PacketTable) (start : UINT16) (n : Nat) :
    slots table start (n + 1) = table start :: slots table (start + 1) n := by
  unfold slots
  rw [List.range_succ_eq_map, List.map_cons, List.map_map]
  congr 1
  · simp
  · apply List.map_congr_left
    intro i _
    have hi : start + BitVec.ofNat 16 (i + 1) = start + 1 + BitVec.ofNat 16 i := by
      rw [BitVec.ofNat_add, BitVec.add_assoc, BitVec.add_comm (BitVec.ofNat 16 i)]
      rfl
    exact congrArg table hi

theorem mem_slots {table : PacketTable} {start : UINT16} {n : Nat} {x : Option InboundRtpPacket} :
    x ∈ slots table start n ↔ ∃ i < n, table (start + BitVec.ofNat 16 i) = x := by
  simp [slots]

theorem length_slots (table : PacketTable) (start : UINT16) (n : Nat) :
    (slots table start n).length = n := by
  simp [slots]

/-- The place of the first missing number. -/
def firstGap (l : List (Option InboundRtpPacket)) : Nat := l.findIdx Option.isNone

/-- The place of the last packet. -/
def lastPacket (l : List (Option InboundRtpPacket)) : Nat :=
  l.length - 1 - l.reverse.findIdx Option.isSome

theorem firstGap_concat {l : List (Option InboundRtpPacket)} (h : none ∈ l)
    (x : Option InboundRtpPacket) : firstGap (l ++ [x]) = firstGap l := by
  have hlt : l.findIdx Option.isNone < l.length :=
    List.findIdx_lt_length_of_exists ⟨none, h, rfl⟩
  unfold firstGap
  rw [List.findIdx_append, if_pos hlt]

theorem firstGap_concat_none {l : List (Option InboundRtpPacket)} (h : none ∉ l) :
    firstGap (l ++ [none]) = l.length := by
  have hlen : l.findIdx Option.isNone = l.length := by
    rw [List.findIdx_eq_length]
    intro x hx
    cases x with
    | none => exact absurd hx h
    | some p => rfl
  unfold firstGap
  rw [List.findIdx_append, hlen, if_neg (Nat.lt_irrefl _)]
  simp

theorem lastPacket_concat_some (l : List (Option InboundRtpPacket)) (p : InboundRtpPacket) :
    lastPacket (l ++ [some p]) = l.length := by
  simp [lastPacket, List.findIdx_cons]

theorem lastPacket_concat_none (l : List (Option InboundRtpPacket)) :
    lastPacket (l ++ [none]) = lastPacket l := by
  simp only [lastPacket, List.length_append, List.length_singleton, List.reverse_append,
    List.reverse_cons, List.reverse_nil, List.nil_append, List.cons_append, List.findIdx_cons,
    Option.isSome_none, cond_false]
  omega

/-- A missing number behind a packet of the frame, with no packet before it that ends the frame. -/
def InnerGap (ends : InboundRtpPacket → Bool) (l : List (Option InboundRtpPacket)) : Prop :=
  ∃ pre post, l = pre ++ none :: post ∧ (∃ p, some p ∈ pre) ∧ ∀ p, some p ∈ pre → ends p = false

theorem not_innerGap_nil (ends : InboundRtpPacket → Bool) : ¬ InnerGap ends [] := by
  rintro ⟨pre, post, h, -⟩
  simp at h

theorem innerGap_concat_some {ends : InboundRtpPacket → Bool}
    {l : List (Option InboundRtpPacket)} {p : InboundRtpPacket} :
    InnerGap ends (l ++ [some p]) ↔ InnerGap ends l := by
  constructor
  · rintro ⟨pre, post, h, hp⟩
    cases post using List.reverseRecOn with
    | nil =>
      have := List.append_inj_right' h rfl
      simp at this
    | append_singleton post x =>
      rw [← List.cons_append, ← List.append_assoc] at h
      exact ⟨pre, post, List.append_inj_left' h rfl, hp⟩
  · rintro ⟨pre, post, rfl, hp⟩
    exact ⟨pre, post ++ [some p], by simp, hp⟩

theorem innerGap_concat_none {ends : InboundRtpPacket → Bool}
    {l : List (Option InboundRtpPacket)} :
    InnerGap ends (l ++ [none]) ↔
      InnerGap ends l ∨ (∃ p, some p ∈ l) ∧ ∀ p, some p ∈ l → ends p = false := by
  constructor
  · rintro ⟨pre, post, h, hp⟩
    cases post using List.reverseRecOn with
    | nil =>
      obtain rfl := List.append_inj_left' h rfl
      exact .inr hp
    | append_singleton post x =>
      rw [← List.cons_append, ← List.append_assoc] at h
      exact .inl ⟨pre, post, List.append_inj_left' h rfl, hp⟩
  · rintro (⟨pre, post, rfl, hp⟩ | hp)
    · exact ⟨pre, post ++ [none], by simp, hp⟩
    · exact ⟨l, [], rfl, hp⟩

/-! ## Sizes -/

section Size

variable (depay : DepayRtpPayloadFunc)

/-- The depayloader accepts the payloads of the packets `P`, and its two calls agree on them. -/
structure DepayRtpPayloadFunc.Agrees (P : InboundRtpPacket → Prop) : Prop where
  accepts : ∀ p, P p → ∀ first, (depay.size (payloadBytes p) first).isSome
  fits : ∀ p, P p → ∀ first n st m, depay.size (payloadBytes p) first = some (n, st) →
    n.toNat ≤ m.toNat → ∃ bytes, depay.copy (payloadBytes p) m first = some bytes
  length : ∀ p, P p → ∀ first n st m bytes, depay.size (payloadBytes p) first = some (n, st) →
    depay.copy (payloadBytes p) m first = some bytes → bytes.length = n.toNat

/-- The packets of the table are among `P`. -/
def Holds (P : InboundRtpPacket → Prop) (table : PacketTable) : Prop :=
  ∀ k p, table k = some p → P p

/-- The size of one packet's data. -/
def packetSize (p : InboundRtpPacket) (first : Bool) : Nat :=
  ((depay.size (payloadBytes p) first).map (·.1.toNat)).getD 0

def packetsSize : Bool → List InboundRtpPacket → Nat
  | _, [] => 0
  | first, p :: ps => packetSize depay p first + packetsSize false ps

theorem packetsSize_concat (p : InboundRtpPacket) : ∀ (first : Bool) (ps : List InboundRtpPacket),
    packetsSize depay first (ps ++ [p]) =
      packetsSize depay first ps + packetSize depay p (first && ps.isEmpty)
  | first, [] => by simp [packetsSize]
  | first, q :: ps => by
    simp only [List.cons_append, packetsSize, packetsSize_concat p false ps, List.isEmpty_cons,
      Bool.and_false, Bool.false_and]
    omega

theorem packetsSize_some (first : Bool) (p : InboundRtpPacket)
    (l : List (Option InboundRtpPacket)) :
    packetsSize depay first ((some p :: l).filterMap id) =
      packetSize depay p first + packetsSize depay false (l.filterMap id) := rfl

/-- The size of the frame in the slots. -/
def frameSize (l : List (Option InboundRtpPacket)) : Nat := packetsSize depay true (l.filterMap id)

theorem frameSize_concat_none (l : List (Option InboundRtpPacket)) :
    frameSize depay (l ++ [none]) = frameSize depay l := by
  simp [frameSize]

theorem frameSize_concat_some (l : List (Option InboundRtpPacket)) (p : InboundRtpPacket) :
    frameSize depay (l ++ [some p]) =
      frameSize depay l + packetSize depay p (l.filterMap id).isEmpty := by
  simp [frameSize, packetsSize_concat]

variable {depay} {P : InboundRtpPacket → Prop}

theorem DepayRtpPayloadFunc.Agrees.size_eq (h : depay.Agrees P) {p : InboundRtpPacket} (hp : P p)
    (first : Bool) : ∃ n st, depay.size (payloadBytes p) first = some (n, st) ∧
      packetSize depay p first = n.toNat := by
  obtain ⟨⟨n, st⟩, hn⟩ := Option.isSome_iff_exists.mp (h.accepts p hp first)
  exact ⟨n, st, hn, by simp [packetSize, hn]⟩

theorem fillLoop_succeeds (h : depay.Agrees P) {table : PacketTable} (hT : Holds P table) :
    ∀ (n : Nat) (start : UINT16) (room : UINT32) (first : Bool), none ∉ slots table start n →
      packetsSize depay first ((slots table start n).filterMap id) ≤ room.toNat →
      ∃ bytes, fillLoop depay table n start room first = some bytes
  | 0, start, room, first, _, _ => ⟨[], rfl⟩
  | n + 1, start, room, first, hall, hroom => by
    rw [slots_cons] at hall hroom
    cases hp : table start with
    | none =>
      rw [hp] at hall
      exact absurd List.mem_cons_self hall
    | some p =>
      rw [hp] at hall hroom
      rw [packetsSize_some] at hroom
      obtain ⟨k, st, hk, hsize⟩ := h.size_eq (hT _ _ hp) first
      obtain ⟨bytes, hbytes⟩ := h.fits p (hT _ _ hp) _ _ _ room hk (by omega)
      have hlen := h.length p (hT _ _ hp) _ _ _ _ _ hk hbytes
      have hleft : (room - BitVec.ofNat 32 bytes.length).toNat = room.toNat - bytes.length := by
        have := room.isLt
        rw [BitVec.toNat_sub, BitVec.toNat_ofNat]
        omega
      obtain ⟨rest, hrest⟩ := fillLoop_succeeds h hT n (start + 1)
        (room - BitVec.ofNat 32 bytes.length) false
        (fun hmem => hall (List.mem_cons_of_mem _ hmem)) (by omega)
      refine ⟨bytes ++ rest, ?_⟩
      simp only [fillLoop, hp, hbytes, hrest, Option.map_some]

theorem fillLoop_length (h : depay.Agrees P) {table : PacketTable} (hT : Holds P table) :
    ∀ (n : Nat) (start : UINT16) (room : UINT32) (first : Bool) (bytes : Bytes),
      fillLoop depay table n start room first = some bytes →
      none ∉ slots table start n ∧
        bytes.length = packetsSize depay first ((slots table start n).filterMap id)
  | 0, start, room, first, bytes, hfill => by
    cases hfill
    simp [packetsSize]
  | n + 1, start, room, first, bytes, hfill => by
    rw [slots_cons]
    simp only [fillLoop] at hfill
    split at hfill
    · cases hfill
    · rename_i p hp
      split at hfill
      · cases hfill
      · rename_i head hhead
        rw [Option.map_eq_some_iff] at hfill
        obtain ⟨rest, hrest, rfl⟩ := hfill
        obtain ⟨hall, hlen⟩ := fillLoop_length h hT n _ _ _ _ hrest
        obtain ⟨k, st, hk, hsize⟩ := h.size_eq (hT _ _ hp) first
        have hhlen := h.length p (hT _ _ hp) _ _ _ _ _ hk hhead
        rw [hp]
        constructor
        · intro hmem
          rcases List.mem_cons.mp hmem with hnone | hmem
          · cases hnone
          · exact hall hmem
        · rw [packetsSize_some, List.length_append]
          omega

end Size

/-! ## Whole frames -/

/-- The range of a frame that was reported: every number is there, all packets have one timestamp,
and reading the frame fills exactly `size` bytes. -/
structure WholeFrame (depay : DepayRtpPayloadFunc) (table : PacketTable) (start last : UINT16)
    (size : UINT32) : Prop where
  present : ∃ timestamp, ∀ i < (last + 1 - start).toNat, ∃ p,
    table (start + BitVec.ofNat 16 i) = some p ∧ p.header.timestamp = timestamp
  filled : ∃ bytes, defaultFillFrameData depay table size start last = some bytes ∧
    bytes.length = size.toNat

/-- Only a report has to be about a whole frame. -/
def Call.Whole (depay : DepayRtpPayloadFunc) (c : Call) : Prop :=
  match c.event with
  | .ready start last size => WholeFrame depay c.table start last size
  | .dropped _ _ _ => True

/-- A range of packets with one timestamp is a whole frame when no number is missing and its size
fits 32 bits. -/
theorem wholeFrame_iff {depay : DepayRtpPayloadFunc} {P : InboundRtpPacket → Prop}
    (h : depay.Agrees P) {table : PacketTable} (hT : Holds P table) {start last : UINT16}
    {timestamp : UINT32} {l : List (Option InboundRtpPacket)}
    (hl : slots table start (last + 1 - start).toNat = l)
    (hts : ∀ p, some p ∈ l → p.header.timestamp = timestamp) :
    WholeFrame depay table start last (BitVec.ofNat 32 (frameSize depay l)) ↔
      none ∉ l ∧ frameSize depay l < 2 ^ 32 := by
  subst hl
  constructor
  · rintro ⟨-, bytes, hfill, hlen⟩
    obtain ⟨hall, hsize⟩ := fillLoop_length h hT _ _ _ _ _ hfill
    refine ⟨hall, ?_⟩
    have hlt := (BitVec.ofNat 32 (frameSize depay
      (slots table start (last + 1 - start).toNat))).isLt
    have heq : bytes.length = frameSize depay (slots table start (last + 1 - start).toNat) := hsize
    omega
  · rintro ⟨hall, hsize⟩
    have hroom : (BitVec.ofNat 32 (frameSize depay
        (slots table start (last + 1 - start).toNat))).toNat =
        frameSize depay (slots table start (last + 1 - start).toNat) := by
      rw [BitVec.toNat_ofNat]
      exact Nat.mod_eq_of_lt hsize
    constructor
    · refine ⟨timestamp, fun i hi => ?_⟩
      cases hp : table (start + BitVec.ofNat 16 i) with
      | none => exact absurd (mem_slots.mpr ⟨i, hi, hp⟩) hall
      | some p => exact ⟨p, rfl, hts p (mem_slots.mpr ⟨i, hi, hp⟩)⟩
    · obtain ⟨bytes, hfill⟩ := fillLoop_succeeds h hT (last + 1 - start).toNat start
        (BitVec.ofNat 32 (frameSize depay (slots table start (last + 1 - start).toNat))) true hall
        (by rw [hroom]; rfl)
      obtain ⟨-, hlen⟩ := fillLoop_length h hT _ _ _ _ _ hfill
      refine ⟨bytes, hfill, ?_⟩
      rw [hroom, hlen]
      rfl

/-! ## The head frame of a scan -/

/-- The slots of the head frame so far. -/
def frameSlots (s : ParseState) : List (Option InboundRtpPacket) :=
  slots s.buffer.pPkgBufferHashTable s.startDropIndex (s.index - s.startDropIndex).toNat

section Meaning

variable (depay : DepayRtpPayloadFunc)

/-- What the variables of the scan say about the slots `l` of the head frame. -/
structure FrameInv (l : List (Option InboundRtpPacket)) (s : ParseState) : Prop where
  timestamps : ∀ p, some p ∈ l → p.header.timestamp = s.buffer.headTimestamp
  seen : s.seenHeadFramePacket = true ↔ ∃ p, some p ∈ l
  sawGap : s.sawGapSinceLastFrame = true ↔ none ∈ l
  firstGap : none ∈ l → s.firstGapIndex = s.startDropIndex + BitVec.ofNat 16 (firstGap l)
  lastHead : (∃ p, some p ∈ l) →
    s.lastHeadFrameSeqNum = s.startDropIndex + BitVec.ofNat 16 (lastPacket l)
  ended : s.headFrameEnded = true ↔ ∃ p, some p ∈ l ∧ endsFrame s.buffer p = true
  contiguous : s.headFrameIsContiguous = false ↔ InnerGap (endsFrame s.buffer) l
  size : s.curFrameSize = BitVec.ofNat 32 (frameSize depay l)
  first : s.sizeCalcIsFirst = (l.filterMap id).isEmpty
  start : s.containStartForEarliestFrame = true → ∃ p, some p ∈ l

/-- The same between the arrival of the packet `p` and its size. -/
structure Noted (l : List (Option InboundRtpPacket)) (p : InboundRtpPacket) (s : ParseState) :
    Prop where
  timestamp : p.header.timestamp = s.buffer.headTimestamp
  timestamps : ∀ q, some q ∈ l → q.header.timestamp = s.buffer.headTimestamp
  seen : s.seenHeadFramePacket = true
  sawGap : s.sawGapSinceLastFrame = true ↔ none ∈ l
  firstGap : none ∈ l → s.firstGapIndex = s.startDropIndex + BitVec.ofNat 16 (firstGap l)
  lastHead : s.lastHeadFrameSeqNum = s.startDropIndex + BitVec.ofNat 16 l.length
  ended : s.headFrameEnded = true ↔ ∃ q, some q ∈ l ++ [some p] ∧ endsFrame s.buffer q = true
  contiguous : s.headFrameIsContiguous = false ↔ InnerGap (endsFrame s.buffer) l
  size : s.curFrameSize = BitVec.ofNat 32 (frameSize depay l)
  first : s.sizeCalcIsFirst = (l.filterMap id).isEmpty

variable {depay} {l : List (Option InboundRtpPacket)} {s : ParseState} {p : InboundRtpPacket}

theorem mem_concat_some {q : InboundRtpPacket} :
    some q ∈ l ++ [some p] ↔ some q ∈ l ∨ q = p := by
  simp

theorem frameInv_parseStart (b : JitterBufferInternal) (calls : List Call) :
    FrameInv depay [] (parseStart b calls) where
  timestamps := by simp
  seen := by simp [parseStart]
  sawGap := by simp [parseStart]
  firstGap := by simp
  lastHead := by simp
  ended := by simp [parseStart]
  contiguous := by simp [parseStart, not_innerGap_nil]
  size := rfl
  first := rfl
  start := by simp [parseStart]

theorem exists_concat_some : ∃ q, some q ∈ l ++ [some p] :=
  ⟨p, mem_concat_some.mpr (.inr rfl)⟩

theorem FrameInv.noteGap (h : FrameInv depay l s)
    (hl : s.index = s.startDropIndex + BitVec.ofNat 16 l.length) :
    FrameInv depay (l ++ [none]) (noteGap s) where
  timestamps q hq := h.timestamps q (by simpa using hq)
  seen := by simpa [Jitter.noteGap] using h.seen
  sawGap := by simp [Jitter.noteGap]
  firstGap _ := by
    simp only [Jitter.noteGap]
    by_cases hg : none ∈ l
    · rw [h.sawGap.mpr hg, if_pos rfl, firstGap_concat hg]
      exact h.firstGap hg
    · rw [if_neg (fun hs => hg (h.sawGap.mp hs)), firstGap_concat_none hg]
      exact hl
  lastHead hq := by
    rw [lastPacket_concat_none]
    exact h.lastHead (by simpa using hq)
  ended := by simpa [Jitter.noteGap] using h.ended
  contiguous := by
    have hbuffer : (Jitter.noteGap s).buffer = s.buffer := rfl
    rw [hbuffer, innerGap_concat_none, ← h.contiguous, ← h.seen]
    simp only [Jitter.noteGap]
    have hended : s.headFrameEnded = false ↔ ∀ q, some q ∈ l → endsFrame s.buffer q = false := by
      rw [← Bool.not_eq_true, h.ended]
      simp
    rw [← hended]
    cases s.seenHeadFramePacket <;> cases s.headFrameEnded <;> simp
  size := by
    rw [frameSize_concat_none]
    exact h.size
  first := by
    rw [List.filterMap_append]
    simpa [Jitter.noteGap] using h.first
  start hs := by simpa using h.start hs

theorem FrameInv.noteHeadPacket (h : FrameInv depay l s)
    (hl : s.index = s.startDropIndex + BitVec.ofNat 16 l.length)
    (hts : p.header.timestamp = s.buffer.headTimestamp) :
    Noted depay l p (noteHeadPacket s p) where
  timestamp := hts
  timestamps := h.timestamps
  seen := rfl
  sawGap := h.sawGap
  firstGap := h.firstGap
  lastHead := hl
  ended := by
    simp only [Jitter.noteHeadPacket, Bool.or_eq_true, h.ended, mem_concat_some]
    constructor
    · rintro (⟨q, hq, he⟩ | he)
      · exact ⟨q, .inl hq, he⟩
      · exact ⟨p, .inr rfl, he⟩
    · rintro ⟨q, hq | rfl, he⟩
      · exact .inl ⟨q, hq, he⟩
      · exact .inr he
  contiguous := h.contiguous
  size := h.size
  first := h.first

theorem noted_startFrame (hts : p.header.timestamp = s.buffer.headTimestamp) :
    Noted depay [] p (startFrame s p) where
  timestamp := hts
  timestamps := by simp
  seen := rfl
  sawGap := by simp [startFrame]
  firstGap := by simp
  lastHead := by simp [startFrame]
  ended := by simp [startFrame]
  contiguous := by simp [startFrame, not_innerGap_nil]
  size := rfl
  first := rfl

theorem Noted.addSize (h : Noted depay l p s) {n : UINT32} {st : Bool}
    (hn : depay.size (payloadBytes p) s.sizeCalcIsFirst = some (n, st)) :
    FrameInv depay (l ++ [some p]) (addSize s p n st) where
  timestamps q hq := by
    rcases mem_concat_some.mp hq with hq | rfl
    · exact h.timestamps q hq
    · exact h.timestamp
  seen := by
    simp only [Jitter.addSize, h.seen, true_iff]
    exact exists_concat_some
  sawGap := by simpa [Jitter.addSize] using h.sawGap
  firstGap hg := by
    have hg' : none ∈ l := by simpa using hg
    rw [firstGap_concat hg']
    exact h.firstGap hg'
  lastHead _ := by
    rw [lastPacket_concat_some]
    exact h.lastHead
  ended := h.ended
  contiguous := by
    rw [innerGap_concat_some]
    exact h.contiguous
  size := by
    rw [frameSize_concat_some, ← h.first, BitVec.ofNat_add, ← h.size]
    simp [Jitter.addSize, packetSize, hn]
  first := by simp [Jitter.addSize]
  start _ := exists_concat_some

end Meaning

/-! ## When a round is sound -/

section Soundness

variable (depay : DepayRtpPayloadFunc) (s : ParseState) (p : InboundRtpPacket)

/-- What the depayloader says about the start of a frame. -/
def startsFrame : Bool :=
  ((depay.size (payloadBytes p) s.sizeCalcIsFirst).map (·.2)).getD false

/-- The scan takes the head frame for complete when it comes to the packet `p`: `p` ends it, or `p`
has another timestamp. -/
def Completes : Prop :=
  if p.header.timestamp = s.buffer.headTimestamp then
    (s.buffer.firstFrameProcessed = true ∨ s.buffer.alwaysSinglePacketFrames = true) ∧
      endsFrame s.buffer p = true ∧
      (s.containStartForEarliestFrame = true ∨ startsFrame depay s p = true)
  else s.containStartForEarliestFrame = true

/-- At the packet `p`, the missing numbers of the head frame have been noticed: one of them is
between the frame's first packet and the packet that ends it; or `p` has another timestamp, and no
packet ends the frame, or the first missing number is numerically not above the last packet's. -/
def GapNoticed : Prop :=
  InnerGap (endsFrame s.buffer) (frameSlots s) ∨
    p.header.timestamp ≠ s.buffer.headTimestamp ∧ none ∈ frameSlots s ∧
      (s.startDropIndex + BitVec.ofNat 16 (firstGap (frameSlots s)) ≤
          s.startDropIndex + BitVec.ofNat 16 (lastPacket (frameSlots s)) ∨
        ∀ q, some q ∈ frameSlots s → endsFrame s.buffer q = false)

/-- The slots of the frame that the packet `p` completes. -/
def completedFrame : List (Option InboundRtpPacket) :=
  if p.header.timestamp = s.buffer.headTimestamp then frameSlots s ++ [some p] else frameSlots s

/-- A round of the scan is sound: when it comes to a packet that completes the head frame, a number
that is missing in the frame has been noticed, and the size of a frame without a gap fits 32 bits. -/
def StepSound : Prop :=
  ∀ p, s.buffer.pPkgBufferHashTable s.index = some p → Completes depay s p → ¬ GapNoticed s p →
    none ∉ frameSlots s ∧ frameSize depay (completedFrame s p) < 2 ^ 32

end Soundness

/-! ## One round -/

section Round

variable {depay : DepayRtpPayloadFunc} (answers : Nat → Bool) (closed : Bool) (earliest : UINT32)
  {l : List (Option InboundRtpPacket)} {s : ParseState} {p : InboundRtpPacket}
  {P : InboundRtpPacket → Prop}

theorem length_frameSlots (s : ParseState) :
    (frameSlots s).length = (s.index - s.startDropIndex).toNat := length_slots _ _ _

theorem index_eq (s : ParseState) :
    s.index = s.startDropIndex + BitVec.ofNat 16 (frameSlots s).length := by
  rw [length_frameSlots]
  exact Serial.eq_add_ahead s.startDropIndex s.index

theorem toNat_succ_sub {a b : UINT16} (h : (b - a).toNat < 65535) :
    (b + 1 - a).toNat = (b - a).toNat + 1 := by
  have := a.isLt
  have := b.isLt
  have hone : (1 : UINT16).toNat = 1 := rfl
  rw [BitVec.toNat_sub] at h ⊢
  rw [BitVec.toNat_sub, BitVec.toNat_add, hone]
  omega

theorem slots_upTo_index (h : (s.index - s.startDropIndex).toNat < 65535) :
    slots s.buffer.pPkgBufferHashTable s.startDropIndex (s.index + 1 - s.startDropIndex).toNat =
      frameSlots s ++ [s.buffer.pPkgBufferHashTable s.index] := by
  rw [toNat_succ_sub h, slots_succ, ← length_frameSlots, ← index_eq, length_frameSlots]
  rfl

theorem sub_one_add_one (a : UINT16) : a - 1 + 1 = a := BitVec.sub_add_cancel a 1

theorem dropRange_other {k : UINT16} : ∀ (n : Nat) (start : UINT16) (table : PacketTable),
    (∀ i < n, k ≠ start + BitVec.ofNat 16 i) → dropRange n start table k = table k
  | 0, start, table, _ => rfl
  | n + 1, start, table, h => by
    have h0 : k ≠ start := by simpa using h 0 (by omega)
    have hrest : ∀ i < n, k ≠ start + 1 + BitVec.ofNat 16 i := by
      intro i hi
      have := h (i + 1) (by omega)
      rwa [BitVec.ofNat_add, BitVec.add_comm (BitVec.ofNat 16 i), ← BitVec.add_assoc] at this
    rw [dropRange, dropRange_other n (start + 1) _ hrest, Function.update_of_ne h0]

@[simp] theorem exitChecks_table (b : JitterBufferInternal) :
    (exitSequenceNumberOverflowCheck (exitTimestampOverflowCheck b)).pPkgBufferHashTable =
      b.pPkgBufferHashTable := by
  unfold exitSequenceNumberOverflowCheck exitTimestampOverflowCheck
  split <;> split <;> rfl

@[simp] theorem exitChecks_headTimestamp (b : JitterBufferInternal) :
    (exitSequenceNumberOverflowCheck (exitTimestampOverflowCheck b)).headTimestamp =
      b.headTimestamp := by
  unfold exitSequenceNumberOverflowCheck exitTimestampOverflowCheck
  split <;> split <;> rfl

theorem dropFrame_table (t : UINT32) :
    (dropFrame s (s.index - 1) t).buffer.pPkgBufferHashTable s.index =
      s.buffer.pPkgBufferHashTable s.index := by
  simp only [dropFrame, defaultDropBufferData, exitChecks_table]
  apply dropRange_other
  intro i hi heq
  rw [sub_one_add_one] at hi
  have hlt := (s.index - s.startDropIndex).isLt
  have hback : (s.index - s.startDropIndex).toNat = i % 65536 := by
    conv_lhs => rw [heq]
    rw [BitVec.add_comm, BitVec.add_sub_cancel, BitVec.toNat_ofNat]
  omega

theorem dropFrame_headTimestamp (last : UINT16) (t : UINT32) :
    (dropFrame s last t).buffer.headTimestamp = t := by
  simp [dropFrame, defaultDropBufferData]

theorem holds_dropRange : ∀ (n : Nat) (start : UINT16) {table : PacketTable}, Holds P table →
    Holds P (dropRange n start table)
  | 0, _, _, h => h
  | n + 1, start, table, h => by
    apply holds_dropRange n (start + 1)
    intro k p hk
    by_cases heq : k = start
    · rw [heq, Function.update_self] at hk
      cases hk
    · rw [Function.update_of_ne heq] at hk
      exact h k p hk

theorem holds_dropFrame (h : Holds P s.buffer.pPkgBufferHashTable) (last : UINT16) (t : UINT32) :
    Holds P (dropFrame s last t).buffer.pPkgBufferHashTable := by
  simp only [dropFrame, defaultDropBufferData, exitChecks_table]
  exact holds_dropRange _ _ h

theorem countPacket_spec (hd : depay.Agrees P) (hT : Holds P s.buffer.pPkgBufferHashTable)
    (hP : P p) (h : Noted depay l p s)
    (hslots : slots s.buffer.pPkgBufferHashTable s.startDropIndex
      (s.index + 1 - s.startDropIndex).toNat = l ++ [some p]) :
    ∃ new, (countPacket depay answers s p).1.calls = s.calls ++ new ∧
      ((∀ c ∈ new, c.Whole depay) ↔
        ((s.buffer.firstFrameProcessed = true ∨ s.buffer.alwaysSinglePacketFrames = true) ∧
          endsFrame s.buffer p = true ∧
          (s.containStartForEarliestFrame = true ∨ startsFrame depay s p = true) →
        ¬ InnerGap (endsFrame s.buffer) l →
        none ∉ l ∧ frameSize depay (l ++ [some p]) < 2 ^ 32)) ∧
      Holds P (countPacket depay answers s p).1.buffer.pPkgBufferHashTable ∧
      ((countPacket depay answers s p).2 = .next →
        FrameInv depay (l ++ [some p]) (countPacket depay answers s p).1 ∧
        (countPacket depay answers s p).1.index = s.index ∧
        (countPacket depay answers s p).1.startDropIndex = s.startDropIndex ∧
        (countPacket depay answers s p).1.buffer = s.buffer) := by
  obtain ⟨n, st, hn, -⟩ := hd.size_eq hP s.sizeCalcIsFirst
  have hinv := h.addSize hn
  have hstart : startsFrame depay s p = st := by
    simp [startsFrame, hn]
  have hcomplete : frameComplete (addSize s p n st) p = true ↔
      ((s.buffer.firstFrameProcessed = true ∨ s.buffer.alwaysSinglePacketFrames = true) ∧
        endsFrame s.buffer p = true ∧
        (s.containStartForEarliestFrame = true ∨ startsFrame depay s p = true)) ∧
      ¬ InnerGap (endsFrame s.buffer) l := by
    rw [← h.contiguous, hstart]
    simp only [frameComplete, addSize, Bool.and_eq_true, Bool.or_eq_true, decide_eq_true_eq,
      h.timestamp, and_true, Bool.not_eq_false]
    tauto
  have hcall : WholeFrame depay s.buffer.pPkgBufferHashTable s.startDropIndex s.index
      (addSize s p n st).curFrameSize ↔
      none ∉ l ∧ frameSize depay (l ++ [some p]) < 2 ^ 32 := by
    rw [hinv.size, wholeFrame_iff hd hT hslots hinv.timestamps]
    simp
  unfold countPacket
  rw [hn]
  dsimp only
  split
  · rename_i hc
    have hc' := hcomplete.mp hc
    refine ⟨[⟨.ready s.startDropIndex s.index (addSize s p n st).curFrameSize,
      s.buffer.pPkgBufferHashTable⟩], ?_, ?_, ?_, ?_⟩
    · unfold reportFrame callBack
      dsimp only
      split <;> rfl
    · rw [List.forall_mem_singleton]
      constructor
      · intro hw _ _
        exact hcall.mp hw
      · intro hw
        exact hcall.mpr (hw hc'.1 hc'.2)
    · unfold reportFrame callBack
      dsimp only
      split
      · exact holds_dropFrame hT _ _
      · exact hT
    · intro hnext
      unfold reportFrame callBack at hnext
      dsimp only at hnext
      split at hnext <;> cases hnext
  · rename_i hc
    refine ⟨[], by simp [addSize], ?_, hT, fun _ => ⟨hinv, rfl, rfl, rfl⟩⟩
    constructor
    · intro _ h1 h2
      exact absurd (hcomplete.mpr ⟨h1, h2⟩) hc
    · intro _ c hmem
      cases hmem

theorem checkContiguous_eq (s : ParseState) : checkContiguous s =
    { s with headFrameIsContiguous := (checkContiguous s).headFrameIsContiguous } := by
  unfold checkContiguous
  split <;> rfl

theorem checkContiguous_contiguous (h : FrameInv depay (frameSlots s) s)
    (hts : p.header.timestamp ≠ s.buffer.headTimestamp)
    (hstart : s.containStartForEarliestFrame = true) :
    (checkContiguous s).headFrameIsContiguous = false ↔ GapNoticed s p := by
  have hseen := h.start hstart
  have hended : s.headFrameEnded = false ↔
      ∀ q, some q ∈ frameSlots s → endsFrame s.buffer q = false := by
    rw [← Bool.not_eq_true, h.ended]
    simp
  unfold checkContiguous GapNoticed
  split
  · rename_i hc
    obtain ⟨hgap, -, hwhere⟩ := hc
    have hgap := h.sawGap.mp hgap
    rw [h.firstGap hgap, h.lastHead hseen, hended] at hwhere
    simp only [true_iff]
    exact .inr ⟨hts, hgap, hwhere⟩
  · rename_i hc
    rw [h.contiguous]
    constructor
    · intro hin
      exact .inl hin
    · rintro (hin | ⟨-, hgap, hwhere⟩)
      · exact hin
      · exfalso
        apply hc
        rw [h.firstGap hgap, h.lastHead hseen, hended]
        exact ⟨h.sawGap.mpr hgap, h.seen.mpr hseen, hwhere⟩

/-- A packet of another timestamp: the frame before it is reported exactly when it contains a start
and no gap was noticed; when the scan goes on, the packet is the first of a new head frame. -/
theorem changeFrame_spec (hd : depay.Agrees P) (hT : Holds P s.buffer.pPkgBufferHashTable)
    (h : FrameInv depay (frameSlots s) s)
    (hp : s.buffer.pPkgBufferHashTable s.index = some p)
    (hts : p.header.timestamp ≠ s.buffer.headTimestamp) :
    ∃ new, (changeFrame answers closed earliest s p).1.calls = s.calls ++ new ∧
      ((∀ c ∈ new, c.Whole depay) ↔
        (s.containStartForEarliestFrame = true → ¬ GapNoticed s p →
          none ∉ frameSlots s ∧ frameSize depay (frameSlots s) < 2 ^ 32)) ∧
      Holds P (changeFrame answers closed earliest s p).1.buffer.pPkgBufferHashTable ∧
      ((changeFrame answers closed earliest s p).2 = .next →
        Noted depay [] p (changeFrame answers closed earliest s p).1 ∧
        (changeFrame answers closed earliest s p).1.index = s.index ∧
        (changeFrame answers closed earliest s p).1.startDropIndex = s.index ∧
        (changeFrame answers closed earliest s p).1.buffer.pPkgBufferHashTable s.index =
          some p) := by
  have hslots : slots s.buffer.pPkgBufferHashTable s.startDropIndex
      (s.index - 1 + 1 - s.startDropIndex).toNat = frameSlots s := by
    rw [sub_one_add_one]
    rfl
  have hwhole := wholeFrame_iff hd hT hslots h.timestamps
  rw [← h.size] at hwhole
  have hcheck := checkContiguous_contiguous (p := p) h hts
  have heq := checkContiguous_eq s
  generalize (checkContiguous s).headFrameIsContiguous = contiguous at hcheck heq
  unfold changeFrame
  rw [heq]
  dsimp only
  split
  · -- the frame is reported
    rename_i hc
    rw [Bool.and_eq_true] at hc
    have hno : ¬ GapNoticed s p := by
      rw [← hcheck hc.1, hc.2]
      simp
    refine ⟨[⟨.ready s.startDropIndex (s.index - 1) s.curFrameSize,
      s.buffer.pPkgBufferHashTable⟩], ?_, ?_, ?_, ?_⟩
    · unfold callBack
      split <;> rfl
    · rw [List.forall_mem_singleton]
      constructor
      · intro hw _ _
        exact hwhole.mp hw
      · intro hw
        exact hwhole.mpr (hw hc.1 hno)
    · unfold callBack
      split
      · exact holds_dropFrame hT _ _
      · exact hT
    · intro hnext
      unfold callBack at hnext ⊢
      split at hnext
      · rename_i hok
        rw [if_pos hok]
        exact ⟨noted_startFrame (dropFrame_headTimestamp _ _).symm, rfl, rfl,
          (dropFrame_table _).trans hp⟩
      · cases hnext
  · rename_i hc
    have hnone : s.containStartForEarliestFrame = true → ¬ GapNoticed s p →
        none ∉ frameSlots s ∧ frameSize depay (frameSlots s) < 2 ^ 32 := by
      intro hstart hno
      exfalso
      apply hc
      rw [hstart, Bool.true_and, ← Bool.not_eq_false]
      exact fun hf => hno ((hcheck hstart).mp hf)
    split
    · -- the frame is dropped
      refine ⟨[⟨.dropped s.startDropIndex (s.index - 1) s.buffer.headTimestamp,
        s.buffer.pPkgBufferHashTable⟩], rfl, ?_, holds_dropFrame hT _ _, ?_⟩
      · rw [List.forall_mem_singleton]
        exact ⟨fun _ => hnone, fun _ => trivial⟩
      · intro _
        exact ⟨noted_startFrame (dropFrame_headTimestamp _ _).symm, rfl, rfl,
          (dropFrame_table _).trans hp⟩
    · split
      · exact ⟨[], by simp, ⟨fun _ => hnone, fun _ _ hm => by cases hm⟩, hT,
          fun hnext => by cases hnext⟩
      · refine ⟨[], by simp [startFrame], ⟨fun _ => hnone, fun _ _ hm => by cases hm⟩, hT,
          fun _ => ?_⟩
        exact ⟨noted_startFrame rfl, rfl, rfl, hp⟩

theorem frameSize_single (hd : depay.Agrees P) (hP : P p) :
    frameSize depay [some p] < 2 ^ 32 := by
  obtain ⟨n, st, hn, hsize⟩ := hd.size_eq hP true
  have := n.isLt
  simp only [frameSize, List.filterMap_cons, id, List.filterMap_nil, packetsSize]
  omega

theorem FrameInv.lastNonNull (h : FrameInv depay l s) (k : UINT16) :
    FrameInv depay l { s with lastNonNullIndex := k } :=
  ⟨h.timestamps, h.seen, h.sawGap, h.firstGap, h.lastHead, h.ended, h.contiguous, h.size, h.first,
    h.start⟩

/-- The state in which the next round starts. -/
def advance (s : ParseState) : ParseState := { s with index := s.index + 1 }

theorem FrameInv.advance (h : FrameInv depay l s) : FrameInv depay l (advance s) :=
  ⟨h.timestamps, h.seen, h.sawGap, h.firstGap, h.lastHead, h.ended, h.contiguous, h.size, h.first,
    h.start⟩

/-- What is known of a round that starts at `s`: its calls, when they are about whole frames, and
the invariant for the round after it. -/
def RoundSpec (depay : DepayRtpPayloadFunc) (P : InboundRtpPacket → Prop) (s : ParseState)
    (r : ParseState × Flow) : Prop :=
  ∃ new, r.1.calls = s.calls ++ new ∧
    ((∀ c ∈ new, c.Whole depay) ↔ StepSound depay s) ∧
    Holds P r.1.buffer.pPkgBufferHashTable ∧
    (r.2 = .next → FrameInv depay (frameSlots (advance r.1)) (advance r.1) ∧
      (r.1.index + 1 - r.1.startDropIndex).toNat ≤ (s.index - s.startDropIndex).toNat + 1)

theorem gapStep_spec (hT : Holds P s.buffer.pPkgBufferHashTable) (h : FrameInv depay (frameSlots s) s)
    (hspan : (s.index - s.startDropIndex).toNat < 65535)
    (hp : s.buffer.pPkgBufferHashTable s.index = none) :
    RoundSpec depay P s (gapStep closed earliest s) := by
  refine ⟨[], by simp [gapStep, noteGap], ?_, hT, fun _ => ?_⟩
  · constructor
    · intro _ p hp'
      rw [hp] at hp'
      cases hp'
    · intro _ c hm
      cases hm
  · have hslots : frameSlots (advance (noteGap s)) = frameSlots s ++ [none] := by
      rw [← hp]
      exact slots_upTo_index hspan
    refine ⟨?_, (toNat_succ_sub hspan).le⟩
    have hnext := (h.noteGap (index_eq s)).advance
    rw [← hslots] at hnext
    exact hnext

theorem packetStep_spec (hd : depay.Agrees P) (hT : Holds P s.buffer.pPkgBufferHashTable)
    (h : FrameInv depay (frameSlots s) s)
    (hspan : (s.index - s.startDropIndex).toNat < 65535)
    (hp : s.buffer.pPkgBufferHashTable s.index = some p) :
    RoundSpec depay P s (packetStep depay answers closed earliest s p) := by
  have h' := h.lastNonNull s.index
  have hsound : StepSound depay s ↔ (Completes depay s p → ¬ GapNoticed s p →
      none ∉ frameSlots s ∧ frameSize depay (completedFrame s p) < 2 ^ 32) := by
    constructor
    · intro hs
      exact hs p hp
    · intro hs q hq
      rw [hp] at hq
      cases hq
      exact hs
  have hslots := slots_upTo_index hspan
  rw [hp] at hslots
  unfold packetStep
  by_cases hts : p.header.timestamp = s.buffer.headTimestamp
  · -- the packet belongs to the head frame
    rw [if_pos hts]
    have hnoted := h'.noteHeadPacket (p := p) (index_eq s) hts
    obtain ⟨new, hcalls, hwhole, hT', hnext⟩ :=
      countPacket_spec answers (s := noteHeadPacket { s with lastNonNullIndex := s.index } p)
        hd hT (hT _ _ hp) hnoted hslots
    refine ⟨new, hcalls, ?_, hT', fun hf => ?_⟩
    · have hgap : GapNoticed s p ↔ InnerGap (endsFrame s.buffer) (frameSlots s) := by
        simp [GapNoticed, hts]
      rw [hwhole, hsound, hgap, Completes, if_pos hts, completedFrame, if_pos hts]
      rfl
    · obtain ⟨hinv, hindex, hdrop, hbuffer⟩ := hnext hf
      have hslots' : frameSlots (advance (countPacket depay answers
          (noteHeadPacket { s with lastNonNullIndex := s.index } p) p).1) =
          frameSlots s ++ [some p] := by
        rw [← hslots]
        simp only [frameSlots, advance, hindex, hdrop, hbuffer]
        rfl
      rw [hslots', hindex, hdrop]
      exact ⟨hinv.advance, (toNat_succ_sub hspan).le⟩
  · -- the packet starts another frame
    rw [if_neg hts]
    have hcond : StepSound depay s ↔ (s.containStartForEarliestFrame = true → ¬ GapNoticed s p →
        none ∉ frameSlots s ∧ frameSize depay (frameSlots s) < 2 ^ 32) := by
      rw [hsound, Completes, if_neg hts, completedFrame, if_neg hts]
    obtain ⟨new, hcalls, hwhole, hT', hnext⟩ := changeFrame_spec answers closed earliest
      (s := { s with lastNonNullIndex := s.index }) hd hT h' hp hts
    have hwhole : (∀ c ∈ new, c.Whole depay) ↔ StepSound depay s := hwhole.trans hcond.symm
    split
    · rename_i s1 hs1
      rw [hs1] at hcalls hT' hnext
      obtain ⟨hnoted, hindex, hdrop, htable⟩ := hnext rfl
      have hone : slots s1.buffer.pPkgBufferHashTable s1.startDropIndex
          (s1.index + 1 - s1.startDropIndex).toNat = [] ++ [some p] := by
        have hlen : (s1.index + 1 - s1.startDropIndex).toNat = 0 + 1 := by
          rw [hindex, hdrop, BitVec.add_comm, BitVec.add_sub_cancel]
          rfl
        rw [hlen, slots_succ, hdrop]
        change [] ++ [s1.buffer.pPkgBufferHashTable (s.index + 0#16)] = [] ++ [some p]
        rw [BitVec.add_zero, htable]
      obtain ⟨new', hcalls', hwhole', hT'', hnext'⟩ :=
        countPacket_spec answers hd hT' (hT _ _ hp) hnoted hone
      refine ⟨new ++ new', ?_, ?_, hT'', fun hf => ?_⟩
      · rw [hcalls', hcalls, List.append_assoc]
      · have htrivial : ∀ c ∈ new', c.Whole depay :=
          hwhole'.mpr fun _ _ => ⟨by simp, frameSize_single hd (hT _ _ hp)⟩
        rw [← hwhole, List.forall_mem_append]
        exact ⟨fun hall => hall.1, fun hall => ⟨hall, htrivial⟩⟩
      · obtain ⟨hinv, hindex', hdrop', hbuffer'⟩ := hnext' hf
        have hslots' : frameSlots (advance (countPacket depay answers s1 p).1) =
            [] ++ [some p] := by
          rw [← hone]
          simp only [frameSlots, advance, hindex', hdrop', hbuffer']
        rw [hslots', hindex', hdrop', hindex, hdrop]
        refine ⟨hinv.advance, ?_⟩
        rw [BitVec.add_comm, BitVec.add_sub_cancel]
        exact Nat.le_add_left _ _
    · rename_i s1 flow hne hs1
      rw [hs1] at hcalls hT'
      exact ⟨new, hcalls, hwhole, hT', fun hf => absurd hf hne⟩

/-- **One round.** -/
theorem parseStep_spec (hd : depay.Agrees P) (hT : Holds P s.buffer.pPkgBufferHashTable)
    (h : FrameInv depay (frameSlots s) s)
    (hspan : (s.index - s.startDropIndex).toNat < 65535) :
    RoundSpec depay P s (parseStep depay answers closed earliest s) := by
  unfold parseStep
  split
  · rename_i hp
    exact gapStep_spec closed earliest hT h hspan hp
  · rename_i p hp
    exact packetStep_spec answers closed earliest hd hT h hspan hp

end Round

/-! ## Scans and runs -/

section Run

variable (depay : DepayRtpPayloadFunc) (answers : Nat → Bool)

/-- Every round of the scan from `s` on is sound. -/
def LoopSound (earliest : UINT32) : Nat → ParseState → Prop
  | 0, _ => True
  | n + 1, s => StepSound depay s ∧
    ((parseStep depay answers false earliest s).2 = .next →
      LoopSound earliest n (advance (parseStep depay answers false earliest s).1))

/-- Every round of the scan in a push is sound. -/
def PushSound (h : History) (p : InboundRtpPacket) : Prop :=
  (insertPacket h.buffer p).scan = true → (insertPacket h.buffer p).buffer.started = true →
    LoopSound depay answers (earliestAllowed (insertPacket h.buffer p).buffer)
      (windowLength (insertPacket h.buffer p).buffer)
      (parseStart (insertPacket h.buffer p).buffer h.calls)

variable {depay} {P : InboundRtpPacket → Prop}

theorem parseLoop_spec (hd : depay.Agrees P) (earliest : UINT32) (n : Nat) :
    ∀ s : ParseState, Holds P s.buffer.pPkgBufferHashTable → FrameInv depay (frameSlots s) s →
      (s.index - s.startDropIndex).toNat + n ≤ 65535 →
      ∃ new, (parseLoop depay answers false earliest n s).1.calls = s.calls ++ new ∧
        ((∀ c ∈ new, c.Whole depay) ↔ LoopSound depay answers earliest n s) ∧
        Holds P (parseLoop depay answers false earliest n s).1.buffer.pPkgBufferHashTable := by
  induction n with
  | zero =>
    intro s hT _ _
    exact ⟨[], by simp [parseLoop], by simp [LoopSound], hT⟩
  | succ n ih =>
    intro s hT h hspan
    obtain ⟨new, hcalls, hwhole, hT', hnext⟩ :=
      parseStep_spec answers false earliest hd hT h (by omega)
    simp only [parseLoop, LoopSound]
    cases hr : parseStep depay answers false earliest s with
    | mk s1 flow =>
      rw [hr] at hcalls hT' hnext
      cases flow with
      | next =>
        obtain ⟨hinv, hle⟩ := hnext rfl
        obtain ⟨new', hcalls', hwhole', hT''⟩ := ih (advance s1) hT' hinv
          (by simp only [advance] at hle ⊢; omega)
        refine ⟨new ++ new', ?_, ?_, hT''⟩
        · change (parseLoop depay answers false earliest n (advance s1)).1.calls = _
          rw [hcalls']
          change s1.calls ++ new' = _
          rw [hcalls, List.append_assoc]
        · rw [List.forall_mem_append, hwhole, hwhole']
          simp
      | leave => exact ⟨new, hcalls, by simp [hwhole], hT'⟩
      | done ok => exact ⟨new, hcalls, by simp [hwhole], hT'⟩

theorem holds_insertPacket {b : JitterBufferInternal} (hT : Holds P b.pPkgBufferHashTable)
    {p : InboundRtpPacket} (hp : P p) :
    Holds P (insertPacket b p).buffer.pPkgBufferHashTable := by
  intro k q hq
  rcases insertPacket_table b p with htable | htable
  · rw [htable] at hq
    exact hT k q hq
  · rw [htable] at hq
    by_cases hk : k = p.header.sequenceNumber
    · rw [hk, Function.update_self, Option.some.injEq] at hq
      exact hq ▸ hp
    · rw [Function.update_of_ne hk] at hq
      exact hT k q hq

theorem push_spec (hd : depay.Agrees P) {h : History} (hT : Holds P h.buffer.pPkgBufferHashTable)
    {p : InboundRtpPacket} (hp : P p) :
    ∃ new, (h.push depay answers p).calls = h.calls ++ new ∧
      ((∀ c ∈ new, c.Whole depay) ↔ PushSound depay answers h p) ∧
      Holds P (h.push depay answers p).buffer.pPkgBufferHashTable := by
  have hT' := holds_insertPacket hT hp
  unfold History.push defaultPush PushSound
  dsimp only
  split
  · rename_i hscan
    unfold jitterBufferInternalParse
    split
    · rename_i hstarted
      have hspan : ((parseStart (insertPacket h.buffer p).buffer h.calls).index -
          (parseStart (insertPacket h.buffer p).buffer h.calls).startDropIndex).toNat = 0 := by
        simp [parseStart]
      have hslots : frameSlots (parseStart (insertPacket h.buffer p).buffer h.calls) = [] := by
        rw [frameSlots, hspan, slots_zero]
      have hwin : windowLength (insertPacket h.buffer p).buffer < 2 ^ 16 := BitVec.isLt _
      obtain ⟨new, hcalls, hwhole, hT''⟩ := parseLoop_spec answers hd
        (earliestAllowed (insertPacket h.buffer p).buffer)
        (windowLength (insertPacket h.buffer p).buffer)
        (parseStart (insertPacket h.buffer p).buffer h.calls) hT'
        (by rw [hslots]; exact frameInv_parseStart _ _) (by omega)
      refine ⟨new, ?_, by simp [hwhole, hscan, hstarted], ?_⟩
      · have hcalls : _ = h.calls ++ new := hcalls
        generalize parseLoop depay answers false _ _ _ = r at hcalls ⊢
        obtain ⟨s1, flow⟩ := r
        cases flow with
        | next => exact hcalls
        | leave => exact hcalls
        | done ok => exact hcalls
      · generalize parseLoop depay answers false _ _ _ = r at hT'' ⊢
        obtain ⟨s1, flow⟩ := r
        cases flow with
        | next => exact hT''
        | leave => exact hT''
        | done ok => exact hT''
    · rename_i hstarted
      exact ⟨[], by simp, by simp [hstarted], hT'⟩
  · rename_i hscan
    exact ⟨[], by simp, by simp [hscan], hT'⟩

theorem pushAll_spec (hd : depay.Agrees P) {b : JitterBufferInternal}
    (hb : Holds P b.pPkgBufferHashTable) (ps : List InboundRtpPacket) (hps : ∀ p ∈ ps, P p) :
    ((∀ c ∈ (pushAll depay answers b ps).calls, c.Whole depay) ↔
      ∀ q p, q ++ [p] <+: ps → PushSound depay answers (pushAll depay answers b q) p) ∧
    Holds P (pushAll depay answers b ps).buffer.pPkgBufferHashTable := by
  induction ps using List.reverseRecOn with
  | nil => exact ⟨by simp [pushAll], hb⟩
  | append_singleton ps p ih =>
    obtain ⟨ih, hT⟩ := ih (fun q hq => hps q (List.mem_append_left _ hq))
    obtain ⟨new, hcalls, hwhole, hT'⟩ :=
      push_spec answers hd hT (hps p (List.mem_append_right _ (List.mem_singleton_self p)))
    rw [pushAll_concat, hcalls, List.forall_mem_append, ih, hwhole]
    refine ⟨?_, hT'⟩
    constructor
    · rintro ⟨hearlier, hlast⟩ q r hq
      rcases List.prefix_concat_iff.mp hq with heq | hq
      · obtain ⟨rfl, hr⟩ := List.append_inj' heq rfl
        obtain rfl : r = p := by simpa using hr
        exact hlast
      · exact hearlier q r hq
    · intro hall
      refine ⟨fun q r hq => hall q r (hq.trans (List.prefix_append ps [p])), ?_⟩
      exact hall ps p (List.prefix_refl _)

/-- **Whole frames.**  For every buffer that `createJitterBuffer` makes, every sequence of packets
whose payloads the depayloader accepts, and every answers of the callbacks: all ranges that are
reported are whole frames exactly when every round of every scan is sound. -/
theorem frames_whole_iff {maxLatency clockRate : UINT32} {alwaysSinglePacketFrames : Bool}
    {b : JitterBufferInternal}
    (hb : createJitterBuffer maxLatency clockRate alwaysSinglePacketFrames = some b)
    (ps : List InboundRtpPacket) (hd : depay.Agrees (· ∈ ps)) :
    (∀ c ∈ (pushAll depay answers b ps).calls, c.Whole depay) ↔
      ∀ q p, q ++ [p] <+: ps → PushSound depay answers (pushAll depay answers b q) p := by
  have hempty : Holds (· ∈ ps) b.pPkgBufferHashTable := by
    unfold createJitterBuffer at hb
    split at hb
    · cases hb
    · cases hb
      intro k p hk
      cases hk
  exact (pushAll_spec answers hd hempty ps (fun _ hp => hp)).1

end Run

/-! ## Sample runs -/

/-- A depayloader that passes the payload on. -/
def passThrough : DepayRtpPayloadFunc where
  size payload _ := some (BitVec.ofNat 32 payload.length, payload == [1])
  copy payload room _ := if payload.length ≤ room.toNat then some payload else none

theorem length_payloadBytes_lt (p : InboundRtpPacket) : (payloadBytes p).length < 2 ^ 32 := by
  have := p.payloadLength.isLt
  simp only [payloadBytes, List.length_take]
  omega

theorem passThrough_agrees {P : InboundRtpPacket → Prop} : passThrough.Agrees P where
  accepts _ _ _ := rfl
  fits p _ first n st m hn hm := by
    have hlt := length_payloadBytes_lt p
    simp only [passThrough, Option.some.injEq, Prod.mk.injEq] at hn ⊢
    rw [← hn.1, BitVec.toNat_ofNat, Nat.mod_eq_of_lt hlt] at hm
    exact ⟨payloadBytes p, if_pos hm⟩
  length p _ first n st m bytes hn hcopy := by
    have hlt := length_payloadBytes_lt p
    simp only [passThrough, Option.some.injEq, Prod.mk.injEq] at hn
    simp only [passThrough, Option.ite_none_right_eq_some, Option.some.injEq] at hcopy
    rw [← hn.1, ← hcopy.2, BitVec.toNat_ofNat, Nat.mod_eq_of_lt hlt]

/-- A buffer with two seconds of latency at 90 kHz. -/
def sampleBuffer : JitterBufferInternal :=
  (createJitterBuffer 0 90000 false).get (by decide)

theorem createJitterBuffer_sample : createJitterBuffer 0 90000 false = some sampleBuffer :=
  (Option.some_get _).symm

/-- Two frames, of two packets and of one. -/
def twoFrames : List InboundRtpPacket :=
  [samplePacket 5 100 false true, samplePacket 6 100 true false, samplePacket 7 200 true true]

/-- A test for whole frames of one byte a packet. -/
def wholeCheck (c : Call) : Bool :=
  match c.event with
  | .ready start last size =>
    let l := slots c.table start (last + 1 - start).toNat
    let timestamp := l.head?.bind (·.map (·.header.timestamp))
    l.all (fun x => x.isSome && x.map (·.header.timestamp) = timestamp)
      && size = BitVec.ofNat 32 (frameSize passThrough l) && frameSize passThrough l < 2 ^ 32
  | .dropped _ _ _ => true

theorem whole_of_wholeCheck {c : Call} (h : wholeCheck c = true) : c.Whole passThrough := by
  unfold wholeCheck at h
  unfold Call.Whole
  split at h
  · rename_i start last size he
    simp only [Bool.and_eq_true, List.all_eq_true, decide_eq_true_eq] at h
    obtain ⟨⟨hall, rfl⟩, hsize⟩ := h
    have hts : ∀ p, some p ∈ slots c.table start (last + 1 - start).toNat →
        p.header.timestamp = ((slots c.table start (last + 1 - start).toNat).head?.bind
          (·.map (·.header.timestamp))).getD 0 := by
      intro p hp
      rw [← (hall _ hp).2]
      rfl
    refine (wholeFrame_iff (P := fun _ => True) passThrough_agrees (fun _ _ _ => trivial) rfl
      hts).mpr ⟨fun hnone => ?_, hsize⟩
    exact absurd (hall _ hnone).1 (by simp)
  · trivial

/-- Both frames are reported whole, so every round was sound. -/
theorem frames_whole_two_frames :
    (pushAll passThrough (fun _ => true) sampleBuffer twoFrames).calls.map (·.event) =
      [.ready 5 6 2, .ready 7 7 1] ∧
    ∀ q p, q ++ [p] <+: twoFrames → PushSound passThrough (fun _ => true)
      (pushAll passThrough (fun _ => true) sampleBuffer q) p := by
  refine ⟨by decide +kernel, ?_⟩
  apply (frames_whole_iff (fun _ => true) createJitterBuffer_sample twoFrames
    passThrough_agrees).mp
  have hall : (pushAll passThrough (fun _ => true) sampleBuffer twoFrames).calls.all wholeCheck =
      true := by decide +kernel
  intro c hc
  exact whole_of_wholeCheck (List.all_eq_true.mp hall c hc)

/-- The first frame is packet 5, which ends it; packet 6 is lost and packet 7 comes more than the
latency later.  The frame is reported as the range from 5 to 6. -/
theorem gap_behind_first_frame_reported :
    passThrough.Agrees (· ∈ [samplePacket 5 100 true true, samplePacket 7 1000100 true true]) ∧
    ¬ ∀ c ∈ (pushAll passThrough (fun _ => true) sampleBuffer
      [samplePacket 5 100 true true, samplePacket 7 1000100 true true]).calls,
        c.Whole passThrough := by
  refine ⟨passThrough_agrees, fun hall => ?_⟩
  have hfirst : (pushAll passThrough (fun _ => true) sampleBuffer
      [samplePacket 5 100 true true, samplePacket 7 1000100 true true]).calls.head?.map
        (fun c => (c.event, c.table 6)) = some (.ready 5 6 1, none) := by decide +kernel
  rw [Option.map_eq_some_iff] at hfirst
  obtain ⟨c, hc, heq⟩ := hfirst
  rw [Prod.mk.injEq] at heq
  have hwhole := hall c (List.mem_of_head? hc)
  unfold Call.Whole at hwhole
  rw [heq.1] at hwhole
  obtain ⟨⟨t, hpresent⟩, -⟩ := hwhole
  obtain ⟨p, hp, -⟩ := hpresent 1 (by decide)
  have hsix : c.table 6 = some p := hp
  rw [heq.2] at hsix
  cases hsix

end KvsWebrtc.Jitter
