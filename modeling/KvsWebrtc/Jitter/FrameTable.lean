import KvsWebrtc.Jitter.RealTime
import KvsWebrtc.Lib.SlotTable
import Mathlib.Data.List.Nodup
import Mathlib.Data.List.Perm.Basic
import Mathlib.Data.List.FinRange

/-!
# The ring and the frame table of the real-time jitter buffer

What the operations on the table and on the ring come to, independent of the places the entries stand
in: an entry is removed by swapping (`rtRemoveFrame_eq`), a range of sequence numbers is freed by
leaving out its packets (`freePackets_ring`), and dropping data removes exactly the frames left without
a packet.

Principal results:

* `rtDropBufferData_eq` — what is left in the table when a range is dropped;
* `rtTimestampCompare_eq` — the comparison of timestamps is the order of their distances from the
  pivot, and `rtFindEarliestFrame_eq_some` the least frame in it.
-/

namespace KvsWebrtc.Jitter

open Rtp

variable {b b' : RealTimeJitterBuffer} {p : InboundRtpPacket} {f g : RtFrameEntry}

/-- The timestamps of the frames. -/
def timestamps (b : RealTimeJitterBuffer) : List UINT32 := b.frames.map (·.timestamp)

/-- What a frame keeps while its packets are counted. -/
def span (f : RtFrameEntry) : UINT32 × UINT16 × UINT16 := (f.timestamp, f.firstSeqNum, f.lastSeqNum)

def spans (b : RealTimeJitterBuffer) : List (UINT32 × UINT16 × UINT16) := b.frames.map span

theorem timestamps_eq_spans (b : RealTimeJitterBuffer) : timestamps b = (spans b).map (·.1) := by
  simp [timestamps, spans, span, Function.comp_def]

/-! ## Removing an entry -/

theorem rtRemoveFrame_last {front : List RtFrameEntry} (h : b.frames = front ++ [f]) :
    rtRemoveFrame b front.length = { b with frames := front, stale := f :: b.stale } := by
  simp [rtRemoveFrame, h]

theorem rtRemoveFrame_inner {front back : List RtFrameEntry}
    (h : b.frames = front ++ f :: (back ++ [g])) :
    rtRemoveFrame b front.length = { b with frames := front ++ g :: back, stale := g :: b.stale } := by
  have hlast : b.frames.getLast? = some g := by
    rw [h, ← List.cons_append, ← List.append_assoc, List.getLast?_concat]
  have hlt : front.length < b.frames.length - 1 := by simp [h]
  simp only [rtRemoveFrame, hlast, if_pos hlt]
  rw [h, List.set_append_right _ _ le_rfl, Nat.sub_self, List.set_cons_zero, ← List.cons_append,
    ← List.append_assoc, List.dropLast_concat]

theorem rtRemoveFrame_eq {i : Nat} (h : b.frames[i]? = some f) :
    ∃ front back back' moved, b.frames = front ++ f :: back ∧ front.length = i ∧
      back'.Perm back ∧
      rtRemoveFrame b i = { b with frames := front ++ back', stale := moved :: b.stale } := by
  obtain ⟨hi, hf⟩ := List.getElem?_eq_some_iff.mp h
  have hsplit : b.frames = b.frames.take i ++ f :: b.frames.drop (i + 1) := by
    rw [← hf, List.getElem_cons_drop, List.take_append_drop]
  have hlen : (b.frames.take i).length = i := by
    rw [List.length_take]
    omega
  rcases List.eq_nil_or_concat (b.frames.drop (i + 1)) with hnil | ⟨back, g, hback⟩
  · rw [hnil] at hsplit
    have hrun := rtRemoveFrame_last hsplit
    rw [hlen] at hrun
    exact ⟨_, [], [], f, hsplit, hlen, List.Perm.refl _, by rw [hrun, List.append_nil]⟩
  · rw [hback, List.concat_eq_append] at hsplit
    have hrun := rtRemoveFrame_inner hsplit
    rw [hlen] at hrun
    exact ⟨_, back ++ [g], g :: back, g, hsplit, hlen, (List.perm_append_singleton g back).symm,
      hrun⟩

/-! ## The packets of the ring -/

abbrev Ring : Type := Fin RT_PKT_RING_SIZE → Option InboundRtpPacket

/-- Every packet is in the slot of its number. -/
def RingPlaced (ring : Ring) : Prop :=
  ∀ slot p, ring slot = some p → ringSlot p.header.sequenceNumber = slot

def ringPackets (ring : Ring) : List InboundRtpPacket :=
  (List.finRange RT_PKT_RING_SIZE).filterMap ring

/-- A number of the range that the loops go through. -/
def InRange (first last seq : UINT16) : Prop := Serial.ahead first seq ≤ Serial.ahead first last

instance (first last seq : UINT16) : Decidable (InRange first last seq) :=
  inferInstanceAs (Decidable (_ ≤ _))

theorem packetAt_eq_some {seq : UINT16} :
    packetAt b seq = some p ↔
      b.pktRing (ringSlot seq) = some p ∧ p.header.sequenceNumber = seq := by
  unfold packetAt
  cases b.pktRing (ringSlot seq) with
  | none => simp
  | some q =>
    by_cases hq : q.header.sequenceNumber = seq
    · simp only [if_pos hq, Option.some.injEq]
      constructor
      · rintro rfl
        exact ⟨rfl, hq⟩
      · exact fun h => h.1
    · simp only [if_neg hq, reduceCtorEq, Option.some.injEq, false_iff]
      rintro ⟨rfl, h⟩
      exact hq h

theorem RingPlaced.packetAt (h : RingPlaced b.pktRing) {slot : Fin RT_PKT_RING_SIZE}
    (hp : b.pktRing slot = some p) : packetAt b p.header.sequenceNumber = some p :=
  packetAt_eq_some.mpr ⟨by rw [h slot p hp, hp], rfl⟩

theorem ringPackets_update_none {ring : Ring} {slot : Fin RT_PKT_RING_SIZE}
    (h : ring slot = some p) :
    (p :: ringPackets (Function.update ring slot none)).Perm (ringPackets ring) :=
  SlotTable.filterMap_update_none (List.nodup_finRange _) (List.mem_finRange slot) h

theorem ringPackets_update (ring : Ring) (slot : Fin RT_PKT_RING_SIZE)
    (o : Option InboundRtpPacket) :
    ((ring slot).toList ++ ringPackets (Function.update ring slot o)).Perm
      (o.toList ++ ringPackets ring) :=
  SlotTable.filterMap_update (List.nodup_finRange _) (List.mem_finRange slot) ring o

/-! ## Freeing a range -/

theorem freePacketAt_frames (b : RealTimeJitterBuffer) (frames : List RtFrameEntry)
    (seq : UINT16) :
    freePacketAt { b with frames := frames } seq = { freePacketAt b seq with frames := frames } := by
  unfold freePacketAt
  rw [show packetAt { b with frames := frames } seq = packetAt b seq from rfl]
  split <;> rfl

theorem freePackets_frames (frames : List RtFrameEntry) (n : Nat) (seq : UINT16)
    (b : RealTimeJitterBuffer) :
    freePackets n seq { b with frames := frames } =
      { freePackets n seq b with frames := frames } := by
  induction n generalizing seq b with
  | zero => rfl
  | succ n ih => rw [freePackets, freePacketAt_frames, ih, freePackets]

theorem freePackets_eq (n : Nat) (seq : UINT16) (b : RealTimeJitterBuffer) :
    ∃ ring freed, freePackets n seq b = { b with pktRing := ring, freed := freed } := by
  induction n generalizing seq b with
  | zero => exact ⟨b.pktRing, b.freed, rfl⟩
  | succ n ih =>
    obtain ⟨ring, freed, h⟩ := ih (seq + 1) (freePacketAt b seq)
    refine ⟨ring, freed, ?_⟩
    rw [freePackets, h]
    unfold freePacketAt
    split <;> rfl

theorem freePacketAt_ring (h : RingPlaced b.pktRing) (seq : UINT16)
    (slot : Fin RT_PKT_RING_SIZE) :
    (freePacketAt b seq).pktRing slot =
      (b.pktRing slot).filter fun p => p.header.sequenceNumber ≠ seq := by
  cases hat : packetAt b seq with
  | none =>
    rw [freePacketAt, hat]
    cases hslot : b.pktRing slot with
    | none => rfl
    | some p =>
      have hne : p.header.sequenceNumber ≠ seq := by
        rintro rfl
        rw [h.packetAt hslot] at hat
        cases hat
      rw [Option.filter_some, if_pos (by simp [hne])]
  | some p =>
    obtain ⟨hp, hseq⟩ := packetAt_eq_some.mp hat
    rw [freePacketAt, hat]
    by_cases hslot : slot = ringSlot seq
    · rw [hslot, hp, Option.filter_some, if_neg (by simp [hseq])]
      exact Function.update_self _ _ _
    · simp only [Function.update_of_ne hslot]
      cases hq : b.pktRing slot with
      | none => rfl
      | some q =>
        have hne : q.header.sequenceNumber ≠ seq := by
          rintro rfl
          exact hslot (h slot q hq).symm
        rw [Option.filter_some, if_pos (by simp [hne])]

theorem RingPlaced.of_sub {ring ring' : Ring} (h : RingPlaced ring)
    (hsub : ∀ slot p, ring' slot = some p → ring slot = some p) : RingPlaced ring' :=
  fun slot p hp => h slot p (hsub slot p hp)

theorem freePacketAt_sub (seq : UINT16) (slot : Fin RT_PKT_RING_SIZE)
    (hp : (freePacketAt b seq).pktRing slot = some p) : b.pktRing slot = some p := by
  unfold freePacketAt at hp
  split at hp
  · by_cases hslot : slot = ringSlot seq
    · simp [hslot] at hp
    · simpa [Function.update_of_ne hslot, freePacket] using hp
  · exact hp

theorem freePackets_ring {n : Nat} {seq : UINT16} (h : RingPlaced b.pktRing) (hn : n ≤ 2 ^ 16)
    (slot : Fin RT_PKT_RING_SIZE) :
    (freePackets n seq b).pktRing slot =
      (b.pktRing slot).filter fun p => n ≤ Serial.ahead seq p.header.sequenceNumber := by
  induction n generalizing seq b with
  | zero => cases hslot : b.pktRing slot <;> simp [freePackets, hslot, Option.filter_some]
  | succ n ih =>
    rw [freePackets, ih (h.of_sub fun slot p => freePacketAt_sub seq slot) (by omega),
      freePacketAt_ring h, Option.filter_filter]
    congr 1
    funext p
    by_cases hp : p.header.sequenceNumber = seq
    · simp [hp]
    · have hsucc : Serial.ahead seq p.header.sequenceNumber =
          Serial.ahead (seq + 1) p.header.sequenceNumber + 1 := Serial.ahead_succ (by decide) hp
      simp [hp, hsucc]

theorem rtFreePacketsInRange_ring (h : RingPlaced b.pktRing) (first last : UINT16)
    (slot : Fin RT_PKT_RING_SIZE) :
    (rtFreePacketsInRange b first last).pktRing slot =
      (b.pktRing slot).filter fun p => ¬ InRange first last p.header.sequenceNumber := by
  have hlen : rangeLength first last ≤ 2 ^ 16 := Serial.ahead_lt first last
  rw [rtFreePacketsInRange, freePackets_ring h hlen]
  congr 1
  funext p
  refine decide_eq_decide.mpr ?_
  rw [InRange, rangeLength, Nat.not_le, Nat.lt_iff_add_one_le]

/-- Every packet of the ring is still there or has been freed. -/
def packets (b : RealTimeJitterBuffer) : List InboundRtpPacket := b.freed ++ ringPackets b.pktRing

theorem packets_freePacketAt (b : RealTimeJitterBuffer) (seq : UINT16) :
    (packets (freePacketAt b seq)).Perm (packets b) := by
  unfold freePacketAt
  split
  · rename_i p hp
    have hring := (ringPackets_update_none (packetAt_eq_some.mp hp).1).append_left b.freed
    rw [List.append_cons] at hring
    exact hring
  · exact List.Perm.refl _

theorem packets_freePackets (n : Nat) (seq : UINT16) (b : RealTimeJitterBuffer) :
    (packets (freePackets n seq b)).Perm (packets b) := by
  induction n generalizing seq b with
  | zero => exact List.Perm.refl _
  | succ n ih => exact (ih (seq + 1) _).trans (packets_freePacketAt b seq)

theorem freePackets_sub {n : Nat} {seq : UINT16} {slot : Fin RT_PKT_RING_SIZE}
    (hp : (freePackets n seq b).pktRing slot = some p) : b.pktRing slot = some p := by
  induction n generalizing seq b with
  | zero => exact hp
  | succ n ih => exact freePacketAt_sub seq slot (ih hp)

/-! ## Dropping data -/

/-- Whether a packet is left in the range of a frame. -/
def spanHeld (b : RealTimeJitterBuffer) (s : UINT32 × UINT16 × UINT16) : Bool :=
  (Serial.numbers s.2.1 (rangeLength s.2.1 s.2.2)).any fun seq => (packetAt b seq).isSome

theorem spanHeld_iff (h : RingPlaced b.pktRing) {s : UINT32 × UINT16 × UINT16} :
    spanHeld b s = true ↔
      ∃ slot p, b.pktRing slot = some p ∧ InRange s.2.1 s.2.2 p.header.sequenceNumber := by
  have hlen : rangeLength s.2.1 s.2.2 ≤ 2 ^ 16 := Serial.ahead_lt _ _
  rw [spanHeld, List.any_eq_true]
  constructor
  · rintro ⟨seq, hseq, hat⟩
    obtain ⟨p, hp⟩ := Option.isSome_iff_exists.mp hat
    obtain ⟨hslot, rfl⟩ := packetAt_eq_some.mp hp
    refine ⟨_, p, hslot, ?_⟩
    have := (Serial.mem_numbers (by decide) hlen).mp hseq
    exact Nat.lt_succ_iff.mp this
  · rintro ⟨slot, p, hp, hin⟩
    refine ⟨p.header.sequenceNumber, ?_, by rw [h.packetAt hp]; rfl⟩
    rw [Serial.mem_numbers (by decide) hlen]
    exact Nat.lt_succ_iff.mpr hin

theorem map_modify_of_eq {α β : Type} {k : α → β} {u : α → α} (hu : ∀ x, k (u x) = k x)
    (l : List α) (i : Nat) : (l.modify i u).map k = l.map k := by
  apply List.ext_getElem?
  intro j
  rw [List.getElem?_map, List.getElem?_map, List.getElem?_modify]
  split
  · cases l[j]? with
    | none => rfl
    | some x => exact congrArg some (hu x)
  · cases l[j]? <;> rfl

theorem dropPacketAt_eq (b : RealTimeJitterBuffer) (index : UINT16) :
    ∃ frames, dropPacketAt b index = { freePacketAt b index with frames := frames } ∧
      frames.map span = spans b := by
  unfold dropPacketAt
  split
  · rename_i hnone
    refine ⟨b.frames, ?_, rfl⟩
    rw [freePacketAt, hnone]
  · rename_i p hp
    split
    · refine ⟨b.frames, ?_, rfl⟩
      rw [freePacketAt, hp]
      rfl
    · rename_i fi hfi
      refine ⟨_, freePacketAt_frames b _ index, map_modify_of_eq (fun f => ?_) _ _⟩
      split <;> rfl

theorem dropPackets_eq (n : Nat) (index : UINT16) (b : RealTimeJitterBuffer) :
    ∃ frames, dropPackets n index b = { freePackets n index b with frames := frames } ∧
      frames.map span = spans b := by
  induction n generalizing index b with
  | zero => exact ⟨b.frames, rfl, rfl⟩
  | succ n ih =>
    obtain ⟨frames, h, hframes⟩ := dropPacketAt_eq b index
    obtain ⟨frames', h', hframes'⟩ := ih (index + 1) (dropPacketAt b index)
    refine ⟨frames', ?_, ?_⟩
    · rw [dropPackets, h', h, freePackets_frames, freePackets]
    · rw [hframes', h]
      exact hframes

theorem removeEmpty_eq : ∀ (fuel i : Nat), b.frames.length ≤ fuel + i →
    ∃ frames stale, removeEmpty fuel i b = { b with frames := frames, stale := stale } ∧
      frames.Perm (b.frames.take i ++ (b.frames.drop i).filter (hasRemaining b)) := by
  intro fuel
  induction fuel generalizing b with
  | zero =>
    intro i hi
    refine ⟨b.frames, b.stale, rfl, ?_⟩
    rw [List.take_of_length_le (by omega), List.drop_of_length_le (by omega), List.filter_nil,
      List.append_nil]
  | succ fuel ih =>
    intro i hi
    rw [removeEmpty]
    split
    · rename_i hnone
      have hlen := List.getElem?_eq_none_iff.mp hnone
      refine ⟨b.frames, b.stale, rfl, ?_⟩
      rw [List.take_of_length_le hlen, List.drop_of_length_le hlen, List.filter_nil,
        List.append_nil]
    · rename_i f hf
      obtain ⟨front, back, back', moved, heq, hlen, hperm, hrem⟩ := rtRemoveFrame_eq hf
      have htake : b.frames.take i = front := by rw [heq, ← hlen, List.take_left]
      have hdrop : b.frames.drop i = f :: back := by rw [heq, ← hlen, List.drop_left]
      rw [htake, hdrop]
      split
      · rename_i hheld
        obtain ⟨frames, stale, hrun, hframes⟩ := ih (b := b) (i + 1) (by omega)
        refine ⟨frames, stale, hrun, ?_⟩
        have htake' : b.frames.take (i + 1) = front ++ [f] := by
          rw [heq, List.append_cons, ← hlen]
          exact List.take_left' (by simp)
        have hdrop' : b.frames.drop (i + 1) = back := by
          rw [heq, List.append_cons, ← hlen]
          exact List.drop_left' (by simp)
        rw [htake', hdrop', List.append_assoc] at hframes
        rwa [List.filter_cons_of_pos hheld]
      · rename_i hheld
        have hshort : (front ++ back').length ≤ fuel + i := by
          have := congrArg List.length heq
          simp only [List.length_append, List.length_cons, hperm.length_eq] at this ⊢
          omega
        obtain ⟨frames, stale, hrun, hframes⟩ := ih (b := rtRemoveFrame b i) i (by
          rw [hrem]
          exact hshort)
        rw [hrem] at hrun hframes
        refine ⟨frames, stale, by rw [hrem]; exact hrun, ?_⟩
        rw [List.filter_cons_of_neg hheld]
        rw [← hlen, List.take_left, List.drop_left] at hframes
        exact hframes.trans ((hperm.filter _).append_left front)

theorem exitOverflow_exitOverflow (b : RealTimeJitterBuffer) :
    exitOverflow (exitOverflow b) = exitOverflow b := by
  unfold exitOverflow
  rw [Bool.and_assoc, Bool.and_self, Bool.and_assoc, Bool.and_self]

theorem exitOverflow_rtUpdateHead (b : RealTimeJitterBuffer) :
    exitOverflow (rtUpdateHead b) = rtUpdateHead b := by
  unfold rtUpdateHead
  split
  · rfl
  · exact exitOverflow_exitOverflow _

/-- **Dropping a range frees its packets and removes exactly the frames left without one.** -/
theorem rtDropBufferData_eq (b : RealTimeJitterBuffer) (first last : UINT16) (next : UINT32) :
    ∃ frames stale, (frames.map span).Perm
        ((spans b).filter (spanHeld (rtFreePacketsInRange b first last))) ∧
      rtDropBufferData b first last next =
        let dropped := { rtFreePacketsInRange b first last with
          frames := frames
          stale := stale
          headSequenceNumber := last + 1
          headTimestamp := if next ≠ 0 then next else b.headTimestamp }
        if frames = [] then exitOverflow dropped else rtUpdateHead dropped := by
  obtain ⟨counted, hdrop, hcounted⟩ := dropPackets_eq (rangeLength first last) first b
  obtain ⟨ring, freed, hfree⟩ := freePackets_eq (rangeLength first last) first b
  obtain ⟨frames, stale, hrun, hframes⟩ := removeEmpty_eq
    (b := { rtFreePacketsInRange b first last with frames := counted }) counted.length 0 le_rfl
  refine ⟨frames, stale, ?_, ?_⟩
  · rw [List.take_zero, List.nil_append, List.drop_zero] at hframes
    refine (hframes.map span).trans ?_
    rw [← hcounted, List.filter_map]
    rfl
  · rw [rtDropBufferData, hdrop]
    dsimp only [rtFreePacketsInRange] at hrun ⊢
    rw [hrun]
    split
    · rw [hfree]
    · rw [exitOverflow_rtUpdateHead, hfree]

/-! ## What frees and removes -/

/-- From `b` to `b'` packets are freed and frames removed, and nothing is reported. -/
structure Trimmed (b b' : RealTimeJitterBuffer) : Prop where
  spans : (spans b').Subperm (spans b)
  ring : ∀ slot p, b'.pktRing slot = some p → b.pktRing slot = some p
  packets : (packets b').Perm (packets b)
  reports : b'.reports = b.reports
  tailTimestamp : b'.tailTimestamp = b.tailTimestamp
  started : b'.started = b.started

theorem Trimmed.refl (b : RealTimeJitterBuffer) : Trimmed b b :=
  ⟨List.Subperm.refl _, fun _ _ h => h, List.Perm.refl _, rfl, rfl, rfl⟩

theorem Trimmed.trans {b'' : RealTimeJitterBuffer} (h : Trimmed b b') (h' : Trimmed b' b'') :
    Trimmed b b'' where
  spans := h'.spans.trans h.spans
  ring := fun slot p hp => h.ring slot p (h'.ring slot p hp)
  packets := h'.packets.trans h.packets
  reports := h'.reports.trans h.reports
  tailTimestamp := h'.tailTimestamp.trans h.tailTimestamp
  started := h'.started.trans h.started

theorem Trimmed.timestamps (h : Trimmed b b') :
    (timestamps b').Subperm (Jitter.timestamps b) := by
  obtain ⟨l, hperm, hsub⟩ := h.spans
  rw [timestamps_eq_spans, timestamps_eq_spans]
  exact ⟨l.map _, hperm.map _, hsub.map _⟩

theorem trimmed_freePackets (n : Nat) (seq : UINT16) (b : RealTimeJitterBuffer) :
    Trimmed b (freePackets n seq b) := by
  have hring : ∀ slot p, (freePackets n seq b).pktRing slot = some p →
      b.pktRing slot = some p := fun _ _ hp => freePackets_sub hp
  have hpackets := packets_freePackets n seq b
  obtain ⟨ring, freed, h⟩ := freePackets_eq n seq b
  rw [h] at hring hpackets ⊢
  exact ⟨List.Subperm.refl _, hring, hpackets, rfl, rfl, rfl⟩

theorem trimmed_rtFreePacketsInRange (b : RealTimeJitterBuffer) (first last : UINT16) :
    Trimmed b (rtFreePacketsInRange b first last) := trimmed_freePackets _ _ b

theorem frames_rtFreePacketsInRange (b : RealTimeJitterBuffer) (first last : UINT16) :
    (rtFreePacketsInRange b first last).frames = b.frames := by
  obtain ⟨ring, freed, h⟩ := freePackets_eq (rangeLength first last) first b
  rw [rtFreePacketsInRange, h]

theorem frames_rtRemoveFrame {i : Nat} (h : b.frames[i]? = some f) :
    (f :: (rtRemoveFrame b i).frames).Perm b.frames := by
  obtain ⟨front, back, back', moved, heq, -, hperm, hrem⟩ := rtRemoveFrame_eq h
  rw [hrem, heq]
  exact List.perm_middle.symm.trans ((hperm.cons f).append_left front)

theorem trimmed_rtRemoveFrame {i : Nat} (h : b.frames[i]? = some f) :
    Trimmed b (rtRemoveFrame b i) := by
  have hspans : (span f :: spans (rtRemoveFrame b i)).Perm (spans b) :=
    (frames_rtRemoveFrame h).map span
  obtain ⟨front, back, back', moved, -, -, -, hrem⟩ := rtRemoveFrame_eq h
  rw [hrem] at hspans ⊢
  exact ⟨(List.sublist_cons_self _ _).subperm.trans hspans.subperm, fun _ _ h => h,
    List.Perm.refl _, rfl, rfl, rfl⟩

theorem trimmed_exitOverflow (b : RealTimeJitterBuffer) : Trimmed b (exitOverflow b) :=
  ⟨List.Subperm.refl _, fun _ _ h => h, List.Perm.refl _, rfl, rfl, rfl⟩

theorem trimmed_rtUpdateHead (b : RealTimeJitterBuffer) : Trimmed b (rtUpdateHead b) := by
  unfold rtUpdateHead
  split <;> exact ⟨List.Subperm.refl _, fun _ _ h => h, List.Perm.refl _, rfl, rfl, rfl⟩

theorem trimmed_delivered (b : RealTimeJitterBuffer) :
    Trimmed b (rtUpdateHead { b with hasDelivered := true }) := by
  have hmark : Trimmed b { b with hasDelivered := true } :=
    ⟨List.Subperm.refl _, fun _ _ h => h, List.Perm.refl _, rfl, rfl, rfl⟩
  exact hmark.trans (trimmed_rtUpdateHead _)

theorem frames_rtUpdateHead (b : RealTimeJitterBuffer) : (rtUpdateHead b).frames = b.frames := by
  unfold rtUpdateHead
  split <;> rfl

theorem trimmed_rtDropBufferData (b : RealTimeJitterBuffer) (first last : UINT16) (next : UINT32) :
    Trimmed b (rtDropBufferData b first last next) := by
  obtain ⟨frames, stale, hframes, hrun⟩ := rtDropBufferData_eq b first last next
  have hfree := trimmed_rtFreePacketsInRange b first last
  rw [hrun]
  have hdropped : Trimmed b { rtFreePacketsInRange b first last with
      frames := frames
      stale := stale
      headSequenceNumber := last + 1
      headTimestamp := if next ≠ 0 then next else b.headTimestamp } :=
    { hfree with spans := hframes.subperm.trans List.filter_sublist.subperm }
  dsimp only
  split
  · exact hdropped.trans (trimmed_exitOverflow _)
  · exact hdropped.trans (trimmed_rtUpdateHead _)

theorem trimmed_callFrameReady (answer : ReadyAnswer) (f : RtFrameEntry)
    (b : RealTimeJitterBuffer) : Trimmed b (callFrameReady answer f b) := by
  unfold callFrameReady
  split
  · exact Trimmed.refl b
  · exact trimmed_rtDropBufferData b _ _ _

theorem rtFindFrame_eq_none {ts : UINT32} : rtFindFrame b ts = none ↔ ts ∉ timestamps b := by
  simp [rtFindFrame, timestamps]

theorem rtFindFrame_eq_some {ts : UINT32} {i : Nat} (h : rtFindFrame b ts = some i) :
    ∃ f, b.frames[i]? = some f ∧ f.timestamp = ts := by
  obtain ⟨hi, hts, -⟩ := List.findIdx?_eq_some_iff_getElem.mp h
  exact ⟨b.frames[i], List.getElem?_eq_getElem hi, of_decide_eq_true hts⟩

theorem trimmed_removeReported (b : RealTimeJitterBuffer) (ts : UINT32) :
    Trimmed b (removeReported b ts) := by
  unfold removeReported
  split
  · exact Trimmed.refl b
  · rename_i i hi
    split
    · exact Trimmed.refl b
    · rename_i f hf
      refine (trimmed_rtFreePacketsInRange b _ _).trans (trimmed_rtRemoveFrame (f := f) ?_)
      rw [frames_rtFreePacketsInRange]
      exact hf

/-! ## What is gone -/

theorem gone_rtRemoveFrame {i : Nat} (hnodup : (timestamps b).Nodup)
    (h : b.frames[i]? = some f) : f.timestamp ∉ timestamps (rtRemoveFrame b i) := by
  have hperm : (f.timestamp :: timestamps (rtRemoveFrame b i)).Perm (timestamps b) :=
    (frames_rtRemoveFrame h).map _
  exact (List.nodup_cons.mp (hperm.nodup_iff.mpr hnodup)).1

theorem gone_removeReported {ts : UINT32} (hnodup : (timestamps b).Nodup) :
    ts ∉ timestamps (removeReported b ts) := by
  unfold removeReported
  split
  · rename_i hnone
    exact rtFindFrame_eq_none.mp hnone
  · rename_i i hi
    obtain ⟨f, hf, rfl⟩ := rtFindFrame_eq_some hi
    rw [hf]
    have hframes := frames_rtFreePacketsInRange b f.firstSeqNum f.lastSeqNum
    refine gone_rtRemoveFrame ?_ (by rw [hframes]; exact hf)
    rw [timestamps, hframes]
    exact hnodup

theorem timestamps_rtUpdateHead (b : RealTimeJitterBuffer) :
    timestamps (rtUpdateHead b) = timestamps b := by
  rw [timestamps, frames_rtUpdateHead, timestamps]

theorem eq_of_timestamp_eq (hnodup : (timestamps b).Nodup) (hf : f ∈ b.frames) (hg : g ∈ b.frames)
    (h : f.timestamp = g.timestamp) : f = g := List.inj_on_of_nodup_map hnodup hf hg h

theorem spanHeld_freed_iff (hplaced : RingPlaced b.pktRing) {first last : UINT16}
    {s : UINT32 × UINT16 × UINT16} :
    spanHeld (rtFreePacketsInRange b first last) s = true ↔
      ∃ slot p, b.pktRing slot = some p ∧ InRange s.2.1 s.2.2 p.header.sequenceNumber ∧
        ¬ InRange first last p.header.sequenceNumber := by
  have hplaced' : RingPlaced (rtFreePacketsInRange b first last).pktRing :=
    hplaced.of_sub (trimmed_rtFreePacketsInRange b _ _).ring
  rw [spanHeld_iff hplaced']
  constructor
  · rintro ⟨slot, p, hp, hin⟩
    rw [rtFreePacketsInRange_ring hplaced, Option.filter_eq_some_iff] at hp
    exact ⟨slot, p, hp.1, hin, of_decide_eq_true hp.2⟩
  · rintro ⟨slot, p, hp, hin, hout⟩
    refine ⟨slot, p, ?_, hin⟩
    rw [rtFreePacketsInRange_ring hplaced, Option.filter_eq_some_iff]
    exact ⟨hp, decide_eq_true hout⟩

theorem not_spanHeld_freed (hplaced : RingPlaced b.pktRing) (f : RtFrameEntry) :
    spanHeld (rtFreePacketsInRange b f.firstSeqNum f.lastSeqNum) (span f) = false := by
  rw [← Bool.not_eq_true, spanHeld_freed_iff hplaced]
  rintro ⟨slot, p, -, hin, hout⟩
  exact hout hin

/-- **A frame whose own range is dropped is gone.** -/
theorem gone_rtDropBufferData (hnodup : (timestamps b).Nodup) (hplaced : RingPlaced b.pktRing)
    (hf : f ∈ b.frames) (next : UINT32) :
    f.timestamp ∉ timestamps (rtDropBufferData b f.firstSeqNum f.lastSeqNum next) := by
  obtain ⟨frames, stale, hframes, hrun⟩ :=
    rtDropBufferData_eq b f.firstSeqNum f.lastSeqNum next
  have hgone : f.timestamp ∉ frames.map (·.timestamp) := by
    intro hmem
    obtain ⟨f', hf', hts⟩ := List.mem_map.mp hmem
    obtain ⟨hspan, hheld⟩ := List.mem_filter.mp (hframes.mem_iff.mp (List.mem_map_of_mem hf'))
    obtain ⟨g, hg, hgspan⟩ := List.mem_map.mp hspan
    have hgf : g = f := eq_of_timestamp_eq hnodup hg hf
      ((congrArg Prod.fst hgspan).trans hts)
    -- a packet left in the range would have been freed
    rw [← hgspan, hgf, not_spanHeld_freed hplaced] at hheld
    cases hheld
  rw [hrun]
  dsimp only
  split
  · exact hgone
  · rw [timestamps_rtUpdateHead]
    exact hgone

/-! ## What leaves the head -/

/-- Head, tail and the overflow state of the timestamps stay. -/
structure SameHead (b b' : RealTimeJitterBuffer) : Prop where
  headTimestamp : b'.headTimestamp = b.headTimestamp
  tailTimestamp : b'.tailTimestamp = b.tailTimestamp
  overflow : b'.timestampOverFlowState = b.timestampOverFlowState

theorem SameHead.trans {b'' : RealTimeJitterBuffer} (h : SameHead b b') (h' : SameHead b' b'') :
    SameHead b b'' :=
  ⟨h'.1.trans h.1, h'.2.trans h.2, h'.3.trans h.3⟩

theorem sameHead_rtFreePacketsInRange (b : RealTimeJitterBuffer) (first last : UINT16) :
    SameHead b (rtFreePacketsInRange b first last) := by
  obtain ⟨ring, freed, h⟩ := freePackets_eq (rangeLength first last) first b
  rw [rtFreePacketsInRange, h]
  exact ⟨rfl, rfl, rfl⟩

theorem sameHead_rtRemoveFrame (b : RealTimeJitterBuffer) (i : Nat) :
    SameHead b (rtRemoveFrame b i) := by
  unfold rtRemoveFrame
  split <;> exact ⟨rfl, rfl, rfl⟩

theorem sameHead_removeReported (b : RealTimeJitterBuffer) (ts : UINT32) :
    SameHead b (removeReported b ts) := by
  unfold removeReported
  split
  · exact ⟨rfl, rfl, rfl⟩
  · split
    · exact ⟨rfl, rfl, rfl⟩
    · exact (sameHead_rtFreePacketsInRange b _ _).trans (sameHead_rtRemoveFrame _ _)

/-! ## The earliest frame -/

/-- Where the order of the timestamps begins. -/
def pivot (b : RealTimeJitterBuffer) : UINT32 :=
  if b.timestampOverFlowState then b.headTimestamp else 0

/-- **Timestamps are compared by their distances from the pivot.** -/
theorem rtTimestampCompare_eq (b : RealTimeJitterBuffer) (x y : UINT32) :
    rtTimestampCompare b x y =
      compare (Serial.ahead (pivot b) x) (Serial.ahead (pivot b) y) := by
  by_cases hxy : x = y
  · rw [rtTimestampCompare, if_pos hxy, hxy, Nat.compare_eq_eq.mpr rfl]
  have hne : x.toNat ≠ y.toNat := fun h => hxy (BitVec.eq_of_toNat_eq h)
  have hx := x.isLt
  have hy := y.isLt
  have hh := b.headTimestamp.isLt
  rw [rtTimestampCompare, if_neg hxy, eq_comm]
  cases hflag : b.timestampOverFlowState with
  | false =>
    have hzero : ∀ z : UINT32, Serial.ahead 0 z = z.toNat := fun z => by
      rw [Serial.ahead_eq]
      simp
    rw [pivot, hflag, if_neg Bool.false_ne_true, hzero, hzero]
    simp only [Bool.false_and, Bool.false_eq_true, if_false]
    split
    · rename_i hlt
      exact Nat.compare_eq_lt.mpr hlt
    · rename_i hlt
      rw [BitVec.lt_def] at hlt
      exact Nat.compare_eq_gt.mpr (by omega)
  | true =>
    rw [pivot, hflag, if_pos rfl]
    have hax := Serial.ahead_eq b.headTimestamp x
    have hay := Serial.ahead_eq b.headTimestamp y
    simp only [tsWrapped, Bool.true_and, Bool.and_eq_true, decide_eq_true_eq, Bool.not_eq_true',
      decide_eq_false_iff_not, BitVec.lt_def]
    split
    · rename_i hwrap
      rw [if_neg (by omega)] at hax
      rw [if_pos (by omega)] at hay
      exact Nat.compare_eq_gt.mpr (by omega)
    · split
      · rename_i hwrap
        rw [if_pos (by omega)] at hax
        rw [if_neg (by omega)] at hay
        exact Nat.compare_eq_lt.mpr (by omega)
      · split
        · refine Nat.compare_eq_lt.mpr ?_
          split at hax <;> split at hay <;> omega
        · refine Nat.compare_eq_gt.mpr ?_
          split at hax <;> split at hay <;> omega

theorem rtTimestampCompare_eq_lt {x y : UINT32} :
    rtTimestampCompare b x y = .lt ↔ Serial.ahead (pivot b) x < Serial.ahead (pivot b) y := by
  rw [rtTimestampCompare_eq, Nat.compare_eq_lt]

/-- An entry at its index that none of the others comes before. -/
structure IsEarliest (b : RealTimeJitterBuffer) (index : Nat) (f : RtFrameEntry) : Prop where
  at_index : b.frames[index]? = some f
  first : ∀ g ∈ b.frames,
    Serial.ahead (pivot b) f.timestamp ≤ Serial.ahead (pivot b) g.timestamp

theorem earliestFrom_spec : ∀ (rest : List RtFrameEntry) (i : Nat) (best : Nat × RtFrameEntry),
    (earliestFrom b rest i best = best ∨
        ∃ j, rest[j]? = some (earliestFrom b rest i best).2 ∧
          (earliestFrom b rest i best).1 = i + j) ∧
      ∀ g, g = best.2 ∨ g ∈ rest →
        Serial.ahead (pivot b) (earliestFrom b rest i best).2.timestamp ≤
          Serial.ahead (pivot b) g.timestamp := by
  intro rest
  induction rest with
  | nil =>
    intro i best
    refine ⟨Or.inl rfl, ?_⟩
    rintro g (rfl | hg)
    · exact le_rfl
    · cases hg
  | cons f rest ih =>
    intro i best
    rw [earliestFrom]
    split
    · rename_i hlt
      rw [rtTimestampCompare_eq_lt] at hlt
      obtain ⟨hplace, hfirst⟩ := ih (i + 1) (i, f)
      constructor
      · right
        rcases hplace with h | ⟨j, hj, hi⟩
        · exact ⟨0, by rw [h]; rfl, by rw [h]; rfl⟩
        · exact ⟨j + 1, by simpa using hj, by omega⟩
      · rintro g (rfl | hg)
        · exact (hfirst f (Or.inl rfl)).trans hlt.le
        · rcases List.mem_cons.mp hg with rfl | hg
          · exact hfirst _ (Or.inl rfl)
          · exact hfirst g (Or.inr hg)
    · rename_i hlt
      rw [rtTimestampCompare_eq_lt, Nat.not_lt] at hlt
      obtain ⟨hplace, hfirst⟩ := ih (i + 1) best
      constructor
      · rcases hplace with h | ⟨j, hj, hi⟩
        · exact Or.inl h
        · exact Or.inr ⟨j + 1, by simpa using hj, by omega⟩
      · rintro g (rfl | hg)
        · exact hfirst _ (Or.inl rfl)
        · rcases List.mem_cons.mp hg with rfl | hg
          · exact (hfirst best.2 (Or.inl rfl)).trans hlt
          · exact hfirst g (Or.inr hg)

theorem rtFindEarliestFrame_eq_none : rtFindEarliestFrame b = none ↔ b.frames = [] := by
  unfold rtFindEarliestFrame
  split <;> simp_all

theorem rtFindEarliestFrame_eq_some {i : Nat} (h : rtFindEarliestFrame b = some (i, f)) :
    IsEarliest b i f := by
  unfold rtFindEarliestFrame at h
  split at h
  · cases h
  · rename_i g rest hframes
    obtain ⟨hplace, hfirst⟩ := earliestFrom_spec (b := b) rest 1 (0, g)
    rw [Option.some.inj h] at hplace hfirst
    refine ⟨?_, fun g' hg' => hfirst g' ?_⟩
    · rw [hframes]
      rcases hplace with heq | ⟨j, hj, hi⟩
      · cases heq
        rfl
      · dsimp only at hi hj
        rw [hi, Nat.add_comm, List.getElem?_cons_succ]
        exact hj
    · rw [hframes] at hg'
      exact List.mem_cons.mp hg'

theorem IsEarliest.mem {i : Nat} (h : IsEarliest b i f) : f ∈ b.frames :=
  List.mem_of_getElem? h.at_index

theorem IsEarliest.mem_timestamps {i : Nat} (h : IsEarliest b i f) :
    f.timestamp ∈ timestamps b := List.mem_map_of_mem h.mem

end KvsWebrtc.Jitter
