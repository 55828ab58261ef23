import KvsWebrtc.Rtp.Red
import Mathlib.Data.BitVec
import Mathlib.Data.List.Induction

/-!
# Runs of redundant audio (`RtpRedPayloader.c`)

A run sends Opus frames under consecutive sequence numbers.  The receiver numbers the blocks of a RED
packet by their position, so a block comes back under its own number only if the blocks are the
frames sent immediately before.  `InOrder` is that condition in terms of the frames of the run: the
frames of the ring whose timestamps are in range must be the last frames sent (no plain Opus frame
among them), and all of them must fit the packet, or not even the oldest.

Principal results:

* `ringSlots_write`, `select_slots` — what the ring holds, and which slots are repeated;
* `splitRedRtpPacket_redBody` — the packets that are cut out of a RED packet;
* `red_restores_frames` — in a run whose steps are in order every packet is restored.
-/

namespace KvsWebrtc.Rtp

/-! ## Runs -/

/-- A call of `writeFrame`. -/
structure OpusWrite where
  mtu : UINT32
  data : Bytes
  rtpTimestamp : UINT32
  deriving DecidableEq, Repr

/-- A packet that was sent. -/
structure RedSend where
  sequenceNumber : UINT16
  frame : OpusWrite
  isFallback : Bool
  payload : Bytes
  deriving DecidableEq, Repr

structure RedSender where
  state : RedSenderState
  sequenceNumber : UINT16
  sent : List RedSend

/-- A frame that is refused is not sent and takes no number. -/
def RedSender.send (s : RedSender) (f : OpusWrite) : RedSender :=
  match createPayloadForOpusRed f.mtu f.data f.rtpTimestamp s.state with
  | .error _ => s
  | .ok r => {
      state := r.state
      sequenceNumber := s.sequenceNumber + 1
      sent := s.sent ++ [⟨s.sequenceNumber, f, r.isFallbackToPlainOpus, r.payload⟩] }

def redRun (redundancyLevel opusPayloadType : UINT8) (start : UINT16) (fs : List OpusWrite) :
    RedSender :=
  fs.foldl RedSender.send ⟨createRedSenderState redundancyLevel opusPayloadType, start, []⟩

/-! ## Which frames are repeated -/

def OpusWrite.slot (f : OpusWrite) : RedSenderSlot := ⟨f.rtpTimestamp, f.data⟩

/-- A slot can be repeated in front of a frame with this timestamp. -/
def usable (rtpTimestamp : UINT32) (slot : RedSenderSlot) : Bool :=
  slot.payload.length ≠ 0 && rtpTimestamp - slot.rtpTimestamp ≠ 0 &&
    (rtpTimestamp - slot.rtpTimestamp).toNat < RED_MAX_TS_DELTA &&
    slot.payload.length ≤ RED_MAX_BLOCK_LEN

/-- The bytes a block takes. -/
def blockBytes (slot : RedSenderSlot) : Nat := RED_HEADER_LEN_NON_LAST + slot.payload.length

/-- The selection over a list of slots. -/
def pick (rtpTimestamp : UINT32) (mtuBudget : Nat) : Nat → List RedSenderSlot → List RedSenderSlot
  | _, [] => []
  | bodyBytes, slot :: slots =>
    if usable rtpTimestamp slot then
      if bodyBytes + blockBytes slot > mtuBudget then []
      else slot :: pick rtpTimestamp mtuBudget (bodyBytes + blockBytes slot) slots
    else pick rtpTimestamp mtuBudget bodyBytes slots

/-- The slots of the ring, oldest first. -/
def ringSlots (st : RedSenderState) : List RedSenderSlot :=
  (List.range st.redundancyLevel).map fun i => st.slots ((st.nextSlot + i) % st.redundancyLevel)

/-- The last `n` elements. -/
def lastN {α : Type} (n : Nat) (l : List α) : List α := l.drop (l.length - n)

/-- The frames before a frame with this timestamp that can be repeated in front of it, oldest
first. -/
def candidates (redundancyLevel : Nat) (before : List RedSend) (rtpTimestamp : UINT32) :
    List RedSend :=
  (lastN redundancyLevel (before.filter fun x => !x.isFallback)).filter
    fun x => usable rtpTimestamp x.frame.slot

def totalBytes (f : OpusWrite) (xs : List RedSend) : Nat :=
  RED_HEADER_LEN_LAST + f.data.length + (xs.map fun x => blockBytes x.frame.slot).sum

/-- The frame goes out as plain Opus, or not even the oldest candidate fits, or the candidates are
the last frames sent and all of them fit. -/
def InOrder (redundancyLevel : Nat) (before : List RedSend) (f : OpusWrite) : Prop :=
  RED_MAX_BLOCK_LEN < f.data.length ∨
  mtuBudgetOf f.mtu <
    totalBytes f ((candidates redundancyLevel before f.rtpTimestamp).take 1) ∨
  (candidates redundancyLevel before f.rtpTimestamp <:+ before ∧
    totalBytes f (candidates redundancyLevel before f.rtpTimestamp) ≤ mtuBudgetOf f.mtu)

instance (redundancyLevel : Nat) (before : List RedSend) (f : OpusWrite) :
    Decidable (InOrder redundancyLevel before f) := by
  unfold InOrder
  infer_instance

/-! ## The ring -/

theorem ringSlots_write {st : RedSenderState} (h : st.nextSlot < st.redundancyLevel)
    (slot : RedSenderSlot) :
    ringSlots { st with
      slots := Function.update st.slots st.nextSlot slot
      nextSlot := (st.nextSlot + 1) % st.redundancyLevel } = (ringSlots st).tail ++ [slot] := by
  obtain ⟨level, pt, next, slots⟩ := st
  dsimp only at h ⊢
  obtain ⟨m, rfl⟩ : ∃ m, level = m + 1 := ⟨level - 1, by omega⟩
  have htail : (ringSlots ⟨m + 1, pt, next, slots⟩).tail =
      (List.range m).map fun i => slots ((next + (i + 1)) % (m + 1)) := by
    rw [ringSlots, List.range_succ_eq_map, List.map_cons, List.tail_cons, List.map_map]
    rfl
  rw [htail, ringSlots]
  dsimp only
  rw [List.range_succ, List.map_append, List.map_singleton]
  congr 1
  · apply List.map_congr_left
    intro i hi
    have hi' : i < m := by simpa using hi
    rw [Nat.mod_add_mod, show next + 1 + i = next + (i + 1) by omega, Function.update_of_ne]
    -- the slots behind the oldest one are not the oldest one
    intro heq
    rcases Nat.lt_or_ge (next + (i + 1)) (m + 1) with hlt | hge
    · rw [Nat.mod_eq_of_lt hlt] at heq
      omega
    · rw [Nat.mod_eq_sub_mod hge, Nat.mod_eq_of_lt (by omega)] at heq
      omega
  · rw [Nat.mod_add_mod, show next + 1 + m = next + (m + 1) by omega, Nat.add_mod_right,
      Nat.mod_eq_of_lt h, Function.update_self]

theorem selectLoop_slots (st : RedSenderState) (rtpTimestamp : UINT32) (mtuBudget : Nat) :
    ∀ (n i : Nat) (chosen : List Nat) (bodyBytes : Nat), chosen.length + n ≤ 30 →
      (selectLoop st rtpTimestamp mtuBudget n i chosen bodyBytes).1.map st.slots =
        chosen.map st.slots ++ pick rtpTimestamp mtuBudget bodyBytes
          ((List.range' i n).map fun i => st.slots ((st.nextSlot + i) % st.redundancyLevel))
  | 0, i, chosen, bodyBytes, _ => by simp [selectLoop, pick]
  | n + 1, i, chosen, bodyBytes, hroom => by
    have ih := fun chosen bodyBytes => selectLoop_slots st rtpTimestamp mtuBudget n (i + 1) chosen
      bodyBytes
    rw [List.range'_succ, List.map_cons]
    generalize hslot : st.slots ((st.nextSlot + i) % st.redundancyLevel) = slot
    unfold selectLoop pick
    simp only [hslot]
    split
    · rename_i h0
      rw [ih _ _ (by omega), if_neg (by simp [usable, h0])]
    · rename_i h0
      split
      · rename_i hts
        rw [ih _ _ (by omega), if_neg]
        simp only [usable, Bool.and_eq_true, decide_eq_true_eq, not_and, ne_eq]
        intro hu
        rcases hts with hts | hts
        · exact absurd hts hu.1.2
        · omega
      · rename_i hts
        rw [not_or, not_le] at hts
        split
        · rename_i hlen
          rw [ih _ _ (by omega), if_neg]
          simp only [usable, Bool.and_eq_true, decide_eq_true_eq, not_and, ne_eq]
          intro _
          omega
        · rename_i hlen
          have hu : usable rtpTimestamp slot = true := by
            simp only [usable, Bool.and_eq_true, decide_eq_true_eq, ne_eq]
            exact ⟨⟨⟨h0, hts.1⟩, hts.2⟩, by omega⟩
          rw [if_pos hu]
          split
          · rename_i hfit
            rw [if_pos (show bodyBytes + blockBytes slot > mtuBudget from hfit), List.append_nil]
          · rename_i hfit
            rw [if_neg (show ¬ bodyBytes + blockBytes slot > mtuBudget from hfit), if_neg
              (show ¬ chosen.length + 1 ≥ RED_MAX_BLOCKS - 1 by simp only [RED_MAX_BLOCKS]; omega),
              ih _ _ (by simp only [List.length_append, List.length_singleton]; omega)]
            simp [hslot, blockBytes]

theorem select_slots (st : RedSenderState) (h : st.redundancyLevel ≤ 30) (rtpTimestamp : UINT32)
    (mtuBudget primaryLen : Nat) :
    (selectRedundantBlocks st rtpTimestamp mtuBudget primaryLen).1.map st.slots =
      pick rtpTimestamp mtuBudget (RED_HEADER_LEN_LAST + primaryLen) (ringSlots st) := by
  rw [selectRedundantBlocks, selectLoop_slots _ _ _ _ _ _ _ (by simpa using h), ringSlots,
    List.range_eq_range']
  rfl

/-! ## What is picked -/

theorem pick_usable (rtpTimestamp : UINT32) (mtuBudget : Nat) :
    ∀ (slots : List RedSenderSlot) (bodyBytes : Nat),
      ∀ slot ∈ pick rtpTimestamp mtuBudget bodyBytes slots, usable rtpTimestamp slot = true
  | [], _, slot, h => by simp [pick] at h
  | x :: xs, bodyBytes, slot, h => by
    unfold pick at h
    split at h
    · rename_i hx
      split at h
      · simp at h
      · rcases List.mem_cons.mp h with rfl | h
        · exact hx
        · exact pick_usable rtpTimestamp mtuBudget xs _ slot h
    · exact pick_usable rtpTimestamp mtuBudget xs _ slot h

theorem length_pick_le (rtpTimestamp : UINT32) (mtuBudget : Nat) :
    ∀ (slots : List RedSenderSlot) (bodyBytes : Nat),
      (pick rtpTimestamp mtuBudget bodyBytes slots).length ≤ slots.length
  | [], _ => by simp [pick]
  | x :: xs, bodyBytes => by
    have ih := length_pick_le rtpTimestamp mtuBudget xs
    unfold pick
    split
    · split
      · simp
      · simpa using ih _
    · exact (ih _).trans (Nat.le_succ _)

theorem pick_all (rtpTimestamp : UINT32) (mtuBudget : Nat) :
    ∀ (slots : List RedSenderSlot) (bodyBytes : Nat),
      bodyBytes + ((slots.filter (usable rtpTimestamp)).map blockBytes).sum ≤ mtuBudget →
      pick rtpTimestamp mtuBudget bodyBytes slots = slots.filter (usable rtpTimestamp)
  | [], _, _ => rfl
  | x :: xs, bodyBytes, h => by
    unfold pick
    cases hx : usable rtpTimestamp x with
    | false =>
      rw [List.filter_cons_of_neg (by simp [hx])] at h ⊢
      rw [if_neg (by simp)]
      exact pick_all rtpTimestamp mtuBudget xs bodyBytes h
    | true =>
      rw [List.filter_cons_of_pos hx] at h ⊢
      rw [List.map_cons, List.sum_cons] at h
      rw [if_pos rfl, if_neg (by omega), pick_all rtpTimestamp mtuBudget xs _ (by omega)]

theorem pick_none (rtpTimestamp : UINT32) (mtuBudget : Nat) :
    ∀ (slots : List RedSenderSlot) (bodyBytes : Nat),
      mtuBudget < bodyBytes + (((slots.filter (usable rtpTimestamp)).take 1).map blockBytes).sum →
      pick rtpTimestamp mtuBudget bodyBytes slots = []
  | [], _, _ => rfl
  | x :: xs, bodyBytes, h => by
    unfold pick
    cases hx : usable rtpTimestamp x with
    | false =>
      rw [List.filter_cons_of_neg (by simp [hx])] at h
      rw [if_neg (by simp)]
      exact pick_none rtpTimestamp mtuBudget xs bodyBytes h
    | true =>
      rw [List.filter_cons_of_pos hx] at h
      rw [if_pos rfl, if_pos (by simpa using h)]

/-! ## Reading the blocks back -/

theorem toNat_truncate8 {x : UINT32} : ((x &&& 0xFF).truncate 8).toNat = x.toNat % 256 := by
  rw [BitVec.truncate_eq_setWidth, BitVec.toNat_setWidth, BitVec.toNat_and]
  show (x.toNat &&& 2 ^ 8 - 1) % 2 ^ 8 = _
  rw [Nat.and_two_pow_sub_one_eq_mod]
  omega

theorem toNat_or_shift {x y : UINT32} {k : Nat} (hx : x.toNat * 2 ^ k < 2 ^ 32)
    (hy : y.toNat < 2 ^ k) : ((x <<< k) ||| y).toNat = x.toNat * 2 ^ k + y.toNat := by
  rw [BitVec.toNat_or, BitVec.toNat_shiftLeft, Nat.shiftLeft_eq, Nat.mod_eq_of_lt hx,
    ← Nat.shiftLeft_eq, Nat.shiftLeft_add_eq_or_of_lt hy]

theorem toNat_mask {x : UINT32} {k : Nat} (hk : k < 32) :
    (x &&& BitVec.ofNat 32 (2 ^ k - 1)).toNat = x.toNat % 2 ^ k := by
  have hlt : 2 ^ k - 1 < 2 ^ 32 :=
    lt_of_le_of_lt (Nat.sub_le _ _) (Nat.pow_lt_pow_right (by decide) hk)
  rw [BitVec.toNat_and, BitVec.toNat_ofNat, Nat.mod_eq_of_lt hlt, Nat.and_two_pow_sub_one_eq_mod]

theorem redBlockHeader_fields {tsDelta blockLen : UINT32} (hts : tsDelta.toNat < RED_MAX_TS_DELTA)
    (hlen : blockLen.toNat ≤ RED_MAX_BLOCK_LEN) {b1 b2 b3 : UINT8}
    (h1 : b1 = (((tsDelta &&& 0x3FFF) >>> 6) &&& 0xFF).truncate 8)
    (h2 : b2 = ((((tsDelta &&& 0x3F) <<< 2) ||| ((blockLen >>> 8) &&& 0x3)) &&& 0xFF).truncate 8)
    (h3 : b3 = (blockLen &&& 0xFF).truncate 8) :
    (b1.zeroExtend 32 <<< 6) ||| (b2.zeroExtend 32 >>> 2) = tsDelta ∧
      (((b2.zeroExtend 32 &&& 0x3) <<< 8) ||| b3.zeroExtend 32).toNat = blockLen.toNat := by
  have hts' : tsDelta.toNat < 16384 := hts
  have hlen' : blockLen.toNat ≤ 1023 := hlen
  have hn1 : b1.toNat = tsDelta.toNat / 64 := by
    rw [h1, toNat_truncate8, BitVec.toNat_ushiftRight, Nat.shiftRight_eq_div_pow]
    rw [show (tsDelta &&& 0x3FFF).toNat = tsDelta.toNat % 2 ^ 14 from toNat_mask (k := 14) (by decide)]
    omega
  have hn2 : b2.toNat = tsDelta.toNat % 64 * 4 + blockLen.toNat / 256 := by
    have hlow : ((blockLen >>> 8) &&& 0x3).toNat = blockLen.toNat / 256 := by
      rw [show ((blockLen >>> 8) &&& 0x3).toNat = (blockLen >>> 8).toNat % 2 ^ 2 from
        toNat_mask (k := 2) (by decide), BitVec.toNat_ushiftRight, Nat.shiftRight_eq_div_pow]
      omega
    have hhigh : (tsDelta &&& 0x3F).toNat = tsDelta.toNat % 64 := toNat_mask (k := 6) (by decide)
    rw [h2, toNat_truncate8, toNat_or_shift (by rw [hhigh]; omega) (by rw [hlow]; omega), hlow, hhigh]
    omega
  have hn3 : b3.toNat = blockLen.toNat % 256 := by rw [h3, toNat_truncate8]
  have hz : ∀ b : UINT8, (b.zeroExtend 32).toNat = b.toNat := by
    intro b
    show (b.setWidth 32).toNat = b.toNat
    rw [BitVec.toNat_setWidth]
    have := b.isLt
    omega
  constructor
  · apply BitVec.eq_of_toNat_eq
    have hr : (b2.zeroExtend 32 >>> 2).toNat = tsDelta.toNat % 64 := by
      rw [BitVec.toNat_ushiftRight, hz, hn2, Nat.shiftRight_eq_div_pow]
      omega
    rw [toNat_or_shift (by rw [hz, hn1]; omega) (by rw [hr]; omega), hr, hz, hn1]
    omega
  · have hl : (b2.zeroExtend 32 &&& 0x3).toNat = blockLen.toNat / 256 := by
      rw [show (b2.zeroExtend 32 &&& 0x3).toNat = (b2.zeroExtend 32).toNat % 2 ^ 2 from
        toNat_mask (k := 2) (by decide), hz, hn2]
      omega
    rw [toNat_or_shift (by rw [hl]; omega) (by rw [hz, hn3]; omega), hl, hz, hn3]
    omega

/-- What the parser says about a slot that is repeated. -/
def blockInfo (opusPt : UINT8) (rtpTimestamp : UINT32) (slot : RedSenderSlot) : RedBlockInfo :=
  ⟨opusPt &&& 0x7F, rtpTimestamp - slot.rtpTimestamp, slot.payload.length, false⟩

theorem firstByte_flag : ∀ b : UINT8, (0x80 ||| (b &&& 0x7F)) &&& 0x80 ≠ 0 ∧
    (0x80 ||| (b &&& 0x7F)) &&& 0x7F = b &&& 0x7F ∧ ¬ ((b &&& 0x7F) &&& 0x80 ≠ 0) ∧
    (b &&& 0x7F) &&& 0x7F = b &&& 0x7F := by
  decide

theorem byteAt_append (pre rest : Bytes) (i : Nat) :
    byteAt (pre ++ rest) (pre.length + i) = byteAt rest i := by
  rw [byteAt, byteAt, List.getD_eq_getElem?_getD, List.getD_eq_getElem?_getD,
    List.getElem?_append_right (by omega), Nat.add_sub_cancel_left]

/-- **The headers of a RED packet are read back.** -/
theorem parseRedHeaders_headers (opusPt : UINT8) (rtpTimestamp : UINT32) (tail : Bytes) :
    ∀ (chosen : List RedSenderSlot) (n : Nat) (pre : Bytes) (blocks : List RedBlockInfo),
      chosen.length < n → (∀ slot ∈ chosen, usable rtpTimestamp slot = true) →
      parseRedHeaders (pre ++ ((chosen.flatMap fun slot => redBlockHeader opusPt
        (rtpTimestamp - slot.rtpTimestamp) (BitVec.ofNat 32 slot.payload.length)) ++
        (opusPt &&& 0x7F) :: tail)) n pre.length blocks =
      .ok (blocks ++ chosen.map (blockInfo opusPt rtpTimestamp) ++ [⟨opusPt &&& 0x7F, 0, 0, true⟩],
        pre.length + 4 * chosen.length + 1)
  | [], n + 1, pre, blocks, _, _ => by
    obtain ⟨-, -, hflag, hpt⟩ := firstByte_flag opusPt
    unfold parseRedHeaders
    have hbyte : byteAt (pre ++ (opusPt &&& 0x7F) :: tail) pre.length = opusPt &&& 0x7F :=
      byteAt_append pre _ 0
    rw [if_pos (by simp), List.flatMap_nil, List.nil_append]
    dsimp only
    rw [hbyte, if_neg hflag, hpt]
    simp
  | slot :: chosen, n + 1, pre, blocks, hn, hu => by
    obtain ⟨hflag, hpt, -, -⟩ := firstByte_flag opusPt
    have hslot := hu slot List.mem_cons_self
    simp only [usable, Bool.and_eq_true, decide_eq_true_eq, ne_eq] at hslot
    have hlen : (BitVec.ofNat 32 slot.payload.length).toNat = slot.payload.length := by
      have : slot.payload.length ≤ 1023 := hslot.2
      rw [BitVec.toNat_ofNat]
      omega
    have ih := parseRedHeaders_headers opusPt rtpTimestamp tail chosen n
      (pre ++ redBlockHeader opusPt (rtpTimestamp - slot.rtpTimestamp)
        (BitVec.ofNat 32 slot.payload.length))
      (blocks ++ [blockInfo opusPt rtpTimestamp slot]) (by simpa using hn)
      (fun x hx => hu x (List.mem_cons_of_mem _ hx))
    obtain ⟨hdelta, hblock⟩ := redBlockHeader_fields hslot.1.2 (by rw [hlen]; exact hslot.2)
      rfl rfl rfl
    rw [hlen] at hblock
    rw [List.flatMap_cons, List.append_assoc]
    generalize hrest : (chosen.flatMap fun slot => redBlockHeader opusPt
      (rtpTimestamp - slot.rtpTimestamp) (BitVec.ofNat 32 slot.payload.length)) ++
      (opusPt &&& 0x7F) :: tail = rest at ih ⊢
    rw [List.append_assoc] at ih
    unfold parseRedHeaders
    rw [if_pos (by simp [redBlockHeader])]
    dsimp only
    rw [show byteAt (pre ++ (redBlockHeader _ _ _ ++ rest)) pre.length = _ from
        byteAt_append pre _ 0, byteAt_append, byteAt_append, byteAt_append, if_pos
        (show byteAt (redBlockHeader _ _ _ ++ rest) 0 &&& 0x80 ≠ 0 from hflag),
      if_pos (by simp [redBlockHeader, RED_HEADER_LEN_NON_LAST])]
    refine Eq.trans (congrArg (fun x => parseRedHeaders _ n _ (blocks ++ [x]))
      (?_ : _ = blockInfo opusPt rtpTimestamp slot)) ?_
    · rw [blockInfo, RedBlockInfo.mk.injEq]
      exact ⟨hpt, hdelta, hblock, rfl⟩
    · rw [List.length_append] at ih
      refine Eq.trans ih ?_
      simp only [redBlockHeader, List.length_cons, List.length_nil, List.map_cons, List.append_assoc,
        List.singleton_append]
      congr 2
      omega
  termination_by chosen => chosen.length

/-- The packets of a RED packet that repeats `chosen`. -/
def restored (red : InboundRtpPacket) (opusPt : UINT8) (opusFrame : Bytes) :
    List RedSenderSlot → List InboundRtpPacket
  | [] => [buildSyntheticPacket red opusPt red.header.timestamp red.header.sequenceNumber opusFrame
      false]
  | slot :: chosen =>
    buildSyntheticPacket red opusPt slot.rtpTimestamp
      (red.header.sequenceNumber - BitVec.ofNat 16 (chosen.length + 1)) slot.payload true ::
    restored red opusPt opusFrame chosen

theorem splitLoop_blocks (red : InboundRtpPacket) (pt negotiatedOpusPt : UINT8)
    (opusFrame : Bytes) : ∀ chosen : List RedSenderSlot,
    splitLoop red negotiatedOpusPt ((chosen.map fun slot =>
        ⟨pt, red.header.timestamp - slot.rtpTimestamp, slot.payload.length, false⟩) ++
      [⟨pt, 0, opusFrame.length, true⟩]) (chosen.flatMap RedSenderSlot.payload ++ opusFrame) =
    if pt = negotiatedOpusPt then restored red negotiatedOpusPt opusFrame chosen else []
  | [] => by
    by_cases hpt : pt = negotiatedOpusPt
    · simp [splitLoop, restored, hpt]
    · simp [splitLoop, hpt]
  | slot :: chosen => by
    have ih := splitLoop_blocks red pt negotiatedOpusPt opusFrame chosen
    rw [List.map_cons, List.cons_append, splitLoop, List.flatMap_cons, List.append_assoc]
    rw [List.drop_left, List.take_left, ih]
    by_cases hpt : pt = negotiatedOpusPt
    · simp [restored, hpt, sub_sub_cancel]
    · simp [hpt]

theorem length_redHeaders (opusPt : UINT8) (rtpTimestamp : UINT32) (chosen : List RedSenderSlot) :
    (chosen.flatMap fun slot => redBlockHeader opusPt (rtpTimestamp - slot.rtpTimestamp)
      (BitVec.ofNat 32 slot.payload.length)).length = 4 * chosen.length := by
  induction chosen with
  | nil => rfl
  | cons x l ih =>
    rw [List.flatMap_cons, List.length_append, ih, List.length_cons]
    simp only [redBlockHeader, List.length_cons, List.length_nil]
    omega

theorem length_redBody (opusPt : UINT8) (rtpTimestamp : UINT32) (opusFrame : Bytes)
    (chosen : List RedSenderSlot) :
    (redBody opusPt rtpTimestamp chosen opusFrame).length =
      4 * chosen.length + 1 + (chosen.map fun s => s.payload.length).sum + opusFrame.length := by
  rw [redBody, List.length_append, length_redHeaders, List.length_cons, List.length_append,
    List.length_flatMap]
  omega

theorem drop_redBody (opusPt : UINT8) (rtpTimestamp : UINT32) (opusFrame : Bytes)
    (chosen : List RedSenderSlot) :
    (redBody opusPt rtpTimestamp chosen opusFrame).drop (4 * chosen.length + 1) =
      chosen.flatMap RedSenderSlot.payload ++ opusFrame := by
  rw [redBody, ← List.drop_drop, ← length_redHeaders opusPt rtpTimestamp chosen, List.drop_left]
  rfl

/-- **A RED packet is cut into the frames it repeats and its own frame.** -/
theorem splitRedRtpPacket_redBody {red : InboundRtpPacket} {opusPt : UINT8}
    {chosen : List RedSenderSlot} {opusFrame : Bytes}
    (hbody : red.body = redBody opusPt red.header.timestamp chosen opusFrame)
    (husable : ∀ slot ∈ chosen, usable red.header.timestamp slot = true)
    (hlen : chosen.length < RED_MAX_BLOCKS) (negotiatedOpusPt : UINT8) (maxCount : Nat) :
    splitRedRtpPacket red negotiatedOpusPt maxCount =
      if maxCount < 1 then .error .INVALID_ARG
      else if maxCount < chosen.length + 1 then .error .RTP_INVALID_RED_PACKET
      else .ok (if opusPt &&& 0x7F = negotiatedOpusPt then
        restored red negotiatedOpusPt opusFrame chosen else []) := by
  have hparse := parseRedHeaders_headers opusPt red.header.timestamp
    (chosen.flatMap RedSenderSlot.payload ++ opusFrame) chosen RED_MAX_BLOCKS [] [] hlen husable
  rw [List.nil_append, ← redBody, ← hbody, List.nil_append, List.length_nil, Nat.zero_add] at hparse
  have hdeclared : declaredLength (chosen.map (blockInfo opusPt red.header.timestamp) ++
      [⟨opusPt &&& 0x7F, 0, 0, true⟩]) = (chosen.map fun s => s.payload.length).sum := by
    simp [declaredLength, blockInfo, Function.comp_def]
  have hbodyLength := length_redBody opusPt red.header.timestamp opusFrame chosen
  have hdrop := drop_redBody opusPt red.header.timestamp opusFrame chosen
  rw [← hbody] at hbodyLength hdrop
  have hlast : red.body.length - (4 * chosen.length + 1) -
      (chosen.map fun s => s.payload.length).sum = opusFrame.length := by
    omega
  have hne : ¬ red.body = [] := by
    intro h
    rw [h, List.length_nil] at hbodyLength
    omega
  unfold splitRedRtpPacket
  rw [if_neg hne, hparse]
  dsimp only
  rw [hdeclared, if_neg (show ¬ 4 * chosen.length + 1 + _ > red.body.length by omega), hdrop, hlast,
    ← splitLoop_blocks, List.map_append, List.map_map, List.length_append, List.length_map]
  rfl

/-! ## What a run leaves -/

/-- The slots of the ring after `before` was sent. -/
def ringOf (redundancyLevel : Nat) (before : List RedSend) : List RedSenderSlot :=
  let slots := (before.filter fun x => !x.isFallback).map fun x => x.frame.slot
  (List.replicate redundancyLevel unusedSlot ++ slots).drop slots.length

/-- The slots that are repeated in front of `f`. -/
def repeated (redundancyLevel : Nat) (before : List RedSend) (f : OpusWrite) : List RedSenderSlot :=
  pick f.rtpTimestamp (mtuBudgetOf f.mtu) (RED_HEADER_LEN_LAST + f.data.length)
    (ringOf redundancyLevel before)

/-- A packet that was sent after `before`. -/
structure SentAfter (redundancyLevel : Nat) (opusPt : UINT8) (before : List RedSend) (x : RedSend) :
    Prop where
  fallback : x.isFallback = decide (RED_MAX_BLOCK_LEN < x.frame.data.length)
  payload : x.isFallback = false → x.payload =
    redBody opusPt x.frame.rtpTimestamp (repeated redundancyLevel before x.frame) x.frame.data

structure RunInv (redundancyLevel : Nat) (opusPt : UINT8) (start : UINT16) (s : RedSender) :
    Prop where
  level : s.state.redundancyLevel = redundancyLevel
  payloadType : s.state.opusPayloadType = opusPt
  nextSlot : s.state.nextSlot < redundancyLevel
  ring : ringSlots s.state = ringOf redundancyLevel s.sent
  number : s.sequenceNumber = start + BitVec.ofNat 16 s.sent.length
  sent : ∀ before x after, s.sent = before ++ x :: after →
    x.sequenceNumber = start + BitVec.ofNat 16 before.length ∧
      SentAfter redundancyLevel opusPt before x

theorem ringOf_plain {redundancyLevel : Nat} {before : List RedSend} {x : RedSend}
    (h : x.isFallback = true) : ringOf redundancyLevel (before ++ [x]) = ringOf redundancyLevel before := by
  simp [ringOf, h]

theorem ringOf_red {redundancyLevel : Nat} (hpos : 0 < redundancyLevel) {before : List RedSend}
    {x : RedSend} (h : x.isFallback = false) :
    ringOf redundancyLevel (before ++ [x]) =
      (ringOf redundancyLevel before).tail ++ [x.frame.slot] := by
  simp only [ringOf, List.filter_append, List.map_append]
  generalize (before.filter fun x => !x.isFallback).map (fun x => x.frame.slot) = slots
  rw [List.filter_cons_of_pos (by simp [h]), List.filter_nil, List.map_singleton,
    List.length_append, List.length_singleton, ← List.append_assoc,
    List.drop_append_of_le_length (by simp; omega), ← List.drop_drop, List.drop_one]

theorem append_singleton_cases {α : Type} {l before after : List α} {x y : α}
    (h : l ++ [y] = before ++ x :: after) :
    (after = [] ∧ l = before ∧ x = y) ∨ ∃ rest, after = rest ++ [y] ∧ l = before ++ x :: rest := by
  rcases List.eq_nil_or_concat after with rfl | ⟨rest, z, rfl⟩
  · obtain ⟨hl, hx⟩ := List.append_inj' h rfl
    exact .inl ⟨rfl, hl, (List.singleton_inj.mp hx).symm⟩
  · right
    rw [List.concat_eq_append, ← List.cons_append, ← List.append_assoc] at h
    obtain ⟨hl, hz⟩ := List.append_inj' h rfl
    exact ⟨rest, by rw [List.concat_eq_append, List.singleton_inj.mp hz], hl⟩

/-- **What a frame adds to a run.** -/
theorem RunInv.send {redundancyLevel : Nat} {opusPt : UINT8} {start : UINT16} {s : RedSender}
    (hlevel : redundancyLevel ≤ 9) (h : RunInv redundancyLevel opusPt start s) (f : OpusWrite) :
    RunInv redundancyLevel opusPt start (s.send f) := by
  unfold RedSender.send createPayloadForOpusRed
  split
  · exact h
  · rename_i r hr
    split at hr
    · cases hr
    · split at hr
      · rename_i hover
        cases hr
        refine ⟨h.level, h.payloadType, h.nextSlot, ?_, ?_, ?_⟩
        · exact h.ring.trans (ringOf_plain rfl).symm
        · dsimp only
          rw [h.number, List.length_append, BitVec.add_assoc, BitVec.ofNat_add]
          rfl
        · intro before x after heq
          rcases append_singleton_cases heq with ⟨-, rfl, rfl⟩ | ⟨rest, -, hrest⟩
          · exact ⟨h.number, by simp [hover], fun hx => by cases hx⟩
          · exact h.sent before x rest hrest
      · rename_i hover
        cases hr
        have hselect := select_slots s.state (by rw [h.level]; omega) f.rtpTimestamp
          (mtuBudgetOf f.mtu) f.data.length
        rw [h.ring] at hselect
        refine ⟨h.level, h.payloadType, ?_, ?_, ?_, ?_⟩
        · dsimp only
          rw [h.level]
          exact Nat.mod_lt _ (by have := h.nextSlot; omega)
        · rw [ringSlots_write (by rw [h.level]; exact h.nextSlot), h.ring,
            ringOf_red (by have := h.nextSlot; omega) rfl]
          rfl
        · dsimp only
          rw [h.number, List.length_append, BitVec.add_assoc, BitVec.ofNat_add]
          rfl
        · intro before x after heq
          rcases append_singleton_cases heq with ⟨-, rfl, rfl⟩ | ⟨rest, -, hrest⟩
          · refine ⟨h.number, by simpa using hover, fun _ => ?_⟩
            rw [hselect, h.payloadType]
            rfl
          · exact h.sent before x rest hrest

theorem runInv_start (redundancyLevel opusPayloadType : UINT8) (start : UINT16) :
    RunInv (createRedSenderState redundancyLevel opusPayloadType).redundancyLevel opusPayloadType
      start ⟨createRedSenderState redundancyLevel opusPayloadType, start, []⟩ := by
  refine ⟨rfl, rfl, ?_, ?_, by simp, ?_⟩
  · simp only [createRedSenderState]
    split
    · decide
    · rename_i h
      have hpos : redundancyLevel.toNat ≠ 0 := fun h0 => h (BitVec.eq_of_toNat_eq h0)
      simp only [RED_MAX_REDUNDANCY]
      omega
  · simp [ringSlots, ringOf, createRedSenderState]
  · intro before x after heq
    cases before <;> cases heq

theorem level_le (redundancyLevel opusPayloadType : UINT8) :
    (createRedSenderState redundancyLevel opusPayloadType).redundancyLevel ≤ 9 := by
  simp only [createRedSenderState]
  split
  · decide
  · exact Nat.min_le_right _ _

theorem runInv_redRun (redundancyLevel opusPayloadType : UINT8) (start : UINT16)
    (fs : List OpusWrite) :
    RunInv (createRedSenderState redundancyLevel opusPayloadType).redundancyLevel opusPayloadType
      start (redRun redundancyLevel opusPayloadType start fs) := by
  induction fs using List.reverseRecOn with
  | nil => exact runInv_start redundancyLevel opusPayloadType start
  | append_singleton fs f ih =>
    rw [redRun, List.foldl_append]
    exact ih.send (level_le redundancyLevel opusPayloadType) f

/-! ## The packets that are restored -/

theorem filter_ringOf (redundancyLevel : Nat) (before : List RedSend) (rtpTimestamp : UINT32) :
    (ringOf redundancyLevel before).filter (usable rtpTimestamp) =
      (candidates redundancyLevel before rtpTimestamp).map fun x => x.frame.slot := by
  have hunused : usable rtpTimestamp unusedSlot = false := by simp [usable, unusedSlot]
  simp only [ringOf, candidates, lastN, List.drop_append, List.filter_append, List.drop_replicate,
    List.filter_replicate, hunused, List.length_map, List.length_replicate, ← List.map_drop,
    List.filter_map]
  rfl

theorem repeated_of_inOrder {redundancyLevel : Nat} {before : List RedSend} {f : OpusWrite}
    (hsize : f.data.length ≤ RED_MAX_BLOCK_LEN) (h : InOrder redundancyLevel before f) :
    ∃ ys, ys <:+ before ∧ repeated redundancyLevel before f = ys.map fun x => x.frame.slot := by
  rcases h with h | h | ⟨hsuffix, hfit⟩
  · omega
  · refine ⟨[], List.nil_suffix, ?_⟩
    apply pick_none
    rw [filter_ringOf, ← List.map_take, List.map_map]
    exact h
  · refine ⟨_, hsuffix, ?_⟩
    rw [← filter_ringOf]
    apply pick_all
    rw [filter_ringOf, List.map_map]
    exact hfit

theorem body_buildSyntheticPacket (red : InboundRtpPacket) (opusPt : UINT8) (timestamp : UINT32)
    (sequenceNumber : UINT16) {payload : Bytes} (isSynthetic : Bool)
    (h : payload.length ≤ RED_MAX_BLOCK_LEN) :
    (buildSyntheticPacket red opusPt timestamp sequenceNumber payload isSynthetic).body =
      payload := by
  have hlen : payload.length ≤ 1023 := h
  apply List.take_of_length_le
  show payload.length ≤ (BitVec.ofNat 32 payload.length).toNat
  rw [BitVec.toNat_ofNat]
  omega

/-- Each packet is the frame of the RED packet, or one of those it repeats, numbered back from its
own by its position. -/
theorem mem_restored {red q : InboundRtpPacket} {opusPt : UINT8} {opusFrame : Bytes}
    (hframe : opusFrame.length ≤ RED_MAX_BLOCK_LEN) : ∀ {chosen : List RedSenderSlot},
    (∀ slot ∈ chosen, slot.payload.length ≤ RED_MAX_BLOCK_LEN) →
    q ∈ restored red opusPt opusFrame chosen →
    (q.header.sequenceNumber = red.header.sequenceNumber ∧
      q.header.timestamp = red.header.timestamp ∧ q.body = opusFrame) ∨
    ∃ older slot newer, chosen = older ++ slot :: newer ∧
      q.header.sequenceNumber = red.header.sequenceNumber - BitVec.ofNat 16 (newer.length + 1) ∧
      q.header.timestamp = slot.rtpTimestamp ∧ q.body = slot.payload
  | [], _, hq => by
    rw [restored, List.mem_singleton] at hq
    subst hq
    exact .inl ⟨rfl, rfl, body_buildSyntheticPacket _ _ _ _ _ hframe⟩
  | slot :: chosen, hlen, hq => by
    rw [restored, List.mem_cons] at hq
    rcases hq with rfl | hq
    · exact .inr ⟨[], slot, chosen, rfl, rfl, rfl,
        body_buildSyntheticPacket _ _ _ _ _ (hlen slot List.mem_cons_self)⟩
    · rcases mem_restored hframe (fun x hx => hlen x (List.mem_cons_of_mem _ hx)) hq with
        h | ⟨older, x, newer, rfl, h⟩
      · exact .inl h
      · exact .inr ⟨slot :: older, x, newer, rfl, h⟩

/-- Every packet that is cut out of the RED packet `x` carries the sequence number, the timestamp and
the payload of one of the frames `sent`. -/
def Restores (sent : List RedSend) (x : RedSend) : Prop :=
  ∀ (red : InboundRtpPacket) (negotiatedOpusPt : UINT8) (maxCount : Nat)
    (qs : List InboundRtpPacket),
    red.header.sequenceNumber = x.sequenceNumber →
    red.header.timestamp = x.frame.rtpTimestamp → red.body = x.payload →
    splitRedRtpPacket red negotiatedOpusPt maxCount = .ok qs →
    ∀ q ∈ qs, ∃ y ∈ sent, q.header.sequenceNumber = y.sequenceNumber ∧
      q.header.timestamp = y.frame.rtpTimestamp ∧ q.body = y.frame.data

theorem sequenceNumber_back (start : UINT16) (a b : Nat) :
    start + BitVec.ofNat 16 (a + (b + 1)) - BitVec.ofNat 16 (b + 1) =
      start + BitVec.ofNat 16 a := by
  rw [BitVec.ofNat_add, ← BitVec.add_assoc, BitVec.add_sub_cancel]

theorem restores_of_inOrder {redundancyLevel : Nat} {opusPt : UINT8} {start : UINT16} {s : RedSender}
    (hlevel : redundancyLevel ≤ 9) (h : RunInv redundancyLevel opusPt start s)
    {before after : List RedSend} {x : RedSend} (hsent : s.sent = before ++ x :: after)
    (hx : x.isFallback = false) (hin : InOrder redundancyLevel before x.frame) :
    Restores (before ++ [x]) x := by
  intro red negotiatedOpusPt maxCount qs hseq hts hbody hsplit q hq
  obtain ⟨hnumber, hafter⟩ := h.sent before x after hsent
  have hsize : x.frame.data.length ≤ RED_MAX_BLOCK_LEN := by
    have := hafter.fallback
    rw [hx] at this
    simpa using this.symm
  obtain ⟨ys, ⟨pre, rfl⟩, hys⟩ := repeated_of_inOrder hsize hin
  have husable : ∀ slot ∈ repeated redundancyLevel (pre ++ ys) x.frame,
      usable red.header.timestamp slot = true := by
    rw [hts]
    exact pick_usable _ _ _ _
  have hlength : (repeated redundancyLevel (pre ++ ys) x.frame).length ≤ 9 := by
    refine (length_pick_le _ _ _ _).trans ?_
    simp [ringOf]
    omega
  have hpayload := hafter.payload hx
  rw [← hbody, ← hts] at hpayload
  rw [splitRedRtpPacket_redBody hpayload husable (by simp only [RED_MAX_BLOCKS]; omega)] at hsplit
  split at hsplit
  · cases hsplit
  · split at hsplit
    · cases hsplit
    · rw [Except.ok.injEq] at hsplit
      subst hsplit
      split at hq
      · have hslots : ∀ slot ∈ repeated redundancyLevel (pre ++ ys) x.frame,
            slot.payload.length ≤ RED_MAX_BLOCK_LEN := by
          intro slot hslot
          have hu := husable slot hslot
          simp only [usable, Bool.and_eq_true, decide_eq_true_eq] at hu
          exact hu.2
        rcases mem_restored hsize hslots hq with
          ⟨hqs, hqt, hqb⟩ | ⟨older, slot, newer, hchosen, hqs, hqt, hqb⟩
        · exact ⟨x, by simp, hqs.trans hseq, hqt.trans hts, hqb⟩
        · -- the slot is that of a frame among the last ones sent
          rw [hys] at hchosen
          obtain ⟨l₁, l₂, rfl, rfl, hl⟩ := List.map_eq_append_iff.mp hchosen
          obtain ⟨y, l₃, rfl, rfl, rfl⟩ := List.map_eq_cons_iff.mp hl
          refine ⟨y, by simp, ?_, hqt, hqb⟩
          have hy := (h.sent (pre ++ l₁) y (l₃ ++ x :: after) (by simpa using hsent)).1
          rw [hqs, hseq, hnumber, hy, ← sequenceNumber_back start (pre ++ l₁).length l₃.length]
          simp [Nat.add_assoc]
      · simp at hq

/-- **In a run whose steps are in order, every packet that is cut out of a RED packet carries the
sequence number, the timestamp and the payload of a frame that was sent.** -/
theorem red_restores_frames (redundancyLevel opusPayloadType : UINT8) (start : UINT16)
    (fs : List OpusWrite)
    (horder : ∀ before x after,
      (redRun redundancyLevel opusPayloadType start fs).sent = before ++ x :: after →
      InOrder (createRedSenderState redundancyLevel opusPayloadType).redundancyLevel before
        x.frame) :
    ∀ before x after,
      (redRun redundancyLevel opusPayloadType start fs).sent = before ++ x :: after →
      x.isFallback = false → Restores (before ++ [x]) x := by
  intro before x after hsent hx
  exact restores_of_inOrder (level_le redundancyLevel opusPayloadType)
    (runInv_redRun redundancyLevel opusPayloadType start fs) hsent hx
    (horder before x after hsent)

/-- `InOrder`, step by step. -/
def stepsInOrder (redundancyLevel : Nat) : List RedSend → List RedSend → Bool
  | _, [] => true
  | before, x :: rest =>
    decide (InOrder redundancyLevel before x.frame) &&
      stepsInOrder redundancyLevel (before ++ [x]) rest

theorem inOrder_of_steps {redundancyLevel : Nat} : ∀ {rest before : List RedSend},
    stepsInOrder redundancyLevel before rest = true → ∀ {l x r}, rest = l ++ x :: r →
      InOrder redundancyLevel (before ++ l) x.frame
  | y :: rest, before, h, l, x, r, heq => by
    rw [stepsInOrder, Bool.and_eq_true, decide_eq_true_eq] at h
    cases l with
    | nil =>
      cases heq
      rw [List.append_nil]
      exact h.1
    | cons z l =>
      rw [List.cons_append, List.cons.injEq] at heq
      obtain ⟨rfl, heq⟩ := heq
      have := inOrder_of_steps h.2 heq
      rwa [List.append_assoc, List.singleton_append] at this
  | [], _, _, l, _, _, heq => by simp at heq

/-- Three frames of four bytes, each with the one before it repeated. -/
def steadyFrames : List OpusWrite :=
  [⟨1200, [1, 1, 1, 1], 960⟩, ⟨1200, [2, 2, 2, 2], 1920⟩, ⟨1200, [3, 3, 3, 3], 2880⟩]

theorem red_restores_steady_frames :
    (∀ before x after, (redRun 1 111 7 steadyFrames).sent = before ++ x :: after →
      InOrder (createRedSenderState 1 111).redundancyLevel before x.frame) ∧
    (∀ before x after, (redRun 1 111 7 steadyFrames).sent = before ++ x :: after →
      x.isFallback = false → Restores (before ++ [x]) x) := by
  have hsteps : stepsInOrder (createRedSenderState 1 111).redundancyLevel []
      (redRun 1 111 7 steadyFrames).sent = true := by decide +kernel
  have horder : ∀ before x after, (redRun 1 111 7 steadyFrames).sent = before ++ x :: after →
      InOrder (createRedSenderState 1 111).redundancyLevel before x.frame :=
    fun before x after heq => inOrder_of_steps hsteps heq
  exact ⟨horder, red_restores_frames 1 111 7 steadyFrames horder⟩

/-- A packet of the run as it is received. -/
def receivedRed (x : RedSend) : InboundRtpPacket where
  header := {
    version := 2, padding := false, extension := false, marker := true, payloadType := 63
    sequenceNumber := x.sequenceNumber, timestamp := x.frame.rtpTimestamp, ssrc := 1
    csrcArray := [], extensionProfile := 0, extensionPayload := [] }
  payload := x.payload
  payloadLength := BitVec.ofNat 32 x.payload.length
  pRawPacket := []
  receivedTime := 0
  isSynthetic := false

/-- `Restores` at the packet as it is received. -/
def restoresCheck (sent : List RedSend) (x : RedSend) (negotiatedOpusPt : UINT8) : Bool :=
  match splitRedRtpPacket (receivedRed x) negotiatedOpusPt RED_MAX_BLOCKS with
  | .error _ => true
  | .ok qs => qs.all fun q => sent.any fun y =>
      q.header.sequenceNumber = y.sequenceNumber && q.header.timestamp = y.frame.rtpTimestamp &&
        q.body = y.frame.data

theorem restoresCheck_of_restores {sent : List RedSend} {x : RedSend} (h : Restores sent x)
    (hbody : (receivedRed x).body = x.payload) (negotiatedOpusPt : UINT8) :
    restoresCheck sent x negotiatedOpusPt = true := by
  unfold restoresCheck
  split
  · rfl
  · rename_i qs hqs
    rw [List.all_eq_true]
    intro q hq
    obtain ⟨y, hy, hseq, hts, hdata⟩ := h _ _ _ _ rfl rfl hbody hqs q hq
    rw [List.any_eq_true]
    exact ⟨y, hy, by simp [hseq, hts, hdata]⟩

/-- A frame, an oversize frame, and a frame: the last repeats the first. -/
def oversizeBetween : List OpusWrite :=
  [⟨1200, [1, 1, 1, 1], 960⟩, ⟨1200, List.replicate 1024 2, 1920⟩, ⟨1200, [3, 3, 3, 3], 2880⟩]

theorem oversize_frame_shifts_numbers :
    ∃ before x after, (redRun 1 111 7 oversizeBetween).sent = before ++ x :: after ∧
      x.isFallback = false ∧ ¬ Restores (before ++ [x]) x := by
  refine ⟨(redRun 1 111 7 oversizeBetween).sent.take 2,
    ⟨9, ⟨1200, [3, 3, 3, 3], 2880⟩, false,
      [0xEF, 0x1E, 0, 4, 0x6F, 1, 1, 1, 1, 3, 3, 3, 3]⟩, [], by decide +kernel, rfl, ?_⟩
  intro h
  have hcheck := restoresCheck_of_restores h (by decide +kernel) 111
  exact absurd hcheck (by decide +kernel)

end KvsWebrtc.Rtp
