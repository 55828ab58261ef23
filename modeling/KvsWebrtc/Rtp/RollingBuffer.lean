import KvsWebrtc.Lib.SlotTable
import KvsWebrtc.Rtp.Packet

/-!
# The rolling buffer (`RollingBuffer.c`, `RtpRollingBuffer.c`)

`capacity` slots addressed by an append counter modulo `capacity`; when all slots are taken an
append drops the oldest entry.  Entries between `tailIndex` and `headIndex` can be taken out
(`NULL` stays behind) and put back.  The two counters are `UINT64` and only grow by one at each
append, so they are natural numbers here.

`RtpRollingBuffer` keeps copies of RTP packets and answers sequence numbers with indices, taking
for granted that the sequence number of an entry is its index modulo 2^16.

Principal results:

* `lookup_append`, `lookup_setSlot` — what the operations do to the entry at an index of the range;
* `rtpRollingBufferGetValidSeqIndexList_mod` — every index answered for `s` is `s` modulo 2^16.
-/

namespace KvsWebrtc.Rtp

/-- The buffer.  `none` is a `NULL` entry. -/
structure RollingBuffer (α : Type) (capacity : Nat) where
  dataBuffer : SlotTable (Option α) capacity
  headIndex : Nat
  tailIndex : Nat
  capacity_pos : 0 < capacity
  tail_le_head : tailIndex ≤ headIndex
  head_le : headIndex ≤ tailIndex + capacity

namespace RollingBuffer

variable {α : Type} {capacity : Nat}

/-- `ROLLING_BUFFER_MAP_INDEX`. -/
def mapIndex (b : RollingBuffer α capacity) (index : Nat) : Fin capacity :=
  ⟨index % capacity, Nat.mod_lt index b.capacity_pos⟩

/-- The entry `index` maps to. -/
def lookup (b : RollingBuffer α capacity) (index : Nat) : Option α :=
  b.dataBuffer.get (b.mapIndex index)

/-- `headIndex > index && tailIndex <= index`. -/
def InRange (b : RollingBuffer α capacity) (index : Nat) : Prop :=
  index < b.headIndex ∧ b.tailIndex ≤ index

instance (b : RollingBuffer α capacity) (index : Nat) : Decidable (b.InRange index) :=
  inferInstanceAs (Decidable (_ ∧ _))

end RollingBuffer

variable {α : Type} {capacity : Nat}

def createRollingBuffer (α : Type) (capacity : Nat) (h : 0 < capacity) :
    RollingBuffer α capacity where
  dataBuffer := SlotTable.replicate capacity none
  headIndex := 0
  tailIndex := 0
  capacity_pos := h
  tail_le_head := Nat.le_refl 0
  head_le := Nat.zero_le _

/-- The buffer after the append and the index of the new entry.  A full buffer first frees its
oldest entry. -/
def rollingBufferAppendData (b : RollingBuffer α capacity) (data : α) :
    RollingBuffer α capacity × Nat :=
  if hfull : b.headIndex = b.tailIndex + capacity then
    ({ b with
        dataBuffer := (b.dataBuffer.set (b.mapIndex b.tailIndex) none).set
          (b.mapIndex b.headIndex) (some data)
        tailIndex := b.tailIndex + 1
        headIndex := b.headIndex + 1
        tail_le_head := Nat.succ_le_succ b.tail_le_head
        head_le := by omega }, b.headIndex)
  else
    ({ b with
        dataBuffer := b.dataBuffer.set (b.mapIndex b.headIndex) (some data)
        headIndex := b.headIndex + 1
        tail_le_head := Nat.le_succ_of_le b.tail_le_head
        head_le := by have := b.head_le; omega }, b.headIndex)

def rollingBufferInsertData (b : RollingBuffer α capacity) (index : Nat) (data : α) :
    Except STATUS (RollingBuffer α capacity) :=
  if b.InRange index then
    .ok { b with dataBuffer := b.dataBuffer.set (b.mapIndex index) (some data) }
  else .error .ROLLING_BUFFER_NOT_IN_RANGE

/-- Takes the entry out; the slot keeps `NULL`. -/
def rollingBufferExtractData (b : RollingBuffer α capacity) (index : Nat) :
    RollingBuffer α capacity × Option α :=
  if b.InRange index then
    ({ b with dataBuffer := b.dataBuffer.set (b.mapIndex index) none }, b.lookup index)
  else (b, none)

def rollingBufferGetSize (b : RollingBuffer α capacity) : Nat := b.headIndex - b.tailIndex

/-! ## What the operations do to an entry -/

namespace RollingBuffer

theorem mapIndex_inj {b : RollingBuffer α capacity} {i j : Nat} (hlo : b.tailIndex ≤ i)
    (hi : i < b.tailIndex + capacity) (hjlo : b.tailIndex ≤ j) (hj : j < b.tailIndex + capacity)
    (h : b.mapIndex i = b.mapIndex j) : i = j := by
  have hmod : i % capacity = j % capacity := congrArg Fin.val h
  have hij := Nat.sub_mod_eq_zero_of_mod_eq hmod
  have hji := Nat.sub_mod_eq_zero_of_mod_eq hmod.symm
  rw [Nat.mod_eq_of_lt (by omega)] at hij hji
  omega

theorem InRange.lt_tail_add {b : RollingBuffer α capacity} {i : Nat} (h : b.InRange i) :
    i < b.tailIndex + capacity :=
  lt_of_lt_of_le h.1 b.head_le

end RollingBuffer

theorem headIndex_append (b : RollingBuffer α capacity) (x : α) :
    (rollingBufferAppendData b x).1.headIndex = b.headIndex + 1 := by
  unfold rollingBufferAppendData
  split <;> rfl

theorem tailIndex_append (b : RollingBuffer α capacity) (x : α) :
    (rollingBufferAppendData b x).1.tailIndex =
      if b.headIndex = b.tailIndex + capacity then b.tailIndex + 1 else b.tailIndex := by
  unfold rollingBufferAppendData
  split <;> simp_all

/-- After an append every entry still in range is what it was, and the new one is at the old
head. -/
theorem lookup_append {b : RollingBuffer α capacity} {x : α} {i : Nat}
    (h : (rollingBufferAppendData b x).1.InRange i) :
    (rollingBufferAppendData b x).1.lookup i =
      if i = b.headIndex then some x else b.lookup i := by
  obtain ⟨hlt, hge⟩ := h
  rw [headIndex_append] at hlt
  rw [tailIndex_append] at hge
  have hpos := b.capacity_pos
  have hth := b.tail_le_head
  have hhe := b.head_le
  have hslot : i ≠ b.headIndex → b.tailIndex ≤ i →
      (b.headIndex < b.tailIndex + capacity) → b.mapIndex i ≠ b.mapIndex b.headIndex := by
    intro hne hlo hroom heq
    exact hne (RollingBuffer.mapIndex_inj hlo (by omega) hth hroom heq)
  unfold rollingBufferAppendData
  split
  · -- the buffer was full: the head uses the slot of the entry that is dropped
    rename_i hfull
    rw [if_pos hfull] at hge
    have hwrap : b.mapIndex b.headIndex = b.mapIndex b.tailIndex := by
      apply Fin.ext
      show b.headIndex % capacity = b.tailIndex % capacity
      rw [hfull, Nat.add_mod_right]
    show ((b.dataBuffer.set (b.mapIndex b.tailIndex) none).set (b.mapIndex b.headIndex)
      (some x)).get (b.mapIndex i) = _
    rw [hwrap, SlotTable.set_set, SlotTable.get_set]
    by_cases hi : i = b.headIndex
    · subst hi
      rw [if_pos hwrap, if_pos rfl]
    · have hne : b.mapIndex i ≠ b.mapIndex b.tailIndex := by
        intro heq
        have := RollingBuffer.mapIndex_inj (b := b) (by omega) (by omega) (Nat.le_refl _)
          (by omega) heq
        omega
      rw [if_neg hne, if_neg hi]
      rfl
  · rename_i hfull
    rw [if_neg hfull] at hge
    show (b.dataBuffer.set (b.mapIndex b.headIndex) (some x)).get (b.mapIndex i) = _
    rw [SlotTable.get_set]
    by_cases hi : i = b.headIndex
    · subst hi
      rw [if_pos rfl, if_pos rfl]
    · rw [if_neg (hslot hi hge (by omega)), if_neg hi]
      rfl

theorem lookup_setSlot {b : RollingBuffer α capacity} {i j : Nat} (x : Option α)
    (hi : b.InRange i) (hj : b.InRange j) :
    ({ b with dataBuffer := b.dataBuffer.set (b.mapIndex i) x } : RollingBuffer α capacity).lookup
      j = if j = i then x else b.lookup j := by
  show (b.dataBuffer.set (b.mapIndex i) x).get (b.mapIndex j) = _
  rw [SlotTable.get_set]
  by_cases h : j = i
  · subst h
    rw [if_pos rfl, if_pos rfl]
  · have hne : b.mapIndex j ≠ b.mapIndex i := by
      intro heq
      exact h (RollingBuffer.mapIndex_inj hj.2 hj.lt_tail_add hi.2 hi.lt_tail_add heq)
    rw [if_neg hne, if_neg h]
    rfl

theorem insert_cases (b : RollingBuffer α capacity) (index : Nat) (x : α) :
    (¬ b.InRange index ∧
      rollingBufferInsertData b index x = .error .ROLLING_BUFFER_NOT_IN_RANGE) ∨
    (b.InRange index ∧ ∃ b', rollingBufferInsertData b index x = .ok b' ∧
      b'.headIndex = b.headIndex ∧ b'.tailIndex = b.tailIndex ∧
      ∀ j, b.InRange j → b'.lookup j = if j = index then some x else b.lookup j) := by
  by_cases h : b.InRange index
  · right
    refine ⟨h, _, if_pos h, rfl, rfl, ?_⟩
    intro j hj
    exact lookup_setSlot (some x) h hj
  · left
    exact ⟨h, if_neg h⟩

theorem extract_cases (b : RollingBuffer α capacity) (index : Nat) :
    (¬ b.InRange index ∧ rollingBufferExtractData b index = (b, none)) ∨
    (b.InRange index ∧ ∃ b', rollingBufferExtractData b index = (b', b.lookup index) ∧
      b'.headIndex = b.headIndex ∧ b'.tailIndex = b.tailIndex ∧
      ∀ j, b.InRange j → b'.lookup j = if j = index then none else b.lookup j) := by
  by_cases h : b.InRange index
  · right
    refine ⟨h, _, if_pos h, rfl, rfl, ?_⟩
    intro j hj
    exact lookup_setSlot none h hj
  · left
    exact ⟨h, if_neg h⟩

/-! ## Copies of RTP packets -/

/-- The buffer of sent packets.  `lastIndex` is the index of the newest entry, once there is
one. -/
structure RtpRollingBuffer (capacity : Nat) where
  pRollingBuffer : RollingBuffer RtpPacket capacity
  lastIndex : Nat

def createRtpRollingBuffer (capacity : Nat) (h : 0 < capacity) : RtpRollingBuffer capacity where
  pRollingBuffer := createRollingBuffer RtpPacket capacity h
  lastIndex := 0

/-- A copy of the packet's raw bytes is parsed and appended. -/
def rtpRollingBufferAddRtpPacket (b : RtpRollingBuffer capacity) (pRawPacket : Bytes) :
    Except STATUS (RtpRollingBuffer capacity) := do
  let copy ← createRtpPacketFromBytes pRawPacket
  return {
    pRollingBuffer := (rollingBufferAppendData b.pRollingBuffer copy).1
    lastIndex := (rollingBufferAppendData b.pRollingBuffer copy).2 }

/-- `GET_UINT16_SEQ_NUM`. -/
def GET_UINT16_SEQ_NUM (seqIndex : Nat) : UINT16 := BitVec.ofNat 16 seqIndex

/-- The index a requested number maps to, if any. -/
def validSeqIndex (b : RtpRollingBuffer capacity) (seqNum : UINT16) : Option Nat :=
  let size := rollingBufferGetSize b.pRollingBuffer
  let start := b.lastIndex + 1 - size
  let startSeq := GET_UINT16_SEQ_NUM start
  let endSeq := GET_UINT16_SEQ_NUM b.lastIndex
  let crossMaxSeq : Bool := endSeq ≤ startSeq
  if (!crossMaxSeq && startSeq ≤ seqNum && seqNum ≤ endSeq) || (crossMaxSeq && startSeq ≤ seqNum)
  then some (start + seqNum.toNat - startSeq.toNat)
  else if crossMaxSeq && seqNum ≤ endSeq then some (b.lastIndex - endSeq.toNat + seqNum.toNat)
  else none

/-- The loop over the requested numbers; `count` indices have been found so far. -/
def validSeqIndexFrom (b : RtpRollingBuffer capacity) (validIndexListLen : Nat) :
    Nat → List UINT16 → List (UINT16 × Nat)
  | _, [] => []
  | count, s :: rest =>
    match validSeqIndex b s with
    | none => validSeqIndexFrom b validIndexListLen count rest
    | some index =>
      (s, index) :: if count + 1 < validIndexListLen then
        validSeqIndexFrom b validIndexListLen (count + 1) rest else []

/-- The valid index list, each index next to the number it was found for. -/
def rtpRollingBufferGetValidSeqIndexList (b : RtpRollingBuffer capacity)
    (sequenceNumberList : List UINT16) (validIndexListLen : Nat) : List (UINT16 × Nat) :=
  if rollingBufferGetSize b.pRollingBuffer = 0 then []
  else validSeqIndexFrom b validIndexListLen 0 sequenceNumberList

theorem validSeqIndex_mod {b : RtpRollingBuffer capacity} {s : UINT16} {index : Nat}
    (h : validSeqIndex b s = some index) : GET_UINT16_SEQ_NUM index = s := by
  have hs := s.isLt
  unfold validSeqIndex at h
  dsimp only at h
  split at h
  · rename_i hcond
    obtain rfl := Option.some.inj h
    have hge : GET_UINT16_SEQ_NUM (b.lastIndex + 1 - rollingBufferGetSize b.pRollingBuffer) ≤ s := by
      simp only [Bool.or_eq_true, Bool.and_eq_true, decide_eq_true_eq] at hcond
      rcases hcond with ⟨⟨-, h⟩, -⟩ | ⟨-, h⟩ <;> exact h
    apply BitVec.eq_of_toNat_eq
    simp only [GET_UINT16_SEQ_NUM, BitVec.le_def, BitVec.toNat_ofNat] at hge ⊢
    omega
  · split at h
    · obtain rfl := Option.some.inj h
      apply BitVec.eq_of_toNat_eq
      simp only [GET_UINT16_SEQ_NUM, BitVec.toNat_ofNat]
      omega
    · cases h

/-- **Every index answered for a requested number is that number modulo 2^16.** -/
theorem rtpRollingBufferGetValidSeqIndexList_mod {b : RtpRollingBuffer capacity}
    {list : List UINT16} {len : Nat} {s : UINT16} {index : Nat}
    (h : (s, index) ∈ rtpRollingBufferGetValidSeqIndexList b list len) :
    GET_UINT16_SEQ_NUM index = s := by
  have hloop : ∀ (list : List UINT16) (count : Nat),
      (s, index) ∈ validSeqIndexFrom b len count list → GET_UINT16_SEQ_NUM index = s := by
    intro list
    induction list with
    | nil =>
      intro count h
      cases h
    | cons t rest ih =>
      intro count h
      unfold validSeqIndexFrom at h
      split at h
      · exact ih count h
      · rename_i index' hindex
        rcases List.mem_cons.mp h with h | h
        · cases h
          exact validSeqIndex_mod hindex
        · split at h
          · exact ih _ h
          · cases h
  unfold rtpRollingBufferGetValidSeqIndexList at h
  split at h
  · cases h
  · exact hloop list 0 h

end KvsWebrtc.Rtp
