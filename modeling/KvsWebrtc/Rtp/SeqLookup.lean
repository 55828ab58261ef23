import KvsWebrtc.Rtp.RollingBuffer

/-!
# Looking sequence numbers up in the rolling buffer

The window is an interval of 64-bit indices and a NACK names 16-bit numbers.
`rtpRollingBufferGetValidSeqIndexList` splits on whether the low 16 bits of the window wrap, and
takes a window that starts and ends at the same number for one that does; it also looks at the room
in the caller's list only after it has written to it.

Principal results:

* `validSeqIndex_eq_windowIndex` — with two packets or more, a number is answered with the index of
  the window it is the low half of, and with nothing when there is none;
* `lookup_exact_iff` — the whole answer is exact unless the buffer holds a single packet and another
  number is asked for, or the list has no room at all.
-/

namespace KvsWebrtc.Rtp

variable {capacity : Nat}

/-- Any number of appends.  A packet that cannot be parsed leaves the buffer as it was. -/
def appendPackets (b : RtpRollingBuffer capacity) (packets : List Bytes) :
    RtpRollingBuffer capacity :=
  packets.foldl (fun b raw => match rtpRollingBufferAddRtpPacket b raw with
    | .ok b' => b'
    | .error _ => b) b

/-- First index of the window. -/
def windowStart (b : RtpRollingBuffer capacity) : Nat :=
  b.lastIndex + 1 - rollingBufferGetSize b.pRollingBuffer

/-- What a number should be answered with: the index of the window it is the low half of. -/
def windowIndex (b : RtpRollingBuffer capacity) (seqNum : UINT16) : Option Nat :=
  (List.range' (windowStart b) (rollingBufferGetSize b.pRollingBuffer)).find? fun i =>
    GET_UINT16_SEQ_NUM i = seqNum

/-! ## The window after any number of appends -/

/-- `lastIndex` is the index in front of the head, once anything has been appended. -/
structure LastAtHead (b : RtpRollingBuffer capacity) : Prop where
  last : rollingBufferGetSize b.pRollingBuffer = 0 ∨ b.lastIndex + 1 = b.pRollingBuffer.headIndex

theorem LastAtHead.create (h : 0 < capacity) : LastAtHead (createRtpRollingBuffer capacity h) :=
  ⟨.inl rfl⟩

theorem LastAtHead.add {b b' : RtpRollingBuffer capacity} {raw : Bytes}
    (h : rtpRollingBufferAddRtpPacket b raw = .ok b') : LastAtHead b' := by
  unfold rtpRollingBufferAddRtpPacket at h
  cases hcopy : createRtpPacketFromBytes raw with
  | error e =>
    rw [hcopy] at h
    cases h
  | ok copy =>
    rw [hcopy] at h
    cases h
    refine ⟨.inr ?_⟩
    show (rollingBufferAppendData b.pRollingBuffer copy).2 + 1 = _
    rw [headIndex_append]
    unfold rollingBufferAppendData
    split <;> rfl

theorem LastAtHead.append {b : RtpRollingBuffer capacity} (hb : LastAtHead b)
    (packets : List Bytes) : LastAtHead (appendPackets b packets) := by
  induction packets generalizing b with
  | nil => exact hb
  | cons raw rest ih =>
    show LastAtHead (appendPackets _ rest)
    apply ih
    dsimp only
    split
    · rename_i b' hadd
      exact LastAtHead.add hadd
    · exact hb

theorem LastAtHead.bounds {b : RtpRollingBuffer capacity} (hb : LastAtHead b)
    (hne : rollingBufferGetSize b.pRollingBuffer ≠ 0) :
    windowStart b + rollingBufferGetSize b.pRollingBuffer = b.lastIndex + 1 ∧
      rollingBufferGetSize b.pRollingBuffer ≤ capacity := by
  have hlast := hb.last.resolve_left hne
  have hle := b.pRollingBuffer.head_le
  unfold windowStart rollingBufferGetSize at *
  omega

theorem windowIndex_eq_some_iff {b : RtpRollingBuffer capacity} {s : UINT16} {i : Nat}
    (hsize : rollingBufferGetSize b.pRollingBuffer ≤ 65535) :
    windowIndex b s = some i ↔
      (windowStart b ≤ i ∧ i < windowStart b + rollingBufferGetSize b.pRollingBuffer) ∧
        GET_UINT16_SEQ_NUM i = s := by
  have hinj : ∀ j, windowStart b ≤ i → i < windowStart b + rollingBufferGetSize b.pRollingBuffer →
      windowStart b ≤ j → j < windowStart b + rollingBufferGetSize b.pRollingBuffer →
      GET_UINT16_SEQ_NUM j = GET_UINT16_SEQ_NUM i → j = i := by
    intro j hi hi' hj hj' heq
    have := congrArg BitVec.toNat heq
    simp only [GET_UINT16_SEQ_NUM, BitVec.toNat_ofNat] at this
    omega
  unfold windowIndex
  constructor
  · intro h
    have hmem := List.mem_of_find?_eq_some h
    have hs := List.find?_some h
    rw [List.mem_range'_1] at hmem
    exact ⟨hmem, by simpa using hs⟩
  · rintro ⟨⟨hlo, hhi⟩, hs⟩
    have hmem : i ∈ List.range' (windowStart b) (rollingBufferGetSize b.pRollingBuffer) :=
      List.mem_range'_1.mpr ⟨hlo, hhi⟩
    cases hfind : (List.range' (windowStart b) (rollingBufferGetSize b.pRollingBuffer)).find?
        fun i => decide (GET_UINT16_SEQ_NUM i = s) with
    | none =>
      have := List.find?_eq_none.mp hfind i hmem
      simp [hs] at this
    | some j =>
      have hj := List.mem_range'_1.mp (List.mem_of_find?_eq_some hfind)
      have hjs := List.find?_some hfind
      rw [hinj j hlo hhi hj.1 hj.2 (by rw [hs]; simpa using hjs)]

/-! ## One number -/

/-- The index a number maps to, on the numbers of the window alone. -/
theorem validSeqIndex_eq (b : RtpRollingBuffer capacity) (s : UINT16) :
    validSeqIndex b s =
      if windowStart b % 65536 ≤ s.toNat ∧
          (b.lastIndex % 65536 ≤ windowStart b % 65536 ∨ s.toNat ≤ b.lastIndex % 65536) then
        some (windowStart b + s.toNat - windowStart b % 65536)
      else if b.lastIndex % 65536 ≤ windowStart b % 65536 ∧ s.toNat ≤ b.lastIndex % 65536 then
        some (b.lastIndex - b.lastIndex % 65536 + s.toNat)
      else none := by
  unfold validSeqIndex
  simp only [GET_UINT16_SEQ_NUM, BitVec.le_def, BitVec.toNat_ofNat, Nat.reducePow]
  rw [show b.lastIndex + 1 - rollingBufferGetSize b.pRollingBuffer = windowStart b from rfl]
  generalize windowStart b = start
  generalize b.lastIndex = last
  by_cases hcross : last % 65536 ≤ start % 65536
  · simp [hcross]
  · simp [hcross]

/-- **With two packets or more the lookup of one number is exact.** -/
theorem validSeqIndex_eq_windowIndex {b : RtpRollingBuffer capacity} (hb : LastAtHead b)
    (hcap : capacity ≤ 65535) (htwo : 2 ≤ rollingBufferGetSize b.pRollingBuffer) (s : UINT16) :
    validSeqIndex b s = windowIndex b s := by
  obtain ⟨hsum, hsize⟩ := hb.bounds (by omega)
  have hs := s.isLt
  apply Option.ext
  intro i
  rw [windowIndex_eq_some_iff (by omega), validSeqIndex_eq, ← BitVec.toNat_inj]
  simp only [GET_UINT16_SEQ_NUM, BitVec.toNat_ofNat, Nat.reducePow]
  split
  · rw [Option.some.injEq]
    omega
  · split
    · rw [Option.some.injEq]
      omega
    · simp only [reduceCtorEq, false_iff]
      omega

theorem validSeqIndex_single {b : RtpRollingBuffer capacity} (hb : LastAtHead b)
    (hone : rollingBufferGetSize b.pRollingBuffer = 1) (s : UINT16) :
    validSeqIndex b s = some (b.lastIndex - b.lastIndex % 65536 + s.toNat) := by
  have hsum := (hb.bounds (by omega)).1
  rw [hone] at hsum
  obtain hstart : windowStart b = b.lastIndex := by omega
  rw [validSeqIndex_eq, hstart]
  split
  · congr 1
    omega
  · rw [if_pos (by omega)]

/-! ## The list -/

/-- The room is looked at behind the write, so at least one index is always written. -/
theorem map_validSeqIndexFrom (b : RtpRollingBuffer capacity) (len : Nat) :
    ∀ (list : List UINT16) (count : Nat), (validSeqIndexFrom b len count list).map Prod.snd =
      (list.filterMap (validSeqIndex b)).take (max (len - count) 1)
  | [], count => by simp [validSeqIndexFrom]
  | s :: rest, count => by
    unfold validSeqIndexFrom
    cases hs : validSeqIndex b s with
    | none =>
      rw [List.filterMap_cons_none hs]
      exact map_validSeqIndexFrom b len rest count
    | some index =>
      rw [List.filterMap_cons_some hs]
      rw [List.map_cons]
      by_cases hroom : count + 1 < len
      · rw [if_pos hroom, map_validSeqIndexFrom b len rest (count + 1),
          show max (len - count) 1 = max (len - (count + 1)) 1 + 1 by omega, List.take_succ_cons]
      · rw [if_neg hroom, show max (len - count) 1 = 1 by omega]
        rfl

/-- When the answer is exact: a buffer of a single packet is asked for that packet only, and a list
without room is asked for nothing that is in the window. -/
structure LookupAsked (b : RtpRollingBuffer capacity) (list : List UINT16) (len : Nat) : Prop where
  single : rollingBufferGetSize b.pRollingBuffer = 1 →
    ∀ s ∈ list.take (max len 1), s = GET_UINT16_SEQ_NUM b.lastIndex
  room : len = 0 → ∀ s ∈ list, windowIndex b s = none

/-- The indices that should be answered, in list order. -/
def expectedIndices (b : RtpRollingBuffer capacity) (list : List UINT16) (len : Nat) : List Nat :=
  (list.filterMap (windowIndex b)).take len

theorem lookup_exact_single {b : RtpRollingBuffer capacity} (hb : LastAtHead b)
    (hone : rollingBufferGetSize b.pRollingBuffer = 1) (list : List UINT16) (len : Nat) :
    (list.filterMap (validSeqIndex b)).take (max len 1) = expectedIndices b list len ↔
      LookupAsked b list len := by
  have hsum := (hb.bounds (by omega)).1
  rw [hone] at hsum
  have hown : ∀ s i, windowIndex b s = some i ↔
      i = b.lastIndex ∧ s = GET_UINT16_SEQ_NUM b.lastIndex := by
    intro s i
    rw [windowIndex_eq_some_iff (by omega), hone]
    constructor
    · rintro ⟨hi, rfl⟩
      obtain rfl : i = b.lastIndex := by omega
      exact ⟨rfl, rfl⟩
    · rintro ⟨rfl, rfl⟩
      exact ⟨by omega, rfl⟩
  have hcode : list.filterMap (validSeqIndex b) =
      list.map fun s => b.lastIndex - b.lastIndex % 65536 + s.toNat := by
    rw [← List.filterMap_eq_map]
    exact List.filterMap_congr fun s _ => validSeqIndex_single hb hone s
  rw [hcode, expectedIndices]
  constructor
  · intro heq
    refine ⟨fun _ s hs => ?_, fun hlen s hs => ?_⟩
    · -- every index answered is the index of the packet
      have hmem : b.lastIndex - b.lastIndex % 65536 + s.toNat ∈
          (list.filterMap (windowIndex b)).take len := by
        rw [← heq, ← List.map_take]
        exact List.mem_map_of_mem hs
      obtain ⟨t, -, ht⟩ := List.mem_filterMap.mp (List.mem_of_mem_take hmem)
      have hindex := ((hown t _).mp ht).1
      apply BitVec.eq_of_toNat_eq
      simp only [GET_UINT16_SEQ_NUM, BitVec.toNat_ofNat]
      omega
    · rw [hlen, List.take_zero] at heq
      cases list with
      | nil => cases hs
      | cons t rest => simp at heq
  · intro hcond
    cases len with
    | zero =>
      cases list with
      | nil => rfl
      | cons t rest =>
        have hnone := hcond.room rfl t (List.mem_cons_self ..)
        have hsingle := hcond.single hone t (by simp)
        rw [(hown t b.lastIndex).mpr ⟨rfl, hsingle⟩] at hnone
        cases hnone
    | succ len =>
      have hfront : (list.take (len + 1)).filterMap (windowIndex b) =
          (list.take (len + 1)).map fun s => b.lastIndex - b.lastIndex % 65536 + s.toNat := by
        rw [← List.filterMap_eq_map]
        refine List.filterMap_congr fun s hs => ?_
        have hs := hcond.single hone s (by simpa using hs)
        rw [Function.comp_apply, (hown s b.lastIndex).mpr ⟨rfl, hs⟩, hs]
        simp only [GET_UINT16_SEQ_NUM, BitVec.toNat_ofNat]
        congr 1
        omega
      have hmax : max (len + 1) 1 = len + 1 := by omega
      rw [hmax, ← List.map_take, ← hfront]
      conv_rhs => rw [← List.take_append_drop (len + 1) list, List.filterMap_append]
      rw [hfront, List.take_append, List.length_map, List.length_take, List.map_take,
        List.take_take, Nat.min_self]
      by_cases hlong : len + 1 ≤ list.length
      · rw [Nat.min_eq_left hlong, Nat.sub_self, List.take_zero, List.append_nil]
      · rw [List.drop_eq_nil_of_le (by omega), List.filterMap_nil, List.take_nil, List.append_nil]

/-- **The lookup answers, in list order and up to the room given, precisely the indices of the window
whose low 16 bits are listed — exactly when a buffer of a single packet is asked for nothing but that
packet, and a list without room for nothing that is in the window.** -/
theorem lookup_exact_iff (hpos : 0 < capacity) (hcap : capacity ≤ 65535) (packets : List Bytes)
    (list : List UINT16) (len : Nat) :
    (rtpRollingBufferGetValidSeqIndexList
        (appendPackets (createRtpRollingBuffer capacity hpos) packets) list len).map Prod.snd =
      expectedIndices (appendPackets (createRtpRollingBuffer capacity hpos) packets) list len ↔
    LookupAsked (appendPackets (createRtpRollingBuffer capacity hpos) packets) list len := by
  have hb := (LastAtHead.create hpos).append packets
  generalize appendPackets (createRtpRollingBuffer capacity hpos) packets = b at hb
  unfold rtpRollingBufferGetValidSeqIndexList
  by_cases hempty : rollingBufferGetSize b.pRollingBuffer = 0
  · have hnone : ∀ s, windowIndex b s = none := by
      intro s
      rw [windowIndex, hempty]
      rfl
    rw [if_pos hempty, expectedIndices, List.filterMap_eq_nil_iff.mpr fun s _ => hnone s]
    simp only [List.map_nil, List.take_nil, true_iff]
    exact ⟨fun hone => by omega, fun _ s _ => hnone s⟩
  · rw [if_neg hempty, map_validSeqIndexFrom, Nat.sub_zero]
    by_cases hone : rollingBufferGetSize b.pRollingBuffer = 1
    · exact lookup_exact_single hb hone list len
    · have heq : list.filterMap (validSeqIndex b) = list.filterMap (windowIndex b) :=
        List.filterMap_congr fun s _ => validSeqIndex_eq_windowIndex hb hcap (by omega) s
      rw [heq, expectedIndices]
      cases len with
      | succ len =>
        rw [show max (len + 1) 1 = len + 1 by omega]
        simp only [true_iff]
        exact ⟨fun h => absurd h hone, fun h => by omega⟩
      | zero =>
        constructor
        · intro h
          refine ⟨fun h => absurd h hone, fun _ => List.filterMap_eq_nil_iff.mp ?_⟩
          cases hlist : list.filterMap (windowIndex b) with
          | nil => rfl
          | cons i rest => simp [hlist] at h
        · intro h
          rw [List.filterMap_eq_nil_iff.mpr (h.room rfl)]
          rfl

/-- An RTP packet without payload. -/
def sampleRtp (sequenceNumber : UINT16) : Bytes :=
  [0x80, 0x60] ++ putUnalignedInt16BigEndian sequenceNumber ++ [0, 0, 0, 1, 0, 0, 0, 2]

/-- Three packets in a buffer of two: the first number is gone, the others are found in list
order. -/
theorem lookup_exact_three :
    (rtpRollingBufferGetValidSeqIndexList (appendPackets (createRtpRollingBuffer 2 (by decide))
      [sampleRtp 0, sampleRtp 1, sampleRtp 2]) [2, 0, 7, 1] 8).map Prod.snd =
    expectedIndices (appendPackets (createRtpRollingBuffer 2 (by decide))
      [sampleRtp 0, sampleRtp 1, sampleRtp 2]) [2, 0, 7, 1] 8 :=
  (lookup_exact_iff (by decide) (by decide) _ _ _).mpr
    ⟨fun h => absurd h (by decide +kernel), fun h => absurd h (by decide)⟩

/-- A buffer that holds packet 0 only answers 5 with the index 5. -/
theorem single_packet_answers_every_number :
    let b := appendPackets (createRtpRollingBuffer 4 (by decide)) [sampleRtp 0]
    (rtpRollingBufferGetValidSeqIndexList b [5] 8).map Prod.snd = [5] ∧
      expectedIndices b [5] 8 = [] := by
  decide +kernel

end KvsWebrtc.Rtp
