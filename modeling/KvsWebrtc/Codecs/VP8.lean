import KvsWebrtc.Codecs.H264RoundTrip

/-!
# VP8 payloads (`RtpVP8Payloader.c`)

The payloader puts one byte before every piece of a frame.  The depayloader accepts the whole
payload descriptor: behind its first byte there may be control bits, and they say which of the
picture id of one or two bytes, the index of the base layer, and the byte that the layer and the key
frame index share are there.  `Descriptor` is such a descriptor with all its parts, so that none is
cut short.  The source adds up the length of the descriptor and never compares it with the length of
the payload.

Principal results:

* `descriptorLength_bytes` — the length of a complete descriptor is read inside it;
* `exists_descriptor` — a payload that the length does not leave begins with a complete descriptor;
* `depayVP8_complete`, `depayVP8_short` — what the depayloader does with and without one.
-/

namespace KvsWebrtc.VP8

open H264

/-- The difference of two `UINT32` values wraps below zero. -/
def sub32 (m n : Nat) : Nat := if n ≤ m then m - n else 2 ^ 32 - (n - m)

theorem sub32_of_le {m n : Nat} (h : n ≤ m) : sub32 m n = m - n := if_pos h

theorem sub32_out {m n : Nat} (h : m < n) : ¬ n + sub32 m n ≤ m := by
  rw [sub32, if_neg (by omega)]
  omega

abbrev VP8_PAYLOAD_DESCRIPTOR_SIZE : Nat := 1
abbrev VP8_PAYLOAD_DESCRIPTOR_START_OF_PARTITION_VALUE : UINT8 := 0x10

/-! ## The payloader -/

/-- The loop over the frame; `rest` is what remains of it.  A write behind the end of one of the
two buffers is out of bounds, the source does not look at their sizes.  For an mtu of one byte the
source's loop does not end, and the fuel does. -/
def payloadLoop (mtu : Nat) : Nat → Bytes → PayloadArray → Except Failure PayloadArray
  | 0, rest, a => if rest.length = 0 then .ok a else .error .outOfBounds
  | n + 1, rest, a =>
    if rest.length = 0 then .ok a
    else
      let payloadLenConsumed := min (sub32 mtu VP8_PAYLOAD_DESCRIPTOR_SIZE) rest.length
      let payloadLength :=
        wrap32 (a.payloadLength + (payloadLenConsumed + VP8_PAYLOAD_DESCRIPTOR_SIZE))
      let payloadSubLenSize := wrap32 (a.payloadSubLenSize + 1)
      match a.room with
      | none => payloadLoop mtu n (rest.drop payloadLenConsumed)
          { a with payloadLength := payloadLength, payloadSubLenSize := payloadSubLenSize }
      | some r =>
        if a.payloadBuffer.length + (payloadLenConsumed + VP8_PAYLOAD_DESCRIPTOR_SIZE) ≤
              r.maxPayloadLength ∧
            a.payloadSubLength.length + 1 ≤ r.maxPayloadSubLenSize then
          payloadLoop mtu n (rest.drop payloadLenConsumed) { a with
            payloadLength := payloadLength
            payloadSubLenSize := payloadSubLenSize
            payloadBuffer := a.payloadBuffer ++
              ((if a.payloadSubLenSize = 0 then VP8_PAYLOAD_DESCRIPTOR_START_OF_PARTITION_VALUE
                else 0) :: rest.take payloadLenConsumed)
            payloadSubLength := a.payloadSubLength ++
              [wrap32 (payloadLenConsumed + VP8_PAYLOAD_DESCRIPTOR_SIZE)] }
        else .error .outOfBounds

/-- `room` is the size of the two buffers, if there are any; both calls answer the two counters. -/
def createPayloadForVP8 (mtu : Nat) (data : Bytes) (room : Option Room) :
    Except Failure PayloadArray :=
  payloadLoop mtu data.length data ⟨0, 0, [], [], room⟩

/-! ## The depayloader -/

/-- What a call leaves in `*pVp8Length`, in the buffer and in `*pIsStart`. -/
structure Depayed where
  vp8Length : Nat
  vp8Data : Bytes
  isStart : Bool
  deriving DecidableEq, Repr

/-- The length of the picture id, whose first byte is at 2. -/
def pictureIdLength (packet : Bytes) (control : UINT8) : Except Failure Nat :=
  if control &&& 0x80 ≠ 0 then do
    let id ← readAt packet 2
    return if id &&& 0x80 ≠ 0 then 2 else 1
  else return 0

def descriptorLength (packet : Bytes) : Except Failure Nat := do
  let first ← readAt packet 0
  if first &&& 0x80 ≠ 0 then
    let control ← readAt packet 1
    let pictureId ← pictureIdLength packet control
    return 2 + pictureId + (if control &&& 0x40 ≠ 0 then 1 else 0) +
      (if control &&& 0x20 ≠ 0 ∨ control &&& 0x10 ≠ 0 then 1 else 0)
  else return 1

/-- `capacity` is `*pVp8Length` if there is a buffer. -/
def depayVP8FromRtpPayload (packet : Bytes) (capacity : Option Nat) : Except Failure Depayed :=
  match packet with
  | [] => return ⟨0, [], true⟩
  | _ :: _ => do
    let payloadDescriptorLength ← descriptorLength packet
    let vp8Length := sub32 packet.length payloadDescriptorLength
    match capacity with
    | none => return ⟨vp8Length, [], true⟩
    | some capacity =>
      if vp8Length ≤ capacity then
        if payloadDescriptorLength + vp8Length ≤ packet.length then
          return ⟨vp8Length, (packet.drop payloadDescriptorLength).take vp8Length, true⟩
        else .error .outOfBounds
      else .error (.status .BUFFER_TOO_SMALL)

/-! ## Complete descriptors -/

/-- A byte with a bit in front of seven more. -/
def marked (bit : Bool) (low : BitVec 7) : UINT8 := BitVec.ofBool bit ++ low

/-- The picture id, of 7 or of 15 bits. -/
inductive PictureId where
  | short (id : BitVec 7)
  | long (high : BitVec 7) (low : UINT8)
  deriving DecidableEq, Repr

def PictureId.bytes : PictureId → Bytes
  | .short id => [marked false id]
  | .long high low => [marked true high, low]

/-- What follows the control bits.  The last byte is there if one of `tid` and `keyIdx` is set. -/
structure Extension where
  pictureId : Option PictureId
  tl0PicIdx : Option UINT8
  tid : Bool
  keyIdx : Bool
  reserved : BitVec 4
  tidKeyIdx : UINT8
  deriving DecidableEq, Repr

def Extension.control (e : Extension) : UINT8 :=
  BitVec.ofBool e.pictureId.isSome ++ (BitVec.ofBool e.tl0PicIdx.isSome ++
    (BitVec.ofBool e.tid ++ (BitVec.ofBool e.keyIdx ++ e.reserved)))

def Extension.bytes (e : Extension) : Bytes :=
  e.control :: ((e.pictureId.map PictureId.bytes).getD [] ++
    (e.tl0PicIdx.toList ++ if e.tid ∨ e.keyIdx then [e.tidKeyIdx] else []))

structure Descriptor where
  first : BitVec 7
  extension : Option Extension
  deriving DecidableEq, Repr

def Descriptor.bytes (d : Descriptor) : Bytes :=
  marked d.extension.isSome d.first :: (d.extension.map Extension.bytes).getD []

theorem marked_mark (bit : Bool) (low : BitVec 7) : marked bit low &&& 0x80 ≠ 0 ↔ bit = true := by
  revert bit low
  decide +kernel

theorem control_bits (i l t k : Bool) (reserved : BitVec 4) :
    let control : UINT8 := BitVec.ofBool i ++ (BitVec.ofBool l ++ (BitVec.ofBool t ++
      (BitVec.ofBool k ++ reserved)))
    (control &&& 0x80 ≠ 0 ↔ i = true) ∧ (control &&& 0x40 ≠ 0 ↔ l = true) ∧
      (control &&& 0x20 ≠ 0 ↔ t = true) ∧ (control &&& 0x10 ≠ 0 ↔ k = true) := by
  revert i l t k reserved
  decide +kernel

theorem Extension.control_iff (e : Extension) :
    (e.control &&& 0x80 ≠ 0 ↔ e.pictureId.isSome = true) ∧
      (e.control &&& 0x40 ≠ 0 ↔ e.tl0PicIdx.isSome = true) ∧
      (e.control &&& 0x20 ≠ 0 ↔ e.tid = true) ∧ (e.control &&& 0x10 ≠ 0 ↔ e.keyIdx = true) :=
  control_bits e.pictureId.isSome e.tl0PicIdx.isSome e.tid e.keyIdx e.reserved

theorem PictureId.length_bytes (p : PictureId) (rest : Bytes) : ∃ id,
    p.bytes ++ rest = id :: (p.bytes ++ rest).tail ∧
      p.bytes.length = if id &&& 0x80 ≠ 0 then 2 else 1 := by
  cases p with
  | short id =>
    refine ⟨_, rfl, ?_⟩
    rw [if_congr (marked_mark false id) rfl rfl]
    rfl
  | long high low =>
    refine ⟨_, rfl, ?_⟩
    rw [if_congr (marked_mark true high) rfl rfl]
    rfl

theorem pictureIdLength_bytes (first : UINT8) (e : Extension) (rest : Bytes) :
    pictureIdLength (first :: e.control :: ((e.pictureId.map PictureId.bytes).getD [] ++ rest))
      e.control = .ok ((e.pictureId.map PictureId.bytes).getD []).length := by
  have hbit := e.control_iff.1
  unfold pictureIdLength
  rw [if_congr hbit rfl rfl]
  cases hid : e.pictureId with
  | none => rfl
  | some p =>
    obtain ⟨id, hcons, hlen⟩ := p.length_bytes rest
    simp only [Option.map_some, Option.getD_some, Option.isSome_some, if_true]
    rw [hcons, hlen]
    rfl

theorem Extension.length_bytes (e : Extension) :
    e.bytes.length = 1 + ((e.pictureId.map PictureId.bytes).getD []).length +
      (if e.control &&& 0x40 ≠ 0 then 1 else 0) +
      (if e.control &&& 0x20 ≠ 0 ∨ e.control &&& 0x10 ≠ 0 then 1 else 0) := by
  obtain ⟨-, hl, ht, hk⟩ := e.control_iff
  have hone : e.tl0PicIdx.toList.length = if e.control &&& 0x40 ≠ 0 then 1 else 0 := by
    rw [if_congr hl rfl rfl]
    cases e.tl0PicIdx <;> rfl
  have hlast : (if e.tid ∨ e.keyIdx then [e.tidKeyIdx] else []).length =
      if e.control &&& 0x20 ≠ 0 ∨ e.control &&& 0x10 ≠ 0 then 1 else 0 := by
    rw [if_congr (or_congr ht hk) rfl rfl]
    split <;> rfl
  rw [← hone, ← hlast, Extension.bytes, List.length_cons, List.length_append, List.length_append]
  omega

/-- **The length of a complete descriptor.**  It is read inside the descriptor, whatever follows. -/
theorem descriptorLength_bytes (d : Descriptor) (data : Bytes) :
    descriptorLength (d.bytes ++ data) = .ok d.bytes.length := by
  obtain ⟨first, extension⟩ := d
  cases extension with
  | none =>
    change (if marked false first &&& 0x80 ≠ 0 then _ else _) = _
    rw [if_congr (marked_mark false first) rfl rfl]
    rfl
  | some e =>
    have hid := pictureIdLength_bytes (marked true first) e
      (e.tl0PicIdx.toList ++ (if e.tid ∨ e.keyIdx then [e.tidKeyIdx] else []) ++ data)
    have hbytes : (⟨first, some e⟩ : Descriptor).bytes ++ data =
        marked true first :: e.control :: ((e.pictureId.map PictureId.bytes).getD [] ++
          (e.tl0PicIdx.toList ++ (if e.tid ∨ e.keyIdx then [e.tidKeyIdx] else []) ++ data)) := by
      simp [Descriptor.bytes, Extension.bytes]
    have hlen : (⟨first, some e⟩ : Descriptor).bytes.length = e.bytes.length + 1 := rfl
    rw [hbytes, hlen, e.length_bytes]
    change (if marked true first &&& 0x80 ≠ 0 then _ else _) = _
    rw [if_pos ((marked_mark true first).mpr rfl)]
    simp only [readAt, List.getElem?_cons_succ, List.getElem?_cons_zero, bind, Except.bind, hid,
      pure, Except.pure]
    congr 1
    omega

theorem marked_split (b : UINT8) : marked (decide (b &&& 0x80 ≠ 0)) (b.extractLsb' 0 7) = b := by
  revert b
  decide +kernel

theorem control_split (b : UINT8) :
    (BitVec.ofBool (decide (b &&& 0x80 ≠ 0)) ++ (BitVec.ofBool (decide (b &&& 0x40 ≠ 0)) ++
      (BitVec.ofBool (decide (b &&& 0x20 ≠ 0)) ++ (BitVec.ofBool (decide (b &&& 0x10 ≠ 0)) ++
        b.extractLsb' 0 4))) : UINT8) = b := by
  revert b
  decide +kernel

theorem exists_pictureId {first control : UINT8} {bytes : Bytes} {n : Nat}
    (h : pictureIdLength (first :: control :: bytes) control = .ok n) (hn : n ≤ bytes.length) :
    ∃ (p : Option PictureId) (rest : Bytes), p.isSome = decide (control &&& 0x80 ≠ 0) ∧
      bytes = (p.map PictureId.bytes).getD [] ++ rest ∧ rest.length + n = bytes.length := by
  unfold pictureIdLength at h
  split at h
  · rename_i hbit
    cases bytes with
    | nil => simp [readAt, bind, Except.bind] at h
    | cons id bytes =>
      have hid := marked_split id
      obtain rfl : (if id &&& 0x80 ≠ 0 then 2 else 1) = n := Except.ok.inj h
      by_cases hmark : id &&& 0x80 ≠ 0
      · rw [if_pos hmark, List.length_cons] at hn
        cases bytes with
        | nil => simp at hn
        | cons low rest =>
          refine ⟨some (.long (id.extractLsb' 0 7) low), rest, (decide_eq_true hbit).symm, ?_, ?_⟩
          · rw [decide_eq_true hmark] at hid
            simp [PictureId.bytes, hid]
          · rw [if_pos hmark]
            simp
      · refine ⟨some (.short (id.extractLsb' 0 7)), bytes, (decide_eq_true hbit).symm, ?_, ?_⟩
        · rw [decide_eq_false hmark] at hid
          simp [PictureId.bytes, hid]
        · rw [if_neg hmark]
          simp
  · rename_i hbit
    obtain rfl : 0 = n := Except.ok.inj h
    exact ⟨none, bytes, (decide_eq_false hbit).symm, rfl, rfl⟩

theorem exists_optional {bit : Prop} [Decidable bit] {bytes : Bytes}
    (h : (if bit then 1 else 0) ≤ bytes.length) :
    ∃ (o : Option UINT8) (rest : Bytes), o.isSome = decide bit ∧ bytes = o.toList ++ rest ∧
      rest.length + (if bit then 1 else 0) = bytes.length := by
  by_cases hbit : bit
  · cases bytes with
    | nil => simp [hbit] at h
    | cons b rest => exact ⟨some b, rest, by simp [hbit], rfl, by simp [hbit]⟩
  · exact ⟨none, bytes, by simp [hbit], rfl, by simp [hbit]⟩

/-- **A payload that the length of the descriptor does not leave.**  It begins with a complete
descriptor. -/
theorem exists_descriptor {packet : Bytes} {n : Nat} (h : descriptorLength packet = .ok n)
    (hn : n ≤ packet.length) : ∃ (d : Descriptor) (data : Bytes), packet = d.bytes ++ data := by
  cases packet with
  | nil => simp [descriptorLength, readAt, bind, Except.bind] at h
  | cons first bytes =>
    have hfirst := marked_split first
    change (if first &&& 0x80 ≠ 0 then _ else _) = _ at h
    by_cases hmark : first &&& 0x80 ≠ 0
    · rw [decide_eq_true hmark] at hfirst
      rw [if_pos hmark] at h
      cases bytes with
      | nil => simp [readAt, bind, Except.bind] at h
      | cons control bytes =>
        change (pictureIdLength (first :: control :: bytes) control >>= _) = _ at h
        cases hp : pictureIdLength (first :: control :: bytes) control with
        | error e => simp [hp, bind, Except.bind] at h
        | ok k =>
          simp only [hp, bind, Except.bind, pure, Except.pure, Except.ok.injEq] at h
          simp only [List.length_cons] at hn
          obtain ⟨p, rest, hpsome, rfl, hk⟩ := exists_pictureId hp (by omega)
          obtain ⟨o, rest', hosome, rfl, hl⟩ :=
            @exists_optional (control &&& 0x40 ≠ 0) _ rest (by omega)
          obtain ⟨x, data, hxsome, rfl, -⟩ :=
            @exists_optional (control &&& 0x20 ≠ 0 ∨ control &&& 0x10 ≠ 0) _ rest' (by omega)
          refine ⟨⟨first.extractLsb' 0 7, some {
            pictureId := p
            tl0PicIdx := o
            tid := decide (control &&& 0x20 ≠ 0)
            keyIdx := decide (control &&& 0x10 ≠ 0)
            reserved := control.extractLsb' 0 4
            tidKeyIdx := x.getD 0 }⟩, data, ?_⟩
          have hcontrol := control_split control
          rw [← hpsome, ← hosome] at hcontrol
          have hlast : x.toList = if control &&& 0x20 ≠ 0 ∨ control &&& 0x10 ≠ 0 then [x.getD 0]
              else [] := by
            cases x with
            | none => rw [if_neg (of_decide_eq_false hxsome.symm)]; rfl
            | some y => rw [if_pos (of_decide_eq_true hxsome.symm)]; rfl
          simp only [Descriptor.bytes, Extension.bytes, Extension.control, hfirst, hcontrol,
            Option.isSome_some, Option.map_some, Option.getD_some, decide_eq_true_eq, ← hlast,
            List.cons_append, List.append_assoc]
    · rw [decide_eq_false hmark] at hfirst
      exact ⟨⟨first.extractLsb' 0 7, none⟩, bytes, by simp [Descriptor.bytes, hfirst]⟩

theorem depayVP8_complete (d : Descriptor) (data : Bytes) (capacity : Nat)
    (hcap : data.length ≤ capacity) :
    depayVP8FromRtpPayload (d.bytes ++ data) none = .ok ⟨data.length, [], true⟩ ∧
      depayVP8FromRtpPayload (d.bytes ++ data) (some capacity) =
        .ok ⟨data.length, data, true⟩ := by
  have hdesc := descriptorLength_bytes d data
  have hsub : sub32 (d.bytes ++ data).length d.bytes.length = data.length := by
    rw [sub32_of_le (by rw [List.length_append]; omega), List.length_append]
    omega
  have hin : d.bytes.length + data.length ≤ (d.bytes ++ data).length :=
    le_of_eq (List.length_append ..).symm
  have hcons : d.bytes ++ data = (d.bytes ++ data).headD 0 :: (d.bytes ++ data).tail := rfl
  constructor
  · rw [hcons, depayVP8FromRtpPayload, ← hcons, hdesc]
    simp only [bind, Except.bind, pure, Except.pure, hsub]
  · rw [hcons, depayVP8FromRtpPayload, ← hcons, hdesc]
    simp only [bind, Except.bind, pure, Except.pure, hsub, if_pos hcap, if_pos hin]
    rw [List.drop_left, List.take_length]

/-- A payload that ends inside its descriptor: the length wraps, and so far nothing is copied. -/
theorem depayVP8_short {b : UINT8} {bs : Bytes} {n : Nat}
    (h : descriptorLength (b :: bs) = .ok n) (hn : (b :: bs).length < n) :
    depayVP8FromRtpPayload (b :: bs) none = .ok ⟨sub32 (b :: bs).length n, [], true⟩ ∧
      ∀ capacity, ∃ e, depayVP8FromRtpPayload (b :: bs) (some capacity) = .error e := by
  constructor
  · rw [depayVP8FromRtpPayload, h]
    rfl
  · intro capacity
    have hout := sub32_out hn
    rw [depayVP8FromRtpPayload, h]
    simp only [bind, Except.bind, if_neg hout]
    split
    · exact ⟨_, rfl⟩
    · exact ⟨_, rfl⟩

end KvsWebrtc.VP8
