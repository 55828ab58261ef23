import KvsWebrtc.Codecs.Fragments

/-!
# H.265 payloads (`RtpH265Payloader.c`)

A frame in Annex B format is cut into NAL units in one pass; a unit that fits the mtu is a payload,
a longer one is fragmented.  The two bytes of the unit's header are split over the header of each
fragment, and `depayH265FromRtpPayload` rebuilds them from the first one.  The search for the next
unit is the same function as for H.264.

Principal results:

* `createAll_size`, `createAll_write` — the two modes of the payloader against the payloads;
* `payloadLoop_annexB` — the pass over a frame creates the payloads of its units, or leaves the
  frame.
-/

namespace KvsWebrtc.H265

open H264

abbrev H265_FU_HEADER_SIZE : Nat := 3
abbrev H265_FU_TYPE_ID : UINT8 := 49

/-! ## The payloader -/

def getNextNaluLengthH265 (nalus : Bytes) : Except Failure (Nat × Nat) := getNextNaluLength nalus

/-- The three bytes before a fragment.  A unit that is fragmented has its second byte. -/
def fuBytes (info : NaluInfo) (rest : Bytes) (curPayloadSize : Nat) : Bytes :=
  let naluType := (info.firstByte &&& 0x7E) >>> 1
  [(H265_FU_TYPE_ID <<< 1) ||| (info.firstByte &&& 0x81) ||| (info.firstByte &&& 0x1),
    info.nalu.getD 1 0 &&& 0xff,
    fuHeader (naluType &&& 0x3f) (rest.length = info.nalu.length - 2)
      (rest.length = curPayloadSize)]

def createPayloadFromNaluH265 (mtu : Nat) (info : NaluInfo) (room : Option Room) :
    Except Failure Filled :=
  if mtu > H265_FU_HEADER_SIZE then
    if info.nalu.length ≤ mtu then
      match room with
      | none => .ok ⟨info.nalu.length, 1, [], []⟩
      | some r =>
        if 1 ≤ r.maxPayloadSubLenSize ∧ info.nalu.length ≤ r.maxPayloadLength then
          .ok ⟨info.nalu.length, 1, info.nalu, [info.nalu.length]⟩
        else .error (.status .BUFFER_TOO_SMALL)
    else
      fragmentLoop H265_FU_HEADER_SIZE (mtu - H265_FU_HEADER_SIZE) (fuBytes info) room
        info.nalu.length (info.nalu.drop 2) ⟨0, 0, [], []⟩
  else .error (.status .RTP_INPUT_MTU_TOO_SMALL)

/-- The loop over the frame; each round takes at least the three bytes of a start code. -/
def payloadLoop (mtu : Nat) : Nat → Bytes → PayloadArray → Except Failure PayloadArray
  | 0, _, a => .ok a
  | n + 1, remaining, a =>
    match getNextNaluLengthH265 remaining with
    | .error e => .error e
    | .ok (startIndex, nextNaluLength) =>
      match remaining.drop startIndex with
      | [] => .ok a
      | b :: rest =>
        match createPayloadFromNaluH265 mtu ⟨b, (b :: rest).take nextNaluLength⟩ a.room with
        | .error e => .error e
        | .ok f =>
          let left := (b :: rest).drop nextNaluLength
          if left.length ≠ 0 then payloadLoop mtu n left (a.add f) else .ok (a.add f)

/-- The call without a buffer has no room and answers the two sizes; the call with a buffer gets
its room through the same two arguments and answers them unchanged. -/
def createPayloadForH265 (mtu : Nat) (nalus : Bytes) (room : Option Room) :
    Except Failure PayloadArray :=
  if mtu > H265_FU_HEADER_SIZE then payloadLoop mtu (nalus.length + 1) nalus (initialArray room)
  else .error (.status .RTP_INPUT_MTU_TOO_SMALL)

/-! ## The depayloader -/

/-- Whether the packet starts a unit; only a fragment can fail to. -/
def isStartingPacket (packet : Bytes) (payloadHeaderType : UINT8) : Except Failure Bool :=
  if payloadHeaderType = H265_FU_TYPE_ID then do
    let b2 ← readAt packet 2
    return (b2 &&& 0x80 ≠ 0 : Bool)
  else return true

/-- The bytes that the copying part writes. -/
def depayData (packet : Bytes) (b0 payloadHeaderType : UINT8) (isStarting : Bool) :
    Except Failure Bytes :=
  if payloadHeaderType = H265_FU_TYPE_ID then
    if isStarting then do
      let b1 ← readAt packet 1
      let b2 ← readAt packet 2
      return start4ByteCode ++ (((b2 &&& 0x3F) <<< 1) ||| (b0 &&& 0x81)) :: b1 ::
        packet.drop H265_FU_HEADER_SIZE
    else return packet.drop H265_FU_HEADER_SIZE
  else return start4ByteCode ++ packet

/-- `capacity` is `*pNaluLength` if there is a buffer. -/
def depayH265FromRtpPayload (packet : Bytes) (capacity : Option Nat) : Except Failure Depayed :=
  match packet with
  | [] => return ⟨0, [], true⟩
  | b0 :: _ => do
    let payloadHeaderType := (b0 >>> 1) &&& 0x3F
    let isStarting ← isStartingPacket packet payloadHeaderType
    let isFragment : Bool := payloadHeaderType = H265_FU_TYPE_ID
    let headerSize := if isFragment then H265_FU_HEADER_SIZE else 0
    let naluLength := wrap32 (packet.length - headerSize +
      (if isFragment ∧ isStarting then 2 else 0) +
      (if isStarting then start4ByteCode.length else 0))
    match capacity with
    | none => return ⟨naluLength, [], isStarting⟩
    | some capacity =>
      if naluLength ≤ capacity then do
        let naluData ← depayData packet b0 payloadHeaderType isStarting
        if naluData.length ≤ capacity then return ⟨naluLength, naluData, isStarting⟩
        else .error .outOfBounds
      else .error (.status .BUFFER_TOO_SMALL)

/-! ## The payloads of one unit -/

def naluPayloads (mtu : Nat) (info : NaluInfo) : List Bytes :=
  if info.nalu.length ≤ mtu then [info.nalu]
  else fragmentsOf (mtu - H265_FU_HEADER_SIZE) (fuBytes info) info.nalu.length (info.nalu.drop 2)

theorem length_fuBytes (info : NaluInfo) (rest : Bytes) (cur : Nat) :
    (fuBytes info rest cur).length = H265_FU_HEADER_SIZE := rfl

theorem createPayloadFromNaluH265_size {mtu : Nat} (hmtu : 3 < mtu) (hle : mtu < 2 ^ 32)
    (info : NaluInfo) :
    createPayloadFromNaluH265 mtu info none = .ok (sizesOf (naluPayloads mtu info)) := by
  rw [createPayloadFromNaluH265, if_pos hmtu]
  by_cases hlen : info.nalu.length ≤ mtu
  · have hwrap : wrap32 info.nalu.length = info.nalu.length :=
      wrap32_of_lt (lt_of_le_of_lt hlen hle)
    simp only [if_pos hlen, naluPayloads, sizesOf, List.flatten_singleton, hwrap]
    rfl
  · rw [if_neg hlen, fragmentLoop_size (length_fuBytes info) _ _ _ (by decide) (by decide)]
    simp [naluPayloads, hlen, sizesOf]

theorem createPayloadFromNaluH265_write {mtu : Nat} (hmtu : 3 < mtu) {r : Room} (hr : r.Bounded)
    (info : NaluInfo) (g : Filled) :
    createPayloadFromNaluH265 mtu info (some r) = .ok g ↔
      r.Fits (naluPayloads mtu info) ∧ g = writesOf (naluPayloads mtu info) := by
  rw [createPayloadFromNaluH265, if_pos hmtu, naluPayloads]
  by_cases hlen : info.nalu.length ≤ mtu
  · rw [if_pos hlen, if_pos hlen]
    exact single_write
  · rw [if_neg hlen, if_neg hlen]
    exact fragmentLoop_write (length_fuBytes info) (by decide) hr info.nalu.length
      (info.nalu.drop 2) [] g ⟨Nat.zero_le _, Nat.zero_le _⟩ (le_refl _)

/-! ## The payloads of several units -/

/-- The pass over units that are cut out already. -/
def createAll (mtu : Nat) : List NaluInfo → PayloadArray → Except Failure PayloadArray
  | [], a => .ok a
  | info :: infos, a =>
    match createPayloadFromNaluH265 mtu info a.room with
    | .error e => .error e
    | .ok f => createAll mtu infos (a.add f)

def packets (mtu : Nat) (infos : List NaluInfo) : List Bytes := infos.flatMap (naluPayloads mtu)

theorem packets_cons (mtu : Nat) (info : NaluInfo) (infos : List NaluInfo) :
    packets mtu (info :: infos) = naluPayloads mtu info ++ packets mtu infos := by
  simp [packets]

/-- **Sizes.**  The call without a buffer adds up the payloads in 32 bits. -/
theorem createAll_size {mtu : Nat} (hmtu : 3 < mtu) (hle : mtu < 2 ^ 32) :
    ∀ (infos : List NaluInfo) (a : PayloadArray), a.Sizing →
      createAll mtu infos a = .ok (a.grow (packets mtu infos))
  | [], a, h => by
    rw [createAll, packets, List.flatMap_nil, h.grow_nil]
  | info :: infos, a, h => by
    simp only [createAll, h.1, createPayloadFromNaluH265_size hmtu hle]
    rw [h.add_sizesOf, createAll_size hmtu hle infos _ (h.grow _), PayloadArray.grow_grow,
      packets_cons]

/-- **Contents.**  The call with a buffer writes the payloads if they fit, and fails if not. -/
theorem createAll_write {mtu : Nat} (hmtu : 3 < mtu) :
    ∀ (infos : List NaluInfo) (a b : PayloadArray) (r : Room), r.Bounded → a.room = some r →
      (createAll mtu infos a = .ok b ↔
        r.Fits (packets mtu infos) ∧ b = a.write r (packets mtu infos))
  | [], a, b, r, _, ha => by
    rw [createAll, packets, List.flatMap_nil, PayloadArray.write_nil ha]
    simp [Room.Fits, eq_comm]
  | info :: infos, a, b, r, hr, ha => by
    have hcreate := createPayloadFromNaluH265_write hmtu hr info
    simp only [createAll, ha]
    rw [packets_cons, r.fits_append]
    cases hc : createPayloadFromNaluH265 mtu info (some r) with
    | error e =>
      have hno : ¬ r.Fits (naluPayloads mtu info) := by
        intro h
        have := (hcreate _).mpr ⟨h, rfl⟩
        rw [hc] at this
        cases this
      simp [hno]
    | ok f =>
      obtain ⟨hfit, rfl⟩ := (hcreate f).mp hc
      simp only [hfit, true_and, PayloadArray.add_writesOf ha]
      refine (createAll_write hmtu infos _ b _ (hr.after _) rfl).trans ?_
      rw [PayloadArray.write_write]

/-! ## The pass over a frame -/

theorem payloadLoop_unit {nalu : Bytes} (hpos : 0 < nalu.length) (mtu n : Nat) (long : Bool)
    (rest : Bytes) (a : PayloadArray)
    (hnext : getNextNaluLengthH265 (startCodeOf long ++ (nalu ++ rest)) =
      .ok ((startCodeOf long).length, nalu.length)) :
    payloadLoop mtu (n + 1) (startCodeOf long ++ (nalu ++ rest)) a =
      match createPayloadFromNaluH265 mtu (infoOf nalu) a.room with
      | .error e => .error e
      | .ok f => if rest.length ≠ 0 then payloadLoop mtu n rest (a.add f) else .ok (a.add f) := by
  obtain ⟨b, bs, rfl⟩ : ∃ b bs, nalu = b :: bs := List.exists_cons_of_length_pos hpos
  rw [payloadLoop, hnext]
  simp only [List.drop_left, List.cons_append, List.length_cons, List.drop_succ_cons,
    List.take_succ_cons, List.take_left, infoOf, List.headD_cons]

theorem length_startCode_le (long : Bool) : (startCodeOf long).length ≤ 4 := by
  cases long <;> decide

/-- **The pass over a frame.**  It creates the payloads of the units, or the last unit is so long
that the search leaves the frame. -/
theorem payloadLoop_annexB (mtu : Nat) : ∀ (us : List AnnexBUnit) (n : Nat), us ≠ [] →
    us.length ≤ n → (∀ u ∈ us, DelimitedNalu u.nalu) → (annexB us).length < 2 ^ 32 →
    (∀ a, payloadLoop mtu n (annexB us) a = createAll mtu (us.map fun u => infoOf u.nalu) a) ∨
      ((∃ u ∈ us, 2 ^ 32 ≤ u.nalu.length + 6) ∧
        ∀ a b, payloadLoop mtu n (annexB us) a ≠ .ok b)
  | [], _, hne, _, _, _ => absurd rfl hne
  | u :: us, 0, _, hn, _, _ => by simp at hn
  | [u], n + 1, _, _, hwf, hlen => by
    have hu := hwf u (by simp)
    have hsingle : annexB [u] = startCodeOf u.long ++ (u.nalu ++ []) := by simp [annexB]
    rw [hsingle] at hlen ⊢
    rcases getNextNaluLength_last hu u.long (by simpa using hlen) with hnext | ⟨hwrap, hnext⟩
    · left
      intro a
      rw [payloadLoop_unit hu.length_pos mtu n u.long [] a (by
        rw [List.append_nil]
        exact hnext)]
      simp only [List.length_nil, ne_eq, not_true_eq_false, if_false, List.map_cons, List.map_nil,
        createAll]
    · right
      have hcode := length_startCode_le u.long
      rw [List.length_append] at hwrap
      refine ⟨⟨u, by simp, by omega⟩, ?_⟩
      intro a b
      rw [List.append_nil, payloadLoop, getNextNaluLengthH265, hnext]
      simp
  | u :: v :: us, n + 1, _, hn, hwf, hlen => by
    have hu := hwf u (by simp)
    have hnext : getNextNaluLengthH265 (annexB (u :: v :: us)) =
        .ok ((startCodeOf u.long).length, u.nalu.length) := by
      rw [annexB_cons, annexB_cons] at hlen ⊢
      exact getNextNaluLength_next hu u.long v.long _ hlen
    have hsplit : (annexB (u :: v :: us)).length = (startCodeOf u.long).length +
        (u.nalu.length + (annexB (v :: us)).length) := by
      rw [annexB_cons u, List.length_append, List.length_append]
    have hmore : (annexB (v :: us)).length ≠ 0 := by
      have hv := (hwf v (by simp)).length_pos
      rw [annexB_cons, List.length_append, List.length_append]
      omega
    have hround : ∀ a, payloadLoop mtu (n + 1) (annexB (u :: v :: us)) a =
        match createPayloadFromNaluH265 mtu (infoOf u.nalu) a.room with
        | .error e => .error e
        | .ok f => payloadLoop mtu n (annexB (v :: us)) (a.add f) := by
      intro a
      rw [annexB_cons u] at hnext ⊢
      rw [payloadLoop_unit hu.length_pos mtu n u.long _ a hnext]
      simp only [ne_eq, hmore, not_false_eq_true, if_true]
    rcases payloadLoop_annexB mtu (v :: us) n (by simp) (by simpa using hn)
      (fun w hw => hwf w (List.mem_cons_of_mem u hw)) (by omega) with hok | ⟨⟨w, hw, hlong⟩, hno⟩
    · left
      intro a
      simp only [hround, hok]
      rfl
    · right
      refine ⟨⟨w, List.mem_cons_of_mem u hw, hlong⟩, ?_⟩
      intro a b
      rw [hround]
      cases createPayloadFromNaluH265 mtu (infoOf u.nalu) a.room with
      | error e => simp
      | ok f => exact hno _ b

end KvsWebrtc.H265
