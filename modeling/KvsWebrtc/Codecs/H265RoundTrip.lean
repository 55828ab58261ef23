import KvsWebrtc.Codecs.H265
import KvsWebrtc.Codecs.H264RoundTrip

/-!
# Packetising and depacketising an H.265 frame

The header of a unit survives its way through the fragments, so a frame comes back if and only if
it has a unit and its payloads are shorter than `2^32` bytes in total: the two counters of the
payloader are 32 bits wide, and a buffer of the size they answer is too small for a longer frame.
There is no limit on the number of units, and the search for a unit leaves the frame only in a
last unit that is too long for the counters already.

Principal results:

* `depayAll_packets` — the depayloader restores the units;
* `h265_round_trip_iff` — when a frame comes back.
-/

namespace KvsWebrtc.H265

open H264

/-- At least two bytes, forbidden bit 0, a type below 48, no start code inside, last byte not
zero. -/
structure WellFormedNalu (nalu : Bytes) : Prop where
  header : ∃ b0 b1 rest, nalu = b0 :: b1 :: rest ∧ b0 &&& 0x80 = 0 ∧
    ((b0 >>> 1) &&& 0x3F).toNat < 48
  no_start_code : ¬ start3ByteCode <:+: nalu
  last : nalu.getLast? ≠ some 0

theorem WellFormedNalu.length_pos {nalu : Bytes} (h : WellFormedNalu nalu) : 0 < nalu.length := by
  obtain ⟨b0, b1, rest, rfl, _⟩ := h.header
  simp

theorem WellFormedNalu.delimited {nalu : Bytes} (h : WellFormedNalu nalu) : DelimitedNalu nalu :=
  ⟨h.length_pos, h.no_start_code, h.last⟩

/-! ## One payload -/

/-- The call for the size and the call with a buffer of that size. -/
def depayOne (p : Bytes) : Except Failure Bytes := do
  let size ← depayH265FromRtpPayload p none
  let d ← depayH265FromRtpPayload p (some size.naluLength)
  return d.naluData

/-- The payloads in order. -/
def depayAll : List Bytes → Except Failure Bytes
  | [] => return []
  | p :: ps => do
    let d ← depayOne p
    return d ++ (← depayAll ps)

theorem depayAll_append {ps qs : List Bytes} {a b : Bytes} (hps : depayAll ps = .ok a)
    (hqs : depayAll qs = .ok b) : depayAll (ps ++ qs) = .ok (a ++ b) := by
  induction ps generalizing a with
  | nil =>
    obtain rfl : [] = a := by simpa [depayAll, pure, Except.pure] using hps
    exact hqs
  | cons p ps ih =>
    simp only [depayAll, List.cons_append] at hps ⊢
    cases hp : depayOne p with
    | error e =>
      rw [hp] at hps
      cases hps
    | ok d =>
      cases hrest : depayAll ps with
      | error e => simp [hp, hrest, bind, Except.bind] at hps
      | ok c =>
        obtain rfl : d ++ c = a := by
          simpa [hp, hrest, bind, Except.bind, pure, Except.pure] using hps
        simp [ih hrest, bind, Except.bind, pure, Except.pure]

theorem depayOne_single {b0 : UINT8} {bs : Bytes} (htype : (b0 >>> 1) &&& 0x3F ≠ H265_FU_TYPE_ID)
    (hlen : bs.length + 5 < 2 ^ 32) :
    depayOne (b0 :: bs) = .ok (start4ByteCode ++ b0 :: bs) := by
  have hwrap : wrap32 (bs.length + 1 + start4ByteCode.length) = bs.length + 5 := wrap32_of_lt hlen
  have hdata : (start4ByteCode ++ b0 :: bs).length ≤ bs.length + 5 := by
    simp [start4ByteCode]
  simp only [depayOne, depayH265FromRtpPayload, isStartingPacket, depayData, htype, if_false,
    decide_false, Bool.false_eq_true, false_and, if_true, bind, Except.bind, pure, Except.pure,
    List.length_cons, Nat.sub_zero, Nat.add_zero, hwrap, le_refl]
  rw [if_pos hdata]

/-! ## Fragments -/

theorem fuIndicator_type (b : UINT8) :
    (((H265_FU_TYPE_ID <<< 1 ||| (b &&& 0x81) ||| (b &&& 0x1)) >>> 1) &&& 0x3F) =
      H265_FU_TYPE_ID := by
  revert b
  decide

theorem fuHeader_later (b : UINT8) (isLast : Bool) :
    fuHeader (((b &&& 0x7E) >>> 1) &&& 0x3f) false isLast &&& 0x80 = 0 := by
  revert b isLast
  decide

theorem fuHeader_first (b : UINT8) : (((b &&& 0x7E) >>> 1) &&& 0x3f ||| 0x80) &&& 0x80 ≠ 0 := by
  revert b
  decide

theorem header_of_fragment (b : UINT8) :
    (((((b &&& 0x7E) >>> 1) &&& 0x3f ||| 0x80) &&& 0x3F) <<< 1) |||
      ((H265_FU_TYPE_ID <<< 1 ||| (b &&& 0x81) ||| (b &&& 0x1)) &&& 0x81) = b := by
  revert b
  decide

theorem and_ff (b : UINT8) : b &&& 0xff = b := by
  revert b
  decide

/-- A fragment of a unit, at most `mtu` bytes long. -/
def fragment (b0 b1 : UINT8) (isFirst isLast : Bool) (part : Bytes) : Bytes :=
  (H265_FU_TYPE_ID <<< 1 ||| (b0 &&& 0x81) ||| (b0 &&& 0x1)) :: b1 ::
    fuHeader (((b0 &&& 0x7E) >>> 1) &&& 0x3f) isFirst isLast :: part

theorem depayOne_fragment (b0 b1 : UINT8) (isLast : Bool) {part : Bytes}
    (hlen : part.length < 2 ^ 32) :
    depayOne (fragment b0 b1 false isLast part) = .ok part := by
  have htype := fuIndicator_type b0
  have hlater := fuHeader_later b0 isLast
  have hread : readAt (fragment b0 b1 false isLast part) 2 =
      .ok (fuHeader (((b0 &&& 0x7E) >>> 1) &&& 0x3f) false isLast) := rfl
  have hstart : isStartingPacket (fragment b0 b1 false isLast part) H265_FU_TYPE_ID =
      .ok false := by
    simp only [isStartingPacket, if_true, hread, bind, Except.bind, hlater, pure, Except.pure,
      ne_eq, not_true_eq_false, decide_false]
  have hdata : depayData (fragment b0 b1 false isLast part)
      (H265_FU_TYPE_ID <<< 1 ||| (b0 &&& 0x81) ||| (b0 &&& 0x1)) H265_FU_TYPE_ID false =
        .ok part := rfl
  have hwrap : wrap32 (part.length + 1 + 1 + 1 - H265_FU_HEADER_SIZE) = part.length :=
    wrap32_of_lt hlen
  unfold fragment at hstart hdata ⊢
  simp only [depayOne, depayH265FromRtpPayload, htype, hstart, hdata, decide_true, if_true,
    bind, Except.bind, pure, Except.pure, Bool.false_eq_true, and_false, if_false, Nat.add_zero,
    List.length_cons, hwrap, le_refl]

theorem depayOne_first_fragment (b0 b1 : UINT8) (isLast : Bool) {part : Bytes}
    (hlen : part.length + 6 < 2 ^ 32) :
    depayOne (fragment b0 b1 true isLast part) = .ok (start4ByteCode ++ b0 :: b1 :: part) := by
  have htype := fuIndicator_type b0
  have hfirst := fuHeader_first b0
  have hbyte := header_of_fragment b0
  have hread : readAt (fragment b0 b1 true isLast part) 2 =
      .ok (((b0 &&& 0x7E) >>> 1) &&& 0x3f ||| 0x80) := rfl
  have hread1 : readAt (fragment b0 b1 true isLast part) 1 = .ok b1 := rfl
  have hdrop : (fragment b0 b1 true isLast part).drop H265_FU_HEADER_SIZE = part := rfl
  have hstart : isStartingPacket (fragment b0 b1 true isLast part) H265_FU_TYPE_ID = .ok true := by
    simp only [isStartingPacket, if_true, hread, bind, Except.bind, pure, Except.pure,
      ne_eq, hfirst, not_false_eq_true, decide_true]
  have hdata : depayData (fragment b0 b1 true isLast part)
      (H265_FU_TYPE_ID <<< 1 ||| (b0 &&& 0x81) ||| (b0 &&& 0x1)) H265_FU_TYPE_ID true =
        .ok (start4ByteCode ++ b0 :: b1 :: part) := by
    simp only [depayData, if_true, hread, hread1, bind, Except.bind, pure, Except.pure, hdrop,
      hbyte]
  have hwrap : wrap32 (part.length + 1 + 1 + 1 - H265_FU_HEADER_SIZE + 2 +
      start4ByteCode.length) = part.length + 6 := wrap32_of_lt hlen
  have hfit : (start4ByteCode ++ b0 :: b1 :: part).length ≤ part.length + 6 := by
    simp [start4ByteCode]
  unfold fragment at hstart hdata ⊢
  simp only [depayOne, depayH265FromRtpPayload, htype, hstart, hdata, decide_true, if_true,
    bind, Except.bind, pure, Except.pure, and_self, List.length_cons, hwrap, le_refl]
  rw [if_pos hfit]

section

variable {mtu : Nat} (hmtu : 3 < mtu) (hle : mtu ≤ 65535)

theorem fuBytes_append (b0 b1 : UINT8) (bs rest part : Bytes) (cur : Nat) :
    fuBytes (infoOf (b0 :: b1 :: bs)) rest cur ++ part =
      fragment b0 b1 (rest.length = bs.length) (rest.length = cur) part := by
  have hb1 : b1 &&& 255#8 = b1 := and_ff b1
  simp [fuBytes, infoOf, fragment, hb1]

include hmtu hle in
theorem depayAll_fragments (b0 b1 : UINT8) (bs : Bytes) : ∀ (n : Nat) (rest : Bytes),
    rest.length ≤ n → rest.length < bs.length →
    depayAll (fragmentsOf (mtu - H265_FU_HEADER_SIZE) (fuBytes (infoOf (b0 :: b1 :: bs))) n rest) =
      .ok rest
  | 0, rest, hn, _ => by
    rw [List.length_eq_zero_iff.mp (Nat.le_zero.mp hn)]
    rfl
  | n + 1, rest, hn, hlt => by
    by_cases hrest : rest.length = 0
    · rw [List.length_eq_zero_iff.mp hrest]
      rfl
    · have hlater : decide (rest.length = bs.length) = false := by
        simp only [decide_eq_false_iff_not]
        omega
      have hdrop : (rest.drop (min (mtu - H265_FU_HEADER_SIZE) rest.length)).length <
          rest.length := by
        rw [List.length_drop]
        simp only [H265_FU_HEADER_SIZE]
        omega
      have hpart : (rest.take (min (mtu - H265_FU_HEADER_SIZE) rest.length)).length < 2 ^ 32 := by
        rw [List.length_take]
        omega
      simp only [fragmentsOf, if_neg hrest, depayAll, fuBytes_append, hlater,
        depayOne_fragment b0 b1 _ hpart]
      rw [depayAll_fragments b0 b1 bs n _ (by omega) (by omega)]
      simp [bind, Except.bind, pure, Except.pure]

include hmtu hle in
theorem depayAll_naluPayloads {nalu : Bytes} (h : WellFormedNalu nalu) :
    depayAll (naluPayloads mtu (infoOf nalu)) = .ok (start4ByteCode ++ nalu) := by
  obtain ⟨b0, b1, bs, rfl, _, htype⟩ := h.header
  rw [naluPayloads]
  split
  case isTrue hshort =>
    have hne : (b0 >>> 1) &&& 0x3F ≠ H265_FU_TYPE_ID := by
      intro heq
      rw [heq] at htype
      revert htype
      decide
    have hlen : (b1 :: bs).length + 5 < 2 ^ 32 := by
      simp only [infoOf, List.length_cons] at hshort ⊢
      omega
    simp [depayAll, infoOf, depayOne_single hne hlen, bind, Except.bind, pure, Except.pure]
  case isFalse hlong =>
    have hlen : mtu ≤ bs.length + 1 := by
      simp only [infoOf, List.length_cons] at hlong
      omega
    have hrest : bs.length ≠ 0 := by omega
    have hdrop : (bs.drop (min (mtu - H265_FU_HEADER_SIZE) bs.length)).length < bs.length := by
      rw [List.length_drop]
      simp only [H265_FU_HEADER_SIZE]
      omega
    have hpart : (bs.take (min (mtu - H265_FU_HEADER_SIZE) bs.length)).length + 6 < 2 ^ 32 := by
      rw [List.length_take]
      omega
    have htail := depayAll_fragments hmtu hle b0 b1 bs (bs.length + 1)
      (bs.drop (min (mtu - H265_FU_HEADER_SIZE) bs.length)) (by omega) (by omega)
    have hnalu : (infoOf (b0 :: b1 :: bs)).nalu = b0 :: b1 :: bs := rfl
    rw [hnalu, List.length_cons, List.length_cons, List.drop_succ_cons, List.drop_succ_cons,
      List.drop_zero, fragmentsOf, if_neg hrest]
    simp only [depayAll, fuBytes_append, decide_true, depayOne_first_fragment b0 b1 _ hpart, htail]
    simp [bind, Except.bind, pure, Except.pure]

/-- The units in Annex B format, each behind the long start code. -/
def restored (nalus : List Bytes) : Bytes := nalus.flatMap fun nalu => start4ByteCode ++ nalu

include hmtu hle in
/-- **Depacketising.**  The payloads of well-formed units give back the units. -/
theorem depayAll_packets : ∀ nalus : List Bytes, (∀ nalu ∈ nalus, WellFormedNalu nalu) →
    depayAll (packets mtu (nalus.map infoOf)) = .ok (restored nalus)
  | [], _ => rfl
  | nalu :: nalus, h => by
    have hhead := depayAll_naluPayloads hmtu hle (h nalu (by simp))
    have htail := depayAll_packets nalus fun m hm => h m (List.mem_cons_of_mem nalu hm)
    rw [List.map_cons, packets_cons, depayAll_append hhead htail]
    simp [restored]

/-! ## Sizes of the payloads -/

include hmtu in
theorem naluPayloads_le (info : NaluInfo) : ∀ p ∈ naluPayloads mtu info, p.length ≤ mtu := by
  intro p hp
  rw [naluPayloads] at hp
  split at hp
  case isTrue h =>
    rw [List.mem_singleton.mp hp]
    exact h
  case isFalse =>
    have hfrag := fragmentsOf_le (length_fuBytes info) _ _ p hp
    simp only [H265_FU_HEADER_SIZE] at hfrag
    omega

theorem naluPayloads_pos {info : NaluInfo} (hpos : 0 < info.nalu.length) :
    ∀ p ∈ naluPayloads mtu info, 1 ≤ p.length := by
  intro p hp
  rw [naluPayloads] at hp
  split at hp
  case isTrue =>
    rw [List.mem_singleton.mp hp]
    exact hpos
  case isFalse => exact fragmentsOf_pos (length_fuBytes info) (by decide) _ _ p hp

theorem length_packets_le {infos : List NaluInfo} (h : ∀ info ∈ infos, 0 < info.nalu.length) :
    (packets mtu infos).length ≤ (packets mtu infos).flatten.length := by
  have hsum := List.length_le_sum_of_one_le ((packets mtu infos).map List.length) (by
    intro n hn
    obtain ⟨p, hp, rfl⟩ := List.mem_map.mp hn
    obtain ⟨info, hi, hp⟩ := List.mem_flatMap.mp hp
    exact naluPayloads_pos (h info hi) p hp)
  rwa [List.length_map, ← List.length_flatten] at hsum

/-- The bytes of the payloads of one unit: the unit itself, or all of it but its header and three
bytes for each fragment. -/
def naluBytes (mtu len : Nat) : Nat :=
  if len ≤ mtu then len else len - 2 + 3 * ((len - 2 + (mtu - 4)) / (mtu - 3))

/-- The bytes of all payloads of a frame whose units have these lengths. -/
def frameBytes (mtu : Nat) (lens : List Nat) : Nat := (lens.map (naluBytes mtu)).sum

include hmtu in
theorem length_naluPayloads (info : NaluInfo) :
    (naluPayloads mtu info).flatten.length = naluBytes mtu info.nalu.length := by
  rw [naluPayloads, naluBytes]
  split
  case isTrue => simp
  case isFalse =>
    have hmax : 0 < mtu - H265_FU_HEADER_SIZE := by
      simp only [H265_FU_HEADER_SIZE]
      omega
    rw [length_fragmentsOf (length_fuBytes info) hmax _ _ (by simp), List.length_drop]
    congr 3

include hmtu in
theorem length_packets : ∀ infos : List NaluInfo, (packets mtu infos).flatten.length =
    frameBytes mtu (infos.map fun i => i.nalu.length)
  | [] => rfl
  | info :: infos => by
    rw [packets_cons, List.flatten_append, List.length_append, length_naluPayloads hmtu,
      length_packets infos]
    simp [frameBytes]

include hmtu hle in
/-- A unit that is too long for the counter of the search has too many payload bytes: a fragment
has three bytes of header for at most 65532 bytes of the unit. -/
theorem naluBytes_ge {len : Nat} (hlong : 2 ^ 32 ≤ len + 6) : 2 ^ 32 ≤ naluBytes mtu len := by
  rw [naluBytes, if_neg (by omega)]
  obtain ⟨k, hk⟩ : ∃ k, k = (len - 2 + (mtu - 4)) / (mtu - 3) := ⟨_, rfl⟩
  have hdiv := Nat.div_add_mod (len - 2 + (mtu - 4)) (mtu - 3)
  have hmod := Nat.mod_lt (len - 2 + (mtu - 4)) (show 0 < mtu - 3 by omega)
  rw [← hk] at hdiv ⊢
  have hceil : len - 2 ≤ (mtu - 3) * k := by omega
  have hmul : (mtu - 3) * k ≤ 65532 * k := Nat.mul_le_mul_right k (by omega)
  omega

theorem naluBytes_le_frameBytes {lens : List Nat} {len : Nat} (h : len ∈ lens) :
    naluBytes mtu len ≤ frameBytes mtu lens :=
  List.single_le_sum (by simp) _ (List.mem_map.mpr ⟨len, h, rfl⟩)

/-! ## Round trips -/

/-- The frame comes back: the call for the sizes answers what the call with a buffer of these sizes
then writes, every payload is at most `mtu` bytes, and the depayloader gives back the units. -/
def RoundTrips (mtu : Nat) (us : List AnnexBUnit) : Prop :=
  ∃ size written : PayloadArray,
    createPayloadForH265 mtu (annexB us) none = .ok size ∧
    createPayloadForH265 mtu (annexB us) (some size.asked) = .ok written ∧
    written.payloadBuffer.length = size.payloadLength ∧
    written.payloadSubLength.length = size.payloadSubLenSize ∧
    (∀ p ∈ written.payloads, p.length ≤ mtu) ∧
    depayAll written.payloads = .ok (restored (us.map AnnexBUnit.nalu))

variable {us : List AnnexBUnit} (hwf : ∀ u ∈ us, WellFormedNalu u.nalu)
  (hlen : (annexB us).length < 2 ^ 32)

theorem length_us_le : ∀ us : List AnnexBUnit, us.length ≤ (annexB us).length
  | [] => by simp
  | u :: us => by
    have ih := length_us_le us
    have hcode : 3 ≤ (startCodeOf u.long).length := by cases u.long <;> decide
    rw [annexB_cons, List.length_append, List.length_append, List.length_cons]
    omega

include hmtu hle hwf hlen in
theorem createPayloadForH265_units (hne : us ≠ []) :
    (∀ room, createPayloadForH265 mtu (annexB us) room =
      createAll mtu (us.map fun u => infoOf u.nalu) (initialArray room)) ∨
    (2 ^ 32 ≤ frameBytes mtu (us.map fun u => u.nalu.length) ∧
      ∀ b, createPayloadForH265 mtu (annexB us) none ≠ .ok b) := by
  have hfuel : us.length ≤ (annexB us).length + 1 := Nat.le_succ_of_le (length_us_le us)
  simp only [createPayloadForH265, if_pos hmtu]
  rcases payloadLoop_annexB mtu us _ hne hfuel (fun u hu => (hwf u hu).delimited) hlen with
    hok | ⟨⟨u, hu, hlong⟩, hno⟩
  · left
    exact fun room => hok _
  · right
    refine ⟨le_trans (naluBytes_ge hmtu hle hlong) ?_, hno _⟩
    exact naluBytes_le_frameBytes (List.mem_map.mpr ⟨u, hu, rfl⟩)

include hmtu hle hwf in
theorem roundTrips_iff_of_units (hcalls : ∀ room, createPayloadForH265 mtu (annexB us) room =
      createAll mtu (us.map fun u => infoOf u.nalu) (initialArray room)) :
    RoundTrips mtu us ↔ frameBytes mtu (us.map fun u => u.nalu.length) < 2 ^ 32 := by
  have hprod : H264.Produces (createPayloadForH265 mtu (annexB us))
      (packets mtu (us.map fun u => infoOf u.nalu)) := by
    refine ⟨?_, fun {r b} hr => ?_⟩
    · rw [hcalls]
      exact createAll_size hmtu (by omega) _ _ ⟨rfl, by decide, by decide⟩
    · rw [hcalls]
      exact createAll_write hmtu _ _ _ _ hr rfl
  have htotal : (packets mtu (us.map fun u => infoOf u.nalu)).flatten.length =
      frameBytes mtu (us.map fun u => u.nalu.length) := by
    rw [length_packets hmtu, List.map_map]
    rfl
  rw [← htotal]
  refine hprod.iff ?_ (fun p hp => ?_)
    (P := fun ps => depayAll ps = .ok (restored (us.map AnnexBUnit.nalu))) ?_
  · apply length_packets_le
    intro info hi
    obtain ⟨u, hu, rfl⟩ := List.mem_map.mp hi
    exact (hwf u hu).length_pos
  · obtain ⟨info, _, hp⟩ := List.mem_flatMap.mp hp
    exact naluPayloads_le hmtu info p hp
  · have hrestore := depayAll_packets hmtu hle (us.map AnnexBUnit.nalu) (by
      intro nalu hn
      obtain ⟨u, hu, rfl⟩ := List.mem_map.mp hn
      exact hwf u hu)
    rw [List.map_map] at hrestore
    exact hrestore

include hmtu hle hwf hlen in
theorem roundTrips_of_frameBytes (hne : us ≠ [])
    (hbytes : frameBytes mtu (us.map fun u => u.nalu.length) < 2 ^ 32) : RoundTrips mtu us := by
  have hcalls := (createPayloadForH265_units hmtu hle hwf hlen hne).resolve_right
    fun h => absurd h.1 (by omega)
  exact (roundTrips_iff_of_units hmtu hle hwf hcalls).mpr hbytes

include hmtu hle hwf hlen in
theorem frameBytes_of_roundTrips (h : RoundTrips mtu us) :
    us ≠ [] ∧ frameBytes mtu (us.map fun u => u.nalu.length) < 2 ^ 32 := by
  obtain ⟨size, written, hsize, hwritten, hrest⟩ := h
  have hne : us ≠ [] := by
    rintro rfl
    simp only [createPayloadForH265, if_pos hmtu] at hsize
    cases hsize
  rcases createPayloadForH265_units hmtu hle hwf hlen hne with hcalls | ⟨_, hno⟩
  · exact ⟨hne, (roundTrips_iff_of_units hmtu hle hwf hcalls).mp ⟨size, written, hsize, hwritten, hrest⟩⟩
  · exact absurd hsize (hno size)

end

/-- **H.265 round trip.**  A frame of well-formed units comes back, for every mtu from 4 to 65535,
if and only if it has a unit and its payloads are shorter than `2^32` bytes in total. -/
theorem h265_round_trip_iff (mtu : Nat) (hmtu : 4 ≤ mtu ∧ mtu ≤ 65535) (us : List AnnexBUnit)
    (hwf : ∀ u ∈ us, WellFormedNalu u.nalu) (hlen : (annexB us).length < 2 ^ 32) :
    RoundTrips mtu us ↔ us ≠ [] ∧ frameBytes mtu (us.map fun u => u.nalu.length) < 2 ^ 32 :=
  ⟨frameBytes_of_roundTrips hmtu.1 hmtu.2 hwf hlen,
    fun h => roundTrips_of_frameBytes hmtu.1 hmtu.2 hwf hlen h.1 h.2⟩

/-- A parameter set and a slice. -/
def smallFrame : List AnnexBUnit :=
  [⟨true, [0x40, 0x01, 0x0C]⟩, ⟨false, [0x26, 0x01, 0xAF, 0x09, 0x3C, 0x77, 0x5A]⟩]

theorem wellFormed_of_ne_zero {b0 b1 : UINT8} {bs : Bytes} (hb : b0 &&& 0x80 = 0)
    (htype : ((b0 >>> 1) &&& 0x3F).toNat < 48) (hne : ∀ c ∈ b0 :: b1 :: bs, c ≠ 0) :
    WellFormedNalu (b0 :: b1 :: bs) where
  header := ⟨b0, b1, bs, rfl, hb, htype⟩
  no_start_code := by
    rintro ⟨s, t, h⟩
    apply hne 0 _ rfl
    rw [← h]
    simp [start3ByteCode]
  last := fun h => hne 0 (List.mem_of_getLast? h) rfl

theorem two_units_round_trip : RoundTrips 5 smallFrame :=
  (h265_round_trip_iff 5 (by decide) smallFrame (by
    intro u hu
    simp only [smallFrame, List.mem_cons, List.not_mem_nil, or_false] at hu
    rcases hu with rfl | rfl
    · exact wellFormed_of_ne_zero (by decide) (by decide) (by decide)
    · exact wellFormed_of_ne_zero (by decide) (by decide) (by decide)) (by decide)).mpr (by decide)

/-- One slice of `n + 2` bytes. -/
def longSlice (n : Nat) : List AnnexBUnit := [⟨true, 0x26 :: 0x01 :: List.replicate n 0xFF⟩]

theorem wellFormed_longSlice (n : Nat) : ∀ u ∈ longSlice n, WellFormedNalu u.nalu := by
  intro u hu
  rw [longSlice, List.mem_singleton] at hu
  rw [hu]
  apply wellFormed_of_ne_zero (by decide) (by decide)
  intro c hc
  simp only [List.mem_cons] at hc
  rcases hc with rfl | rfl | hc
  · decide
  · decide
  · rw [List.eq_of_mem_replicate hc]
    decide

theorem length_longSlice (n : Nat) : (annexB (longSlice n)).length = n + 6 := by
  simp [longSlice, annexB, startCodeOf, start4ByteCode]

/-- In fragments of one byte a slice takes four times its length. -/
theorem frameBytes_longSlice {n : Nat} (h : 3 ≤ n) :
    frameBytes 4 ((longSlice n).map fun u => u.nalu.length) = 4 * n := by
  have hlens : (longSlice n).map (fun u => u.nalu.length) = [n + 2] := by simp [longSlice]
  rw [hlens, frameBytes]
  show naluBytes 4 (n + 2) + 0 = 4 * n
  rw [naluBytes, if_neg (by omega)]
  show n + 2 - 2 + 3 * ((n + 2 - 2 + 0) / 1) + 0 = 4 * n
  omega

/-- A slice of `2^30 + 2` bytes takes `2^32` bytes and is lost. -/
theorem fragmented_slice_lost :
    (∀ u ∈ longSlice (2 ^ 30), WellFormedNalu u.nalu) ∧
      (annexB (longSlice (2 ^ 30))).length < 2 ^ 32 ∧ ¬ RoundTrips 4 (longSlice (2 ^ 30)) := by
  have hlen : (annexB (longSlice (2 ^ 30))).length < 2 ^ 32 := by
    rw [length_longSlice]
    decide
  refine ⟨wellFormed_longSlice _, hlen, fun h => ?_⟩
  obtain ⟨_, hbytes⟩ := frameBytes_of_roundTrips (by decide) (by decide) (wellFormed_longSlice _)
    hlen h
  rw [frameBytes_longSlice (by decide)] at hbytes
  revert hbytes
  decide

end KvsWebrtc.H265
