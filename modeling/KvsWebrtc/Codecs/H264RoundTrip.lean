import KvsWebrtc.Codecs.H264Packets

/-!
# Packetising and depacketising an H.264 frame

The depayloader restores the units that the payloader packed, so a frame comes back if and only if
its payloads are shorter than `2^32` bytes in total: the two counters of the payloader are 32 bits
wide, and a buffer of the size they answer is too small for a longer frame.

Principal results:

* `depayAll_packets` — the depayloader restores the units;
* `h264_round_trip_iff` — when a frame comes back.
-/

namespace KvsWebrtc.H264

/-! ## The depayloader: frame starts are decided inside the packet -/

theorem readAt_lt {bytes : Bytes} {i : Nat} (h : i < bytes.length) : readAt bytes i = .ok bytes[i] := by
  simp [readAt, List.getElem?_eq_getElem h]

theorem isEmulationByte_ok {data : Bytes} {i : Nat} (h : i < data.length) :
    ∃ e, isEmulationByte data i = .ok e := by
  rw [isEmulationByte]
  split
  case isTrue =>
    rw [readAt_lt h, readAt_lt (show i - 1 < data.length by omega),
      readAt_lt (show i - 2 < data.length by omega)]
    exact ⟨_, rfl⟩
  case isFalse => exact ⟨false, rfl⟩

theorem bitAt_ok {data : Bytes} {i : Nat} (h : i < 8 * data.length) :
    ∃ b, bitAt data i = .ok b := by
  rw [bitAt, readAt_lt (show i / 8 < data.length by omega)]
  exact ⟨_, rfl⟩

theorem countZeroBits_ok {data : Bytes} {maxBits : Nat} (h : maxBits ≤ 8 * data.length) :
    ∀ n bitPos zeroBits : Nat, ∃ r, countZeroBits data maxBits n bitPos zeroBits = .ok r
  | 0, _, _ => ⟨_, rfl⟩
  | n + 1, bitPos, zeroBits => by
    rw [countZeroBits]
    split
    case isTrue hlt =>
      obtain ⟨e, he⟩ := isEmulationByte_ok (show bitPos / 8 < data.length by omega)
      obtain ⟨b, hb⟩ := bitAt_ok (show bitPos < 8 * data.length by omega)
      rw [he]
      cases e with
      | true => exact countZeroBits_ok h n _ _
      | false =>
        rw [hb]
        by_cases hone : b = 1
        · exact ⟨(bitPos, zeroBits), by simp [bind, Except.bind, hone]⟩
        · obtain ⟨r, hr⟩ := countZeroBits_ok h n (bitPos + 1) (zeroBits + 1)
          exact ⟨r, by simpa [bind, Except.bind, hone] using hr⟩
    case isFalse => exact ⟨_, rfl⟩

theorem readValueBits_ok {data : Bytes} {maxBits : Nat} (h : maxBits ≤ 8 * data.length) :
    ∀ n bitPos value : Nat, bitPos + n ≤ maxBits →
      ∃ r, readValueBits data maxBits n bitPos value = .ok r
  | 0, _, _, _ => ⟨_, rfl⟩
  | n + 1, bitPos, value, hn => by
    obtain ⟨e, he⟩ := isEmulationByte_ok (show bitPos / 8 < data.length by omega)
    rw [readValueBits, he]
    cases e with
    | true =>
      by_cases hroom : bitPos + 8 + (n + 1) > maxBits
      · exact ⟨none, by simp [bind, Except.bind, hroom]⟩
      · obtain ⟨b, hb⟩ := bitAt_ok (show bitPos + 8 < 8 * data.length by omega)
        obtain ⟨r, hr⟩ := readValueBits_ok h n (bitPos + 9) (2 * value + b) (by omega)
        exact ⟨r, by simpa [bind, Except.bind, hroom, hb] using hr⟩
    | false =>
      obtain ⟨b, hb⟩ := bitAt_ok (show bitPos < 8 * data.length by omega)
      obtain ⟨r, hr⟩ := readValueBits_ok h n (bitPos + 1) (2 * value + b) (by omega)
      exact ⟨r, by simpa [bind, Except.bind, hb] using hr⟩

theorem h264ReadUeGolomb_ok {data : Bytes} {nBytes : Nat} (h : nBytes ≤ data.length) :
    ∃ r, h264ReadUeGolomb data nBytes = .ok r := by
  have hbits : min nBytes 8 * 8 ≤ 8 * data.length := by omega
  obtain ⟨⟨bitPos, zeroBits⟩, hcount⟩ := countZeroBits_ok hbits (min nBytes 8 * 8) 0 0
  simp only [h264ReadUeGolomb, hcount]
  by_cases hstop : bitPos ≥ min nBytes 8 * 8 ∨ zeroBits ≥ 32
  · exact ⟨none, by simp [bind, Except.bind, hstop, pure, Except.pure]⟩
  · by_cases hroom : bitPos + 1 + zeroBits > min nBytes 8 * 8
    · exact ⟨none, by simp [bind, Except.bind, hstop, hroom, pure, Except.pure]⟩
    · obtain ⟨r, hr⟩ := readValueBits_ok hbits zeroBits (bitPos + 1) 0 (by omega)
      exact ⟨_, by simp only [bind, Except.bind, if_neg hstop, if_neg hroom, hr]; rfl⟩

/-- A unit that lies in the bytes is examined without leaving them. -/
theorem h264NaluIsFrameStart_ok {nalu : Bytes} {naluLen : Nat} (h : naluLen ≤ nalu.length) :
    ∃ r, h264NaluIsFrameStart nalu naluLen = .ok r := by
  rw [h264NaluIsFrameStart]
  by_cases hzero : naluLen = 0
  · exact ⟨false, by simp [hzero, pure, Except.pure]⟩
  · rw [if_neg hzero, readAt_lt (show 0 < nalu.length by omega)]
    simp only [bind, Except.bind]
    split
    case isTrue => exact ⟨_, rfl⟩
    case isFalse =>
      split
      case isTrue =>
        split
        case isTrue => exact ⟨_, rfl⟩
        case isFalse =>
          obtain ⟨r, hr⟩ := h264ReadUeGolomb_ok
            (show naluLen - 1 ≤ (nalu.drop 1).length by rw [List.length_drop]; omega)
          rw [hr]
          exact ⟨_, rfl⟩
      case isFalse => exact ⟨_, rfl⟩

/-! ## One payload -/

/-- The call for the size and the call with a buffer of that size. -/
def depayOne (isStart : Bool) (p : Bytes) : Except Failure Bytes := do
  let size ← depayH264FromRtpPayload p none (some isStart)
  let d ← depayH264FromRtpPayload p (some size.naluLength) (some isStart)
  return d.naluData

/-- The payloads in order; only the first one has the start flag. -/
def depayAll : Bool → List Bytes → Except Failure Bytes
  | _, [] => return []
  | isStart, p :: ps => do
    let d ← depayOne isStart p
    return d ++ (← depayAll false ps)

theorem depayOne_of_parts {isStart : Bool} {b0 : UINT8} {bs data : Bytes} {n : Nat × Bool}
    (hlen : depayLength (b0 :: bs) (startCodeOf isStart) b0 = .ok n)
    (hdata : depayData (b0 :: bs) (startCodeOf isStart) b0 = .ok data) :
    depayOne isStart (b0 :: bs) = .ok data := by
  have hcode : (if some isStart = some false then start3ByteCode else start4ByteCode) =
      startCodeOf isStart := by
    cases isStart <;> rfl
  simp only [depayOne, depayH264FromRtpPayload, hcode, hlen, bind, Except.bind, pure, Except.pure]
  rw [if_pos (le_refl n.1), hdata]

theorem depayAll_append {isStart : Bool} {ps qs : List Bytes} {a b : Bytes} (hne : ps ≠ [])
    (hps : depayAll isStart ps = .ok a) (hqs : depayAll false qs = .ok b) :
    depayAll isStart (ps ++ qs) = .ok (a ++ b) := by
  induction ps generalizing isStart a with
  | nil => exact absurd rfl hne
  | cons p ps ih =>
    simp only [depayAll, List.cons_append] at hps ⊢
    cases hp : depayOne isStart p with
    | error e =>
      rw [hp] at hps
      cases hps
    | ok d =>
      rw [hp] at hps
      cases hrest : depayAll false ps with
      | error e =>
        simp [hrest, bind, Except.bind] at hps
      | ok c =>
        have ha : d ++ c = a := by simpa [hrest, bind, Except.bind, pure, Except.pure] using hps
        have htail : depayAll false (ps ++ qs) = .ok (c ++ b) := by
          by_cases hnil : ps = []
          · subst hnil
            have hc : c = [] := by simpa [depayAll, pure, Except.pure, eq_comm] using hrest
            simpa [hc] using hqs
          · exact ih hnil hrest
        simp [htail, bind, Except.bind, pure, Except.pure, ← ha]

/-! ## Single units and fragments -/

theorem type_ne_indicator {b : UINT8} (h : (b &&& 0x1F).toNat ≤ 23) :
    b &&& NAL_TYPE_MASK ≠ FU_A_INDICATOR ∧ b &&& NAL_TYPE_MASK ≠ FU_B_INDICATOR ∧
      b &&& NAL_TYPE_MASK ≠ STAP_A_INDICATOR ∧ b &&& NAL_TYPE_MASK ≠ STAP_B_INDICATOR := by
  have hmask : b &&& NAL_TYPE_MASK = b &&& 0x1F := rfl
  rw [hmask]
  refine ⟨?_, ?_, ?_, ?_⟩ <;>
    · intro heq
      rw [heq] at h
      revert h
      decide

theorem depayOne_single (isStart : Bool) {nalu : Bytes} (h : WellFormedNalu nalu) :
    depayOne isStart nalu = .ok (startCodeOf isStart ++ nalu) := by
  obtain ⟨b, bs, rfl, _, _, htype⟩ := h.header
  obtain ⟨h1, h2, h3, h4⟩ := type_ne_indicator htype
  obtain ⟨r, hr⟩ := h264NaluIsFrameStart_ok (le_refl (b :: bs).length)
  have hlen : depayLength (b :: bs) (startCodeOf isStart) b =
      .ok (wrap32 ((b :: bs).length + (startCodeOf isStart).length), r) := by
    simp only [depayLength, if_neg h1, if_neg h2, if_neg h3, if_neg h4, hr]
    rfl
  have hdata : depayData (b :: bs) (startCodeOf isStart) b =
      .ok (startCodeOf isStart ++ b :: bs) := by
    simp only [depayData, if_neg h1, if_neg h2, if_neg h3, if_neg h4]
    rfl
  exact depayOne_of_parts hlen hdata

theorem fuIndicator_type (b : UINT8) : (28 ||| (b &&& 0x60)) &&& NAL_TYPE_MASK = FU_A_INDICATOR := by
  revert b
  decide

theorem fuIndicator_nri (b : UINT8) : (28 ||| (b &&& 0x60)) &&& 0x60 = b &&& 0x60 := by
  revert b
  decide

theorem fuHeader_first (b : UINT8) : (b &&& 0x1F ||| 0x80) &&& 0x80 ≠ 0 ∧
    (b &&& 0x1F ||| 0x80) &&& 0x1F = b &&& 0x1F := by
  revert b
  decide

theorem fuHeader_later (b : UINT8) (isLast : Bool) :
    fuHeader (b &&& 0x1F) false isLast &&& 0x80 = 0 := by
  revert b isLast
  decide

theorem header_of_parts {b : UINT8} (h : b &&& 0x80 = 0) : (b &&& 0x60) ||| (b &&& 0x1F) = b := by
  revert b
  decide

theorem depayOne_fragment (isStart : Bool) (b : UINT8) (isLast : Bool) (part : Bytes) :
    depayOne isStart ((28 ||| (b &&& 0x60)) :: fuHeader (b &&& 0x1F) false isLast :: part) =
      .ok part := by
  have hlater := fuHeader_later b isLast
  have hread : readAt ((28 ||| (b &&& 0x60)) :: fuHeader (b &&& 0x1F) false isLast :: part) 1 =
      .ok (fuHeader (b &&& 0x1F) false isLast) := rfl
  refine depayOne_of_parts (n := (part.length, false)) ?_ ?_
  · simp only [depayLength, fuIndicator_type, if_true, hread]
    simp only [bind, Except.bind, hlater, ne_eq, not_true_eq_false, if_false]
    rfl
  · simp only [depayData, fuIndicator_type, if_true, hread]
    simp only [bind, Except.bind, hlater, ne_eq, not_true_eq_false, if_false]
    rfl

theorem depayOne_first_fragment (isStart : Bool) {b : UINT8} (hb : b &&& 0x80 = 0) (isLast : Bool)
    (part : Bytes) :
    depayOne isStart ((28 ||| (b &&& 0x60)) :: fuHeader (b &&& 0x1F) true isLast :: part) =
      .ok (startCodeOf isStart ++ b :: part) := by
  obtain ⟨hstart, htype⟩ := fuHeader_first b
  obtain ⟨r, hr⟩ := h264ReadUeGolomb_ok (le_refl part.length)
  have hheader : fuHeader (b &&& 0x1F) true isLast = b &&& 0x1F ||| 0x80 := rfl
  rw [hheader]
  have hread : readAt ((28 ||| (b &&& 0x60)) :: (b &&& 0x1F ||| 0x80) :: part) 1 =
      .ok (b &&& 0x1F ||| 0x80) := rfl
  have hlen : ∃ n, depayLength ((28 ||| (b &&& 0x60)) :: (b &&& 0x1F ||| 0x80) :: part)
      (startCodeOf isStart) (28 ||| (b &&& 0x60)) = .ok n := by
    simp only [depayLength, fuIndicator_type, if_true, hread]
    simp only [bind, Except.bind, if_pos hstart, htype]
    split
    case isTrue => exact ⟨_, rfl⟩
    case isFalse =>
      split
      case isTrue =>
        have hpart : h264ReadUeGolomb (((28 ||| (b &&& 0x60)) :: (b &&& 0x1F ||| 0x80) :: part).drop
            FU_A_HEADER_SIZE) (((28 ||| (b &&& 0x60)) :: (b &&& 0x1F ||| 0x80) :: part).length -
            FU_A_HEADER_SIZE) = .ok r := hr
        rw [hpart]
        exact ⟨_, rfl⟩
      case isFalse => exact ⟨_, rfl⟩
  obtain ⟨n, hn⟩ := hlen
  refine depayOne_of_parts hn ?_
  simp only [depayData, fuIndicator_type, if_true, hread]
  simp only [bind, Except.bind, if_pos hstart, htype, fuIndicator_nri, header_of_parts hb]
  rfl

theorem depayAll_fragments {mtu : Nat} (hmtu : 2 < mtu) (info : NaluInfo) :
    ∀ (n : Nat) (rest : Bytes), rest.length ≤ n → rest.length < info.nalu.length - 1 →
      depayAll false (fragments mtu info n rest) = .ok rest
  | 0, rest, hn, _ => by
    rw [List.length_eq_zero_iff.mp (Nat.le_zero.mp hn)]
    rfl
  | n + 1, rest, hn, hlt => by
    by_cases hrest : rest.length = 0
    · rw [List.length_eq_zero_iff.mp hrest]
      rfl
    · have hlater : decide (rest.length = info.nalu.length - 1) = false := by
        simp only [decide_eq_false_iff_not]
        omega
      have hdrop : (rest.drop (min (mtu - FU_A_HEADER_SIZE) rest.length)).length <
          rest.length := by
        rw [List.length_drop]
        simp only [FU_A_HEADER_SIZE]
        omega
      simp only [fragments, if_neg hrest, depayAll, hlater, depayOne_fragment]
      rw [depayAll_fragments hmtu info n _ (by omega) (by omega)]
      simp [bind, Except.bind, pure, Except.pure]

theorem depayAll_naluPayloads {mtu : Nat} (hmtu : 2 < mtu) (isStart : Bool) {nalu : Bytes}
    (h : WellFormedNalu nalu) :
    depayAll isStart (naluPayloads mtu (infoOf nalu)) = .ok (startCodeOf isStart ++ nalu) := by
  rw [naluPayloads]
  split
  case isTrue =>
    simp [depayAll, infoOf, depayOne_single isStart h, bind, Except.bind, pure, Except.pure]
  case isFalse hlong =>
    obtain ⟨b, bs, rfl, hb, _⟩ := h.header
    have hlen : mtu ≤ bs.length := by
      simp only [infoOf, List.length_cons] at hlong
      omega
    have hfirst : decide (bs.length = (infoOf (b :: bs)).nalu.length - 1) = true := by
      simp [infoOf]
    have hrest : bs.length ≠ 0 := by omega
    have hdrop : (bs.drop (min (mtu - FU_A_HEADER_SIZE) bs.length)).length < bs.length := by
      rw [List.length_drop]
      simp only [FU_A_HEADER_SIZE]
      omega
    have hnalu : (infoOf (b :: bs)).nalu = b :: bs := rfl
    have htail := depayAll_fragments hmtu (infoOf (b :: bs)) bs.length
      (bs.drop (min (mtu - FU_A_HEADER_SIZE) bs.length)) (by omega) (by
        rw [hnalu, List.length_cons]
        omega)
    have hhead : (infoOf (b :: bs)).firstByte = b := rfl
    rw [hnalu, List.length_cons, List.drop_succ_cons, List.drop_zero]
    simp only [fragments, if_neg hrest, depayAll, hfirst, hhead,
      depayOne_first_fragment isStart hb, htail]
    simp [bind, Except.bind, pure, Except.pure]

/-! ## Aggregates -/

/-- The units in Annex B format, the first behind `startCode` and the others behind the short start
code. -/
def restored (startCode : Bytes) : List Bytes → Bytes
  | [] => []
  | nalu :: nalus => startCode ++ (nalu ++ restored start3ByteCode nalus)

def stapEntries (infos : List NaluInfo) : Bytes :=
  infos.flatMap fun info =>
    putUnalignedInt16BigEndian (BitVec.ofNat 16 info.nalu.length) ++ info.nalu

theorem stapEntries_cons (info : NaluInfo) (infos : List NaluInfo) :
    stapEntries (info :: infos) = putUnalignedInt16BigEndian (BitVec.ofNat 16 info.nalu.length) ++
      (info.nalu ++ stapEntries infos) := by
  simp [stapEntries]

theorem read16At_entry (start : Bytes) {info : NaluInfo} (rest : Bytes)
    (h : info.nalu.length < 65536) :
    read16At (start ++ (putUnalignedInt16BigEndian (BitVec.ofNat 16 info.nalu.length) ++ rest))
      start.length = .ok info.nalu.length := by
  rw [read16At, if_pos (by simp), get16_skip _ (le_refl _), Nat.sub_self, get16_put16]
  rw [BitVec.toNat_ofNat, Nat.mod_eq_of_lt h]

theorem drop_entry (start size nalu rest : Bytes) (h : size.length = 2) :
    (start ++ (size ++ (nalu ++ rest))).drop (start.length + 2) = nalu ++ rest := by
  rw [← List.append_assoc, List.drop_append_of_le_length (by simp [h]),
    List.drop_of_length_le (by simp [h]), List.nil_append]

theorem length_stapEntries_pos {infos : List NaluInfo} (h : infos ≠ []) :
    0 < (stapEntries infos).length := by
  cases infos with
  | nil => exact absurd rfl h
  | cons info infos =>
    rw [stapEntries_cons, List.length_append, length_put16]
    omega

theorem stapCopy_entries : ∀ (infos : List NaluInfo) (n : Nat) (start startCode : Bytes),
    infos ≠ [] → infos.length ≤ n →
    (∀ info ∈ infos, 0 < info.nalu.length ∧ info.nalu.length < 65536) →
    stapCopy (start ++ stapEntries infos) n start.length startCode =
      .ok (restored startCode (infos.map NaluInfo.nalu))
  | [], _, _, _, hne, _, _ => absurd rfl hne
  | info :: infos, 0, _, _, _, hn, _ => by simp at hn
  | info :: infos, n + 1, start, startCode, _, hn, hsize => by
    obtain ⟨hpos, hlt⟩ := hsize info (by simp)
    obtain ⟨size, hsz⟩ : ∃ size, size =
      putUnalignedInt16BigEndian (BitVec.ofNat 16 info.nalu.length) := ⟨_, rfl⟩
    have hlen2 : size.length = 2 := by rw [hsz, length_put16]
    have hread := read16At_entry start (info.nalu ++ stapEntries infos) hlt
    rw [← hsz] at hread
    rw [stapEntries_cons, ← hsz, stapCopy, hread]
    have htotal : (start ++ (size ++ (info.nalu ++ stapEntries infos))).length =
        start.length + 2 + info.nalu.length + (stapEntries infos).length := by
      simp only [List.length_append, hlen2]
      omega
    simp only [bind, Except.bind, drop_entry start size info.nalu _ hlen2, htotal,
      List.take_left]
    rw [if_pos (by omega)]
    by_cases hnil : infos = []
    · subst hnil
      have hempty : stapEntries [] = [] := rfl
      rw [if_neg (by rw [hempty]; simp)]
      simp [restored, pure, Except.pure]
    · have hmore := length_stapEntries_pos hnil
      rw [if_pos (by omega)]
      have ih := stapCopy_entries infos n (start ++ (size ++ info.nalu)) start3ByteCode hnil
        (by simpa using hn) fun i hi => hsize i (List.mem_cons_of_mem _ hi)
      have hstart : (start ++ (size ++ info.nalu)).length =
          start.length + 2 + info.nalu.length := by
        simp only [List.length_append, hlen2]
        omega
      rw [hstart, List.append_assoc, List.append_assoc] at ih
      rw [ih]
      simp [restored, pure, Except.pure]

theorem stapLengths_entries : ∀ (infos : List NaluInfo) (n : Nat) (start : Bytes)
    (startCodeSize naluLength : Nat) (isFrameStart : Bool), infos ≠ [] → infos.length ≤ n →
    (∀ info ∈ infos, 0 < info.nalu.length ∧ info.nalu.length < 65536) →
    ∃ r, stapLengths (start ++ stapEntries infos) n start.length startCodeSize naluLength
      isFrameStart = .ok r
  | [], _, _, _, _, _, hne, _, _ => absurd rfl hne
  | info :: infos, 0, _, _, _, _, _, hn, _ => by simp at hn
  | info :: infos, n + 1, start, startCodeSize, naluLength, isFrameStart, _, hn, hsize => by
    obtain ⟨hpos, hlt⟩ := hsize info (by simp)
    obtain ⟨size, hsz⟩ : ∃ size, size =
      putUnalignedInt16BigEndian (BitVec.ofNat 16 info.nalu.length) := ⟨_, rfl⟩
    have hlen2 : size.length = 2 := by rw [hsz, length_put16]
    have hread := read16At_entry start (info.nalu ++ stapEntries infos) hlt
    rw [← hsz] at hread
    rw [stapEntries_cons, ← hsz, stapLengths, hread]
    have htotal : (start ++ (size ++ (info.nalu ++ stapEntries infos))).length =
        start.length + 2 + info.nalu.length + (stapEntries infos).length := by
      simp only [List.length_append, hlen2]
      omega
    -- what follows the test for a frame start
    have hgo : ∀ (fs : Bool) (len : Nat), ∃ r,
        (if info.nalu.length > 0 ∧ start.length + 2 + info.nalu.length <
            start.length + 2 + info.nalu.length + (stapEntries infos).length then
          stapLengths (start ++ (size ++ (info.nalu ++ stapEntries infos))) n
            (start.length + 2 + info.nalu.length) start3ByteCode.length len fs
        else .ok (len, fs)) = .ok r := by
      intro fs len
      split
      case isFalse => exact ⟨_, rfl⟩
      case isTrue hcont =>
        have hnil : infos ≠ [] := by
          rintro rfl
          simp [stapEntries] at hcont
        obtain ⟨r, ih⟩ := stapLengths_entries infos n (start ++ (size ++ info.nalu))
          start3ByteCode.length len fs hnil
          (by simpa using hn) fun i hi => hsize i (List.mem_cons_of_mem _ hi)
        have hstart : (start ++ (size ++ info.nalu)).length =
            start.length + 2 + info.nalu.length := by
          simp only [List.length_append, hlen2]
          omega
        rw [hstart, List.append_assoc, List.append_assoc] at ih
        exact ⟨r, ih⟩
    simp only [bind, Except.bind, drop_entry start size info.nalu _ hlen2, htotal]
    cases isFrameStart with
    | true => exact hgo true _
    | false =>
      obtain ⟨fs, hfs⟩ := h264NaluIsFrameStart_ok
        (show info.nalu.length ≤ (info.nalu ++ stapEntries infos).length by simp)
      rw [hfs]
      exact hgo fs _

theorem maxNri_type (infos : List NaluInfo) : ∀ m : UINT8, m &&& 31 = 0 →
    infos.foldl (fun m info =>
      let nri := info.firstByte &&& 0x60
      if nri > m then nri else m) m &&& 31 = 0 := by
  have hnri : ∀ b : UINT8, (b &&& 0x60) &&& 31 = 0 := by decide
  induction infos with
  | nil => exact fun m hm => hm
  | cons info infos ih =>
    intro m hm
    rw [List.foldl_cons]
    apply ih
    simp only
    split
    · exact hnri _
    · exact hm

theorem stapHeader_type (infos : List NaluInfo) :
    (STAP_A_INDICATOR ||| maxNri infos) &&& NAL_TYPE_MASK = STAP_A_INDICATOR := by
  have hor : ∀ m : UINT8, m &&& 31 = 0 → (STAP_A_INDICATOR ||| m) &&& NAL_TYPE_MASK =
      STAP_A_INDICATOR := by decide
  exact hor _ (maxNri_type infos 0 rfl)

theorem depayOne_stap (isStart : Bool) {infos : List NaluInfo} (hne : infos ≠ [])
    (hsize : ∀ info ∈ infos, 0 < info.nalu.length ∧ info.nalu.length < 65536) :
    depayOne isStart (stapPayload infos) =
      .ok (restored (startCodeOf isStart) (infos.map NaluInfo.nalu)) := by
  have htype := stapHeader_type infos
  have hcount : infos.length ≤ (stapPayload infos).length := by
    have hsum := List.length_le_sum_of_one_le
      (infos.map fun i => STAP_A_NALU_OVERHEAD + i.nalu.length) (by
        intro x hx
        obtain ⟨i, _, rfl⟩ := List.mem_map.mp hx
        simp only [STAP_A_NALU_OVERHEAD]
        omega)
    rw [List.length_map] at hsum
    rw [length_stapPayload, stapSize]
    omega
  obtain ⟨r, hr⟩ := stapLengths_entries infos (stapPayload infos).length
    [STAP_A_INDICATOR ||| maxNri infos] (startCodeOf isStart).length 0 false hne hcount hsize
  have hcopy := stapCopy_entries infos (stapPayload infos).length
    [STAP_A_INDICATOR ||| maxNri infos] (startCodeOf isStart) hne hcount hsize
  refine depayOne_of_parts (n := r) ?_ ?_
  · simp only [depayLength, htype]
    exact hr
  · simp only [depayData, htype]
    exact hcopy

/-! ## The payloads of a frame -/

/-- The entry of a unit that is well formed. -/
def WellFormedInfo (info : NaluInfo) : Prop :=
  info = infoOf info.nalu ∧ WellFormedNalu info.nalu

theorem restored_append (startCode : Bytes) (nalus more : List Bytes) :
    restored startCode (nalus ++ more) = restored startCode nalus ++
      restored (if nalus = [] then startCode else start3ByteCode) more := by
  induction nalus generalizing startCode with
  | nil => simp [restored]
  | cons nalu nalus ih =>
    rw [List.cons_append, restored, restored, ih]
    by_cases hnil : nalus = [] <;> simp [hnil, List.append_assoc]

theorem depayAll_waitingPayloads {mtu : Nat} (hmtu : 2 < mtu) (hle : mtu ≤ 65535) (isStart : Bool)
    {waiting : List NaluInfo} (hw : Waiting mtu waiting)
    (hinfo : ∀ info ∈ waiting, WellFormedInfo info) :
    depayAll isStart (waitingPayloads mtu waiting) =
      .ok (restored (startCodeOf isStart) (waiting.map NaluInfo.nalu)) := by
  match waiting with
  | [] => rfl
  | [info] =>
    obtain ⟨heq, hwf⟩ := hinfo info (by simp)
    have hone := depayAll_naluPayloads hmtu isStart hwf
    rw [← heq] at hone
    simpa [waitingPayloads, restored] using hone
  | i :: j :: infos =>
    have hstap : stapSize (i :: j :: infos) ≤ mtu := hw.resolve_left (by simp)
    have hsize : ∀ info ∈ i :: j :: infos, 0 < info.nalu.length ∧ info.nalu.length < 65536 := by
      intro info hi
      refine ⟨(hinfo info hi).2.length_pos, ?_⟩
      have hmem : STAP_A_NALU_OVERHEAD + info.nalu.length ≤
          ((i :: j :: infos).map fun i => STAP_A_NALU_OVERHEAD + i.nalu.length).sum :=
        List.single_le_sum (by simp) _ (List.mem_map.mpr ⟨info, hi, rfl⟩)
      rw [stapSize] at hstap
      omega
    have hpayloads : waitingPayloads mtu (i :: j :: infos) = [stapPayload (i :: j :: infos)] := by
      rw [waitingPayloads] <;> simp
    rw [hpayloads, depayAll, depayOne_stap isStart (by simp) hsize]
    simp [depayAll, bind, Except.bind, pure, Except.pure]

theorem naluPayloads_ne_nil {mtu : Nat} (hmtu : 2 < mtu) (info : NaluInfo) :
    naluPayloads mtu info ≠ [] := by
  rw [naluPayloads]
  split
  case isTrue => simp
  case isFalse hlong =>
    obtain ⟨n, hn⟩ : ∃ n, info.nalu.length = n + 1 := ⟨info.nalu.length - 1, by omega⟩
    rw [hn, fragments, if_neg (by rw [List.length_drop]; omega)]
    simp

theorem waitingPayloads_ne_nil {mtu : Nat} (hmtu : 2 < mtu) {waiting : List NaluInfo}
    (h : waiting ≠ []) : waitingPayloads mtu waiting ≠ [] := by
  match waiting with
  | [] => exact absurd rfl h
  | [info] => exact naluPayloads_ne_nil hmtu info
  | i :: j :: infos => rw [waitingPayloads] <;> simp

theorem depayAll_waiting_append {mtu : Nat} (hmtu : 2 < mtu) (hle : mtu ≤ 65535) {isStart : Bool}
    {waiting : List NaluInfo} (hw : Waiting mtu waiting)
    (hinfo : ∀ info ∈ waiting, WellFormedInfo info) {ps : List Bytes} {nalus : List Bytes}
    (hps : ∀ flag, depayAll flag ps = .ok (restored (startCodeOf flag) nalus)) :
    depayAll isStart (waitingPayloads mtu waiting ++ ps) =
      .ok (restored (startCodeOf isStart) (waiting.map NaluInfo.nalu ++ nalus)) := by
  by_cases hnil : waiting = []
  · subst hnil
    exact hps isStart
  · rw [depayAll_append (waitingPayloads_ne_nil hmtu hnil)
      (depayAll_waitingPayloads hmtu hle isStart hw hinfo) (hps false), restored_append]
    simp [hnil, startCodeOf]

/-- **Depacketising.**  The payloads of well-formed units give back the units. -/
theorem depayAll_packets {mtu : Nat} (hmtu : 2 < mtu) (hle : mtu ≤ 65535) :
    ∀ (infos waiting : List NaluInfo) (isStart : Bool), Waiting mtu waiting →
      (∀ info ∈ waiting ++ infos, WellFormedInfo info) →
      depayAll isStart (packets mtu infos waiting) =
        .ok (restored (startCodeOf isStart) ((waiting ++ infos).map NaluInfo.nalu))
  | [], waiting, isStart, hw, hinfo => by
    rw [packets, depayAll_waitingPayloads hmtu hle isStart hw (by simpa using hinfo),
      List.append_nil]
  | info :: infos, waiting, isStart, hw, hinfo => by
    have hwait : ∀ i ∈ waiting, WellFormedInfo i := fun i hi => hinfo i (by simp [hi])
    have hrest : ∀ i ∈ infos, WellFormedInfo i := fun i hi => hinfo i (by simp [hi])
    have hone : WellFormedInfo info := hinfo info (by simp)
    rw [packets]
    split
    case isTrue =>
      have hps : ∀ flag, depayAll flag (naluPayloads mtu info ++ packets mtu infos []) =
          .ok (restored (startCodeOf flag) ((info :: infos).map NaluInfo.nalu)) := by
        intro flag
        have hhead := depayAll_naluPayloads hmtu flag hone.2
        rw [← hone.1] at hhead
        rw [depayAll_append (naluPayloads_ne_nil hmtu info) hhead
          (depayAll_packets hmtu hle infos [] false (Or.inl (Nat.zero_le 1)) hrest)]
        simp [restored, startCodeOf]
      rw [depayAll_waiting_append hmtu hle hw hwait hps, List.map_append]
    case isFalse =>
      split
      case isTrue hfits =>
        rw [stapSize_append] at hfits
        rw [depayAll_packets hmtu hle infos (waiting ++ [info]) isStart (Or.inr hfits)
          (by simpa using hinfo), List.append_assoc]
        rfl
      case isFalse =>
        have hps : ∀ flag, depayAll flag (packets mtu infos [info]) =
            .ok (restored (startCodeOf flag) ((info :: infos).map NaluInfo.nalu)) := fun flag =>
          depayAll_packets hmtu hle infos [info] flag (Or.inl (le_refl 1)) (by
            intro i hi
            exact hinfo i (List.mem_append_right waiting hi))
        rw [depayAll_waiting_append hmtu hle hw hwait hps, List.map_append]

/-! ## Round trips -/

/-- The room that a call without a buffer asks for. -/
def PayloadArray.asked (a : PayloadArray) : Room := ⟨a.payloadLength, a.payloadSubLenSize⟩

theorem payloads_write (r : Room) (ps : List Bytes) :
    ((initialArray (some r)).write r ps).payloads = ps := by
  simp [PayloadArray.payloads, PayloadArray.write, initialArray, cutPayloads_flatten]

/-- A call without a buffer counts these payloads, and one with a buffer writes them if they fit. -/
structure Produces (call : Option Room → Except Failure PayloadArray) (ps : List Bytes) : Prop where
  size : call none = .ok ((initialArray none).grow ps)
  write : ∀ {r : Room} {b : PayloadArray}, r.Bounded →
    (call (some r) = .ok b ↔ r.Fits ps ∧ b = (initialArray (some r)).write r ps)

/-- **Two calls.**  The buffer that the first call asks for holds the payloads unless their total
wraps. -/
theorem Produces.iff {call : Option Room → Except Failure PayloadArray} {ps : List Bytes}
    (h : Produces call ps) (hnum : ps.length ≤ ps.flatten.length) {mtu : Nat}
    (hle : ∀ p ∈ ps, p.length ≤ mtu) {P : List Bytes → Prop} (hP : P ps) :
    (∃ size written : PayloadArray, call none = .ok size ∧ call (some size.asked) = .ok written ∧
      written.payloadBuffer.length = size.payloadLength ∧
      written.payloadSubLength.length = size.payloadSubLenSize ∧
      (∀ p ∈ written.payloads, p.length ≤ mtu) ∧ P written.payloads) ↔
      ps.flatten.length < 2 ^ 32 := by
  have hasked : ((initialArray none).grow ps).asked =
      ⟨wrap32 ps.flatten.length, wrap32 ps.length⟩ := by
    simp [PayloadArray.grow, PayloadArray.asked, initialArray]
  have hbounded : ((initialArray none).grow ps).asked.Bounded := by
    rw [hasked]
    exact ⟨wrap32_lt _, wrap32_lt _⟩
  constructor
  · rintro ⟨size, written, hsize, hwritten, -⟩
    obtain rfl : (initialArray none).grow ps = size := Except.ok.inj (h.size.symm.trans hsize)
    exact lt_of_le_of_lt ((h.write hbounded).mp hwritten).1.1 hbounded.1
  · intro hlt
    rw [wrap32_of_lt hlt, wrap32_of_lt (lt_of_le_of_lt hnum hlt)] at hasked
    have hfits : ((initialArray none).grow ps).asked.Fits ps := by
      rw [hasked]
      exact ⟨le_refl _, le_refl _⟩
    refine ⟨_, _, h.size, (h.write hbounded).mpr ⟨hfits, rfl⟩, ?_, ?_, ?_, ?_⟩
    · exact (congrArg Room.maxPayloadLength hasked).symm
    · refine Eq.trans (List.length_map _) ?_
      exact (congrArg Room.maxPayloadSubLenSize hasked).symm
    · rw [payloads_write]
      exact hle
    · rw [payloads_write]
      exact hP

/-- The frame comes back: the call for the sizes answers what the call with a buffer of these sizes
then writes, every payload is at most `mtu` bytes, and the depayloader gives back the units. -/
def RoundTrips (mtu : Nat) (us : List AnnexBUnit) : Prop :=
  ∃ size written : PayloadArray,
    createPayloadForH264 mtu (annexB us) none = .ok size ∧
    createPayloadForH264 mtu (annexB us) (some size.asked) = .ok written ∧
    written.payloadBuffer.length = size.payloadLength ∧
    written.payloadSubLength.length = size.payloadSubLenSize ∧
    (∀ p ∈ written.payloads, p.length ≤ mtu) ∧
    depayAll true written.payloads =
      .ok (restored start4ByteCode (us.map AnnexBUnit.nalu))

theorem createPayloadForH264_units {mtu : Nat} (hmtu : 2 < mtu) {us : List AnnexBUnit}
    (hcount : us.length ≤ 64) (hwf : ∀ u ∈ us, WellFormedNalu u.nalu)
    (hlen : (annexB us).length < 2 ^ 32) :
    (∀ room, createPayloadForH264 mtu (annexB us) room =
      aggregate mtu (us.map fun u => infoOf u.nalu) [] (stapSize []) (initialArray room)) ∨
      (2 ^ 32 ≤ (annexB us).length + 2 ∧
        ∃ e, createPayloadForH264 mtu (annexB us) none = .error e) := by
  rcases collectNalus_annexB us MAX_NALUS_PER_FRAME hcount hwf hlen with hok | ⟨hwrap, e, he⟩
  · left
    intro room
    simp only [createPayloadForH264, if_pos hmtu, hok]
    rfl
  · right
    refine ⟨hwrap, e, ?_⟩
    simp only [createPayloadForH264, if_pos hmtu, he]

section

variable {mtu : Nat} (hmtu : 2 < mtu) {us : List AnnexBUnit} (hcount : us.length ≤ 64)
  (hwf : ∀ u ∈ us, WellFormedNalu u.nalu) (hlen : (annexB us).length < 2 ^ 32)

include hmtu hwf in
theorem roundTrips_iff_of_units (hle : mtu ≤ 65535)
    (hcalls : ∀ room, createPayloadForH264 mtu (annexB us) room =
      aggregate mtu (us.map fun u => infoOf u.nalu) [] (stapSize []) (initialArray room)) :
    RoundTrips mtu us ↔ frameBytes mtu (us.map fun u => u.nalu.length) < 2 ^ 32 := by
  have hprod : Produces (createPayloadForH264 mtu (annexB us))
      (packets mtu (us.map fun u => infoOf u.nalu) []) := by
    refine ⟨?_, fun {r b} hr => ?_⟩
    · rw [hcalls]
      exact aggregate_size hmtu (by omega) _ [] _ ⟨rfl, by decide, by decide⟩
    · rw [hcalls]
      exact aggregate_write hmtu (by omega) _ [] _ _ _ hr rfl (Or.inl (Nat.zero_le 1))
  have htotal : (packets mtu (us.map fun u => infoOf u.nalu) []).flatten.length =
      frameBytes mtu (us.map fun u => u.nalu.length) := by
    rw [length_packets hmtu, List.map_map]
    rfl
  rw [← htotal]
  refine hprod.iff ?_ (packets_le hmtu _)
    (P := fun ps => depayAll true ps = .ok (restored start4ByteCode (us.map AnnexBUnit.nalu))) ?_
  · apply length_packets_le
    intro info hi
    obtain ⟨u, hu, rfl⟩ := List.mem_map.mp hi
    exact (hwf u hu).length_pos
  · rw [depayAll_packets hmtu hle _ [] true (Or.inl (Nat.zero_le 1))]
    · rw [List.nil_append, List.map_map]
      rfl
    · intro info hi
      obtain ⟨u, hu, rfl⟩ := List.mem_map.mp hi
      exact ⟨rfl, hwf u hu⟩

include hmtu hcount hwf hlen in
theorem roundTrips_of_frameBytes (hle : mtu ≤ 65535)
    (hbytes : frameBytes mtu (us.map fun u => u.nalu.length) < 2 ^ 32) : RoundTrips mtu us := by
  have hshort := length_lt_of_frameBytes hmtu hle hcount hbytes
  have hcalls := (createPayloadForH264_units hmtu hcount hwf hlen).resolve_right
    fun h => absurd h.1 (by omega)
  exact (roundTrips_iff_of_units hmtu hwf hle hcalls).mpr hbytes

include hmtu hcount hwf hlen in
theorem frameBytes_of_roundTrips (hle : mtu ≤ 65535) (h : RoundTrips mtu us) :
    frameBytes mtu (us.map fun u => u.nalu.length) < 2 ^ 32 := by
  rcases createPayloadForH264_units hmtu hcount hwf hlen with hcalls | ⟨_, e, he⟩
  · exact (roundTrips_iff_of_units hmtu hwf hle hcalls).mp h
  · obtain ⟨size, -, hsize, -⟩ := h
    rw [he] at hsize
    cases hsize

end

/-- **H.264 round trip.**  A frame of 1 to 64 well-formed units comes back, for every mtu from 3 to
65535, if and only if its payloads are shorter than `2^32` bytes in total. -/
theorem h264_round_trip_iff (mtu : Nat) (hmtu : 3 ≤ mtu ∧ mtu ≤ 65535) (us : List AnnexBUnit)
    (hcount : 1 ≤ us.length ∧ us.length ≤ 64) (hwf : ∀ u ∈ us, WellFormedNalu u.nalu)
    (hlen : (annexB us).length < 2 ^ 32) :
    RoundTrips mtu us ↔ frameBytes mtu (us.map fun u => u.nalu.length) < 2 ^ 32 :=
  ⟨frameBytes_of_roundTrips hmtu.1 hcount.2 hwf hlen hmtu.2,
    roundTrips_of_frameBytes hmtu.1 hcount.2 hwf hlen hmtu.2⟩

/-- Two parameter sets and a slice. -/
def smallFrame : List AnnexBUnit :=
  [⟨true, [0x67, 0x42]⟩, ⟨false, [0x68, 0xCE]⟩, ⟨false, [0x65, 0x88, 0x84, 0x21, 0xA0, 0x0F]⟩]

theorem wellFormed_of_ne_zero {b : UINT8} {bs : Bytes} (hb : b &&& 0x80 = 0)
    (htype : 1 ≤ (b &&& 0x1F).toNat ∧ (b &&& 0x1F).toNat ≤ 23) (hne : ∀ c ∈ b :: bs, c ≠ 0) :
    WellFormedNalu (b :: bs) where
  header := ⟨b, bs, rfl, hb, htype.1, htype.2⟩
  no_start_code := by
    rintro ⟨s, t, h⟩
    apply hne 0 _ rfl
    rw [← h]
    simp [start3ByteCode]
  last := fun h => hne 0 (List.mem_of_getLast? h) rfl

theorem smallFrame_round_trip : RoundTrips 5 smallFrame :=
  (h264_round_trip_iff 5 (by decide) smallFrame (by decide) (by
    intro u hu
    simp only [smallFrame, List.mem_cons, List.not_mem_nil, or_false] at hu
    rcases hu with rfl | rfl | rfl
    · exact wellFormed_of_ne_zero (by decide) (by decide) (by decide)
    · exact wellFormed_of_ne_zero (by decide) (by decide) (by decide)
    · exact wellFormed_of_ne_zero (by decide) (by decide) (by decide)) (by decide)).mpr (by decide)

/-- One slice of `n + 1` bytes. -/
def longSlice (n : Nat) : List AnnexBUnit := [⟨true, 0x65 :: List.replicate n 0xFF⟩]

theorem wellFormed_longSlice (n : Nat) : ∀ u ∈ longSlice n, WellFormedNalu u.nalu := by
  intro u hu
  rw [longSlice, List.mem_singleton] at hu
  rw [hu]
  apply wellFormed_of_ne_zero (by decide) (by decide)
  intro c hc
  rcases List.mem_cons.mp hc with rfl | hc
  · decide
  · rw [List.eq_of_mem_replicate hc]
    decide

theorem count_longSlice (n : Nat) : (longSlice n).length = 1 := rfl

theorem length_longSlice (n : Nat) : (annexB (longSlice n)).length = n + 5 := by
  simp [longSlice, annexB, startCodeOf, start4ByteCode]

/-- In fragments of one byte a slice takes three times its length. -/
theorem frameBytes_longSlice {n : Nat} (h : 3 ≤ n) :
    frameBytes 3 ((longSlice n).map fun u => u.nalu.length) = 3 * n := by
  have hlens : (longSlice n).map (fun u => u.nalu.length) = [n + 1] := by simp [longSlice]
  have hlong : n + 1 > 3 := by omega
  rw [hlens, frameBytes, packetsBytes, if_pos hlong]
  show 0 + (naluBytes 3 (n + 1) + 0) = 3 * n
  rw [naluBytes, if_neg (by omega)]
  show 0 + (n + 1 - 1 + 2 * ((n + 1 - 1 + 0) / 1) + 0) = 3 * n
  omega

/-- A slice of 1431655767 bytes takes `2^32 + 2` bytes and is lost. -/
theorem long_slice_lost :
    (∀ u ∈ longSlice 1431655766, WellFormedNalu u.nalu) ∧
      (annexB (longSlice 1431655766)).length < 2 ^ 32 ∧ ¬ RoundTrips 3 (longSlice 1431655766) := by
  have hlen : (annexB (longSlice 1431655766)).length < 2 ^ 32 := by
    rw [length_longSlice]
    decide
  refine ⟨wellFormed_longSlice _, hlen, fun h => ?_⟩
  have hcount : (longSlice 1431655766).length ≤ 64 := le_of_eq_of_le (count_longSlice _) (by decide)
  have hbytes := frameBytes_of_roundTrips (by decide) hcount (wellFormed_longSlice _) hlen
    (by decide) h
  rw [frameBytes_longSlice (by decide)] at hbytes
  revert hbytes
  decide

end KvsWebrtc.H264
