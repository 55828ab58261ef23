import KvsWebrtc.Codecs.H264

/-!
# NAL units of an Annex B frame

The search of `getNextNaluLength` jumps over three bytes at a time.  It still ends at the first
start code: a byte that is not zero cannot be followed by one that closes a start code within two
bytes.  The counter of the search is 32 bits wide, so a frame of at least `2^32 - 2` bytes may be
read past its end.

Principal results:

* `naluScan_found`, `naluScan_none` — where the search ends;
* `collectNalus_annexB` — the first pass returns the units of the frame, or leaves the frame.
-/

namespace KvsWebrtc.H264

/-! ## The search -/

/-- A start code is closed by the byte at `i`. -/
def ClosesStartCode (bytes : Bytes) (i : Nat) : Prop :=
  bytes[i]? = some 1 ∧ bytes[i - 1]? = some 0 ∧ bytes[i - 2]? = some 0

theorem wrap32_of_lt {n : Nat} (h : n < 2 ^ 32) : wrap32 n = n := Nat.mod_eq_of_lt h

theorem wrap32_lt (n : Nat) : wrap32 n < 2 ^ 32 := Nat.mod_lt n (by decide)

theorem ClosesStartCode.jump {bytes : Bytes} {p q : Nat} (hq : ClosesStartCode bytes q)
    (hlt : p < q) (hne : bytes[p]? ≠ some 0) : p + 3 ≤ q := by
  obtain ⟨_, h1, h2⟩ := hq
  have hp1 : p ≠ q - 1 := by
    rintro rfl
    exact hne h1
  have hp2 : p ≠ q - 2 := by
    rintro rfl
    exact hne h2
  omega

theorem naluScan_found {bytes : Bytes} {start q : Nat} (hlen : bytes.length < 2 ^ 32)
    (hq : ClosesStartCode bytes q)
    (hfirst : ∀ p, start ≤ p → p < q → ¬ ClosesStartCode bytes p) :
    ∀ n p : Nat, start ≤ p → p ≤ q → q < n + p →
      naluScan bytes n p p = .ok (q, if bytes[q - 3]? = some 0 then 3 else 2)
  | 0, p, _, hle, hn => by omega
  | n + 1, p, hstart, hle, hn => by
    have hqlen : q < bytes.length := (List.getElem?_eq_some_iff.mp hq.1).1
    have hp : p < bytes.length := by omega
    rw [naluScan, if_pos hp, List.getElem?_eq_getElem hp]
    rcases Nat.lt_or_ge p q with hlt | hge
    · by_cases hzero : bytes[p] = 0
      · simp only [hzero, if_true]
        rw [wrap32_of_lt (by omega)]
        exact naluScan_found hlen hq hfirst n (p + 1) (by omega) (by omega) (by omega)
      · have hne : bytes[p]? ≠ some 0 := by
          rw [List.getElem?_eq_getElem hp]
          simpa using hzero
        have hjump := hq.jump hlt hne
        have hno : ¬ (bytes[p] = 1 ∧ bytes[p - 1]? = some 0 ∧ bytes[p - 2]? = some 0) := by
          intro h
          apply hfirst p hstart hlt
          exact ⟨by rw [List.getElem?_eq_getElem hp, h.1], h.2⟩
        simp only [hzero, hno, if_false]
        rw [wrap32_of_lt (by omega)]
        exact naluScan_found hlen hq hfirst n (p + 3) (by omega) hjump (by omega)
    · obtain rfl : p = q := by omega
      obtain ⟨h0, h1, h2⟩ := hq
      rw [List.getElem?_eq_getElem hp, Option.some.injEq] at h0
      simp [h0, h1, h2]

theorem naluScan_past {bytes : Bytes} (n : Nat) {p offset : Nat} (hp : bytes.length ≤ p)
    (ho : offset < bytes.length) : naluScan bytes n p offset = .error .outOfBounds := by
  cases n with
  | zero => simp [naluScan, ho]
  | succ n => simp [naluScan, ho, List.getElem?_eq_none hp]

/-- Without a start code the search ends behind the last byte, or its counter wraps. -/
theorem naluScan_none {bytes : Bytes} {start : Nat} (hlen : bytes.length < 2 ^ 32)
    (hnone : ∀ p, start ≤ p → ¬ ClosesStartCode bytes p) :
    ∀ n p : Nat, start ≤ p → bytes.length ≤ n + p → p < 2 ^ 32 →
      (∃ stop, bytes.length ≤ stop ∧ naluScan bytes n p p = .ok (stop, 0)) ∨
        (2 ^ 32 ≤ bytes.length + 2 ∧ naluScan bytes n p p = .error .outOfBounds)
  | 0, p, _, hn, _ => by
    left
    exact ⟨p, by omega, by rw [naluScan, if_neg (by omega)]⟩
  | n + 1, p, hstart, hn, hwrap => by
    by_cases hp : p < bytes.length
    · rw [naluScan, if_pos hp, List.getElem?_eq_getElem hp]
      by_cases hzero : bytes[p] = 0
      · simp only [hzero, if_true]
        rw [wrap32_of_lt (by omega)]
        exact naluScan_none hlen hnone n (p + 1) (by omega) (by omega) (by omega)
      · have hno : ¬ (bytes[p] = 1 ∧ bytes[p - 1]? = some 0 ∧ bytes[p - 2]? = some 0) := by
          intro h
          apply hnone p hstart
          exact ⟨by rw [List.getElem?_eq_getElem hp, h.1], h.2⟩
        simp only [hzero, hno, if_false]
        by_cases hfit : p + 3 < 2 ^ 32
        · rw [wrap32_of_lt hfit]
          exact naluScan_none hlen hnone n (p + 3) (by omega) (by omega) hfit
        · right
          refine ⟨by omega, naluScan_past n (by omega) ?_⟩
          simp only [wrap32]
          omega
    · left
      exact ⟨p, by omega, by rw [naluScan, if_neg hp]⟩

/-! ## Frames -/

def startCodeOf (long : Bool) : Bytes := if long then start4ByteCode else start3ByteCode

/-- A NAL unit and the start code before it. -/
structure AnnexBUnit where
  long : Bool
  nalu : Bytes
  deriving DecidableEq, Repr

def annexB (us : List AnnexBUnit) : Bytes := us.flatMap fun u => startCodeOf u.long ++ u.nalu

/-- What the search needs of a unit: it is not empty, no start code is inside and the last byte is
not zero. -/
structure DelimitedNalu (nalu : Bytes) : Prop where
  length_pos : 0 < nalu.length
  no_start_code : ¬ start3ByteCode <:+: nalu
  last : nalu.getLast? ≠ some 0

/-- Non-empty, forbidden bit 0, a type from 1 to 23, no start code inside, last byte not zero. -/
structure WellFormedNalu (nalu : Bytes) : Prop where
  header : ∃ b rest, nalu = b :: rest ∧ b &&& 0x80 = 0 ∧ 1 ≤ (b &&& 0x1F).toNat ∧
    (b &&& 0x1F).toNat ≤ 23
  no_start_code : ¬ start3ByteCode <:+: nalu
  last : nalu.getLast? ≠ some 0

theorem WellFormedNalu.length_pos {nalu : Bytes} (h : WellFormedNalu nalu) : 0 < nalu.length := by
  obtain ⟨b, rest, rfl, _⟩ := h.header
  simp

theorem WellFormedNalu.delimited {nalu : Bytes} (h : WellFormedNalu nalu) : DelimitedNalu nalu :=
  ⟨h.length_pos, h.no_start_code, h.last⟩

theorem getElem?_nalu (start nalu tail : Bytes) {i : Nat} (h : i < nalu.length) :
    (start ++ (nalu ++ tail))[start.length + i]? = nalu[i]? := by
  rw [List.getElem?_append_right (by omega), Nat.add_sub_cancel_left,
    List.getElem?_append_left h]

theorem getElem?_tail (start nalu tail : Bytes) (i : Nat) :
    (start ++ (nalu ++ tail))[start.length + nalu.length + i]? = tail[i]? := by
  rw [List.getElem?_append_right (by omega), List.getElem?_append_right (by omega)]
  congr 1
  omega

theorem infix_of_getElem? {nalu : Bytes} {i : Nat} (h0 : nalu[i]? = some 0)
    (h1 : nalu[i + 1]? = some 0) (h2 : nalu[i + 2]? = some 1) : start3ByteCode <:+: nalu := by
  obtain ⟨hi0, e0⟩ := List.getElem?_eq_some_iff.mp h0
  obtain ⟨hi1, e1⟩ := List.getElem?_eq_some_iff.mp h1
  obtain ⟨hi2, e2⟩ := List.getElem?_eq_some_iff.mp h2
  refine ⟨nalu.take i, nalu.drop (i + 3), ?_⟩
  rw [List.append_assoc]
  conv_rhs => rw [← List.take_append_drop i nalu]
  rw [List.drop_eq_getElem_cons hi0, List.drop_eq_getElem_cons hi1,
    List.drop_eq_getElem_cons hi2, e0, e1, e2]
  rfl

theorem startCodeOf_closing (long : Bool) :
    (startCodeOf long)[(startCodeOf long).length - 1]? = some 1 := by
  cases long <;> rfl

theorem not_closes_inside {nalu : Bytes} (h : DelimitedNalu nalu) (long : Bool) (tail : Bytes)
    {p : Nat} (hlo : (startCodeOf long).length ≤ p)
    (hhi : p < (startCodeOf long).length + nalu.length) :
    ¬ ClosesStartCode (startCodeOf long ++ (nalu ++ tail)) p := by
  rintro ⟨h0, h1, h2⟩
  have hone := startCodeOf_closing long
  have hpos : 3 ≤ (startCodeOf long).length := by cases long <;> decide
  have hclose : (startCodeOf long ++ (nalu ++ tail))[(startCodeOf long).length - 1]? = some 1 := by
    rw [List.getElem?_append_left (by omega), hone]
  have hne1 : p - 1 ≠ (startCodeOf long).length - 1 := by
    intro h
    rw [h, hclose] at h1
    cases h1
  have hne2 : p - 2 ≠ (startCodeOf long).length - 1 := by
    intro h
    rw [h, hclose] at h2
    cases h2
  obtain ⟨i, rfl⟩ : ∃ i, p = (startCodeOf long).length + (i + 2) :=
    ⟨p - 2 - (startCodeOf long).length, by omega⟩
  rw [getElem?_nalu _ _ _ (by omega)] at h0
  rw [show (startCodeOf long).length + (i + 2) - 1 = (startCodeOf long).length + (i + 1) by omega,
    getElem?_nalu _ _ _ (by omega)] at h1
  rw [show (startCodeOf long).length + (i + 2) - 2 = (startCodeOf long).length + i by omega,
    getElem?_nalu _ _ _ (by omega)] at h2
  exact h.no_start_code (infix_of_getElem? h2 h1 h0)

theorem leadingZeros_startCode (long : Bool) (rest : Bytes) :
    leadingZeros (startCodeOf long ++ rest) = (startCodeOf long).length - 1 := by
  cases long <;> simp [leadingZeros, startCodeOf, start4ByteCode, start3ByteCode]

theorem getNextNaluLength_startCode (long : Bool) (rest : Bytes) :
    getNextNaluLength (startCodeOf long ++ rest) =
      match naluScan (startCodeOf long ++ rest) (startCodeOf long ++ rest).length
        (startCodeOf long).length (startCodeOf long).length with
      | .error e => .error e
      | .ok (stop, zeroCount) => .ok ((startCodeOf long).length,
          min stop (startCodeOf long ++ rest).length - (startCodeOf long).length - zeroCount) := by
  have hlen : (startCodeOf long).length - 1 + 1 = (startCodeOf long).length := by
    cases long <;> rfl
  have hclose : (startCodeOf long ++ rest)[(startCodeOf long).length - 1]? = some 1 := by
    rw [List.getElem?_append_left (by omega), startCodeOf_closing]
  have hrange : 3 ≤ (startCodeOf long).length ∧ (startCodeOf long).length ≤ 4 := by
    cases long <;> decide
  have hcond : (startCodeOf long).length - 1 < (startCodeOf long ++ rest).length ∧
      (startCodeOf long).length - 1 < 4 ∧ 2 ≤ (startCodeOf long).length - 1 ∧
      (startCodeOf long ++ rest)[(startCodeOf long).length - 1]? = some 1 := by
    refine ⟨?_, by omega, by omega, hclose⟩
    rw [List.length_append]
    omega
  unfold getNextNaluLength
  cases hscan : naluScan (startCodeOf long ++ rest) (startCodeOf long ++ rest).length
    (startCodeOf long).length (startCodeOf long).length with
  | error e => simp only [leadingZeros_startCode, if_pos hcond, hlen, hscan]
  | ok p => simp only [leadingZeros_startCode, if_pos hcond, hlen, hscan]

theorem getLast_ne_zero {nalu : Bytes} (h : DelimitedNalu nalu) :
    nalu[nalu.length - 1]? ≠ some 0 := by
  rw [← List.getLast?_eq_getElem?]
  exact h.last

theorem closes_next {nalu : Bytes} (h : DelimitedNalu nalu) (start : Bytes) (next : Bool)
    (rest : Bytes) :
    ClosesStartCode (start ++ (nalu ++ (startCodeOf next ++ rest)))
      (start.length + nalu.length + ((startCodeOf next).length - 1)) ∧
    ((start ++ (nalu ++ (startCodeOf next ++ rest)))[start.length + nalu.length +
      ((startCodeOf next).length - 1) - 3]? = some 0 ↔ next = true) := by
  have hpos := h.length_pos
  cases next
  · refine ⟨⟨?_, ?_, ?_⟩, ?_⟩
    · rw [getElem?_tail]
      rfl
    · exact getElem?_tail start nalu _ 1
    · exact getElem?_tail start nalu _ 0
    · have hidx : start.length + nalu.length + ((startCodeOf false).length - 1) - 3 =
          start.length + (nalu.length - 1) := by
        simp [startCodeOf, start3ByteCode]
        omega
      rw [hidx, getElem?_nalu _ _ _ (by omega)]
      simpa using getLast_ne_zero h
  · refine ⟨⟨?_, ?_, ?_⟩, ?_⟩
    · rw [getElem?_tail]
      rfl
    · exact getElem?_tail start nalu _ 2
    · exact getElem?_tail start nalu _ 1
    · exact iff_of_true (getElem?_tail start nalu (startCodeOf true ++ rest) 0) rfl

theorem startCodeOf_zeros (next : Bool) :
    ∀ i < (startCodeOf next).length - 1, (startCodeOf next)[i]? = some 0 := by
  cases next <;> decide

theorem not_closes_between {nalu : Bytes} (h : DelimitedNalu nalu) (long next : Bool)
    (rest : Bytes) {p : Nat} (hlo : (startCodeOf long).length ≤ p)
    (hhi : p < (startCodeOf long).length + nalu.length + ((startCodeOf next).length - 1)) :
    ¬ ClosesStartCode (startCodeOf long ++ (nalu ++ (startCodeOf next ++ rest))) p := by
  by_cases hin : p < (startCodeOf long).length + nalu.length
  · exact not_closes_inside h long _ hlo hin
  · -- the bytes of the start code before its last one are zero
    rintro ⟨h0, _⟩
    obtain ⟨i, rfl⟩ : ∃ i, p = (startCodeOf long).length + nalu.length + i :=
      ⟨p - (startCodeOf long).length - nalu.length, by omega⟩
    rw [getElem?_tail, List.getElem?_append_left (by omega)] at h0
    rw [startCodeOf_zeros next i (by omega)] at h0
    cases h0

theorem getNextNaluLength_next {nalu : Bytes} (h : DelimitedNalu nalu) (long next : Bool)
    (rest : Bytes)
    (hlen : (startCodeOf long ++ (nalu ++ (startCodeOf next ++ rest))).length < 2 ^ 32) :
    getNextNaluLength (startCodeOf long ++ (nalu ++ (startCodeOf next ++ rest))) =
      .ok ((startCodeOf long).length, nalu.length) := by
  obtain ⟨hclose, hzero⟩ := closes_next h (startCodeOf long) next rest
  have hlt := (List.getElem?_eq_some_iff.mp hclose.1).1
  rw [getNextNaluLength_startCode, naluScan_found hlen hclose
    (fun p hlo hhi => not_closes_between h long next rest hlo hhi) _ _ (le_refl _) (by omega)
    (by omega)]
  simp only [hzero, Nat.min_eq_left (Nat.le_of_lt hlt)]
  cases next <;> simp [startCodeOf, start3ByteCode, start4ByteCode] <;> omega

theorem getNextNaluLength_last {nalu : Bytes} (h : DelimitedNalu nalu) (long : Bool)
    (hlen : (startCodeOf long ++ nalu).length < 2 ^ 32) :
    getNextNaluLength (startCodeOf long ++ nalu) = .ok ((startCodeOf long).length, nalu.length) ∨
      (2 ^ 32 ≤ (startCodeOf long ++ nalu).length + 2 ∧
        getNextNaluLength (startCodeOf long ++ nalu) = .error .outOfBounds) := by
  have hnone : ∀ p, (startCodeOf long).length ≤ p →
      ¬ ClosesStartCode (startCodeOf long ++ nalu) p := by
    intro p hlo hclose
    have hlt := (List.getElem?_eq_some_iff.mp hclose.1).1
    rw [List.length_append] at hlt
    have hin := not_closes_inside h long [] hlo hlt
    rw [List.append_nil] at hin
    exact hin hclose
  have hstart : (startCodeOf long).length < 2 ^ 32 := by cases long <;> decide
  rw [getNextNaluLength_startCode]
  rcases naluScan_none hlen hnone (startCodeOf long ++ nalu).length (startCodeOf long).length
    (le_refl _) (by omega) hstart with ⟨stop, hstop, hscan⟩ | ⟨hwrap, hscan⟩
  · left
    rw [hscan]
    simp only [Nat.min_eq_right hstop]
    simp
  · right
    exact ⟨hwrap, by rw [hscan]⟩

/-! ## The first pass -/

def infoOf (nalu : Bytes) : NaluInfo := ⟨nalu.headD 0, nalu⟩

theorem annexB_cons (u : AnnexBUnit) (us : List AnnexBUnit) :
    annexB (u :: us) = startCodeOf u.long ++ (u.nalu ++ annexB us) := by
  simp [annexB]

theorem collectNalus_unit {nalu : Bytes} (h : WellFormedNalu nalu) (n : Nat) (long : Bool)
    (rest : Bytes) (hnext : getNextNaluLength (startCodeOf long ++ (nalu ++ rest)) =
      .ok ((startCodeOf long).length, nalu.length)) :
    collectNalus (n + 1) (startCodeOf long ++ (nalu ++ rest)) =
      match collectNalus n rest with
      | .error e => .error e
      | .ok (infos, left) => .ok (infoOf nalu :: infos, left) := by
  obtain ⟨b, bs, rfl, _⟩ := h.header
  have hpos : (startCodeOf long ++ (b :: bs ++ rest)).length ≠ 0 := by simp
  rw [collectNalus, if_neg hpos, hnext]
  simp only [List.drop_left, List.cons_append, List.length_cons, List.drop_succ_cons,
    List.take_succ_cons, List.take_left]
  cases collectNalus n rest <;> rfl

/-- **The first pass.**  It returns the units of the frame, or the frame is so long that the search
leaves it. -/
theorem collectNalus_annexB : ∀ (us : List AnnexBUnit) (n : Nat), us.length ≤ n →
    (∀ u ∈ us, WellFormedNalu u.nalu) → (annexB us).length < 2 ^ 32 →
    collectNalus n (annexB us) = .ok (us.map fun u => infoOf u.nalu, []) ∨
      (2 ^ 32 ≤ (annexB us).length + 2 ∧ ∃ e, collectNalus n (annexB us) = .error e)
  | [], n, _, _, _ => by
    left
    cases n <;> simp [collectNalus, annexB]
  | u :: us, 0, hn, _, _ => by simp at hn
  | [u], n + 1, _, hwf, hlen => by
    have hu := hwf u (by simp)
    have hsingle : annexB [u] = startCodeOf u.long ++ (u.nalu ++ []) := by simp [annexB]
    rw [hsingle] at hlen ⊢
    rcases getNextNaluLength_last hu.delimited u.long (by simpa using hlen) with hnext | ⟨hwrap, hnext⟩
    · left
      rw [collectNalus_unit hu n u.long [] (by simpa using hnext)]
      cases n <;> simp [collectNalus]
    · right
      refine ⟨by simpa using hwrap, .outOfBounds, ?_⟩
      have hpos : (startCodeOf u.long ++ u.nalu).length ≠ 0 := by
        have := hu.length_pos
        rw [List.length_append]
        omega
      rw [List.append_nil, collectNalus, if_neg hpos, hnext]
  | u :: v :: us, n + 1, hn, hwf, hlen => by
    have hu := hwf u (by simp)
    have hnext : getNextNaluLength (annexB (u :: v :: us)) =
        .ok ((startCodeOf u.long).length, u.nalu.length) := by
      rw [annexB_cons, annexB_cons] at hlen ⊢
      exact getNextNaluLength_next hu.delimited u.long v.long _ hlen
    have hrest : (annexB (v :: us)).length ≤ (annexB (u :: v :: us)).length := by
      rw [annexB_cons u, List.length_append, List.length_append]
      omega
    have hround : collectNalus (n + 1) (annexB (u :: v :: us)) =
        match collectNalus n (annexB (v :: us)) with
        | .error e => .error e
        | .ok (infos, left) => .ok (infoOf u.nalu :: infos, left) := by
      rw [annexB_cons u] at hnext ⊢
      exact collectNalus_unit hu n u.long _ hnext
    rcases collectNalus_annexB (v :: us) n (by simpa using hn)
      (fun w hw => hwf w (List.mem_cons_of_mem u hw)) (by omega) with hok | ⟨hwrap, e, he⟩
    · left
      rw [hround, hok]
      rfl
    · right
      exact ⟨by omega, e, by rw [hround, he]⟩

end KvsWebrtc.H264
