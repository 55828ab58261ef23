import KvsWebrtc.Codecs.H265
import Mathlib.Data.List.Infix

/-!
# The search for NAL units against the plain scan

`getNextNaluLength` looks at one byte in three.  A scan that tries every position for `00 00 01`
gives the same unit, whatever the alignment of the start codes, for empty units and for units with
trailing zeros; the search leaves a frame only where its 32-bit counter wraps.

Principal results:

* `getNextNaluLength_plain` — the first unit is the one of the plain scan;
* `collectNalus_plain`, `payloadLoop_plain` — the loops of the payloaders visit its units in order;
* `splitting_eq_plain_scan` — both, for the two payloaders.
-/

namespace KvsWebrtc.H264

/-! ## The plain scan -/

/-- The first position where `00 00 01` begins. -/
def nextStartCode (tail : Bytes) : Option Nat :=
  tail.tails.findIdx? fun s => start3ByteCode.isPrefixOf s

/-- The length of the unit that `tail` begins with.  A zero byte right before the next start code
belongs to the start code. -/
def plainLength (tail : Bytes) : Nat :=
  match nextStartCode tail with
  | none => tail.length
  | some i => if 0 < i ∧ tail[i - 1]? = some 0 then i - 1 else i

theorem nextStartCode_eq_some {tail : Bytes} {i : Nat} :
    nextStartCode tail = some i ↔
      start3ByteCode <+: tail.drop i ∧ ∀ j < i, ¬ start3ByteCode <+: tail.drop j := by
  rw [nextStartCode, List.findIdx?_eq_some_iff_getElem]
  simp only [List.getElem_tails, List.isPrefixOf_iff_prefix]
  constructor
  · rintro ⟨_, hat, hbefore⟩
    exact ⟨hat, hbefore⟩
  · rintro ⟨hat, hbefore⟩
    refine ⟨?_, hat, hbefore⟩
    have hlen := hat.length_le
    simp only [List.length_drop, start3ByteCode, List.length_cons, List.length_nil] at hlen
    rw [List.length_tails]
    omega

theorem nextStartCode_eq_none {tail : Bytes} :
    nextStartCode tail = none ↔ ∀ j, ¬ start3ByteCode <+: tail.drop j := by
  constructor
  · intro h j hj
    rw [nextStartCode, List.findIdx?_eq_none_iff] at h
    have hmem : tail.drop j ∈ tail.tails := (List.mem_tails _ _).mpr (List.drop_suffix j tail)
    have hno := h _ hmem
    rw [List.isPrefixOf_iff_prefix.mpr hj] at hno
    cases hno
  · intro h
    cases hn : nextStartCode tail with
    | none => rfl
    | some i => exact absurd (nextStartCode_eq_some.mp hn).1 (h i)

theorem startCode_prefix_iff {tail : Bytes} {i : Nat} :
    start3ByteCode <+: tail.drop i ↔
      tail[i]? = some 0 ∧ tail[i + 1]? = some 0 ∧ tail[i + 2]? = some 1 := by
  rw [List.prefix_iff_getElem?]
  simp only [start3ByteCode, List.length_cons, List.length_nil, List.getElem?_drop]
  constructor
  · intro h
    exact ⟨h 0 (by decide), h 1 (by decide), h 2 (by decide)⟩
  · rintro ⟨h0, h1, h2⟩ j hj
    rcases j with _ | _ | _ | j
    · exact h0
    · exact h1
    · exact h2
    · omega

theorem nextStartCode_length {tail : Bytes} {i : Nat} (h : nextStartCode tail = some i) :
    i + 3 ≤ tail.length := by
  have h2 := (startCode_prefix_iff.mp (nextStartCode_eq_some.mp h).1).2.2
  have hlt := (List.getElem?_eq_some_iff.mp h2).1
  omega

/-- The units of the plain scan, the last one possibly empty. -/
def plainUnits (tail : Bytes) : List Bytes :=
  match h : nextStartCode tail with
  | none => [tail]
  | some i => tail.take (plainLength tail) :: plainUnits (tail.drop (i + 3))
termination_by tail.length
decreasing_by
  have := nextStartCode_length h
  rw [List.length_drop]
  omega

/-- A start code with nothing behind it starts no unit. -/
def dropEmptyLast : List Bytes → List Bytes
  | [] => []
  | [u] => if u = [] then [] else [u]
  | u :: v :: us => u :: dropEmptyLast (v :: us)

theorem plainUnits_none {tail : Bytes} (h : nextStartCode tail = none) :
    plainUnits tail = [tail] := by
  rw [plainUnits]
  split
  · rfl
  · rename_i i hi
    rw [h] at hi
    cases hi

theorem plainUnits_some {tail : Bytes} {i : Nat} (h : nextStartCode tail = some i) :
    plainUnits tail = tail.take (plainLength tail) :: plainUnits (tail.drop (i + 3)) := by
  rw [plainUnits]
  split
  · rename_i hn
    rw [h] at hn
    cases hn
  · rename_i j hj
    rw [h, Option.some.injEq] at hj
    rw [hj]

theorem plainUnits_ne_nil (tail : Bytes) : plainUnits tail ≠ [] := by
  cases h : nextStartCode tail with
  | none => simp [plainUnits_none h]
  | some i => simp [plainUnits_some h]

theorem dropEmptyLast_cons (u : Bytes) {us : List Bytes} (h : us ≠ []) :
    dropEmptyLast (u :: us) = u :: dropEmptyLast us := by
  obtain ⟨v, vs, rfl⟩ := List.exists_cons_of_ne_nil h
  rfl

/-! ## One unit -/

theorem closes_iff (long : Bool) (tail : Bytes) {p : Nat}
    (hp : (startCodeOf long).length ≤ p) :
    ClosesStartCode (startCodeOf long ++ tail) p ↔
      ∃ i, p = (startCodeOf long).length + (i + 2) ∧ start3ByteCode <+: tail.drop i := by
  have hone := startCodeOf_closing long
  have hpos : 3 ≤ (startCodeOf long).length := by cases long <;> decide
  have hclose : (startCodeOf long ++ tail)[(startCodeOf long).length - 1]? = some 1 := by
    rw [List.getElem?_append_left (by omega), hone]
  have hget : ∀ i, (startCodeOf long ++ tail)[(startCodeOf long).length + i]? = tail[i]? := by
    intro i
    rw [List.getElem?_append_right (by omega), Nat.add_sub_cancel_left]
  constructor
  · rintro ⟨h0, h1, h2⟩
    -- the byte before the tail is the 1 of the first start code
    have hne1 : p - 1 ≠ (startCodeOf long).length - 1 := by
      intro h
      rw [h, hclose] at h1
      cases h1
    have hne2 : p - 2 ≠ (startCodeOf long).length - 1 := by
      intro h
      rw [h, hclose] at h2
      cases h2
    obtain ⟨i, rfl⟩ : ∃ i, p = (startCodeOf long).length + (i + 2) :=
      ⟨p - 2 - (startCodeOf long).length, by omega⟩
    refine ⟨i, rfl, startCode_prefix_iff.mpr ⟨?_, ?_, ?_⟩⟩
    · rw [← h2, ← hget]
      congr 1
    · rw [← h1, ← hget]
      congr 1
    · rw [← h0, hget]
  · rintro ⟨i, rfl, hpre⟩
    obtain ⟨h0, h1, h2⟩ := startCode_prefix_iff.mp hpre
    refine ⟨?_, ?_, ?_⟩
    · rw [hget, h2]
    · rw [← h1, ← hget]
      congr 1
    · rw [← h0, ← hget]
      congr 1

/-- **The first unit.**  The search, which skips bytes, finds what the plain scan finds. -/
theorem getNextNaluLength_plain (long : Bool) (tail : Bytes)
    (hlen : (startCodeOf long ++ tail).length + 2 < 2 ^ 32) :
    getNextNaluLength (startCodeOf long ++ tail) =
      .ok ((startCodeOf long).length, plainLength tail) := by
  have hpos : 3 ≤ (startCodeOf long).length := by cases long <;> decide
  have happ : (startCodeOf long ++ tail).length = (startCodeOf long).length + tail.length :=
    List.length_append
  rw [getNextNaluLength_startCode]
  cases hn : nextStartCode tail with
  | none =>
    have hnone : ∀ p, (startCodeOf long).length ≤ p →
        ¬ ClosesStartCode (startCodeOf long ++ tail) p := by
      intro p hp hc
      obtain ⟨i, _, hpre⟩ := (closes_iff long tail hp).mp hc
      exact nextStartCode_eq_none.mp hn i hpre
    rcases naluScan_none (by omega) hnone (startCodeOf long ++ tail).length
      (startCodeOf long).length (le_refl _) (by omega) (by omega) with ⟨stop, hstop, hscan⟩ | hwrap
    · rw [hscan]
      simp only [Nat.min_eq_right hstop, plainLength, hn]
      rw [happ, Nat.add_sub_cancel_left, Nat.sub_zero]
    · omega
  | some i =>
    obtain ⟨hat, hbefore⟩ := nextStartCode_eq_some.mp hn
    have hi := nextStartCode_length hn
    have hfirst : ∀ p, (startCodeOf long).length ≤ p → p < (startCodeOf long).length + (i + 2) →
        ¬ ClosesStartCode (startCodeOf long ++ tail) p := by
      intro p hp hlt hc
      obtain ⟨j, rfl, hpre⟩ := (closes_iff long tail hp).mp hc
      exact hbefore j (by omega) hpre
    have hclose := (closes_iff long tail (by omega)).mpr ⟨i, rfl, hat⟩
    rw [naluScan_found (by omega) hclose hfirst _ _ (le_refl _) (by omega) (by omega)]
    have hstop : (startCodeOf long).length + (i + 2) ≤ (startCodeOf long ++ tail).length := by omega
    simp only [Nat.min_eq_left hstop, plainLength, hn]
    -- the byte before the start code, which is the 1 of the first one if the unit is empty
    cases i with
    | zero =>
      have hone : (startCodeOf long ++ tail)[(startCodeOf long).length + (0 + 2) - 3]? =
          some 1 := by
        rw [List.getElem?_append_left (by omega), ← startCodeOf_closing long]
        congr 1
      have hne : ¬ (startCodeOf long ++ tail)[(startCodeOf long).length + (0 + 2) - 3]? =
          some 0 := by
        rw [hone]
        decide
      simp only [if_neg hne, Nat.lt_irrefl, false_and, if_false]
      rw [Nat.add_sub_cancel_left]
    | succ i =>
      have hbyte : (startCodeOf long ++ tail)[(startCodeOf long).length + (i + 1 + 2) - 3]? =
          tail[i]? := by
        rw [List.getElem?_append_right (by omega)]
        congr 1
        omega
      simp only [hbyte, Nat.zero_lt_succ, true_and, Nat.add_sub_cancel]
      split <;> simp only [Except.ok.injEq, Prod.mk.injEq, true_and] <;> omega

theorem drop_plainLength {tail : Bytes} {i : Nat} (h : nextStartCode tail = some i) :
    ∃ next, tail.drop (plainLength tail) = startCodeOf next ++ tail.drop (i + 3) := by
  have hi := nextStartCode_length h
  have hat : tail.drop i = start3ByteCode ++ tail.drop (i + 3) := by
    have hpre := List.prefix_iff_eq_append.mp (nextStartCode_eq_some.mp h).1
    rw [List.drop_drop] at hpre
    exact hpre.symm
  by_cases hz : 0 < i ∧ tail[i - 1]? = some 0
  · refine ⟨true, ?_⟩
    obtain ⟨hlt, hbyte⟩ := List.getElem?_eq_some_iff.mp hz.2
    simp only [plainLength, h, if_pos hz]
    rw [List.drop_eq_getElem_cons hlt, hbyte, Nat.sub_add_cancel hz.1, hat]
    rfl
  · refine ⟨false, ?_⟩
    simp only [plainLength, h, if_neg hz]
    exact hat

/-- The byte at an empty unit is the zero that the next start code begins with. -/
theorem infoOf_take {tail : Bytes} {b : UINT8} {rest : Bytes} (h : tail = b :: rest) :
    (⟨b, tail.take (plainLength tail)⟩ : NaluInfo) = infoOf (tail.take (plainLength tail)) := by
  cases hn : plainLength tail with
  | succ n => simp [infoOf, h]
  | zero =>
    cases hs : nextStartCode tail with
    | none =>
      simp only [plainLength, hs] at hn
      rw [List.eq_nil_of_length_eq_zero hn] at h
      cases h
    | some i =>
      obtain ⟨next, hnext⟩ := drop_plainLength hs
      rw [hn, List.drop_zero, h] at hnext
      have hb : b = 0 := by
        cases next <;> exact (List.cons.inj hnext).1
      simp [infoOf, hb]

/-! ## The loops over a frame -/

/-- The units of the plain scan that a payloader visits. -/
def plainInfos (tail : Bytes) : List NaluInfo := (dropEmptyLast (plainUnits tail)).map infoOf

theorem plainInfos_some {tail : Bytes} {i : Nat} (h : nextStartCode tail = some i) :
    plainInfos tail = infoOf (tail.take (plainLength tail)) :: plainInfos (tail.drop (i + 3)) := by
  rw [plainInfos, plainUnits_some h, dropEmptyLast_cons _ (plainUnits_ne_nil _)]
  rfl

theorem plainInfos_none {tail : Bytes} (h : nextStartCode tail = none) :
    plainInfos tail = if tail = [] then [] else [infoOf tail] := by
  rw [plainInfos, plainUnits_none h, dropEmptyLast]
  split <;> rfl

theorem collectNalus_nil (n : Nat) : collectNalus n [] = .ok ([], []) := by
  cases n <;> rfl

theorem collectNalus_round (n : Nat) (long : Bool) {tail : Bytes} (hne : tail ≠ [])
    (hlen : (startCodeOf long ++ tail).length + 2 < 2 ^ 32) :
    collectNalus (n + 1) (startCodeOf long ++ tail) =
      match collectNalus n (tail.drop (plainLength tail)) with
      | .error e => .error e
      | .ok (infos, left) => .ok (infoOf (tail.take (plainLength tail)) :: infos, left) := by
  obtain ⟨b, rest, h⟩ := List.exists_cons_of_ne_nil hne
  have hpos : (startCodeOf long ++ tail).length ≠ 0 := by
    rw [h]
    simp
  rw [collectNalus, if_neg hpos, getNextNaluLength_plain long tail hlen]
  simp only [List.drop_left, ← infoOf_take h]
  subst h
  rfl

/-- **The first pass.**  It returns the units of the plain scan, or it has no room for them and
something of the frame is left. -/
theorem collectNalus_plain : ∀ (n : Nat) (long : Bool) (tail : Bytes),
    (startCodeOf long ++ tail).length + 2 < 2 ^ 32 →
    ((plainUnits tail).length ≤ n →
      collectNalus n (startCodeOf long ++ tail) = .ok (plainInfos tail, [])) ∧
    (n < (plainUnits tail).length →
      ∃ infos left, collectNalus n (startCodeOf long ++ tail) = .ok (infos, left) ∧
        0 < left.length)
  | 0, long, tail, _ => by
    have hpos := List.length_pos_iff.mpr (plainUnits_ne_nil tail)
    refine ⟨fun h => by omega, fun _ => ⟨[], startCodeOf long ++ tail, rfl, ?_⟩⟩
    cases long <;> simp [startCodeOf, start4ByteCode, start3ByteCode]
  | n + 1, long, tail, hlen => by
    cases h : nextStartCode tail with
    | none =>
      rw [plainUnits_none h, plainInfos_none h]
      refine ⟨fun _ => ?_, fun hn => by simp at hn⟩
      by_cases hne : tail = []
      · subst hne
        have hpos : (startCodeOf long ++ []).length ≠ 0 := by cases long <;> decide
        rw [collectNalus, if_neg hpos, getNextNaluLength_plain long [] hlen]
        simp
      · have hall : plainLength tail = tail.length := by simp only [plainLength, h]
        rw [collectNalus_round n long hne hlen, hall, List.drop_length, List.take_length,
          collectNalus_nil, if_neg hne]
    | some i =>
      have hi := nextStartCode_length h
      have hne : tail ≠ [] := by
        rintro rfl
        simp at hi
      obtain ⟨next, hnext⟩ := drop_plainLength h
      have hrest : (startCodeOf next ++ tail.drop (i + 3)).length + 2 < 2 ^ 32 := by
        rw [← hnext, List.length_drop]
        rw [List.length_append] at hlen
        omega
      obtain ⟨hall, hmore⟩ := collectNalus_plain n next (tail.drop (i + 3)) hrest
      rw [collectNalus_round n long hne hlen, hnext, plainUnits_some h, plainInfos_some h,
        List.length_cons]
      constructor
      · intro hn
        rw [hall (by omega)]
      · intro hn
        obtain ⟨infos, left, heq, hleft⟩ := hmore (by omega)
        exact ⟨_, left, by rw [heq], hleft⟩

theorem length_plainUnits_le (tail : Bytes) : (plainUnits tail).length ≤ tail.length + 1 := by
  induction tail using plainUnits.induct with
  | case1 tail h => simp [plainUnits_none h]
  | case2 tail i h ih =>
    have hi := nextStartCode_length h
    rw [plainUnits_some h, List.length_cons]
    rw [List.length_drop] at ih
    omega

end KvsWebrtc.H264

namespace KvsWebrtc.H265

open H264

theorem payloadLoop_round (mtu n : Nat) (long : Bool) {tail : Bytes} (hne : tail ≠ [])
    (hlen : (startCodeOf long ++ tail).length + 2 < 2 ^ 32) (a : PayloadArray) :
    payloadLoop mtu (n + 1) (startCodeOf long ++ tail) a =
      match createPayloadFromNaluH265 mtu (infoOf (tail.take (plainLength tail))) a.room with
      | .error e => .error e
      | .ok f =>
        if (tail.drop (plainLength tail)).length ≠ 0 then
          payloadLoop mtu n (tail.drop (plainLength tail)) (a.add f)
        else .ok (a.add f) := by
  obtain ⟨b, rest, h⟩ := List.exists_cons_of_ne_nil hne
  rw [payloadLoop, getNextNaluLengthH265, getNextNaluLength_plain long tail hlen]
  simp only [List.drop_left, ← infoOf_take h]
  subst h
  rfl

/-- **The H.265 payloader.**  It creates the payloads of the units of the plain scan. -/
theorem payloadLoop_plain (mtu : Nat) : ∀ (n : Nat) (long : Bool) (tail : Bytes)
    (a : PayloadArray), (startCodeOf long ++ tail).length + 2 < 2 ^ 32 →
    (plainUnits tail).length ≤ n →
    payloadLoop mtu n (startCodeOf long ++ tail) a = createAll mtu (plainInfos tail) a
  | 0, long, tail, a, _, hn => by
    have hpos := List.length_pos_iff.mpr (plainUnits_ne_nil tail)
    omega
  | n + 1, long, tail, a, hlen, hn => by
    cases h : nextStartCode tail with
    | none =>
      rw [plainInfos_none h]
      by_cases hne : tail = []
      · subst hne
        rw [payloadLoop, getNextNaluLengthH265, getNextNaluLength_plain long [] hlen]
        simp [createAll]
      · have hall : plainLength tail = tail.length := by simp only [plainLength, h]
        rw [payloadLoop_round mtu n long hne hlen, hall, List.drop_length, List.take_length,
          if_neg hne]
        rfl
    | some i =>
      have hi := nextStartCode_length h
      have hne : tail ≠ [] := by
        rintro rfl
        simp at hi
      obtain ⟨next, hnext⟩ := drop_plainLength h
      have hrest : (startCodeOf next ++ tail.drop (i + 3)).length + 2 < 2 ^ 32 := by
        rw [← hnext, List.length_drop]
        rw [List.length_append] at hlen
        omega
      have hpos : (startCodeOf next ++ tail.drop (i + 3)).length ≠ 0 := by
        cases next <;> simp [startCodeOf, start4ByteCode, start3ByteCode]
      rw [plainUnits_some h, List.length_cons] at hn
      rw [payloadLoop_round mtu n long hne hlen, hnext, plainInfos_some h, createAll]
      cases createPayloadFromNaluH265 mtu (infoOf (tail.take (plainLength tail))) a.room with
      | error e => rfl
      | ok f =>
        simp only [if_pos hpos]
        exact payloadLoop_plain mtu n next (tail.drop (i + 3)) (a.add f) hrest (by omega)

/-- **Splitting is the plain scan.**  Both searches return the first unit of a frame of less than
`2^32 - 2` bytes, and both payloaders go over its units in order; the H.264 payloader refuses a
frame with more start codes than it has room for. -/
theorem splitting_eq_plain_scan (long : Bool) (tail : Bytes)
    (hlen : (startCodeOf long ++ tail).length + 2 < 2 ^ 32) :
    getNextNaluLength (startCodeOf long ++ tail) =
      .ok ((startCodeOf long).length, plainLength tail) ∧
    getNextNaluLengthH265 (startCodeOf long ++ tail) =
      .ok ((startCodeOf long).length, plainLength tail) ∧
    (∀ mtu room, FU_A_HEADER_SIZE < mtu →
      createPayloadForH264 mtu (startCodeOf long ++ tail) room =
        if (plainUnits tail).length ≤ MAX_NALUS_PER_FRAME then
          aggregate mtu (plainInfos tail) [] STAP_A_HEADER_SIZE (initialArray room)
        else .error (.status .INVALID_ARG)) ∧
    ∀ mtu room, H265_FU_HEADER_SIZE < mtu →
      createPayloadForH265 mtu (startCodeOf long ++ tail) room =
        createAll mtu (plainInfos tail) (initialArray room) := by
  refine ⟨getNextNaluLength_plain long tail hlen, getNextNaluLength_plain long tail hlen, ?_, ?_⟩
  · intro mtu room hmtu
    obtain ⟨hall, hmore⟩ := collectNalus_plain MAX_NALUS_PER_FRAME long tail hlen
    rw [createPayloadForH264, if_pos hmtu]
    by_cases hn : (plainUnits tail).length ≤ MAX_NALUS_PER_FRAME
    · rw [hall hn, if_pos hn]
      rfl
    · obtain ⟨infos, left, heq, hleft⟩ := hmore (by omega)
      rw [heq, if_neg hn]
      exact if_pos hleft
  · intro mtu room hmtu
    have hfuel := length_plainUnits_le tail
    rw [createPayloadForH265, if_pos hmtu]
    exact payloadLoop_plain mtu _ long tail _ hlen (by rw [List.length_append]; omega)

theorem splitting_two_units :
    getNextNaluLength [0, 0, 1, 0x65, 0x88, 0, 0, 0, 1, 0x41] = .ok (3, 2) := by
  have h := (splitting_eq_plain_scan false [0x65, 0x88, 0, 0, 0, 1, 0x41] (by decide)).1
  exact h

/-- The 65th unit of a frame is not visited, and the frame is refused. -/
theorem sixty_five_units_refused :
    collectNalus MAX_NALUS_PER_FRAME (annexB (List.replicate 65 ⟨false, [0x41]⟩)) =
      .ok (List.replicate 64 ⟨0x41, [0x41]⟩, [0, 0, 1, 0x41]) ∧
    createPayloadForH264 1200 (annexB (List.replicate 65 ⟨false, [0x41]⟩)) none =
      .error (.status .INVALID_ARG) := by
  decide +kernel

end KvsWebrtc.H265
