import KvsWebrtc.Codecs.H265RoundTrip
import KvsWebrtc.Codecs.VP8

/-!
# What the depayloaders need of a payload

A depayloader is called twice, for the size and with a buffer of that size.  Both calls stay inside
the payload and agree on the size for a payload that is complete: a fragment with its whole header,
an aggregate whose lengths end with the payload or with an empty unit, a whole VP8 descriptor.  None
of this is checked, so for the other payloads a read leaves the payload; and a 32-bit size has to
hold the bytes with their start codes.  Payloads of type FU-B are copied from behind their own end.

Principal results:

* `stap_of_aggregate`, `aggregate_of_stapCopy` — the two passes over an aggregate;
* `H264.depaySafe_iff`, `H265.depaySafe_iff`, `VP8.depaySafe_iff` — one codec each;
* `depayloaders_safe_iff` — the payloads on which all is well.
-/

namespace KvsWebrtc

/-- The call for the size and the call with a buffer of this size both return, and the second one
writes as many bytes as the first one answered. -/
def CallsAgree {α E : Type} (depay : Option Nat → Except E α) (length : α → Nat)
    (data : α → Bytes) : Prop :=
  ∃ size written, depay none = .ok size ∧ depay (some (length size)) = .ok written ∧
    length written = length size ∧ (data written).length = length size

namespace H264

/-! ## Aggregates -/

/-- The units of an aggregate, each behind its length.  An empty unit ends the aggregate, whatever
follows it; otherwise the payload does. -/
inductive Aggregate : Bytes → List Bytes → Prop
  | empty (rest : Bytes) : Aggregate (putUnalignedInt16BigEndian 0 ++ rest) [[]]
  | last {size : UINT16} {unit : Bytes} (hsize : unit.length = size.toNat) (hne : unit ≠ []) :
      Aggregate (putUnalignedInt16BigEndian size ++ unit) [unit]
  | more {size : UINT16} {unit rest : Bytes} {units : List Bytes}
      (hsize : unit.length = size.toNat) (hne : unit ≠ []) (hrest : rest ≠ [])
      (h : Aggregate rest units) :
      Aggregate (putUnalignedInt16BigEndian size ++ (unit ++ rest)) (unit :: units)

/-- The length of the units in Annex B format, the first behind `startCode`. -/
def restoredLength (startCode : Bytes) : List Bytes → Nat
  | [] => 0
  | unit :: units => startCode.length + unit.length + restoredLength start3ByteCode units

theorem length_restored : ∀ (units : List Bytes) (startCode : Bytes),
    (restored startCode units).length = restoredLength startCode units
  | [], _ => rfl
  | unit :: units, startCode => by
    rw [restored, restoredLength, List.length_append, List.length_append, length_restored units,
      Nat.add_assoc]

theorem read16At_drop {packet rest : Bytes} {pos : Nat} {size : UINT16}
    (h : packet.drop pos = putUnalignedInt16BigEndian size ++ rest) :
    read16At packet pos = .ok size.toNat ∧ packet.drop (pos + 2) = rest ∧
      packet.length = pos + 2 + rest.length := by
  have hlen := congrArg List.length h
  rw [List.length_drop, List.length_append, length_put16] at hlen
  refine ⟨?_, ?_, by omega⟩
  · have hsplit : packet = packet.take pos ++ (putUnalignedInt16BigEndian size ++ rest) := by
      rw [← h, List.take_append_drop]
    have htake : (packet.take pos).length = pos := by
      rw [List.length_take]
      omega
    have hget := get16_skip (putUnalignedInt16BigEndian size ++ rest) (le_of_eq htake)
    rw [← hsplit, htake, Nat.sub_self, get16_put16] at hget
    rw [read16At, if_pos (by omega), hget]
  · rw [← List.drop_drop, h, List.drop_append_of_le_length (by rw [length_put16]),
      List.drop_of_length_le (by rw [length_put16]), List.nil_append]

theorem exists_size {packet : Bytes} {pos : Nat} (h : pos + 2 ≤ packet.length) :
    ∃ (size : UINT16) (rest : Bytes),
      packet.drop pos = putUnalignedInt16BigEndian size ++ rest := by
  refine ⟨getUnalignedInt16BigEndian packet pos, packet.drop (pos + 2), ?_⟩
  rw [put16_get16 h, ← List.drop_drop, List.take_append_drop]

theorem stap_unit {packet unit rest : Bytes} {pos : Nat} {size : UINT16}
    (h : packet.drop pos = putUnalignedInt16BigEndian size ++ (unit ++ rest))
    (hsize : unit.length = size.toNat) (n : Nat) (startCode : Bytes) (naluLength : Nat)
    (isFrameStart : Bool) :
    stapCopy packet (n + 1) pos startCode =
        (if 0 < size.toNat ∧ rest ≠ [] then
          (stapCopy packet n (pos + 2 + size.toNat) start3ByteCode).map
            ((startCode ++ unit) ++ ·)
        else .ok (startCode ++ unit)) ∧
      ∃ isFrameStart', stapLengths packet (n + 1) pos startCode.length naluLength isFrameStart =
        (if 0 < size.toNat ∧ rest ≠ [] then
          stapLengths packet n (pos + 2 + size.toNat) start3ByteCode.length
            (wrap32 (naluLength + unit.length + startCode.length)) isFrameStart'
        else .ok (wrap32 (naluLength + unit.length + startCode.length), isFrameStart')) := by
  obtain ⟨hread, hdrop, hlen⟩ := read16At_drop h
  rw [List.length_append] at hlen
  have hin : pos + 2 + size.toNat ≤ packet.length := by omega
  have hunit : (unit ++ rest).take size.toNat = unit := by
    rw [← hsize, List.take_left]
  have hmore : (0 < size.toNat ∧ pos + 2 + size.toNat < packet.length) ↔
      (0 < size.toNat ∧ rest ≠ []) := by
    rw [← List.length_pos_iff]
    omega
  constructor
  · simp only [stapCopy, hread, hdrop, hunit, bind, Except.bind, pure, Except.pure, if_pos hin,
      gt_iff_lt, hmore]
    split
    · cases stapCopy packet n (pos + 2 + size.toNat) start3ByteCode <;> rfl
    · rfl
  · obtain ⟨b, hb⟩ := @h264NaluIsFrameStart_ok (unit ++ rest) size.toNat (by
      rw [List.length_append]
      omega)
    refine ⟨if isFrameStart then true else b, ?_⟩
    simp only [stapLengths, hread, hdrop, bind, Except.bind, pure, Except.pure, gt_iff_lt, hmore,
      hb, hsize]
    cases isFrameStart <;> rfl

/-- **Both passes over a complete aggregate.** -/
theorem stap_of_aggregate {units : List Bytes} {rest : Bytes} (h : Aggregate rest units) :
    ∀ (packet : Bytes) (n pos : Nat) (startCode : Bytes) (naluLength : Nat) (isFrameStart : Bool),
      packet.drop pos = rest → packet.length < pos + n →
      stapCopy packet n pos startCode = .ok (restored startCode units) ∧
        ∃ isFrameStart', stapLengths packet n pos startCode.length naluLength isFrameStart =
          .ok (wrap32 (naluLength + restoredLength startCode units), isFrameStart') := by
  induction h with
  | empty rest =>
    intro packet n pos startCode naluLength isFrameStart hdrop hn
    obtain ⟨n, rfl⟩ : ∃ m, n = m + 1 := ⟨n - 1, by have := (read16At_drop hdrop).2.2; omega⟩
    obtain ⟨hcopy, b, hb⟩ := @stap_unit packet [] _ pos _ hdrop rfl n startCode naluLength
      isFrameStart
    refine ⟨?_, b, ?_⟩
    · rw [hcopy, if_neg (by simp)]
      simp [restored]
    · rw [hb, if_neg (by simp)]
      simp [restoredLength]
  | last hsize hne =>
    rename_i size unit
    intro packet n pos startCode naluLength isFrameStart hdrop hn
    obtain ⟨n, rfl⟩ : ∃ m, n = m + 1 := ⟨n - 1, by have := (read16At_drop hdrop).2.2; omega⟩
    obtain ⟨hcopy, b, hb⟩ := @stap_unit packet unit [] pos size
      (by rw [hdrop, List.append_nil]) hsize n startCode naluLength isFrameStart
    refine ⟨?_, b, ?_⟩
    · rw [hcopy, if_neg (by simp)]
      simp [restored]
    · rw [hb, if_neg (by simp), restoredLength, restoredLength, Nat.add_zero, Nat.add_assoc,
        Nat.add_comm unit.length]
  | more hsize hne hrest hunits ih =>
    rename_i size unit rest units
    intro packet n pos startCode naluLength isFrameStart hdrop hn
    have hlen := (read16At_drop hdrop).2.2
    rw [List.length_append] at hlen
    obtain ⟨n, rfl⟩ : ∃ m, n = m + 1 := ⟨n - 1, by omega⟩
    have hpos : 0 < size.toNat := by
      rw [← hsize]
      exact List.length_pos_iff.mpr hne
    obtain ⟨hcopy, b, hb⟩ := stap_unit hdrop hsize n startCode naluLength isFrameStart
    have hnext : packet.drop (pos + 2 + size.toNat) = rest := by
      rw [← List.drop_drop, (read16At_drop hdrop).2.1, ← hsize, List.drop_left]
    obtain ⟨hcopy', b', hb'⟩ := ih packet n (pos + 2 + size.toNat) start3ByteCode
      (wrap32 (naluLength + unit.length + startCode.length)) b hnext (by omega)
    refine ⟨?_, b', ?_⟩
    · rw [hcopy, if_pos ⟨hpos, hrest⟩, hcopy', restored]
      simp [Except.map]
    · rw [hb, if_pos ⟨hpos, hrest⟩, hb', wrap32_wrap32_add, restoredLength]
      congr 3
      omega

theorem aggregate_of_stapCopy {packet : Bytes} : ∀ (n pos : Nat) (startCode data : Bytes),
    stapCopy packet n pos startCode = .ok data → ∃ units, Aggregate (packet.drop pos) units
  | 0, _, _, _, h => by cases h
  | n + 1, pos, startCode, data, h => by
    rw [stapCopy] at h
    by_cases hpos : pos + 2 ≤ packet.length
    · obtain ⟨size, rest, hdrop⟩ := exists_size hpos
      obtain ⟨hread, hrest, hlen⟩ := read16At_drop hdrop
      simp only [hread, hrest, bind, Except.bind, pure, Except.pure] at h
      rw [hdrop]
      by_cases hin : pos + 2 + size.toNat ≤ packet.length
      · rw [if_pos hin] at h
        have hunit : (rest.take size.toNat).length = size.toNat := by
          rw [List.length_take]
          omega
        by_cases hzero : size = 0
        · subst hzero
          exact ⟨_, .empty rest⟩
        · have hpos' : 0 < size.toNat := by
            rcases Nat.eq_zero_or_pos size.toNat with h0 | h0
            · exact absurd (BitVec.eq_of_toNat_eq (by rw [h0]; rfl)) hzero
            · exact h0
          have hne : rest.take size.toNat ≠ [] := by
            intro hnil
            rw [hnil] at hunit
            simp at hunit
            omega
          by_cases hmore : pos + 2 + size.toNat < packet.length
          · rw [if_pos ⟨hpos', hmore⟩] at h
            cases hnext : stapCopy packet n (pos + 2 + size.toNat) start3ByteCode with
            | error e => rw [hnext] at h; cases h
            | ok d =>
              obtain ⟨units, hunits⟩ := aggregate_of_stapCopy n _ _ _ hnext
              have hdrop' : packet.drop (pos + 2 + size.toNat) = rest.drop size.toNat := by
                rw [← List.drop_drop, hrest]
              rw [hdrop'] at hunits
              have hrest' : rest.drop size.toNat ≠ [] := by
                intro hnil
                have := congrArg List.length hnil
                rw [List.length_drop, List.length_nil] at this
                omega
              have hall := Aggregate.more hunit hne hrest' hunits
              rw [List.take_append_drop] at hall
              exact ⟨_, hall⟩
          · have hall : rest.take size.toNat = rest := List.take_of_length_le (by omega)
            rw [hall] at hunit hne
            exact ⟨[rest], .last hunit hne⟩
      · rw [if_neg hin] at h
        cases h
    · rw [read16At, if_neg hpos] at h
      cases h

/-! ## The loops end -/

theorem stapLengths_fuel {packet : Bytes} : ∀ (n m pos startCodeSize naluLength : Nat)
    (isFrameStart : Bool), packet.length < pos + n → packet.length < pos + m →
    stapLengths packet n pos startCodeSize naluLength isFrameStart =
      stapLengths packet m pos startCodeSize naluLength isFrameStart := by
  intro n
  induction n with
  | zero =>
    intro m pos startCodeSize naluLength isFrameStart hn hm
    cases m with
    | zero => rfl
    | succ m =>
      have hread : read16At packet pos = .error .outOfBounds := if_neg (by omega)
      simp only [stapLengths, hread, bind, Except.bind]
  | succ n ih =>
    intro m pos startCodeSize naluLength isFrameStart hn hm
    cases m with
    | zero =>
      have hread : read16At packet pos = .error .outOfBounds := if_neg (by omega)
      simp only [stapLengths, hread, bind, Except.bind]
    | succ m =>
      rw [stapLengths, stapLengths]
      cases hread : read16At packet pos with
      | error e => rfl
      | ok size =>
        have hnext : 0 < size →
            stapLengths packet n (pos + 2 + size) start3ByteCode.length =
              stapLengths packet m (pos + 2 + size) start3ByteCode.length := by
          intro hpos
          funext len b
          exact ih m _ _ _ _ (by omega) (by omega)
        simp only [bind, Except.bind]
        by_cases hpos : 0 < size
        · rw [hnext hpos]
        · simp only [gt_iff_lt, hpos, false_and, if_false]

theorem stapCopy_fuel {packet : Bytes} : ∀ (n m pos : Nat) (startCode : Bytes),
    packet.length < pos + n → packet.length < pos + m →
    stapCopy packet n pos startCode = stapCopy packet m pos startCode := by
  intro n
  induction n with
  | zero =>
    intro m pos startCode hn hm
    cases m with
    | zero => rfl
    | succ m =>
      have hread : read16At packet pos = .error .outOfBounds := if_neg (by omega)
      simp only [stapCopy, hread, bind, Except.bind]
  | succ n ih =>
    intro m pos startCode hn hm
    cases m with
    | zero =>
      have hread : read16At packet pos = .error .outOfBounds := if_neg (by omega)
      simp only [stapCopy, hread, bind, Except.bind]
    | succ m =>
      rw [stapCopy, stapCopy]
      cases hread : read16At packet pos with
      | error e => rfl
      | ok size =>
        simp only [bind, Except.bind]
        split
        · split
          · rename_i hmore
            rw [ih m (pos + 2 + size) start3ByteCode (by omega) (by omega)]
          · rfl
        · rfl

/-- The two loops over an aggregate end by themselves: no further turn changes their answer. -/
def LoopsEnd (packet : Bytes) : Prop :=
  ∀ n pos, packet.length ≤ n → 0 < pos →
    (∀ startCodeSize naluLength isFrameStart,
      stapLengths packet n pos startCodeSize naluLength isFrameStart =
        stapLengths packet packet.length pos startCodeSize naluLength isFrameStart) ∧
      ∀ startCode, stapCopy packet n pos startCode = stapCopy packet packet.length pos startCode

theorem loopsEnd (packet : Bytes) : LoopsEnd packet := by
  intro n pos hn hpos
  constructor
  · intro startCodeSize naluLength isFrameStart
    exact stapLengths_fuel _ _ _ _ _ _ (by omega) (by omega)
  · intro startCode
    exact stapCopy_fuel _ _ _ _ (by omega) (by omega)

/-! ## H.264 -/

/-- What `*pIsStart` selects. -/
def leadingCode (isStart : Option Bool) : Bytes :=
  if isStart = some false then start3ByteCode else start4ByteCode

/-- The payload has all that its first byte announces, and its bytes fit a 32-bit size once they
have their start codes. -/
def Complete (startCode : Bytes) : Bytes → Prop
  | [] => True
  | b0 :: bs =>
    let indicator := b0 &&& NAL_TYPE_MASK
    if indicator = FU_A_INDICATOR then
      ∃ b1 part, bs = b1 :: part ∧
        (b1 &&& 0x80 ≠ 0 → part.length + 1 + startCode.length < 2 ^ 32)
    else if indicator = FU_B_INDICATOR then bs = []
    else if indicator = STAP_A_INDICATOR then
      ∃ units, Aggregate bs units ∧ restoredLength startCode units < 2 ^ 32
    else if indicator = STAP_B_INDICATOR then
      ∃ units, Aggregate (bs.drop 2) units ∧ restoredLength startCode units < 2 ^ 32
    else bs.length + 1 + startCode.length < 2 ^ 32

def DepaySafe (packet : Bytes) (isStart : Option Bool) : Prop :=
  CallsAgree (fun capacity => depayH264FromRtpPayload packet capacity isStart) Depayed.naluLength
    Depayed.naluData

theorem depaySafe_cons {b0 : UINT8} {bs : Bytes} {isStart : Option Bool} :
    DepaySafe (b0 :: bs) isStart ↔
      ∃ n isFrameStart data, depayLength (b0 :: bs) (leadingCode isStart) b0 = .ok (n, isFrameStart) ∧
        depayData (b0 :: bs) (leadingCode isStart) b0 = .ok data ∧ data.length = n := by
  have hcode : (if isStart = some false then start3ByteCode else start4ByteCode) =
      leadingCode isStart := rfl
  simp only [DepaySafe, CallsAgree, depayH264FromRtpPayload, hcode]
  cases hlen : depayLength (b0 :: bs) (leadingCode isStart) b0 with
  | error e => simp [bind, Except.bind]
  | ok r =>
    obtain ⟨n, isFrameStart⟩ := r
    cases hdata : depayData (b0 :: bs) (leadingCode isStart) b0 with
    | error e => simp [bind, Except.bind, pure, Except.pure]
    | ok data => simp [bind, Except.bind, pure, Except.pure, eq_comm]

theorem wrap32_eq_iff {n : Nat} : n = wrap32 n ↔ n < 2 ^ 32 :=
  ⟨fun h => h ▸ wrap32_lt n, fun h => (wrap32_of_lt h).symm⟩

theorem exists_ok_iff {α : Type} {n : Nat} {a : α} {data : Bytes} :
    (∃ n' a' data', (Except.ok (n, a) : Except Failure (Nat × α)) = .ok (n', a') ∧
      (Except.ok data : Except Failure Bytes) = .ok data' ∧ data'.length = n') ↔
        data.length = n := by
  simp [eq_comm]

theorem depaySafe_fuA {b0 : UINT8} {bs : Bytes} {isStart : Option Bool}
    (h : b0 &&& NAL_TYPE_MASK = FU_A_INDICATOR) : DepaySafe (b0 :: bs) isStart ↔
      ∃ b1 part, bs = b1 :: part ∧
        (b1 &&& 0x80 ≠ 0 → part.length + 1 + (leadingCode isStart).length < 2 ^ 32) := by
  rw [depaySafe_cons]
  cases bs with
  | nil =>
    have hlen : depayLength [b0] (leadingCode isStart) b0 = .error .outOfBounds := by
      simp only [depayLength, h, if_true]
      rfl
    rw [hlen]
    simp
  | cons b1 part =>
    have hread : readAt (b0 :: b1 :: part) 1 = .ok b1 := rfl
    have hparts : (∃ b part', b1 :: part = b :: part' ∧
        (b &&& 0x80 ≠ 0 → part'.length + 1 + (leadingCode isStart).length < 2 ^ 32)) ↔
          (b1 &&& 0x80 ≠ 0 → part.length + 1 + (leadingCode isStart).length < 2 ^ 32) := by
      constructor
      · rintro ⟨b, part', heq, hb⟩
        obtain ⟨rfl, rfl⟩ := List.cons.inj heq
        exact hb
      · exact fun hb => ⟨b1, part, rfl, hb⟩
    rw [hparts]
    by_cases hfirst : b1 &&& 0x80 ≠ 0
    · obtain ⟨r, hr⟩ := h264ReadUeGolomb_ok (le_refl part.length)
      have hlen : ∃ b, depayLength (b0 :: b1 :: part) (leadingCode isStart) b0 =
          .ok (wrap32 (part.length + 1 + (leadingCode isStart).length), b) := by
        simp only [depayLength, h, if_true, hread, bind, Except.bind, if_pos hfirst]
        split
        · exact ⟨_, rfl⟩
        · split
          · have hr' : h264ReadUeGolomb ((b0 :: b1 :: part).drop FU_A_HEADER_SIZE)
                ((b0 :: b1 :: part).length - FU_A_HEADER_SIZE) = .ok r := hr
            rw [hr']
            exact ⟨_, rfl⟩
          · exact ⟨_, rfl⟩
      have hdata : depayData (b0 :: b1 :: part) (leadingCode isStart) b0 =
          .ok (leadingCode isStart ++ ((b0 &&& 0x60) ||| (b1 &&& 0x1F)) :: part) := by
        simp only [depayData, h, if_true, hread, bind, Except.bind, if_pos hfirst]
        rfl
      obtain ⟨b, hb⟩ := hlen
      rw [hb, hdata, exists_ok_iff, List.length_append, List.length_cons, Nat.add_comm,
        wrap32_eq_iff]
      exact ⟨fun hlt _ => hlt, fun hlt => hlt hfirst⟩
    · have hlen : depayLength (b0 :: b1 :: part) (leadingCode isStart) b0 =
          .ok (part.length, false) := by
        simp only [depayLength, h, if_true, hread, bind, Except.bind, if_neg hfirst]
        rfl
      have hdata : depayData (b0 :: b1 :: part) (leadingCode isStart) b0 = .ok part := by
        simp only [depayData, h, if_true, hread, bind, Except.bind, if_neg hfirst]
        rfl
      rw [hlen, hdata, exists_ok_iff]
      exact iff_of_true rfl fun hyes => absurd hyes hfirst

theorem depaySafe_fuB {b0 : UINT8} {bs : Bytes} {isStart : Option Bool}
    (h : b0 &&& NAL_TYPE_MASK = FU_B_INDICATOR) : DepaySafe (b0 :: bs) isStart ↔ bs = [] := by
  have hne : b0 &&& NAL_TYPE_MASK ≠ FU_A_INDICATOR := by
    rw [h]
    decide
  rw [depaySafe_cons]
  simp only [depayLength, depayData, if_neg hne, if_pos h]
  cases bs with
  | nil => simp [pure, Except.pure]
  | cons b1 part => simp

theorem stap_iff {packet startCode : Bytes} {pos : Nat} (hpos : 0 < pos) :
    (∃ n isFrameStart data,
      stapLengths packet packet.length pos startCode.length 0 false = .ok (n, isFrameStart) ∧
        stapCopy packet packet.length pos startCode = .ok data ∧ data.length = n) ↔
      ∃ units, Aggregate (packet.drop pos) units ∧ restoredLength startCode units < 2 ^ 32 := by
  constructor
  · rintro ⟨n, isFrameStart, data, hlen, hdata, rfl⟩
    obtain ⟨units, hunits⟩ := aggregate_of_stapCopy _ _ _ _ hdata
    obtain ⟨hcopy, b, hb⟩ := stap_of_aggregate hunits packet packet.length pos startCode 0 false
      rfl (by omega)
    refine ⟨units, hunits, ?_⟩
    rw [hcopy] at hdata
    obtain rfl := Except.ok.inj hdata
    rw [hb, Nat.zero_add, length_restored] at hlen
    exact wrap32_eq_iff.mp (Prod.mk.inj (Except.ok.inj hlen)).1.symm
  · rintro ⟨units, hunits, hlt⟩
    obtain ⟨hcopy, b, hb⟩ := stap_of_aggregate hunits packet packet.length pos startCode 0 false
      rfl (by omega)
    refine ⟨_, b, _, hb, hcopy, ?_⟩
    rw [Nat.zero_add, length_restored]
    exact wrap32_eq_iff.mpr hlt

theorem depaySafe_stapA {b0 : UINT8} {bs : Bytes} {isStart : Option Bool}
    (h : b0 &&& NAL_TYPE_MASK = STAP_A_INDICATOR) : DepaySafe (b0 :: bs) isStart ↔
      ∃ units, Aggregate bs units ∧ restoredLength (leadingCode isStart) units < 2 ^ 32 := by
  have hA : b0 &&& NAL_TYPE_MASK ≠ FU_A_INDICATOR := by
    rw [h]
    decide
  have hB : b0 &&& NAL_TYPE_MASK ≠ FU_B_INDICATOR := by
    rw [h]
    decide
  rw [depaySafe_cons]
  simp only [depayLength, depayData, if_neg hA, if_neg hB, if_pos h]
  exact stap_iff (by decide)

theorem depaySafe_stapB {b0 : UINT8} {bs : Bytes} {isStart : Option Bool}
    (h : b0 &&& NAL_TYPE_MASK = STAP_B_INDICATOR) : DepaySafe (b0 :: bs) isStart ↔
      ∃ units, Aggregate (bs.drop 2) units ∧
        restoredLength (leadingCode isStart) units < 2 ^ 32 := by
  have hA : b0 &&& NAL_TYPE_MASK ≠ FU_A_INDICATOR := by
    rw [h]
    decide
  have hB : b0 &&& NAL_TYPE_MASK ≠ FU_B_INDICATOR := by
    rw [h]
    decide
  have hS : b0 &&& NAL_TYPE_MASK ≠ STAP_A_INDICATOR := by
    rw [h]
    decide
  rw [depaySafe_cons]
  simp only [depayLength, depayData, if_neg hA, if_neg hB, if_neg hS, if_pos h]
  exact stap_iff (by decide)

/-- **H.264.**  Both calls are safe on the complete payloads and on no others. -/
theorem depaySafe_iff (packet : Bytes) (isStart : Option Bool) :
    DepaySafe packet isStart ↔ Complete (leadingCode isStart) packet := by
  cases packet with
  | nil => exact iff_of_true ⟨⟨0, [], false⟩, ⟨0, [], false⟩, rfl, rfl, rfl, rfl⟩ trivial
  | cons b0 bs =>
    rw [Complete]
    by_cases hA : b0 &&& NAL_TYPE_MASK = FU_A_INDICATOR
    · rw [depaySafe_fuA hA, if_pos hA]
    rw [if_neg hA]
    by_cases hB : b0 &&& NAL_TYPE_MASK = FU_B_INDICATOR
    · rw [depaySafe_fuB hB, if_pos hB]
    rw [if_neg hB]
    by_cases hS : b0 &&& NAL_TYPE_MASK = STAP_A_INDICATOR
    · rw [depaySafe_stapA hS, if_pos hS]
    rw [if_neg hS]
    by_cases hT : b0 &&& NAL_TYPE_MASK = STAP_B_INDICATOR
    · rw [depaySafe_stapB hT, if_pos hT]
    rw [if_neg hT, depaySafe_cons]
    obtain ⟨r, hr⟩ := h264NaluIsFrameStart_ok (le_refl (b0 :: bs).length)
    simp only [depayLength, depayData, if_neg hA, if_neg hB, if_neg hS, if_neg hT, hr, bind,
      Except.bind, pure, Except.pure]
    rw [exists_ok_iff, List.length_append, Nat.add_comm, wrap32_eq_iff, List.length_cons]

end H264

namespace H265

open H264

/-! ## H.265 -/

/-- A fragment has the two bytes of its header and the one of the fragmentation, and the bytes fit
a 32-bit size once they have their start code. -/
def Complete : Bytes → Prop
  | [] => True
  | b0 :: bs =>
    if (b0 >>> 1) &&& 0x3F = H265_FU_TYPE_ID then
      ∃ b1 b2 part, bs = b1 :: b2 :: part ∧ (b2 &&& 0x80 ≠ 0 → part.length + 6 < 2 ^ 32)
    else bs.length + 1 + 4 < 2 ^ 32

def DepaySafe (packet : Bytes) : Prop :=
  CallsAgree (depayH265FromRtpPayload packet) Depayed.naluLength Depayed.naluData

theorem depaySafe_of_parts {b0 : UINT8} {bs data : Bytes} {isStarting : Bool} {n : Nat}
    (hstart : isStartingPacket (b0 :: bs) ((b0 >>> 1) &&& 0x3F) = .ok isStarting)
    (hdata : depayData (b0 :: bs) b0 ((b0 >>> 1) &&& 0x3F) isStarting = .ok data)
    (hlen : (b0 :: bs).length -
        (if (decide ((b0 >>> 1) &&& 0x3F = H265_FU_TYPE_ID)) = true then H265_FU_HEADER_SIZE
          else 0) +
        (if decide ((b0 >>> 1) &&& 0x3F = H265_FU_TYPE_ID) = true ∧ isStarting = true then 2
          else 0) +
        (if isStarting = true then start4ByteCode.length else 0) = n)
    (hn : data.length = n) : DepaySafe (b0 :: bs) ↔ n < 2 ^ 32 := by
  simp only [DepaySafe, CallsAgree, depayH265FromRtpPayload, hstart, bind, Except.bind, pure,
    Except.pure, hlen]
  constructor
  · rintro ⟨size, written, hsize, hwritten, -, hcount⟩
    obtain rfl := Except.ok.inj hsize
    rw [if_pos (le_refl _), hdata] at hwritten
    simp only at hwritten
    split at hwritten
    · obtain rfl := Except.ok.inj hwritten
      exact wrap32_eq_iff.mp (hn.symm.trans hcount)
    · cases hwritten
  · intro h
    rw [wrap32_of_lt h]
    refine ⟨_, ⟨n, data, isStarting⟩, rfl, ?_, rfl, hn⟩
    rw [if_pos (le_refl _), hdata]
    simp only
    rw [if_pos (le_of_eq hn)]

theorem depaySafe_fragment {b0 : UINT8} {bs : Bytes} (hlt : (b0 :: bs).length < 2 ^ 32)
    (h : (b0 >>> 1) &&& 0x3F = H265_FU_TYPE_ID) : DepaySafe (b0 :: bs) ↔
      ∃ b1 b2 part, bs = b1 :: b2 :: part ∧ (b2 &&& 0x80 ≠ 0 → part.length + 6 < 2 ^ 32) := by
  match bs with
  | [] | [_] =>
    constructor
    · rintro ⟨size, -, hsize, -⟩
      simp only [depayH265FromRtpPayload, isStartingPacket, h, if_true] at hsize
      cases hsize
    · rintro ⟨b1, b2, part, heq, -⟩
      simp at heq
  | b1 :: b2 :: part =>
    have hparts : (∃ b1' b2' part', b1 :: b2 :: part = b1' :: b2' :: part' ∧
        (b2' &&& 0x80 ≠ 0 → part'.length + 6 < 2 ^ 32)) ↔
          (b2 &&& 0x80 ≠ 0 → part.length + 6 < 2 ^ 32) := by
      constructor
      · rintro ⟨b1', b2', part', heq, hb⟩
        obtain ⟨rfl, rfl, rfl⟩ : b1 = b1' ∧ b2 = b2' ∧ part = part' := by simpa using heq
        exact hb
      · exact fun hb => ⟨b1, b2, part, rfl, hb⟩
    have hread : readAt (b0 :: b1 :: b2 :: part) 2 = .ok b2 := rfl
    rw [hparts]
    by_cases hfirst : b2 &&& 0x80 ≠ 0
    · have hstart : isStartingPacket (b0 :: b1 :: b2 :: part) ((b0 >>> 1) &&& 0x3F) = .ok true := by
        simp only [isStartingPacket, h, if_true, hread, bind, Except.bind, pure, Except.pure,
          decide_eq_true hfirst]
      rw [@depaySafe_of_parts _ _ (start4ByteCode ++
        (((b2 &&& 0x3F) <<< 1) ||| (b0 &&& 0x81)) :: b1 :: part) _ (part.length + 6)
        hstart ?_ ?_ ?_]
      · exact ⟨fun hlt _ => hlt, fun hlt => hlt hfirst⟩
      · simp only [depayData, h, if_true]
        rfl
      · simp only [h, decide_true, if_true, and_self]
        rfl
      · simp [start4ByteCode]
    · have hstart : isStartingPacket (b0 :: b1 :: b2 :: part) ((b0 >>> 1) &&& 0x3F) =
          .ok false := by
        simp only [isStartingPacket, h, if_true, hread, bind, Except.bind, pure, Except.pure,
          decide_eq_false hfirst]
      rw [@depaySafe_of_parts _ _ part _ part.length hstart ?_ ?_ rfl]
      · simp only [List.length_cons] at hlt
        exact iff_of_true (by omega) fun hyes => absurd hyes hfirst
      · simp only [depayData, h, if_true]
        rfl
      · simp only [h, decide_true, if_true]
        rfl

/-- **H.265.**  Both calls are safe on the complete payloads and on no others. -/
theorem depaySafe_iff {packet : Bytes} (hlt : packet.length < 2 ^ 32) :
    DepaySafe packet ↔ Complete packet := by
  cases packet with
  | nil => exact iff_of_true ⟨⟨0, [], true⟩, ⟨0, [], true⟩, rfl, rfl, rfl, rfl⟩ trivial
  | cons b0 bs =>
    rw [Complete]
    by_cases h : (b0 >>> 1) &&& 0x3F = H265_FU_TYPE_ID
    · rw [if_pos h]
      exact depaySafe_fragment hlt h
    · have hstart : isStartingPacket (b0 :: bs) ((b0 >>> 1) &&& 0x3F) = .ok true := if_neg h
      rw [if_neg h, @depaySafe_of_parts _ _ (start4ByteCode ++ b0 :: bs) _
        (bs.length + 1 + 4) hstart ?_ ?_ ?_]
      · simp only [depayData, if_neg h]
        rfl
      · simp only [h, decide_false]
        rfl
      · simp [start4ByteCode]

end H265

namespace VP8

open H264

/-! ## VP8 -/

/-- The whole descriptor is there. -/
def Complete (packet : Bytes) : Prop :=
  packet = [] ∨ ∃ (d : Descriptor) (data : Bytes), packet = d.bytes ++ data

def DepaySafe (packet : Bytes) : Prop :=
  CallsAgree (depayVP8FromRtpPayload packet) Depayed.vp8Length Depayed.vp8Data

/-- **VP8.**  Both calls are safe on the complete payloads and on no others. -/
theorem depaySafe_iff (packet : Bytes) : DepaySafe packet ↔ Complete packet := by
  constructor
  · rintro ⟨size, written, hsize, hwritten, -⟩
    match packet with
    | [] => exact .inl rfl
    | b :: bs =>
      right
      cases hdesc : descriptorLength (b :: bs) with
      | error e => simp [depayVP8FromRtpPayload, hdesc, bind, Except.bind] at hsize
      | ok n =>
        by_cases hn : n ≤ (b :: bs).length
        · exact exists_descriptor hdesc hn
        · obtain ⟨-, hno⟩ := depayVP8_short hdesc (by omega)
          obtain ⟨e, he⟩ := hno size.vp8Length
          rw [he] at hwritten
          cases hwritten
  · rintro (rfl | ⟨d, data, rfl⟩)
    · exact ⟨⟨0, [], true⟩, ⟨0, [], true⟩, rfl, rfl, rfl, rfl⟩
    · obtain ⟨hsize, hcopy⟩ := depayVP8_complete d data data.length (le_refl _)
      exact ⟨_, _, hsize, hcopy, rfl, rfl⟩

end VP8

/-- **The depayloaders on every payload.**  The two calls return, stay inside the payload and agree
on the size for the complete payloads of each codec and for no others; the loops over an aggregate
end on every payload. -/
theorem depayloaders_safe_iff (packet : Bytes) (hlen : packet.length < 2 ^ 32)
    (isStart : Option Bool) :
    (H264.DepaySafe packet isStart ↔ H264.Complete (H264.leadingCode isStart) packet) ∧
      (H265.DepaySafe packet ↔ H265.Complete packet) ∧
      (VP8.DepaySafe packet ↔ VP8.Complete packet) ∧ H264.LoopsEnd packet :=
  ⟨H264.depaySafe_iff packet isStart, H265.depaySafe_iff hlen, VP8.depaySafe_iff packet,
    H264.loopsEnd packet⟩

/-- A STAP-A of two units, which is a single unit for H.265 and has a whole VP8 descriptor. -/
def sampleAggregate : Bytes := [0x78, 0x00, 0x02, 0x67, 0x42, 0x00, 0x01, 0x68]

theorem depayloaders_safe_aggregate :
    H264.DepaySafe sampleAggregate none ∧ H265.DepaySafe sampleAggregate ∧
      VP8.DepaySafe sampleAggregate := by
  obtain ⟨hh264, hh265, hvp8, -⟩ := depayloaders_safe_iff sampleAggregate (by decide) none
  have hlast : H264.Aggregate (putUnalignedInt16BigEndian 1 ++ [0x68]) [[0x68]] :=
    .last rfl (by decide)
  have hboth : H264.Aggregate (putUnalignedInt16BigEndian 2 ++ ([0x67, 0x42] ++
      (putUnalignedInt16BigEndian 1 ++ [0x68]))) [[0x67, 0x42], [0x68]] :=
    .more rfl (by decide) (by decide) hlast
  refine ⟨hh264.mpr ⟨_, hboth, by decide⟩, hh265.mpr ?_, hvp8.mpr ?_⟩
  · rw [sampleAggregate, H265.Complete, if_neg (by decide)]
    decide
  · exact .inr ⟨⟨0x78, none⟩, sampleAggregate.tail, rfl⟩

/-- A fragment of one byte, an aggregate that announces more than it has, an H.265 fragment of two
bytes, and a VP8 descriptor that announces a byte more. -/
theorem short_payloads_unsafe :
    ¬ H264.DepaySafe [0x7C] none ∧ ¬ H264.DepaySafe [0x78, 0x00, 0x05, 0x67] none ∧
      ¬ H265.DepaySafe [0x62, 0x01] ∧ ¬ VP8.DepaySafe [0x80, 0x40] := by
  refine ⟨?_, ?_, ?_, ?_⟩
  · rintro ⟨size, -, hsize, -⟩
    cases hsize
  · rintro ⟨size, written, hsize, hwritten, -⟩
    have hnine : H264.depayH264FromRtpPayload [0x78, 0x00, 0x05, 0x67] none none =
      .ok ⟨9, [], true⟩ := rfl
    obtain rfl := Except.ok.inj (hnine.symm.trans hsize)
    cases hwritten
  · rintro ⟨size, -, hsize, -⟩
    cases hsize
  · rintro ⟨size, written, -, hwritten, -⟩
    have hdesc : VP8.descriptorLength [0x80, 0x40] = .ok 3 := rfl
    obtain ⟨e, he⟩ := (VP8.depayVP8_short hdesc (by decide)).2 size.vp8Length
    rw [he] at hwritten
    cases hwritten

end KvsWebrtc
