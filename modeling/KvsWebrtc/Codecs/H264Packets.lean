import KvsWebrtc.Codecs.Fragments

/-!
# The payloads of an H.264 frame

`packets` are the payloads of a frame, with no counter and no buffer.  The call that computes sizes
answers their total length and number in 32 bits, and the call with a buffer writes exactly them if
they fit.  `frameBytes` is the total in terms of the lengths of the units.

Principal results:

* `aggregate_size`, `aggregate_write` — the two modes against `packets`;
* `packets_le`, `length_packets` — every payload fits the mtu, and how long they are together;
* `length_lt_of_frameBytes` — payloads of fewer than `2^32` bytes come from a frame that the search
  for units does not leave.
-/

namespace KvsWebrtc.H264

/-! ## The payloads -/

/-- The fragments of what remains of a unit. -/
def fragments (mtu : Nat) (info : NaluInfo) : Nat → Bytes → List Bytes
  | 0, _ => []
  | n + 1, rest =>
    if rest.length = 0 then []
    else
      let curPayloadSize := min (mtu - FU_A_HEADER_SIZE) rest.length
      ((28 ||| (info.firstByte &&& 0x60)) ::
        fuHeader (info.firstByte &&& 0x1F) (rest.length = info.nalu.length - 1)
          (rest.length = curPayloadSize) :: rest.take curPayloadSize) ::
        fragments mtu info n (rest.drop curPayloadSize)

def naluPayloads (mtu : Nat) (info : NaluInfo) : List Bytes :=
  if info.nalu.length ≤ mtu then [info.nalu]
  else fragments mtu info info.nalu.length (info.nalu.drop 1)

def stapPayload (infos : List NaluInfo) : Bytes :=
  (STAP_A_INDICATOR ||| maxNri infos) :: infos.flatMap fun info =>
    putUnalignedInt16BigEndian (BitVec.ofNat 16 info.nalu.length) ++ info.nalu

def waitingPayloads (mtu : Nat) : List NaluInfo → List Bytes
  | [] => []
  | [info] => naluPayloads mtu info
  | infos => [stapPayload infos]

/-- The payloads of units that wait and of the units that follow. -/
def packets (mtu : Nat) : List NaluInfo → List NaluInfo → List Bytes
  | [], waiting => waitingPayloads mtu waiting
  | info :: infos, waiting =>
    if info.nalu.length > mtu then
      waitingPayloads mtu waiting ++ (naluPayloads mtu info ++ packets mtu infos [])
    else if stapSize waiting + (STAP_A_NALU_OVERHEAD + info.nalu.length) ≤ mtu then
      packets mtu infos (waiting ++ [info])
    else waitingPayloads mtu waiting ++ packets mtu infos [info]

/-- The two bytes before a fragment. -/
def fuaHeader (info : NaluInfo) (rest : Bytes) (curPayloadSize : Nat) : Bytes :=
  [28 ||| (info.firstByte &&& 0x60),
    fuHeader (info.firstByte &&& 0x1F) (rest.length = info.nalu.length - 1)
      (rest.length = curPayloadSize)]

theorem length_fuaHeader (info : NaluInfo) (rest : Bytes) (cur : Nat) :
    (fuaHeader info rest cur).length = FU_A_HEADER_SIZE := rfl

theorem fuaLoop_eq (mtu : Nat) (info : NaluInfo) (room : Option Room) :
    ∀ (n : Nat) (rest : Bytes) (f : Filled), fuaLoop mtu info room n rest f =
      fragmentLoop FU_A_HEADER_SIZE (mtu - FU_A_HEADER_SIZE) (fuaHeader info) room n rest f
  | 0, _, _ => rfl
  | n + 1, rest, f => by
    cases room with
    | none => simp only [fuaLoop, fragmentLoop, fuaLoop_eq mtu info none n]
    | some r =>
      simp only [fuaLoop, fragmentLoop, fuaLoop_eq mtu info (some r) n]
      rfl

theorem fragments_eq (mtu : Nat) (info : NaluInfo) : ∀ (n : Nat) (rest : Bytes),
    fragments mtu info n rest = fragmentsOf (mtu - FU_A_HEADER_SIZE) (fuaHeader info) n rest
  | 0, _ => rfl
  | n + 1, rest => by
    simp only [fragments, fragmentsOf, fragments_eq mtu info n]
    rfl

theorem length_stapPayload (infos : List NaluInfo) :
    (stapPayload infos).length = stapSize infos := by
  simp [stapPayload, stapSize, List.length_flatMap, Nat.add_comm]

/-! ## The call that computes the sizes -/

theorem createPayloadFromNalu_size {mtu : Nat} (hmtu : 2 < mtu) (hle : mtu < 2 ^ 32)
    (info : NaluInfo) :
    createPayloadFromNalu mtu info none = .ok (sizesOf (naluPayloads mtu info)) := by
  rw [createPayloadFromNalu, if_pos hmtu]
  by_cases hlen : info.nalu.length ≤ mtu
  · have hwrap : wrap32 info.nalu.length = info.nalu.length :=
      wrap32_of_lt (lt_of_le_of_lt hlen hle)
    simp only [if_pos hlen, naluPayloads, sizesOf, List.flatten_singleton, hwrap]
    rfl
  · rw [if_neg hlen, fuaLoop_eq, fragmentLoop_size (length_fuaHeader info) _ _ _ (by decide)
      (by decide)]
    simp [naluPayloads, hlen, sizesOf, fragments_eq]

theorem createStapAPayload_size (infos : List NaluInfo) :
    createStapAPayload infos none = .ok (sizesOf [stapPayload infos]) := by
  simp [createStapAPayload, sizesOf, length_stapPayload, wrap32]

theorem flushStap_size {mtu : Nat} (hmtu : 2 < mtu) (hle : mtu < 2 ^ 32) {a : PayloadArray}
    (h : a.Sizing) (waiting : List NaluInfo) :
    flushStap mtu waiting a = .ok (a.grow (waitingPayloads mtu waiting)) := by
  match waiting with
  | [] => rw [flushStap, waitingPayloads, h.grow_nil]
  | [info] =>
    rw [flushStap, h.1, createPayloadFromNalu_size hmtu hle, waitingPayloads, ← h.add_sizesOf]
    rfl
  | i :: j :: infos =>
    rw [flushStap, h.1, createStapAPayload_size, waitingPayloads, ← h.add_sizesOf]
    · rfl
    all_goals simp

/-- **Sizes.**  The call without a buffer adds up the payloads in 32 bits. -/
theorem aggregate_size {mtu : Nat} (hmtu : 2 < mtu) (hle : mtu < 2 ^ 32) :
    ∀ (infos waiting : List NaluInfo) (a : PayloadArray), a.Sizing →
      aggregate mtu infos waiting (stapSize waiting) a = .ok (a.grow (packets mtu infos waiting))
  | [], waiting, a, h => by
    rw [aggregate, flushStap_size hmtu hle h, packets]
  | info :: infos, waiting, a, h => by
    have hflush := flushStap_size hmtu hle h waiting
    by_cases hlarge : info.nalu.length > mtu
    · have hgrown := h.grow (waitingPayloads mtu waiting)
      simp only [aggregate, packets, if_pos hlarge, hflush, hgrown.1,
        createPayloadFromNalu_size hmtu hle]
      rw [hgrown.add_sizesOf, PayloadArray.grow_grow]
      have ih := aggregate_size hmtu hle infos [] _
        (h.grow (waitingPayloads mtu waiting ++ naluPayloads mtu info))
      rw [PayloadArray.grow_grow, List.append_assoc] at ih
      exact ih
    · by_cases hfits : stapSize waiting + (STAP_A_NALU_OVERHEAD + info.nalu.length) ≤ mtu
      · have hsize : stapSize waiting + (STAP_A_NALU_OVERHEAD + info.nalu.length) =
            stapSize (waiting ++ [info]) := by
          simp [stapSize, Nat.add_assoc]
        simp only [aggregate, packets, if_neg hlarge, if_pos hfits]
        rw [hsize]
        exact aggregate_size hmtu hle infos _ a h
      · simp only [aggregate, packets, if_neg hlarge, if_neg hfits, hflush]
        have ih := aggregate_size hmtu hle infos [info] _ (h.grow (waitingPayloads mtu waiting))
        rw [PayloadArray.grow_grow] at ih
        exact ih

/-! ## The call with a buffer -/

theorem createPayloadFromNalu_write {mtu : Nat} (hmtu : 2 < mtu) {r : Room} (hr : r.Bounded)
    (info : NaluInfo) (g : Filled) :
    createPayloadFromNalu mtu info (some r) = .ok g ↔
      r.Fits (naluPayloads mtu info) ∧ g = writesOf (naluPayloads mtu info) := by
  rw [createPayloadFromNalu, if_pos hmtu, naluPayloads]
  by_cases hlen : info.nalu.length ≤ mtu
  · rw [if_pos hlen, if_pos hlen]
    exact single_write
  · rw [if_neg hlen, if_neg hlen]
    rw [fuaLoop_eq, fragments_eq]
    exact fragmentLoop_write (length_fuaHeader info) (by decide) hr info.nalu.length
      (info.nalu.drop 1) [] g ⟨Nat.zero_le _, Nat.zero_le _⟩ (le_refl _)

theorem createStapAPayload_write {infos : List NaluInfo} (hsize : stapSize infos < 2 ^ 32)
    (r : Room) (g : Filled) :
    createStapAPayload infos (some r) = .ok g ↔
      r.Fits [stapPayload infos] ∧ g = writesOf [stapPayload infos] := by
  simp only [createStapAPayload, wrap32_of_lt hsize, Room.Fits, List.flatten_singleton,
    List.length_singleton, length_stapPayload]
  by_cases hfit : 1 ≤ r.maxPayloadSubLenSize ∧ stapSize infos ≤ r.maxPayloadLength
  · rw [if_pos hfit, if_pos hfit.2]
    simp [hfit, writesOf, length_stapPayload, eq_comm]
    simp [stapPayload]
  · rw [if_neg hfit]
    simp only [reduceCtorEq, false_iff]
    exact fun h => hfit h.1.symm

/-- Units wait for aggregation alone, or because they fit one payload together. -/
def Waiting (mtu : Nat) (waiting : List NaluInfo) : Prop :=
  waiting.length ≤ 1 ∨ stapSize waiting ≤ mtu

theorem flushStap_write {mtu : Nat} (hmtu : 2 < mtu) (hle : mtu < 2 ^ 32) {r : Room}
    (hr : r.Bounded) {a b : PayloadArray} (ha : a.room = some r) {waiting : List NaluInfo}
    (hw : Waiting mtu waiting) :
    flushStap mtu waiting a = .ok b ↔ r.Fits (waitingPayloads mtu waiting) ∧
      b = a.write r (waitingPayloads mtu waiting) := by
  match waiting with
  | [] =>
    rw [flushStap, waitingPayloads, PayloadArray.write_nil ha]
    simp [Room.Fits, eq_comm]
  | [info] =>
    rw [flushStap, map_add_eq_ok, waitingPayloads, ha]
    simp only [createPayloadFromNalu_write hmtu hr]
    constructor
    · rintro ⟨f, ⟨hfit, rfl⟩, rfl⟩
      exact ⟨hfit, PayloadArray.add_writesOf ha _⟩
    · rintro ⟨hfit, rfl⟩
      exact ⟨_, ⟨hfit, rfl⟩, (PayloadArray.add_writesOf ha _).symm⟩
  | i :: j :: infos =>
    have hsize : stapSize (i :: j :: infos) < 2 ^ 32 := by
      rcases hw with h | h
      · simp at h
      · omega
    have hflush : flushStap mtu (i :: j :: infos) a =
        (createStapAPayload (i :: j :: infos) a.room).map a.add := by
      rw [flushStap] <;> simp
    have hpayloads : waitingPayloads mtu (i :: j :: infos) = [stapPayload (i :: j :: infos)] := by
      rw [waitingPayloads] <;> simp
    rw [hflush, hpayloads, map_add_eq_ok, ha]
    simp only [createStapAPayload_write hsize]
    constructor
    · rintro ⟨f, ⟨hfit, rfl⟩, rfl⟩
      exact ⟨hfit, PayloadArray.add_writesOf ha _⟩
    · rintro ⟨hfit, rfl⟩
      exact ⟨_, ⟨hfit, rfl⟩, (PayloadArray.add_writesOf ha _).symm⟩

theorem stapSize_append (waiting : List NaluInfo) (info : NaluInfo) :
    stapSize waiting + (STAP_A_NALU_OVERHEAD + info.nalu.length) = stapSize (waiting ++ [info]) := by
  simp [stapSize, Nat.add_assoc]

/-- **Contents.**  The call with a buffer writes the payloads if they fit, and fails if not. -/
theorem aggregate_write {mtu : Nat} (hmtu : 2 < mtu) (hle : mtu < 2 ^ 32) :
    ∀ (infos waiting : List NaluInfo) (a b : PayloadArray) (r : Room), r.Bounded →
      a.room = some r → Waiting mtu waiting →
      (aggregate mtu infos waiting (stapSize waiting) a = .ok b ↔
        r.Fits (packets mtu infos waiting) ∧ b = a.write r (packets mtu infos waiting))
  | [], waiting, a, b, r, hr, ha, hw => by
    rw [aggregate, flushStap_write hmtu hle hr ha hw, packets]
  | info :: infos, waiting, a, b, r, hr, ha, hw => by
    have hflush := fun b => flushStap_write (b := b) hmtu hle hr ha hw
    by_cases hlarge : info.nalu.length > mtu
    · simp only [aggregate, packets, if_pos hlarge]
      rw [r.fits_append, Room.fits_append]
      cases hf : flushStap mtu waiting a with
      | error e =>
        have hno : ¬ r.Fits (waitingPayloads mtu waiting) := by
          intro h
          have := (hflush _).mpr ⟨h, rfl⟩
          rw [hf] at this
          cases this
        simp [hno]
      | ok c =>
        obtain ⟨hfit, rfl⟩ := (hflush c).mp hf
        have hroom : (a.write r (waitingPayloads mtu waiting)).room =
            some (r.after (waitingPayloads mtu waiting)) := rfl
        have hcreate := createPayloadFromNalu_write hmtu (hr.after (waitingPayloads mtu waiting))
          info
        simp only [hfit, true_and, hroom]
        cases hc : createPayloadFromNalu mtu info
            (some (r.after (waitingPayloads mtu waiting))) with
        | error e =>
          have hno : ¬ (r.after (waitingPayloads mtu waiting)).Fits (naluPayloads mtu info) := by
            intro h
            have := (hcreate _).mpr ⟨h, rfl⟩
            rw [hc] at this
            cases this
          simp [hno]
        | ok f =>
          obtain ⟨hfit', rfl⟩ := (hcreate f).mp hc
          simp only [hfit', true_and, PayloadArray.add_writesOf hroom]
          refine (aggregate_write hmtu hle infos [] _ b _ ((hr.after _).after _) rfl
            (Or.inl (Nat.zero_le 1))).trans ?_
          rw [PayloadArray.write_write, PayloadArray.write_write]
    · by_cases hfits : stapSize waiting + (STAP_A_NALU_OVERHEAD + info.nalu.length) ≤ mtu
      · simp only [aggregate, packets, if_neg hlarge, if_pos hfits]
        rw [stapSize_append] at hfits ⊢
        exact aggregate_write hmtu hle infos _ a b r hr ha (Or.inr hfits)
      · simp only [aggregate, packets, if_neg hlarge, if_neg hfits]
        rw [r.fits_append]
        cases hf : flushStap mtu waiting a with
        | error e =>
          have hno : ¬ r.Fits (waitingPayloads mtu waiting) := by
            intro h
            have := (hflush _).mpr ⟨h, rfl⟩
            rw [hf] at this
            cases this
          simp [hno]
        | ok c =>
          obtain ⟨hfit, rfl⟩ := (hflush c).mp hf
          simp only [hfit, true_and]
          refine (aggregate_write hmtu hle infos [info] _ b _ (hr.after _) rfl
            (Or.inl (le_refl 1))).trans ?_
          rw [PayloadArray.write_write]

/-! ## Sizes of the payloads -/

theorem naluPayloads_le {mtu : Nat} (hmtu : 2 < mtu) (info : NaluInfo) :
    ∀ p ∈ naluPayloads mtu info, p.length ≤ mtu := by
  intro p hp
  rw [naluPayloads] at hp
  split at hp
  case isTrue h =>
    rw [List.mem_singleton.mp hp]
    exact h
  case isFalse =>
    rw [fragments_eq] at hp
    have hle := fragmentsOf_le (length_fuaHeader info) _ _ p hp
    simp only [FU_A_HEADER_SIZE] at hle
    omega

theorem waitingPayloads_forall {mtu : Nat} {P : Bytes → Prop}
    (hstap : ∀ infos, stapSize infos ≤ mtu → P (stapPayload infos)) {waiting : List NaluInfo}
    (hw : Waiting mtu waiting) (hnalu : ∀ info ∈ waiting, ∀ p ∈ naluPayloads mtu info, P p) :
    ∀ p ∈ waitingPayloads mtu waiting, P p := by
  match waiting with
  | [] => simp [waitingPayloads]
  | [info] => exact hnalu info (by simp)
  | i :: j :: infos =>
    intro p hp
    rw [waitingPayloads, List.mem_singleton] at hp
    · rw [hp]
      exact hstap _ (hw.resolve_left (by simp))
    all_goals simp

theorem packets_forall {mtu : Nat} {P : Bytes → Prop}
    (hstap : ∀ infos, stapSize infos ≤ mtu → P (stapPayload infos)) :
    ∀ infos waiting : List NaluInfo, Waiting mtu waiting →
      (∀ info ∈ waiting ++ infos, ∀ p ∈ naluPayloads mtu info, P p) →
      ∀ p ∈ packets mtu infos waiting, P p
  | [], waiting, hw, hnalu => waitingPayloads_forall hstap hw (by simpa using hnalu)
  | info :: infos, waiting, hw, hnalu => by
    have hwait := waitingPayloads_forall hstap hw
      fun i hi => hnalu i (List.mem_append_left _ hi)
    intro p hp
    rw [packets] at hp
    split at hp
    case isTrue =>
      simp only [List.mem_append] at hp
      rcases hp with hp | hp | hp
      · exact hwait p hp
      · exact hnalu info (by simp) p hp
      · exact packets_forall hstap infos [] (Or.inl (Nat.zero_le 1))
          (fun i hi => hnalu i (by simp at hi; simp [hi])) p hp
    case isFalse =>
      split at hp
      case isTrue hfits =>
        rw [stapSize_append] at hfits
        exact packets_forall hstap infos _ (Or.inr hfits) (by simpa using hnalu) p hp
      case isFalse =>
        rcases List.mem_append.mp hp with hp | hp
        · exact hwait p hp
        · exact packets_forall hstap infos [info] (Or.inl (le_refl 1))
            (fun i hi => hnalu i (List.mem_append_right _ hi)) p hp

theorem packets_le {mtu : Nat} (hmtu : 2 < mtu) (infos : List NaluInfo) :
    ∀ p ∈ packets mtu infos [], p.length ≤ mtu := by
  refine packets_forall (P := fun p => p.length ≤ mtu) ?_ infos [] (Or.inl (Nat.zero_le 1)) ?_
  · intro infos h
    rw [length_stapPayload]
    exact h
  · exact fun info _ => naluPayloads_le hmtu info

/-- No payload of units that are not empty is empty, so there are at most as many payloads as
bytes. -/
theorem length_packets_le {mtu : Nat} {infos : List NaluInfo}
    (h : ∀ info ∈ infos, 0 < info.nalu.length) :
    (packets mtu infos []).length ≤ (packets mtu infos []).flatten.length := by
  have hpos : ∀ p ∈ packets mtu infos [], 1 ≤ p.length := by
    refine packets_forall (P := fun p => 1 ≤ p.length) ?_ infos [] (Or.inl (Nat.zero_le 1)) ?_
    · intro infos _
      simp [stapPayload]
    · intro info hi p hp
      rw [naluPayloads] at hp
      split at hp
      case isTrue =>
        rw [List.mem_singleton.mp hp]
        exact h info (by simpa using hi)
      case isFalse =>
        rw [fragments_eq] at hp
        exact fragmentsOf_pos (length_fuaHeader info) (by decide) _ _ p hp
  have hsum := List.length_le_sum_of_one_le ((packets mtu infos []).map List.length) (by
    intro n hn
    obtain ⟨p, hp, rfl⟩ := List.mem_map.mp hn
    exact hpos p hp)
  rwa [List.length_map, ← List.length_flatten] at hsum

/-- The bytes of the payloads of one unit: the unit itself, or all of it but its first byte and a
header of two bytes for each fragment. -/
def naluBytes (mtu len : Nat) : Nat :=
  if len ≤ mtu then len else len - 1 + 2 * ((len - 1 + (mtu - 3)) / (mtu - 2))

/-- The bytes of the payload of units that are aggregated. -/
def stapBytes (lens : List Nat) : Nat := 1 + (lens.map (2 + ·)).sum

def waitingBytes (mtu : Nat) : List Nat → Nat
  | [] => 0
  | [n] => naluBytes mtu n
  | ns => stapBytes ns

def packetsBytes (mtu : Nat) : List Nat → List Nat → Nat
  | [], waiting => waitingBytes mtu waiting
  | n :: ns, waiting =>
    if n > mtu then waitingBytes mtu waiting + (naluBytes mtu n + packetsBytes mtu ns [])
    else if stapBytes waiting + (2 + n) ≤ mtu then packetsBytes mtu ns (waiting ++ [n])
    else waitingBytes mtu waiting + packetsBytes mtu ns [n]

/-- The bytes of all payloads of a frame whose units have these lengths. -/
def frameBytes (mtu : Nat) (lens : List Nat) : Nat := packetsBytes mtu lens []

theorem length_naluPayloads {mtu : Nat} (hmtu : 2 < mtu) (info : NaluInfo) :
    (naluPayloads mtu info).flatten.length = naluBytes mtu info.nalu.length := by
  rw [naluPayloads, naluBytes]
  split
  case isTrue => simp
  case isFalse =>
    have hmax : 0 < mtu - FU_A_HEADER_SIZE := by
      simp only [FU_A_HEADER_SIZE]
      omega
    rw [fragments_eq, length_fragmentsOf (length_fuaHeader info) hmax _ _ (by simp),
      List.length_drop]
    congr 3

theorem stapSize_eq (infos : List NaluInfo) :
    stapSize infos = stapBytes (infos.map fun i => i.nalu.length) := by
  simp [stapSize, stapBytes, Function.comp_def]

theorem length_waitingPayloads {mtu : Nat} (hmtu : 2 < mtu) (waiting : List NaluInfo) :
    (waitingPayloads mtu waiting).flatten.length =
      waitingBytes mtu (waiting.map fun i => i.nalu.length) := by
  match waiting with
  | [] => rfl
  | [info] => exact length_naluPayloads hmtu info
  | i :: j :: infos =>
    rw [waitingPayloads, List.flatten_singleton, length_stapPayload, stapSize_eq]
    · rfl
    all_goals simp

theorem length_packets {mtu : Nat} (hmtu : 2 < mtu) : ∀ infos waiting : List NaluInfo,
    (packets mtu infos waiting).flatten.length =
      packetsBytes mtu (infos.map fun i => i.nalu.length) (waiting.map fun i => i.nalu.length)
  | [], waiting => length_waitingPayloads hmtu waiting
  | info :: infos, waiting => by
    simp only [packets, List.map_cons, packetsBytes, ← stapSize_eq]
    split
    case isTrue =>
      rw [List.flatten_append, List.flatten_append, List.length_append, List.length_append,
        length_waitingPayloads hmtu, length_naluPayloads hmtu, length_packets hmtu infos []]
      rfl
    case isFalse =>
      split
      case isTrue =>
        rw [length_packets hmtu infos, List.map_append]
        rfl
      case isFalse =>
        rw [List.flatten_append, List.length_append, length_waitingPayloads hmtu,
          length_packets hmtu infos]
        rfl

/-! ## A frame that is too long for the counter of the search has too many payload bytes

A fragment has at least two bytes of header for 65533 bytes of the unit. -/

theorem naluBytes_ge {mtu : Nat} (hmtu : 2 < mtu) (hle : mtu ≤ 65535) (len : Nat) :
    65535 * len ≤ 65533 * naluBytes mtu len + 131070 := by
  rw [naluBytes]
  split
  case isTrue => omega
  case isFalse hlong =>
    obtain ⟨k, hk⟩ : ∃ k, k = (len - 1 + (mtu - 3)) / (mtu - 2) := ⟨_, rfl⟩
    have hdiv := Nat.div_add_mod (len - 1 + (mtu - 3)) (mtu - 2)
    have hmod := Nat.mod_lt (len - 1 + (mtu - 3)) (show 0 < mtu - 2 by omega)
    rw [← hk] at hdiv ⊢
    have hceil : len - 1 ≤ (mtu - 2) * k := by omega
    have hmul : (mtu - 2) * k ≤ 65533 * k := Nat.mul_le_mul_right k (by omega)
    omega

theorem sum_le_of_le {n : Nat} : ∀ {lens : List Nat}, (∀ l ∈ lens, l ≤ n) →
    lens.sum ≤ n * lens.length
  | [], _ => by simp
  | l :: lens, h => by
    have ih := sum_le_of_le fun l' hl => h l' (List.mem_cons_of_mem l hl)
    have hl := h l (by simp)
    rw [List.sum_cons, List.length_cons, Nat.mul_succ]
    omega

theorem waitingBytes_ge {mtu : Nat} (hmtu : 2 < mtu) (hle : mtu ≤ 65535) {waiting : List Nat}
    (hw : ∀ n ∈ waiting, n ≤ mtu) :
    65535 * waiting.sum ≤ 65533 * waitingBytes mtu waiting + 131070 * waiting.length := by
  match waiting with
  | [] => simp
  | [n] => simpa [waitingBytes] using naluBytes_ge hmtu hle n
  | i :: j :: ns =>
    have hsum := sum_le_of_le fun n hn => le_trans (hw n hn) hle
    have hadd : ((i :: j :: ns).map (2 + ·)).sum = 2 * (i :: j :: ns).length + (i :: j :: ns).sum := by
      induction i :: j :: ns with
      | nil => rfl
      | cons l ls ih =>
        rw [List.map_cons, List.sum_cons, ih, List.sum_cons, List.length_cons]
        omega
    rw [waitingBytes, stapBytes, hadd]
    · omega
    all_goals simp

theorem packetsBytes_ge {mtu : Nat} (hmtu : 2 < mtu) (hle : mtu ≤ 65535) :
    ∀ lens waiting : List Nat, (∀ n ∈ waiting, n ≤ mtu) →
      65535 * (lens.sum + waiting.sum) ≤
        65533 * packetsBytes mtu lens waiting + 131070 * (lens.length + waiting.length)
  | [], waiting, hw => by simpa [packetsBytes] using waitingBytes_ge hmtu hle hw
  | n :: ns, waiting, hw => by
    have hwait := waitingBytes_ge hmtu hle hw
    rw [packetsBytes, List.sum_cons, List.length_cons]
    split
    case isTrue =>
      have hn := naluBytes_ge hmtu hle n
      have ih := packetsBytes_ge hmtu hle ns [] (by simp)
      simp only [List.sum_nil, List.length_nil] at ih
      omega
    case isFalse hsmall =>
      split
      case isTrue =>
        have ih := packetsBytes_ge hmtu hle ns (waiting ++ [n]) (by
          intro m hm
          rcases List.mem_append.mp hm with hm | hm
          · exact hw m hm
          · rw [List.mem_singleton.mp hm]
            omega)
        simp only [List.sum_append, List.sum_singleton, List.length_append,
          List.length_singleton] at ih
        omega
      case isFalse =>
        have ih := packetsBytes_ge hmtu hle ns [n] (by
          intro m hm
          rw [List.mem_singleton.mp hm]
          omega)
        simp only [List.sum_singleton, List.length_singleton] at ih
        omega

theorem length_annexB_le : ∀ us : List AnnexBUnit,
    (annexB us).length ≤ (us.map fun u => u.nalu.length).sum + 4 * us.length
  | [] => by simp [annexB]
  | u :: us => by
    have ih := length_annexB_le us
    have hcode : (startCodeOf u.long).length ≤ 4 := by cases u.long <;> decide
    rw [annexB_cons, List.length_append, List.length_append, List.map_cons, List.sum_cons,
      List.length_cons]
    omega

theorem length_lt_of_frameBytes {mtu : Nat} (hmtu : 2 < mtu) (hle : mtu ≤ 65535)
    {us : List AnnexBUnit} (hcount : us.length ≤ 64)
    (hbytes : frameBytes mtu (us.map fun u => u.nalu.length) < 2 ^ 32) :
    (annexB us).length + 2 < 2 ^ 32 := by
  have hge := packetsBytes_ge hmtu hle (us.map fun u => u.nalu.length) [] (by simp)
  have hlen := length_annexB_le us
  rw [frameBytes] at hbytes
  simp only [List.length_map, List.sum_nil, List.length_nil] at hge
  omega

end KvsWebrtc.H264
