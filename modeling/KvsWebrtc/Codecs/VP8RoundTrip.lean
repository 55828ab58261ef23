import KvsWebrtc.Codecs.VP8

/-!
# Packetising and depacketising a VP8 frame

The payloads of a frame are its pieces, each behind a descriptor of one byte that marks the first
piece.  They carry the frame back, whatever the mtu, as long as they are shorter than `2^32` bytes
in total.  The mark is not read on the other side: every payload is reported as the start of a
frame, which is right for a frame of one payload and for no other.

Principal results:

* `payloadLoop_size`, `payloadLoop_write` — the two modes of the payloader against the pieces;
* `carriesBack_iff` — when the bytes of a frame come back;
* `vp8_round_trip_iff` — when the start of the frame is reported as well.
-/

namespace KvsWebrtc.VP8

open H264

/-! ## The payloads of a frame -/

/-- The byte before a piece; the first piece has the whole frame before it. -/
def descriptorOf (frame rest : Bytes) (_ : Nat) : Bytes :=
  [if rest.length = frame.length then VP8_PAYLOAD_DESCRIPTOR_START_OF_PARTITION_VALUE else 0]

def piecesFrom (mtu : Nat) (frame : Bytes) : Nat → Bytes → List Bytes :=
  fragmentsOf (mtu - 1) (descriptorOf frame)

def framePayloads (mtu : Nat) (frame : Bytes) : List Bytes :=
  piecesFrom mtu frame frame.length frame

theorem piecesFrom_cons {mtu : Nat} {frame rest : Bytes} (n : Nat) (h : rest.length ≠ 0) :
    piecesFrom mtu frame (n + 1) rest =
      ((if rest.length = frame.length then VP8_PAYLOAD_DESCRIPTOR_START_OF_PARTITION_VALUE else 0)
        :: rest.take (min (mtu - 1) rest.length)) ::
      piecesFrom mtu frame n (rest.drop (min (mtu - 1) rest.length)) := by
  simp only [piecesFrom, fragmentsOf, if_neg h, descriptorOf, List.singleton_append]

theorem piecesFrom_nil {mtu : Nat} {frame rest : Bytes} (n : Nat) (h : rest.length = 0) :
    piecesFrom mtu frame n rest = [] := by
  cases n <;> simp [piecesFrom, fragmentsOf, h]

section

variable {mtu : Nat} (hmtu : 2 ≤ mtu) (hle : mtu < 2 ^ 32) {frame : Bytes}

include hmtu in
theorem length_framePayloads (frame : Bytes) : (framePayloads mtu frame).flatten.length =
    frame.length + (frame.length + (mtu - 2)) / (mtu - 1) := by
  have h := @length_fragmentsOf 1 (mtu - 1) (descriptorOf frame) (fun _ _ => rfl) (by omega)
    frame.length frame (le_refl _)
  rw [Nat.sub_sub, Nat.one_mul] at h
  exact h

include hmtu in
theorem framePayloads_le (frame : Bytes) : ∀ p ∈ framePayloads mtu frame, p.length ≤ mtu := by
  intro p hp
  have h := @fragmentsOf_le 1 (mtu - 1) (descriptorOf frame) (fun _ _ => rfl) _ _ p hp
  omega

theorem count_framePayloads (frame : Bytes) :
    (framePayloads mtu frame).length ≤ (framePayloads mtu frame).flatten.length := by
  have h := @fragmentsOf_pos 1 (mtu - 1) (descriptorOf frame) (fun _ _ => rfl) (by decide)
    frame.length frame
  have hmap := List.length_le_sum_of_one_le ((framePayloads mtu frame).map List.length) (by
    intro k hk
    obtain ⟨p, hp, rfl⟩ := List.mem_map.mp hk
    exact h p hp)
  rw [List.length_map] at hmap
  rwa [List.length_flatten]

/-! ## The two calls -/

include hmtu in
theorem sub32_mtu : sub32 mtu VP8_PAYLOAD_DESCRIPTOR_SIZE = mtu - 1 :=
  sub32_of_le (Nat.le_of_succ_le hmtu)

include hmtu hle in
theorem payloadLoop_size : ∀ (n : Nat) (rest : Bytes) (a : PayloadArray), rest.length ≤ n →
    a.Sizing → payloadLoop mtu n rest a = .ok (a.grow (piecesFrom mtu frame n rest))
  | 0, rest, a, hn, ha => by
    rw [payloadLoop, if_pos (by omega), piecesFrom_nil 0 (by omega), ha.grow_nil]
  | n + 1, rest, a, hn, ha => by
    by_cases hrest : rest.length = 0
    · rw [payloadLoop, if_pos hrest, piecesFrom_nil _ hrest, ha.grow_nil]
    · have hroom := ha.1
      have hstep : payloadLoop mtu (n + 1) rest a = payloadLoop mtu n
          (rest.drop (min (mtu - 1) rest.length)) (a.grow
            [(if rest.length = frame.length then VP8_PAYLOAD_DESCRIPTOR_START_OF_PARTITION_VALUE
              else 0) :: rest.take (min (mtu - 1) rest.length)]) := by
        simp only [payloadLoop, if_neg hrest, hroom, sub32_mtu hmtu]
        congr 1
        simp [PayloadArray.grow, hroom]
      rw [hstep, payloadLoop_size n _ _ (by rw [List.length_drop]; omega) (ha.grow _),
        PayloadArray.grow_grow, piecesFrom_cons n hrest]
      rfl

/-- The array after these payloads were written. -/
def writtenArray (r : Room) (ps : List Bytes) : PayloadArray :=
  ⟨wrap32 ps.flatten.length, wrap32 ps.length, ps.flatten, ps.map List.length, some r⟩

include hmtu hle in
theorem payloadLoop_write {r : Room} (hr : r.Bounded) (b : PayloadArray) :
    ∀ (n : Nat) (rest : Bytes) (done : List Bytes), rest.length ≤ n → r.Fits done →
      rest.length ≤ frame.length → (done = [] ↔ rest.length = frame.length) →
      (payloadLoop mtu n rest (writtenArray r done) = .ok b ↔
        r.Fits (done ++ piecesFrom mtu frame n rest) ∧
          b = writtenArray r (done ++ piecesFrom mtu frame n rest))
  | 0, rest, done, hn, hfit, _, _ => by
    rw [payloadLoop, if_pos (by omega), piecesFrom_nil 0 (by omega), List.append_nil]
    simp [hfit, eq_comm]
  | n + 1, rest, done, hn, hfit, hrem, hfirst => by
    by_cases hrest : rest.length = 0
    · rw [payloadLoop, if_pos hrest, piecesFrom_nil _ hrest, List.append_nil]
      simp [hfit, eq_comm]
    · obtain ⟨cur, hcur⟩ : ∃ c, c = min (mtu - 1) rest.length := ⟨_, rfl⟩
      obtain ⟨p, hp⟩ : ∃ p, p = (if rest.length = frame.length then
        VP8_PAYLOAD_DESCRIPTOR_START_OF_PARTITION_VALUE else 0) :: rest.take cur := ⟨_, rfl⟩
      have hlen : p.length = cur + 1 := by
        rw [hp, List.length_cons, List.length_take, Nat.min_eq_left (by omega)]
      have htotal : (done ++ [p]).flatten.length = done.flatten.length + (cur + 1) := by
        simp [hlen]
      have hnum : (done ++ [p]).length = done.length + 1 := by simp
      rw [piecesFrom_cons n hrest, ← hcur, ← hp, List.append_cons done p]
      have hcount : wrap32 done.length = done.length :=
        wrap32_of_lt (lt_of_le_of_lt hfit.2 hr.2)
      have hmark : (wrap32 done.length = 0) = (rest.length = frame.length) := by
        rw [hcount, ← hfirst, List.length_eq_zero_iff]
      by_cases hnext : r.Fits (done ++ [p])
      · have hroom := hnext
        rw [Room.Fits, htotal, hnum] at hroom
        have hstep : payloadLoop mtu (n + 1) rest (writtenArray r done) =
            payloadLoop mtu n (rest.drop cur) (writtenArray r (done ++ [p])) := by
          simp only [payloadLoop, if_neg hrest, writtenArray, sub32_mtu hmtu, ← hcur,
            List.length_map, hmark]
          rw [if_pos hroom]
          congr 1
          have hw : wrap32 (cur + 1) = cur + 1 := wrap32_of_lt (by omega)
          simp [hp, hw, wrap32_wrap32_add, Nat.min_eq_left (show cur ≤ rest.length by omega)]
        rw [hstep]
        refine payloadLoop_write hr b n (rest.drop cur) (done ++ [p]) ?_ hnext ?_ ?_
        · rw [List.length_drop]
          omega
        · rw [List.length_drop]
          omega
        · rw [List.length_drop]
          simp
          omega
      · -- the piece does not fit, and no later one is tried
        have hstop : ¬ r.Fits (done ++ [p] ++ piecesFrom mtu frame n (rest.drop cur)) := by
          intro h
          exact hnext ((r.fits_append _ _).mp h).1
        rw [Room.Fits, htotal, hnum] at hnext
        simp only [hstop, false_and, iff_false, payloadLoop, if_neg hrest, writtenArray,
          sub32_mtu hmtu, ← hcur, List.length_map]
        rw [if_neg hnext]
        simp

/-! ## The depayloader on the pieces -/

/-- The two calls of the depayloader, for the size and into a buffer of this size. -/
def depayOne (p : Bytes) : Except Failure Bytes := do
  let size ← depayVP8FromRtpPayload p none
  let d ← depayVP8FromRtpPayload p (some size.vp8Length)
  return d.vp8Data

def depayAll : List Bytes → Except Failure Bytes
  | [] => return []
  | p :: ps => do return (← depayOne p) ++ (← depayAll ps)

def isStartOf (p : Bytes) : Except Failure Bool :=
  (depayVP8FromRtpPayload p none).map Depayed.isStart

theorem exists_piece_descriptor (isFirst : Prop) [Decidable isFirst] (part : Bytes) :
    ∃ d : Descriptor, (if isFirst then VP8_PAYLOAD_DESCRIPTOR_START_OF_PARTITION_VALUE else 0) ::
      part = d.bytes ++ part := by
  by_cases h : isFirst
  · exact ⟨⟨0x10, none⟩, by rw [if_pos h]; rfl⟩
  · exact ⟨⟨0, none⟩, by rw [if_neg h]; rfl⟩

theorem depayOne_complete (d : Descriptor) (data : Bytes) :
    depayOne (d.bytes ++ data) = .ok data := by
  obtain ⟨hsize, hcopy⟩ := depayVP8_complete d data data.length (le_refl _)
  simp only [depayOne, hsize, hcopy, bind, Except.bind, pure, Except.pure]

theorem isStartOf_complete (d : Descriptor) (data : Bytes) :
    isStartOf (d.bytes ++ data) = .ok true := by
  rw [isStartOf, (depayVP8_complete d data data.length (le_refl _)).1]
  rfl

include hmtu in
theorem depayAll_pieces : ∀ (n : Nat) (rest : Bytes), rest.length ≤ n →
    depayAll (piecesFrom mtu frame n rest) = .ok rest
  | 0, rest, hn => by
    rw [piecesFrom_nil 0 (by omega), List.length_eq_zero_iff.mp (by omega : rest.length = 0)]
    rfl
  | n + 1, rest, hn => by
    by_cases hrest : rest.length = 0
    · rw [piecesFrom_nil _ hrest, List.length_eq_zero_iff.mp hrest]
      rfl
    · obtain ⟨d, hd⟩ := exists_piece_descriptor (rest.length = frame.length)
        (rest.take (min (mtu - 1) rest.length))
      have ih := depayAll_pieces n (rest.drop (min (mtu - 1) rest.length)) (by
        rw [List.length_drop]
        omega)
      rw [piecesFrom_cons n hrest, hd, depayAll, depayOne_complete, ih]
      simp only [bind, Except.bind, pure, Except.pure, List.take_append_drop]

theorem isStartOf_pieces (n : Nat) (rest : Bytes) :
    ∀ p ∈ piecesFrom mtu frame n rest, isStartOf p = .ok true := by
  apply fragmentsOf_forall
  intro rest _
  obtain ⟨d, hd⟩ := exists_piece_descriptor (rest.length = frame.length)
    (rest.take (min (mtu - 1) rest.length))
  rw [descriptorOf, List.singleton_append, hd]
  exact isStartOf_complete d _

/-! ## Round trips -/

/-- The call for the sizes answers what the call with buffers of these sizes writes, every payload
is at most `mtu` bytes, and the depayloader gives the frame back. -/
def Carries (mtu : Nat) (frame : Bytes) (written : PayloadArray) : Prop :=
  ∃ size : PayloadArray,
    createPayloadForVP8 mtu frame none = .ok size ∧
    createPayloadForVP8 mtu frame (some size.asked) = .ok written ∧
    written.payloadLength = size.payloadLength ∧
    written.payloadSubLenSize = size.payloadSubLenSize ∧
    written.payloadBuffer.length = size.payloadLength ∧
    written.payloadSubLength.length = size.payloadSubLenSize ∧
    (∀ p ∈ written.payloads, p.length ≤ mtu) ∧
    depayAll written.payloads = .ok frame

/-- The first payload is reported as a start, and no other is. -/
def StartsOnce (payloads : List Bytes) : Prop :=
  ∃ p ps, payloads = p :: ps ∧ isStartOf p = .ok true ∧ ∀ q ∈ ps, isStartOf q = .ok false

def CarriesBack (mtu : Nat) (frame : Bytes) : Prop :=
  ∃ written, Carries mtu frame written

/-- The frame comes back, and so does its start. -/
def RoundTrips (mtu : Nat) (frame : Bytes) : Prop :=
  ∃ written, Carries mtu frame written ∧ StartsOnce written.payloads

theorem payloads_writtenArray (r : Room) (ps : List Bytes) : (writtenArray r ps).payloads = ps :=
  cutPayloads_flatten ps

include hmtu hle in
theorem createPayloadForVP8_size (frame : Bytes) : createPayloadForVP8 mtu frame none =
    .ok ((⟨0, 0, [], [], none⟩ : PayloadArray).grow (framePayloads mtu frame)) :=
  payloadLoop_size hmtu hle _ _ _ (le_refl _) ⟨rfl, by decide, by decide⟩

include hmtu hle in
theorem createPayloadForVP8_write {r : Room} (hr : r.Bounded) (frame : Bytes) (b : PayloadArray) :
    createPayloadForVP8 mtu frame (some r) = .ok b ↔
      r.Fits (framePayloads mtu frame) ∧ b = writtenArray r (framePayloads mtu frame) := by
  have h := @payloadLoop_write mtu hmtu hle frame r hr b frame.length frame [] (le_refl _)
    ⟨Nat.zero_le _, Nat.zero_le _⟩ (le_refl _) (by simp)
  exact h

include hmtu hle in
theorem carries_iff (frame : Bytes) (written : PayloadArray) : Carries mtu frame written ↔
    (framePayloads mtu frame).flatten.length < 2 ^ 32 ∧
      written = writtenArray ⟨(framePayloads mtu frame).flatten.length,
        (framePayloads mtu frame).length⟩ (framePayloads mtu frame) := by
  have hsize := createPayloadForVP8_size hmtu hle frame
  have hcount := @count_framePayloads mtu frame
  constructor
  · rintro ⟨size, hs, hw, -⟩
    rw [hsize] at hs
    obtain rfl := Except.ok.inj hs
    have hbounded : PayloadArray.asked ((⟨0, 0, [], [], none⟩ : PayloadArray).grow
        (framePayloads mtu frame)) |>.Bounded := ⟨wrap32_lt _, wrap32_lt _⟩
    obtain ⟨hfits, hb⟩ := (createPayloadForVP8_write hmtu hle hbounded frame written).mp hw
    have hlt : (framePayloads mtu frame).flatten.length < 2 ^ 32 :=
      lt_of_le_of_lt hfits.1 (wrap32_lt _)
    refine ⟨hlt, ?_⟩
    rw [hb]
    simp only [PayloadArray.asked, PayloadArray.grow, Nat.zero_add, wrap32_of_lt hlt,
      wrap32_of_lt (lt_of_le_of_lt hcount hlt)]
  · rintro ⟨hlt, rfl⟩
    have hlt' := lt_of_le_of_lt hcount hlt
    have hasked : PayloadArray.asked ((⟨0, 0, [], [], none⟩ : PayloadArray).grow
        (framePayloads mtu frame)) = ⟨(framePayloads mtu frame).flatten.length,
          (framePayloads mtu frame).length⟩ := by
      simp only [PayloadArray.asked, PayloadArray.grow, Nat.zero_add, wrap32_of_lt hlt,
        wrap32_of_lt hlt']
    refine ⟨_, hsize, ?_, ?_, ?_, ?_, ?_, ?_, ?_⟩
    · rw [hasked]
      exact (createPayloadForVP8_write hmtu hle ⟨hlt, hlt'⟩ frame _).mpr
        ⟨⟨le_refl _, le_refl _⟩, rfl⟩
    · simp [writtenArray, PayloadArray.grow]
    · simp [writtenArray, PayloadArray.grow]
    · exact (congrArg Room.maxPayloadLength hasked).symm
    · rw [writtenArray, List.length_map]
      exact (congrArg Room.maxPayloadSubLenSize hasked).symm
    · rw [payloads_writtenArray]
      exact framePayloads_le hmtu frame
    · rw [payloads_writtenArray]
      exact depayAll_pieces hmtu _ frame (le_refl _)

include hmtu hle in
theorem carriesBack_iff (frame : Bytes) : CarriesBack mtu frame ↔
    frame.length + (frame.length + (mtu - 2)) / (mtu - 1) < 2 ^ 32 := by
  rw [← length_framePayloads hmtu frame]
  constructor
  · rintro ⟨written, h⟩
    exact ((carries_iff hmtu hle frame written).mp h).1
  · intro h
    exact ⟨_, (carries_iff hmtu hle frame _).mpr ⟨h, rfl⟩⟩

theorem startsOnce_iff (frame : Bytes) :
    StartsOnce (framePayloads mtu frame) ↔ (framePayloads mtu frame).length = 1 := by
  have hall := @isStartOf_pieces mtu frame frame.length frame
  constructor
  · rintro ⟨p, ps, hps, -, hlater⟩
    cases ps with
    | nil => rw [hps]; rfl
    | cons q qs =>
      have hq : isStartOf q = .ok true := hall q (by
        change q ∈ framePayloads mtu frame
        rw [hps]
        simp)
      rw [hlater q (by simp)] at hq
      cases hq
  · intro h
    obtain ⟨p, hp⟩ := List.length_eq_one_iff.mp h
    refine ⟨p, [], hp, hall p ?_, by simp⟩
    change p ∈ framePayloads mtu frame
    rw [hp]
    simp

include hmtu in
theorem length_framePayloads_eq_one {frame : Bytes} (hne : frame ≠ []) :
    (framePayloads mtu frame).length = 1 ↔ frame.length + 1 ≤ mtu := by
  obtain ⟨n, hn⟩ : ∃ n, frame.length = n + 1 :=
    Nat.exists_eq_succ_of_ne_zero (fun h => hne (List.length_eq_zero_iff.mp h))
  have hpos : frame.length ≠ 0 := by omega
  have hcons := @piecesFrom_cons mtu frame frame n hpos
  rw [← hn] at hcons
  rw [framePayloads, hcons, List.length_cons]
  constructor
  · intro h
    by_contra hlong
    have hrest : (frame.drop (min (mtu - 1) frame.length)).length ≠ 0 := by
      rw [List.length_drop]
      omega
    cases n with
    | zero => omega
    | succ n =>
      rw [piecesFrom_cons n hrest] at h
      simp at h
  · intro h
    rw [piecesFrom_nil n (by rw [List.length_drop]; omega)]
    rfl

include hmtu hle in
theorem roundTrips_iff {frame : Bytes} (hne : frame ≠ []) :
    RoundTrips mtu frame ↔ frame.length + 1 ≤ mtu := by
  rw [← length_framePayloads_eq_one hmtu hne]
  constructor
  · rintro ⟨written, hcarries, hstarts⟩
    obtain ⟨-, rfl⟩ := (carries_iff hmtu hle frame written).mp hcarries
    rw [payloads_writtenArray] at hstarts
    exact (startsOnce_iff frame).mp hstarts
  · intro h
    have hshort := (length_framePayloads_eq_one hmtu hne).mp h
    have htotal : (framePayloads mtu frame).flatten.length < 2 ^ 32 := by
      obtain ⟨p, hp⟩ := List.length_eq_one_iff.mp h
      have hmem : p ∈ framePayloads mtu frame := by
        rw [hp]
        exact List.mem_singleton_self p
      have := framePayloads_le hmtu frame p hmem
      rw [hp, List.flatten_singleton]
      omega
    refine ⟨_, (carries_iff hmtu hle frame _).mpr ⟨htotal, rfl⟩, ?_⟩
    rw [payloads_writtenArray]
    exact (startsOnce_iff frame).mpr h

end

/-- **VP8 round trip.**  A frame and the start of it come back if and only if the frame fits one
payload; the frame alone comes back if its payloads are shorter than `2^32` bytes in total; and the
depayloader answers exactly what follows a complete descriptor. -/
theorem vp8_round_trip_iff (mtu : Nat) (hmtu : 2 ≤ mtu ∧ mtu < 2 ^ 32) (frame : Bytes)
    (hne : frame ≠ []) :
    (RoundTrips mtu frame ↔ frame.length + 1 ≤ mtu) ∧
      (CarriesBack mtu frame ↔
        frame.length + (frame.length + (mtu - 2)) / (mtu - 1) < 2 ^ 32) ∧
      ∀ (d : Descriptor) (data : Bytes) (capacity : Nat), data.length ≤ capacity →
        depayVP8FromRtpPayload (d.bytes ++ data) none = .ok ⟨data.length, [], true⟩ ∧
          depayVP8FromRtpPayload (d.bytes ++ data) (some capacity) =
            .ok ⟨data.length, data, true⟩ :=
  ⟨roundTrips_iff hmtu.1 hmtu.2 hne, carriesBack_iff hmtu.1 hmtu.2 frame, depayVP8_complete⟩

theorem short_frame_round_trips : RoundTrips 4 [0x9D, 0x01, 0x2A] :=
  (vp8_round_trip_iff 4 (by decide) [0x9D, 0x01, 0x2A] (by decide)).1.mpr (by decide)

/-- A frame of two payloads, and both are reported as its start. -/
theorem second_payload_starts : ¬ RoundTrips 2 [0x9D, 0x01] := by
  intro h
  have := (roundTrips_iff (by decide) (by decide) (by decide)).mp h
  exact absurd this (by decide)

end KvsWebrtc.VP8
