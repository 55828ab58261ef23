import KvsWebrtc.Rtp.Receiver
import Mathlib.Data.Int.Interval
import Mathlib.Data.Int.ModEq
import Mathlib.Data.List.Induction

/-!
# What `packetsLost` counts

A stream is a list of packets with their extended sequence numbers, which are integers: the first
packet lies in cycle 0 of the receiver, and a packet of the cycle before it has a smaller number.
`Track` is what a receiver with unbounded numbers would remember, and `Follows` says that the code's
16 and 32 bit fields hold the same.

* `packetsLost_counts_missing_iff` — for every stream that stays within the jump limits, the loss
  after every packet is the number of missing numbers exactly when each packet is `Countable` where
  it arrives: a new lowest number is fewer than `MAX_MISORDER` behind and not before cycle 0, a
  packet exactly `MAX_MISORDER` behind does not follow another such one, and the span of the
  numbers fits 32 bits.
-/

namespace KvsWebrtc.Rtp

variable {J : Type}

/-! ## Streams -/

/-- A packet and the extended sequence number its 16 bits come from. -/
structure NumberedPacket where
  extSeq : Int
  packet : InboundRtpPacket
  sequenceNumber_eq : packet.header.sequenceNumber = BitVec.ofInt 16 extSeq

/-- The lowest and the highest number received, and the last number that arrived exactly
`MAX_MISORDER` behind the highest. -/
structure Track where
  lo : Int
  hi : Int
  far : Option Int
  deriving DecidableEq, Repr

def Track.next (s : Track) (e : Int) : Track where
  lo := min s.lo e
  hi := max s.hi e
  far := if s.hi - e = MAX_MISORDER then some e else s.far

def Track.after (first : Int) (es : List Int) : Track :=
  es.foldl Track.next ⟨first, first, none⟩

@[simp] theorem Track.after_nil (first : Int) : Track.after first [] = ⟨first, first, none⟩ := rfl

@[simp] theorem Track.after_concat (first : Int) (es : List Int) (e : Int) :
    Track.after first (es ++ [e]) = (Track.after first es).next e := by
  simp [Track.after]

/-- The number at which the receiver's cycle 0 starts. -/
def cycleStart (first : Int) : Int := first - first % RTP_SEQ_MOD

/-- The numbers of a stream are distinct, each is fewer than `MAX_DROPOUT` ahead of and at most
`MAX_MISORDER` behind the highest before it, and there are fewer than 2^16 cycles. -/
structure WithinJumps (first : Int) (es : List Int) : Prop where
  distinct : (first :: es).Nodup
  near : ∀ p e, p ++ [e] <+: es → e < (Track.after first p).hi + MAX_DROPOUT ∧
    (Track.after first p).hi - MAX_MISORDER ≤ e
  cycles : ∀ e ∈ es, e < cycleStart first + 2 ^ 32

/-- How many numbers between the lowest and the highest received are missing. -/
def missing (first : Int) (es : List Int) : Nat :=
  ((@Finset.Icc Int _ Int.instLocallyFiniteOrder (Track.after first es).lo
    (Track.after first es).hi).filter (fun e => e ∉ first :: es)).card

/-- The arrival of `e` after `s` is one the code's arithmetic can follow. -/
structure Countable (start : Int) (s : Track) (e : Int) : Prop where
  /-- A new lowest number is close enough, and not from the cycle before the first packet's. -/
  lowest : e < s.lo → s.hi - e < MAX_MISORDER ∧ start ≤ e
  /-- It does not look like the second packet of a restarted stream. -/
  noRestart : s.hi - e = MAX_MISORDER → ∀ f ∈ s.far, ¬ e ≡ f + 1 [ZMOD RTP_SEQ_MOD]
  /-- The number of expected packets fits 32 bits. -/
  span : max s.hi e - min s.lo e + 1 < 2 ^ 32

/-! ## The numbers received -/

theorem Track.after_bounds (first : Int) (es : List Int) :
    ∀ e ∈ first :: es, (Track.after first es).lo ≤ e ∧ e ≤ (Track.after first es).hi := by
  induction es using List.reverseRecOn with
  | nil => simp
  | append_singleton es x ih =>
    intro e he
    rw [Track.after_concat]
    simp only [Track.next]
    rw [← List.cons_append, List.mem_append, List.mem_singleton] at he
    obtain he | rfl := he
    · have := ih e he
      omega
    · omega

theorem Track.after_hi_mem (first : Int) (es : List Int) :
    (Track.after first es).hi ∈ first :: es := by
  induction es using List.reverseRecOn with
  | nil => exact List.mem_singleton.mpr rfl
  | append_singleton es x ih =>
    rw [Track.after_concat, ← List.cons_append, List.mem_append, List.mem_singleton]
    simp only [Track.next]
    rcases max_choice (Track.after first es).hi x with h | h
    · rw [h]
      exact .inl ih
    · exact .inr h

theorem missing_eq {first : Int} {es : List Int} (hd : (first :: es).Nodup) :
    (missing first es : Int) =
      (Track.after first es).hi - (Track.after first es).lo + 1 - (es.length + 1) := by
  have hb := Track.after_bounds first es
  have hsub : (first :: es).toFinset ⊆
      Finset.Icc (Track.after first es).lo (Track.after first es).hi := by
    intro e he
    rw [Finset.mem_Icc]
    exact hb e (List.mem_toFinset.mp he)
  have hf := hb first List.mem_cons_self
  have heq : (Finset.Icc (Track.after first es).lo (Track.after first es).hi).filter
      (fun e => e ∉ first :: es) =
      Finset.Icc (Track.after first es).lo (Track.after first es).hi \ (first :: es).toFinset := by
    ext e
    simp only [Finset.mem_filter, Finset.mem_sdiff, List.mem_toFinset]
  have hcard := Finset.card_sdiff_add_card_eq_card hsub
  rw [List.toFinset_card_of_nodup hd, Int.card_Icc, List.length_cons] at hcard
  unfold missing
  rw [heq]
  omega

/-! ## The code's fields -/

/-- The fields of the sequence number state hold what the tracker remembers. -/
structure Follows (start : Int) (s : Track) (r : RrSeq) : Prop where
  initialized : r.rrSeqInitialized = true
  aligned : start % 65536 = 0
  maxSeq : (r.rrMaxSeq.toNat : Int) = s.hi % 65536
  extSeq : (r.rrCycles.toNat : Int) + r.rrMaxSeq.toNat = s.hi - start
  baseSeq : (r.rrBaseSeq.toNat : Int) = s.lo - start
  badSeq : (r.rrBadSeq.toNat : Int) = match s.far with
    | none => 65536 + 1
    | some f => (f + 1) % 65536
  lo_le : s.lo ≤ s.hi
  lo_lt : s.lo - start < 65536
  hi_lt : s.hi - start < 2 ^ 32
  span : s.hi - s.lo + 1 < 2 ^ 32

theorem toNat_ofInt16 (e : Int) : ((BitVec.ofInt 16 e).toNat : Int) = e % 65536 := by
  rw [BitVec.toNat_ofInt]
  omega

theorem expected_toNat {start : Int} {s : Track} {r : RrSeq} (h : Follows start s r) :
    (r.expected.toNat : Int) = s.hi - s.lo + 1 := by
  obtain ⟨-, -, hm, he, hb, -, h1, h2, h3, h4⟩ := h
  have hc := r.rrCycles.isLt
  have hx := r.rrMaxSeq.isLt
  have hy := r.rrBaseSeq.isLt
  have one : (1 : UINT32).toNat = 1 := rfl
  unfold RrSeq.expected RrSeq.extMax
  simp only [BitVec.toNat_add, BitVec.toNat_sub, BitVec.zeroExtend, BitVec.toNat_setWidth]
  omega

theorem follows_init (first : Int) :
    Follows (cycleStart first) ⟨first, first, none⟩ (rrInitSeq (BitVec.ofInt 16 first)) := by
  have hs := toNat_ofInt16 first
  have hlt := (BitVec.ofInt 16 first).isLt
  simp only [cycleStart, RTP_SEQ_MOD, Nat.cast_ofNat]
  have zero : (0 : UINT32).toNat = 0 := rfl
  refine ⟨rfl, by omega, hs, ?_, ?_, rfl, le_rfl, by dsimp only; omega,
    by dsimp only; omega, by dsimp only; omega⟩
  · simp only [rrInitSeq]
    omega
  · simp only [rrInitSeq, BitVec.zeroExtend, BitVec.toNat_setWidth]
    omega

theorem toNat_sub16 (a b : UINT16) :
    ((a - b).toNat : Int) = ((a.toNat : Int) - b.toNat) % 65536 := by
  have := a.isLt
  have := b.isLt
  rw [BitVec.toNat_sub]
  omega

theorem rrUpdateSeq_ahead {start : Int} {s : Track} {r : RrSeq} {e : Int} (h : Follows start s r)
    (hlt : s.hi < e) (hd : e < s.hi + 3000) (hc : e < start + 2 ^ 32)
    (hspan : e - s.lo + 1 < 2 ^ 32) :
    Follows start (s.next e) (rrUpdateSeq r (BitVec.ofInt 16 e)) := by
  obtain ⟨hi, ha, hm, he, hb, hbad, h1, h2, h3, h4⟩ := h
  have hseq := toNat_ofInt16 e
  have hdelta := toNat_sub16 (BitVec.ofInt 16 e) r.rrMaxSeq
  have hcy := r.rrCycles.isLt
  have hmod : (65536#32).toNat = 65536 := rfl
  have hnext : s.next e = ⟨s.lo, e, s.far⟩ := by
    unfold Track.next
    rw [min_eq_left (by omega), max_eq_right (by omega),
      if_neg (by simp only [MAX_MISORDER]; omega)]
  have hbranch : (BitVec.ofInt 16 e - r.rrMaxSeq).toNat < MAX_DROPOUT := by
    simp only [MAX_DROPOUT]
    omega
  rw [hnext]
  unfold rrUpdateSeq
  rw [if_pos hbranch]
  refine ⟨hi, ha, hseq, ?_, hb, hbad, by dsimp only; omega, h2, by dsimp only; omega, hspan⟩
  dsimp only
  split
  · rw [BitVec.toNat_add]
    simp only [RTP_SEQ_MOD]
    omega
  · omega

theorem rrUpdateSeq_far {start : Int} {s : Track} {r : RrSeq} {e : Int} (h : Follows start s r)
    (hfar : s.hi - e = 100) :
    rrUpdateSeq r (BitVec.ofInt 16 e) =
      if ∃ f ∈ s.far, e ≡ f + 1 [ZMOD 65536] then rrInitSeq (BitVec.ofInt 16 e)
      else { r with rrBadSeq := ((BitVec.ofInt 16 e).zeroExtend 32 + 1) &&& 65535#32 } := by
  obtain ⟨hi, ha, hm, he, hb, hbad, h1, h2, h3, h4⟩ := h
  have hseq := toNat_ofInt16 e
  have hdelta := toNat_sub16 (BitVec.ofInt 16 e) r.rrMaxSeq
  have hbad' : (BitVec.ofInt 16 e).zeroExtend 32 = r.rrBadSeq ↔
      ∃ f ∈ s.far, e ≡ f + 1 [ZMOD 65536] := by
    rw [← BitVec.toNat_inj, BitVec.zeroExtend, BitVec.toNat_setWidth]
    unfold Int.ModEq
    cases hf : s.far with
    | none =>
      rw [hf] at hbad
      dsimp only at hbad
      constructor
      · intro heq
        omega
      · rintro ⟨f, hmem, -⟩
        cases hmem
    | some f =>
      rw [hf] at hbad
      dsimp only at hbad
      constructor
      · intro heq
        exact ⟨f, rfl, by omega⟩
      · rintro ⟨g, hmem, hg⟩
        cases hmem
        omega
  unfold rrUpdateSeq
  rw [if_neg (by simp only [MAX_DROPOUT]; omega),
    if_pos (by simp only [RTP_SEQ_MOD, MAX_MISORDER]; omega)]
  simp only [hbad', RTP_SEQ_MOD]

theorem rrUpdateSeq_late {start : Int} {s : Track} {r : RrSeq} {e : Int} (h : Follows start s r)
    (hlt : e < s.hi) (hd : s.hi - e < 100) :
    rrUpdateSeq r (BitVec.ofInt 16 e) =
      if start ≤ e ∧ e < s.lo then { r with rrBaseSeq := BitVec.ofInt 32 (e - start) } else r := by
  obtain ⟨hi, ha, hm, he, hb, hbad, h1, h2, h3, h4⟩ := h
  have hseq := toNat_ofInt16 e
  have hdelta := toNat_sub16 (BitVec.ofInt 16 e) r.rrMaxSeq
  have hback := toNat_sub16 r.rrMaxSeq (BitVec.ofInt 16 e)
  have hcy := r.rrCycles.isLt
  have hext : r.rrCycles + r.rrMaxSeq.zeroExtend 32 -
      (r.rrMaxSeq - BitVec.ofInt 16 e).zeroExtend 32 = BitVec.ofInt 32 (e - start) := by
    apply BitVec.eq_of_toNat_eq
    simp only [BitVec.toNat_add, BitVec.toNat_sub r.rrMaxSeq, BitVec.toNat_sub (n := 32),
      BitVec.zeroExtend, BitVec.toNat_setWidth, BitVec.toNat_ofInt]
    omega
  have hextNat : ((BitVec.ofInt 32 (e - start)).toNat : Int) = (e - start) % 2 ^ 32 := by
    rw [BitVec.toNat_ofInt]
    omega
  unfold rrUpdateSeq
  dsimp only
  rw [if_neg (by simp only [MAX_DROPOUT]; omega),
    if_neg (by simp only [RTP_SEQ_MOD, MAX_MISORDER]; omega), hext]
  congr 1
  rw [eq_iff_iff]
  omega

/-! ## One packet -/

theorem packetsLost_eq (r : RrSeq) {received : UINT64} {n : Nat} (hn : n < 2 ^ 62)
    (h : received = BitVec.ofNat 64 n) : packetsLost r received = r.expected.toNat - n := by
  have hlt : 2 * received.toNat < 2 ^ 64 := by
    rw [h, BitVec.toNat_ofNat]
    omega
  unfold packetsLost
  rw [BitVec.toInt_eq_toNat_of_lt hlt, h, BitVec.toNat_ofNat, Nat.mod_eq_of_lt (by omega)]

theorem rrInitSeq_expected (seq : UINT16) : (rrInitSeq seq).expected.toNat = 1 := by
  have hone : (rrInitSeq seq).expected = 1 := by
    simp [RrSeq.expected, RrSeq.extMax, rrInitSeq]
  rw [hone]
  rfl

theorem and_65535 (x : UINT32) : (x &&& 65535#32).toNat = x.toNat % 65536 := by
  rw [BitVec.toNat_and]
  exact Nat.and_two_pow_sub_one_eq_mod x.toNat 16

theorem Follows.step {start : Int} {s : Track} {r : RrSeq} {e : Int} (h : Follows start s r)
    (hne : e ≠ s.hi) (hd : e < s.hi + MAX_DROPOUT) (hm : s.hi - MAX_MISORDER ≤ e)
    (hc : e < start + 2 ^ 32) (hk : Countable start s e) :
    Follows start (s.next e) (rrUpdateSeq r (BitVec.ofInt 16 e)) := by
  obtain ⟨hlow, hrestart, hspan⟩ := hk
  simp only [MAX_DROPOUT, MAX_MISORDER, RTP_SEQ_MOD, Nat.cast_ofNat] at hd hm hlow hrestart
  by_cases hlt : s.hi < e
  · exact rrUpdateSeq_ahead h hlt hd hc (by omega)
  by_cases hfar : s.hi - e = 100
  · -- taken for a jump: only the bad number is remembered, and the base was low enough
    have hno : ¬ ∃ f ∈ s.far, e ≡ f + 1 [ZMOD 65536] := by
      rintro ⟨f, hmem, hf⟩
      exact hrestart hfar f hmem hf
    have hlo : s.lo ≤ e := by
      by_contra hlo
      have := hlow (by omega)
      omega
    have hnext : s.next e = ⟨s.lo, s.hi, some e⟩ := by
      unfold Track.next
      rw [min_eq_left hlo, max_eq_left (by omega), if_pos (by simp only [MAX_MISORDER]; omega)]
    have hseq := toNat_ofInt16 e
    have hone : (1 : UINT32).toNat = 1 := rfl
    rw [hnext, rrUpdateSeq_far h hfar, if_neg hno]
    refine ⟨h.initialized, h.aligned, h.maxSeq, h.extSeq, h.baseSeq, ?_, h.lo_le, h.lo_lt, h.hi_lt,
      h.span⟩
    dsimp only
    rw [and_65535, BitVec.toNat_add, BitVec.zeroExtend, BitVec.toNat_setWidth]
    omega
  · have hnext : s.next e = ⟨min s.lo e, s.hi, s.far⟩ := by
      unfold Track.next
      rw [max_eq_left (by omega), if_neg (by simp only [MAX_MISORDER]; omega)]
    have hb := h.baseSeq
    have h1 := h.lo_le
    have h2 := h.lo_lt
    rw [hnext, rrUpdateSeq_late h (by omega) (by omega)]
    split
    · rename_i hlo
      rw [min_eq_right (by omega)]
      refine ⟨h.initialized, h.aligned, h.maxSeq, h.extSeq, ?_, h.badSeq, by dsimp only; omega,
        by dsimp only; omega, h.hi_lt, by dsimp only; omega⟩
      dsimp only
      rw [BitVec.toNat_ofInt]
      omega
    · rename_i hlo
      rw [min_eq_left (by omega)]
      exact ⟨h.initialized, h.aligned, h.maxSeq, h.extSeq, h.baseSeq, h.badSeq, h.lo_le, h.lo_lt,
        h.hi_lt, h.span⟩

theorem Follows.expected_ne {start : Int} {s : Track} {r : RrSeq} {e : Int} (h : Follows start s r)
    (hd : e < s.hi + MAX_DROPOUT) (hm : s.hi - MAX_MISORDER ≤ e)
    (hc : e < start + 2 ^ 32) (hk : ¬ Countable start s e) :
    ((rrUpdateSeq r (BitVec.ofInt 16 e)).expected.toNat : Int) <
      (s.next e).hi - (s.next e).lo + 1 := by
  have hexp := expected_toNat h
  have hb := h.baseSeq
  have h1 := h.lo_le
  have h2 := h.lo_lt
  have h4 := h.span
  simp only [Track.next]
  simp only [MAX_DROPOUT, MAX_MISORDER, Nat.cast_ofNat] at hd hm
  by_cases hlt : s.hi < e
  · -- only the span is left, and it is a full turn of 32 bits
    have hturn : e - s.lo + 1 = 2 ^ 32 := by
      by_contra hturn
      apply hk
      refine ⟨fun hlo => by omega, fun hfar => ?_, by omega⟩
      omega
    have hlt := (rrUpdateSeq r (BitVec.ofInt 16 e)).expected.isLt
    omega
  by_cases hfar : s.hi - e = 100
  · rw [rrUpdateSeq_far h hfar]
    split
    · rw [rrInitSeq_expected]
      omega
    · rename_i hno
      have hlo : e < s.lo := by
        by_contra hlo
        apply hk
        refine ⟨fun h' => absurd h' hlo, fun _ f hmem hf => hno ⟨f, hmem, hf⟩, by omega⟩
      have hsame : ({ r with rrBadSeq := ((BitVec.ofInt 16 e).zeroExtend 32 + 1) &&& 65535#32 } :
          RrSeq).expected = r.expected := rfl
      rw [hsame]
      omega
  · have hlo : e < s.lo ∧ e < start := by
      by_contra hlo
      apply hk
      refine ⟨fun h' => ?_, fun hfar' => ?_, by omega⟩
      · simp only [MAX_MISORDER, Nat.cast_ofNat]
        omega
      · simp only [MAX_MISORDER, Nat.cast_ofNat] at hfar'
        omega
    rw [rrUpdateSeq_late h (by omega) (by omega), if_neg (by omega)]
    omega

/-! ## A stream -/

section Stream

variable (ops : ReceiveOps J) {t : InboundTransceiver J} {first : NumberedPacket}
  {rest : List NumberedPacket}

/-- The numbers of a stream. -/
def exts (ps : List NumberedPacket) : List Int := ps.map (·.extSeq)

/-- The receiver after the first packet and `p`. -/
def received (t : InboundTransceiver J) (first : NumberedPacket) (p : List NumberedPacket) :
    InboundTransceiver J :=
  receiveAll ops t ((first :: p).map (·.packet))

theorem received_nil :
    received ops t first [] = transceiverOnRtpPacketReceived ops t first.packet := rfl

theorem received_concat (p : List NumberedPacket) (x : NumberedPacket) :
    received ops t first (p ++ [x]) =
      transceiverOnRtpPacketReceived ops (received ops t first p) x.packet := by
  unfold received
  rw [← List.cons_append, List.map_append]
  exact receiveAll_concat ops t _ _

theorem exts_concat (p : List NumberedPacket) (x : NumberedPacket) :
    exts (p ++ [x]) = exts p ++ [x.extSeq] := by
  simp [exts]

theorem length_exts (p : List NumberedPacket) : (exts p).length = p.length := by
  simp [exts]

theorem received_packetsReceived (h0 : t.inboundStats.packetsReceived = 0)
    (p : List NumberedPacket) :
    (received ops t first p).inboundStats.packetsReceived = BitVec.ofNat 64 (p.length + 1) := by
  induction p using List.reverseRecOn with
  | nil =>
    rw [received_nil, transceiverOnRtpPacketReceived_packetsReceived, h0]
    rfl
  | append_singleton p x ih =>
    rw [received_concat, transceiverOnRtpPacketReceived_packetsReceived, ih, List.length_append,
      List.length_singleton]
    exact (BitVec.ofNat_add (p.length + 1) 1).symm

theorem received_packetsLost (h0 : t.inboundStats.packetsReceived = 0)
    (p : List NumberedPacket) :
    (received ops t first p).inboundStats.packetsLost =
      packetsLost (received ops t first p).toRrSeq (BitVec.ofNat 64 (p.length + 1)) := by
  rw [← received_packetsReceived ops h0 p]
  cases p using List.reverseRecOn with
  | nil =>
    rw [received_nil]
    exact transceiverOnRtpPacketReceived_packetsLost ops t first.packet
  | append_singleton p x =>
    rw [received_concat]
    exact transceiverOnRtpPacketReceived_packetsLost ops _ x.packet

theorem WithinJumps.at (h : WithinJumps first.extSeq (exts rest)) {p : List NumberedPacket}
    {x : NumberedPacket} (hp : p ++ [x] <+: rest) :
    (first.extSeq :: exts p).Nodup ∧ x.extSeq ≠ (Track.after first.extSeq (exts p)).hi ∧
      x.extSeq < (Track.after first.extSeq (exts p)).hi + MAX_DROPOUT ∧
      (Track.after first.extSeq (exts p)).hi - MAX_MISORDER ≤ x.extSeq ∧
      x.extSeq < cycleStart first.extSeq + 2 ^ 32 := by
  have hpre : exts p ++ [x.extSeq] <+: exts rest := by
    rw [← exts_concat]
    exact hp.map NumberedPacket.extSeq
  have hnodup : (first.extSeq :: (exts p ++ [x.extSeq])).Nodup :=
    h.distinct.sublist (List.Sublist.cons_cons _ hpre.sublist)
  have hnear := h.near (exts p) x.extSeq hpre
  have hcycles := h.cycles x.extSeq (hpre.subset (by simp))
  rw [← List.cons_append, List.nodup_append] at hnodup
  obtain ⟨hn, -, hdisj⟩ := hnodup
  refine ⟨hn, ?_, hnear.1, hnear.2, hcycles⟩
  intro heq
  exact hdisj _ (Track.after_hi_mem first.extSeq (exts p)) x.extSeq (List.mem_singleton_self _)
    heq.symm

theorem follows_received (hfresh : t.rrSeqInitialized = false)
    (hw : WithinJumps first.extSeq (exts rest)) :
    ∀ p, p <+: rest → (∀ q x, q ++ [x] <+: p →
      Countable (cycleStart first.extSeq) (Track.after first.extSeq (exts q)) x.extSeq) →
    Follows (cycleStart first.extSeq) (Track.after first.extSeq (exts p))
      (received ops t first p).toRrSeq := by
  intro p
  induction p using List.reverseRecOn with
  | nil =>
    intro _ _
    rw [received_nil, transceiverOnRtpPacketReceived_toRrSeq, hfresh, first.sequenceNumber_eq]
    exact follows_init first.extSeq
  | append_singleton p x ih =>
    intro hp hk
    obtain ⟨-, hne, hd, hm, hc⟩ := hw.at hp
    have hpre : p <+: p ++ [x] := List.prefix_append p [x]
    have hf := ih (hpre.trans hp) (fun q y hq => hk q y (hq.trans hpre))
    rw [received_concat, transceiverOnRtpPacketReceived_toRrSeq, hf.initialized, if_pos rfl,
      x.sequenceNumber_eq, exts_concat, Track.after_concat]
    exact hf.step hne hd hm hc (hk p x (List.prefix_refl _))

theorem WithinJumps.nodup (h : WithinJumps first.extSeq (exts rest)) {p : List NumberedPacket}
    (hp : p <+: rest) : (first.extSeq :: exts p).Nodup := by
  have hpre : exts p <+: exts rest := hp.map NumberedPacket.extSeq
  exact h.distinct.sublist (List.Sublist.cons_cons _ hpre.sublist)

theorem WithinJumps.length_lt (h : WithinJumps first.extSeq (exts rest)) {p : List NumberedPacket}
    (hp : p <+: rest) {r : RrSeq}
    (hf : Follows (cycleStart first.extSeq) (Track.after first.extSeq (exts p)) r) :
    p.length + 1 < 2 ^ 32 := by
  have hm := missing_eq (h.nodup hp)
  have hs := hf.span
  rw [length_exts] at hm
  omega

/-- **Loss counting.**  In every stream within the limits, `packetsLost` is the number of missing
packets after every packet exactly when every packet is countable where it arrives. -/
theorem packetsLost_counts_missing_iff (t : InboundTransceiver J) (first : NumberedPacket)
    (rest : List NumberedPacket) (hfresh : t.rrSeqInitialized = false)
    (hzero : t.inboundStats.packetsReceived = 0) (hw : WithinJumps first.extSeq (exts rest)) :
    (∀ p, p <+: rest →
      (received ops t first p).inboundStats.packetsLost = missing first.extSeq (exts p)) ↔
    ∀ p x, p ++ [x] <+: rest →
      Countable (cycleStart first.extSeq) (Track.after first.extSeq (exts p)) x.extSeq := by
  constructor
  · intro hlost
    have hall : ∀ p, p <+: rest → ∀ q x, q ++ [x] <+: p →
        Countable (cycleStart first.extSeq) (Track.after first.extSeq (exts q)) x.extSeq := by
      intro p
      induction p using List.reverseRecOn with
      | nil =>
        intro _ q x hq
        simp at hq
      | append_singleton p y ih =>
        intro hp q x hq
        have hpre : p <+: rest := (List.prefix_append p [y]).trans hp
        rcases List.prefix_concat_iff.mp hq with heq | hq
        · obtain ⟨rfl, hxy⟩ := List.append_inj' heq rfl
          obtain rfl : x = y := by simpa using hxy
          by_contra hk
          obtain ⟨hn, hne, hd, hm, hc⟩ := hw.at hp
          have hf := follows_received ops hfresh hw q hpre (ih hpre)
          have hlen := hw.length_lt hpre hf
          have hlow := hf.expected_ne hd hm hc hk
          have htrue := hlost _ hp
          rw [received_packetsLost ops hzero, packetsLost_eq _ (by simp; omega) rfl,
            missing_eq (hw.nodup hp), length_exts, received_concat,
            transceiverOnRtpPacketReceived_toRrSeq, hf.initialized, if_pos rfl,
            x.sequenceNumber_eq, exts_concat, Track.after_concat] at htrue
          omega
        · exact ih hpre q x hq
    intro p x hp
    exact hall rest (List.prefix_refl _) p x hp
  · intro hk p hp
    have hf := follows_received ops hfresh hw p hp (fun q x hq => hk q x (hq.trans hp))
    have hlen := hw.length_lt hp hf
    rw [received_packetsLost ops hzero, packetsLost_eq _ (by omega) rfl, expected_toNat hf,
      missing_eq (hw.nodup hp), length_exts]
    omega

end Stream

/-! ## Sample streams -/

theorem concat_prefix_cons {α : Type} {p : List α} {x a : α} {l : List α}
    (h : p ++ [x] <+: a :: l) : p = [] ∧ x = a ∨ ∃ q, p = a :: q ∧ q ++ [x] <+: l := by
  cases p with
  | nil =>
    left
    exact ⟨rfl, (List.cons_prefix_cons.mp h).1⟩
  | cons b q =>
    right
    obtain ⟨rfl, hq⟩ := List.cons_prefix_cons.mp h
    exact ⟨q, rfl, hq⟩

theorem not_concat_prefix_nil {α : Type} {p : List α} {x : α} : ¬ p ++ [x] <+: [] := by
  simp

theorem withinJumps_three {a b c : Int} (hd : [a, b, c].Nodup)
    (hb : b < a + MAX_DROPOUT ∧ a - MAX_MISORDER ≤ b)
    (hc : c < max a b + MAX_DROPOUT ∧ max a b - MAX_MISORDER ≤ c)
    (hcycles : b < cycleStart a + 2 ^ 32 ∧ c < cycleStart a + 2 ^ 32) :
    WithinJumps a [b, c] := by
  refine ⟨hd, ?_, ?_⟩
  · intro p e hp
    rcases concat_prefix_cons hp with ⟨rfl, rfl⟩ | ⟨q, rfl, hq⟩
    · exact hb
    · rcases concat_prefix_cons hq with ⟨rfl, rfl⟩ | ⟨q, rfl, hnil⟩
      · exact hc
      · exact absurd hnil not_concat_prefix_nil
  · intro e he
    simp only [List.mem_cons, List.not_mem_nil, or_false] at he
    rcases he with rfl | rfl
    · exact hcycles.1
    · exact hcycles.2

/-- A jitter buffer that takes everything. -/
def acceptAll : ReceiveOps Unit where
  push _ _ := (true, false, ())
  splitRed _ _ := none

def newInbound : InboundTransceiver Unit where
  rrMaxSeq := 0
  rrCycles := 0
  rrBaseSeq := 0
  rrBadSeq := 0
  rrExpectedPrior := 0
  rrReceivedPrior := 0
  rrSeqInitialized := false
  pJitterBuffer := ()
  inboundStats := ⟨0, 0, 0, 0, 0, 0, 0, 0, 0⟩
  receiverRedPayloadType := 0
  receiverOpusPayloadType := 0

def plainPacket (e : Int) : NumberedPacket where
  extSeq := e
  packet := {
    header := {
      version := 2, padding := false, extension := false, marker := false, payloadType := 96,
      sequenceNumber := BitVec.ofInt 16 e, timestamp := 0, ssrc := 1, csrcArray := [],
      extensionProfile := 0, extensionPayload := [] }
    payload := []
    payloadLength := 0
    pRawPacket := List.replicate 12 0
    receivedTime := 0
    isSynthetic := false }
  sequenceNumber_eq := rfl

/-- Numbers 65535, 65537 and 65534: one wrap, one late packet below the first, one loss. -/
theorem packetsLost_counts_missing_wrap :
    (∀ p, p <+: [plainPacket 65537, plainPacket 65534] →
      (received acceptAll newInbound (plainPacket 65535) p).inboundStats.packetsLost =
        missing 65535 (exts p)) ∧
    missing 65535 [65537, 65534] = 1 := by
  refine ⟨?_, by decide⟩
  have hw : WithinJumps (plainPacket 65535).extSeq (exts [plainPacket 65537, plainPacket 65534]) :=
    withinJumps_three (by decide) (by decide) (by decide) (by decide)
  refine (packetsLost_counts_missing_iff acceptAll newInbound (plainPacket 65535)
    [plainPacket 65537, plainPacket 65534] rfl rfl hw).mpr ?_
  intro p x hp
  rcases concat_prefix_cons hp with ⟨rfl, rfl⟩ | ⟨q, rfl, hq⟩
  · refine ⟨by decide, by decide, by decide⟩
  · rcases concat_prefix_cons hq with ⟨rfl, rfl⟩ | ⟨q, rfl, hnil⟩
    · refine ⟨by decide, by decide, by decide⟩
    · exact absurd hnil not_concat_prefix_nil

/-- Two streams within the limits whose loss comes out negative: a late packet exactly
`MAX_MISORDER` behind, and a predecessor of a first packet numbered 0. -/
theorem late_packets_miscounted :
    (WithinJumps 200 [100, 201] ∧
      (received acceptAll newInbound (plainPacket 200) [plainPacket 100]).inboundStats.packetsLost
        = -1 ∧ missing 200 [100] = 99) ∧
    (WithinJumps 0 [-1, 1] ∧
      (received acceptAll newInbound (plainPacket 0) [plainPacket (-1)]).inboundStats.packetsLost
        = -1 ∧ missing 0 [-1] = 0) := by
  refine ⟨⟨?_, by decide, by decide⟩, ⟨?_, by decide, by decide⟩⟩
  · exact withinJumps_three (by decide) (by decide) (by decide) (by decide)
  · exact withinJumps_three (by decide) (by decide) (by decide) (by decide)

end KvsWebrtc.Rtp
