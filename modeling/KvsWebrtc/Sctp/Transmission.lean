import KvsWebrtc.Sctp.Sender

/-!
# The packets a sender has emitted

`SentLog` describes the outbound packets of a sender: which chunk each first transmission carries,
that the fragments of a message stand one after the other, that TSNs are taken in order, and that
the outstanding table remembers the chunk that the packet `firstTx` carried.

Principal results:

* `run_sentLog` — the description holds in every state reachable from `sctpAssocInit`;
* `retransmission_fidelity` — a retransmitted chunk repeats TSN, stream, SSN, PPID, payload and the
  U flag of the first transmission, and its B and E flags exactly when the message went out whole.
-/

namespace KvsWebrtc.Sctp

/-! ## Appending to a log -/

theorem getElem?_concat_cases {α : Type} {l : List α} {x y : α} {k : Nat}
    (h : (l ++ [x])[k]? = some y) : l[k]? = some y ∨ (k = l.length ∧ y = x) := by
  rw [List.getElem?_append] at h
  split at h
  · exact .inl h
  · rename_i hk
    refine .inr ?_
    rw [List.getElem?_singleton] at h
    split at h
    · rename_i h0
      cases h
      exact ⟨by omega, rfl⟩
    · cases h

theorem getElem?_concat_left {α : Type} {l : List α} {y : α} {k : Nat} (x : α)
    (h : l[k]? = some y) : (l ++ [x])[k]? = some y := by
  obtain ⟨hk, _⟩ := List.getElem?_eq_some_iff.mp h
  rw [List.getElem?_append_left hk]
  exact h

/-! ## The description of a log -/

/-- The packet `p` at position `k` of `out` is the first transmission of `sl`. -/
structure Transmitted (S : SctpMessage → Prop) (tsn0 : UINT32) (mtu : UINT16) (out : List OutPacket)
    (k : Nat) (p : Bytes) (sl : Slice) : Prop where
  msg : S sl.msg
  cut : sl.Cut mtu
  carries : ∃ vtag, Carries p vtag (sl.chunk (tsn0 + BitVec.ofNat 32 sl.tsnNo))
  follows : sl.offset = 0 ∨ ∃ j q prev, j + 1 = k ∧
    out[j]? = some ⟨q, .transmission prev⟩ ∧ prev.Next sl

/-- Slot `d` holds the chunk that the packet at position `f` of `out` carried first. -/
def Remembers (tsn0 : UINT32) (out : List OutPacket) (d : SctpOutstandingData) (f : Nat) : Prop :=
  ∃ (p : Bytes) (sl : Slice), out[f]? = some ⟨p, .transmission sl⟩ ∧
    d.tsn = tsn0 + BitVec.ofNat 32 sl.tsnNo ∧ d.streamId = sl.msg.streamId ∧ d.ssn = sl.ssn ∧
    d.ppid = sl.msg.ppid ∧ d.unordered = sl.msg.unordered ∧ d.payload = some sl.bytes

/-- The packet `p` repeats the chunk that the packet at position `f` of `out` carried first, with
the flags of a whole message. -/
def Repeats (tsn0 : UINT32) (out : List OutPacket) (p : Bytes) (f : Nat) : Prop :=
  ∃ (p0 : Bytes) (sl : Slice) (vtag : UINT32), out[f]? = some ⟨p0, .transmission sl⟩ ∧
    Carries p vtag { sl.chunk (tsn0 + BitVec.ofNat 32 sl.tsnNo) with
      flags := wholeFlags sl.msg.unordered }

structure SentLog (S : SctpMessage → Prop) (tsn0 : UINT32) (s : SendSide) : Prop where
  nextTsn : s.nextTsn = tsn0 + BitVec.ofNat 32 s.tsnsUsed
  transmitted : ∀ (k : Nat) (p : Bytes) (sl : Slice),
    s.outbound[k]? = some ⟨p, .transmission sl⟩ → Transmitted S tsn0 s.mtu s.outbound k p sl
  bounded : ∀ (k : Nat) (p : Bytes) (sl : Slice),
    s.outbound[k]? = some ⟨p, .transmission sl⟩ → sl.tsnNo < s.tsnsUsed
  increasing : ∀ (j k : Nat) (p q : Bytes) (sl sl' : Slice),
    s.outbound[j]? = some ⟨p, .transmission sl⟩ → s.outbound[k]? = some ⟨q, .transmission sl'⟩ →
      j < k → sl.tsnNo < sl'.tsnNo
  remembers : ∀ i, (s.outstanding.get i).inUse = true →
    Remembers tsn0 s.outbound (s.outstanding.get i) (s.firstTx.get i)
  repeats : ∀ (k : Nat) (p : Bytes) (f : Nat),
    s.outbound[k]? = some ⟨p, .retransmission f⟩ → Repeats tsn0 s.outbound p f

variable {S : SctpMessage → Prop} {A : UINT32 → Prop} {tsn0 : UINT32} {s s' : SendSide}

theorem Transmitted.concat {mtu : UINT16} {out : List OutPacket} {k : Nat} {p : Bytes} {sl : Slice}
    (x : OutPacket) (h : Transmitted S tsn0 mtu out k p sl) :
    Transmitted S tsn0 mtu (out ++ [x]) k p sl := by
  refine ⟨h.msg, h.cut, h.carries, ?_⟩
  rcases h.follows with h0 | ⟨j, q, prev, hj, hout, hnext⟩
  · exact .inl h0
  · exact .inr ⟨j, q, prev, hj, getElem?_concat_left x hout, hnext⟩

theorem Remembers.concat {out : List OutPacket} {d : SctpOutstandingData} {f : Nat} (x : OutPacket)
    (h : Remembers tsn0 out d f) : Remembers tsn0 (out ++ [x]) d f := by
  obtain ⟨p, sl, hout, hrest⟩ := h
  exact ⟨p, sl, getElem?_concat_left x hout, hrest⟩

theorem Repeats.concat {out : List OutPacket} {p : Bytes} {f : Nat} (x : OutPacket)
    (h : Repeats tsn0 out p f) : Repeats tsn0 (out ++ [x]) p f := by
  obtain ⟨p0, sl, vtag, hout, hp⟩ := h
  exact ⟨p0, sl, vtag, getElem?_concat_left x hout, hp⟩

/-! ## The actions -/

theorem SentLog.other (hl : SentLog S tsn0 s) {x : OutPacket}
    (hx : ∀ sl, x.origin ≠ .transmission sl)
    (hrep : ∀ f, x.origin = .retransmission f → Repeats tsn0 s.outbound x.bytes f) :
    SentLog S tsn0 { s with outbound := s.outbound ++ [x] } := by
  have hold : ∀ {k : Nat} {p : Bytes} {sl : Slice},
      (s.outbound ++ [x])[k]? = some ⟨p, .transmission sl⟩ →
        s.outbound[k]? = some ⟨p, .transmission sl⟩ := by
    intro k p sl h
    rcases getElem?_concat_cases h with h | ⟨_, rfl⟩
    · exact h
    · exact absurd rfl (hx sl)
  refine ⟨hl.nextTsn, ?_, ?_, ?_, ?_, ?_⟩
  · intro k p sl h
    exact (hl.transmitted k p sl (hold h)).concat x
  · intro k p sl h
    exact hl.bounded k p sl (hold h)
  · intro j k p q sl sl' h h' hjk
    exact hl.increasing j k p q sl sl' (hold h) (hold h') hjk
  · intro i hi
    exact (hl.remembers i hi).concat x
  · intro k p f h
    rcases getElem?_concat_cases h with h | ⟨_, rfl⟩
    · exact (hl.repeats k p f h).concat x
    · exact (hrep f rfl).concat _

theorem SentLog.setSlot (hl : SentLog S tsn0 s) {i : Fin SCTP_MAX_OUTSTANDING}
    {d : SctpOutstandingData} (hd : d.inUse = true → Remembers tsn0 s.outbound d (s.firstTx.get i)) :
    ∀ j, ((s.outstanding.set i d).get j).inUse = true →
      Remembers tsn0 s.outbound ((s.outstanding.set i d).get j) (s.firstTx.get j) := by
  intro j hj
  rw [SlotTable.get_set] at hj ⊢
  split
  · rename_i heq
    rw [if_pos heq] at hj
    rw [heq]
    exact hd hj
  · rename_i hne
    rw [if_neg hne] at hj
    exact hl.remembers j hj

theorem SentLog.next_tsn (hl : SentLog S tsn0 s) :
    s.nextTsn + 1 = tsn0 + BitVec.ofNat 32 (s.tsnsUsed + 1) := by
  rw [hl.nextTsn, BitVec.add_assoc, BitVec.ofNat_add]
  rfl

theorem Follows.position {out : List OutPacket} {sl : Slice} (h : Follows out sl) (x : OutPacket) :
    sl.offset = 0 ∨ ∃ j q prev, j + 1 = out.length ∧
      (out ++ [x])[j]? = some ⟨q, .transmission prev⟩ ∧ prev.Next sl := by
  rcases h with h0 | ⟨q, prev, hout, hnext⟩
  · exact .inl h0
  · rw [List.getLast?_eq_getElem?] at hout
    obtain ⟨hk, _⟩ := List.getElem?_eq_some_iff.mp hout
    exact .inr ⟨out.length - 1, q, prev, by omega, getElem?_concat_left x hout, hnext⟩

theorem SentLog.transmit (hl : SentLog S tsn0 s) {i : Fin SCTP_MAX_OUTSTANDING} {sl : Slice}
    {nowMs : UINT64} {vtag : UINT32} {p : Bytes} {count flight : UINT32} (hm : S sl.msg)
    (hno : sl.tsnNo = s.tsnsUsed) (hcut : sl.Cut s.mtu) (hprev : Follows s.outbound sl)
    (hp : Carries p vtag (sl.chunk s.nextTsn)) :
    SentLog S tsn0 { s with
      nextTsn := s.nextTsn + 1
      tsnsUsed := s.tsnsUsed + 1
      outstanding := s.outstanding.set i (sentChunk sl.msg s.nextTsn sl.ssn sl.bytes nowMs)
      outstandingCount := count
      flightSize := flight
      firstTx := s.firstTx.set i s.outbound.length
      outbound := s.outbound ++ [⟨p, .transmission sl⟩] } := by
  have htsn : s.nextTsn = tsn0 + BitVec.ofNat 32 sl.tsnNo := by
    rw [hno]
    exact hl.nextTsn
  refine ⟨hl.next_tsn, ?_, ?_, ?_, ?_, ?_⟩
  · intro k q sl' h
    rcases getElem?_concat_cases h with h | ⟨hk, heq⟩
    · exact (hl.transmitted k q sl' h).concat _
    · cases heq
      subst hk
      exact ⟨hm, hcut, ⟨vtag, htsn ▸ hp⟩, hprev.position _⟩
  · intro k q sl' h
    rcases getElem?_concat_cases h with h | ⟨_, heq⟩
    · exact Nat.lt_succ_of_lt (hl.bounded k q sl' h)
    · cases heq
      rw [hno]
      exact Nat.lt_succ_self _
  · intro j k q q' sl1 sl2 h1 h2 hjk
    rcases getElem?_concat_cases h1 with h1 | ⟨hj, _⟩
    · rcases getElem?_concat_cases h2 with h2 | ⟨_, heq⟩
      · exact hl.increasing j k q q' sl1 sl2 h1 h2 hjk
      · cases heq
        rw [hno]
        exact hl.bounded j q sl1 h1
    · obtain ⟨hk, _⟩ := List.getElem?_eq_some_iff.mp h2
      rw [List.length_append, List.length_singleton] at hk
      omega
  · intro j hj
    simp only [SlotTable.get_set] at hj ⊢
    split
    · exact ⟨p, sl, List.getElem?_concat_length, htsn, rfl, rfl, rfl, rfl, rfl⟩
    · rename_i hne
      rw [if_neg hne] at hj
      exact (hl.remembers j hj).concat _
  · intro k q f h
    rcases getElem?_concat_cases h with h | ⟨_, heq⟩
    · exact (hl.repeats k q f h).concat _
    · cases heq

theorem SentLog.retransmit (hl : SentLog S tsn0 s) {i : Fin SCTP_MAX_OUTSTANDING} {payload p : Bytes}
    {vtag : UINT32} (hi : (s.outstanding.get i).inUse = true)
    (hpay : (s.outstanding.get i).payload = some payload)
    (hp : payload.length < 65520 → Carries p vtag ⟨SCTP_CHUNK_DATA,
      wholeFlags (s.outstanding.get i).unordered,
      dataValue (s.outstanding.get i).tsn (s.outstanding.get i).streamId
        (s.outstanding.get i).ssn (s.outstanding.get i).ppid payload⟩) :
    Repeats tsn0 s.outbound p (s.firstTx.get i) := by
  obtain ⟨p0, sl, hout, htsn, hsid, hssn, hppid, hun, hpl⟩ := hl.remembers i hi
  have ht := hl.transmitted _ p0 sl hout
  rw [hpay] at hpl
  cases hpl
  have hc := hp ht.cut.length_bytes_lt
  rw [htsn, hsid, hssn, hppid, hun] at hc
  exact ⟨p0, sl, vtag, hout, hc⟩

theorem SendAct.sentLog (hact : SendAct S A s s') (hl : SentLog S tsn0 s) : SentLog S tsn0 s' := by
  cases hact with
  | control p o ho =>
    refine hl.other (fun sl h => ?_) (fun f h => ?_)
    · cases h
      cases ho
    · cases h
      cases ho
  | burnTsn =>
    refine ⟨hl.next_tsn, hl.transmitted, ?_, hl.increasing, hl.remembers, hl.repeats⟩
    intro k p sl h
    exact Nat.lt_succ_of_lt (hl.bounded k p sl h)
  | transmit i sl nowMs vtag p hm hfree hno hcut hprev hp => exact hl.transmit hm hno hcut hprev hp
  | count i hi =>
    exact ⟨hl.nextTsn, hl.transmitted, hl.bounded, hl.increasing,
      hl.setSlot (fun _ => hl.remembers i hi), hl.repeats⟩
  | retransmit i payload vtag p hi hpay hp =>
    refine hl.other (fun _ h => nomatch h) (fun f hf => ?_)
    cases hf
    exact hl.retransmit hi hpay hp
  | release i d point hi hd hpoint =>
    exact ⟨hl.nextTsn, hl.transmitted, hl.bounded, hl.increasing,
      hl.setSlot (fun h => by rw [hd] at h; cases h), hl.repeats⟩
  | enqueuePending i m hm hfree =>
    exact ⟨hl.nextTsn, hl.transmitted, hl.bounded, hl.increasing, hl.remembers, hl.repeats⟩
  | dequeuePending i m hi =>
    exact ⟨hl.nextTsn, hl.transmitted, hl.bounded, hl.increasing, hl.remembers, hl.repeats⟩
  | enqueueSend i m hm hfree =>
    exact ⟨hl.nextTsn, hl.transmitted, hl.bounded, hl.increasing, hl.remembers, hl.repeats⟩
  | dequeueSend i m hi =>
    exact ⟨hl.nextTsn, hl.transmitted, hl.bounded, hl.increasing, hl.remembers, hl.repeats⟩

theorem SendActs.sentLog (hacts : SendActs S A s s') (hl : SentLog S tsn0 s) : SentLog S tsn0 s' := by
  induction hacts with
  | refl => exact hl
  | tail _ hact ih => exact hact.sentLog ih

theorem sctpAssocInit_sentLog (clock : Nat → UINT64) (localPort remotePort mtu : UINT16) :
    SentLog S (sctpGenerateTag clock) (sctpAssocInit clock localPort remotePort mtu).sendSide := by
  refine ⟨?_, ?_, ?_, ?_, ?_, ?_⟩
  · exact (BitVec.add_zero _).symm
  · intro k p sl h
    cases h
  · intro k p sl h
    cases h
  · intro j k p q sl sl' h
    cases h
  · intro i h
    cases h
  · intro k p f h
    cases h

theorem run_sentLog {mtu : UINT16} (hm : 29 ≤ mtu.toNat) (clock : Nat → UINT64)
    (localPort remotePort : UINT16) (ops : List Op) (hops : ∀ m, Op.send m ∈ ops → S m) :
    SentLog S (sctpGenerateTag clock)
      ((sctpAssocInit clock localPort remotePort mtu).run ops).sendSide :=
  (run_acts ops hops (sctpAssocInit_ready hm clock localPort remotePort)).sentLog
    (sctpAssocInit_sentLog clock localPort remotePort mtu)

/-! ## Retransmissions -/

theorem fragFlags_eq_wholeFlags (isFirst isLast unordered : Bool) :
    wholeFlags unordered = fragFlags isFirst isLast unordered ↔ isFirst = true ∧ isLast = true := by
  cases isFirst <;> cases isLast <;> cases unordered <;> decide

theorem SentLog.whole_iff (hl : SentLog S tsn0 s) {k : Nat} {p : Bytes} {sl : Slice}
    (hout : s.outbound[k]? = some ⟨p, .transmission sl⟩) :
    (sl.offset = 0 ∧ sl.offset + sl.len = sl.msg.payload.length) ↔
      sl.msg.payload.length ≤ s.mtu.toNat - 28 := by
  have ht := hl.transmitted k p sl hout
  have hlen := ht.cut.len
  constructor
  · rintro ⟨h0, hall⟩
    omega
  · intro hfit
    have h0 : sl.offset = 0 := by
      rcases ht.follows with h0 | ⟨j, q, prev, hj, hprev, hnext⟩
      · exact h0
      · have hplen := (hl.transmitted j q prev hprev).cut.len
        have hoff := ht.cut.offset
        have hmsg := hnext.msg
        have hnoff := hnext.offset
        rw [hmsg] at hplen
        omega
    omega

/-- Every retransmitted packet carries the chunk of the packet that first carried its TSN. -/
def FaithfulRetransmissions (h : Host) : Prop :=
  ∀ (k : Nat) (p : Bytes) (first : Nat), h.outbound[k]? = some ⟨p, .retransmission first⟩ →
    ∃ (p0 : Bytes) (sl : Slice) (c : SctpChunk), h.outbound[first]? = some ⟨p0, .transmission sl⟩ ∧
      sctpParseChunks p = [c] ∧ sctpParseChunks p0 = [c]

/-- The messages of which a chunk was retransmitted all fit into one chunk. -/
def RetransmittedFit (h : Host) (mtu : UINT16) : Prop :=
  ∀ (k : Nat) (p : Bytes) (first : Nat) (p0 : Bytes) (sl : Slice),
    h.outbound[k]? = some ⟨p, .retransmission first⟩ → h.outbound[first]? = some ⟨p0, .transmission sl⟩ →
      sl.msg.payload.length ≤ mtu.toNat - 28

theorem faithful_iff {h : Host} (hl : SentLog S tsn0 h.sendSide) :
    FaithfulRetransmissions h ↔ RetransmittedFit h h.assoc.mtu := by
  have hflags : ∀ {k : Nat} {p0 : Bytes} {sl : Slice},
      h.outbound[k]? = some ⟨p0, .transmission sl⟩ →
      (wholeFlags sl.msg.unordered = (sl.chunk (tsn0 + BitVec.ofNat 32 sl.tsnNo)).flags ↔
        sl.msg.payload.length ≤ h.assoc.mtu.toNat - 28) := by
    intro k p0 sl hout
    have hw := hl.whole_iff hout
    unfold Slice.chunk
    rw [fragFlags_eq_wholeFlags, decide_eq_true_iff, decide_eq_true_iff]
    exact hw
  constructor
  · intro hf k p first p0 sl hre hout
    obtain ⟨q0, sl1, c, hout1, hc, hc0⟩ := hf k p first hre
    rw [hout] at hout1
    cases hout1
    obtain ⟨q, sl2, vtag, hout2, hcar⟩ := hl.repeats k p first hre
    rw [show h.sendSide.outbound = h.outbound from rfl, hout] at hout2
    cases hout2
    obtain ⟨vtag0, hcar0⟩ := (hl.transmitted first p0 sl hout).carries
    rw [hcar.chunks] at hc
    rw [hcar0.chunks] at hc0
    cases hc
    refine (hflags hout).mp ?_
    exact (congrArg SctpChunk.flags (List.cons.inj hc0).1).symm
  · intro hfit k p first hre
    obtain ⟨p0, sl, vtag, hout, hcar⟩ := hl.repeats k p first hre
    obtain ⟨vtag0, hcar0⟩ := (hl.transmitted first p0 sl hout).carries
    refine ⟨p0, sl, _, hout, ?_, hcar0.chunks⟩
    rw [hcar.chunks, (hflags hout).mpr (hfit k p first p0 sl hre hout)]

theorem run_mtu (clock : Nat → UINT64) (localPort remotePort : UINT16) {mtu : UINT16}
    (hm : 29 ≤ mtu.toNat) (ops : List Op) :
    ((sctpAssocInit clock localPort remotePort mtu).run ops).assoc.mtu = mtu := by
  have hacts := run_acts (S := fun _ => True) ops (fun _ _ => trivial)
    (sctpAssocInit_ready hm clock localPort remotePort)
  have hmtu : ∀ {s s' : SendSide}, SendActs (fun _ => True) (fun _ => True) s s' → s'.mtu = s.mtu := by
    intro s s' h
    induction h with
    | refl => rfl
    | tail _ hact ih => exact hact.mtu_eq.trans ih
  exact hmtu hacts

/-- **Retransmissions are faithful exactly for messages that were not fragmented.**  In every run,
all retransmitted packets carry the chunk of their first transmission if and only if every message
of which a chunk was retransmitted fits into one chunk; in particular they do when every submitted
message fits. -/
theorem retransmission_fidelity (clock : Nat → UINT64) (localPort remotePort mtu : UINT16)
    (hm : 29 ≤ mtu.toNat) (ops : List Op) :
    (FaithfulRetransmissions ((sctpAssocInit clock localPort remotePort mtu).run ops) ↔
      RetransmittedFit ((sctpAssocInit clock localPort remotePort mtu).run ops) mtu) ∧
    ((∀ m, Op.send m ∈ ops → m.payload.length ≤ mtu.toNat - 28) →
      FaithfulRetransmissions ((sctpAssocInit clock localPort remotePort mtu).run ops)) := by
  have hmtu := run_mtu clock localPort remotePort hm ops
  have hiff := faithful_iff (run_sentLog (S := fun _ => True) hm clock localPort remotePort ops
    (fun _ _ => trivial))
  rw [hmtu] at hiff
  refine ⟨hiff, fun hfit => hiff.mpr ?_⟩
  intro k p first p0 sl _ hout
  exact ((run_sentLog hm clock localPort remotePort ops hfit).transmitted first p0 sl hout).msg

/-- A run whose only message fits into a chunk. -/
theorem retransmission_fidelity_short :
    29 ≤ (1150 : UINT16).toNat ∧
      FaithfulRetransmissions ((sctpAssocInit (fun _ => 7) 5000 5000 1150).run
        [.handlePacket true sampleCookieEcho, .send ⟨0, 51, false, [1, 2, 3], 0xFFFF, 0⟩,
          .checkTimers 5000]) := by
  refine ⟨by decide, (retransmission_fidelity (fun _ => 7) 5000 5000 1150 (by decide) _).2 ?_⟩
  intro m hm
  simp only [List.mem_cons, reduceCtorEq, Op.send.injEq, false_or, List.not_mem_nil, or_false] at hm
  subst hm
  decide

/-! ## What T3 retransmits -/

theorem t3Slot_frame {nowMs : UINT64} {h : Host} {i j : Fin SCTP_MAX_OUTSTANDING} (hij : i ≠ j) :
    (t3Slot nowMs h j).assoc.outstanding.get i = h.assoc.outstanding.get i := by
  have hset : ∀ d, (h.assoc.outstanding.set j d).get i = h.assoc.outstanding.get i :=
    fun d => SlotTable.get_set_ne _ d hij
  unfold t3Slot
  simp only
  split
  · rfl
  · split
    · exact hset _
    · split
      · exact hset _
      · exact hset _

theorem t3Slot_unused {nowMs : UINT64} {h : Host} {i : Fin SCTP_MAX_OUTSTANDING}
    (hu : (h.assoc.outstanding.get i).inUse = false) : t3Slot nowMs h i = h := by
  unfold t3Slot
  rw [if_pos (.inl (by rw [hu]; decide))]

theorem t3Loop_eq_upTo {nowMs : UINT64} {h : Host} {k : Nat} (hk : k ≤ SCTP_MAX_OUTSTANDING)
    (hfree : ∀ i : Fin SCTP_MAX_OUTSTANDING, k ≤ i.val →
      (h.assoc.outstanding.get i).inUse = false) :
    t3Loop h nowMs = SlotTable.forSlotsUpTo (t3Slot nowMs) h k hk := by
  exact SlotTable.forSlots_eq_upTo_of_free (fun h => h.assoc.outstanding)
    (fun d => d.inUse = false) hk (fun _ _ _ => t3Slot_frame) (fun _ _ => t3Slot_unused) hfree

theorem t3Slot_firstTx (nowMs : UINT64) (h : Host) (j : Fin SCTP_MAX_OUTSTANDING) :
    (t3Slot nowMs h j).firstTx = h.firstTx := by
  unfold t3Slot
  simp only
  split
  · rfl
  · split
    · rfl
    · split <;> rfl

theorem t3Slot_outbound (nowMs : UINT64) (h : Host) (j : Fin SCTP_MAX_OUTSTANDING) :
    h.outbound <+: (t3Slot nowMs h j).outbound := by
  unfold t3Slot
  simp only
  split
  · exact List.prefix_rfl
  · split
    · exact List.prefix_rfl
    · split
      · exact List.prefix_rfl
      · exact List.prefix_append _ _

/-- The chunk is outstanding and not to be abandoned. -/
structure SctpOutstandingData.Resent (nowMs : UINT64) (d : SctpOutstandingData) : Prop where
  inUse : d.inUse = true
  acked : d.acked = false
  abandoned : d.abandoned = false
  payload : d.payload.isSome = true
  kept : shouldAbandon nowMs d.retried = false

theorem t3Slot_retransmits (nowMs : UINT64) {h : Host} {i : Fin SCTP_MAX_OUTSTANDING}
    (hd : (h.assoc.outstanding.get i).Resent nowMs) :
    ∃ p, (t3Slot nowMs h i).outbound = h.outbound ++ [⟨p, .retransmission (h.firstTx.get i)⟩] := by
  obtain ⟨payload, hpay⟩ := Option.isSome_iff_exists.mp hd.payload
  have hpay' : (h.assoc.outstanding.get i).retried.payload = some payload := hpay
  unfold t3Slot
  rw [if_neg (by simp [hd.inUse, hd.acked, hd.abandoned])]
  simp only [hd.kept, hpay']
  exact ⟨_, rfl⟩

theorem t3Loop_retransmits (nowMs : UINT64) {h : Host} {i : Fin SCTP_MAX_OUTSTANDING}
    (hd : (h.assoc.outstanding.get i).Resent nowMs) :
    h.outbound <+: (t3Loop h nowMs).outbound ∧
      ∃ p, ⟨p, .retransmission (h.firstTx.get i)⟩ ∈ (t3Loop h nowMs).outbound := by
  have hloop := SlotTable.forSlots_rec (f := t3Slot nowMs) (s := h)
    (P := fun k h' => h.outbound <+: h'.outbound ∧ h'.firstTx = h.firstTx ∧
      (k ≤ i.val → h'.assoc.outstanding.get i = h.assoc.outstanding.get i) ∧
      (i.val < k → ∃ p, ⟨p, .retransmission (h.firstTx.get i)⟩ ∈ h'.outbound))
    ⟨List.prefix_rfl, rfl, fun _ => rfl, fun hlt => absurd hlt (Nat.not_lt_zero _)⟩ ?_
  · exact ⟨hloop.1, hloop.2.2.2 i.isLt⟩
  · rintro j h' ⟨hpre, hftx, hbefore, hafter⟩
    have hgrow := t3Slot_outbound nowMs h' j
    refine ⟨hpre.trans hgrow, (t3Slot_firstTx nowMs h' j).trans hftx, fun hk => ?_, fun hk => ?_⟩
    · rw [t3Slot_frame (by rintro rfl; omega)]
      exact hbefore (by omega)
    · by_cases hlt : i.val < j.val
      · obtain ⟨p, hp⟩ := hafter hlt
        exact ⟨p, hgrow.subset hp⟩
      · have heq : i = j := Fin.ext (by omega)
        subst heq
        rw [← hbefore (Nat.le_refl _)] at hd
        obtain ⟨p, hp⟩ := t3Slot_retransmits nowMs hd
        refine ⟨p, ?_⟩
        rw [hp, hftx]
        exact List.mem_append_right _ (List.mem_singleton.mpr rfl)

theorem outbound_sendForwardTsn (h : Host) : h.outbound <+: (sendForwardTsn h).outbound := by
  unfold sendForwardTsn
  split
  · exact List.prefix_append _ _
  · exact List.prefix_rfl

theorem restartT3_outbound (h : Host) (nowMs : UINT64) : (restartT3 h nowMs).outbound = h.outbound :=
  congrArg SendSide.outbound (restartT3_sendSide h nowMs)

theorem sctpAssocCheckTimers_retransmits (nowMs : UINT64) {h : Host} {i : Fin SCTP_MAX_OUTSTANDING}
    (ht1 : h.assoc.t1InitExpiry = 0) (ht3 : h.assoc.t3RtxExpiry ≠ 0)
    (hnow : nowMs ≥ h.assoc.t3RtxExpiry)
    (hd : (h.assoc.outstanding.get i).Resent nowMs) :
    h.outbound <+: (sctpAssocCheckTimers h nowMs).outbound ∧
      ∃ p, ⟨p, .retransmission (h.firstTx.get i)⟩ ∈ (sctpAssocCheckTimers h nowMs).outbound := by
  obtain ⟨hpre, p, hmem⟩ := t3Loop_retransmits nowMs (h := t3Enter h) hd
  have hgrow := outbound_sendForwardTsn (t3Loop (t3Enter h) nowMs)
  rw [sctpAssocCheckTimers_t3 ht1 ht3 hnow, restartT3_outbound]
  exact ⟨hpre.trans hgrow, p, hgrow.subset hmem⟩

/-- A message of 1123 bytes, one more than a chunk holds at MTU 1150. -/
def sampleLong : SctpMessage := ⟨0, 51, false, List.replicate 1123 0, 0xFFFF, 0⟩

theorem sampleLong_origins : (sctpAssocSend sampleHost sampleLong).outbound.map (·.origin) =
    [.control, .transmission ⟨sampleLong, 0, 0, 0, 1122⟩,
      .transmission ⟨sampleLong, 1, 0, 1122, 1⟩] := by
  decide +kernel

/-- The first fragment of a 1123-byte message goes out again as a whole message. -/
theorem fragment_retransmitted_whole :
    ¬ FaithfulRetransmissions ((sctpAssocInit (fun _ => 7) 5000 5000 1150).run
      [.handlePacket true sampleCookieEcho, .send sampleLong, .checkTimers 5000]) := by
  have hm : 29 ≤ (1150 : UINT16).toNat := by decide
  rw [faithful_iff (run_sentLog (S := fun _ => True) hm _ _ _ _ (fun _ _ => trivial)),
    run_mtu _ _ _ hm, run_sampleCookieEcho, Host.run_cons, Host.run_cons, Host.run_nil,
    Host.step_send, Host.step_checkTimers]
  obtain ⟨hpre, p, hmem⟩ := sctpAssocCheckTimers_retransmits 5000
    (h := sctpAssocSend sampleHost sampleLong) (i := 0) (by decide +kernel) (by decide +kernel)
    (by decide +kernel) ⟨by decide +kernel, by decide +kernel, by decide +kernel, by decide +kernel,
      by decide +kernel⟩
  have hftx : (sctpAssocSend sampleHost sampleLong).firstTx.get 0 = 1 := by decide +kernel
  have hfirst : ((sctpAssocSend sampleHost sampleLong).outbound[1]?).map (·.origin) =
      some (.transmission ⟨sampleLong, 0, 0, 0, 1122⟩) := by
    rw [← List.getElem?_map, sampleLong_origins]
    rfl
  rw [hftx] at hmem
  generalize sctpAssocSend sampleHost sampleLong = h at hpre hmem hfirst
  obtain ⟨⟨p0, o⟩, hp0, ho⟩ := Option.map_eq_some_iff.mp hfirst
  cases ho
  obtain ⟨k, hk⟩ := List.mem_iff_getElem?.mp hmem
  obtain ⟨rest, hrest⟩ := hpre
  intro hfit
  have hlen := hfit k p 1 p0 _ hk (by
    rw [← hrest, List.getElem?_append_left (List.getElem?_eq_some_iff.mp hp0).1]
    exact hp0)
  exact absurd hlen (by decide +kernel)

end KvsWebrtc.Sctp
