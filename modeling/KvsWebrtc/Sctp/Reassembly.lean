import KvsWebrtc.Sctp.DataRun
import KvsWebrtc.Sctp.Transmission

/-!
# Reassembly of messages

The sender cuts a message into slices; the receiver has one reassembly buffer for the whole
association and appends to it in the order of arrival.  `Host.took` is the abstract assembler: it
remembers only the slice that was taken last, and `Assembling` relates it to the buffer.

Principal results:

* `delivered_completed` — as long as every fragment that is taken continues the one taken before,
  each chunk that completes a message passes exactly that message to `messageFn`;
* `hears_eq` — the DATA packets of a sender, in any order, are such chunks;
* `reassembly_integrity` — then nothing but submitted messages is delivered.
-/

namespace KvsWebrtc.Sctp

/-! ## Chunks on their way -/

/-- The call of `messageFn` that delivers a message. -/
def SctpMessage.call (m : SctpMessage) : Delivery := ⟨m.streamId, m.ppid, m.payload⟩

/-- The slice is the whole message. -/
structure Slice.Whole (sl : Slice) : Prop where
  first : sl.offset = 0
  last : sl.offset + sl.len = sl.msg.payload.length

/-- A slice as it reaches the receiver, sent for the first time or sent again. -/
structure Arrival where
  slice : Slice
  again : Bool
  deriving DecidableEq

/-- A retransmission shows B and E, whatever it repeats. -/
def Arrival.begins (x : Arrival) : Bool := x.again || x.slice.offset = 0

def Arrival.ends (x : Arrival) : Bool :=
  x.again || x.slice.offset + x.slice.len = x.slice.msg.payload.length

def Arrival.chunk (tsn0 : UINT32) (x : Arrival) : SctpChunk where
  type := SCTP_CHUNK_DATA
  flags := fragFlags x.begins x.ends x.slice.msg.unordered
  value := dataValue (tsn0 + BitVec.ofNat 32 x.slice.tsnNo) x.slice.msg.streamId x.slice.ssn
    x.slice.msg.ppid x.slice.bytes

section

variable {x : Arrival} {tsn0 : UINT32}

theorem fragFlags_begin (isFirst isLast unordered : Bool) :
    fragFlags isFirst isLast unordered &&& SCTP_DATA_FLAG_BEGIN ≠ 0 ↔ isFirst = true := by
  cases isFirst <;> cases isLast <;> cases unordered <;> decide

theorem fragFlags_end (isFirst isLast unordered : Bool) :
    fragFlags isFirst isLast unordered &&& SCTP_DATA_FLAG_END ≠ 0 ↔ isLast = true := by
  cases isFirst <;> cases isLast <;> cases unordered <;> decide

theorem Arrival.chunk_first (tsn0 : UINT32) (sl : Slice) :
    Arrival.chunk tsn0 ⟨sl, false⟩ = sl.chunk (tsn0 + BitVec.ofNat 32 sl.tsnNo) := by
  unfold Arrival.chunk Slice.chunk Arrival.begins Arrival.ends
  simp only [Bool.false_or]

theorem Arrival.chunk_again (tsn0 : UINT32) (sl : Slice) :
    Arrival.chunk tsn0 ⟨sl, true⟩ = { sl.chunk (tsn0 + BitVec.ofNat 32 sl.tsnNo) with
      flags := wholeFlags sl.msg.unordered } := by
  have hflags := (fragFlags_eq_wholeFlags true true sl.msg.unordered).mpr ⟨rfl, rfl⟩
  unfold Arrival.chunk Slice.chunk Arrival.begins Arrival.ends
  simp only [Bool.true_or, hflags]

theorem Arrival.chunk_length (tsn0 : UINT32) (x : Arrival) :
    12 ≤ (x.chunk tsn0).value.length := by
  simp only [Arrival.chunk, dataValue, List.length_append, length_put32, length_put16]
  omega

theorem Arrival.chunk_tsn (tsn0 : UINT32) (x : Arrival) :
    (x.chunk tsn0).tsn = tsn0 + BitVec.ofNat 32 x.slice.tsnNo := by
  exact get32_put32 _ _

theorem Arrival.chunk_call (tsn0 : UINT32) (x : Arrival) :
    (x.chunk tsn0).call = ⟨x.slice.msg.streamId, x.slice.msg.ppid, x.slice.bytes⟩ := by
  have hsid : getUnalignedInt16BigEndian (x.chunk tsn0).value 4 = x.slice.msg.streamId := by
    simp only [Arrival.chunk, dataValue, List.append_assoc]
    rw [get16_skip _ (by simp)]
    simp
  have hppid : getUnalignedInt32BigEndian (x.chunk tsn0).value 8 = x.slice.msg.ppid := by
    simp only [Arrival.chunk, dataValue, List.append_assoc]
    rw [get32_skip _ (by simp), get32_skip _ (by simp), get32_skip _ (by simp)]
    simp
  have hpay : (x.chunk tsn0).value.drop 12 = x.slice.bytes := by
    simp only [Arrival.chunk, dataValue]
    rw [List.drop_append_of_le_length (by simp), List.drop_eq_nil_of_le (by simp)]
    rfl
  unfold SctpChunk.call
  rw [hsid, hppid, hpay]

end

/-! ## The delivery block -/

section

variable {h : Host} {c : SctpChunk}

theorem deliver_single (hb : c.flags &&& SCTP_DATA_FLAG_BEGIN ≠ 0)
    (he : c.flags &&& SCTP_DATA_FLAG_END ≠ 0) :
    (h.deliver c).reasmSide = { h.reasmSide with delivered := h.delivered ++ [c.call] } := by
  unfold Host.deliver deliverData
  rw [if_pos ⟨hb, he⟩]
  rfl

theorem deliver_first (hb : c.flags &&& SCTP_DATA_FLAG_BEGIN ≠ 0)
    (he : ¬ c.flags &&& SCTP_DATA_FLAG_END ≠ 0)
    (hfit : c.call.payload.length ≤ SCTP_MAX_REASSEMBLY_SIZE) :
    (h.deliver c).reasmSide = { h.reasmSide with
      buf := some c.call.payload
      streamId := c.call.streamId
      ppid := c.call.ppid
      inProgress := true } := by
  have hfit' : (c.value.drop 12).length ≤ SCTP_MAX_REASSEMBLY_SIZE := hfit
  unfold Host.deliver deliverData
  rw [if_neg (fun hc => he hc.2), if_pos hb, if_pos hfit']
  rfl

theorem deliver_next {buf : Bytes} (hb : ¬ c.flags &&& SCTP_DATA_FLAG_BEGIN ≠ 0)
    (hp : h.reasmSide.inProgress = true) (hbuf : h.reasmSide.buf = some buf)
    (hfit : buf.length + c.call.payload.length ≤ SCTP_MAX_REASSEMBLY_SIZE) :
    (h.deliver c).reasmSide = if c.flags &&& SCTP_DATA_FLAG_END ≠ 0 then
        { h.reasmSide with
          buf := some []
          inProgress := false
          delivered := h.delivered ++
            [⟨h.reasmSide.streamId, h.reasmSide.ppid, buf ++ c.call.payload⟩] }
      else { h.reasmSide with buf := some (buf ++ c.call.payload) } := by
  have hbuf' : h.assoc.reassemblyBuf = some buf := hbuf
  have hp' : h.assoc.reassemblyInProgress = true := hp
  have hfit' : buf.length + (c.value.drop 12).length ≤ SCTP_MAX_REASSEMBLY_SIZE := hfit
  unfold Host.deliver deliverData
  simp only [hbuf', Option.getD_some, Option.isSome_some, Option.map_some, true_and]
  rw [if_neg (fun hc => hb hc.1), if_neg hb, if_pos hp', if_pos hfit']
  split <;> rfl

theorem deliver_stray (hb : ¬ c.flags &&& SCTP_DATA_FLAG_BEGIN ≠ 0)
    (hp : ¬ h.reasmSide.inProgress = true) : (h.deliver c).reasmSide = h.reasmSide := by
  have hp' : ¬ h.assoc.reassemblyInProgress = true := hp
  unfold Host.deliver deliverData
  rw [if_neg (fun hc => hb hc.1), if_neg hb, if_neg hp']

end

/-! ## The assembler -/

/-- The slice that was taken last and not yet completed, after `x` was handled. -/
def Host.took (tsn0 : UINT32) (h : Host) (last : Option Slice) (x : Arrival) : Option Slice :=
  if ¬ NewTsn h (x.chunk tsn0).tsn then last
  else if x.begins then if x.ends then last else some x.slice
  else if h.assoc.reassemblyInProgress then if x.ends then none else some x.slice
  else last

/-- Handling `x` passes a message to `messageFn`. -/
def Host.completes (tsn0 : UINT32) (h : Host) (x : Arrival) : Bool :=
  NewTsn h (x.chunk tsn0).tsn ∧ x.ends ∧ (x.begins ∨ h.assoc.reassemblyInProgress)

/-- `x` fits the reassembly: it repeats a whole message if it repeats anything, and a fragment that
is appended continues the slice taken last. -/
structure Fits (h : Host) (last : Option Slice) (x : Arrival) : Prop where
  whole : x.again = true → x.slice.Whole
  next : x.begins = false → h.assoc.reassemblyInProgress = true →
    ∃ prev, last = some prev ∧ prev.Next x.slice

/-- The buffer holds the message of the slice taken last, up to the end of that slice. -/
def Assembling (last : Option Slice) (r : ReasmSide) : Prop :=
  ∀ prev, last = some prev → r.inProgress = true ∧
    r.buf = some (prev.msg.payload.take (prev.offset + prev.len)) ∧
    r.streamId = prev.msg.streamId ∧ r.ppid = prev.msg.ppid

/-- The slice lies in its message, which fits the reassembly buffer. -/
structure Slice.Small (sl : Slice) : Prop where
  inside : sl.offset + sl.len ≤ sl.msg.payload.length
  size : sl.msg.payload.length ≤ SCTP_MAX_REASSEMBLY_SIZE

section

variable {h : Host} {last : Option Slice} {x : Arrival} {tsn0 : UINT32}

theorem Slice.take_add (sl : Slice) :
    sl.msg.payload.take (sl.offset + sl.len) = sl.msg.payload.take sl.offset ++ sl.bytes :=
  List.take_add

theorem Slice.Whole.bytes {sl : Slice} (hw : sl.Whole) : sl.bytes = sl.msg.payload := by
  have hlen := hw.last
  rw [hw.first, Nat.zero_add] at hlen
  unfold Slice.bytes
  rw [hw.first, hlen, List.drop_zero, List.take_length]

theorem Fits.single (hfit : Fits h last x) (hb : x.begins = true) (he : x.ends = true) :
    x.slice.Whole := by
  by_cases hagain : x.again = true
  · exact hfit.whole hagain
  · rw [Bool.not_eq_true] at hagain
    refine ⟨?_, ?_⟩
    · simpa [Arrival.begins, hagain] using hb
    · simpa [Arrival.ends, hagain] using he

theorem chunk_begin (tsn0 : UINT32) (x : Arrival) :
    (x.chunk tsn0).flags &&& SCTP_DATA_FLAG_BEGIN ≠ 0 ↔ x.begins = true := fragFlags_begin _ _ _

theorem chunk_end (tsn0 : UINT32) (x : Arrival) :
    (x.chunk tsn0).flags &&& SCTP_DATA_FLAG_END ≠ 0 ↔ x.ends = true := fragFlags_end _ _ _

theorem deliver_start (hs : x.slice.Small) (hb : x.begins = true) (he : ¬ x.ends = true) :
    Assembling (some x.slice) (h.deliver (x.chunk tsn0)).reasmSide ∧
      (h.deliver (x.chunk tsn0)).reasmSide.delivered = h.delivered := by
  have hfirst : x.slice.offset = 0 := by
    simp only [Arrival.ends, Bool.or_eq_true, not_or, Bool.not_eq_true] at he
    simpa [Arrival.begins, he.1] using hb
  have hlen : x.slice.bytes.length ≤ SCTP_MAX_REASSEMBLY_SIZE := by
    have h1 := x.slice.length_bytes_le
    have h2 := hs.inside
    have h3 := hs.size
    omega
  have htake := x.slice.take_add
  rw [hfirst, List.take_zero, List.nil_append] at htake
  rw [deliver_first ((chunk_begin tsn0 x).mpr hb) (fun hc => he ((chunk_end tsn0 x).mp hc))
    (by rw [x.chunk_call]; exact hlen), x.chunk_call]
  refine ⟨?_, rfl⟩
  rintro prev hprev
  cases hprev
  refine ⟨rfl, ?_, rfl, rfl⟩
  rw [hfirst, htake]

theorem deliver_append {prev : Slice} (ha : Assembling (some prev) h.reasmSide)
    (hs : x.slice.Small) (hb : ¬ x.begins = true) (hnext : prev.Next x.slice) :
    Assembling (if x.ends then none else some x.slice) (h.deliver (x.chunk tsn0)).reasmSide ∧
      (h.deliver (x.chunk tsn0)).reasmSide.delivered = h.delivered ++
        if x.ends then [x.slice.msg.call] else [] := by
  obtain ⟨hp, hbuf, hsid, hppid⟩ := ha prev rfl
  rw [hnext.offset, hnext.msg] at hbuf
  rw [hnext.msg] at hsid hppid
  have htake := x.slice.take_add
  have hfits : (x.slice.msg.payload.take x.slice.offset).length + x.slice.bytes.length ≤
      SCTP_MAX_REASSEMBLY_SIZE := by
    have hsize := hs.size
    rw [← List.length_append, ← htake, List.length_take]
    omega
  rw [deliver_next (fun hc => hb ((chunk_begin tsn0 x).mp hc)) hp hbuf
    (by rw [x.chunk_call]; exact hfits), x.chunk_call, ← htake, hsid, hppid]
  by_cases he : x.ends = true
  · have hlast : x.slice.offset + x.slice.len = x.slice.msg.payload.length := by
      simp only [Arrival.begins, Bool.or_eq_true, not_or, Bool.not_eq_true] at hb
      simpa [Arrival.ends, hb.1] using he
    rw [if_pos ((chunk_end tsn0 x).mpr he), if_pos he, if_pos he, hlast, List.take_length]
    exact ⟨fun _ hno => (by cases hno), rfl⟩
  · rw [if_neg (fun hc => he ((chunk_end tsn0 x).mp hc)), if_neg he, if_neg he, List.append_nil]
    refine ⟨?_, rfl⟩
    rintro sl hsl
    cases hsl
    exact ⟨hp, rfl, hsid, hppid⟩

/-- **One chunk.**  The buffer follows the assembler, and a chunk that completes a message delivers
it. -/
theorem Assembling.step (hl : Listens h) (ha : Assembling last h.reasmSide) (hs : x.slice.Small)
    (hfit : NewTsn h (x.chunk tsn0).tsn → Fits h last x) :
    Assembling (h.took tsn0 last x) (h.handleData (x.chunk tsn0)).reasmSide ∧
      (h.handleData (x.chunk tsn0)).delivered = h.delivered ++
        if h.completes tsn0 x then [x.slice.msg.call] else [] := by
  show _ ∧ (h.handleData (x.chunk tsn0)).reasmSide.delivered = _
  rw [hl.reasmSide (x.chunk_length tsn0)]
  unfold Host.took Host.completes
  by_cases hnew : NewTsn h (x.chunk tsn0).tsn
  · have hfit := hfit hnew
    rw [if_pos hnew, if_neg (not_not.mpr hnew)]
    by_cases hb : x.begins = true
    · rw [if_pos hb]
      by_cases he : x.ends = true
      · rw [deliver_single ((chunk_begin tsn0 x).mpr hb) ((chunk_end tsn0 x).mpr he), if_pos he,
          if_pos (by simp [hnew, he, hb]), x.chunk_call, (hfit.single hb he).bytes]
        exact ⟨ha, rfl⟩
      · rw [if_neg he, if_neg (by simp [he]), List.append_nil]
        exact deliver_start hs hb he
    · rw [if_neg hb]
      by_cases hp : h.assoc.reassemblyInProgress = true
      · obtain ⟨prev, rfl, hnext⟩ := hfit.next (by simpa using hb) hp
        simp only [hp, hnew, true_and, or_true, and_true, if_true, Bool.decide_eq_true]
        exact deliver_append ha hs hb hnext
      · rw [deliver_stray (fun hc => hb ((chunk_begin tsn0 x).mp hc)) hp, if_neg hp,
          if_neg (by simp [hb, hp]), List.append_nil]
        exact ⟨ha, rfl⟩
  · rw [if_neg hnew, if_pos hnew, if_neg (by simp [hnew]), List.append_nil]
    exact ⟨ha, rfl⟩

end

/-! ## Sequences of chunks -/

/-- Every chunk that is accepted fits the reassembly at its arrival. -/
def InSequence (tsn0 : UINT32) : Host → Option Slice → List Arrival → Prop
  | _, _, [] => True
  | h, last, x :: xs => (NewTsn h (x.chunk tsn0).tsn → Fits h last x) ∧
      InSequence tsn0 (h.handleData (x.chunk tsn0)) (h.took tsn0 last x) xs

/-- The slices that complete a message, in the order of arrival. -/
def Host.completed (tsn0 : UINT32) : Host → List Arrival → List Slice
  | _, [] => []
  | h, x :: xs => (if h.completes tsn0 x then [x.slice] else []) ++
      (h.handleData (x.chunk tsn0)).completed tsn0 xs

section

variable {h : Host} {last : Option Slice} {xs : List Arrival} {tsn0 : UINT32}

/-- **A run of chunks** delivers the messages that are completed, in the order of completion. -/
theorem delivered_completed (hl : Listens h) (ha : Assembling last h.reasmSide)
    (hs : ∀ x ∈ xs, x.slice.Small) (hseq : InSequence tsn0 h last xs) :
    (h.handleDatas (xs.map (Arrival.chunk tsn0))).delivered =
      h.delivered ++ (h.completed tsn0 xs).map (·.msg.call) := by
  induction xs generalizing h last with
  | nil => exact (List.append_nil _).symm
  | cons x xs ih =>
    obtain ⟨ha', hdel⟩ := ha.step hl (hs x List.mem_cons_self) hseq.1
    have hrest := ih (hl.handleData (x.chunk_length tsn0)) ha'
      (fun y hy => hs y (List.mem_cons_of_mem _ hy)) hseq.2
    rw [List.map_cons]
    refine hrest.trans ?_
    rw [hdel, List.append_assoc, Host.completed, List.map_append]
    congr 2
    split <;> rfl

theorem completed_mem {sl : Slice} (hsl : sl ∈ h.completed tsn0 xs) : ∃ x ∈ xs, x.slice = sl := by
  induction xs generalizing h with
  | nil => cases hsl
  | cons x xs ih =>
    rcases List.mem_append.mp hsl with hsl | hsl
    · split at hsl
      · rw [List.mem_singleton] at hsl
        exact ⟨x, List.mem_cons_self, hsl.symm⟩
      · cases hsl
    · obtain ⟨y, hy, heq⟩ := ih hsl
      exact ⟨y, List.mem_cons_of_mem _ hy, heq⟩

end

/-! ## Packets -/

/-- The slice that a packet of the log `out` carries. -/
def Origin.arrival? (out : List OutPacket) : Origin → Option Arrival
  | .transmission sl => some ⟨sl, false⟩
  | .retransmission f =>
    match out[f]? with
    | some ⟨_, .transmission sl⟩ => some ⟨sl, true⟩
    | _ => none
  | _ => none

/-- The slice was transmitted. -/
def Sent (out : List OutPacket) (sl : Slice) : Prop :=
  ∃ (j : Nat) (p : Bytes), out[j]? = some ⟨p, .transmission sl⟩

/-- The receiver is handed packet `k` of the sender's log `out`, when that is a DATA packet. -/
def Host.hear (out : List OutPacket) (h : Host) (k : Nat) : Host :=
  match out[k]? with
  | some p => if p.origin.isControl then h else sctpAssocHandlePacket h true p.bytes
  | none => h

def Host.hears (out : List OutPacket) (h : Host) (ks : List Nat) : Host := ks.foldl (Host.hear out) h

/-- What packet `k` brings, unless its verification tag is wrong. -/
def Host.arrival? (h : Host) (out : List OutPacket) (k : Nat) : Option Arrival :=
  out[k]?.bind fun p =>
    if (h.acceptedChunks p.bytes).isEmpty then none else p.origin.arrival? out

def Host.arrivals (h : Host) (out : List OutPacket) (ks : List Nat) : List Arrival :=
  ks.filterMap (h.arrival? out)

section

variable {S : SctpMessage → Prop} {tsn0 : UINT32} {s : SendSide} {h : Host}

theorem Listens.arrivals (hl : Listens h) {c : SctpChunk} (hlen : 12 ≤ c.value.length)
    (out : List OutPacket) (ks : List Nat) : (h.handleData c).arrivals out ks = h.arrivals out ks := by
  have hblock : ∀ h' : Host, (h'.deliver c).assoc.myVerificationTag = h'.assoc.myVerificationTag := by
    intro h'
    unfold Host.deliver deliverData
    simp only
    split
    · rfl
    · split
      · split <;> rfl
      · split
        · split <;> rfl
        · rfl
  have hack : ∀ h' : Host, (sctpSendSack h').assoc.myVerificationTag = h'.assoc.myVerificationTag :=
    fun h' => congrArg RecvSide.myVerificationTag (sctpSendSack_recvSide h')
  have htag : (h.handleData c).assoc.myVerificationTag = h.assoc.myVerificationTag := by
    unfold Host.handleData
    rw [sctpHandleData_eq hlen hl.state hl.valid]
    split
    · rw [hack, if_pos rfl, trackTsn_eq]
      exact hblock _
    · exact hack _
  unfold Host.arrivals Host.arrival? Host.acceptedChunks
  rw [htag]

theorem handlePacket_data {p : Bytes} {vtag : UINT32} {x : Arrival}
    (hp : Carries p vtag (x.chunk tsn0)) (h : Host) :
    sctpAssocHandlePacket h true p =
      if (h.acceptedChunks p).isEmpty then h else h.handleData (x.chunk tsn0) := by
  rw [sctpAssocHandlePacket_carries hp, h.acceptedChunks_carries hp, sctpChunkDispatch_data rfl]
  split <;> rfl

theorem SentLog.arrival (hsent : SentLog S tsn0 s) {k : Nat} {p : OutPacket}
    (hk : s.outbound[k]? = some p) (hdata : p.origin.isControl = false) :
    ∃ x vtag, p.origin.arrival? s.outbound = some x ∧ Carries p.bytes vtag (x.chunk tsn0) ∧
      Sent s.outbound x.slice := by
  obtain ⟨bytes, o⟩ := p
  cases o with
  | control => cases hdata
  | forwardTsn v => cases hdata
  | transmission sl =>
    obtain ⟨vtag, hc⟩ := (hsent.transmitted k bytes sl hk).carries
    rw [← Arrival.chunk_first] at hc
    exact ⟨⟨sl, false⟩, vtag, rfl, hc, k, bytes, hk⟩
  | retransmission f =>
    obtain ⟨p0, sl, vtag, hf, hc⟩ := hsent.repeats k bytes f hk
    rw [← Arrival.chunk_again] at hc
    refine ⟨⟨sl, true⟩, vtag, ?_, hc, f, p0, hf⟩
    unfold Origin.arrival?
    simp only [hf]

theorem arrival?_control {out : List OutPacket} {o : Origin} (ho : o.isControl = true) :
    o.arrival? out = none := by
  cases o with
  | control => rfl
  | forwardTsn v => rfl
  | transmission sl => cases ho
  | retransmission f => cases ho

/-- **One packet** of the sender's log. -/
theorem hear_eq (hsent : SentLog S tsn0 s) (h : Host) (k : Nat) :
    h.hear s.outbound k = h.handleDatas ((h.arrival? s.outbound k).toList.map (Arrival.chunk tsn0)) := by
  unfold Host.hear Host.arrival?
  cases hk : s.outbound[k]? with
  | none => rfl
  | some p =>
    by_cases ho : p.origin.isControl = true
    · simp only [ho, if_true, Option.bind_some, arrival?_control ho, ite_self]
      rfl
    · obtain ⟨x, vtag, hx, hc, -⟩ := hsent.arrival hk (by simpa using ho)
      rw [Bool.not_eq_true] at ho
      simp only [ho, Option.bind_some, hx, handlePacket_data hc]
      by_cases hempty : (h.acceptedChunks p.bytes).isEmpty = true
      · rw [if_pos hempty, if_pos hempty]
        rfl
      · rw [if_neg hempty, if_neg hempty]
        rfl

/-- **The packets of a sender**, in any order and any number of times, are the chunks that pass the
tag check. -/
theorem hears_eq (hsent : SentLog S tsn0 s) (hl : Listens h) (ks : List Nat) :
    h.hears s.outbound ks = h.handleDatas ((h.arrivals s.outbound ks).map (Arrival.chunk tsn0)) := by
  induction ks generalizing h with
  | nil => rfl
  | cons k ks ih =>
    show Host.hears s.outbound (h.hear s.outbound k) ks = _
    unfold Host.arrivals
    rw [hear_eq hsent, List.filterMap_cons]
    cases hk : h.arrival? s.outbound k with
    | none => exact ih hl
    | some x =>
      refine (ih (hl.handleData (x.chunk_length tsn0))).trans ?_
      show Host.handleDatas (h.handleData (x.chunk tsn0)) _ = _
      rw [hl.arrivals (x.chunk_length tsn0)]
      rfl

theorem arrivals_sent (hsent : SentLog S tsn0 s) {ks : List Nat} {x : Arrival}
    (hx : x ∈ h.arrivals s.outbound ks) : Sent s.outbound x.slice := by
  obtain ⟨k, -, hk⟩ := List.mem_filterMap.mp hx
  obtain ⟨p, hp, harr⟩ := Option.bind_eq_some_iff.mp hk
  split at harr
  · cases harr
  · by_cases ho : p.origin.isControl = true
    · rw [arrival?_control ho] at harr
      cases harr
    · obtain ⟨y, vtag, hy, -, hsent⟩ := hsent.arrival hp (by simpa using ho)
      rw [hy] at harr
      cases harr
      exact hsent

theorem arrivals_eq {a : Host} (hsent : SentLog S tsn0 a.sendSide) (l : List (Nat × Slice))
    (hl : ∀ e ∈ l, a.outbound[e.1]?.map (fun p => (p.origin, getUnalignedInt32BigEndian p.bytes 4)) =
      some (.transmission e.2, h.assoc.myVerificationTag)) :
    h.arrivals a.outbound (l.map Prod.fst) = l.map (fun e => ⟨e.2, false⟩) := by
  unfold Host.arrivals
  rw [List.filterMap_map, List.filterMap_eq_map_iff_forall_eq_some]
  rintro ⟨k, sl⟩ he
  obtain ⟨p, hk, hp⟩ := Option.map_eq_some_iff.mp (hl _ he)
  obtain ⟨ho, htag⟩ := Prod.mk.inj hp
  obtain ⟨x, vtag, -, hc, -⟩ := hsent.arrival hk (by rw [ho]; rfl)
  have hv := hc.tag
  rw [htag] at hv
  have hacc : h.acceptedChunks p.bytes = [x.chunk tsn0] := by
    rw [h.acceptedChunks_carries hc, if_neg (fun hne => hne.2.2 hv.symm)]
  show h.arrival? a.outbound k = _
  unfold Host.arrival?
  rw [hk, Option.bind_some, hacc, ho]
  rfl

theorem hears_arrivals {a : Host} {ks : List Nat} {xs : List Arrival}
    (hsent : SentLog S tsn0 a.sendSide) (hl : Listens h) (hx : h.arrivals a.outbound ks = xs) :
    h.hears a.outbound ks = h.handleDatas (xs.map (Arrival.chunk tsn0)) := by
  rw [← hx]
  exact hears_eq hsent hl ks

theorem SentLog.small (hsent : SentLog S tsn0 s)
    (hsize : ∀ m, S m → m.payload.length ≤ SCTP_MAX_REASSEMBLY_SIZE) {sl : Slice}
    (hsl : Sent s.outbound sl) : sl.Small := by
  obtain ⟨j, p, hj⟩ := hsl
  have ht := hsent.transmitted j p sl hj
  refine ⟨?_, hsize _ ht.msg⟩
  rw [ht.cut.len]
  rcases ht.cut.offset with h0 | hlt
  · omega
  · omega

/-- **What is delivered** while the packets of a sender are heard. -/
theorem hears_delivered (hsent : SentLog S tsn0 s)
    (hsize : ∀ m, S m → m.payload.length ≤ SCTP_MAX_REASSEMBLY_SIZE) (hl : Listens h)
    {ks : List Nat} (hseq : InSequence tsn0 h none (h.arrivals s.outbound ks)) :
    (h.hears s.outbound ks).delivered =
      h.delivered ++ (h.completed tsn0 (h.arrivals s.outbound ks)).map (·.msg.call) := by
  rw [hears_eq hsent hl]
  exact delivered_completed hl (fun _ hno => by cases hno)
    (fun x hx => hsent.small hsize (arrivals_sent hsent hx)) hseq

end

/-! ## Integrity -/

/-- Every message delivered since `b` was submitted in `ops`. -/
def DeliversSubmitted (ops : List Op) (b b' : Host) : Prop :=
  ∃ ms : List SctpMessage, b'.delivered = b.delivered ++ ms.map SctpMessage.call ∧
    ∀ m ∈ ms, Op.send m ∈ ops

/-- **Reassembly integrity.**  A sender `a` was given messages that fit the reassembly buffer; an
established receiver `b` is handed the DATA packets of `a` in any order, each any number of times.
When every chunk that `b` accepts fits its reassembly at that moment, `b` delivers nothing but
messages that were submitted, each of them whole. -/
theorem reassembly_integrity (clock : Nat → UINT64) (localPort remotePort mtu : UINT16)
    (hm : 29 ≤ mtu.toNat) (ops : List Op)
    (hsize : ∀ m, Op.send m ∈ ops → m.payload.length ≤ SCTP_MAX_REASSEMBLY_SIZE)
    (clock' : Nat → UINT64) (localPort' remotePort' mtu' : UINT16) (ops' : List Op) (ks : List Nat)
    {a b : Host} (ha : (sctpAssocInit clock localPort remotePort mtu).run ops = a)
    (hb : (sctpAssocInit clock' localPort' remotePort' mtu').run ops' = b)
    (hst : b.assoc.state = .ESTABLISHED)
    (hseq : InSequence (sctpGenerateTag clock) b none (b.arrivals a.outbound ks)) :
    DeliversSubmitted ops b (b.hears a.outbound ks) := by
  have hsent := run_sentLog (S := fun m => Op.send m ∈ ops) hm clock localPort remotePort ops
    (fun _ hm => hm)
  rw [ha] at hsent
  have hk := run_knowsPeer clock' localPort' remotePort' mtu' ops'
  rw [hb] at hk
  refine ⟨(b.completed (sctpGenerateTag clock) (b.arrivals a.outbound ks)).map (·.msg), ?_, ?_⟩
  · rw [List.map_map]
    exact hears_delivered hsent hsize ⟨hst, hk.valid (.inr hst)⟩ hseq
  · intro m hmem
    obtain ⟨sl, hsl, rfl⟩ := List.mem_map.mp hmem
    obtain ⟨x, hx, rfl⟩ := completed_mem hsl
    obtain ⟨j, p, hj⟩ := arrivals_sent hsent hx
    exact (hsent.transmitted j p x.slice hj).msg

/-- The cookie of the sample association's peer. -/
def samplePeerCookie : SctpCookie :=
  ⟨SCTP_COOKIE_MAGIC1, SCTP_COOKIE_MAGIC2, 7, 9, 7, 9, SCTP_DEFAULT_ARWND, 0, 300, 300, 0⟩

def samplePeerEcho : Bytes :=
  onePacket 5000 5000 0 ⟨SCTP_CHUNK_COOKIE_ECHO, 0, samplePeerCookie.toBytes⟩

/-- The receiver of what the sample association sends. -/
def samplePeer : Host := acceptCookie (sctpAssocInit (fun _ => 9) 5000 5000 1150) samplePeerCookie

/-- Another message of two fragments. -/
def sampleLongOther : SctpMessage := ⟨0, 51, false, List.replicate 1123 1, 0xFFFF, 0⟩

theorem run_samplePeerEcho : (sctpAssocInit (fun _ => 9) 5000 5000 1150).run
    [.handlePacket true samplePeerEcho] = samplePeer := by
  rw [Host.run_cons, Host.run_nil, Host.step_handlePacket]
  exact sctpAssocHandlePacket_cookieEcho (carries_onePacket _ _ _ (by
    rw [SctpCookie.length_toBytes]
    decide)) rfl rfl (fun _ => rfl)

theorem samplePeer_listens : Listens samplePeer := ⟨by decide +kernel, by decide +kernel⟩

/-- The log of the sample sender after two sends. -/
def sampleSends (m m' : SctpMessage) : Host := sctpAssocSend (sctpAssocSend sampleHost m) m'

theorem run_sampleSends (m m' : SctpMessage) : (sctpAssocInit (fun _ => 7) 5000 5000 1150).run
    [.handlePacket true sampleCookieEcho, .send m, .send m'] = sampleSends m m' := by
  rw [run_sampleCookieEcho, Host.run_cons, Host.run_cons, Host.run_nil]
  rfl

theorem sampleSends_sentLog (m m' : SctpMessage) :
    SentLog (fun _ => True) (sctpGenerateTag (fun _ => 7)) (sampleSends m m').sendSide := by
  rw [← run_sampleSends]
  exact run_sentLog (by decide) _ _ _ _ (fun _ _ => trivial)

/-- Both fragments of a message arrive in order. -/
theorem reassembly_integrity_inOrder :
    DeliversSubmitted [.handlePacket true sampleCookieEcho, .send sampleLong, .send sampleLongOther]
      samplePeer (samplePeer.hears (sampleSends sampleLong sampleLongOther).outbound [1, 2]) := by
  have harr : samplePeer.arrivals (sampleSends sampleLong sampleLongOther).outbound [1, 2] =
      [⟨⟨sampleLong, 0, 0, 0, 1122⟩, false⟩, ⟨⟨sampleLong, 1, 0, 1122, 1⟩, false⟩] :=
    arrivals_eq (sampleSends_sentLog sampleLong sampleLongOther)
      [(1, ⟨sampleLong, 0, 0, 0, 1122⟩), (2, ⟨sampleLong, 1, 0, 1122, 1⟩)] (by decide +kernel)
  refine reassembly_integrity (fun _ => 7) 5000 5000 1150 (by decide) _ ?_ (fun _ => 9) 5000 5000 1150
    [.handlePacket true samplePeerEcho] [1, 2] (run_sampleSends _ _) run_samplePeerEcho
    (by decide +kernel) ?_
  · rintro m hm
    simp only [List.mem_cons, Op.send.injEq, List.not_mem_nil, or_false, false_or, reduceCtorEq] at hm
    rcases hm with rfl | rfl <;> decide +kernel
  · rw [harr]
    refine ⟨fun _ => ⟨fun h => (by cases h), fun h => (by cases h)⟩,
      fun _ => ⟨fun h => (by cases h), fun _ _ => ⟨⟨sampleLong, 0, 0, 0, 1122⟩, ?_, ?_⟩⟩, trivial⟩
    · decide +kernel
    · exact ⟨rfl, rfl, rfl, rfl⟩

/-- The last fragment of another message is appended to the first of this one. -/
theorem fragments_of_two_messages_joined :
    (sctpAssocInit (fun _ => 9) 5000 5000 1150).run [.handlePacket true samplePeerEcho] = samplePeer ∧
      samplePeer.assoc.state = .ESTABLISHED ∧
      ¬ DeliversSubmitted
        [.handlePacket true sampleCookieEcho, .send sampleLong, .send sampleLongOther] samplePeer
        (samplePeer.hears ((sctpAssocInit (fun _ => 7) 5000 5000 1150).run
          [.handlePacket true sampleCookieEcho, .send sampleLong, .send sampleLongOther]).outbound
          [1, 4]) := by
  have harr : samplePeer.arrivals (sampleSends sampleLong sampleLongOther).outbound [1, 4] =
      [⟨⟨sampleLong, 0, 0, 0, 1122⟩, false⟩, ⟨⟨sampleLongOther, 3, 1, 1122, 1⟩, false⟩] :=
    arrivals_eq (sampleSends_sentLog sampleLong sampleLongOther)
      [(1, ⟨sampleLong, 0, 0, 0, 1122⟩), (4, ⟨sampleLongOther, 3, 1, 1122, 1⟩)] (by decide +kernel)
  have hdel : (samplePeer.handleDatas (([⟨⟨sampleLong, 0, 0, 0, 1122⟩, false⟩,
      ⟨⟨sampleLongOther, 3, 1, 1122, 1⟩, false⟩] : List Arrival).map
        (Arrival.chunk (sctpGenerateTag (fun _ => 7))))).delivered =
      [⟨0, 51, List.replicate 1122 0 ++ [1]⟩] := by decide +kernel
  refine ⟨run_samplePeerEcho, by decide +kernel, ?_⟩
  rw [run_sampleSends]
  rintro ⟨ms, heq, hms⟩
  have hnone : samplePeer.delivered = [] := by decide +kernel
  rw [hears_arrivals (sampleSends_sentLog sampleLong sampleLongOther) samplePeer_listens harr, hdel,
    hnone, List.nil_append] at heq
  generalize hd : (⟨0, 51, List.replicate 1122 0 ++ [1]⟩ : Delivery) = d at heq
  obtain ⟨m, rfl, hcall⟩ := List.map_eq_singleton_iff.mp heq.symm
  rw [← hd] at hcall
  have hm := hms m List.mem_cons_self
  simp only [List.mem_cons, Op.send.injEq, List.not_mem_nil, or_false, false_or, reduceCtorEq] at hm
  rcases hm with rfl | rfl
  · exact absurd hcall (by decide +kernel)
  · exact absurd hcall (by decide +kernel)

end KvsWebrtc.Sctp
