import KvsWebrtc.Common
import KvsWebrtc.Lib.SerialNumber

/-!
# Transport-wide congestion control feedback (`Rtcp.c`)

The receiver records the arrival time of every transport-wide sequence number
(`twccReceiverOnPacketReceived`) and reports them (`sendRtcpTwccFeedback`) in run-length chunks and
receive deltas.  The hash tables are finite maps.  `SRTP_MAX_TRAILER_LEN` is a constant of libsrtp
and a parameter here; `senderSsrc`, which is taken from an address, is another one.

A feedback is written from offset 0 on without gaps, so the bytes of `packet` are the writes: byte
`i` goes to offset `i`, whether or not the allocation reaches that far.

Principal result: `twccFeedback_fits_iff` — the packet fits its allocation exactly when the status
runs, two bytes each, take no more room than the estimate of one chunk per seven packets.
-/

namespace KvsWebrtc.Rtcp

abbrev TWCC_MAX_PACKET_STATUS_COUNT : Nat := 0x1FFF
abbrev TWCC_REFERENCE_TIME_DIVISOR : Nat := 64
abbrev HUNDREDS_OF_NANOS_IN_A_MILLISECOND : Nat := 10000
abbrev RTCP_PACKET_VERSION_VAL : UINT8 := 2
abbrev RTCP_FEEDBACK_MESSAGE_TYPE_TWCC : UINT8 := 15
abbrev RTCP_PACKET_TYPE_GENERIC_RTP_FEEDBACK : UINT8 := 205
abbrev SRTP_AUTH_TAG_OVERHEAD : Nat := 10

inductive TWCC_STATUS_SYMBOL where
  | NOTRECEIVED
  | SMALLDELTA
  | LARGEDELTA
  deriving DecidableEq, Repr

def TWCC_STATUS_SYMBOL.val : TWCC_STATUS_SYMBOL → UINT16
  | NOTRECEIVED => 0
  | SMALLDELTA => 1
  | LARGEDELTA => 2

/-! ## Recording -/

/-- `pReceivedPktsHashTable` maps a sequence number to its `arrivalTimeKvs`. -/
structure TwccReceiverManager where
  pReceivedPktsHashTable : UINT16 → Option UINT64
  firstSeqNum : UINT16
  lastSeqNum : UINT16
  firstPacketReceived : Bool
  feedbackPacketCount : UINT8
  mediaSourceSsrc : UINT32
  baseTimeKvs : UINT64

/-- A received packet with its transport-wide sequence number. -/
structure TwccArrival where
  twccSeqNum : UINT16
  receivedTime : UINT64
  ssrc : UINT32
  deriving DecidableEq, Repr

/-- First and last number of the window after one more arrival. -/
def trackWindow (m : TwccReceiverManager) (seq : UINT16) : UINT16 × UINT16 :=
  if !m.firstPacketReceived then (seq, seq)
  else (if Serial.lt seq m.firstSeqNum then seq else m.firstSeqNum,
    if Serial.gt seq m.lastSeqNum then seq else m.lastSeqNum)

def twccReceiverOnPacketReceived (m : TwccReceiverManager) (p : TwccArrival) :
    TwccReceiverManager :=
  match m.pReceivedPktsHashTable p.twccSeqNum with
  | some _ => m
  | none =>
    let baseTimeKvs := if m.baseTimeKvs = 0 then p.receivedTime else m.baseTimeKvs
    { m with
      baseTimeKvs := baseTimeKvs
      pReceivedPktsHashTable := fun s =>
        if s = p.twccSeqNum then some (p.receivedTime - baseTimeKvs)
        else m.pReceivedPktsHashTable s
      firstSeqNum := (trackWindow m p.twccSeqNum).1
      lastSeqNum := (trackWindow m p.twccSeqNum).2
      firstPacketReceived := true
      mediaSourceSsrc := p.ssrc }

/-! ## Statuses and deltas -/

/-- The symbol of a packet and its delta in ticks of 250 us, truncated towards zero. -/
def getTwccPacketStatus (arrivalTimeKvs referenceTimeKvs : UINT64) : TWCC_STATUS_SYMBOL × Int :=
  let deltaTicks := (arrivalTimeKvs.toInt - referenceTimeKvs.toInt).tdiv 2500
  if 0 ≤ deltaTicks ∧ deltaTicks ≤ 255 then (.SMALLDELTA, deltaTicks)
  else if -32768 ≤ deltaTicks ∧ deltaTicks ≤ 32767 then (.LARGEDELTA, deltaTicks)
  else (.NOTRECEIVED, deltaTicks)

def packetStatusCount (m : TwccReceiverManager) : Nat :=
  min (m.lastSeqNum - m.firstSeqNum + 1).toNat TWCC_MAX_PACKET_STATUS_COUNT

/-- The arrival time of the first received packet among `n` from `seqNum` on. -/
def firstArrival (table : UINT16 → Option UINT64) : Nat → UINT16 → Option UINT64
  | 0, _ => none
  | n + 1, seqNum =>
    match table seqNum with
    | some arrival => some arrival
    | none => firstArrival table n (seqNum + 1)

/-- The milliseconds of the reference, in 32 bits. -/
def referenceMs (referenceTimeKvs : UINT64) : UINT32 :=
  BitVec.ofNat 32 (referenceTimeKvs.toNat / HUNDREDS_OF_NANOS_IN_A_MILLISECOND)

def referenceTime24 (referenceTimeKvs : UINT64) : UINT32 :=
  BitVec.ofNat 32 ((referenceMs referenceTimeKvs).toNat / TWCC_REFERENCE_TIME_DIVISOR) &&& 0xFFFFFF

/-- The reference the first delta is relative to, on a 64 ms boundary. -/
def alignedReference (referenceTimeKvs : UINT64) : UINT64 :=
  BitVec.ofNat 64 ((referenceMs referenceTimeKvs).toNat / TWCC_REFERENCE_TIME_DIVISOR *
    TWCC_REFERENCE_TIME_DIVISOR * HUNDREDS_OF_NANOS_IN_A_MILLISECOND)

/-- `pStatuses` and `pDeltas`.  Each delta is relative to the arrival of the received packet
before it, also when that one was out of range. -/
def packetStatuses (table : UINT16 → Option UINT64) :
    Nat → UINT16 → UINT64 → List (TWCC_STATUS_SYMBOL × Int)
  | 0, _, _ => []
  | n + 1, seqNum, lastArrivalTimeKvs =>
    match table seqNum with
    | some arrival =>
      getTwccPacketStatus arrival lastArrivalTimeKvs :: packetStatuses table n (seqNum + 1) arrival
    | none => (.NOTRECEIVED, 0) :: packetStatuses table n (seqNum + 1) lastArrivalTimeKvs

/-! ## The packet -/

/-- `TWCC_MAKE_RUNLEN`. -/
def TWCC_MAKE_RUNLEN (status : TWCC_STATUS_SYMBOL) (count : Nat) : UINT16 :=
  (status.val <<< 13) ||| (BitVec.ofNat 16 count &&& 0x1FFF)

/-- The runs of equal status, the first `len` packets of the current one already counted. -/
def statusRunsFrom (cur : TWCC_STATUS_SYMBOL) :
    Nat → List TWCC_STATUS_SYMBOL → List (TWCC_STATUS_SYMBOL × Nat)
  | len, [] => [(cur, len)]
  | len, s :: rest =>
    if s = cur ∧ len < TWCC_MAX_PACKET_STATUS_COUNT then statusRunsFrom cur (len + 1) rest
    else (cur, len) :: statusRunsFrom s 1 rest

def statusRuns : List TWCC_STATUS_SYMBOL → List (TWCC_STATUS_SYMBOL × Nat)
  | [] => []
  | s :: rest => statusRunsFrom s 1 rest

def chunkBytes (runs : List (TWCC_STATUS_SYMBOL × Nat)) : Bytes :=
  runs.flatMap fun r => putUnalignedInt16BigEndian (TWCC_MAKE_RUNLEN r.1 r.2)

def deltaBytesOf : TWCC_STATUS_SYMBOL × Int → Bytes
  | (.SMALLDELTA, d) => [BitVec.ofInt 8 d]
  | (.LARGEDELTA, d) => putUnalignedInt16BigEndian (BitVec.ofInt 16 d)
  | (.NOTRECEIVED, _) => []

def deltaBytes (items : List (TWCC_STATUS_SYMBOL × Int)) : Bytes := items.flatMap deltaBytesOf

def pad4 (x : Nat) : Nat := (x + 3) / 4 * 4

/-- The sixteen bytes behind the RTCP header. -/
def twccFixedBytes (senderSsrc mediaSourceSsrc : UINT32) (baseSeqNum : UINT16) (count : Nat)
    (refTime24 : UINT32) (feedbackPacketCount : UINT8) : Bytes :=
  putUnalignedInt32BigEndian senderSsrc ++ putUnalignedInt32BigEndian mediaSourceSsrc ++
    putUnalignedInt16BigEndian baseSeqNum ++ putUnalignedInt16BigEndian (BitVec.ofNat 16 count) ++
    [(refTime24 >>> 16).truncate 8, (refTime24 >>> 8).truncate 8, refTime24.truncate 8,
      feedbackPacketCount]

/-- The packet: chunks, deltas and padding behind the fixed part, the length in words in front. -/
def twccPacketBytes (fixed : Bytes) (items : List (TWCC_STATUS_SYMBOL × Int)) : Bytes :=
  let body := fixed ++ chunkBytes (statusRuns (items.map Prod.fst)) ++ deltaBytes items
  let packetLen := pad4 (4 + body.length)
  [(RTCP_PACKET_VERSION_VAL <<< 6) ||| RTCP_FEEDBACK_MESSAGE_TYPE_TWCC,
    RTCP_PACKET_TYPE_GENERIC_RTP_FEEDBACK] ++
    putUnalignedInt16BigEndian (BitVec.ofNat 16 (packetLen / 4 - 1)) ++
    body ++ List.replicate (packetLen - (4 + body.length)) 0

/-- The estimate: one chunk for seven packets, and the deltas. -/
def twccAllocSize (SRTP_MAX_TRAILER_LEN : Nat) (items : List (TWCC_STATUS_SYMBOL × Int)) : Nat :=
  pad4 (20 + (items.length + 6) / 7 * 2 + (deltaBytes items).length) +
    (SRTP_AUTH_TAG_OVERHEAD + SRTP_MAX_TRAILER_LEN + 4)

structure TwccFeedback where
  packet : Bytes
  allocSize : Nat
  deriving DecidableEq, Repr

/-- The statuses and deltas a feedback reports, when it reports any. -/
def twccReport (m : TwccReceiverManager) : Option (UINT64 × List (TWCC_STATUS_SYMBOL × Int)) :=
  if m.firstPacketReceived then
    match firstArrival m.pReceivedPktsHashTable (packetStatusCount m) m.firstSeqNum with
    | none => none
    | some ref => some (ref, packetStatuses m.pReceivedPktsHashTable (packetStatusCount m)
        m.firstSeqNum (alignedReference ref))
  else none

/-- The reported numbers are taken out of the table. -/
def clearReported (table : UINT16 → Option UINT64) (n : Nat) (seqNum : UINT16) :
    UINT16 → Option UINT64 :=
  fun s => if Serial.ahead seqNum s < n then none else table s

def sendRtcpTwccFeedback (SRTP_MAX_TRAILER_LEN : Nat) (senderSsrc : UINT32) (hasSrtpSession : Bool)
    (m : TwccReceiverManager) : TwccReceiverManager × Option TwccFeedback :=
  match hasSrtpSession, twccReport m with
  | true, some (ref, items) =>
    let fixed := twccFixedBytes senderSsrc m.mediaSourceSsrc m.firstSeqNum (packetStatusCount m)
      (referenceTime24 ref) m.feedbackPacketCount
    ({ m with
        pReceivedPktsHashTable :=
          clearReported m.pReceivedPktsHashTable (packetStatusCount m) m.firstSeqNum
        feedbackPacketCount := m.feedbackPacketCount + 1
        firstPacketReceived := false
        firstSeqNum := 0
        lastSeqNum := 0 },
      some ⟨twccPacketBytes fixed items, twccAllocSize SRTP_MAX_TRAILER_LEN items⟩)
  | _, _ => (m, none)

/-! ## The size of a feedback -/

/-- How often the status changes from one packet to the next. -/
def statusChanges : List TWCC_STATUS_SYMBOL → Nat
  | a :: b :: rest => (if b = a then 0 else 1) + statusChanges (b :: rest)
  | _ => 0

theorem length_statusRunsFrom : ∀ (rest : List TWCC_STATUS_SYMBOL) (cur : TWCC_STATUS_SYMBOL)
    (len : Nat), len + rest.length ≤ TWCC_MAX_PACKET_STATUS_COUNT →
      (statusRunsFrom cur len rest).length = 1 + statusChanges (cur :: rest)
  | [], _, _, _ => rfl
  | s :: rest, cur, len, h => by
    simp only [List.length_cons] at h
    unfold statusRunsFrom statusChanges
    by_cases hs : s = cur
    · rw [if_pos ⟨hs, by omega⟩, if_pos hs, length_statusRunsFrom rest cur (len + 1) (by omega), hs]
      omega
    · rw [if_neg (fun h => hs h.1), if_neg hs, List.length_cons,
        length_statusRunsFrom rest s 1 (by omega)]
      omega

@[simp] theorem length_chunkBytes (runs : List (TWCC_STATUS_SYMBOL × Nat)) :
    (chunkBytes runs).length = 2 * runs.length := by
  induction runs with
  | nil => rfl
  | cons r runs ih =>
    unfold chunkBytes at ih ⊢
    rw [List.flatMap_cons, List.length_append, ih, length_put16, List.length_cons]
    omega

@[simp] theorem length_twccFixedBytes (senderSsrc mediaSourceSsrc : UINT32) (baseSeqNum : UINT16)
    (count : Nat) (refTime24 : UINT32) (fb : UINT8) :
    (twccFixedBytes senderSsrc mediaSourceSsrc baseSeqNum count refTime24 fb).length = 16 := by
  simp [twccFixedBytes]

theorem length_packetStatuses (table : UINT16 → Option UINT64) :
    ∀ (n : Nat) (seqNum : UINT16) (last : UINT64), (packetStatuses table n seqNum last).length = n
  | 0, _, _ => rfl
  | n + 1, seqNum, last => by
    unfold packetStatuses
    split <;> simp [length_packetStatuses table n]

theorem packetStatusCount_le (m : TwccReceiverManager) :
    packetStatusCount m ≤ TWCC_MAX_PACKET_STATUS_COUNT :=
  Nat.min_le_right _ _

theorem length_twccPacketBytes {fixed : Bytes} (items : List (TWCC_STATUS_SYMBOL × Int))
    (hf : fixed.length = 16) (hne : items ≠ [])
    (hlen : items.length ≤ TWCC_MAX_PACKET_STATUS_COUNT) :
    (twccPacketBytes fixed items).length =
      pad4 (20 + 2 * (1 + statusChanges (items.map Prod.fst)) + (deltaBytes items).length) := by
  cases items with
  | nil => exact absurd rfl hne
  | cons item items =>
    have hruns := length_statusRunsFrom (items.map Prod.fst) item.1 1 (by
      simp only [List.length_cons, List.length_map] at hlen ⊢
      omega)
    have hbody : (fixed ++ chunkBytes (statusRuns ((item :: items).map Prod.fst)) ++
        deltaBytes (item :: items)).length = 16 + 2 * (1 + statusChanges ((item :: items).map
          Prod.fst)) + (deltaBytes (item :: items)).length := by
      rw [List.length_append, List.length_append, hf, length_chunkBytes, List.map_cons, statusRuns,
        hruns]
    unfold twccPacketBytes
    simp only [List.length_append, List.length_replicate, List.length_cons, List.length_nil,
      length_put16] at hbody ⊢
    rw [hbody]
    unfold pad4
    omega

theorem sendRtcpTwccFeedback_some {trailer : Nat} {senderSsrc : UINT32} {srtp : Bool}
    {m : TwccReceiverManager} {f : TwccFeedback}
    (h : (sendRtcpTwccFeedback trailer senderSsrc srtp m).2 = some f) :
    ∃ ref items, twccReport m = some (ref, items) ∧
      f = ⟨twccPacketBytes (twccFixedBytes senderSsrc m.mediaSourceSsrc m.firstSeqNum
        (packetStatusCount m) (referenceTime24 ref) m.feedbackPacketCount) items,
        twccAllocSize trailer items⟩ := by
  unfold sendRtcpTwccFeedback at h
  split at h
  · rename_i ref items heq
    cases h
    exact ⟨ref, items, heq, rfl⟩
  · cases h

theorem twccReport_some {m : TwccReceiverManager} {ref : UINT64}
    {items : List (TWCC_STATUS_SYMBOL × Int)} (h : twccReport m = some (ref, items)) :
    firstArrival m.pReceivedPktsHashTable (packetStatusCount m) m.firstSeqNum = some ref ∧
      items = packetStatuses m.pReceivedPktsHashTable (packetStatusCount m) m.firstSeqNum
        (alignedReference ref) := by
  unfold twccReport at h
  split at h
  · split at h
    · cases h
    · rename_i ref' hfirst
      cases h
      exact ⟨hfirst, rfl⟩
  · cases h

theorem firstArrival_pos {table : UINT16 → Option UINT64} {n : Nat} {seqNum : UINT16} {ref : UINT64}
    (h : firstArrival table n seqNum = some ref) : 0 < n := by
  cases n with
  | zero => cases h
  | succ n => exact Nat.succ_pos n

/-- **A feedback fits its allocation exactly when its runs of equal status take no more room than
one chunk for every seven packets**, both sides rounded up to whole words. -/
theorem twccFeedback_fits_iff {trailer : Nat} {senderSsrc : UINT32} {srtp : Bool}
    {m : TwccReceiverManager} {f : TwccFeedback}
    (h : (sendRtcpTwccFeedback trailer senderSsrc srtp m).2 = some f) :
    ((∀ offset < f.packet.length, offset < f.allocSize) ∧
      f.packet.length + SRTP_AUTH_TAG_OVERHEAD + trailer + 4 ≤ f.allocSize) ↔
    ∃ ref items, twccReport m = some (ref, items) ∧
      pad4 (20 + 2 * (1 + statusChanges (items.map Prod.fst)) + (deltaBytes items).length) ≤
        pad4 (20 + 2 * ((items.length + 6) / 7) + (deltaBytes items).length) := by
  obtain ⟨ref, items, hrep, rfl⟩ := sendRtcpTwccFeedback_some h
  obtain ⟨hfirst, hitems⟩ := twccReport_some hrep
  have hcount : items.length = packetStatusCount m := by rw [hitems, length_packetStatuses]
  have hpos := firstArrival_pos hfirst
  have hle := packetStatusCount_le m
  have hlen := length_twccPacketBytes items
    (length_twccFixedBytes senderSsrc m.mediaSourceSsrc m.firstSeqNum (packetStatusCount m)
      (referenceTime24 ref) m.feedbackPacketCount)
    (by intro hnil; rw [hnil, List.length_nil] at hcount; omega) (by omega)
  have hcomm : (items.length + 6) / 7 * 2 = 2 * ((items.length + 6) / 7) := Nat.mul_comm _ _
  dsimp only
  rw [hlen, twccAllocSize, hcomm]
  constructor
  · intro hfit
    refine ⟨ref, items, hrep, ?_⟩
    have := hfit.2
    omega
  · rintro ⟨ref', items', hrep', hfit⟩
    rw [hrep] at hrep'
    cases hrep'
    refine ⟨?_, by omega⟩
    intro offset hoff
    omega

/-- A receiver before its first packet. -/
def createTwccReceiverManager : TwccReceiverManager where
  pReceivedPktsHashTable := fun _ => none
  firstSeqNum := 0
  lastSeqNum := 0
  firstPacketReceived := false
  feedbackPacketCount := 0
  mediaSourceSsrc := 0
  baseTimeKvs := 0

/-- Any number of received packets. -/
def recordArrivals (m : TwccReceiverManager) (ps : List TwccArrival) : TwccReceiverManager :=
  ps.foldl twccReceiverOnPacketReceived m

/-- Packets that arrive one millisecond apart. -/
def sampleArrivals (seqs : List UINT16) : List TwccArrival :=
  seqs.zipIdx.map fun s => ⟨s.1, 10000 * (BitVec.ofNat 64 s.2 + 1), 1⟩

theorem twccFeedback_fits_three :
    let sent := (sendRtcpTwccFeedback 144 7 true
      (recordArrivals createTwccReceiverManager (sampleArrivals [0, 1, 2]))).2
    sent.isSome ∧ ∀ f, sent = some f → (∀ offset < f.packet.length, offset < f.allocSize) ∧
      f.packet.length + SRTP_AUTH_TAG_OVERHEAD + 144 + 4 ≤ f.allocSize := by
  refine ⟨by decide +kernel, ?_⟩
  intro f h
  exact (twccFeedback_fits_iff h).mpr ⟨_, _, rfl, by decide +kernel⟩

/-- One lost packet between two received ones takes three chunks where one is accounted for. -/
theorem alternating_statuses_exceed_estimate :
    let m := recordArrivals createTwccReceiverManager (sampleArrivals [0, 2])
    ∃ f, (sendRtcpTwccFeedback 144 7 true m).2 = some f ∧
      ¬ (f.packet.length + SRTP_AUTH_TAG_OVERHEAD + 144 + 4 ≤ f.allocSize) := by
  exact ⟨_, rfl, by decide +kernel⟩

end KvsWebrtc.Rtcp
