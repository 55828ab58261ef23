import KvsWebrtc.Rtp.Receiver
import KvsWebrtc.Rtcp.Twcc
import KvsWebrtc.Rtcp.TwccParse
import Mathlib.Data.Nat.Bitwise
import Mathlib.Algebra.Order.Field.Rat
import Mathlib.Tactic.Linarith
import Mathlib.Tactic.Positivity

/-!
# Receiver reports (`Rtcp.c`)

`rtcpBuildReceiverReport` reports what a transceiver received of the stream `jitterBufferSsrc`, and
`onRtcpReceiverReport` stores the report in the statistics of the transceiver that sends that
stream.  The cumulative loss is a signed number that crosses the wire in 24 bits.

Rates and fractions are rational here; the interarrival jitter is a floating point number, of which
the report carries the integer part.

* `receiverReport_round_trip_iff` — the sender's statistics say what the receiver counted exactly
  when the loss is not negative, fits 31 bits and is not more than the sender expects.
-/

namespace KvsWebrtc.Rtcp

open Rtp

variable {J : Type}

abbrev RTCP_PACKET_TYPE_RECEIVER_REPORT : UINT8 := 201
abbrev RTCP_RECEIVER_REPORT_LEN : Nat := 32
abbrev RTCP_PACKET_RECEIVER_REPORT_MINLEN : Nat := 28
abbrev DLSR_TIMESCALE : Nat := 65536
abbrev NTP_OFFSET : UINT64 := 2208988800
abbrev NTP_TIMESCALE : UINT64 := 4294967296

/-! ## The reporting side -/

/-- A receiving transceiver with what its reports say besides. -/
structure ReportingTransceiver (J : Type) extends InboundTransceiver J where
  /-- `sender.ssrc`. -/
  ssrc : UINT32
  jitterBufferSsrc : UINT32
  /-- The integer part of `pJitterBuffer->jitter`. -/
  jitter : UINT32
  lastSRNtpMid : UINT32
  lastSRReceivedTime : UINT64

/-- What `rtcpBuildReceiverReport` leaves: an error, a length of 0, or the packet. -/
inductive BuildResult where
  | BUFFER_TOO_SMALL
  | nothingToSend
  | packet (bytes : Bytes)
  deriving DecidableEq, Repr

variable (t : ReportingTransceiver J)

/-- `rrFraction`: the loss since the last report in 1/256. -/
def rrFraction : UINT8 :=
  let rrReceived : UINT32 := t.inboundStats.packetsReceived.truncate 32
  let rrExpectedInterval := t.expected - t.rrExpectedPrior
  let rrReceivedInterval := rrReceived - t.rrReceivedPrior
  let rrLostInterval := rrExpectedInterval - rrReceivedInterval
  if rrExpectedInterval = 0 ∨ rrLostInterval.toInt ≤ 0 then 0
  else ((rrLostInterval <<< 8) / rrExpectedInterval).truncate 8

/-- The signed 24 bit range. -/
def clamp24 (n : Int) : Int :=
  if n > 0x7FFFFF then 0x7FFFFF else if n < -0x800000 then -0x800000 else n

/-- `rrCumulativeLost`: a difference of two `INT32`, clamped. -/
def rrCumulativeLost : Int :=
  let rrReceived : UINT32 := t.inboundStats.packetsReceived.truncate 32
  clamp24 (t.expected - rrReceived).toInt

/-- The low 24 bits of an `INT32`, most significant first. -/
def put24 (n : Int) : Bytes :=
  let v := BitVec.ofInt 32 n
  [(v.sshiftRight 16 &&& 0xFF).truncate 8, (v.sshiftRight 8 &&& 0xFF).truncate 8,
    (v &&& 0xFF).truncate 8]

/-- The delay since the last sender report; the field stays 0 when there was none. -/
def dlsr (currentTime : UINT64) : UINT32 :=
  if t.lastSRReceivedTime ≠ 0 then
    ((currentTime - t.lastSRReceivedTime) * BitVec.ofNat 64 DLSR_TIMESCALE /
      HUNDREDS_OF_NANOS_IN_A_SECOND).truncate 32
  else 0

def receiverReportBytes (currentTime : UINT64) : Bytes :=
  [(RTCP_PACKET_VERSION_VAL <<< 6) ||| 1, RTCP_PACKET_TYPE_RECEIVER_REPORT] ++
  putUnalignedInt16BigEndian
    (BitVec.ofNat 16 (RTCP_RECEIVER_REPORT_LEN / RTCP_PACKET_LEN_WORD_SIZE - 1)) ++
  (putUnalignedInt32BigEndian t.ssrc ++ (putUnalignedInt32BigEndian t.jitterBufferSsrc ++
  ((rrFraction t :: put24 (rrCumulativeLost t)) ++ (putUnalignedInt32BigEndian t.extMax ++
  (putUnalignedInt32BigEndian t.jitter ++ (putUnalignedInt32BigEndian t.lastSRNtpMid ++
  putUnalignedInt32BigEndian (dlsr t currentTime)))))))

/-- `packetLen` is the size of the caller's buffer. -/
def rtcpBuildReceiverReport (currentTime : UINT64) (packetLen : Nat) :
    ReportingTransceiver J × BuildResult :=
  if packetLen < RTCP_RECEIVER_REPORT_LEN then (t, .BUFFER_TOO_SMALL)
  else if t.jitterBufferSsrc = 0 ∨ t.rrSeqInitialized = false then (t, .nothingToSend)
  else
    ({ t with
        rrExpectedPrior := t.expected
        rrReceivedPrior := t.inboundStats.packetsReceived.truncate 32 },
      .packet (receiverReportBytes t currentTime))

/-! ## The side that gets the report -/

/-- `RtcRemoteInboundRtpStreamStats`, the counters of its `received` part among them. -/
structure RemoteInboundStats where
  reportsReceived : UINT64
  fractionLost : Rat
  roundTripTimeMeasurements : UINT64
  totalRoundTripTime : UINT64
  roundTripTime : UINT64
  packetsLost : Int
  packetsReceived : UINT64
  jitter : Rat
  deriving DecidableEq

/-- The sending side of `KvsRtpTransceiver`, as a report finds it. -/
structure ReportedTransceiver where
  ssrc : UINT32
  rtxSsrc : UINT32
  jitterBufferSsrc : UINT32
  seqInitialized : Bool
  initialSequenceNumber : UINT16
  clockRate : UINT32
  remoteInboundStats : RemoteInboundStats
  deriving DecidableEq

/-- The test of `findTransceiverBySsrc`. -/
def ReportedTransceiver.hasSsrc (u : ReportedTransceiver) (ssrc : UINT32) : Bool :=
  u.ssrc = ssrc || u.rtxSsrc = ssrc || u.jitterBufferSsrc = ssrc

def convertTimestampToNTP (time100ns : UINT64) : UINT64 :=
  let sec := time100ns / HUNDREDS_OF_NANOS_IN_A_SECOND
  let rest := time100ns % HUNDREDS_OF_NANOS_IN_A_SECOND
  ((sec + NTP_OFFSET) <<< 32) ||| (rest * NTP_TIMESCALE / HUNDREDS_OF_NANOS_IN_A_SECOND)

def MID_NTP (ntpTime : UINT64) : UINT32 := ((ntpTime >>> 16) &&& 0xffffffff).truncate 32

/-- The statistics of the transceiver after a report with the given payload. -/
def storeReport (now : UINT64) (payload : Bytes) (u : ReportedTransceiver) : ReportedTransceiver :=
  let fractionLost : Rat := (payload.getD 8 0).toNat / 255
  let cumulativeLost := getUnalignedInt32BigEndian payload 8 &&& 0x00ffffff
  let extHiSeqNumReceived := getUnalignedInt32BigEndian payload 12
  let interarrivalJitter := getUnalignedInt32BigEndian payload 16
  let lastSR := getUnalignedInt32BigEndian payload 20
  let delaySinceLastSR := getUnalignedInt32BigEndian payload 24
  let rttPropDelay := MID_NTP (convertTimestampToNTP now) - lastSR - delaySinceLastSR
  let rttPropDelayMsec : UINT64 :=
    if lastSR ≠ 0 then (rttPropDelay * 1000 / BitVec.ofNat 32 DLSR_TIMESCALE).zeroExtend 64 else 0
  let s := u.remoteInboundStats
  let expected := extHiSeqNumReceived - u.initialSequenceNumber.zeroExtend 32 + 1
  { u with remoteInboundStats := {
      reportsReceived := s.reportsReceived + 1
      fractionLost := if fractionLost > -1 then fractionLost else s.fractionLost
      roundTripTimeMeasurements :=
        if lastSR ≠ 0 then s.roundTripTimeMeasurements + 1 else s.roundTripTimeMeasurements
      totalRoundTripTime :=
        if lastSR ≠ 0 then s.totalRoundTripTime + rttPropDelayMsec else s.totalRoundTripTime
      roundTripTime := if lastSR ≠ 0 then rttPropDelayMsec else s.roundTripTime
      -- both branches are unsigned before the conversion to INT64
      packetsLost :=
        if cumulativeLost &&& 0x800000 ≠ 0 then ((cumulativeLost ||| 0xFF000000).toNat : Int)
        else cumulativeLost.toNat
      packetsReceived :=
        if u.seqInitialized ∧ cumulativeLost.toNat ≤ expected.toNat then
          (expected - cumulativeLost).zeroExtend 64
        else s.packetsReceived
      jitter := interarrivalJitter.toNat / u.clockRate.toNat } }

/-- `findTransceiverBySsrc` and an update of what it finds; without a match nothing happens. -/
def updateBySsrc (ssrc : UINT32) (f : ReportedTransceiver → ReportedTransceiver) :
    List ReportedTransceiver → List ReportedTransceiver
  | [] => []
  | u :: us => if u.hasSsrc ssrc then f u :: us else u :: updateBySsrc ssrc f us

/-- `onRtcpReceiverReport` at time `now`; only reports with exactly one block are looked at. -/
def onRtcpReceiverReport (now : UINT64) (p : RtcpPacket) (pTransceivers : List ReportedTransceiver) :
    List ReportedTransceiver :=
  if p.payloadLength ≠ RTCP_PACKET_RECEIVER_REPORT_MINLEN then pTransceivers
  else updateBySsrc (getUnalignedInt32BigEndian p.payload 4) (storeReport now p.payload)
    pTransceivers

/-! ## Reading the report back -/

/-- Everything behind the RTCP header. -/
def reportPayload (currentTime : UINT64) : Bytes :=
  putUnalignedInt32BigEndian t.ssrc ++ (putUnalignedInt32BigEndian t.jitterBufferSsrc ++
  ((rrFraction t :: put24 (rrCumulativeLost t)) ++ (putUnalignedInt32BigEndian t.extMax ++
  (putUnalignedInt32BigEndian t.jitter ++ (putUnalignedInt32BigEndian t.lastSRNtpMid ++
  putUnalignedInt32BigEndian (dlsr t currentTime))))))

theorem receiverReportBytes_eq (now : UINT64) :
    receiverReportBytes t now = [0x81, 201, 0, 7] ++ reportPayload t now := rfl

@[simp] theorem length_put24 (n : Int) : (put24 n).length = 3 := rfl

@[simp] theorem length_reportPayload (now : UINT64) :
    (reportPayload t now).length = 28 := by
  simp [reportPayload]

theorem setRtcpPacketFromBytes_report (now : UINT64) :
    setRtcpPacketFromBytes (receiverReportBytes t now) = .ok {
      version := 2, receptionReportCount := 1, packetType := RTCP_PACKET_TYPE_RECEIVER_REPORT,
      packetLength := 7, payload := reportPayload t now, payloadLength := 28 } := by
  have hlen : (receiverReportBytes t now).length = 32 := by
    simp [receiverReportBytes_eq]
  have hpacket : getUnalignedInt16BigEndian (receiverReportBytes t now) RTCP_PACKET_LEN_OFFSET = 7 :=
    rfl
  have hfirst : (receiverReportBytes t now).getD 0 0 = 0x81 := rfl
  unfold setRtcpPacketFromBytes
  rw [hlen, hpacket, hfirst, if_neg (by decide), if_neg (by decide), if_neg (by decide)]
  rfl

theorem reportPayload_ssrc (now : UINT64) :
    getUnalignedInt32BigEndian (reportPayload t now) 4 = t.jitterBufferSsrc := by
  unfold reportPayload
  rw [get32_skip _ (by simp)]
  exact get32_put32 _ _

theorem reportPayload_extMax (now : UINT64) :
    getUnalignedInt32BigEndian (reportPayload t now) 12 = t.extMax := by
  unfold reportPayload
  rw [get32_skip _ (by simp), get32_skip _ (by simp), get32_skip _ (by simp)]
  exact get32_put32 _ _

theorem reportPayload_fraction (now : UINT64) :
    (reportPayload t now).getD 8 0 = rrFraction t := rfl

theorem toNat_shifted_byte (v : UINT32) {k : Nat} (hk : k ≤ 24) :
    ((v.sshiftRight k &&& 0xFF).truncate 8 : UINT8).toNat = v.toNat / 2 ^ k % 256 := by
  have hff : ∀ i < 8, (0xFF : UINT32).getLsbD i = true := by decide
  have hbits : ((v.sshiftRight k &&& 0xFF).truncate 8 : UINT8) = v.extractLsb' k 8 := by
    apply BitVec.eq_of_getLsbD_eq
    intro i hi
    rw [BitVec.truncate, BitVec.getLsbD_setWidth, BitVec.getLsbD_and, BitVec.getLsbD_sshiftRight,
      BitVec.getLsbD_extractLsb', hff i hi, if_pos (by omega)]
    simp [hi, show i < 32 by omega]
  rw [hbits, BitVec.extractLsb'_toNat, Nat.shiftRight_eq_div_pow]

theorem decodeBE_put24 (n : Int) : (ByteOrder.decodeBE (put24 n) : Int) = n % 2 ^ 24 := by
  have hv : ((BitVec.ofInt 32 n).toNat : Int) = n % 2 ^ 32 := by
    rw [BitVec.toNat_ofInt]
    omega
  have h0 := toNat_shifted_byte (BitVec.ofInt 32 n) (k := 0) (by decide)
  have h8 := toNat_shifted_byte (BitVec.ofInt 32 n) (k := 8) (by decide)
  have h16 := toNat_shifted_byte (BitVec.ofInt 32 n) (k := 16) (by decide)
  rw [BitVec.sshiftRight_zero] at h0
  unfold put24
  simp only [ByteOrder.decodeBE, List.foldl_cons, List.foldl_nil, h0, h8, h16]
  omega

theorem toNat_and_mask24 (x : UINT32) : (x &&& 0x00ffffff).toNat = x.toNat % 2 ^ 24 := by
  rw [BitVec.toNat_and]
  exact Nat.and_two_pow_sub_one_eq_mod x.toNat 24

theorem reportPayload_cumulativeLost (now : UINT64) :
    ((getUnalignedInt32BigEndian (reportPayload t now) 8 &&& 0x00ffffff).toNat : Int) =
      rrCumulativeLost t % 2 ^ 24 := by
  have hb := decodeBE_put24 (rrCumulativeLost t)
  unfold reportPayload
  rw [get32_skip _ (by simp), get32_skip _ (by simp), toNat_and_mask24]
  unfold put24 at hb ⊢
  simp only [ByteOrder.decodeBE, List.foldl_cons, List.foldl_nil] at hb
  simp only [length_put32, getUnalignedInt32BigEndian, ByteOrder.readBE, ByteOrder.decodeBE,
    List.cons_append, List.drop_zero, List.take_succ_cons, List.take_zero, List.foldl_cons,
    List.foldl_nil, BitVec.toNat_ofNat, Nat.sub_self, Nat.reduceSub]
  omega

/-! ## The round trip -/

/-- The receiver's expected-minus-received count. -/
def receiverLoss : Int :=
  (t.expected.toNat : Int) - t.inboundStats.packetsReceived.toNat

/-- What the sender expects from the reported highest number and its own first one. -/
def senderExpected (u : ReportedTransceiver) : UINT32 :=
  t.extMax - u.initialSequenceNumber.zeroExtend 32 + 1

/-- The statistics `s` say what the receiver `t` counted. -/
structure Reported (t : ReportingTransceiver J) (u : ReportedTransceiver) (s : RemoteInboundStats) :
    Prop where
  packetsLost : s.packetsLost = clamp24 (receiverLoss t)
  fractionLost : s.fractionLost = (rrFraction t).toNat / 255
  packetsReceived : (s.packetsReceived.toNat : Int) =
    (senderExpected t u).toNat - clamp24 (receiverLoss t)

theorem clamp24_bounds (n : Int) : -0x800000 ≤ clamp24 n ∧ clamp24 n ≤ 0x7FFFFF := by
  unfold clamp24
  split
  · omega
  · split
    · omega
    · omega

theorem sign_bit {x : UINT32} (hx : x.toNat < 2 ^ 24) :
    x &&& 0x800000 ≠ 0 ↔ 2 ^ 23 ≤ x.toNat := by
  have htest : x.toNat.testBit 23 = true ↔ 2 ^ 23 ≤ x.toNat := by
    rw [Nat.testBit_eq_decide_div_mod_eq, decide_eq_true_iff]
    omega
  have hand : (x &&& 0x800000).toNat = (x.toNat.testBit 23).toNat * 2 ^ 23 := by
    rw [BitVec.toNat_and, Nat.and_comm, Nat.mul_comm]
    exact Nat.two_pow_and x.toNat 23
  rw [← htest, Ne, ← BitVec.toNat_inj, hand]
  cases x.toNat.testBit 23
  · simp
  · simp

theorem or_high_byte (x : UINT32) : 0xFF000000 ≤ (x ||| 0xFF000000).toNat := by
  rw [BitVec.toNat_or]
  exact Nat.right_le_or

theorem storeReport_packetsLost (currentTime now : UINT64)
    (u : ReportedTransceiver) :
    (0 ≤ rrCumulativeLost t →
      (storeReport now (reportPayload t currentTime) u).remoteInboundStats.packetsLost =
        rrCumulativeLost t) ∧
    (rrCumulativeLost t < 0 → 0xFF000000 ≤
      (storeReport now (reportPayload t currentTime) u).remoteInboundStats.packetsLost) := by
  have hc := reportPayload_cumulativeLost t currentTime
  have hb : -0x800000 ≤ rrCumulativeLost t ∧ rrCumulativeLost t ≤ 0x7FFFFF := clamp24_bounds _
  have hlt : (getUnalignedInt32BigEndian (reportPayload t currentTime) 8 &&&
      0x00ffffff).toNat < 2 ^ 24 := by omega
  have hsign := sign_bit hlt
  simp only [storeReport]
  constructor
  · intro h0
    rw [if_neg (by rw [hsign]; omega)]
    omega
  · intro hneg
    rw [if_pos (by rw [hsign]; omega)]
    have := or_high_byte (getUnalignedInt32BigEndian (reportPayload t currentTime) 8 &&& 0x00ffffff)
    omega

theorem storeReport_packetsReceived (currentTime now : UINT64)
    {u : ReportedTransceiver} (hs : u.seqInitialized = true) (h0 : 0 ≤ rrCumulativeLost t)
    (hle : rrCumulativeLost t ≤ (senderExpected t u).toNat) :
    ((storeReport now (reportPayload t currentTime) u).remoteInboundStats.packetsReceived.toNat :
      Int) = (senderExpected t u).toNat - rrCumulativeLost t := by
  have hc := reportPayload_cumulativeLost t currentTime
  have hb : -0x800000 ≤ rrCumulativeLost t ∧ rrCumulativeLost t ≤ 0x7FFFFF := clamp24_bounds _
  have hexp := (senderExpected t u).isLt
  simp only [storeReport, reportPayload_extMax]
  unfold senderExpected at hle hexp ⊢
  generalize t.extMax - u.initialSequenceNumber.zeroExtend 32 + 1 = x at hle hexp ⊢
  rw [if_pos ⟨hs, by omega⟩, BitVec.zeroExtend, BitVec.toNat_setWidth, BitVec.toNat_sub]
  omega

theorem storeReport_fractionLost (currentTime now : UINT64)
    (u : ReportedTransceiver) :
    (storeReport now (reportPayload t currentTime) u).remoteInboundStats.fractionLost =
      (rrFraction t).toNat / 255 := by
  have hpos : (-1 : Rat) < (rrFraction t).toNat / 255 := by
    have : (0 : Rat) ≤ (rrFraction t).toNat / 255 := by positivity
    linarith
  exact if_pos hpos

/-- The clamped 32 bit difference is the clamped loss as long as the loss fits 31 bits. -/
theorem rrCumulativeLost_eq {t : ReportingTransceiver J} (h0 : 0 ≤ receiverLoss t)
    (h1 : receiverLoss t < 2 ^ 31) : rrCumulativeLost t = clamp24 (receiverLoss t) := by
  have he := t.expected.isLt
  unfold receiverLoss at h0 h1 ⊢
  unfold rrCumulativeLost
  dsimp only
  congr 1
  rw [BitVec.toInt_eq_toNat_cond, BitVec.toNat_sub, BitVec.truncate, BitVec.toNat_setWidth]
  split
  · omega
  · omega

theorem rrCumulativeLost_neg {t : ReportingTransceiver J} (h1 : 2 ^ 31 ≤ receiverLoss t) :
    rrCumulativeLost t < 0 := by
  have he := t.expected.isLt
  have hneg : (t.expected - t.inboundStats.packetsReceived.truncate 32).toInt < 0 := by
    unfold receiverLoss at h1
    rw [BitVec.toInt_eq_toNat_cond, BitVec.toNat_sub, BitVec.truncate, BitVec.toNat_setWidth]
    split
    · omega
    · omega
  unfold rrCumulativeLost clamp24
  rw [if_neg (by omega)]
  split
  · omega
  · exact hneg

theorem updateBySsrc_append {ssrc : UINT32} {f : ReportedTransceiver → ReportedTransceiver}
    {u : ReportedTransceiver} (hu : u.hasSsrc ssrc = true) (after : List ReportedTransceiver) :
    ∀ {before : List ReportedTransceiver}, (∀ v ∈ before, v.hasSsrc ssrc = false) →
      updateBySsrc ssrc f (before ++ u :: after) = before ++ f u :: after
  | [], _ => by simp [updateBySsrc, hu]
  | v :: before, h => by
    have hv := h v List.mem_cons_self
    have ih : updateBySsrc ssrc f (before ++ u :: after) = before ++ f u :: after :=
      updateBySsrc_append hu after (fun w hw => h w (List.mem_cons_of_mem _ hw))
    simp [updateBySsrc, hv, ih]

/-- **The report reaches the sender.**  For every receive state with something to report and every
peer that sends the stream, the sender's statistics after the report say what the receiver counted
exactly when the loss is not negative, is below 2^31, and (clamped) is not more than the number of
packets the sender expects. -/
theorem receiverReport_round_trip_iff (t : ReportingTransceiver J) (currentTime now : UINT64)
    (packetLen : Nat) (before after : List ReportedTransceiver) (u : ReportedTransceiver)
    (hlen : RTCP_RECEIVER_REPORT_LEN ≤ packetLen) (hssrc : t.jitterBufferSsrc ≠ 0)
    (hinit : t.rrSeqInitialized = true) (hu : u.ssrc = t.jitterBufferSsrc)
    (hseq : u.seqInitialized = true)
    (hbefore : ∀ v ∈ before, v.hasSsrc t.jitterBufferSsrc = false) :
    (∃ bytes p u', (rtcpBuildReceiverReport t currentTime packetLen).2 = .packet bytes ∧
      setRtcpPacketFromBytes bytes = .ok p ∧
      onRtcpReceiverReport now p (before ++ u :: after) = before ++ u' :: after ∧
      Reported t u u'.remoteInboundStats) ↔
    t.inboundStats.packetsReceived.toNat ≤ t.expected.toNat ∧
      t.expected.toNat - t.inboundStats.packetsReceived.toNat < 2 ^ 31 ∧
      clamp24 (receiverLoss t) ≤ (senderExpected t u).toNat := by
  have hhas : u.hasSsrc t.jitterBufferSsrc = true := by
    simp [ReportedTransceiver.hasSsrc, hu]
  have hbuild : (rtcpBuildReceiverReport t currentTime packetLen).2 =
      .packet (receiverReportBytes t currentTime) := by
    unfold rtcpBuildReceiverReport
    rw [if_neg (by omega), if_neg (by simp only [hssrc, hinit, Bool.true_eq_false, or_self,
      not_false_eq_true])]
  have hstore : ∀ p, setRtcpPacketFromBytes (receiverReportBytes t currentTime) = .ok p →
      onRtcpReceiverReport now p (before ++ u :: after) =
        before ++ storeReport now (reportPayload t currentTime) u :: after := by
    intro p hp
    rw [setRtcpPacketFromBytes_report] at hp
    cases hp
    unfold onRtcpReceiverReport
    rw [if_neg (not_not.mpr rfl), reportPayload_ssrc]
    exact updateBySsrc_append hhas after hbefore
  obtain ⟨hpos, hneg⟩ := storeReport_packetsLost t currentTime now u
  have hclamp := clamp24_bounds (receiverLoss t)
  constructor
  · rintro ⟨bytes, p, u', hb, hp, hon, hlost, -, hrecv⟩
    rw [hbuild] at hb
    cases hb
    rw [hstore p hp, List.append_cancel_left_eq, List.cons.injEq] at hon
    obtain ⟨rfl, -⟩ := hon
    -- a negative number on the wire is stored as a huge one
    have h0 : 0 ≤ rrCumulativeLost t := by
      by_contra h0
      have := hneg (by omega)
      omega
    have hsmall : receiverLoss t < 2 ^ 31 := by
      by_contra hbig
      have := rrCumulativeLost_neg (t := t) (by omega)
      omega
    have hloss : 0 ≤ receiverLoss t := by
      have hp0 := hpos h0
      unfold clamp24 at hlost
      split at hlost
      · omega
      · split at hlost
        · omega
        · omega
    have hnonneg : (0 : Int) ≤ (storeReport now (reportPayload t currentTime)
      u).remoteInboundStats.packetsReceived.toNat := Int.natCast_nonneg _
    refine ⟨?_, ?_, by omega⟩
    · unfold receiverLoss at hloss
      omega
    · unfold receiverLoss at hsmall
      omega
  · rintro ⟨hle, hlt, hexp⟩
    have hloss : 0 ≤ receiverLoss t ∧ receiverLoss t < 2 ^ 31 := by
      unfold receiverLoss
      omega
    have hcum := rrCumulativeLost_eq hloss.1 hloss.2
    have h0 : 0 ≤ rrCumulativeLost t := by
      rw [hcum]
      unfold clamp24
      split
      · omega
      · split
        · omega
        · omega
    refine ⟨_, _, _, hbuild, setRtcpPacketFromBytes_report t currentTime,
      hstore _ (setRtcpPacketFromBytes_report t currentTime), ?_, ?_, ?_⟩
    · rw [hpos h0, hcum]
    · exact storeReport_fractionLost t currentTime now u
    · rw [← hcum]
      exact storeReport_packetsReceived t currentTime now hseq h0 (by rw [hcum]; exact hexp)

/-! ## Sample reports -/

/-- A receiver that saw the numbers 0 to 99, with `n` packets counted. -/
def hundredExpected (n : Nat) : ReportingTransceiver Unit where
  rrMaxSeq := 99
  rrCycles := 0
  rrBaseSeq := 0
  rrBadSeq := 65537
  rrExpectedPrior := 0
  rrReceivedPrior := 0
  rrSeqInitialized := true
  pJitterBuffer := ()
  inboundStats := ⟨BitVec.ofNat 64 n, 100 - n, 0, 0, 0, 0, 0, 0, 0⟩
  receiverRedPayloadType := 0
  receiverOpusPayloadType := 0
  ssrc := 1
  jitterBufferSsrc := 7
  jitter := 0
  lastSRNtpMid := 0
  lastSRReceivedTime := 0

def streamSender : ReportedTransceiver where
  ssrc := 7
  rtxSsrc := 8
  jitterBufferSsrc := 1
  seqInitialized := true
  initialSequenceNumber := 0
  clockRate := 90000
  remoteInboundStats := ⟨0, 0, 0, 0, 0, 0, 0, 0⟩

/-- Three of a hundred packets lost. -/
theorem receiverReport_round_trip_three_lost :
    ∃ bytes p u', (rtcpBuildReceiverReport (hundredExpected 97) 0 32).2 = .packet bytes ∧
      setRtcpPacketFromBytes bytes = .ok p ∧
      onRtcpReceiverReport 0 p ([] ++ streamSender :: []) = [] ++ u' :: [] ∧
      Reported (hundredExpected 97) streamSender u'.remoteInboundStats :=
  (receiverReport_round_trip_iff (hundredExpected 97) 0 0 32 [] [] streamSender (by decide)
    (by decide) rfl rfl rfl (by simp)).mpr ⟨by decide, by decide, by decide⟩

/-- One packet counted twice: the loss of -1 arrives as 2^32 - 1, and the number of packets
received is not updated at all. -/
theorem negative_loss_stored_unsigned :
    receiverLoss (hundredExpected 101) = -1 ∧
    (storeReport 0 (reportPayload (hundredExpected 101) 0)
      streamSender).remoteInboundStats.packetsLost = 4294967295 ∧
    (storeReport 0 (reportPayload (hundredExpected 101) 0)
      streamSender).remoteInboundStats.packetsReceived = 0 ∧
    ¬ ∃ bytes p u', (rtcpBuildReceiverReport (hundredExpected 101) 0 32).2 = .packet bytes ∧
      setRtcpPacketFromBytes bytes = .ok p ∧
      onRtcpReceiverReport 0 p [streamSender] = [u'] ∧
      Reported (hundredExpected 101) streamSender u'.remoteInboundStats := by
  refine ⟨by decide, by decide, by decide, ?_⟩
  rintro ⟨bytes, p, u', hb, hp, hon, hlost, -, -⟩
  have hbytes : bytes = receiverReportBytes (hundredExpected 101) 0 := by
    cases hb
    rfl
  subst hbytes
  rw [setRtcpPacketFromBytes_report] at hp
  cases hp
  have hu' : u' = storeReport 0 (reportPayload (hundredExpected 101) 0) streamSender := by
    cases hon
    rfl
  subst hu'
  revert hlost
  decide

end KvsWebrtc.Rtcp
