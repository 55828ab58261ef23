import KvsWebrtc.Rtcp.RrtrAnswers
import Mathlib.Data.List.Induction

/-!
# Round trip times

The time of a sender report or an RRTR comes back with the time it was held, in 1/65536 s.  Each of
the three conversions rounds down, and the difference is taken modulo 2^32.  Next to
`rtcpBuildSenderReport` this holds the two exchanges a round trip time is computed in, between two
endpoints whose clocks differ by a constant.

Principal results:

* `toNat_midNtp` — the middle bits are the time in 1/65536 s, modulo 2^32;
* `RoundTrip.bounds` — what the two subtractions give;
* `round_trip_time` — the round trip time of both exchanges.
-/

namespace KvsWebrtc.Rtcp.Compound

open ByteOrder Rtp

/-! ## Sender reports -/

abbrev RTCP_SENDER_REPORT_LEN : Nat := 28

/-- What `rtcpBuildSenderReport` reads of the transceiver. -/
structure SrSender where
  ssrc : UINT32
  firstFrameWallClockTime : UINT64
  rtpTimeOffset : UINT64
  clockRate : UINT32
  packetsSent : UINT64
  bytesSent : UINT64
  deriving DecidableEq, Repr

def CONVERT_TIMESTAMP_TO_RTP (clockRate : UINT32) (pts : UINT64) : UINT64 :=
  pts * clockRate.zeroExtend 64 / HUNDREDS_OF_NANOS_IN_A_SECOND

def senderReportPayload (t : SrSender) (currentTime : UINT64) : Bytes :=
  putUnalignedInt32BigEndian t.ssrc ++
  (putUnalignedInt64BigEndian (convertTimestampToNTP currentTime) ++
  (putUnalignedInt32BigEndian ((t.rtpTimeOffset + CONVERT_TIMESTAMP_TO_RTP t.clockRate
    (currentTime - t.firstFrameWallClockTime)).truncate 32) ++
  (putUnalignedInt32BigEndian (t.packetsSent.truncate 32) ++
  putUnalignedInt32BigEndian (t.bytesSent.truncate 32))))

def senderReportBytes (t : SrSender) (currentTime : UINT64) : Bytes :=
  [RTCP_PACKET_VERSION_VAL <<< 6, RTCP_PACKET_TYPE_SENDER_REPORT] ++
    (putUnalignedInt16BigEndian
      (BitVec.ofNat 16 (RTCP_SENDER_REPORT_LEN / RTCP_PACKET_LEN_WORD_SIZE - 1)) ++
      senderReportPayload t currentTime)

/-- Reports start two and a half seconds after the first frame. -/
def rtcpBuildSenderReport (t : SrSender) (currentTime : UINT64) (packetLen : Nat) : BuildResult :=
  if packetLen < RTCP_SENDER_REPORT_LEN then .BUFFER_TOO_SMALL
  else if t.firstFrameWallClockTime = 0 ∨
      currentTime - t.firstFrameWallClockTime < 2500 * 10000 then .nothingToSend
  else .packet (senderReportBytes t currentTime)

/-! ## Times in 1/65536 s -/

/-- A number of 100 ns units in 1/65536 s, rounded down. -/
def inDlsrUnits (time : Nat) : Nat := time * DLSR_TIMESCALE / 10000000

theorem inDlsrUnits_add (a b : Nat) : inDlsrUnits a + inDlsrUnits b ≤ inDlsrUnits (a + b) ∧
    inDlsrUnits (a + b) ≤ inDlsrUnits a + inDlsrUnits b + 1 := by
  change a * 65536 / 10000000 + b * 65536 / 10000000 ≤ (a + b) * 65536 / 10000000 ∧
    (a + b) * 65536 / 10000000 ≤ a * 65536 / 10000000 + b * 65536 / 10000000 + 1
  omega

theorem toNat_convertTimestampToNTP (time : UINT64) : (convertTimestampToNTP time).toNat =
    (time.toNat / 10000000 + 2208988800) % 2 ^ 32 * 2 ^ 32 +
      time.toNat % 10000000 * 2 ^ 32 / 10000000 := by
  have hfrac : time.toNat % 10000000 * 2 ^ 32 / 10000000 < 2 ^ 32 := by
    have := Nat.mod_lt time.toNat (show 0 < 10000000 by decide)
    omega
  have hlow : (time % HUNDREDS_OF_NANOS_IN_A_SECOND * NTP_TIMESCALE /
      HUNDREDS_OF_NANOS_IN_A_SECOND).toNat = time.toNat % 10000000 * 2 ^ 32 / 10000000 := by
    rw [BitVec.toNat_udiv, BitVec.toNat_mul, BitVec.toNat_umod]
    change time.toNat % 10000000 * 2 ^ 32 % 2 ^ 64 / 10000000 = _
    have := Nat.mod_lt time.toNat (show 0 < 10000000 by decide)
    rw [Nat.mod_eq_of_lt (show time.toNat % 10000000 * 2 ^ 32 < 2 ^ 64 by omega)]
  have hhigh : ((time / HUNDREDS_OF_NANOS_IN_A_SECOND + NTP_OFFSET) <<< 32).toNat =
      (time.toNat / 10000000 + 2208988800) % 2 ^ 32 * 2 ^ 32 := by
    rw [BitVec.toNat_shiftLeft, BitVec.toNat_add, BitVec.toNat_udiv, Nat.shiftLeft_eq]
    change (time.toNat / 10000000 + 2208988800) % 2 ^ 64 * 2 ^ 32 % 2 ^ 64 = _
    omega
  unfold convertTimestampToNTP
  rw [BitVec.toNat_or, hhigh, hlow, Nat.mul_comm]
  exact (Nat.two_pow_add_eq_or_of_lt hfrac _).symm

/-- **The middle bits** are the time in 1/65536 s. -/
theorem toNat_midNtp (time : UINT64) : (MID_NTP (convertTimestampToNTP time)).toNat =
    (inDlsrUnits time.toNat + 2208988800 * 65536) % 2 ^ 32 := by
  have hmask : ∀ v : UINT64, (MID_NTP v).toNat = v.toNat / 2 ^ 16 % 2 ^ 32 := by
    intro v
    unfold MID_NTP
    rw [BitVec.toNat_setWidth, BitVec.toNat_and, BitVec.toNat_ushiftRight,
      Nat.shiftRight_eq_div_pow]
    change (v.toNat / 2 ^ 16 &&& (2 ^ 32 - 1)) % 2 ^ 32 = _
    rw [Nat.and_two_pow_sub_one_eq_mod, Nat.mod_mod]
  rw [hmask, toNat_convertTimestampToNTP]
  change _ = (time.toNat * 65536 / 10000000 + 2208988800 * 65536) % 2 ^ 32
  have hsplit : time.toNat * 65536 / 10000000 =
      time.toNat / 10000000 * 65536 + time.toNat % 10000000 * 65536 / 10000000 := by
    omega
  have hfrac : time.toNat % 10000000 * 2 ^ 32 / 10000000 / 2 ^ 16 =
      time.toNat % 10000000 * 65536 / 10000000 := by
    omega
  have hshift : ∀ s f : Nat,
      (s % 2 ^ 32 * 2 ^ 32 + f) / 2 ^ 16 % 2 ^ 32 = (s * 65536 + f / 2 ^ 16) % 2 ^ 32 := by
    intro s f
    omega
  rw [hshift, hfrac, hsplit]
  refine congrArg (· % 2 ^ 32) ?_
  omega

/-- The times of one exchange: two readings of the first clock with two of the second between them.
The second clock differs from the first by a constant. -/
structure RoundTrip where
  sent : UINT64
  received : UINT64
  answered : UINT64
  returned : UINT64
  d1 : Nat
  hold : Nat
  d2 : Nat
  offset : Int
  received_eq : (received.toNat : Int) = sent.toNat + d1 + offset
  answered_eq : answered.toNat = received.toNat + hold
  returned_eq : returned.toNat = sent.toNat + d1 + hold + d2
  delays : d1 + d2 < 65 * 10000000
  total : d1 + hold + d2 < 65536 * 10000000

/-- What a round trip time in 1/65536 s may be. -/
def RoundTrip.Bounds (x : RoundTrip) (rtt : Nat) : Prop :=
  inDlsrUnits (x.d1 + x.d2) ≤ rtt ∧ rtt ≤ inDlsrUnits (x.d1 + x.d2) + 2

theorem RoundTrip.toNat_held (x : RoundTrip) :
    (((x.answered - x.received) * BitVec.ofNat 64 DLSR_TIMESCALE /
      HUNDREDS_OF_NANOS_IN_A_SECOND).truncate 32 : UINT32).toNat = inDlsrUnits x.hold := by
  have hdiff : (x.answered - x.received).toNat = x.hold := by
    rw [BitVec.toNat_sub_of_le (by rw [BitVec.le_def, x.answered_eq]; omega), x.answered_eq]
    omega
  rw [BitVec.toNat_setWidth, BitVec.toNat_udiv, BitVec.toNat_mul, hdiff]
  change x.hold * 65536 % 2 ^ 64 / 10000000 % 2 ^ 32 = x.hold * 65536 / 10000000
  have htotal := x.total
  rw [Nat.mod_eq_of_lt (show x.hold * 65536 < 2 ^ 64 by omega)]
  exact Nat.mod_eq_of_lt (by omega)

/-- **The two subtractions** give the delays, and up to two units more. -/
theorem RoundTrip.bounds (x : RoundTrip) {lsr held : UINT32}
    (hlsr : lsr = MID_NTP (convertTimestampToNTP x.sent))
    (hheld : held.toNat = inDlsrUnits x.hold) :
    x.Bounds (MID_NTP (convertTimestampToNTP x.returned) - lsr - held).toNat := by
  have hreturned := toNat_midNtp x.returned
  have hsent := toNat_midNtp x.sent
  have hheld_lt := held.isLt
  rw [← hlsr] at hsent
  have hsplit : x.returned.toNat = x.sent.toNat + x.hold + (x.d1 + x.d2) := by
    rw [x.returned_eq]
    omega
  obtain ⟨hlow, hhigh⟩ := inDlsrUnits_add (x.sent.toNat + x.hold) (x.d1 + x.d2)
  obtain ⟨hlow', hhigh'⟩ := inDlsrUnits_add x.sent.toNat x.hold
  have hsmall : inDlsrUnits (x.d1 + x.d2) < 65 * 65536 := by
    have hdelays := x.delays
    change (x.d1 + x.d2) * 65536 / 10000000 < 65 * 65536
    omega
  rw [← hsplit] at hlow hhigh
  unfold RoundTrip.Bounds
  rw [BitVec.toNat_sub, BitVec.toNat_sub, hreturned, hsent]
  generalize inDlsrUnits x.returned.toNat = back at *
  generalize inDlsrUnits x.sent.toNat = out at *
  generalize inDlsrUnits (x.sent.toNat + x.hold) = outHeld at *
  generalize inDlsrUnits (x.d1 + x.d2) = delay at *
  generalize inDlsrUnits x.hold = hold at *
  rw [hheld]
  rw [hheld] at hheld_lt
  have hmod : (2 ^ 32 - hold + (2 ^ 32 - (out + 2208988800 * 65536) % 2 ^ 32 +
      (back + 2208988800 * 65536) % 2 ^ 32) % 2 ^ 32) % 2 ^ 32 = back - out - hold := by
    omega
  rw [hmod]
  omega

theorem RoundTrip.toNat_msec (x : RoundTrip) {rtt : UINT32} (h : x.Bounds rtt.toNat) :
    ((rtt * 1000 / BitVec.ofNat 32 DLSR_TIMESCALE).zeroExtend 64 : UINT64).toNat =
      rtt.toNat * 1000 / DLSR_TIMESCALE := by
  have hsmall : inDlsrUnits (x.d1 + x.d2) ≤ 4259839 := by
    have hdelays := x.delays
    change (x.d1 + x.d2) * 65536 / 10000000 ≤ 4259839
    omega
  have hrtt := h.2
  rw [BitVec.toNat_setWidth, BitVec.toNat_udiv, BitVec.toNat_mul]
  change rtt.toNat * 1000 % 2 ^ 32 / 65536 % 2 ^ 64 = rtt.toNat * 1000 / 65536
  rw [Nat.mod_eq_of_lt (show rtt.toNat * 1000 < 2 ^ 32 by omega)]
  exact Nat.mod_eq_of_lt (by omega)

/-! ## Sender report and receiver report -/

theorem setRtcpPacketFromBytes_senderReport (t : SrSender) (now : UINT64) :
    setRtcpPacketFromBytes (senderReportBytes t now) = .ok {
      version := 2, receptionReportCount := 0, packetType := RTCP_PACKET_TYPE_SENDER_REPORT,
      packetLength := 6, payload := senderReportPayload t now, payloadLength := 24 } := by
  have hlen : (senderReportBytes t now).length = 28 := by
    simp [senderReportBytes, senderReportPayload]
  have hpacket : getUnalignedInt16BigEndian (senderReportBytes t now) RTCP_PACKET_LEN_OFFSET = 6 :=
    rfl
  have hfirst : (senderReportBytes t now).getD 0 0 = 0x80 := rfl
  unfold setRtcpPacketFromBytes
  rw [hlen, hpacket, hfirst, if_neg (by decide), if_neg (by decide), if_neg (by decide)]
  rfl

theorem findTransceiver_lt {conn : KvsPeerConnection} {ssrc : UINT32} {i : Nat}
    (h : findTransceiverBySsrc conn ssrc = some i) : i < conn.pTransceivers.length :=
  (List.findIdx?_eq_some_iff_getElem.mp h).1

theorem run_onRtcpSenderReport (env : RtcpEnv) (t : SrSender) (now : UINT64)
    {conn : KvsPeerConnection} {i : Nat} (h : findTransceiverBySsrc conn t.ssrc = some i) :
    ∃ packetCnt octetCnt,
      ((onRtcpSenderReport env 24 conn).run (senderReportPayload t now)).1 =
        (updateTransceiver conn i (storeSenderReport env t.ssrc (convertTimestampToNTP now)
          packetCnt octetCnt), .SUCCESS) := by
  have hssrc : getUnalignedInt32BigEndian (senderReportPayload t now) 0 = t.ssrc :=
    get32_put32 _ _
  have hntp : getUnalignedInt64BigEndian (senderReportPayload t now) 4 =
      convertTimestampToNTP now := by
    rw [senderReportPayload, get64_skip _ (by simp), length_put32]
    exact get64_put64 _ _
  have hread : ((read32 0).run (senderReportPayload t now)).1 = t.ssrc := hssrc
  rw [onRtcpSenderReport, if_neg (by decide)]
  simp only [Traced.run_bind, hread, h]
  refine ⟨getUnalignedInt32BigEndian (senderReportPayload t now) 16,
    getUnalignedInt32BigEndian (senderReportPayload t now) 20, ?_⟩
  rw [← hntp, ← hssrc]
  rfl

theorem reportPayload_lsr {J : Type} (t : ReportingTransceiver J) (now : UINT64) :
    getUnalignedInt32BigEndian (reportPayload t now) 20 = t.lastSRNtpMid := by
  unfold reportPayload
  rw [get32_skip _ (by simp), get32_skip _ (by simp), get32_skip _ (by simp),
    get32_skip _ (by simp), get32_skip _ (by simp)]
  exact get32_put32 _ _

theorem reportPayload_dlsr {J : Type} (t : ReportingTransceiver J) (now : UINT64) :
    getUnalignedInt32BigEndian (reportPayload t now) 24 = dlsr t now := by
  unfold reportPayload
  rw [get32_skip _ (by simp), get32_skip _ (by simp), get32_skip _ (by simp),
    get32_skip _ (by simp), get32_skip _ (by simp), get32_skip _ (by simp)]
  exact get32_put32 _ []

theorem run_onRtcpReceiverReport {J : Type} (env : RtcpEnv) (t : ReportingTransceiver J)
    (now : UINT64) {conn : KvsPeerConnection} {i : Nat}
    (h : findTransceiverBySsrc conn t.jitterBufferSsrc = some i) :
    ((onRtcpReceiverReport env 28 conn).run (reportPayload t now)).1 =
      (updateTransceiver conn i fun u => { u with
        toReportedTransceiver :=
          storeReport env.now (reportPayload t now) u.toReportedTransceiver }, .SUCCESS) := by
  rw [onRtcpReceiverReport, if_neg (not_not.mpr rfl), Traced.run_bind, Traced.run_bind]
  have hread : ((read32 4).run (reportPayload t now)).1 = t.jitterBufferSsrc :=
    reportPayload_ssrc t now
  simp only [hread, h]
  rfl

theorem storeReport_roundTrip {J : Type} (now : UINT64) (t : ReportingTransceiver J)
    (answered : UINT64) (u : ReportedTransceiver) (h : t.lastSRNtpMid ≠ 0) :
    let s := (storeReport now (reportPayload t answered) u).remoteInboundStats
    s.roundTripTimeMeasurements = u.remoteInboundStats.roundTripTimeMeasurements + 1 ∧
      s.roundTripTime = ((MID_NTP (convertTimestampToNTP now) - t.lastSRNtpMid - dlsr t answered) *
        1000 / BitVec.ofNat 32 DLSR_TIMESCALE).zeroExtend 64 := by
  dsimp only [storeReport]
  rw [reportPayload_lsr, reportPayload_dlsr, if_pos h, if_pos h, if_pos h]
  exact ⟨rfl, rfl⟩

/-- A sender report, the receiver report that answers it, and what both sides are when they are
handled.  The receiving transceiver is the same at the answer as far as the report goes. -/
structure ReportExchange (J : Type) extends RoundTrip where
  sender : SrSender
  senderLen : Nat
  senderReport : Bytes
  built : rtcpBuildSenderReport sender sent senderLen = .packet senderReport
  sr : RtcpPacket
  parsed : setRtcpPacketFromBytes senderReport = .ok sr
  receiverEnv : RtcpEnv
  receiverNow : receiverEnv.now = received
  receiver : KvsPeerConnection
  receiving : Nat
  found : findTransceiverBySsrc receiver sender.ssrc = some receiving
  reporting : ReportingTransceiver J
  kept : ∀ u ∈ (((onRtcpSenderReport receiverEnv sr.payloadLength receiver).run
      sr.payload).1.1.pTransceivers)[receiving]?,
    reporting.lastSRNtpMid = u.lastSRNtpMid ∧ reporting.lastSRReceivedTime = u.lastSRReceivedTime
  receiverLen : Nat
  receiverReport : Bytes
  answer : (rtcpBuildReceiverReport reporting answered receiverLen).2 = .packet receiverReport
  rr : RtcpPacket
  answerParsed : setRtcpPacketFromBytes receiverReport = .ok rr
  senderEnv : RtcpEnv
  senderNow : senderEnv.now = returned
  conn : KvsPeerConnection
  sending : Nat
  foundBack : findTransceiverBySsrc conn reporting.jitterBufferSsrc = some sending
  echoed : getUnalignedInt32BigEndian rr.payload 20 ≠ 0

/-- `rttPropDelay` when the receiver report arrives. -/
def ReportExchange.rttPropDelay {J : Type} (x : ReportExchange J) : UINT32 :=
  MID_NTP (convertTimestampToNTP x.returned) - getUnalignedInt32BigEndian x.rr.payload 20 -
    getUnalignedInt32BigEndian x.rr.payload 24

/-- The round trip time is right, and it is the one that is stored, in milliseconds. -/
def ReportExchange.Measured {J : Type} (x : ReportExchange J) : Prop :=
  x.Bounds x.rttPropDelay.toNat ∧
    ∃ u u', x.conn.pTransceivers[x.sending]? = some u ∧
      (((onRtcpReceiverReport x.senderEnv x.rr.payloadLength x.conn).run
        x.rr.payload).1.1.pTransceivers)[x.sending]? = some u' ∧
      u'.remoteInboundStats.roundTripTimeMeasurements =
        u.remoteInboundStats.roundTripTimeMeasurements + 1 ∧
      u'.remoteInboundStats.roundTripTime.toNat =
        x.rttPropDelay.toNat * 1000 / DLSR_TIMESCALE

theorem ReportExchange.answered_report {J : Type} (x : ReportExchange J) :
    x.reporting.lastSRNtpMid = MID_NTP (convertTimestampToNTP x.sent) ∧
      x.reporting.lastSRReceivedTime = x.received := by
  have hbuilt := x.built
  unfold rtcpBuildSenderReport at hbuilt
  split at hbuilt
  · cases hbuilt
  split at hbuilt
  · cases hbuilt
  have hparsed := x.parsed
  rw [← BuildResult.packet.inj hbuilt, setRtcpPacketFromBytes_senderReport] at hparsed
  obtain ⟨packetCnt, octetCnt, hrun⟩ :=
    run_onRtcpSenderReport x.receiverEnv x.sender x.sent x.found
  have hlt := findTransceiver_lt x.found
  have hkept := x.kept
  rw [← Except.ok.inj hparsed] at hkept
  change ∀ u ∈ (((onRtcpSenderReport x.receiverEnv 24 x.receiver).run
    (senderReportPayload x.sender x.sent)).1.1.pTransceivers)[x.receiving]?, _ at hkept
  rw [hrun] at hkept
  obtain ⟨hmid, htime⟩ := hkept _ (List.getElem?_modify_eq .. |>.trans (by
    rw [List.getElem?_eq_getElem hlt]
    rfl))
  exact ⟨hmid, htime.trans x.receiverNow⟩

theorem ReportExchange.parsed_report {J : Type} (x : ReportExchange J) :
    x.rr.payload = reportPayload x.reporting x.answered ∧ x.rr.payloadLength = 28 := by
  have hanswer := x.answer
  unfold rtcpBuildReceiverReport at hanswer
  split at hanswer
  · cases hanswer
  split at hanswer
  · cases hanswer
  have hparsed := x.answerParsed
  rw [← BuildResult.packet.inj hanswer, setRtcpPacketFromBytes_report] at hparsed
  rw [← Except.ok.inj hparsed]
  exact ⟨rfl, rfl⟩

theorem ReportExchange.rttPropDelay_eq {J : Type} (x : ReportExchange J) :
    x.rttPropDelay = MID_NTP (convertTimestampToNTP x.returned) - x.reporting.lastSRNtpMid -
      dlsr x.reporting x.answered := by
  rw [ReportExchange.rttPropDelay, x.parsed_report.1, reportPayload_lsr, reportPayload_dlsr]

/-- A receiver whose clock does not read 0 when the report arrives answers so that the round trip
time can be told. -/
theorem ReportExchange.measured {J : Type} (x : ReportExchange J) (h : x.received ≠ 0) :
    x.Measured := by
  obtain ⟨hmid, htime⟩ := x.answered_report
  obtain ⟨hpayload, hlength⟩ := x.parsed_report
  have hechoed := x.echoed
  rw [hpayload, reportPayload_lsr] at hechoed
  have hdlsr : dlsr x.reporting x.answered = ((x.answered - x.received) *
      BitVec.ofNat 64 DLSR_TIMESCALE / HUNDREDS_OF_NANOS_IN_A_SECOND).truncate 32 := by
    rw [dlsr, htime, if_pos h]
  have hrtt := x.rttPropDelay_eq
  have hbounds : x.Bounds x.rttPropDelay.toNat := by
    rw [hrtt]
    exact x.bounds hmid (hdlsr ▸ x.toNat_held)
  have hlt := findTransceiver_lt x.foundBack
  have hfound := List.getElem?_eq_getElem hlt
  have hstored : (((onRtcpReceiverReport x.senderEnv x.rr.payloadLength x.conn).run
      x.rr.payload).1.1.pTransceivers)[x.sending]? =
      some { x.conn.pTransceivers[x.sending] with
        toReportedTransceiver := storeReport x.returned (reportPayload x.reporting x.answered)
          x.conn.pTransceivers[x.sending].toReportedTransceiver } := by
    rw [hpayload, hlength, run_onRtcpReceiverReport _ _ _ x.foundBack, x.senderNow]
    refine List.getElem?_modify_eq .. |>.trans ?_
    rw [hfound]
    rfl
  obtain ⟨hcount, htimeStored⟩ := storeReport_roundTrip x.returned x.reporting x.answered
    x.conn.pTransceivers[x.sending].toReportedTransceiver hechoed
  refine ⟨hbounds, _, _, hfound, hstored, hcount, ?_⟩
  rw [htimeStored, ← hrtt]
  exact x.toNat_msec hbounds

/-! ## Reference time and answer -/

/-- No two slots belong to one reporter. -/
def OneSlotEach (entries : List ReceivedRrtrEntry) : Prop :=
  (entries.map ReceivedRrtrEntry.ssrc).Pairwise fun a b => a = b → b = 0

theorem storeRrtr_cases (entries : List ReceivedRrtrEntry) (ssrc ntpMid : UINT32) (now : UINT64) :
    (storeRrtr entries ssrc ntpMid now = entries ∧ ∀ e ∈ entries, e.ssrc ≠ ssrc) ∨
    ∃ before e after, entries = before ++ e :: after ∧
      storeRrtr entries ssrc ntpMid now = before ++
        { e with ssrc := ssrc, ntpMid := ntpMid, arrivalTimeHns := now } :: after ∧
      (e.ssrc = ssrc ∨ ∀ e' ∈ entries, e'.ssrc ≠ ssrc) := by
  have hmodify : ∀ slot (hslot : slot < entries.length) (f : ReceivedRrtrEntry → ReceivedRrtrEntry),
      entries.modify slot f = entries.take slot ++ f entries[slot] :: entries.drop (slot + 1) :=
    fun slot hslot f => List.modify_eq_take_cons_drop hslot
  have hsplit : ∀ slot (hslot : slot < entries.length),
      entries = entries.take slot ++ entries[slot] :: entries.drop (slot + 1) := by
    intro slot hslot
    rw [List.getElem_cons_drop, List.take_append_drop]
  unfold storeRrtr
  cases hknown : entries.findIdx? fun e => e.ssrc = ssrc with
  | some slot =>
    obtain ⟨hslot, hssrc, -⟩ := List.findIdx?_eq_some_iff_getElem.mp hknown
    exact .inr ⟨_, entries[slot], _, hsplit slot hslot, hmodify slot hslot _,
      .inl (of_decide_eq_true hssrc)⟩
  | none =>
    have hnone : ∀ e ∈ entries, e.ssrc ≠ ssrc := fun e he =>
      of_decide_eq_false (List.findIdx?_eq_none_iff.mp hknown e he)
    cases hfree : entries.findIdx? fun e => e.ssrc = 0 with
    | some slot =>
      obtain ⟨hslot, -⟩ := List.findIdx?_eq_some_iff_getElem.mp hfree
      exact .inr ⟨_, entries[slot], _, hsplit slot hslot, hmodify slot hslot _, .inr hnone⟩
    | none => exact .inl ⟨rfl, hnone⟩

theorem OneSlotEach.storeRrtr {entries : List ReceivedRrtrEntry} (h : OneSlotEach entries)
    (ssrc ntpMid : UINT32) (now : UINT64) :
    OneSlotEach (storeRrtr entries ssrc ntpMid now) := by
  rcases storeRrtr_cases entries ssrc ntpMid now with
    ⟨heq, -⟩ | ⟨before, e, after, rfl, heq, hssrc | hnone⟩
  · rwa [heq]
  · rw [heq]
    subst hssrc
    simpa only [OneSlotEach, List.map_append, List.map_cons] using h
  · rw [heq]
    unfold OneSlotEach at h ⊢
    simp only [List.map_append, List.map_cons, List.pairwise_append, List.pairwise_cons,
      List.mem_cons, forall_eq_or_imp] at h ⊢
    obtain ⟨hbefore, ⟨-, hafter⟩, hacross⟩ := h
    have hne : ∀ a, a ∈ before.map ReceivedRrtrEntry.ssrc ∨ a ∈ after.map ReceivedRrtrEntry.ssrc →
        a ≠ ssrc := by
      rintro a (ha | ha)
      · obtain ⟨e', he', rfl⟩ := List.mem_map.mp ha
        exact hnone e' (List.mem_append_left _ he')
      · obtain ⟨e', he', rfl⟩ := List.mem_map.mp ha
        exact hnone e' (List.mem_append_right _ (List.mem_cons_of_mem e he'))
    exact ⟨hbefore, ⟨fun a ha heq => absurd heq.symm (hne a (.inr ha)), hafter⟩,
      fun a ha => ⟨fun heq => absurd heq (hne a (.inl ha)), fun b hb => (hacross a ha).2 b hb⟩⟩

theorem oneSlotEach_stored {entries : List ReceivedRrtrEntry} (h : OneSlotEach entries)
    (ssrc : UINT32) (now : UINT64) (mids : List UINT32) : OneSlotEach
      (mids.foldl (fun entries ntpMid => storeRrtr entries ssrc ntpMid now) entries) := by
  induction mids generalizing entries with
  | nil => exact h
  | cons ntpMid mids ih => exact ih (h.storeRrtr ssrc ntpMid now)

theorem length_stored (entries : List ReceivedRrtrEntry) (ssrc : UINT32) (now : UINT64)
    (mids : List UINT32) :
    (mids.foldl (fun entries ntpMid => storeRrtr entries ssrc ntpMid now) entries).length =
      entries.length := by
  induction mids generalizing entries with
  | nil => rfl
  | cons ntpMid mids ih => exact (ih _).trans (length_storeRrtr entries)

theorem stored_entry {entries : List ReceivedRrtrEntry} (h : OneSlotEach entries)
    {ssrc ntpMid : UINT32} {now : UINT64} (hzero : ssrc ≠ 0) {e : ReceivedRrtrEntry}
    (he : e ∈ storeRrtr entries ssrc ntpMid now) (hssrc : e.ssrc = ssrc) :
    e.ntpMid = ntpMid ∧ e.arrivalTimeHns = now := by
  have hnew := h.storeRrtr ssrc ntpMid now
  rcases storeRrtr_cases entries ssrc ntpMid now with
    ⟨heq, hnone⟩ | ⟨before, e', after, -, heq, -⟩
  · rw [heq] at he
    exact absurd hssrc (hnone e he)
  · rw [heq] at he hnew
    unfold OneSlotEach at hnew
    simp only [List.map_append, List.map_cons, List.pairwise_append, List.pairwise_cons,
      List.mem_cons, forall_eq_or_imp] at hnew
    obtain ⟨-, ⟨hafter, -⟩, hacross⟩ := hnew
    rcases List.mem_append.mp he with hmem | hmem
    · exact absurd ((hacross _ (List.mem_map_of_mem hmem)).1 hssrc) hzero
    · rcases List.mem_cons.mp hmem with rfl | hmem
      · exact ⟨rfl, rfl⟩
      · have hback := hafter _ (List.mem_map_of_mem hmem) hssrc.symm
        exact absurd (hssrc.symm.trans hback) hzero

theorem markReplied_ssrcs (pending : ReceivedRrtrEntry) (entries : List ReceivedRrtrEntry) :
    (markReplied pending entries).map ReceivedRrtrEntry.ssrc =
      entries.map ReceivedRrtrEntry.ssrc := by
  induction entries with
  | nil => rfl
  | cons e entries ih =>
    unfold markReplied
    split
    · rfl
    · rw [List.map_cons, ih, List.map_cons]

theorem built_ssrcs (entries : List ReceivedRrtrEntry) (t : XrSender) (now : UINT64)
    (packetLen : Nat) :
    ((rtcpBuildExtendedReport entries t now packetLen).receivedRrtrs).map ReceivedRrtrEntry.ssrc =
      entries.map ReceivedRrtrEntry.ssrc := by
  have hmarks : ∀ (pending entries : List ReceivedRrtrEntry),
      (pending.foldl (fun entries e => markReplied e entries) entries).map ReceivedRrtrEntry.ssrc =
        entries.map ReceivedRrtrEntry.ssrc := by
    intro pending
    induction pending with
    | nil => exact fun entries => rfl
    | cons e pending ih => exact fun entries => (ih _).trans (markReplied_ssrcs e entries)
  rcases rtcpBuildExtendedReport_cases entries t now packetLen with
    ⟨-, htable, -⟩ | ⟨-, htable⟩ | ⟨-, htable⟩
  · rw [htable]
  · rw [htable]
  · rw [htable, hmarks]

theorem oneSlotEach_run {start : KvsPeerConnection}
    (hstart : start.receivedRrtrs = List.replicate MAX_RECEIVED_RRTR ⟨0, 0, 0, 0⟩)
    (es : List XrEvent) :
    OneSlotEach (es.foldl xrStep (xrStart start)).conn.receivedRrtrs ∧
      (es.foldl xrStep (xrStart start)).conn.receivedRrtrs.length = MAX_RECEIVED_RRTR := by
  induction es using List.reverseRecOn with
  | nil =>
    change OneSlotEach start.receivedRrtrs ∧ start.receivedRrtrs.length = MAX_RECEIVED_RRTR
    rw [hstart]
    refine ⟨?_, List.length_replicate⟩
    unfold OneSlotEach
    rw [List.map_replicate]
    exact List.pairwise_replicate.mpr (.inr fun _ => rfl)
  | append_singleton es e ih =>
    rw [List.foldl_concat]
    generalize es.foldl xrStep (xrStart start) = s at ih ⊢
    cases e with
    | receive env payload payloadLength =>
      rw [receivedRrtrs_receive]
      exact ⟨oneSlotEach_stored ih.1 _ _ _, (length_stored _ _ _ _).trans ih.2⟩
    | build t now packetLen =>
      have hssrcs := built_ssrcs s.conn.receivedRrtrs t now packetLen
      have hlength := congrArg List.length hssrcs
      rw [List.length_map, List.length_map] at hlength
      exact ⟨(congrArg (List.Pairwise _) hssrcs).mpr ih.1, hlength.trans ih.2⟩

/-! ## One answer among others -/

section Answers

variable {env : RtcpEnv} {conn : KvsPeerConnection} {i : Nat}

theorem findTransceiver_update (ssrc : UINT32) (f : RtcpTransceiver → RtcpTransceiver)
    (hf : ∀ u, (f u).hasSsrc ssrc = u.hasSsrc ssrc) :
    findTransceiverBySsrc (updateTransceiver conn i f) ssrc = findTransceiverBySsrc conn ssrc := by
  unfold findTransceiverBySsrc updateTransceiver
  induction conn.pTransceivers generalizing i with
  | nil => rw [List.modify_nil]
  | cons u us ih =>
    cases i with
    | zero => rw [List.modify_zero_cons, List.findIdx?_cons, List.findIdx?_cons, hf]
    | succ i => rw [List.modify_succ_cons, List.findIdx?_cons, List.findIdx?_cons, ih]

theorem storeDlrr_hasSsrc (subLrr subDlrr ssrc : UINT32) (u : RtcpTransceiver) :
    (storeDlrr env subLrr subDlrr u).hasSsrc ssrc = u.hasSsrc ssrc := by
  unfold storeDlrr
  split <;> rfl

theorem findTransceiver_applySubBlock (sub : DlrrSubBlock) (ssrc : UINT32) :
    findTransceiverBySsrc (applySubBlock env conn sub) ssrc = findTransceiverBySsrc conn ssrc := by
  unfold applySubBlock
  split
  · rfl
  · split
    · rfl
    · exact findTransceiver_update ssrc _ (storeDlrr_hasSsrc _ _ _)

theorem applySubBlock_other {sub : DlrrSubBlock}
    (h : findTransceiverBySsrc conn sub.ssrc ≠ some i) :
    (applySubBlock env conn sub).pTransceivers[i]? = conn.pTransceivers[i]? := by
  unfold applySubBlock
  split
  · rfl
  · rename_i k hk
    split
    · rfl
    · exact List.getElem?_modify_ne _ _ fun heq => h (heq ▸ hk)

theorem applySubBlocks_other {subs : List DlrrSubBlock}
    (h : ∀ sub ∈ subs, findTransceiverBySsrc conn sub.ssrc ≠ some i) :
    (subs.foldl (applySubBlock env) conn).pTransceivers[i]? = conn.pTransceivers[i]? ∧
      ∀ ssrc, findTransceiverBySsrc (subs.foldl (applySubBlock env) conn) ssrc =
        findTransceiverBySsrc conn ssrc := by
  induction subs generalizing conn with
  | nil => exact ⟨rfl, fun _ => rfl⟩
  | cons sub subs ih =>
    have hrest : ∀ sub' ∈ subs,
        findTransceiverBySsrc (applySubBlock env conn sub) sub'.ssrc ≠ some i := by
      intro sub' hsub'
      rw [findTransceiver_applySubBlock]
      exact h sub' (List.mem_cons_of_mem sub hsub')
    obtain ⟨hsame, hfind⟩ := ih hrest
    refine ⟨hsame.trans (applySubBlock_other (h sub List.mem_cons_self)), fun ssrc => ?_⟩
    rw [List.foldl_cons, hfind, findTransceiver_applySubBlock]

theorem applySubBlocks_one {before after : List DlrrSubBlock} {sub : DlrrSubBlock}
    (hbefore : ∀ sub' ∈ before, findTransceiverBySsrc conn sub'.ssrc ≠ some i)
    (hafter : ∀ sub' ∈ after, findTransceiverBySsrc conn sub'.ssrc ≠ some i)
    (hfound : findTransceiverBySsrc conn sub.ssrc = some i) (hlrr : sub.lrr ≠ 0) :
    ((before ++ sub :: after).foldl (applySubBlock env) conn).pTransceivers[i]? =
      conn.pTransceivers[i]?.map (storeDlrr env sub.lrr sub.dlrr) := by
  obtain ⟨hsame, hfind⟩ := @applySubBlocks_other env conn i before hbefore
  rw [List.foldl_append, List.foldl_cons]
  generalize before.foldl (applySubBlock env) conn = mid at hsame hfind
  have happly : (applySubBlock env mid sub).pTransceivers[i]? =
      mid.pTransceivers[i]?.map (storeDlrr env sub.lrr sub.dlrr) := by
    rw [applySubBlock, hfind, hfound]
    dsimp only
    rw [if_neg hlrr]
    exact List.getElem?_modify_eq ..
  have hrest : ∀ sub' ∈ after,
      findTransceiverBySsrc (applySubBlock env mid sub) sub'.ssrc ≠ some i := by
    intro sub' hsub'
    rw [findTransceiver_applySubBlock, hfind]
    exact hafter sub' hsub'
  rw [(applySubBlocks_other hrest).1, happly, hsame]

end Answers

/-- An RRTR, the answer to it, and what both sides are when they are handled.  The responder's table
is one that any run has left; the requester's transceiver still has the RRTR it sent last. -/
structure RrtrExchange extends RoundTrip where
  requesterRrtrs : List ReceivedRrtrEntry
  slots : requesterRrtrs.length = MAX_RECEIVED_RRTR
  requester : XrSender
  requestLen : Nat
  request : Bytes
  sends : sendsRrtr requester sent = true
  built : (rtcpBuildExtendedReport requesterRrtrs requester sent requestLen).result =
    .packet request
  xr : RtcpPacket
  parsed : setRtcpPacketFromBytes request = .ok xr
  start : KvsPeerConnection
  noRrtrs : start.receivedRrtrs = List.replicate MAX_RECEIVED_RRTR ⟨0, 0, 0, 0⟩
  history : List XrEvent
  responderEnv : RtcpEnv
  responderNow : responderEnv.now = received
  responder : XrSender
  answerLen : Nat
  answer : Bytes
  answerBuilt : (rtcpBuildExtendedReport (xrStep (history.foldl xrStep (xrStart start))
      (.receive responderEnv xr.payload xr.payloadLength)).conn.receivedRrtrs
    responder answered answerLen).result = .packet answer
  dlrr : RtcpPacket
  answerParsed : setRtcpPacketFromBytes answer = .ok dlrr
  subs : List DlrrSubBlock
  inAnswer : .dlrr subs ∈ visitedBlocks dlrr.payload dlrr.payloadLength
  answers : ∃ sub ∈ subs, sub.ssrc = requester.ssrc
  requesterEnv : RtcpEnv
  requesterNow : requesterEnv.now = returned
  conn : KvsPeerConnection
  asking : Nat
  found : findTransceiverBySsrc conn requester.ssrc = some asking
  others : ∀ sub ∈ subs, findTransceiverBySsrc conn sub.ssrc = some asking →
    sub.ssrc = requester.ssrc
  remembered : ∀ u ∈ conn.pTransceivers[asking]?, u.lastRrtrNtpMid =
    (rtcpBuildExtendedReport requesterRrtrs requester sent requestLen).sender.lastRrtrNtpMid
  echoed : MID_NTP (convertTimestampToNTP sent) ≠ 0

/-- One round trip time is stored, in seconds, and it is right. -/
def RrtrExchange.Measured (x : RrtrExchange) : Prop :=
  ∃ rttDlsrUnits : UINT32, x.Bounds rttDlsrUnits.toNat ∧
    ∃ u u', x.conn.pTransceivers[x.asking]? = some u ∧
      (((onRtcpExtendedReport x.requesterEnv x.dlrr.payloadLength x.conn).run
        x.dlrr.payload).1.1.pTransceivers)[x.asking]? = some u' ∧
      u'.remoteOutboundStats.roundTripTimeMeasurements =
        u.remoteOutboundStats.roundTripTimeMeasurements + 1 ∧
      u'.remoteOutboundStats.roundTripTime = rttDlsrUnits.toNat / DLSR_TIMESCALE

theorem writtenBlocks_mids (currentTime : UINT64) (pending : List ReceivedRrtrEntry) :
    (writtenBlocks true currentTime pending).filterMap XrBlock.ntpMid? =
      [MID_NTP (convertTimestampToNTP currentTime)] := by
  rw [writtenBlocks, if_pos rfl]
  split <;> rfl

theorem RrtrExchange.requested (x : RrtrExchange) :
    (xrStep (x.history.foldl xrStep (xrStart x.start)) (.receive x.responderEnv x.xr.payload
      x.xr.payloadLength)).conn.receivedRrtrs =
    storeRrtr (x.history.foldl xrStep (xrStart x.start)).conn.receivedRrtrs x.requester.ssrc
      (MID_NTP (convertTimestampToNTP x.sent)) x.received := by
  obtain ⟨hfour, hssrc, hvisited, -⟩ := built_read x.slots x.built x.parsed
  rw [receivedRrtrs_receive, receivedMids, if_neg (Nat.not_lt.mpr hfour), hvisited, x.sends,
    writtenBlocks_mids, hssrc, x.responderNow]
  rfl

theorem built_sender {entries : List ReceivedRrtrEntry} {t : XrSender} {now : UINT64}
    {packetLen : Nat} {bytes : Bytes} (hsends : sendsRrtr t now = true)
    (h : (rtcpBuildExtendedReport entries t now packetLen).result = .packet bytes) :
    (rtcpBuildExtendedReport entries t now packetLen).sender.lastRrtrNtpMid =
      MID_NTP (convertTimestampToNTP now) := by
  unfold rtcpBuildExtendedReport at h ⊢
  dsimp only at h ⊢
  split at h
  · cases h
  · split at h
    · cases h
    · rw [if_neg ‹_›, if_neg ‹_›, if_pos hsends]

theorem answer_split {table : List ReceivedRrtrEntry} (hone : OneSlotEach table)
    {currentTime : UINT64} {sub : DlrrSubBlock}
    (h : sub ∈ (table.filter ReceivedRrtrEntry.isPending).map
      (ReceivedRrtrEntry.answer currentTime)) :
    ∃ before e after, table.filter ReceivedRrtrEntry.isPending = before ++ e :: after ∧
      e ∈ table ∧ sub = e.answer currentTime ∧ e.ssrc ≠ 0 ∧
      (∀ e' ∈ before, e'.ssrc ≠ e.ssrc) ∧ ∀ e' ∈ after, e'.ssrc ≠ e.ssrc := by
  obtain ⟨e, he, rfl⟩ := List.mem_map.mp h
  obtain ⟨before, after, hsplit⟩ := List.append_of_mem he
  obtain ⟨hmem, hpending⟩ := List.mem_filter.mp he
  have hne : e.ssrc ≠ 0 := by
    simp only [ReceivedRrtrEntry.isPending, Bool.and_eq_true, decide_eq_true_eq] at hpending
    exact hpending.1
  have hapart := (List.pairwise_map.mp hone).filter ReceivedRrtrEntry.isPending
  rw [hsplit, List.pairwise_append, List.pairwise_cons] at hapart
  obtain ⟨-, ⟨hafter, -⟩, hbefore⟩ := hapart
  refine ⟨before, e, after, hsplit, hmem, rfl, hne, fun e' he' heq => ?_, fun e' he' heq => ?_⟩
  · exact hne (hbefore e' he' e List.mem_cons_self heq)
  · exact hne (heq.symm.trans (hafter e' he' heq.symm))

theorem applyAnswers (env : RtcpEnv) (ssrc : UINT32) (conn : KvsPeerConnection) (send : Bool)
    (currentTime : UINT64) {pending : List ReceivedRrtrEntry} (h : pending ≠ []) :
    ∃ conn', conn'.pTransceivers = conn.pTransceivers ∧
      (writtenBlocks send currentTime pending).foldl (applyBlock env ssrc) conn =
        (pending.map (ReceivedRrtrEntry.answer currentTime)).foldl (applySubBlock env) conn' := by
  rw [writtenBlocks, if_neg h]
  cases send with
  | true =>
    exact ⟨applyBlock env ssrc conn (.rrtr (convertTimestampToNTP currentTime)), rfl, rfl⟩
  | false => exact ⟨conn, rfl, rfl⟩

/-- **The answer to an RRTR** gives the round trip time. -/
theorem RrtrExchange.measured (x : RrtrExchange) : x.Measured := by
  obtain ⟨hone, hslots⟩ := oneSlotEach_run x.noRrtrs x.history
  have hbuilt := x.answerBuilt
  rw [x.requested] at hbuilt
  have hslots' := (@length_storeRrtr x.requester.ssrc (MID_NTP (convertTimestampToNTP x.sent))
    x.received _).trans hslots
  obtain ⟨-, -, hvisited, hhandled⟩ := built_read hslots' hbuilt x.answerParsed
  have hin := x.inAnswer
  rw [hvisited] at hin
  obtain ⟨sub, hsub, hssrc⟩ := x.answers
  -- the block with the answers is the one that was written
  have hsubs : x.subs = ((storeRrtr (x.history.foldl xrStep (xrStart x.start)).conn.receivedRrtrs
      x.requester.ssrc (MID_NTP (convertTimestampToNTP x.sent)) x.received).filter
      ReceivedRrtrEntry.isPending).map (ReceivedRrtrEntry.answer x.answered) := by
    rcases List.mem_append.mp hin with hfirst | hsecond
    · split at hfirst
      · cases List.mem_singleton.mp hfirst
      · exact absurd hfirst List.not_mem_nil
    · split at hsecond
      · exact absurd hsecond List.not_mem_nil
      · exact XrBlock.dlrr.inj (List.mem_singleton.mp hsecond)
  rw [hsubs] at hsub
  obtain ⟨before, e, after, hsplit, he, rfl, hzero, hbefore, hafter⟩ :=
    answer_split (hone.storeRrtr _ _ _) hsub
  have hreporter : e.ssrc = x.requester.ssrc := hssrc
  obtain ⟨hmid, harrival⟩ := stored_entry hone (hreporter ▸ hzero) he hreporter
  have hfind : ∀ e' : ReceivedRrtrEntry, e' ∈ before ∨ e' ∈ after →
      findTransceiverBySsrc x.conn (e'.answer x.answered).ssrc ≠ some x.asking := by
    intro e' he' hasking
    have hmem : e'.answer x.answered ∈ x.subs := by
      rw [hsubs, hsplit, List.map_append, List.map_cons, List.mem_append, List.mem_cons]
      rcases he' with he' | he'
      · exact .inl (List.mem_map_of_mem he')
      · exact .inr (.inr (List.mem_map_of_mem he'))
    have heq : e'.ssrc = e.ssrc := (x.others _ hmem hasking).trans hreporter.symm
    rcases he' with he' | he'
    · exact hbefore e' he' heq
    · exact hafter e' he' heq
  have hlt := findTransceiver_lt x.found
  have hfound := List.getElem?_eq_getElem hlt
  have hremembered := x.remembered _ hfound
  rw [built_sender x.sends x.built] at hremembered
  have hlrr : (e.answer x.answered).lrr = MID_NTP (convertTimestampToNTP x.sent) := hmid
  have hnonempty : before ++ e :: after ≠ [] := by simp
  rw [hsplit] at hhandled
  obtain ⟨conn', hsame, hfold⟩ := applyAnswers x.requesterEnv x.responder.ssrc x.conn
    (sendsRrtr x.responder x.answered) x.answered hnonempty
  have hstored : (((onRtcpExtendedReport x.requesterEnv x.dlrr.payloadLength x.conn).run
      x.dlrr.payload).1.1.pTransceivers)[x.asking]? = some (storeDlrr x.requesterEnv
        (e.answer x.answered).lrr (e.answer x.answered).dlrr x.conn.pTransceivers[x.asking]) := by
    have hfind' : ∀ ssrc, findTransceiverBySsrc conn' ssrc = findTransceiverBySsrc x.conn ssrc := by
      intro ssrc
      unfold findTransceiverBySsrc
      rw [hsame]
    rw [hhandled, hfold, List.map_append, List.map_cons, applySubBlocks_one, hsame, hfound]
    · rfl
    · intro sub' hsub'
      obtain ⟨e', he', rfl⟩ := List.mem_map.mp hsub'
      rw [hfind']
      exact hfind e' (.inl he')
    · intro sub' hsub'
      obtain ⟨e', he', rfl⟩ := List.mem_map.mp hsub'
      rw [hfind']
      exact hfind e' (.inr he')
    · rw [hfind', hssrc]
      exact x.found
    · rw [hlrr]
      exact x.echoed
  have hheld : (e.answer x.answered).dlrr.toNat = inDlsrUnits x.hold := by
    change (((x.answered - e.arrivalTimeHns) * BitVec.ofNat 64 DLSR_TIMESCALE /
      HUNDREDS_OF_NANOS_IN_A_SECOND).truncate 32 : UINT32).toNat = _
    rw [harrival]
    exact x.toNat_held
  have hbounds := x.bounds hmid hheld
  refine ⟨_, hbounds, _, _, hfound, hstored, ?_⟩
  have hcounted : x.conn.pTransceivers[x.asking].lastRrtrNtpMid ≠ 0 ∧
      (e.answer x.answered).lrr = x.conn.pTransceivers[x.asking].lastRrtrNtpMid := by
    rw [hremembered]
    exact ⟨x.echoed, hlrr⟩
  rw [storeDlrr, if_pos hcounted, x.requesterNow]
  exact ⟨rfl, rfl⟩

/-- **Round trip times** of both exchanges lie between the delays in 1/65536 s, rounded down, and
two units more, if the receiver's clock does not read 0 when the sender report arrives. -/
theorem round_trip_time {J : Type} (x : ReportExchange J) (h : x.received ≠ 0) (y : RrtrExchange) :
    x.Measured ∧ y.Measured := ⟨x.measured h, y.measured⟩

/-! ## Sample exchanges -/

/-- A transceiver that sends the stream 7, or receives it. -/
def streamTransceiver (ssrc jitterBufferSsrc lastRrtrNtpMid : UINT32) : RtcpTransceiver where
  toReportedTransceiver := { streamSender with ssrc := ssrc, jitterBufferSsrc := jitterBufferSsrc }
  retransmitter := false
  onPictureLoss := false
  onBandwidthEstimation := false
  nackCount := 0
  firCount := 0
  pliCount := 0
  sliCount := 0
  lastSRNtpMid := 0
  lastSRReceivedTime := 0
  lastRrtrNtpMid := lastRrtrNtpMid
  remoteOutboundStats := ⟨0, 0, 0, 0, 0, 0, 0, 0⟩

/-- Ten seconds by the first clock. -/
def tenSeconds : UINT64 := 100000000

/-- A tenth of a second each way and one second between; the second clock reads `received`. -/
def sampleTimes (received : UINT64) (h : received.toNat + 10000000 < 2 ^ 64) : RoundTrip where
  sent := tenSeconds
  received := received
  answered := BitVec.ofNat 64 (received.toNat + 10000000)
  returned := 112000000
  d1 := 1000000
  hold := 10000000
  d2 := 1000000
  offset := received.toNat - 101000000
  received_eq := by
    change _ = (100000000 : Int) + 1000000 + _
    omega
  answered_eq := by
    rw [BitVec.toNat_ofNat]
    exact Nat.mod_eq_of_lt h
  returned_eq := rfl
  delays := by decide
  total := by decide

def sampleSender : SrSender := ⟨7, 1, 0, 90000, 0, 0⟩

def sampleReporting (received : UINT64) : ReportingTransceiver Unit :=
  { hundredExpected 100 with
    lastSRNtpMid := MID_NTP (convertTimestampToNTP tenSeconds)
    lastSRReceivedTime := received }

def sampleReports (received : UINT64) (h : received.toNat + 10000000 < 2 ^ 64) :
    ReportExchange Unit where
  toRoundTrip := sampleTimes received h
  sender := sampleSender
  senderLen := 28
  senderReport := senderReportBytes sampleSender tenSeconds
  built := by
    change rtcpBuildSenderReport sampleSender tenSeconds 28 = _
    rw [rtcpBuildSenderReport, if_neg (by decide), if_neg (by decide)]
  sr := _
  parsed := setRtcpPacketFromBytes_senderReport sampleSender tenSeconds
  receiverEnv := ⟨received, fun _ _ => true⟩
  receiverNow := rfl
  receiver := { noRrtrs with pTransceivers := [streamTransceiver 1 7 0] }
  receiving := 0
  found := rfl
  reporting := sampleReporting received
  kept := by
    have hfound : findTransceiverBySsrc { noRrtrs with
        pTransceivers := [streamTransceiver 1 7 0] } sampleSender.ssrc = some 0 := rfl
    obtain ⟨packetCnt, octetCnt, hrun⟩ := run_onRtcpSenderReport ⟨received, fun _ _ => true⟩
      sampleSender tenSeconds hfound
    intro u hu
    rw [hrun] at hu
    cases hu
    exact ⟨rfl, rfl⟩
  receiverLen := 32
  receiverReport := receiverReportBytes (sampleReporting received)
    (BitVec.ofNat 64 (received.toNat + 10000000))
  answer := rfl
  rr := _
  answerParsed := setRtcpPacketFromBytes_report _ _
  senderEnv := ⟨112000000, fun _ _ => true⟩
  senderNow := rfl
  conn := { noRrtrs with pTransceivers := [streamTransceiver 7 1 0] }
  sending := 0
  foundBack := rfl
  echoed := by
    rw [reportPayload_lsr]
    change MID_NTP (convertTimestampToNTP tenSeconds) ≠ 0
    decide +kernel

def sampleRequest : Bytes := extendedReportBytes 7 [.rrtr (convertTimestampToNTP tenSeconds)] 20

def sampleAnswer : DlrrSubBlock :=
  ReceivedRrtrEntry.answer 10000001 ⟨7, MID_NTP (convertTimestampToNTP tenSeconds), 1, 0⟩

def sampleAnswers : Bytes :=
  extendedReportBytes 1 [.rrtr (convertTimestampToNTP 10000001), .dlrr [sampleAnswer]] 36

/-- The payload of a packet of that length. -/
def payloadOf (bytes : Bytes) (packetLength : UINT16) : RtcpPacket where
  version := 2
  receptionReportCount := 0
  packetType := RTCP_PACKET_TYPE_EXTENDED_REPORT
  packetLength := packetLength
  payload := bytes.drop 4
  payloadLength := packetLength.toNat * 4

def sampleRrtrs : RrtrExchange where
  toRoundTrip := sampleTimes 1 (by decide)
  requesterRrtrs := noRrtrs.receivedRrtrs
  slots := rfl
  requester := ⟨7, 0, 0⟩
  requestLen := 72
  request := sampleRequest
  sends := rfl
  built := rfl
  xr := payloadOf sampleRequest 4
  parsed := rfl
  start := noRrtrs
  noRrtrs := rfl
  history := []
  responderEnv := ⟨1, fun _ _ => true⟩
  responderNow := rfl
  responder := ⟨1, 0, 0⟩
  answerLen := 72
  answer := sampleAnswers
  answerBuilt := rfl
  dlrr := payloadOf sampleAnswers 8
  answerParsed := rfl
  subs := [sampleAnswer]
  inAnswer := by decide +kernel
  answers := ⟨sampleAnswer, List.mem_singleton_self _, rfl⟩
  requesterEnv := ⟨112000000, fun _ _ => true⟩
  requesterNow := rfl
  conn := { noRrtrs with
    pTransceivers := [streamTransceiver 7 1 (MID_NTP (convertTimestampToNTP tenSeconds))] }
  asking := 0
  found := rfl
  others := fun sub hsub _ => by
    cases List.mem_singleton.mp hsub
    rfl
  remembered := fun u hu => by
    cases hu
    rfl
  echoed := by decide +kernel

theorem round_trip_time_sample :
    (sampleReports 1 (by decide)).Measured ∧ sampleRrtrs.Measured :=
  round_trip_time (sampleReports 1 (by decide)) (by decide) sampleRrtrs

/-- A clock that reads 0 says that there was no sender report: the delay stays 0, and the second the
report was held counts as delay. -/
theorem not_round_trip_time : ¬∀ x : ReportExchange Unit, x.Measured := by
  intro h
  have hhigh : ∀ x : ReportExchange Unit, (MID_NTP (convertTimestampToNTP x.returned) -
      x.reporting.lastSRNtpMid - dlsr x.reporting x.answered).toNat ≤
        inDlsrUnits (x.d1 + x.d2) + 2 := fun x => x.rttPropDelay_eq ▸ (h x).1.2
  have hwrong : ¬(MID_NTP (convertTimestampToNTP 112000000) -
      MID_NTP (convertTimestampToNTP tenSeconds) -
      dlsr (sampleReporting 0) 10000000).toNat ≤ inDlsrUnits (1000000 + 1000000) + 2 := by
    decide +kernel
  exact hwrong (hhigh (sampleReports 0 (by decide)))

end KvsWebrtc.Rtcp.Compound
