import KvsWebrtc.Lib.Traced
import KvsWebrtc.Rtcp.ReceiverReport
import KvsWebrtc.Rtcp.TwccAccounting

/-!
# Compound RTCP packets (`onRtcpPacket`)

The loop cuts a decrypted buffer into sub-packets and hands each to the handler of its type; the
first handler that fails ends it.  The handlers read their payload through `Traced`, so the offsets
a handler reads come out of its own definition.

The memory is what can be read from the buffer on, which may go on behind `buffLen`.  Sending
packets again in answer to a NACK is a parameter, and round trip times are rational.  The transport-wide
feedback handler is the one of `TwccAccounting`; where it reads is the subject of `TwccWalk`.

Principal results:

* `handler_within` — every handler but the three that take the media SSRC from bytes 4 to 7 without
  a look at the length reads inside the payload only;
* `compound_safe_iff` — the loop ends, its sub-packets lie inside the buffer and the handlers read
  inside them exactly when those three get eight bytes and the chunks of a feedback reach its count.
-/

namespace KvsWebrtc.Rtcp.Compound

abbrev RTCP_PACKET_TYPE_FIR : UINT8 := 192
abbrev RTCP_PACKET_TYPE_SENDER_REPORT : UINT8 := 200
abbrev RTCP_PACKET_TYPE_PAYLOAD_SPECIFIC_FEEDBACK : UINT8 := 206
abbrev RTCP_PACKET_TYPE_EXTENDED_REPORT : UINT8 := 207
abbrev RTCP_FEEDBACK_MESSAGE_TYPE_NACK : UINT8 := 1
abbrev RTCP_PSFB_PLI : UINT8 := 1
abbrev RTCP_PSFB_SLI : UINT8 := 2
abbrev RTCP_PSFB_FIR : UINT8 := 4
abbrev RTCP_FEEDBACK_MESSAGE_TYPE_APPLICATION_LAYER_FEEDBACK : UINT8 := 15
abbrev RTCP_NACK_LIST_LEN : Nat := 8
abbrev RTCP_PACKET_REMB_MIN_SIZE : Nat := 16
abbrev RTCP_PACKET_REMB_IDENTIFIER_OFFSET : Nat := 8
abbrev RTCP_PACKET_REMB_MANTISSA_BITMASK : UINT32 := 0x3FFFF
abbrev RTCP_PACKET_SENDER_REPORT_MINLEN : Nat := 24
abbrev PSFB_FIR_MIN_SIZE : Nat := 16
abbrev PSFB_FIR_FCI_SSRC_OFFSET : Nat := 8
abbrev RTCP_XR_BLOCK_TYPE_RRTR : UINT8 := 4
abbrev RTCP_XR_BLOCK_TYPE_DLRR : UINT8 := 5
abbrev RTCP_XR_DLRR_SUBBLOCK_LEN : Nat := 12

inductive RtcpStatus where
  | SUCCESS
  | RTCP_INPUT_PACKET_TOO_SMALL
  | RTCP_INPUT_PARTIAL_PACKET
  | RTCP_INPUT_PACKET_INVALID_VERSION
  | RTCP_INPUT_SSRC_INVALID
  | RTCP_INPUT_NACK_LIST_INVALID
  | RTCP_INPUT_REMB_TOO_SMALL
  | RTCP_INPUT_REMB_INVALID
  | NOT_FOUND
  | INVALID_OPERATION
  | RESEND_FAILED
  deriving DecidableEq, Repr

def RtcpStatus.ofInput : STATUS → RtcpStatus
  | .RTCP_INPUT_PACKET_TOO_SMALL => .RTCP_INPUT_PACKET_TOO_SMALL
  | .RTCP_INPUT_PARTIAL_PACKET => .RTCP_INPUT_PARTIAL_PACKET
  | .RTCP_INPUT_PACKET_INVALID_VERSION => .RTCP_INPUT_PACKET_INVALID_VERSION

structure RemoteOutboundStats where
  reportsSent : UINT64
  packetsSent : UINT64
  bytesSent : UINT64
  ssrc : UINT32
  remoteTimestamp : UINT64
  roundTripTime : Rat
  totalRoundTripTime : Rat
  roundTripTimeMeasurements : UINT64

/-- A transceiver as the handlers find it.  Of the callbacks it says which are registered. -/
structure RtcpTransceiver extends ReportedTransceiver where
  retransmitter : Bool
  onPictureLoss : Bool
  onBandwidthEstimation : Bool
  nackCount : UINT32
  firCount : UINT32
  pliCount : UINT32
  sliCount : UINT32
  lastSRNtpMid : UINT32
  lastSRReceivedTime : UINT64
  lastRrtrNtpMid : UINT32
  remoteOutboundStats : RemoteOutboundStats

structure ReceivedRrtrEntry where
  ssrc : UINT32
  ntpMid : UINT32
  arrivalTimeHns : UINT64
  lastRepliedNtpMid : UINT32

/-- A call of a callback of the transceiver at a position. -/
inductive RtcpCallback where
  | onPictureLoss (transceiver : Nat)
  | onBandwidthEstimation (transceiver : Nat) (maximumBitRate : Nat)
  deriving DecidableEq, Repr

structure KvsPeerConnection where
  pTransceivers : List RtcpTransceiver
  pTwccManager : Option TwccManager
  onSenderBandwidthEstimation : Bool
  onTwccPacketReport : Bool
  receivedRrtrs : List ReceivedRrtrEntry
  callbacks : List RtcpCallback

/-- What a handler depends on besides: the clock, and whether resending for a transceiver works. -/
structure RtcpEnv where
  now : UINT64
  resend : Nat → List (UINT16 × UINT16) → Bool

def findTransceiverBySsrc (conn : KvsPeerConnection) (ssrc : UINT32) : Option Nat :=
  conn.pTransceivers.findIdx? fun u => u.hasSsrc ssrc

def updateTransceiver (conn : KvsPeerConnection) (i : Nat)
    (f : RtcpTransceiver → RtcpTransceiver) : KvsPeerConnection :=
  { conn with pTransceivers := conn.pTransceivers.modify i f }

/-- `onPictureLoss` of the transceiver, when it is registered. -/
def callPictureLoss (conn : KvsPeerConnection) (i : Nat) : KvsPeerConnection :=
  if conn.pTransceivers[i]?.any (·.onPictureLoss) then
    { conn with callbacks := conn.callbacks ++ [.onPictureLoss i] }
  else conn

/-! ## Reading the payload -/

def read8 (off : Nat) : Traced Bytes UINT8 := .read (fun m off => m.getD off 0) off 1
def read16 (off : Nat) : Traced Bytes UINT16 := .read getUnalignedInt16BigEndian off 2
def read32 (off : Nat) : Traced Bytes UINT32 := .read getUnalignedInt32BigEndian off 4
def read64 (off : Nat) : Traced Bytes UINT64 :=
  .read (fun m off => BitVec.ofNat 64 (ByteOrder.readBE m off 8)) off 8

abbrev Handled := Traced Bytes (KvsPeerConnection × RtcpStatus)

/-! ## Handlers that take the media SSRC -/

/-- FIR and SLI share everything but the counter and the callback: the SSRC is at byte 4, and an
unknown one is only logged. -/
def onMediaSsrc (conn : KvsPeerConnection) (found : Nat → KvsPeerConnection) : Handled := do
  let mediaSSRC ← read32 4
  match findTransceiverBySsrc conn mediaSSRC with
  | some i => return (found i, .SUCCESS)
  | none => return (conn, .SUCCESS)

def onRtcpFIRPacket (conn : KvsPeerConnection) : Handled :=
  onMediaSsrc conn fun i =>
    callPictureLoss (updateTransceiver conn i fun u => { u with firCount := u.firCount + 1 }) i

def onRtcpSLIPacket (conn : KvsPeerConnection) : Handled :=
  onMediaSsrc conn fun i => updateTransceiver conn i fun u => { u with sliCount := u.sliCount + 1 }

/-- An unknown SSRC is an error here. -/
def onRtcpPLIPacket (conn : KvsPeerConnection) : Handled := do
  let mediaSSRC ← read32 4
  match findTransceiverBySsrc conn mediaSSRC with
  | some i =>
    return (callPictureLoss
      (updateTransceiver conn i fun u => { u with pliCount := u.pliCount + 1 }) i, .SUCCESS)
  | none => return (conn, .RTCP_INPUT_SSRC_INVALID)

/-- The entries of an RFC 5104 FIR from `offset` on. -/
def firEntries (payloadLength : Nat) : Nat → Nat → KvsPeerConnection → Handled
  | 0, _, conn => return (conn, .SUCCESS)
  | fuel + 1, offset, conn =>
    if offset + 4 < payloadLength then do
      let ssrc ← read32 offset
      match findTransceiverBySsrc conn ssrc with
      | none => return (conn, .RTCP_INPUT_SSRC_INVALID)
      | some i =>
        firEntries payloadLength fuel (offset + PSFB_FIR_FCI_SSRC_OFFSET) (callPictureLoss
          (updateTransceiver conn i fun u => { u with firCount := u.firCount + 1 }) i)
    else return (conn, .SUCCESS)

def onRtcpPSFBFIRPacket (payloadLength : Nat) (conn : KvsPeerConnection) : Handled :=
  if PSFB_FIR_MIN_SIZE ≤ payloadLength then
    firEntries payloadLength payloadLength PSFB_FIR_FCI_SSRC_OFFSET conn
  else return (conn, .SUCCESS)

/-! ## Bandwidth estimation -/

/-- `isRembPacket`. -/
def isRembPacket (payloadLength : Nat) : Traced Bytes Bool :=
  if payloadLength < RTCP_PACKET_REMB_MIN_SIZE then return false
  else do
    let identifier ← read32 RTCP_PACKET_REMB_IDENTIFIER_OFFSET
    return identifier = 0x52454d42

/-- The SSRC list of a REMB from position `i` on. -/
def rembSsrcs : Nat → Nat → Traced Bytes (List UINT32)
  | 0, _ => return []
  | n + 1, i => do
    let ssrc ← read32 (RTCP_PACKET_REMB_IDENTIFIER_OFFSET + 8 + i * 4)
    let rest ← rembSsrcs n (i + 1)
    return ssrc :: rest

def rembValueGet (payloadLength : Nat) :
    Traced Bytes (Except RtcpStatus (Nat × List UINT32)) :=
  if payloadLength < RTCP_PACKET_REMB_MIN_SIZE then return .error .RTCP_INPUT_REMB_TOO_SMALL
  else do
    let word ← read32 (RTCP_PACKET_REMB_IDENTIFIER_OFFSET + 4)
    let mantissa := word &&& RTCP_PACKET_REMB_MANTISSA_BITMASK
    let exponent ← read8 (RTCP_PACKET_REMB_IDENTIFIER_OFFSET + 5)
    let maximumBitRate := mantissa <<< (exponent >>> 2).toNat
    let ssrcListLen ← read8 (RTCP_PACKET_REMB_IDENTIFIER_OFFSET + 4)
    if payloadLength < RTCP_PACKET_REMB_MIN_SIZE + ssrcListLen.toNat * 4 then
      return .error .RTCP_INPUT_REMB_INVALID
    else do
      let ssrcs ← rembSsrcs ssrcListLen.toNat 0
      return .ok (maximumBitRate.toNat, ssrcs)

def estimateBandwidth (maximumBitRate : Nat) (conn : KvsPeerConnection) (ssrc : UINT32) :
    KvsPeerConnection :=
  match findTransceiverBySsrc conn ssrc with
  | none => conn
  | some i =>
    if conn.pTransceivers[i]?.any (·.onBandwidthEstimation) then
      { conn with callbacks := conn.callbacks ++ [.onBandwidthEstimation i maximumBitRate] }
    else conn

def onRtcpRembPacket (payloadLength : Nat) (conn : KvsPeerConnection) : Handled := do
  match ← rembValueGet payloadLength with
  | .error e => return (conn, e)
  | .ok (maximumBitRate, ssrcs) =>
    return (ssrcs.foldl (estimateBandwidth maximumBitRate) conn, .SUCCESS)

/-! ## NACK -/

/-- The (PID, BLP) words from `off` on. -/
def nackPairs : Nat → Nat → Traced Bytes (List (UINT16 × UINT16))
  | 0, _ => return []
  | n + 1, off => do
    let pid ← read16 off
    let blp ← read16 (off + 2)
    let rest ← nackPairs n (off + 4)
    return (pid, blp) :: rest

/-- What a call of `rtcpNackListGet` reads. -/
def rtcpNackListGet (payloadLength : Nat) :
    Traced Bytes (Except RtcpStatus (UINT32 × UINT32 × List (UINT16 × UINT16))) :=
  if payloadLength < RTCP_NACK_LIST_LEN ∨ payloadLength % 4 ≠ 0 then
    return .error .RTCP_INPUT_NACK_LIST_INVALID
  else do
    let senderSsrc ← read32 0
    let receiverSsrc ← read32 4
    let pairs ← nackPairs ((payloadLength - RTCP_NACK_LIST_LEN) / 4) RTCP_NACK_LIST_LEN
    return .ok (senderSsrc, receiverSsrc, pairs)

/-- The payload is decoded twice.  Only the media SSRC finds a transceiver: when it does not, the
status of the first search is returned although the sender SSRC was found. -/
def resendPacketOnNack (env : RtcpEnv) (payloadLength : Nat) (conn : KvsPeerConnection) :
    Handled := do
  match ← rtcpNackListGet payloadLength with
  | .error e => return (conn, e)
  | .ok (senderSsrc, receiverSsrc, _) =>
    match findTransceiverBySsrc conn receiverSsrc with
    | none =>
      match findTransceiverBySsrc conn senderSsrc with
      | none => return (conn, .RTCP_INPUT_SSRC_INVALID)
      | some _ => return (conn, .NOT_FOUND)
    | some i =>
      let counted := updateTransceiver conn i fun u => { u with nackCount := u.nackCount + 1 }
      if conn.pTransceivers[i]?.any (·.retransmitter) then do
        match ← rtcpNackListGet payloadLength with
        | .error e => return (counted, e)
        | .ok (_, _, pairs) =>
          return (counted, if env.resend i pairs then .SUCCESS else .RESEND_FAILED)
      else return (counted, .INVALID_OPERATION)

/-! ## Reports -/

/-- The statistics after a sender report. -/
def storeSenderReport (env : RtcpEnv) (senderSSRC : UINT32) (ntpTime : UINT64)
    (packetCnt octetCnt : UINT32) (u : RtcpTransceiver) : RtcpTransceiver :=
  { u with
    lastSRNtpMid := MID_NTP ntpTime
    lastSRReceivedTime := env.now
    remoteOutboundStats := { u.remoteOutboundStats with
      reportsSent := u.remoteOutboundStats.reportsSent + 1
      packetsSent := packetCnt.zeroExtend 64
      bytesSent := octetCnt.zeroExtend 64
      ssrc := senderSSRC
      remoteTimestamp := ((ntpTime >>> 32) - NTP_OFFSET) * 1000 +
        (ntpTime &&& 0xffffffff) * 1000 / NTP_TIMESCALE } }

def onRtcpSenderReport (env : RtcpEnv) (payloadLength : Nat) (conn : KvsPeerConnection) :
    Handled :=
  if payloadLength < RTCP_PACKET_SENDER_REPORT_MINLEN then
    return (conn, .RTCP_INPUT_PARTIAL_PACKET)
  else do
    let senderSSRC ← read32 0
    match findTransceiverBySsrc conn senderSSRC with
    | none => return (conn, .SUCCESS)
    | some i => do
      let ntpTime ← read64 4
      let _rtpTs ← read32 12
      let packetCnt ← read32 16
      let octetCnt ← read32 20
      return (updateTransceiver conn i
        (storeSenderReport env senderSSRC ntpTime packetCnt octetCnt), .SUCCESS)

/-- Only reports with exactly one block are looked at.  The block is read as a whole and stored by
`storeReport`. -/
def onRtcpReceiverReport (env : RtcpEnv) (payloadLength : Nat) (conn : KvsPeerConnection) :
    Handled :=
  if payloadLength ≠ RTCP_PACKET_RECEIVER_REPORT_MINLEN then return (conn, .SUCCESS)
  else do
    let _senderSSRC ← read32 0
    let ssrc1 ← read32 4
    match findTransceiverBySsrc conn ssrc1 with
    | none => return (conn, .SUCCESS)
    | some i => do
      let block ← Traced.read (fun m _ => m.take 28) 8 20
      return (updateTransceiver conn i fun u =>
        { u with toReportedTransceiver := storeReport env.now block u.toReportedTransceiver },
        .SUCCESS)

/-- The slot of the reporter, or the first free one. -/
def storeRrtr (entries : List ReceivedRrtrEntry) (reporterSsrc ntpMid : UINT32)
    (arrivalTimeHns : UINT64) : List ReceivedRrtrEntry :=
  match (entries.findIdx? fun e => e.ssrc = reporterSsrc) <|>
      entries.findIdx? fun e => e.ssrc = 0 with
  | none => entries
  | some slot => entries.modify slot fun e =>
    { e with ssrc := reporterSsrc, ntpMid := ntpMid, arrivalTimeHns := arrivalTimeHns }

/-- The statistics after one DLRR sub-block; it counts when it echoes the last RRTR sent. -/
def storeDlrr (env : RtcpEnv) (subLrr subDlrr : UINT32) (u : RtcpTransceiver) : RtcpTransceiver :=
  if u.lastRrtrNtpMid ≠ 0 ∧ subLrr = u.lastRrtrNtpMid then
    let rttSeconds : Rat :=
      (MID_NTP (convertTimestampToNTP env.now) - subLrr - subDlrr).toNat / DLSR_TIMESCALE
    { u with remoteOutboundStats := { u.remoteOutboundStats with
        roundTripTime := rttSeconds
        totalRoundTripTime := u.remoteOutboundStats.totalRoundTripTime + rttSeconds
        roundTripTimeMeasurements := u.remoteOutboundStats.roundTripTimeMeasurements + 1 } }
  else u

/-- `n` sub-blocks from `subOffset` on. -/
def dlrrSubBlocks (env : RtcpEnv) :
    Nat → Nat → KvsPeerConnection → Traced Bytes KvsPeerConnection
  | 0, _, conn => return conn
  | n + 1, subOffset, conn => do
    let subSsrc ← read32 subOffset
    let subLrr ← read32 (subOffset + 4)
    let subDlrr ← read32 (subOffset + 8)
    let conn := match findTransceiverBySsrc conn subSsrc with
      | none => conn
      | some i => if subLrr = 0 then conn
        else updateTransceiver conn i (storeDlrr env subLrr subDlrr)
    dlrrSubBlocks env n (subOffset + RTCP_XR_DLRR_SUBBLOCK_LEN) conn

/-- One block of an extended report whose body of `blockBodyWords` words is inside the payload. -/
def xrBlock (env : RtcpEnv) (reporterSsrc : UINT32) (bt : UINT8) (blockBodyWords offset : Nat)
    (conn : KvsPeerConnection) : Traced Bytes KvsPeerConnection :=
  if bt = RTCP_XR_BLOCK_TYPE_RRTR then
    if blockBodyWords ≠ 2 then return conn
    else do
      let ntp ← read64 (offset + 4)
      return { conn with
        receivedRrtrs := storeRrtr conn.receivedRrtrs reporterSsrc (MID_NTP ntp) env.now }
  else if bt = RTCP_XR_BLOCK_TYPE_DLRR then
    if blockBodyWords % 3 ≠ 0 then return conn
    else dlrrSubBlocks env (blockBodyWords / 3) (offset + 4) conn
  else return conn

/-- The blocks from `offset` on; one that does not fit ends the loop. -/
def xrBlocks (env : RtcpEnv) (payloadLength : Nat) (reporterSsrc : UINT32) :
    Nat → Nat → KvsPeerConnection → Traced Bytes KvsPeerConnection
  | 0, _, conn => return conn
  | fuel + 1, offset, conn =>
    if offset + 4 ≤ payloadLength then do
      let bt ← read8 offset
      let blockLen ← read16 (offset + 2)
      if payloadLength < offset + 4 + blockLen.toNat * 4 then return conn
      else do
        let conn ← xrBlock env reporterSsrc bt blockLen.toNat offset conn
        xrBlocks env payloadLength reporterSsrc fuel (offset + 4 + blockLen.toNat * 4) conn
    else return conn

def onRtcpExtendedReport (env : RtcpEnv) (payloadLength : Nat) (conn : KvsPeerConnection) :
    Handled :=
  if payloadLength < 4 then return (conn, .RTCP_INPUT_PARTIAL_PACKET)
  else do
    let reporterSsrc ← read32 0
    let conn ← xrBlocks env payloadLength reporterSsrc payloadLength 4 conn
    return (conn, .SUCCESS)

/-! ## The loop -/

/-- The sub-packet is transport-wide feedback. -/
def isTwccPacket (p : RtcpPacket) : Bool :=
  p.packetType = RTCP_PACKET_TYPE_GENERIC_RTP_FEEDBACK &&
    p.receptionReportCount = RTCP_FEEDBACK_MESSAGE_TYPE_APPLICATION_LAYER_FEEDBACK

/-- `onRtcpTwccPacket` for the manager of the connection; `none` when the parser does not return. -/
def onTwccPacket (p : RtcpPacket) (conn : KvsPeerConnection) : Option KvsPeerConnection :=
  match conn.pTwccManager with
  | none => some conn
  | some t => (onRtcpTwccPacket conn.onSenderBandwidthEstimation conn.onTwccPacketReport p t).map
      fun o => { conn with pTwccManager := some o.manager }

/-- Payload-specific feedback: whether it is a REMB is looked at first. -/
def onPayloadSpecificFeedback (p : RtcpPacket) (conn : KvsPeerConnection) : Handled := do
  let isRemb ←
    (if p.receptionReportCount = RTCP_FEEDBACK_MESSAGE_TYPE_APPLICATION_LAYER_FEEDBACK then
      isRembPacket p.payloadLength else pure false)
  if isRemb then onRtcpRembPacket p.payloadLength conn
  else if p.receptionReportCount = RTCP_PSFB_PLI then onRtcpPLIPacket conn
  else if p.receptionReportCount = RTCP_PSFB_FIR then onRtcpPSFBFIRPacket p.payloadLength conn
  else if p.receptionReportCount = RTCP_PSFB_SLI then onRtcpSLIPacket conn
  else return (conn, .SUCCESS)

/-- The handlers other than that of transport-wide feedback. -/
def handlePacket (env : RtcpEnv) (p : RtcpPacket) (conn : KvsPeerConnection) : Handled :=
  if p.packetType = RTCP_PACKET_TYPE_FIR then onRtcpFIRPacket conn
  else if p.packetType = RTCP_PACKET_TYPE_GENERIC_RTP_FEEDBACK then
    if p.receptionReportCount = RTCP_FEEDBACK_MESSAGE_TYPE_NACK then
      resendPacketOnNack env p.payloadLength conn
    else return (conn, .SUCCESS)
  else if p.packetType = RTCP_PACKET_TYPE_PAYLOAD_SPECIFIC_FEEDBACK then
    onPayloadSpecificFeedback p conn
  else if p.packetType = RTCP_PACKET_TYPE_SENDER_REPORT then
    onRtcpSenderReport env p.payloadLength conn
  else if p.packetType = RTCP_PACKET_TYPE_RECEIVER_REPORT then
    onRtcpReceiverReport env p.payloadLength conn
  else if p.packetType = RTCP_PACKET_TYPE_EXTENDED_REPORT then
    onRtcpExtendedReport env p.payloadLength conn
  else return (conn, .SUCCESS)

/-- One round: what the handler of a sub-packet leaves, or nothing when it does not return. -/
def dispatch (env : RtcpEnv) (p : RtcpPacket) (conn : KvsPeerConnection) :
    Option (KvsPeerConnection × RtcpStatus) :=
  if isTwccPacket p then (onTwccPacket p conn).map fun conn => (conn, .SUCCESS)
  else some ((handlePacket env p conn).run p.payload).1

/-- The sub-packet at an offset of the buffer; behind its header there is all of the memory. -/
def subPacketAt (memory : Bytes) (buffLen off : Nat) : Except STATUS RtcpPacket :=
  (setRtcpPacketFromBytes ((memory.drop off).take (buffLen - off))).map fun p =>
    { p with payload := memory.drop (off + RTCP_PACKET_LEN_WORD_SIZE) }

/-- The loop from an offset on. -/
def onRtcpPacketFrom (env : RtcpEnv) (memory : Bytes) (buffLen : Nat) :
    Nat → Nat → KvsPeerConnection → Option (KvsPeerConnection × RtcpStatus)
  | 0, _, _ => none
  | fuel + 1, off, conn =>
    if off < buffLen then
      match subPacketAt memory buffLen off with
      | .error e => some (conn, .ofInput e)
      | .ok p =>
        match dispatch env p conn with
        | none => none
        | some (conn, .SUCCESS) =>
          onRtcpPacketFrom env memory buffLen fuel
            (off + (p.payloadLength + RTCP_PACKET_HEADER_LEN)) conn
        | some (conn, status) => some (conn, status)
    else some (conn, .SUCCESS)

/-- A round moves on by four bytes at least. -/
def onRtcpPacket (env : RtcpEnv) (memory : Bytes) (buffLen : Nat) (conn : KvsPeerConnection) :
    Option (KvsPeerConnection × RtcpStatus) :=
  onRtcpPacketFrom env memory buffLen (buffLen + 1) 0 conn

/-! ## What the handlers read -/

open Traced (Within)

variable {n off : Nat}

theorem within_read8 (h : off + 1 ≤ n) : Within n (read8 off) := Within.read h
theorem within_read16 (h : off + 2 ≤ n) : Within n (read16 off) := Within.read h
theorem within_read32 (h : off + 4 ≤ n) : Within n (read32 off) := Within.read h
theorem within_read64 (h : off + 8 ≤ n) : Within n (read64 off) := Within.read h

theorem within_firEntries (len : Nat) : ∀ (fuel offset : Nat) (conn : KvsPeerConnection),
    Within len (firEntries len fuel offset conn)
  | 0, _, _ => Within.pure _
  | fuel + 1, offset, conn => by
    refine Within.ite (fun hin => ?_) fun _ => Within.pure _
    refine Within.bind (within_read32 (by omega)) fun ssrc => ?_
    split
    · exact Within.pure _
    · exact within_firEntries len fuel _ _

theorem within_onRtcpPSFBFIRPacket (len : Nat) (conn : KvsPeerConnection) :
    Within len (onRtcpPSFBFIRPacket len conn) :=
  Within.ite (fun _ => within_firEntries len _ _ _) fun _ => Within.pure _

theorem within_isRembPacket (len : Nat) : Within len (isRembPacket len) := by
  refine Within.ite (fun _ => Within.pure _) fun hlen => ?_
  unfold RTCP_PACKET_REMB_MIN_SIZE at hlen
  refine Within.bind (within_read32 ?_) fun _ => Within.pure _
  unfold RTCP_PACKET_REMB_IDENTIFIER_OFFSET
  omega

theorem within_rembSsrcs (len : Nat) : ∀ n i : Nat, 16 + (i + n) * 4 ≤ len →
    Within len (rembSsrcs n i)
  | 0, _, _ => Within.pure _
  | n + 1, i, h => by
    refine Within.bind (within_read32 ?_) fun _ => ?_
    · unfold RTCP_PACKET_REMB_IDENTIFIER_OFFSET
      omega
    · exact Within.bind (within_rembSsrcs len n (i + 1) (by omega)) fun _ => Within.pure _

theorem within_rembValueGet (len : Nat) : Within len (rembValueGet len) := by
  refine Within.ite (fun _ => Within.pure _) fun hlen => ?_
  unfold RTCP_PACKET_REMB_MIN_SIZE at hlen
  refine Within.bind (within_read32 ?_) fun word => ?_
  · unfold RTCP_PACKET_REMB_IDENTIFIER_OFFSET
    omega
  refine Within.bind (within_read8 ?_) fun exponent => ?_
  · unfold RTCP_PACKET_REMB_IDENTIFIER_OFFSET
    omega
  refine Within.bind (within_read8 ?_) fun ssrcListLen => ?_
  · unfold RTCP_PACKET_REMB_IDENTIFIER_OFFSET
    omega
  refine Within.ite (fun _ => Within.pure _) fun hssrcs => ?_
  unfold RTCP_PACKET_REMB_MIN_SIZE at hssrcs
  exact Within.bind (within_rembSsrcs len _ 0 (by omega)) fun _ => Within.pure _

theorem within_onRtcpRembPacket (len : Nat) (conn : KvsPeerConnection) :
    Within len (onRtcpRembPacket len conn) := by
  refine Within.bind (within_rembValueGet len) fun r => ?_
  split <;> exact Within.pure _

theorem within_nackPairs (len : Nat) : ∀ n off : Nat, off + n * 4 ≤ len →
    Within len (nackPairs n off)
  | 0, _, _ => Within.pure _
  | n + 1, off, h => by
    refine Within.bind (within_read16 (by omega)) fun _ => ?_
    refine Within.bind (within_read16 (by omega)) fun _ => ?_
    exact Within.bind (within_nackPairs len n (off + 4) (by omega)) fun _ => Within.pure _

theorem within_rtcpNackListGet (len : Nat) : Within len (rtcpNackListGet len) := by
  refine Within.ite (fun _ => Within.pure _) fun hlen => ?_
  unfold RTCP_NACK_LIST_LEN at hlen
  refine Within.bind (within_read32 (by omega)) fun _ => ?_
  refine Within.bind (within_read32 (by omega)) fun _ => ?_
  refine Within.bind (within_nackPairs len _ _ ?_) fun _ => Within.pure _
  unfold RTCP_NACK_LIST_LEN
  omega

theorem within_resendPacketOnNack (env : RtcpEnv) (len : Nat) (conn : KvsPeerConnection) :
    Within len (resendPacketOnNack env len conn) := by
  refine Within.bind (within_rtcpNackListGet len) fun r => ?_
  split
  · exact Within.pure _
  · split
    · split <;> exact Within.pure _
    · refine Within.ite (fun _ => ?_) fun _ => Within.pure _
      refine Within.bind (within_rtcpNackListGet len) fun r => ?_
      split <;> exact Within.pure _

theorem within_onRtcpSenderReport (env : RtcpEnv) (len : Nat) (conn : KvsPeerConnection) :
    Within len (onRtcpSenderReport env len conn) := by
  refine Within.ite (fun _ => Within.pure _) fun hlen => ?_
  unfold RTCP_PACKET_SENDER_REPORT_MINLEN at hlen
  refine Within.bind (within_read32 (by omega)) fun _ => ?_
  split
  · exact Within.pure _
  · refine Within.bind (within_read64 (by omega)) fun _ => ?_
    refine Within.bind (within_read32 (by omega)) fun _ => ?_
    refine Within.bind (within_read32 (by omega)) fun _ => ?_
    exact Within.bind (within_read32 (by omega)) fun _ => Within.pure _

theorem within_onRtcpReceiverReport (env : RtcpEnv) (len : Nat) (conn : KvsPeerConnection) :
    Within len (onRtcpReceiverReport env len conn) := by
  refine Within.ite (fun _ => Within.pure _) fun hlen => ?_
  unfold RTCP_PACKET_RECEIVER_REPORT_MINLEN at hlen
  refine Within.bind (within_read32 (by omega)) fun _ => ?_
  refine Within.bind (within_read32 (by omega)) fun _ => ?_
  split
  · exact Within.pure _
  · exact Within.bind (Within.read (by omega)) fun _ => Within.pure _

theorem within_dlrrSubBlocks (env : RtcpEnv) (len : Nat) : ∀ (n off : Nat)
    (conn : KvsPeerConnection), off + n * 12 ≤ len → Within len (dlrrSubBlocks env n off conn)
  | 0, _, _, _ => Within.pure _
  | n + 1, off, conn, h => by
    refine Within.bind (within_read32 (by omega)) fun _ => ?_
    refine Within.bind (within_read32 (by omega)) fun _ => ?_
    refine Within.bind (within_read32 (by omega)) fun _ => ?_
    apply within_dlrrSubBlocks env len n
    unfold RTCP_XR_DLRR_SUBBLOCK_LEN
    omega

theorem within_xrBlock (env : RtcpEnv) (len : Nat) (ssrc : UINT32) (bt : UINT8) {words offset : Nat}
    (conn : KvsPeerConnection) (h : offset + 4 + words * 4 ≤ len) :
    Within len (xrBlock env ssrc bt words offset conn) := by
  refine Within.ite (fun _ => ?_) fun _ => Within.ite (fun _ => ?_) fun _ => Within.pure _
  · refine Within.ite (fun _ => Within.pure _) fun htwo => ?_
    exact Within.bind (within_read64 (by omega)) fun _ => Within.pure _
  · refine Within.ite (fun _ => Within.pure _) fun hthree => ?_
    exact within_dlrrSubBlocks env len _ _ _ (by omega)

theorem within_xrBlocks (env : RtcpEnv) (len : Nat) (ssrc : UINT32) : ∀ (fuel offset : Nat)
    (conn : KvsPeerConnection), Within len (xrBlocks env len ssrc fuel offset conn)
  | 0, _, _ => Within.pure _
  | fuel + 1, offset, conn => by
    refine Within.ite (fun hin => ?_) fun _ => Within.pure _
    refine Within.bind (within_read8 (by omega)) fun bt => ?_
    refine Within.bind (within_read16 (by omega)) fun blockLen => ?_
    refine Within.ite (fun _ => Within.pure _) fun hfits => ?_
    refine Within.bind (within_xrBlock env len ssrc bt conn (by omega)) fun _ => ?_
    exact within_xrBlocks env len ssrc fuel _ _

theorem within_onRtcpExtendedReport (env : RtcpEnv) (len : Nat) (conn : KvsPeerConnection) :
    Within len (onRtcpExtendedReport env len conn) := by
  refine Within.ite (fun _ => Within.pure _) fun hlen => ?_
  refine Within.bind (within_read32 (by omega)) fun _ => ?_
  exact Within.bind (within_xrBlocks env len _ _ _ _) fun _ => Within.pure _

/-- The handlers that take the media SSRC from bytes 4 to 7 of the payload. -/
def takesMediaSsrc (p : RtcpPacket) : Bool :=
  p.packetType = RTCP_PACKET_TYPE_FIR ||
    (p.packetType = RTCP_PACKET_TYPE_PAYLOAD_SPECIFIC_FEEDBACK &&
      (p.receptionReportCount = RTCP_PSFB_PLI || p.receptionReportCount = RTCP_PSFB_SLI))

theorem within_onMediaSsrc (conn : KvsPeerConnection) (found : Nat → KvsPeerConnection)
    (h : 8 ≤ n) : Within n (onMediaSsrc conn found) := by
  refine Within.bind (within_read32 (by omega)) fun _ => ?_
  split <;> exact Within.pure _

theorem within_onRtcpPLIPacket (conn : KvsPeerConnection) (h : 8 ≤ n) :
    Within n (onRtcpPLIPacket conn) := by
  refine Within.bind (within_read32 (by omega)) fun _ => ?_
  split <;> exact Within.pure _

/-- **A handler reads inside its payload, the three that take the media SSRC when the payload has
eight bytes.** -/
theorem handler_within (env : RtcpEnv) (p : RtcpPacket) (conn : KvsPeerConnection)
    (h : takesMediaSsrc p = true → 8 ≤ p.payloadLength) :
    Within p.payloadLength (handlePacket env p conn) := by
  unfold takesMediaSsrc at h
  refine Within.ite (fun hfir => ?_) fun _ => ?_
  · exact within_onMediaSsrc _ _ (h (by simp [hfir]))
  refine Within.ite (fun _ => ?_) fun _ => ?_
  · exact Within.ite (fun _ => within_resendPacketOnNack env _ conn) fun _ => Within.pure _
  refine Within.ite (fun hpsfb => ?_) fun _ => ?_
  · refine Within.bind ?_ fun isRemb => ?_
    · exact Within.ite (fun _ => within_isRembPacket _) fun _ => Within.pure _
    refine Within.ite (fun _ => within_onRtcpRembPacket _ conn) fun _ => ?_
    refine Within.ite (fun hpli => ?_) fun _ => ?_
    · exact within_onRtcpPLIPacket _ (h (by simp [hpsfb, hpli]))
    refine Within.ite (fun _ => within_onRtcpPSFBFIRPacket _ conn) fun _ => ?_
    refine Within.ite (fun hsli => ?_) fun _ => Within.pure _
    exact within_onMediaSsrc _ _ (h (by simp [hpsfb, hsli]))
  refine Within.ite (fun _ => within_onRtcpSenderReport env _ conn) fun _ => ?_
  refine Within.ite (fun _ => within_onRtcpReceiverReport env _ conn) fun _ => ?_
  exact Within.ite (fun _ => within_onRtcpExtendedReport env _ conn) fun _ => Within.pure _

/-- The three handlers read byte 7 whatever the length of the payload. -/
theorem handler_reads_media_ssrc (env : RtcpEnv) {p : RtcpPacket} (conn : KvsPeerConnection)
    (h : takesMediaSsrc p = true) : 7 ∈ ((handlePacket env p conn).run p.payload).2 := by
  have hmedia : ∀ found, 7 ∈ ((onMediaSsrc conn found).run p.payload).2 := by
    intro found
    exact List.mem_append_left _ (List.mem_range'_1.mpr (by omega))
  have hpli : 7 ∈ ((onRtcpPLIPacket conn).run p.payload).2 :=
    List.mem_append_left _ (List.mem_range'_1.mpr (by omega))
  unfold takesMediaSsrc at h
  rw [Bool.or_eq_true, Bool.and_eq_true, Bool.or_eq_true] at h
  simp only [decide_eq_true_eq] at h
  unfold handlePacket
  rcases h with hfir | ⟨hpsfb, hcount⟩
  · rw [if_pos hfir]
    exact hmedia _
  rw [if_neg (by rw [hpsfb]; decide), if_neg (by rw [hpsfb]; decide), if_pos hpsfb]
  unfold onPayloadSpecificFeedback
  have hremb : ¬ p.receptionReportCount = RTCP_FEEDBACK_MESSAGE_TYPE_APPLICATION_LAYER_FEEDBACK := by
    rcases hcount with h | h <;> · rw [h]; decide
  rw [if_neg hremb]
  refine List.mem_append_right _ ?_
  by_cases hpli' : p.receptionReportCount = RTCP_PSFB_PLI
  · rw [if_pos hpli']
    exact hpli
  · have hsli := hcount.resolve_left hpli'
    have hfir : ¬ p.receptionReportCount = RTCP_PSFB_FIR := by rw [hsli]; decide
    rw [if_neg hpli', if_neg hfir, if_pos hsli]
    exact hmedia _

/-- What a handler needs to find in a payload. -/
def handlerMinimum (p : RtcpPacket) : Nat :=
  if p.packetType = RTCP_PACKET_TYPE_FIR then 8
  else if p.packetType = RTCP_PACKET_TYPE_GENERIC_RTP_FEEDBACK then
    if p.receptionReportCount = RTCP_FEEDBACK_MESSAGE_TYPE_NACK then RTCP_NACK_LIST_LEN else 0
  else if p.packetType = RTCP_PACKET_TYPE_PAYLOAD_SPECIFIC_FEEDBACK then
    if p.receptionReportCount = RTCP_FEEDBACK_MESSAGE_TYPE_APPLICATION_LAYER_FEEDBACK then
      RTCP_PACKET_REMB_MIN_SIZE
    else if p.receptionReportCount = RTCP_PSFB_PLI then 8
    else if p.receptionReportCount = RTCP_PSFB_FIR then PSFB_FIR_MIN_SIZE
    else if p.receptionReportCount = RTCP_PSFB_SLI then 8
    else 0
  else if p.packetType = RTCP_PACKET_TYPE_SENDER_REPORT then RTCP_PACKET_SENDER_REPORT_MINLEN
  else if p.packetType = RTCP_PACKET_TYPE_RECEIVER_REPORT then RTCP_PACKET_RECEIVER_REPORT_MINLEN
  else if p.packetType = RTCP_PACKET_TYPE_EXTENDED_REPORT then 4
  else 0

/-- The other handlers leave the connection alone when the payload is too short for them. -/
theorem handler_ignores_short (env : RtcpEnv) {p : RtcpPacket} (conn : KvsPeerConnection)
    (m : Bytes) (hmedia : takesMediaSsrc p = false) (h : p.payloadLength < handlerMinimum p) :
    ((handlePacket env p conn).run m).1.1 = conn := by
  unfold takesMediaSsrc at hmedia
  simp only [Bool.or_eq_false_iff, Bool.and_eq_false_iff, decide_eq_false_iff_not] at hmedia
  obtain ⟨hfir, hpsfb⟩ := hmedia
  unfold handlerMinimum at h
  unfold handlePacket
  rw [if_neg hfir] at h ⊢
  split at h
  · rename_i htype
    rw [if_pos htype]
    split at h
    · rename_i hnack
      rw [if_pos hnack]
      unfold resendPacketOnNack rtcpNackListGet
      rw [if_pos (Or.inl h)]
      rfl
    · omega
  rename_i htype
  rw [if_neg htype]
  split at h
  · rename_i htype
    rw [if_pos htype]
    obtain ⟨hpli, hsli⟩ := hpsfb.resolve_left (fun hne => hne htype)
    rw [if_neg hpli, if_neg hsli] at h
    unfold onPayloadSpecificFeedback
    split at h
    · rename_i hremb
      rw [if_pos hremb, isRembPacket, if_pos h]
      rw [if_neg hpli, if_neg hsli]
      split
      · rename_i hfir
        rw [hremb] at hfir
        cases hfir
      · rfl
    · rename_i hremb
      rw [if_neg hremb]
      rw [if_neg hpli]
      split at h
      · rename_i hfir
        rw [if_pos hfir, onRtcpPSFBFIRPacket, if_neg (Nat.not_le.mpr h)]
        rfl
      · omega
  rename_i htype
  rw [if_neg htype]
  split at h
  · rename_i htype
    rw [if_pos htype, onRtcpSenderReport, if_pos h]
    rfl
  rename_i htype
  rw [if_neg htype]
  split at h
  · rename_i htype
    rw [if_pos htype, onRtcpReceiverReport, if_pos (Nat.ne_of_lt h)]
    rfl
  rename_i htype
  rw [if_neg htype]
  split at h
  · rename_i htype
    rw [if_pos htype, onRtcpExtendedReport, if_pos h]
    rfl
  · omega

/-! ## The sub-packets the loop reaches -/

variable {env : RtcpEnv} {memory : Bytes} {buffLen : Nat} {conn : KvsPeerConnection}

/-- The sub-packets handed to a handler, with their offsets and the connection at that time. -/
def reachedFrom (env : RtcpEnv) (memory : Bytes) (buffLen : Nat) :
    Nat → Nat → KvsPeerConnection → List (Nat × RtcpPacket × KvsPeerConnection)
  | 0, _, _ => []
  | fuel + 1, off, conn =>
    if off < buffLen then
      match subPacketAt memory buffLen off with
      | .error _ => []
      | .ok p =>
        (off, p, conn) ::
          match dispatch env p conn with
          | some (conn, .SUCCESS) =>
            reachedFrom env memory buffLen fuel
              (off + (p.payloadLength + RTCP_PACKET_HEADER_LEN)) conn
          | _ => []
    else []

def reachedPackets (env : RtcpEnv) (memory : Bytes) (buffLen : Nat) (conn : KvsPeerConnection) :
    List (Nat × RtcpPacket × KvsPeerConnection) :=
  reachedFrom env memory buffLen (buffLen + 1) 0 conn

theorem subPacketAt_fits {off : Nat} {p : RtcpPacket} (hoff : off < buffLen)
    (h : subPacketAt memory buffLen off = .ok p) : off + 4 + p.payloadLength ≤ buffLen := by
  unfold subPacketAt at h
  generalize hraw : setRtcpPacketFromBytes ((memory.drop off).take (buffLen - off)) = r at h
  cases r with
  | error e => cases h
  | ok q =>
    have hlen : q.payloadLength = p.payloadLength := by
      cases h
      rfl
    unfold setRtcpPacketFromBytes at hraw
    dsimp only at hraw
    split at hraw
    · cases hraw
    split at hraw
    · cases hraw
    rename_i hpartial
    split at hraw
    · cases hraw
    cases hraw
    have htake : ((memory.drop off).take (buffLen - off)).length ≤ buffLen - off :=
      List.length_take_le _ _
    simp only [RTCP_PACKET_LEN_WORD_SIZE] at hlen hpartial
    omega

theorem reachedFrom_accepted : ∀ (fuel off : Nat) (conn : KvsPeerConnection),
    ∀ q ∈ reachedFrom env memory buffLen fuel off conn,
      q.1 < buffLen ∧ subPacketAt memory buffLen q.1 = .ok q.2.1
  | 0, _, _, _, hq => by cases hq
  | fuel + 1, off, conn, q, hq => by
    unfold reachedFrom at hq
    split at hq
    · rename_i hoff
      split at hq
      · cases hq
      · rename_i p hp
        rcases List.mem_cons.mp hq with rfl | hq
        · exact ⟨hoff, hp⟩
        · split at hq
          · exact reachedFrom_accepted fuel _ _ q hq
          · cases hq
    · cases hq

/-- The loop ends when every handler it calls returns: a round moves on. -/
theorem onRtcpPacketFrom_returns_iff : ∀ (fuel off : Nat) (conn : KvsPeerConnection),
    off ≤ buffLen → buffLen < off + fuel →
    ((onRtcpPacketFrom env memory buffLen fuel off conn).isSome ↔
      ∀ q ∈ reachedFrom env memory buffLen fuel off conn, (dispatch env q.2.1 q.2.2).isSome)
  | 0, off, conn, hoff, h => absurd h (by omega)
  | fuel + 1, off, conn, hoff, h => by
    unfold onRtcpPacketFrom reachedFrom
    by_cases hin : off < buffLen
    · rw [if_pos hin, if_pos hin]
      cases hp : subPacketAt memory buffLen off with
      | error e => simp
      | ok p =>
        have hfits := subPacketAt_fits hin hp
        have hnext : off + (p.payloadLength + RTCP_PACKET_HEADER_LEN) ≤ buffLen := by
          unfold RTCP_PACKET_HEADER_LEN
          omega
        have ih := fun conn => onRtcpPacketFrom_returns_iff fuel
          (off + (p.payloadLength + RTCP_PACKET_HEADER_LEN)) conn hnext
          (by unfold RTCP_PACKET_HEADER_LEN; omega)
        simp only [List.forall_mem_cons]
        rcases hd : dispatch env p conn with _ | ⟨conn', status⟩
        · simp
        · cases status with
          | SUCCESS => simpa using ih conn'
          | _ => simp
    · rw [if_neg hin, if_neg hin]
      simp

/-- The chunks report the announced count, if anyone has asked for the feedback. -/
def CountReached (p : RtcpPacket) (conn : KvsPeerConnection) : Prop :=
  conn.pTwccManager.isSome → conn.onSenderBandwidthEstimation || conn.onTwccPacketReport →
    ∃ n, twccStatusCount p ≤ reportedBy p.payload n 16

theorem onTwccPacket_isSome_iff (p : RtcpPacket) (conn : KvsPeerConnection) :
    (onTwccPacket p conn).isSome ↔ CountReached p conn := by
  unfold onTwccPacket CountReached
  cases hmanager : conn.pTwccManager with
  | none => simp
  | some t =>
    rw [Option.isSome_map, ← parseRtcpTwccPacket_isSome_iff p t]
    unfold onRtcpTwccPacket
    by_cases hcallback : (conn.onSenderBandwidthEstimation || conn.onTwccPacketReport) = true
    · rw [if_pos hcallback]
      cases parseRtcpTwccPacket p t <;> simp [hcallback]
    · rw [if_neg hcallback]
      exact iff_of_true rfl fun _ h => absurd h hcallback

theorem dispatch_isSome_iff (env : RtcpEnv) (p : RtcpPacket) (conn : KvsPeerConnection) :
    (dispatch env p conn).isSome ↔ (isTwccPacket p = true → CountReached p conn) := by
  unfold dispatch
  split
  · rename_i htwcc
    rw [Option.isSome_map, onTwccPacket_isSome_iff]
    exact ⟨fun h _ => h, fun h => h htwcc⟩
  · rename_i htwcc
    exact ⟨fun _ h => absurd h htwcc, fun _ => rfl⟩

/-- What is to hold of a buffer: the loop ends, and of each sub-packet that is handed to a handler
that it lies inside the remaining bytes, that the handler reads inside the payload only, and that
nothing happens when the payload is too short for the handler. -/
structure CompoundSafe (env : RtcpEnv) (memory : Bytes) (buffLen : Nat)
    (conn : KvsPeerConnection) : Prop where
  returns : (onRtcpPacket env memory buffLen conn).isSome
  inside : ∀ q ∈ reachedPackets env memory buffLen conn, q.1 + 4 + q.2.1.payloadLength ≤ buffLen
  reads : ∀ q ∈ reachedPackets env memory buffLen conn, isTwccPacket q.2.1 = false →
    ∀ r ∈ ((handlePacket env q.2.1 q.2.2).run q.2.1.payload).2, r < q.2.1.payloadLength
  short : ∀ q ∈ reachedPackets env memory buffLen conn, isTwccPacket q.2.1 = false →
    q.2.1.payloadLength < handlerMinimum q.2.1 →
    ((handlePacket env q.2.1 q.2.2).run q.2.1.payload).1.1 = q.2.2

/-- The media SSRC is in the payload. -/
def hasMediaSsrc (p : RtcpPacket) : Prop := takesMediaSsrc p = true → 8 ≤ p.payloadLength

theorem not_twcc_of_takesMediaSsrc {p : RtcpPacket} (h : takesMediaSsrc p = true) :
    isTwccPacket p = false := by
  unfold takesMediaSsrc at h
  rw [Bool.or_eq_true, Bool.and_eq_true] at h
  simp only [decide_eq_true_eq] at h
  unfold isTwccPacket
  rcases h with h | ⟨h, -⟩ <;> · rw [h]; rfl

theorem handlerMinimum_of_takesMediaSsrc {p : RtcpPacket} (h : takesMediaSsrc p = true) :
    handlerMinimum p = 8 := by
  unfold takesMediaSsrc at h
  rw [Bool.or_eq_true, Bool.and_eq_true, Bool.or_eq_true] at h
  simp only [decide_eq_true_eq] at h
  unfold handlerMinimum
  rcases h with h | ⟨h, hcount | hcount⟩
  · rw [if_pos h]
  · rw [h, hcount]
    rfl
  · rw [h, hcount]
    rfl

/-- **A compound packet is handled safely exactly when each FIR, PLI and SLI the loop reaches has
its media SSRC in the payload, and the chunks of each transport-wide feedback reach its count.** -/
theorem compound_safe_iff (env : RtcpEnv) (memory : Bytes) (buffLen : Nat)
    (conn : KvsPeerConnection) :
    CompoundSafe env memory buffLen conn ↔
      ∀ q ∈ reachedPackets env memory buffLen conn, hasMediaSsrc q.2.1 ∧
        (isTwccPacket q.2.1 = true → CountReached q.2.1 q.2.2) := by
  have hreturns : (onRtcpPacket env memory buffLen conn).isSome ↔
      ∀ q ∈ reachedPackets env memory buffLen conn, (dispatch env q.2.1 q.2.2).isSome :=
    onRtcpPacketFrom_returns_iff (buffLen + 1) 0 conn (Nat.zero_le _) (by omega)
  simp only [dispatch_isSome_iff] at hreturns
  constructor
  · intro h q hq
    refine ⟨fun hmedia => ?_, hreturns.mp h.returns q hq⟩
    have := h.reads q hq (not_twcc_of_takesMediaSsrc hmedia) 7
      (handler_reads_media_ssrc env q.2.2 hmedia)
    omega
  · intro h
    refine ⟨hreturns.mpr fun q hq => (h q hq).2, fun q hq => ?_, fun q hq _ r hr => ?_,
      fun q hq _ hshort => ?_⟩
    · obtain ⟨hoff, hp⟩ := reachedFrom_accepted _ _ _ q hq
      exact subPacketAt_fits hoff hp
    · exact handler_within env q.2.1 q.2.2 (h q hq).1 _ r hr
    · cases hmedia : takesMediaSsrc q.2.1 with
      | false => exact handler_ignores_short env q.2.2 _ hmedia hshort
      | true =>
        have := (h q hq).1 hmedia
        rw [handlerMinimum_of_takesMediaSsrc hmedia] at hshort
        omega

/-- A FIR as the comment in the loop draws it: the header and one SSRC. -/
def sampleFir : Bytes := [0x80, 192, 0x00, 0x01, 0x00, 0x00, 0x00, 0x07]

def sampleConnection : KvsPeerConnection where
  pTransceivers := []
  pTwccManager := none
  onSenderBandwidthEstimation := false
  onTwccPacketReport := false
  receivedRrtrs := []
  callbacks := []

def sampleEnv : RtcpEnv := ⟨0, fun _ _ => false⟩

/-- The media SSRC of that FIR is read behind the buffer. -/
theorem fir_read_behind_payload : ¬ CompoundSafe sampleEnv sampleFir 8 sampleConnection := by
  intro h
  obtain ⟨p, hp⟩ : ∃ p, subPacketAt sampleFir 8 0 = .ok p := ⟨_, rfl⟩
  have hfir : takesMediaSsrc p = true := by
    cases hp
    decide
  have hlen : p.payloadLength = 4 := by
    cases hp
    rfl
  have hreached : (0, p, sampleConnection) ∈
      reachedPackets sampleEnv sampleFir 8 sampleConnection := by
    unfold reachedPackets reachedFrom
    rw [if_pos (by decide), hp]
    exact List.mem_cons_self
  have hread : 7 < p.payloadLength := h.reads _ hreached (not_twcc_of_takesMediaSsrc hfir) 7
    (handler_reads_media_ssrc _ _ hfir)
  omega

end KvsWebrtc.Rtcp.Compound
