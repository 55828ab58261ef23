import KvsWebrtc.Sctp.Assoc

/-!
# The native SCTP session (`NativeSctp.c`)

A session is an association with one buffer for DCEP messages.  `sctpSessionWriteDcep` builds the
DATA_CHANNEL_OPEN of a channel in that buffer and sends it; `sctpSessionWriteMessage` reads the
reliability of the channel it writes to back out of the same buffer.  Packets that arrive are
handed to the association after its timers were checked, and the messages it delivers go to the
callbacks of the session, a DCEP message through `handleDcepPacket`.

Principal results:

* `channel_reliability_iff`: each message goes out with the reliability of its own channel exactly
  when the channel opened last asked for the same;
* `dcep_label_inside_iff`: `handleDcepPacket` reports a label inside the received bytes exactly when
  the label length it accepted does not exceed them, and it opens every channel written by
  `sctpSessionWriteDcep` under its name.
-/

namespace KvsWebrtc.Sctp

/-! ## Constants of `Sctp.h` -/

abbrev SCTP_ASSOCIATION_DEFAULT_PORT : UINT16 := 5000
abbrev SCTP_MTU : UINT16 := 1150
abbrev MAX_DATA_CHANNEL_NAME_LEN : Nat := 255
abbrev MAX_DATA_CHANNEL_PROTOCOL_LEN : Nat := 255
abbrev SCTP_DCEP_HEADER_LENGTH : Nat := 12
abbrev SCTP_MAX_ALLOWABLE_PACKET_LENGTH : Nat :=
  SCTP_DCEP_HEADER_LENGTH + MAX_DATA_CHANNEL_NAME_LEN + MAX_DATA_CHANNEL_PROTOCOL_LEN + 2

def SCTP_PPID_DCEP : UINT32 := 50
def SCTP_PPID_STRING : UINT32 := 51
def SCTP_PPID_BINARY : UINT32 := 53
def SCTP_PPID_STRING_EMPTY : UINT32 := 56
def SCTP_PPID_BINARY_EMPTY : UINT32 := 57

def DCEP_DATA_CHANNEL_OPEN : UINT8 := 0x03
def DCEP_DATA_CHANNEL_RELIABLE_ORDERED : UINT8 := 0x00
def DCEP_DATA_CHANNEL_RELIABLE_UNORDERED : UINT8 := 0x80
def DCEP_DATA_CHANNEL_REXMIT : UINT8 := 0x01
def DCEP_DATA_CHANNEL_TIMED : UINT8 := 0x02

/-! ## Channels -/

/-- `NullableUint16` without a value is `none`. -/
structure RtcDataChannelInit where
  ordered : Bool
  maxPacketLifeTime : Option UINT16
  maxRetransmits : Option UINT16
  deriving DecidableEq, Repr

/-- The name of a channel: `createDataChannel` copies at most `MAX_DATA_CHANNEL_NAME_LEN`
characters of it. -/
abbrev ChannelName := { name : Bytes // name.length ≤ MAX_DATA_CHANNEL_NAME_LEN }

/-- How a message is to be sent. -/
structure Reliability where
  ordered : Bool
  maxRetransmits : UINT16
  lifetimeMs : UINT64
  deriving DecidableEq, Repr

/-- What a channel asks for.  DCEP has one reliability parameter: a retransmission limit goes
before a lifetime; without the former `0xFFFF` stands for no limit, without the latter 0. -/
def RtcDataChannelInit.reliability (init : RtcDataChannelInit) : Reliability where
  ordered := init.ordered
  maxRetransmits := init.maxRetransmits.getD 0xFFFF
  lifetimeMs :=
    if init.maxRetransmits.isSome then 0 else (init.maxPacketLifeTime.getD 0).setWidth 64

/-- How a call of `sctpAssocSend` asks for its message to be sent. -/
def SctpMessage.reliability (m : SctpMessage) : Reliability :=
  ⟨! m.unordered, m.maxRetransmits, m.lifetimeMs⟩

/-! ## The DATA_CHANNEL_OPEN message -/

/-- The channel type, `packet[1]`. -/
def dcepChannelType (init : RtcDataChannelInit) : UINT8 :=
  let ordering := DCEP_DATA_CHANNEL_RELIABLE_ORDERED |||
    (if ! init.ordered then DCEP_DATA_CHANNEL_RELIABLE_UNORDERED else 0)
  match init.maxRetransmits, init.maxPacketLifeTime with
  | some _, _ => ordering ||| DCEP_DATA_CHANNEL_REXMIT
  | none, some _ => ordering ||| DCEP_DATA_CHANNEL_TIMED
  | none, none => ordering

/-- The reliability parameter at `packet + 4`. -/
def dcepReliabilityParameter (init : RtcDataChannelInit) : UINT32 :=
  match init.maxRetransmits, init.maxPacketLifeTime with
  | some value, _ => value.setWidth 32
  | none, some value => value.setWidth 32
  | none, none => 0

/-- The message `sctpSessionWriteDcep` builds.  The priority and the protocol length stay 0. -/
def dcepOpen (pChannelName : ChannelName) (init : RtcDataChannelInit) : Bytes :=
  [DCEP_DATA_CHANNEL_OPEN, dcepChannelType init, 0, 0] ++
    putUnalignedInt32BigEndian (dcepReliabilityParameter init) ++
    putUnalignedInt16BigEndian (BitVec.ofNat 16 pChannelName.1.length) ++ [0, 0] ++ pChannelName.1

/-! ## Receiving DCEP -/

/-- One call of `dataChannelOpenFunc`: the label is the slice of `labelLength` bytes of the received
message from `labelOffset` on. -/
structure DataChannelOpen where
  streamId : UINT32
  labelOffset : Nat
  labelLength : UINT16
  deriving DecidableEq, Repr

/-- The slice lies inside the received bytes. -/
def DataChannelOpen.Inside (call : DataChannelOpen) (data : Bytes) : Prop :=
  call.labelOffset + call.labelLength.toNat ≤ data.length

/-- The bytes of the slice. -/
def DataChannelOpen.label (call : DataChannelOpen) (data : Bytes) : Bytes :=
  (data.drop call.labelOffset).take call.labelLength.toNat

inductive DcepFailure where
  | SCTP_INVALID_DCEP_PACKET
  deriving DecidableEq, Repr

/-- The call of `dataChannelOpenFunc`, if one is made.  `putInt16` brings the two lengths from
network order to host order. -/
def handleDcepPacket (streamId : UINT32) (data : Bytes) :
    Except DcepFailure (Option DataChannelOpen) :=
  if ¬ (data.length > SCTP_DCEP_HEADER_LENGTH ∧ data.head? = some DCEP_DATA_CHANNEL_OPEN) then
    .ok none else
  let labelLength := getUnalignedInt16BigEndian data 8
  let protocolLength := getUnalignedInt16BigEndian data 10
  if ¬ labelLength.toNat + protocolLength.toNat + SCTP_DCEP_HEADER_LENGTH ≥ data.length then
    .error .SCTP_INVALID_DCEP_PACKET
  else if ¬ SCTP_MAX_ALLOWABLE_PACKET_LENGTH ≥ data.length then .error .SCTP_INVALID_DCEP_PACKET
  else .ok (some ⟨streamId, SCTP_DCEP_HEADER_LENGTH, labelLength⟩)

/-! ## The session -/

inductive ShutdownStatus where
  | ACTIVE
  | SHUTDOWN_INITIATED
  | SHUTDOWN_COMPLETED
  deriving DecidableEq, Repr

/-- One call of a callback of the session; the bytes are those of the received message. -/
inductive SessionCall where
  | dataChannelOpen (call : DataChannelOpen) (data : Bytes)
  | dataChannelMessage (streamId : UINT32) (isBinary : Bool) (payload : Bytes)
  deriving DecidableEq, Repr

/-- `host` is the association with its outbound packets; `calls` are the calls of
`dataChannelOpenFunc` and `dataChannelMessageFunc`, oldest first. -/
structure SctpSession where
  shutdownStatus : ShutdownStatus
  host : Host
  packet : Bytes
  packetSize : UINT32
  calls : List SessionCall

def createSctpSession (clock : Nat → UINT64) : SctpSession where
  shutdownStatus := .ACTIVE
  host := sctpAssocConnect (sctpAssocInit clock SCTP_ASSOCIATION_DEFAULT_PORT
    SCTP_ASSOCIATION_DEFAULT_PORT SCTP_MTU)
  packet := List.replicate SCTP_MAX_ALLOWABLE_PACKET_LENGTH 0
  packetSize := 0
  calls := []

variable (s : SctpSession)

/-- The calls that one delivery of the association leads to. -/
def sctpMessageBridge (d : Delivery) : SctpSession :=
  if s.shutdownStatus ≠ .ACTIVE then s
  else if d.ppid = SCTP_PPID_DCEP then
    match handleDcepPacket (d.streamId.setWidth 32) d.payload with
    | .ok (some call) => { s with calls := s.calls ++ [.dataChannelOpen call d.payload] }
    | _ => s
  else if d.ppid = SCTP_PPID_BINARY ∨ d.ppid = SCTP_PPID_BINARY_EMPTY then
    { s with
      calls := s.calls ++ [.dataChannelMessage (d.streamId.setWidth 32) true d.payload] }
  else if d.ppid = SCTP_PPID_STRING ∨ d.ppid = SCTP_PPID_STRING_EMPTY then
    { s with
      calls := s.calls ++ [.dataChannelMessage (d.streamId.setWidth 32) false d.payload] }
  else s

/-- The timer check of `putSctpPacket` and `sctpSessionTickTimers`, at the next clock reading. -/
def sessionCheckTimers (h : Host) : Host := sctpAssocCheckTimers h.tick h.SCTP_NOW_MS

/-- The bridge only appends to `calls`, so the deliveries of the packet may be passed on after the
packet was handled. -/
def putSctpPacket (buf : Bytes) : SctpSession :=
  if s.shutdownStatus ≠ .ACTIVE then s else
  let h := sctpAssocHandlePacket (sessionCheckTimers s.host) true buf
  (h.delivered.drop s.host.delivered.length).foldl sctpMessageBridge { s with host := h }

def sctpSessionTickTimers : SctpSession :=
  if s.shutdownStatus ≠ .ACTIVE then s else { s with host := sessionCheckTimers s.host }

/-- What `sctpSessionWriteMessage` hands to `sctpAssocSend`. -/
def SctpSession.message (streamId : UINT32) (isBinary : Bool)
    (pMessage : Bytes) : SctpMessage where
  streamId := streamId.setWidth 16
  ppid := if isBinary then SCTP_PPID_BINARY else SCTP_PPID_STRING
  unordered := s.packet.getD 1 0 &&& DCEP_DATA_CHANNEL_RELIABLE_UNORDERED ≠ 0
  payload := pMessage
  maxRetransmits :=
    if s.packet.getD 1 0 &&& DCEP_DATA_CHANNEL_REXMIT ≠ 0 then
      (getUnalignedInt32BigEndian s.packet 4).setWidth 16
    else 0xFFFF
  lifetimeMs :=
    if s.packet.getD 1 0 &&& DCEP_DATA_CHANNEL_TIMED ≠ 0 then
      (getUnalignedInt32BigEndian s.packet 4).signExtend 64
    else 0

def sctpSessionWriteMessage (streamId : UINT32) (isBinary : Bool)
    (pMessage : Bytes) : SctpSession :=
  if s.shutdownStatus ≠ .ACTIVE then s
  else { s with host := sctpAssocSend s.host (s.message streamId isBinary pMessage) }

def sctpSessionWriteDcep (streamId : UINT32) (pChannelName : ChannelName)
    (init : RtcDataChannelInit) : SctpSession :=
  let dcep := dcepOpen pChannelName init
  { s with
    packet := dcep ++ List.replicate (SCTP_MAX_ALLOWABLE_PACKET_LENGTH - dcep.length) 0
    packetSize := BitVec.ofNat 32 (SCTP_DCEP_HEADER_LENGTH + pChannelName.1.length)
    host := sctpAssocSend s.host ⟨streamId.setWidth 16, SCTP_PPID_DCEP, false, dcep, 0xFFFF, 0⟩ }

/-! ## Runs -/

/-- One call of the session's interface between `createSctpSession` and `freeSctpSession`. -/
inductive SessionOp where
  | writeDcep (streamId : UINT32) (pChannelName : ChannelName) (init : RtcDataChannelInit)
  | writeMessage (streamId : UINT32) (isBinary : Bool) (pMessage : Bytes)
  | putSctpPacket (buf : Bytes)
  | tickTimers

def SctpSession.step : SessionOp → SctpSession
  | .writeDcep streamId pChannelName init => sctpSessionWriteDcep s streamId pChannelName init
  | .writeMessage streamId isBinary pMessage => sctpSessionWriteMessage s streamId isBinary pMessage
  | .putSctpPacket buf => Sctp.putSctpPacket s buf
  | .tickTimers => sctpSessionTickTimers s

def SctpSession.run (ops : List SessionOp) : SctpSession :=
  ops.foldl SctpSession.step s

theorem SctpSession.run_append (ops ops' : List SessionOp) :
    s.run (ops ++ ops') = (s.run ops).run ops' := List.foldl_append

/-- The channel a call opens: its stream and what it asks for. -/
def SessionOp.opening : SessionOp → Option (UINT32 × RtcDataChannelInit)
  | .writeDcep streamId _ init => some (streamId, init)
  | _ => none

/-- The channels opened so far, oldest first. -/
def openings (ops : List SessionOp) : List (UINT32 × RtcDataChannelInit) :=
  ops.filterMap SessionOp.opening

/-- The channel opened last, on whatever stream. -/
def lastOpening (ops : List SessionOp) : Option RtcDataChannelInit :=
  (openings ops).getLast?.map Prod.snd

/-- The channel opened last on `streamId`. -/
def channelOn (streamId : UINT32) (ops : List SessionOp) : Option RtcDataChannelInit :=
  ((openings ops).filter (·.1 = streamId)).getLast?.map Prod.snd

/-! ## The DCEP buffer -/

@[simp] theorem length_dcepOpen (pChannelName : ChannelName) (init : RtcDataChannelInit) :
    (dcepOpen pChannelName init).length = SCTP_DCEP_HEADER_LENGTH + pChannelName.1.length := by
  simp [dcepOpen, SCTP_DCEP_HEADER_LENGTH]
  omega

/-- The buffer holds the DATA_CHANNEL_OPEN of a channel that asks for `init`. -/
def SctpSession.Describes (init : RtcDataChannelInit) : Prop :=
  ∃ pChannelName rest, s.packet = dcepOpen pChannelName init ++ rest

theorem SctpSession.Describes.channelType {s : SctpSession} {init : RtcDataChannelInit}
    (h : s.Describes init) : s.packet.getD 1 0 = dcepChannelType init := by
  obtain ⟨pChannelName, rest, hp⟩ := h
  rw [hp]
  rfl

theorem SctpSession.Describes.reliabilityParameter {s : SctpSession} {init : RtcDataChannelInit}
    (h : s.Describes init) :
    getUnalignedInt32BigEndian s.packet 4 = dcepReliabilityParameter init := by
  obtain ⟨pChannelName, rest, hp⟩ := h
  rw [hp, dcepOpen]
  simp only [List.append_assoc]
  rw [get32_skip _ (Nat.le_refl 4)]
  exact get32_put32 _ _

/-- The three bits of the channel type that `sctpSessionWriteMessage` looks at. -/
theorem dcepChannelType_bits (init : RtcDataChannelInit) :
    (dcepChannelType init &&& DCEP_DATA_CHANNEL_RELIABLE_UNORDERED ≠ 0 ↔ init.ordered = false) ∧
      (dcepChannelType init &&& DCEP_DATA_CHANNEL_REXMIT ≠ 0 ↔ init.maxRetransmits.isSome) ∧
      (dcepChannelType init &&& DCEP_DATA_CHANNEL_TIMED ≠ 0 ↔
        init.maxRetransmits.isNone ∧ init.maxPacketLifeTime.isSome) := by
  obtain ⟨ordered, maxPacketLifeTime, maxRetransmits⟩ := init
  cases ordered <;> cases maxPacketLifeTime <;> cases maxRetransmits <;>
    simp [dcepChannelType, DCEP_DATA_CHANNEL_RELIABLE_ORDERED, DCEP_DATA_CHANNEL_RELIABLE_UNORDERED,
      DCEP_DATA_CHANNEL_REXMIT, DCEP_DATA_CHANNEL_TIMED]

theorem signExtend_of_uint16 (value : UINT16) :
    (value.setWidth 32).signExtend 64 = value.setWidth 64 := by
  have hmsb : (value.setWidth 32).msb = false := by
    rw [BitVec.msb_setWidth]
    simp
  rw [BitVec.signExtend_eq_setWidth_of_msb_false hmsb]
  apply BitVec.eq_of_toNat_eq
  simp only [BitVec.toNat_setWidth]
  omega

theorem SctpSession.Describes.reliability {s : SctpSession} {init : RtcDataChannelInit}
    (h : s.Describes init) (streamId : UINT32) (isBinary : Bool) (pMessage : Bytes) :
    (s.message streamId isBinary pMessage).reliability = init.reliability := by
  obtain ⟨hunordered, hrexmit, htimed⟩ := dcepChannelType_bits init
  unfold SctpSession.message SctpMessage.reliability RtcDataChannelInit.reliability
  simp only [h.channelType, h.reliabilityParameter, hunordered, hrexmit, htimed]
  obtain ⟨ordered, maxPacketLifeTime, maxRetransmits⟩ := init
  cases ordered <;> cases maxPacketLifeTime <;> cases maxRetransmits <;>
    simp [dcepReliabilityParameter, signExtend_of_uint16]

/-! ## What the calls do to the buffer -/

theorem writeDcep_describes (streamId : UINT32) (pChannelName : ChannelName)
    (init : RtcDataChannelInit) :
    (sctpSessionWriteDcep s streamId pChannelName init).Describes init :=
  ⟨pChannelName, _, rfl⟩

theorem sctpMessageBridge_frame (d : Delivery) :
    ∃ calls, sctpMessageBridge s d = { s with calls := calls } := by
  unfold sctpMessageBridge
  split
  · exact ⟨s.calls, rfl⟩
  · split
    · split
      · exact ⟨_, rfl⟩
      · exact ⟨s.calls, rfl⟩
    · split
      · exact ⟨_, rfl⟩
      · split
        · exact ⟨_, rfl⟩
        · exact ⟨s.calls, rfl⟩

theorem foldl_sctpMessageBridge_frame (ds : List Delivery) (s : SctpSession) :
    ∃ calls, ds.foldl sctpMessageBridge s = { s with calls := calls } := by
  induction ds generalizing s with
  | nil => exact ⟨s.calls, rfl⟩
  | cons d ds ih =>
    obtain ⟨calls, heq⟩ := sctpMessageBridge_frame s d
    obtain ⟨calls', heq'⟩ := ih (sctpMessageBridge s d)
    refine ⟨calls', ?_⟩
    rw [List.foldl_cons, heq', heq]

theorem putSctpPacket_active {s : SctpSession} (hs : s.shutdownStatus = .ACTIVE) (buf : Bytes) :
    ∃ calls, putSctpPacket s buf = { s with
      host := sctpAssocHandlePacket (sessionCheckTimers s.host) true buf, calls := calls } := by
  unfold putSctpPacket
  rw [if_neg (fun hne => hne hs)]
  exact foldl_sctpMessageBridge_frame _ _

theorem SctpSession.step_packet {op : SessionOp} (hop : op.opening = none) :
    (s.step op).packet = s.packet := by
  cases op with
  | writeDcep streamId pChannelName init => cases hop
  | writeMessage streamId isBinary pMessage =>
    show (sctpSessionWriteMessage s streamId isBinary pMessage).packet = _
    unfold sctpSessionWriteMessage
    split <;> rfl
  | putSctpPacket buf =>
    show (Sctp.putSctpPacket s buf).packet = _
    by_cases hs : s.shutdownStatus = .ACTIVE
    · obtain ⟨calls, heq⟩ := putSctpPacket_active hs buf
      rw [heq]
    · unfold Sctp.putSctpPacket
      rw [if_pos hs]
  | tickTimers =>
    show (sctpSessionTickTimers s).packet = _
    unfold sctpSessionTickTimers
    split <;> rfl

theorem openings_concat (ops : List SessionOp) (op : SessionOp) :
    openings (ops ++ [op]) = openings ops ++ op.opening.toList := by
  unfold openings
  rw [List.filterMap_append]
  cases h : op.opening with
  | none => simp [h]
  | some o => simp [h]

theorem SctpSession.run_describes {ops : List SessionOp}
    {init : RtcDataChannelInit} (h : lastOpening ops = some init) : (s.run ops).Describes init := by
  -- by the last call: an opening fills the buffer, every other call leaves it alone
  induction ops using List.reverseRecOn with
  | nil => cases h
  | append_singleton ops op ih =>
    rw [SctpSession.run_append]
    unfold lastOpening at h
    rw [openings_concat] at h
    cases hop : op.opening with
    | none =>
      rw [hop, Option.toList_none, List.append_nil] at h
      obtain ⟨pChannelName, rest, hp⟩ := ih h
      exact ⟨pChannelName, rest, (SctpSession.step_packet _ hop).trans hp⟩
    | some o =>
      cases op with
      | writeDcep streamId pChannelName init' =>
        obtain rfl : (streamId, init') = o := Option.some.inj hop
        rw [hop, Option.toList_some, List.getLast?_concat] at h
        obtain rfl : init' = init := Option.some.inj h
        exact writeDcep_describes _ streamId pChannelName init'
      | _ => cases hop

/-! ## The reliability of a channel -/

/-- Each message of the run is handed to `sctpAssocSend` as the channel opened on its stream asks
for. -/
def SctpSession.KeepsReliability (ops : List SessionOp) : Prop :=
  ∀ pre streamId isBinary pMessage post,
    ops = pre ++ .writeMessage streamId isBinary pMessage :: post →
    ∀ init, channelOn streamId pre = some init →
      ((s.run pre).message streamId isBinary pMessage).reliability = init.reliability

theorem lastOpening_of_channelOn {streamId : UINT32} {ops : List SessionOp}
    {init : RtcDataChannelInit} (h : channelOn streamId ops = some init) :
    ∃ latest, lastOpening ops = some latest := by
  unfold channelOn at h
  unfold lastOpening
  cases ho : openings ops with
  | nil => simp [ho] at h
  | cons o os => exact ⟨_, by rw [List.getLast?_eq_some_getLast (List.cons_ne_nil o os)]; rfl⟩

/-- **A message goes out with the reliability of its own channel exactly when the channel opened
last, on whatever stream, asked for the same.** -/
theorem channel_reliability_iff (clock : Nat → UINT64) (ops : List SessionOp) :
    (createSctpSession clock).KeepsReliability ops ↔
      ∀ pre streamId isBinary pMessage post,
        ops = pre ++ .writeMessage streamId isBinary pMessage :: post →
        ∀ init latest, channelOn streamId pre = some init → lastOpening pre = some latest →
          latest.reliability = init.reliability := by
  constructor
  · intro hkeeps pre streamId isBinary pMessage post hops init latest hinit hlatest
    have hdesc := (createSctpSession clock).run_describes hlatest
    rw [← hdesc.reliability streamId isBinary pMessage]
    exact hkeeps pre streamId isBinary pMessage post hops init hinit
  · intro hsame pre streamId isBinary pMessage post hops init hinit
    obtain ⟨latest, hlatest⟩ := lastOpening_of_channelOn hinit
    rw [((createSctpSession clock).run_describes hlatest).reliability]
    exact hsame pre streamId isBinary pMessage post hops init latest hinit hlatest

/-- Two channels: a reliable one on stream 1 and, opened after it, an unordered one without
retransmissions on stream 3. -/
def twoChannels : List SessionOp :=
  [.writeDcep 1 ⟨[97], by decide⟩ ⟨true, none, none⟩,
    .writeDcep 3 ⟨[98], by decide⟩ ⟨false, none, some 0⟩]

/-- A message on the reliable channel is handed over as unordered and without retransmissions. -/
theorem reliable_channel_loses_reliability :
    ¬ (createSctpSession fun _ => 7).KeepsReliability
      (twoChannels ++ [.writeMessage 1 true [1]]) := by
  intro hkeeps
  have hsame := hkeeps twoChannels 1 true [1] [] rfl ⟨true, none, none⟩ rfl
  rw [((createSctpSession fun _ => 7).run_describes
    (show lastOpening twoChannels = some ⟨false, none, some 0⟩ from rfl)).reliability] at hsame
  revert hsame
  decide

/-! ## Labels -/

/-- The guards of `handleDcepPacket`. -/
structure DcepAccepted (data : Bytes) : Prop where
  header : data.length > SCTP_DCEP_HEADER_LENGTH
  type : data.head? = some DCEP_DATA_CHANNEL_OPEN
  lengths : (getUnalignedInt16BigEndian data 8).toNat + (getUnalignedInt16BigEndian data 10).toNat +
    SCTP_DCEP_HEADER_LENGTH ≥ data.length
  fits : SCTP_MAX_ALLOWABLE_PACKET_LENGTH ≥ data.length

theorem handleDcepPacket_eq_some_iff {streamId : UINT32} {data : Bytes} {call : DataChannelOpen} :
    handleDcepPacket streamId data = .ok (some call) ↔
      DcepAccepted data ∧
        call = ⟨streamId, SCTP_DCEP_HEADER_LENGTH, getUnalignedInt16BigEndian data 8⟩ := by
  unfold handleDcepPacket
  simp only
  constructor
  · intro h
    split at h
    · cases h
    · rename_i hhead
      split at h
      · cases h
      · rename_i hlengths
        split at h
        · cases h
        · rename_i hfits
          obtain ⟨hlen, htype⟩ := not_not.mp hhead
          cases h
          exact ⟨⟨hlen, htype, not_not.mp hlengths, not_not.mp hfits⟩, rfl⟩
  · rintro ⟨hacc, rfl⟩
    rw [if_neg (not_not.mpr ⟨hacc.header, hacc.type⟩), if_neg (not_not.mpr hacc.lengths),
      if_neg (not_not.mpr hacc.fits)]

theorem handleDcepPacket_dcepOpen (streamId : UINT32) (pChannelName : ChannelName)
    (init : RtcDataChannelInit) (hname : 1 ≤ pChannelName.1.length) :
    ∃ call, handleDcepPacket streamId (dcepOpen pChannelName init) = .ok (some call) ∧
      call.streamId = streamId ∧ call.Inside (dcepOpen pChannelName init) ∧
      call.label (dcepOpen pChannelName init) = pChannelName.1 := by
  have hle : pChannelName.1.length ≤ 255 := pChannelName.2
  have hlen : (dcepOpen pChannelName init).length = 12 + pChannelName.1.length :=
    length_dcepOpen pChannelName init
  have hlabel : (getUnalignedInt16BigEndian (dcepOpen pChannelName init) 8).toNat =
      pChannelName.1.length := by
    unfold dcepOpen
    simp only [List.append_assoc]
    rw [get16_skip _ (by simp), get16_skip _ (by simp)]
    show (getUnalignedInt16BigEndian _ 0).toNat = _
    rw [get16_put16, BitVec.toNat_ofNat, Nat.mod_eq_of_lt (by omega)]
  have hacc : DcepAccepted (dcepOpen pChannelName init) :=
    { header := by
        show _ > 12
        omega
      type := rfl
      lengths := by
        show _ + 12 ≥ _
        omega
      fits := by
        show 524 ≥ _
        omega }
  refine ⟨_, handleDcepPacket_eq_some_iff.mpr ⟨hacc, rfl⟩, rfl, ?_, ?_⟩
  · show 12 + (getUnalignedInt16BigEndian (dcepOpen pChannelName init) 8).toNat ≤ _
    omega
  · show (List.drop SCTP_DCEP_HEADER_LENGTH _).take _ = _
    rw [hlabel]
    have hdrop : (dcepOpen pChannelName init).drop SCTP_DCEP_HEADER_LENGTH = pChannelName.1 := by
      unfold dcepOpen
      rw [List.drop_append_of_le_length (by simp), List.drop_of_length_le (by simp), List.nil_append]
    rw [hdrop, List.take_length]

/-- The bytes of the DATA_CHANNEL_OPEN that `sctpSessionWriteDcep` left in the buffer. -/
def SctpSession.written : Bytes := s.packet.take s.packetSize.toNat

theorem written_writeDcep (streamId : UINT32) (pChannelName : ChannelName)
    (init : RtcDataChannelInit) :
    (sctpSessionWriteDcep s streamId pChannelName init).written = dcepOpen pChannelName init := by
  have hle : pChannelName.1.length ≤ 255 := pChannelName.2
  have hsize : (BitVec.ofNat 32 (SCTP_DCEP_HEADER_LENGTH + pChannelName.1.length)).toNat =
      (dcepOpen pChannelName init).length := by
    rw [length_dcepOpen, BitVec.toNat_ofNat]
    exact Nat.mod_eq_of_lt (show 12 + pChannelName.1.length < 2 ^ 32 by omega)
  show List.take (BitVec.ofNat 32 _).toNat (dcepOpen pChannelName init ++ _) = _
  rw [hsize, List.take_left]

/-- **The label lies inside the received bytes exactly when a message that passes the guards gives
no label length beyond them; and every channel `sctpSessionWriteDcep` describes is opened under its
name.** -/
theorem dcep_label_inside_iff (streamId : UINT32) (data : Bytes) (s : SctpSession)
    (streamId' : UINT32) (pChannelName : ChannelName) (init : RtcDataChannelInit) :
    ((∀ call, handleDcepPacket streamId data = .ok (some call) → call.Inside data) ↔
      (DcepAccepted data →
        SCTP_DCEP_HEADER_LENGTH + (getUnalignedInt16BigEndian data 8).toNat ≤ data.length)) ∧
    (1 ≤ pChannelName.1.length →
      ∃ call,
        handleDcepPacket streamId'
          (sctpSessionWriteDcep s streamId pChannelName init).written = .ok (some call) ∧
        call.streamId = streamId' ∧
        call.Inside (sctpSessionWriteDcep s streamId pChannelName init).written ∧
        call.label (sctpSessionWriteDcep s streamId pChannelName init).written =
          pChannelName.1) := by
  constructor
  · constructor
    · intro hinside hacc
      exact hinside _ (handleDcepPacket_eq_some_iff.mpr ⟨hacc, rfl⟩)
    · intro hfits call hcall
      obtain ⟨hacc, rfl⟩ := handleDcepPacket_eq_some_iff.mp hcall
      exact hfits hacc
  · intro hname
    rw [written_writeDcep]
    exact handleDcepPacket_dcepOpen streamId' pChannelName init hname

/-- A channel named `a` comes back under its name. -/
theorem dcep_label_one_letter :
    ∃ call,
      handleDcepPacket 1
        (sctpSessionWriteDcep (createSctpSession fun _ => 7) 1 ⟨[97], by decide⟩
          ⟨true, none, none⟩).written = .ok (some call) ∧
      call.label (sctpSessionWriteDcep (createSctpSession fun _ => 7) 1 ⟨[97], by decide⟩
          ⟨true, none, none⟩).written = [97] := by
  obtain ⟨call, hcall, -, -, hlabel⟩ := (dcep_label_inside_iff 1 [] (createSctpSession fun _ => 7) 1
    ⟨[97], by decide⟩ ⟨true, none, none⟩).2 (by decide)
  exact ⟨call, hcall, hlabel⟩

/-- Thirteen bytes that announce a label of 65535. -/
theorem dcep_label_overruns :
    ¬ ∀ call, handleDcepPacket 1 [3, 0, 0, 0, 0, 0, 0, 0, 0xFF, 0xFF, 0, 0, 97] = .ok (some call) →
      call.Inside [3, 0, 0, 0, 0, 0, 0, 0, 0xFF, 0xFF, 0, 0, 97] := by
  intro hinside
  have hcall := hinside ⟨1, 12, 0xFFFF⟩ (by decide)
  revert hcall
  unfold DataChannelOpen.Inside
  decide

end KvsWebrtc.Sctp
