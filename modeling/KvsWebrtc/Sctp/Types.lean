import KvsWebrtc.Lib.SerialNumber
import KvsWebrtc.Lib.SlotTable
import KvsWebrtc.Common

/-!
# The SCTP association record (`SctpInt.h`)

Data model of the native SCTP stack: the sizes and limits, the association states, the slots of
the three send-side tables and `SctpAssociation` itself.  Machine integers keep their width
(`UINT32` is `BitVec 32`), so every addition and subtraction wraps as in C.  Heap-allocated
payloads are `Option Bytes`, `none` standing for `NULL`; allocations succeed.

`receivedTsns` is the list of the first `receivedTsnCount` entries of the array, and
`reassemblyBuf` holds the first `reassemblyLen` bytes of the reassembly buffer.
-/

namespace KvsWebrtc.Sctp

/-- `SCTP_PAD4`: pad a length to the next 4-byte boundary. -/
def SCTP_PAD4 (x : Nat) : Nat := (x + 3) / 4 * 4

/-! ## Chunk types, flags and parameters -/

def SCTP_CHUNK_DATA : UINT8 := 0
def SCTP_CHUNK_INIT : UINT8 := 1
def SCTP_CHUNK_INIT_ACK : UINT8 := 2
def SCTP_CHUNK_SACK : UINT8 := 3
def SCTP_CHUNK_HEARTBEAT : UINT8 := 4
def SCTP_CHUNK_HEARTBEAT_ACK : UINT8 := 5
def SCTP_CHUNK_ABORT : UINT8 := 6
def SCTP_CHUNK_SHUTDOWN : UINT8 := 7
def SCTP_CHUNK_SHUTDOWN_ACK : UINT8 := 8
def SCTP_CHUNK_COOKIE_ECHO : UINT8 := 10
def SCTP_CHUNK_COOKIE_ACK : UINT8 := 11
def SCTP_CHUNK_SHUTDOWN_COMPLETE : UINT8 := 14
def SCTP_CHUNK_FORWARD_TSN : UINT8 := 192

def SCTP_DATA_FLAG_END : UINT8 := 0x01
def SCTP_DATA_FLAG_BEGIN : UINT8 := 0x02
def SCTP_DATA_FLAG_UNORDERED : UINT8 := 0x04

def SCTP_PARAM_STATE_COOKIE : UINT16 := 0x0007
def SCTP_PARAM_FORWARD_TSN_SUPPORTED : UINT16 := 0xC000

/-! ## Sizes, limits and timer defaults -/

abbrev SCTP_COMMON_HEADER_SIZE : Nat := 12
abbrev SCTP_CHUNK_HEADER_SIZE : Nat := 4
abbrev SCTP_DATA_HEADER_SIZE : Nat := 16
abbrev SCTP_INIT_HEADER_SIZE : Nat := 20
abbrev SCTP_SACK_HEADER_SIZE : Nat := 16
abbrev SCTP_COOKIE_ACK_SIZE : Nat := 4
abbrev SCTP_SHUTDOWN_SIZE : Nat := 8
abbrev SCTP_SHUTDOWN_ACK_SIZE : Nat := 4
abbrev SCTP_SHUTDOWN_COMPLETE_SIZE : Nat := 4
abbrev SCTP_FORWARD_TSN_HEADER_SIZE : Nat := 8

abbrev SCTP_MAX_PACKET_SIZE : Nat := 1200
abbrev SCTP_DEFAULT_ARWND : UINT32 := 131072
abbrev SCTP_INITIAL_CWND_MTUS : UINT32 := 3
abbrev SCTP_MAX_STREAMS : Nat := 300

abbrev SCTP_MAX_OUTSTANDING : Nat := 2048
abbrev SCTP_MAX_RECEIVED : Nat := 2048
abbrev SCTP_MAX_GAP_BLOCKS : Nat := 128
abbrev SCTP_MAX_REASSEMBLY_SIZE : Nat := 65536
abbrev SCTP_MAX_QUEUED_MESSAGES : Nat := 32
abbrev SCTP_MAX_QUEUED_PAYLOAD : Nat := 1200
abbrev SCTP_MAX_PENDING_SENDS : Nat := 1024

abbrev SCTP_COOKIE_SIZE : Nat := 44
abbrev SCTP_COOKIE_MAGIC1 : UINT32 := 0x4B565343
abbrev SCTP_COOKIE_MAGIC2 : UINT32 := 0x44415441

abbrev SCTP_RTO_INITIAL_MS : UINT32 := 1000
abbrev SCTP_RTO_MIN_MS : UINT32 := 1000
abbrev SCTP_RTO_MAX_MS : UINT32 := 60000
abbrev SCTP_MAX_INIT_RETRANS : UINT32 := 8

/-- 100 ns units in a millisecond (`CommonDefs.h`). -/
abbrev HUNDREDS_OF_NANOS_IN_A_MILLISECOND : UINT64 := 10000

/-! ## Wrapping TSN comparisons -/

abbrev TSN_LTE (a b : UINT32) : Prop := Serial.le a b
abbrev TSN_GT (a b : UINT32) : Prop := Serial.gt a b
abbrev TSN_GTE (a b : UINT32) : Prop := Serial.ge a b

/-! ## States and records -/

inductive SctpAssocState where
  | CLOSED
  | COOKIE_WAIT
  | COOKIE_ECHOED
  | ESTABLISHED
  | SHUTDOWN_PENDING
  | SHUTDOWN_SENT
  | SHUTDOWN_ACK_SENT
  deriving DecidableEq, Repr

/-- The state cookie of an INIT-ACK. -/
structure SctpCookie where
  magic1 : UINT32
  magic2 : UINT32
  peerTag : UINT32
  myTag : UINT32
  peerInitialTsn : UINT32
  myInitialTsn : UINT32
  peerArwnd : UINT32
  tieTag : UINT64
  numInStreams : UINT16
  numOutStreams : UINT16
  reserved : UINT32
  deriving DecidableEq, Repr

/-- The arguments of one `sctpAssocSend` call. -/
structure SctpMessage where
  streamId : UINT16
  ppid : UINT32
  unordered : Bool
  payload : Bytes
  maxRetransmits : UINT16
  lifetimeMs : UINT64
  deriving DecidableEq, Repr

/-- One slot of `outstanding[]`. -/
structure SctpOutstandingData where
  tsn : UINT32
  streamId : UINT16
  ssn : UINT16
  ppid : UINT32
  payload : Option Bytes
  payloadLen : UINT32
  unordered : Bool
  sentTime : UINT64
  retransmitCount : UINT32
  acked : Bool
  abandoned : Bool
  maxRetransmits : UINT16
  lifetimeMs : UINT64
  creationTime : UINT64
  inUse : Bool
  deriving DecidableEq, Repr

/-- One slot of `sendQueue[]` or `pendingQueue[]`. -/
structure SctpQueueSlot where
  msg : SctpMessage
  inUse : Bool
  deriving DecidableEq, Repr

def SctpOutstandingData.zero : SctpOutstandingData :=
  ⟨0, 0, 0, 0, none, 0, false, 0, 0, false, false, 0, 0, 0, false⟩

def SctpQueueSlot.zero : SctpQueueSlot := ⟨⟨0, 0, false, [], 0, 0⟩, false⟩

/-- The association.  Left out are the fields no function of `SctpAssoc.c` reads: `srttMs`,
`outPacketLen` and `cookie`. -/
structure SctpAssociation where
  state : SctpAssocState
  localPort : UINT16
  remotePort : UINT16
  myVerificationTag : UINT32
  peerVerificationTag : UINT32
  nextTsn : UINT32
  cumulativeAckTsn : UINT32
  outstanding : SlotTable SctpOutstandingData SCTP_MAX_OUTSTANDING
  outstandingCount : UINT32
  nextSsn : SlotTable UINT16 SCTP_MAX_STREAMS
  peerCumulativeTsn : UINT32
  peerCumulativeTsnValid : Bool
  receivedTsns : List UINT32
  needSack : Bool
  cwnd : UINT32
  ssthresh : UINT32
  peerArwnd : UINT32
  flightSize : UINT32
  mtu : UINT16
  t1InitExpiry : UINT64
  t3RtxExpiry : UINT64
  initRetransmitCount : UINT32
  rtoMs : UINT32
  outPacket : Bytes
  cookieEchoData : Bytes
  cookieEchoValid : Bool
  tieTag : UINT64
  advancedPeerAckPoint : UINT32
  reassemblyBuf : Option Bytes
  reassemblyStreamId : UINT16
  reassemblySsn : UINT16
  reassemblyPpid : UINT32
  reassemblyInProgress : Bool
  sendQueue : SlotTable SctpQueueSlot SCTP_MAX_QUEUED_MESSAGES
  sendQueueCount : UINT32
  pendingQueue : SlotTable SctpQueueSlot SCTP_MAX_PENDING_SENDS
  pendingQueueCount : UINT32

end KvsWebrtc.Sctp
