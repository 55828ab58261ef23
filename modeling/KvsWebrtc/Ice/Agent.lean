import KvsWebrtc.Stun.Serialize
import KvsWebrtc.Stun.Deserialize

/-!
# The ICE agent: candidates, pairs and STUN messages (`IceAgent.c`, `IceUtils.c`)

Candidates and pairs are kept in the lists of the agent, each with the address of its structure
(`ptr`); a pair, the queue of triggered checks and `pDataSendingIceCandidatePair` refer to them by
that address.  A candidate or a pair is in its list exactly as long as its memory is allocated, so a
reference that is not found refers to freed memory.

What the agent gets from outside is in `Host`: the HMAC and the CRC, random bytes, the old contents
of the stack, and which sends fail because the socket is closed.  All sent datagrams are recorded in
`sent`.  Statistics, round trip times, logging and failed allocations are left out.
-/

namespace KvsWebrtc.Ice

open Stun

inductive ICE_CANDIDATE_TYPE where
  | HOST
  | PEER_REFLEXIVE
  | SERVER_REFLEXIVE
  | RELAYED
  deriving DecidableEq, Repr

inductive ICE_CANDIDATE_STATE where
  | NEW
  | VALID
  | INVALID
  deriving DecidableEq, Repr

inductive ICE_CANDIDATE_PAIR_STATE where
  | FROZEN
  | WAITING
  | IN_PROGRESS
  | SUCCEEDED
  | FAILED
  deriving DecidableEq, Repr

inductive ICE_AGENT_STATE where
  | NEW
  | CHECK_CONNECTION
  | CONNECTED
  | NOMINATING
  | READY
  | DISCONNECTED
  | FAILED
  deriving DecidableEq, Repr

inductive STATUS where
  | INVALID_ARG
  | STUN (f : Failure)
  | ICE_NO_CONNECTED_CANDIDATE_PAIR
  | ICE_CANDIDATE_PAIR_LIST_EMPTY
  | ICE_FAILED_TO_NOMINATE_CANDIDATE_PAIR
  | ICE_NO_NOMINATED_VALID_CANDIDATE_PAIR_AVAILABLE
  | ICE_FAILED_TO_RECOVER_FROM_DISCONNECTION
  deriving DecidableEq, Repr

abbrev KVS_ICE_MAX_REMOTE_CANDIDATE_COUNT : Nat := 100
abbrev KVS_ICE_MAX_NEW_LOCAL_CANDIDATES_TO_REPORT_AT_ONCE : Nat := 10
abbrev KVS_ICE_MAX_RELAY_CANDIDATE_COUNT : Nat := 4
abbrev KVS_ICE_ENTER_STATE_FAILED_GRACE_PERIOD : Nat := 150000000
abbrev DEFAULT_MAX_STORED_TRANSACTION_ID_COUNT : Nat := 20
abbrev STUN_TRANSACTION_ID_LEN : Nat := 12
abbrev STUN_PACKET_TRANSACTION_ID_OFFSET : Nat := 8
abbrev STUN_PACKET_TYPE_BINDING_REQUEST : UINT16 := 0x0001
abbrev STUN_PACKET_TYPE_BINDING_INDICATION : UINT16 := 0x0011
abbrev STUN_PACKET_TYPE_BINDING_RESPONSE_SUCCESS : UINT16 := 0x0101
abbrev STUN_PACKET_TYPE_BINDING_RESPONSE_ERROR : UINT16 := 0x0111

structure Host where
  hmac : Bytes → Bytes → Bytes
  crc32 : Bytes → UINT32
  /-- `RAND() % 0x100`, in the order of the calls. -/
  rand : Nat → UINT8
  /-- The uninitialised buffer of `iceUtilsSendStunPacket`. -/
  stack : Nat → UINT8
  /-- Whether the `n`-th send fails with `STATUS_SOCKET_CONNECTION_CLOSED_ALREADY`. -/
  closed : Nat → Bool

/-! ## Transaction ids -/

/-- `inserted` is not in the source: the ids inserted since the store was last cleared. -/
structure TransactionIdStore where
  maxTransactionIdsCount : Nat
  nextTransactionIdIndex : Nat
  earliestTransactionIdIndex : Nat
  transactionIdCount : Nat
  transactionIds : List Bytes
  inserted : List Bytes
  deriving DecidableEq, Repr

/-- The memory is cleared. -/
def createTransactionIdStore (maxIdCount : Nat) : TransactionIdStore :=
  ⟨maxIdCount, 0, 0, 0, List.replicate maxIdCount (List.replicate STUN_TRANSACTION_ID_LEN 0), []⟩

def transactionIdStoreInsert (s : TransactionIdStore) (transactionId : Bytes) :
    TransactionIdStore :=
  let transactionIds :=
    s.transactionIds.set (s.nextTransactionIdIndex % s.maxTransactionIdsCount) transactionId
  let next := (s.nextTransactionIdIndex + 1) % s.maxTransactionIdsCount
  let s := { s with
    transactionIds := transactionIds
    nextTransactionIdIndex := next
    inserted := transactionId :: s.inserted }
  if next = s.earliestTransactionIdIndex then
    { s with earliestTransactionIdIndex :=
        (s.earliestTransactionIdIndex + 1) % s.maxTransactionIdsCount }
  else { s with transactionIdCount := min (s.transactionIdCount + 1) s.maxTransactionIdsCount }

/-- The slots in the order of the search, from the earliest one on. -/
def TransactionIdStore.slots (s : TransactionIdStore) : List Bytes :=
  s.transactionIds.drop s.earliestTransactionIdIndex ++
    s.transactionIds.take s.earliestTransactionIdIndex

/-- All slots are searched, used or not. -/
def transactionIdStoreHasId (s : TransactionIdStore) (transactionId : Bytes) : Bool :=
  s.slots.contains transactionId

/-- The first slot with the id, from the earliest one on, is zeroed. -/
def transactionIdStoreRemove (s : TransactionIdStore) (transactionId : Bytes) :
    TransactionIdStore :=
  if s.slots.contains transactionId then
    let i := (s.earliestTransactionIdIndex + s.slots.idxOf transactionId) %
      s.maxTransactionIdsCount
    { s with transactionIds := s.transactionIds.set i (List.replicate STUN_TRANSACTION_ID_LEN 0) }
  else s

/-- The slots keep their contents. -/
def transactionIdStoreClear (s : TransactionIdStore) : TransactionIdStore :=
  { s with
    nextTransactionIdIndex := 0
    earliestTransactionIdIndex := 0
    transactionIdCount := 0
    inserted := [] }

/-! ## The agent -/

/-- `isPointToPoint` is a field of `ipAddress` in the source; it decides the priority when the
candidate is created. -/
structure IceCandidate where
  ptr : Nat
  iceCandidateType : ICE_CANDIDATE_TYPE
  ipAddress : KvsIpAddress
  isPointToPoint : Bool
  pSocketConnection : Option Nat
  state : ICE_CANDIDATE_STATE
  priority : UINT32
  iceServerIndex : Nat
  reported : Bool
  deriving DecidableEq, Repr

/-- `localPtr` and `remotePtr` are the pointers `local` and `remote`. -/
structure IceCandidatePair where
  ptr : Nat
  localPtr : Nat
  remotePtr : Nat
  nominated : Bool
  priority : UINT64
  state : ICE_CANDIDATE_PAIR_STATE
  pTransactionIdStore : TransactionIdStore
  deriving DecidableEq, Repr

/-- An address that is not set is absent. -/
structure IceServer where
  isTurn : Bool
  ipv4Address : Option KvsIpAddress
  ipv6Address : Option KvsIpAddress
  deriving DecidableEq, Repr

/-- A datagram that was handed to a socket, with the local candidate it was sent from. -/
structure Datagram where
  socket : Option Nat
  source : KvsIpAddress
  dest : KvsIpAddress
  bytes : Bytes
  deriving DecidableEq, Repr

/-- `currentState` is the state of the state machine; `nextPtr`, `draws` and `sends` count the
allocations, the transaction ids drawn and the sends. -/
structure IceAgent where
  localUsername : Bytes
  localPassword : Bytes
  remotePassword : Bytes
  combinedUserName : Bytes
  remoteCredentialReceived : Bool
  isControlling : Bool
  isLiteAgent : Bool
  tieBreaker : UINT64
  localCandidates : List IceCandidate
  remoteCandidates : List IceCandidate
  triggeredCheckQueue : List Nat
  iceCandidatePairs : List IceCandidatePair
  iceServers : List IceServer
  relayCandidateCount : Nat
  iceAgentState : ICE_AGENT_STATE
  currentState : ICE_AGENT_STATE
  iceAgentStatus : Option STATUS
  stateEndTime : Nat
  iceConnectionCheckTimeout : Nat
  iceCandidateNominationTimeout : Nat
  iceDisconnectionTimeout : Nat
  pDataSendingIceCandidatePair : Option Nat
  lastDataReceivedTime : Option Nat
  detectedDisconnection : Bool
  disconnectionGracePeriodEndTime : Nat
  pBindingRequest : Option StunPacket
  pStunBindingRequestTransactionIdStore : TransactionIdStore
  nextPtr : Nat
  draws : Nat
  sends : Nat
  sent : List Datagram
  deriving DecidableEq, Repr

/-! ## References -/

variable (a : IceAgent)

def IceAgent.localCandidate (ptr : Nat) : Option IceCandidate :=
  a.localCandidates.find? fun c => c.ptr = ptr

def IceAgent.remoteCandidate (ptr : Nat) : Option IceCandidate :=
  a.remoteCandidates.find? fun c => c.ptr = ptr

def IceAgent.pair (ptr : Nat) : Option IceCandidatePair :=
  a.iceCandidatePairs.find? fun p => p.ptr = ptr

/-- A write through a pointer to a local candidate. -/
def IceAgent.updateLocal (ptr : Nat) (f : IceCandidate → IceCandidate) : IceAgent :=
  { a with localCandidates := a.localCandidates.map fun c => if c.ptr = ptr then f c else c }

/-- A write through a pointer to a pair. -/
def IceAgent.updatePair (ptr : Nat) (f : IceCandidatePair → IceCandidatePair) :
    IceAgent :=
  { a with iceCandidatePairs := a.iceCandidatePairs.map fun p => if p.ptr = ptr then f p else p }

def isSameIpAddress (a b : KvsIpAddress) (checkPort : Bool) : Bool :=
  a.family = b.family && a.address.take a.addressLength = b.address.take a.addressLength &&
    (!checkPort || a.port = b.port)

def findCandidateWithIp (ipAddress : KvsIpAddress) (candidates : List IceCandidate) :
    Option IceCandidate :=
  candidates.find? fun c => isSameIpAddress ipAddress c.ipAddress true

def findCandidateWithSocketConnection (socket : Nat) (candidates : List IceCandidate) :
    Option IceCandidate :=
  candidates.find? fun c => c.pSocketConnection = some socket

/-- The pair is not failed, its local candidate has the socket and its remote one the address. -/
def IceAgent.connects (socket : Nat) (remoteAddr : KvsIpAddress)
    (p : IceCandidatePair) : Bool :=
  p.state ≠ .FAILED &&
    ((a.localCandidate p.localPtr).bind IceCandidate.pSocketConnection = some socket) &&
    ((a.remoteCandidate p.remotePtr).any fun c => isSameIpAddress remoteAddr c.ipAddress true)

def findIceCandidatePairWithLocalSocketConnectionAndRemoteAddr (socket : Nat)
    (remoteAddr : KvsIpAddress) : Option IceCandidatePair :=
  a.iceCandidatePairs.find? (a.connects socket remoteAddr)

/-! ## Priorities -/

def computeCandidatePriority (type : ICE_CANDIDATE_TYPE) (isPointToPoint : Bool) : UINT32 :=
  let typePreference : Nat :=
    match type with
    | .HOST => 126
    | .SERVER_REFLEXIVE => 100
    | .PEER_REFLEXIVE => 110
    | .RELAYED => 0
  let localPreference : Nat := if isPointToPoint then 0 else 65535
  BitVec.ofNat 32 (2 ^ 24 * typePreference + 2 ^ 8 * localPreference + 255)

def computeCandidatePairPriority (localPriority remotePriority : UINT32)
    (isLocalControlling : Bool) : UINT64 :=
  let controlling := if isLocalControlling then localPriority.toNat else remotePriority.toNat
  let controlled := if isLocalControlling then remotePriority.toNat else localPriority.toNat
  BitVec.ofNat 64 (2 ^ 32 * min controlled controlling + 2 * max controlled controlling +
    if controlling > controlled then 1 else 0)

/-! ## Creating pairs -/

/-- Before the first pair of at most the same priority. -/
def insertIceCandidatePair (pairs : List IceCandidatePair) (p : IceCandidatePair) :
    List IceCandidatePair :=
  match pairs with
  | [] => [p]
  | q :: qs => if q.priority ≤ p.priority then p :: q :: qs else q :: insertIceCandidatePair qs p

/-- The body of the loop of `createIceCandidatePairs`. -/
def IceAgent.createPair (l r : IceCandidate) : IceAgent :=
  { a with
    iceCandidatePairs := insertIceCandidatePair a.iceCandidatePairs {
      ptr := a.nextPtr
      localPtr := l.ptr
      remotePtr := r.ptr
      nominated := false
      priority := computeCandidatePairPriority l.priority r.priority a.isControlling
      state := .WAITING
      pTransactionIdStore := createTransactionIdStore DEFAULT_MAX_STORED_TRANSACTION_ID_COUNT }
    nextPtr := a.nextPtr + 1 }

/-- Two candidates that form a pair. -/
def pairable (c other : IceCandidate) : Bool :=
  other.state = .VALID && other.ipAddress.family = c.ipAddress.family

/-- `createIceCandidatePairs` for a remote candidate. -/
def IceAgent.createPairsForRemote (r : IceCandidate) : IceAgent :=
  if r.state = .VALID then
    (a.localCandidates.filter (pairable r)).foldl (fun a l => a.createPair l r) a
  else a

/-- `createIceCandidatePairs` for a local candidate. -/
def IceAgent.createPairsForLocal (l : IceCandidate) : IceAgent :=
  if l.state = .VALID then
    (a.remoteCandidates.filter (pairable l)).foldl (fun a r => a.createPair l r) a
  else a

def IceAgent.insertRemote (c : IceCandidate) : IceAgent :=
  { a with remoteCandidates := c :: a.remoteCandidates, nextPtr := a.nextPtr + 1 }

def IceAgent.insertLocal (c : IceCandidate) : IceAgent :=
  { a with localCandidates := c :: a.localCandidates, nextPtr := a.nextPtr + 1 }

/-- A remote candidate at the next free address. -/
def IceAgent.newRemote (ipAddress : KvsIpAddress) (type : ICE_CANDIDATE_TYPE)
    (priority : UINT32) : IceCandidate where
  ptr := a.nextPtr
  iceCandidateType := type
  ipAddress := ipAddress
  isPointToPoint := false
  pSocketConnection := none
  state := .VALID
  priority := priority
  iceServerIndex := 0
  reported := false

/-- What `iceAgentAddRemoteCandidate` and `iceAgentCheckPeerReflexiveCandidate` have in common: a
candidate at an address that is not known yet is added and forms its pairs. -/
def IceAgent.addRemote (ipAddress : KvsIpAddress) (type : ICE_CANDIDATE_TYPE)
    (priority : UINT32) : IceAgent :=
  if a.remoteCandidates.length < KVS_ICE_MAX_REMOTE_CANDIDATE_COUNT then
    match findCandidateWithIp ipAddress a.remoteCandidates with
    | some _ => a
    | none =>
      let r := a.newRemote ipAddress type priority
      (a.insertRemote r).createPairsForRemote r
  else a

/-- The candidate string is parsed already; the peers of TURN connections are not modelled. -/
def iceAgentAddRemoteCandidate (ipAddress : KvsIpAddress)
    (type : ICE_CANDIDATE_TYPE) (priority : UINT32) : IceAgent :=
  a.addRemote ipAddress type priority

/-- One round of `iceAgentInitHostCandidate`: an interface whose address is no local candidate yet,
and a socket that is bound to it. -/
def iceAgentInitHostCandidate (ipAddress : KvsIpAddress) (isPointToPoint : Bool) :
    IceAgent :=
  match findCandidateWithIp ipAddress a.localCandidates with
  | some _ => a
  | none =>
    let l : IceCandidate := {
      ptr := a.nextPtr
      iceCandidateType := .HOST
      ipAddress := ipAddress
      isPointToPoint := isPointToPoint
      pSocketConnection := some (a.nextPtr + 1)
      state := .VALID
      priority := computeCandidatePriority .HOST isPointToPoint
      iceServerIndex := 0
      reported := false }
    ({ a.insertLocal l with nextPtr := a.nextPtr + 2 }).createPairsForLocal l

/-! ## Sending STUN packets -/

def iceUtilsGenerateTransactionId (w : Host) (n : Nat) : Bytes :=
  (List.range STUN_TRANSACTION_ID_LEN).map fun i => w.rand (STUN_TRANSACTION_ID_LEN * n + i)

/-- The password is absent or not empty, and the packet fits the buffer. -/
def iceUtilsPackageStunPacket (w : Host) (p : StunPacket) (password : Option Bytes) :
    Except Failure Bytes :=
  match serializeStunPacket w.hmac w.crc32 p password password.isSome true none with
  | .error e => .error e
  | .ok (_, size) =>
    if size ≤ STUN_PACKET_ALLOCATION_SIZE then
      match serializeStunPacket w.hmac w.crc32 p password password.isSome true
          (some ((List.range size).map w.stack)) with
      | .error e => .error e
      | .ok (bytes, _) => .ok (bytes.getD [])
    else .error (.status .INVALID_ARG)

/-- Pairs whose local candidate is not valid any more. -/
def iceAgentInvalidateCandidatePair : IceAgent :=
  { a with iceCandidatePairs := a.iceCandidatePairs.map fun p =>
      if (a.localCandidate p.localPtr).any (fun c => c.state = .VALID) then p
      else { p with state := .FAILED } }

/-- A packet that cannot be serialised is not sent; other failed sends look like lost datagrams. -/
def iceAgentSendStunPacket (w : Host) (a : IceAgent) (p : StunPacket) (password : Option Bytes)
    (l : IceCandidate) (dest : KvsIpAddress) : IceAgent :=
  match iceUtilsPackageStunPacket w p password with
  | .error _ => a
  | .ok bytes =>
    if w.closed a.sends then
      let a := { a with sends := a.sends + 1 }
      iceAgentInvalidateCandidatePair
        (a.updateLocal l.ptr fun c => { c with state := .INVALID })
    else
      { a with
        sends := a.sends + 1
        sent := a.sent ++ [⟨l.pSocketConnection, l.ipAddress, dest, bytes⟩] }

def getStunAttribute (attributes : List StunAttribute) (type : UINT16) : Option StunAttribute :=
  attributes.find? fun attr => attr.type = type

/-- The packet with another transaction id and another value of its PRIORITY attribute. -/
def withPriority (p : StunPacket) (transactionId : Bytes) (priority : UINT32) : StunPacket :=
  { p with
    header := { p.header with transactionId := transactionId }
    attributeList := p.attributeList.map fun attr =>
      if attr.type = STUN_ATTRIBUTE_TYPE_PRIORITY then { attr with value := .word priority }
      else attr }

/-- A check on a pair.  It fails without a request or without the PRIORITY attribute; the request of
the agent keeps the new transaction id. -/
def iceCandidatePairCheckConnection (w : Host) (a : IceAgent) (ptr : Nat) : Option IceAgent :=
  match a.pBindingRequest, a.pair ptr with
  | some request, some p =>
    match a.localCandidate p.localPtr, a.remoteCandidate p.remotePtr with
    | some l, some r =>
      if (getStunAttribute request.attributeList STUN_ATTRIBUTE_TYPE_PRIORITY).isSome then
        let transactionId := iceUtilsGenerateTransactionId w a.draws
        let request := withPriority request transactionId l.priority
        let a := { a with draws := a.draws + 1, pBindingRequest := some request }
        let a := a.updatePair ptr fun p => { p with
          pTransactionIdStore := transactionIdStoreInsert p.pTransactionIdStore transactionId }
        some (iceAgentSendStunPacket w a request (some a.remotePassword) l r.ipAddress)
      else none
    | _, _ => none
  | _, _ => none

/-- The status of `iceAgentFatalError`. -/
def iceAgentFatalError (errorStatus : STATUS) : IceAgent :=
  { a with iceAgentStatus := some errorStatus }

/-- A loop of checks over these pairs. -/
def checkPairs (w : Host) : List Nat → IceAgent → IceAgent
  | [], a => a
  | ptr :: ptrs, a =>
    match iceCandidatePairCheckConnection w a ptr with
    | none => iceAgentFatalError a .INVALID_ARG
    | some a => checkPairs w ptrs a

end KvsWebrtc.Ice
