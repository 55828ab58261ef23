import KvsWebrtc.Ice.TransactionIds
import KvsWebrtc.Turn.ChannelData
import KvsWebrtc.Turn.Nonce

/-!
# The peers of a TURN connection (`TurnConnection.c`)

A peer is added once and never removed.  The requests that are sent for it are remembered in a
transaction id store of its own, and a response finds its peer by looking through these stores.  The
responses that grant a permission or bind a channel are not authenticated.

A buffer is one STUN message, as `turnConnectionIncomingDataHandler` passes it on.
-/

namespace KvsWebrtc.Turn.Machine

open Stun Ice

inductive STATUS where
  | NULL_ARG
  | INVALID_ARG
  | INVALID_OPERATION
  | INTERNAL_ERROR
  | INVALID_STREAM_STATE
  | TURN_CONNECTION_GET_CREDENTIALS_FAILED
  | TURN_CONNECTION_ALLOCATION_FAILED
  | TURN_CONNECTION_FAILED_TO_CREATE_PERMISSION
  | TURN_CONNECTION_FAILED_TO_BIND_CHANNEL
  | STUN (f : Failure)
  /-- Of a function outside these files. -/
  | other (code : UINT32)
  deriving DecidableEq, Repr

inductive TURN_PEER_CONNECTION_STATE where
  | CREATE_PERMISSION
  | BIND_CHANNEL
  | READY
  | FAILED
  deriving DecidableEq, Repr

inductive TURN_STATE where
  | NEW
  | CHECK_SOCKET_CONNECTION
  | GET_CREDENTIALS
  | ALLOCATION
  | CREATE_PERMISSION
  | BIND_CHANNEL
  | READY
  | CLEAN_UP
  | FAILED
  deriving DecidableEq, Repr

abbrev INVALID_TIMESTAMP_VALUE : Nat := 2 ^ 64 - 1
abbrev HUNDREDS_OF_NANOS_IN_A_SECOND : Nat := 10000000
abbrev TURN_PERMISSION_LIFETIME : Nat := 300 * HUNDREDS_OF_NANOS_IN_A_SECOND
abbrev DEFAULT_TURN_TIMER_INTERVAL_BEFORE_READY : Nat := 500000
abbrev STUN_PACKET_TYPE_ALLOCATE_SUCCESS_RESPONSE : UINT16 := 0x0103
abbrev STUN_PACKET_TYPE_REFRESH_SUCCESS_RESPONSE : UINT16 := 0x0104
abbrev STUN_PACKET_TYPE_CREATE_PERMISSION_SUCCESS_RESPONSE : UINT16 := 0x0108
abbrev STUN_PACKET_TYPE_CHANNEL_BIND_SUCCESS_RESPONSE : UINT16 := 0x0109

/-- `requests` is not in the source: the transaction ids of the requests sent for the peer. -/
structure TurnPeer extends Turn.TurnPeer where
  connectionState : TURN_PEER_CONNECTION_STATE
  pTransactionIdStore : TransactionIdStore
  permissionExpirationTime : Nat
  ready : Bool
  requests : List Bytes
  deriving DecidableEq, Repr

/-- `currentState` is the state of the state machine; `draws` and `created` count the transaction
ids drawn for peers and the packets created. -/
structure TurnConnection extends TurnCredentials where
  username : Bytes
  credential : Bytes
  ipFamilyType : UINT16
  turnPeerList : List TurnPeer
  relayAddress : KvsIpAddress
  state : TURN_STATE
  currentState : TURN_STATE
  stateTimeoutTime : Nat
  errorStatus : Option STATUS
  stopTurnConnection : Bool
  shutdownComplete : Bool
  allocationExpirationTime : Nat
  nextAllocationRefreshTime : Nat
  currentTimerCallingPeriod : Nat
  draws : Nat
  created : Nat

/-- The memory is cleared. -/
def noAddress : KvsIpAddress := ⟨0, 0, List.replicate 16 0, rfl⟩

def createTurnConnection (username credential : Bytes) (turnServerIpFamily : UINT16) :
    TurnConnection where
  turnRealm := []
  turnNonce := List.replicate STUN_MAX_NONCE_LEN 0
  nonceLen := 0
  longTermKey := List.replicate 16 0
  credentialObtained := false
  deallocatePacketSent := false
  hasAllocation := false
  pTurnPacket := none
  pTurnAllocationRefreshPacket := none
  pTurnChannelBindPacket := none
  pTurnCreatePermissionPacket := none
  length_turnNonce := List.length_replicate
  username := username
  credential := credential
  ipFamilyType := turnServerIpFamily
  turnPeerList := []
  relayAddress := noAddress
  state := .NEW
  currentState := .NEW
  stateTimeoutTime := INVALID_TIMESTAMP_VALUE
  errorStatus := none
  stopTurnConnection := false
  shutdownComplete := false
  allocationExpirationTime := INVALID_TIMESTAMP_VALUE
  nextAllocationRefreshTime := 0
  currentTimerCallingPeriod := DEFAULT_TURN_TIMER_INTERVAL_BEFORE_READY
  draws := 0
  created := 0

/-! ## Adding a peer -/

/-- The peer with the number `count`, counted from one. -/
def newPeer (peerAddress : KvsIpAddress) (count : Nat) : TurnPeer where
  address := peerAddress
  channelNumber := BitVec.ofNat 16 count + TURN_CHANNEL_BIND_CHANNEL_NUMBER_BASE
  connectionState := .CREATE_PERMISSION
  pTransactionIdStore := createTransactionIdStore DEFAULT_MAX_STORED_TRANSACTION_ID_COUNT
  permissionExpirationTime := INVALID_TIMESTAMP_VALUE
  ready := false
  requests := []

/-- A server of one family does not take a peer of another one. -/
def ofOtherFamily (ipFamilyType : UINT16) (peerAddress : KvsIpAddress) : Bool :=
  (ipFamilyType = KVS_IP_FAMILY_TYPE_IPV4 && peerAddress.family ≠ KVS_IP_FAMILY_TYPE_IPV4) ||
    (ipFamilyType = KVS_IP_FAMILY_TYPE_IPV6 && peerAddress.family ≠ KVS_IP_FAMILY_TYPE_IPV6)

def turnConnectionAddPeer (c : TurnConnection) (peerAddress : KvsIpAddress) :
    TurnConnection × Option STATUS :=
  if ofOtherFamily c.ipFamilyType peerAddress then (c, some .INVALID_ARG)
  else if c.turnPeerList.any (fun p => isSameIpAddress p.address peerAddress) then (c, none)
  else if DEFAULT_TURN_MAX_PEER_COUNT ≤ c.turnPeerList.length then (c, some .INVALID_OPERATION)
  else ({ c with
    turnPeerList := c.turnPeerList ++ [newPeer peerAddress (c.turnPeerList.length + 1)] }, none)

/-! ## Success responses -/

def transactionIdOf (pBuffer : Bytes) : Bytes :=
  (pBuffer.drop STUN_PACKET_TRANSACTION_ID_OFFSET).take STUN_TRANSACTION_ID_LEN

/-- The loop's body for a permission that was granted. -/
def permissionGranted (transactionId : Bytes) (currentTime : Nat) (p : TurnPeer) : TurnPeer :=
  if transactionIdStoreHasId p.pTransactionIdStore transactionId then
    { p with
      connectionState :=
        if p.connectionState = .CREATE_PERMISSION then .BIND_CHANNEL else p.connectionState
      permissionExpirationTime := TURN_PERMISSION_LIFETIME + currentTime }
  else p

/-- The peer waits for a channel, and its store has the id. -/
def awaitsBind (transactionId : Bytes) (p : TurnPeer) : Bool :=
  p.connectionState = .BIND_CHANNEL && transactionIdStoreHasId p.pTransactionIdStore transactionId

/-- The first peer that satisfies `q` becomes `f` of it. -/
def modifyFirst (q : TurnPeer → Bool) (f : TurnPeer → TurnPeer) (peers : List TurnPeer) :
    List TurnPeer :=
  peers.modify (peers.findIdx q) f

def channelBound (transactionId : Bytes) (peers : List TurnPeer) : List TurnPeer :=
  modifyFirst (awaitsBind transactionId)
    (fun p => { p with ready := true, connectionState := .READY }) peers

section

variable (hmac : Bytes → Bytes → Bytes) (crc32 : Bytes → UINT32)

/-- A word attribute. -/
def wordOf (a : StunAttribute) : Option UINT32 :=
  match a.value with
  | .word v => some v
  | _ => none

def addressOf (a : StunAttribute) : Option KvsIpAddress :=
  match a.value with
  | .address address => some address
  | _ => none

def lifetimeOf (p : ParsedPacket) : Option UINT32 :=
  (getStunAttribute p.attributeList STUN_ATTRIBUTE_TYPE_LIFETIME).bind wordOf

def relayedAddressOf (p : ParsedPacket) : Option KvsIpAddress :=
  (getStunAttribute p.attributeList STUN_ATTRIBUTE_TYPE_XOR_RELAYED_ADDRESS).bind addressOf

theorem TurnConnection.nonce_full (c : TurnConnection) :
    c.turnNonce.length = STUN_MAX_NONCE_LEN := c.length_turnNonce

/-- A shutdown that was started hides the response. -/
def allocateSucceeded (c : TurnConnection) (pBuffer : Bytes) (currentTime : Nat) :
    TurnConnection × Option Failure :=
  if c.stopTurnConnection then (c, none)
  else
    match deserializeStunPacket hmac crc32 pBuffer (some c.longTermKey) with
    | .error e => (c, some e)
    | .ok p =>
      match relayedAddressOf p, lifetimeOf p with
      | some relayAddress, some lifetime => ({ c with
          allocationExpirationTime := lifetime.toNat * HUNDREDS_OF_NANOS_IN_A_SECOND + currentTime
          relayAddress := relayAddress
          hasAllocation := true
          length_turnNonce := c.nonce_full }, none)
      | _, _ => (c, none)

def refreshSucceeded (c : TurnConnection) (pBuffer : Bytes) (currentTime : Nat) :
    TurnConnection × Option Failure :=
  match deserializeStunPacket hmac crc32 pBuffer (some c.longTermKey) with
  | .error e => (c, some e)
  | .ok p =>
    match lifetimeOf p with
    | none => (c, none)
    | some lifetime =>
      if lifetime = 0 then
        ({ c with hasAllocation := false, length_turnNonce := c.nonce_full }, none)
      else ({ c with
        allocationExpirationTime :=
          lifetime.toNat * HUNDREDS_OF_NANOS_IN_A_SECOND + currentTime }, none)

def turnConnectionHandleStun (c : TurnConnection) (pBuffer : Bytes) (currentTime : Nat) :
    TurnConnection × Option Failure :=
  if !IS_STUN_PACKET pBuffer || STUN_PACKET_IS_TYPE_ERROR pBuffer then (c, none)
  else
    let stunPacketType := getUnalignedInt16BigEndian pBuffer 0
    if stunPacketType = STUN_PACKET_TYPE_ALLOCATE_SUCCESS_RESPONSE then
      allocateSucceeded hmac crc32 c pBuffer currentTime
    else if stunPacketType = STUN_PACKET_TYPE_REFRESH_SUCCESS_RESPONSE then
      refreshSucceeded hmac crc32 c pBuffer currentTime
    else if stunPacketType = STUN_PACKET_TYPE_CREATE_PERMISSION_SUCCESS_RESPONSE then
      ({ c with turnPeerList :=
          c.turnPeerList.map (permissionGranted (transactionIdOf pBuffer) currentTime) }, none)
    else if stunPacketType = STUN_PACKET_TYPE_CHANNEL_BIND_SUCCESS_RESPONSE then
      ({ c with turnPeerList := channelBound (transactionIdOf pBuffer) c.turnPeerList }, none)
    else (c, none)

/-! ## Error responses -/

/-- The error code of a response that is read to its end. -/
def errorCodeRead (c : TurnConnection) (pBuffer : Bytes) : Option UINT16 :=
  if STUN_PACKET_IS_TYPE_ERROR pBuffer && !c.deallocatePacketSent then
    match readResponse hmac crc32 c.toTurnCredentials pBuffer with
    | .error _ => none
    | .ok p => (getStunAttribute p.attributeList STUN_ATTRIBUTE_TYPE_ERROR_CODE).map errorCodeOf
  else none

/-- Any other error concerns a peer: the first whose store has the id. -/
def concernsPeer (errorCode : UINT16) : Bool :=
  errorCode ≠ STUN_ERROR_UNAUTHORIZED && errorCode ≠ STUN_ERROR_STALE_NONCE

def peerFailed (transactionId : Bytes) (peers : List TurnPeer) : List TurnPeer :=
  modifyFirst (fun p => transactionIdStoreHasId p.pTransactionIdStore transactionId)
    (fun p => { p with connectionState := .FAILED }) peers

def turnConnectionHandleStunError (c : TurnConnection) (pBuffer : Bytes) :
    TurnConnection × Option Failure :=
  let (credentials, status) :=
    Turn.turnConnectionHandleStunError hmac crc32 c.toTurnCredentials pBuffer
  let turnPeerList :=
    if (errorCodeRead hmac crc32 c pBuffer).any concernsPeer then
      peerFailed (transactionIdOf pBuffer) c.turnPeerList
    else c.turnPeerList
  ({ c with toTurnCredentials := credentials, turnPeerList := turnPeerList }, status)

/-- A STUN message from the server. -/
def handleStunMessage (c : TurnConnection) (pBuffer : Bytes) (currentTime : Nat) : TurnConnection :=
  if STUN_PACKET_IS_TYPE_ERROR pBuffer then
    (turnConnectionHandleStunError hmac crc32 c pBuffer).1
  else (turnConnectionHandleStun hmac crc32 c pBuffer currentTime).1

end

end KvsWebrtc.Turn.Machine
