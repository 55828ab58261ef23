import KvsWebrtc.Lib.Checked
import KvsWebrtc.Lib.Steps
import KvsWebrtc.Turn.Peers

/-!
# The state machine of a TURN connection (`TurnConnectionStateMachine.c`)

A state of `TURN_CONNECTION_STATE_MACHINE_STATES` is a pair of callbacks: one that names the next
state, one that is executed when the machine gets there.  An action that fails keeps what it wrote.
`Surroundings` is what a step of the machine finds outside the connection; one reading of the clock
serves a whole step.

A round of the loop of `stepTurnConnectionStateMachine` is an event, and so is the step behind
`turnStateFailedFn`, which is called without the lock.  Here other events may come between two
rounds as well, and these two at any time.  A connection that stopped stays so (`stopped_for_good`).
-/

namespace KvsWebrtc.Turn.Machine

open Stun Ice Checked Steps

abbrev DEFAULT_TURN_ALLOCATION_LIFETIME_SECONDS : UINT32 := 600
abbrev TURN_REQUEST_TRANSPORT_UDP : UINT8 := 17
abbrev DEFAULT_TURN_TIMER_INTERVAL_AFTER_READY : Nat := HUNDREDS_OF_NANOS_IN_A_SECOND
abbrev DEFAULT_TURN_SEND_REFRESH_INVERVAL : Nat := HUNDREDS_OF_NANOS_IN_A_SECOND
abbrev DEFAULT_TURN_GET_CREDENTIAL_TIMEOUT : Nat := 5 * HUNDREDS_OF_NANOS_IN_A_SECOND
abbrev DEFAULT_TURN_ALLOCATION_TIMEOUT : Nat := 5 * HUNDREDS_OF_NANOS_IN_A_SECOND
abbrev DEFAULT_TURN_CREATE_PERMISSION_TIMEOUT : Nat := 5 * HUNDREDS_OF_NANOS_IN_A_SECOND
abbrev DEFAULT_TURN_BIND_CHANNEL_TIMEOUT : Nat := 5 * HUNDREDS_OF_NANOS_IN_A_SECOND
abbrev DEFAULT_TURN_CLEAN_UP_TIMEOUT : Nat := 10 * HUNDREDS_OF_NANOS_IN_A_SECOND
abbrev DEFAULT_TURN_ALLOCATION_REFRESH_GRACE_PERIOD : Nat := 30 * HUNDREDS_OF_NANOS_IN_A_SECOND
abbrev DEFAULT_TURN_PERMISSION_REFRESH_GRACE_PERIOD : Nat := 30 * HUNDREDS_OF_NANOS_IN_A_SECOND
abbrev MAX_ICE_CONFIG_CREDENTIAL_LEN : Nat := 256
abbrev KVS_IP_FAMILY_TYPE_NOT_SET : UINT16 := 0
abbrev STUN_PACKET_TYPE_ALLOCATE : UINT16 := 0x0003
abbrev STUN_PACKET_TYPE_REFRESH : UINT16 := 0x0004
abbrev STUN_PACKET_TYPE_CREATE_PERMISSION : UINT16 := 0x0008
abbrev STUN_PACKET_TYPE_CHANNEL_BIND_REQUEST : UINT16 := 0x0009

structure Host extends Ice.Host where
  md5 : Bytes → Bytes
  /-- The transaction id of the `n`-th packet that is created without one. -/
  createdId : Nat → Bytes

structure Surroundings where
  time : Nat
  /-- `socketConnectionIsConnected`. -/
  isConnected : Bool
  /-- `socketConnectionIsClosed`. -/
  isClosed : Bool
  /-- What `iceUtilsSendStunPacket` returns. -/
  send : Option STATUS
  /-- What setting up TLS returns, where it is needed. -/
  initSecureConnection : Option STATUS
  /-- What `timerQueueUpdateTimerPeriod` returns. -/
  updateTimerPeriod : Option STATUS
  /-- What `socketConnectionClosed` returns. -/
  closeSocket : Option STATUS

abbrev Action (α : Type) : Type := Checked STATUS TurnConnection α

/-- A STUN packet, or the status of its failure. -/
def ofStun {α : Type} : Except Failure α → Action α
  | .ok a => pure a
  | .error e => throw (.STUN e)

/-! ## Packets -/

/-- The appends of a packet up to the first that fails. -/
def buildPacket (p : StunPacket) :
    List (StunPacket → Except Failure StunPacket) → StunPacket × Option STATUS
  | [] => (p, none)
  | append :: rest =>
    match append p with
    | .error e => (p, some (.STUN e))
    | .ok p => buildPacket p rest

/-- The bytes of the nonce. -/
def nonceOf (c : TurnConnection) : Bytes := c.turnNonce.take c.nonceLen.toNat

/-- The attributes that authenticate a request. -/
def credentialAttributes (c : TurnConnection) :
    List (StunPacket → Except Failure StunPacket) :=
  [(appendStunUsernameAttribute · c.username), (appendStunRealmAttribute · c.turnRealm),
    (appendStunNonceAttribute · (nonceOf c))]

/-- Without credentials for the first request. -/
def turnConnectionPackageTurnAllocationRequest (transactionId : Bytes)
    (credentials : Option (Bytes × Bytes × Bytes)) (lifetime : UINT32) (ipFamilyType : UINT16) :
    Except Failure StunPacket :=
  if credentials.any fun (_, _, nonce) => nonce = [] then .error (.status .INVALID_ARG)
  else do
    let p ← appendStunLifetimeAttribute
      (createStunPacket STUN_PACKET_TYPE_ALLOCATE transactionId) lifetime
    let p ← appendStunRequestedTransportAttribute p TURN_REQUEST_TRANSPORT_UDP
    match credentials with
    | none => return p
    | some (username, realm, nonce) =>
      let p ← appendStunUsernameAttribute p username
      let p ← appendStunRealmAttribute p realm
      let p ← appendStunNonceAttribute p nonce
      appendStunAllocationAddressFamily p
        (if ipFamilyType = KVS_IP_FAMILY_TYPE_IPV6 then KVS_IP_FAMILY_TYPE_IPV6
        else KVS_IP_FAMILY_TYPE_IPV4)

/-- `username:realm:password`, as much of it as the buffer holds. -/
def turnConnectionGetLongTermKey (w : Host) (username realm password : Bytes) :
    Except STATUS Bytes :=
  let size := STUN_MAX_USERNAME_LEN + MAX_ICE_CONFIG_CREDENTIAL_LEN + STUN_MAX_REALM_LEN + 2
  if username = [] ∨ realm = [] ∨ password = [] then .error .INVALID_ARG
  else if size - 2 < username.length + realm.length + password.length then .error .INVALID_ARG
  else .ok (w.md5 ((username ++ [58] ++ realm ++ [58] ++ password).take (size - 1)))

/-- `getStunAttribute`, where the packet or the attribute is missing. -/
def missing (p : Option StunPacket) (type : UINT16) : Option STATUS :=
  match p with
  | none => some .NULL_ARG
  | some p =>
    if (getStunAttribute p.attributeList type).isNone then some .INTERNAL_ERROR else none

/-- The first attribute of the type gets the value. -/
def setValue (type : UINT16) (value : AttributeValue) (p : StunPacket) : StunPacket :=
  { p with
    attributeList := p.attributeList.modify (p.attributeList.findIdx (·.type = type))
      fun a => { a with value := value } }

def setTransactionId (transactionId : Bytes) (p : StunPacket) : StunPacket :=
  { p with header := { p.header with transactionId := transactionId } }

/-! ## Requests for the peers -/

/-- The id of a request is stored before the request is sent. -/
def TurnPeer.request (transactionId : Bytes) (p : TurnPeer) : TurnPeer :=
  { p with
    pTransactionIdStore := transactionIdStoreInsert p.pTransactionIdStore transactionId
    requests := transactionId :: p.requests }

def sendCreatePermission (w : Host) (i : Nat) (p : TurnPeer) : Action Unit := do
  let c ← get
  check (missing c.pTurnCreatePermissionPacket STUN_ATTRIBUTE_TYPE_XOR_PEER_ADDRESS)
  modify fun c =>
    let transactionId := iceUtilsGenerateTransactionId w.toHost c.draws
    { c with
      draws := c.draws + 1
      pTurnCreatePermissionPacket := c.pTurnCreatePermissionPacket.map fun packet =>
        setTransactionId transactionId
          (setValue STUN_ATTRIBUTE_TYPE_XOR_PEER_ADDRESS (.address p.address) packet)
      turnPeerList := c.turnPeerList.modify i (TurnPeer.request transactionId) }

def sendChannelBind (w : Host) (i : Nat) (p : TurnPeer) : Action Unit := do
  let c ← get
  check (missing c.pTurnChannelBindPacket STUN_ATTRIBUTE_TYPE_XOR_PEER_ADDRESS)
  modify fun c => { c with
    pTurnChannelBindPacket := c.pTurnChannelBindPacket.map
      (setValue STUN_ATTRIBUTE_TYPE_XOR_PEER_ADDRESS (.address p.address)) }
  check (missing c.pTurnChannelBindPacket STUN_ATTRIBUTE_TYPE_CHANNEL_NUMBER)
  modify fun c =>
    let transactionId := iceUtilsGenerateTransactionId w.toHost c.draws
    { c with
      draws := c.draws + 1
      pTurnChannelBindPacket := c.pTurnChannelBindPacket.map fun packet =>
        setTransactionId transactionId
          (setValue STUN_ATTRIBUTE_TYPE_CHANNEL_NUMBER (.channelNumber p.channelNumber 0) packet)
      turnPeerList := c.turnPeerList.modify i (TurnPeer.request transactionId) }

/-- The loop's body of `checkTurnPeerConnections`.  Whether the send succeeds does not matter. -/
def checkTurnPeer (w : Host) (i : Nat) : Action Unit := do
  let c ← get
  match c.turnPeerList[i]? with
  | none => pure ()
  | some p =>
    match p.connectionState with
    | .CREATE_PERMISSION => sendCreatePermission w i p
    | .BIND_CHANNEL => sendChannelBind w i p
    | .READY | .FAILED => pure ()

/-- Neither before the grace period nor right after another refresh. -/
def turnConnectionRefreshAllocation (s : Surroundings) : Action Unit := do
  let c ← get
  if c.allocationExpirationTime ≠ INVALID_TIMESTAMP_VALUE ∧
      c.allocationExpirationTime ≤ s.time + DEFAULT_TURN_ALLOCATION_REFRESH_GRACE_PERIOD ∧
      c.nextAllocationRefreshTime ≤ s.time then do
    check (missing c.pTurnAllocationRefreshPacket STUN_ATTRIBUTE_TYPE_LIFETIME)
    modify fun c => { c with
      pTurnAllocationRefreshPacket := c.pTurnAllocationRefreshPacket.map
        (setValue STUN_ATTRIBUTE_TYPE_LIFETIME (.word DEFAULT_TURN_ALLOCATION_LIFETIME_SECONDS)) }
    check s.send
    modify fun c => { c with
      nextAllocationRefreshTime := s.time + DEFAULT_TURN_SEND_REFRESH_INVERVAL }
  else pure ()

def checkTurnPeerConnections (w : Host) (s : Surroundings) : Action Unit := do
  let c ← get
  (List.range c.turnPeerList.length).forM (checkTurnPeer w)
  turnConnectionRefreshAllocation s

/-- Any permission that ends soon. -/
def turnConnectionRefreshPermission (c : TurnConnection) (currTime : Nat) : Bool :=
  c.turnPeerList.any fun p => p.permissionExpirationTime ≠ INVALID_TIMESTAMP_VALUE ∧
    p.permissionExpirationTime ≤ currTime + DEFAULT_TURN_PERMISSION_REFRESH_GRACE_PERIOD

/-! ## The next state -/

def TurnConnection.setTimeout (c : TurnConnection) (stateTimeoutTime : Nat) : TurnConnection :=
  { c with stateTimeoutTime := stateTimeoutTime }

/-- A state that was set from outside comes first. -/
def unlessStopped (next : Action TURN_STATE) : Action TURN_STATE := do
  let c ← get
  if c.state = .CLEAN_UP ∨ c.state = .FAILED then pure c.state else next

def fromNewTurnState : Action TURN_STATE := pure .CHECK_SOCKET_CONNECTION

def fromCheckSocketConnectionTurnState (s : Surroundings) : Action TURN_STATE :=
  unlessStopped <|
    if s.isConnected then do
      modify (·.setTimeout (s.time + DEFAULT_TURN_GET_CREDENTIAL_TIMEOUT))
      pure .GET_CREDENTIALS
    else pure .CHECK_SOCKET_CONNECTION

def fromGetCredentialsTurnState (s : Surroundings) : Action TURN_STATE :=
  unlessStopped do
    let c ← get
    if c.credentialObtained then do
      modify (·.setTimeout (s.time + DEFAULT_TURN_ALLOCATION_TIMEOUT))
      pure .ALLOCATION
    else pure .GET_CREDENTIALS

def fromAllocationTurnState (s : Surroundings) : Action TURN_STATE :=
  unlessStopped do
    let c ← get
    if c.hasAllocation then do
      modify (·.setTimeout (s.time + DEFAULT_TURN_CREATE_PERMISSION_TIMEOUT))
      pure .CREATE_PERMISSION
    else pure .ALLOCATION

/-- A peer with a permission may have got its channel already. -/
def TurnPeer.hasPermission (p : TurnPeer) : Bool :=
  p.connectionState = .BIND_CHANNEL || p.connectionState = .READY

def fromCreatePermissionTurnState (s : Surroundings) : Action TURN_STATE :=
  unlessStopped do
    let c ← get
    let channelWithPermissionCount := c.turnPeerList.countP TurnPeer.hasPermission
    if c.turnPeerList.length = 0 then do
      modify (·.setTimeout (s.time + DEFAULT_TURN_CREATE_PERMISSION_TIMEOUT))
      pure .CREATE_PERMISSION
    else if c.stateTimeoutTime < s.time ∨ channelWithPermissionCount = c.turnPeerList.length then do
      check (if 0 < channelWithPermissionCount then none
        else some .TURN_CONNECTION_FAILED_TO_CREATE_PERMISSION)
      modify (·.setTimeout (s.time + DEFAULT_TURN_BIND_CHANNEL_TIMEOUT))
      pure .BIND_CHANNEL
    else pure .CREATE_PERMISSION

def fromBindChannelTurnState (s : Surroundings) : Action TURN_STATE :=
  unlessStopped do
    let c ← get
    let readyPeerCount := c.turnPeerList.countP fun p => p.connectionState = .READY
    if c.stateTimeoutTime < s.time ∨ readyPeerCount = c.turnPeerList.length then do
      check (if 0 < readyPeerCount then none
        else some .TURN_CONNECTION_FAILED_TO_BIND_CHANNEL)
      pure .READY
    else pure .BIND_CHANNEL

/-- All peers go through the permission and the channel again. -/
def refreshPeers (s : Surroundings) (c : TurnConnection) : TurnConnection :=
  { c with
    turnPeerList := c.turnPeerList.map fun p => { p with connectionState := .CREATE_PERMISSION }
    currentTimerCallingPeriod := DEFAULT_TURN_TIMER_INTERVAL_BEFORE_READY
    stateTimeoutTime := s.time + DEFAULT_TURN_CREATE_PERMISSION_TIMEOUT }

def fromReadyTurnState (s : Surroundings) : Action TURN_STATE :=
  unlessStopped do
    let c ← get
    if turnConnectionRefreshPermission c s.time then do
      modify (refreshPeers s)
      check s.updateTimerPeriod
      pure .CREATE_PERMISSION
    else if c.currentTimerCallingPeriod ≠ DEFAULT_TURN_TIMER_INTERVAL_AFTER_READY then do
      modify fun c => { c with
        currentTimerCallingPeriod := DEFAULT_TURN_TIMER_INTERVAL_AFTER_READY }
      check s.updateTimerPeriod
      pure .READY
    else pure .READY

/-- The peers stay, their stores are cleared, and the packets are freed. -/
def TurnConnection.release (c : TurnConnection) : TurnConnection :=
  { c with
    turnPeerList := c.turnPeerList.map fun p =>
      { p with pTransactionIdStore := transactionIdStoreClear p.pTransactionIdStore }
    pTurnPacket := none
    pTurnAllocationRefreshPacket := none
    pTurnChannelBindPacket := none
    pTurnCreatePermissionPacket := none }

def fromCleanUpTurnState (s : Surroundings) : Action TURN_STATE := do
  let c ← get
  if c.state = .FAILED then pure c.state
  else if s.isClosed ∨ !c.hasAllocation ∨ c.stateTimeoutTime < s.time then do
    modify TurnConnection.release
    check s.closeSocket
    modify fun c => { c with shutdownComplete := true }
    pure (if c.errorStatus.isNone then .CLEAN_UP else .FAILED)
  else pure .CLEAN_UP

def fromFailedTurnState (s : Surroundings) : Action TURN_STATE := do
  let c ← get
  if c.state = .CLEAN_UP then pure c.state
  else if !c.shutdownComplete then do
    modify (·.setTimeout (s.time + DEFAULT_TURN_CLEAN_UP_TIMEOUT))
    pure .CLEAN_UP
  else pure .FAILED

/-- `getNextStateFn` of a state. -/
def getNextState (s : Surroundings) : TURN_STATE → Action TURN_STATE
  | .NEW => fromNewTurnState
  | .CHECK_SOCKET_CONNECTION => fromCheckSocketConnectionTurnState s
  | .GET_CREDENTIALS => fromGetCredentialsTurnState s
  | .ALLOCATION => fromAllocationTurnState s
  | .CREATE_PERMISSION => fromCreatePermissionTurnState s
  | .BIND_CHANNEL => fromBindChannelTurnState s
  | .READY => fromReadyTurnState s
  | .CLEAN_UP => fromCleanUpTurnState s
  | .FAILED => fromFailedTurnState s

/-! ## Executing a state -/

/-- What is done on the way into a state, and what when the machine is there already. -/
def enter (state : TURN_STATE) (setup again : Action Unit) : Action Unit := do
  let c ← get
  if c.state ≠ state then setup else again

def TurnConnection.setState (c : TurnConnection) (state : TURN_STATE) : TurnConnection :=
  { c with state := state }

/-- A state is left in time. -/
def inTime (s : Surroundings) (late : STATUS) : Action Unit := do
  let c ← get
  check (if s.time ≤ c.stateTimeoutTime then none else some late)

def executeNewTurnState : Action Unit := modify (·.setState .NEW)

def executeCheckSocketConnectionTurnState (w : Host) : Action Unit :=
  enter .CHECK_SOCKET_CONNECTION (do
    let c ← get
    modify fun c => { c with state := .CHECK_SOCKET_CONNECTION, created := c.created + 1 }
    let p ← ofStun (turnConnectionPackageTurnAllocationRequest (w.createdId c.created) none
      DEFAULT_TURN_ALLOCATION_LIFETIME_SECONDS c.ipFamilyType)
    modify fun c => { c with pTurnPacket := some p }) (pure ())

def executeGetCredentialsTurnState (s : Surroundings) : Action Unit := do
  enter .GET_CREDENTIALS (do
    check s.initSecureConnection
    modify (·.setState .GET_CREDENTIALS)) (inTime s .TURN_CONNECTION_GET_CREDENTIALS_FAILED)
  let c ← get
  check (if c.ipFamilyType = KVS_IP_FAMILY_TYPE_NOT_SET then some .INVALID_ARG else none)
  check s.send

/-- The allocation request, now with credentials. -/
def allocationSetup (w : Host) : Action Unit := do
  modify fun c => { c with pTurnPacket := none }
  let c ← get
  match turnConnectionGetLongTermKey w c.username c.turnRealm c.credential with
  | .error e => throw e
  | .ok key =>
    modify fun c => { c with longTermKey := key, created := c.created + 1 }
    let p ← ofStun (turnConnectionPackageTurnAllocationRequest (w.createdId c.created)
      (some (c.username, c.turnRealm, nonceOf c)) DEFAULT_TURN_ALLOCATION_LIFETIME_SECONDS
      c.ipFamilyType)
    modify fun c => { c with pTurnPacket := some p, state := .ALLOCATION }

def executeAllocationTurnState (w : Host) (s : Surroundings) : Action Unit := do
  enter .ALLOCATION (allocationSetup w) (inTime s .TURN_CONNECTION_ALLOCATION_FAILED)
  check s.send

/-- The host address, a placeholder for that of a peer, was never set. -/
def createPermissionSetup (w : Host) : Action Unit := do
  let c ← get
  let (permission, failed) := buildPacket
    (createStunPacket STUN_PACKET_TYPE_CREATE_PERMISSION (w.createdId c.created))
    ((appendStunAddressAttribute · STUN_ATTRIBUTE_TYPE_XOR_PEER_ADDRESS noAddress) ::
      credentialAttributes c)
  modify fun c => { c with
    pTurnCreatePermissionPacket := some permission
    created := c.created + 1 }
  check failed
  let (channelBind, failed) := buildPacket
    (createStunPacket STUN_PACKET_TYPE_CHANNEL_BIND_REQUEST (w.createdId (c.created + 1)))
    ((appendStunAddressAttribute · STUN_ATTRIBUTE_TYPE_XOR_PEER_ADDRESS noAddress) ::
      (appendStunChannelNumberAttribute · 0) :: credentialAttributes c)
  modify fun c => { c with
    pTurnChannelBindPacket := some channelBind
    created := c.created + 1 }
  check failed
  let (refresh, failed) := buildPacket
    (createStunPacket STUN_PACKET_TYPE_REFRESH (w.createdId (c.created + 2)))
    ((appendStunLifetimeAttribute · DEFAULT_TURN_ALLOCATION_LIFETIME_SECONDS) ::
      credentialAttributes c)
  modify fun c => { c with
    pTurnAllocationRefreshPacket := some refresh
    created := c.created + 1 }
  check failed
  modify (·.setState .CREATE_PERMISSION)

def executeCreatePermissionTurnState (w : Host) (s : Surroundings) : Action Unit := do
  enter .CREATE_PERMISSION (createPermissionSetup w) (pure ())
  checkTurnPeerConnections w s
  let c ← get
  if c.turnPeerList.length = 0 then
    modify (·.setTimeout (s.time + DEFAULT_TURN_CREATE_PERMISSION_TIMEOUT))
  else pure ()

def executeBindChannelTurnState (w : Host) (s : Surroundings) : Action Unit := do
  modify (·.setState .BIND_CHANNEL)
  checkTurnPeerConnections w s

def executeReadyTurnState (w : Host) (s : Surroundings) : Action Unit := do
  modify (·.setState .READY)
  checkTurnPeerConnections w s

def executeCleanUpTurnState (s : Surroundings) : Action Unit := do
  modify (·.setState .CLEAN_UP)
  let c ← get
  if c.hasAllocation then do
    check (missing c.pTurnAllocationRefreshPacket STUN_ATTRIBUTE_TYPE_LIFETIME)
    modify fun c => { c with
      pTurnAllocationRefreshPacket := c.pTurnAllocationRefreshPacket.map
        (setValue STUN_ATTRIBUTE_TYPE_LIFETIME (.word 0)) }
    check s.send
    modify fun c => { c with deallocatePacketSent := true }
  else pure ()

def executeFailedTurnState : Action Unit :=
  modify fun c => { c with state := .FAILED, hasAllocation := false }

/-- `executeStateFn` of a state. -/
def executeState (w : Host) (s : Surroundings) : TURN_STATE → Action Unit
  | .NEW => executeNewTurnState
  | .CHECK_SOCKET_CONNECTION => executeCheckSocketConnectionTurnState w
  | .GET_CREDENTIALS => executeGetCredentialsTurnState s
  | .ALLOCATION => executeAllocationTurnState w s
  | .CREATE_PERMISSION => executeCreatePermissionTurnState w s
  | .BIND_CHANNEL => executeBindChannelTurnState w s
  | .READY => executeReadyTurnState w s
  | .CLEAN_UP => executeCleanUpTurnState s
  | .FAILED => executeFailedTurnState

/-- `acceptStates` of a state. -/
def acceptStates : TURN_STATE → List TURN_STATE
  | .NEW => [.NEW, .CLEAN_UP]
  | .CHECK_SOCKET_CONNECTION => [.NEW, .CHECK_SOCKET_CONNECTION]
  | .GET_CREDENTIALS => [.CHECK_SOCKET_CONNECTION, .GET_CREDENTIALS]
  | .ALLOCATION => [.ALLOCATION, .GET_CREDENTIALS]
  | .CREATE_PERMISSION => [.CREATE_PERMISSION, .ALLOCATION, .READY]
  | .BIND_CHANNEL => [.BIND_CHANNEL, .CREATE_PERMISSION]
  | .READY => [.READY, .BIND_CHANNEL]
  | .CLEAN_UP | .FAILED => [.CLEAN_UP, .FAILED, .CHECK_SOCKET_CONNECTION, .GET_CREDENTIALS,
    .ALLOCATION, .CREATE_PERMISSION, .BIND_CHANNEL, .READY]

/-- A state that does not accept the current one is not entered. -/
def stepStateMachine (w : Host) (s : Surroundings) : Action Unit := do
  let c ← get
  let next ← getNextState s c.currentState
  check (if c.currentState ∈ acceptStates next then none else some .INVALID_STREAM_STATE)
  modify fun c => { c with currentState := next }
  executeState w s next

/-- One round.  A connection that was told to stop steps once more, to `CLEAN_UP`, and one that
failed is left for the step behind `turnStateFailedFn`. -/
def stepTurnConnectionStateMachine (w : Host) (s s' : Surroundings) (c : TurnConnection) :
    TurnConnection :=
  match (stepStateMachine w s).exec c with
  | (.ok _, c) =>
    if c.stopTurnConnection ∧ c.state ≠ .NEW ∧ c.state ≠ .CLEAN_UP then
      ((stepStateMachine w s').exec { c with
        state := .CLEAN_UP
        stateTimeoutTime := s.time + DEFAULT_TURN_CLEAN_UP_TIMEOUT }).2
    else c
  | (.error e, c) =>
    if c.state ≠ .FAILED then { c with errorStatus := some e, state := .FAILED } else c

/-! ## Events -/

inductive Event where
  | addPeer (peerAddress : KvsIpAddress)
  | receive (pBuffer : Bytes) (time : Nat)
  | round (s s' : Surroundings)
  | afterFailure (s : Surroundings)
  | shutdown

def step (w : Host) (c : TurnConnection) : Event → TurnConnection
  | .addPeer peerAddress => (turnConnectionAddPeer c peerAddress).1
  | .receive pBuffer time => handleStunMessage w.hmac w.crc32 c pBuffer time
  | .round s s' => stepTurnConnectionStateMachine w s s' c
  | .afterFailure s => ((stepStateMachine w s).exec c).2
  | .shutdown => { c with stopTurnConnection := true }

/-! ## After the end -/

section

variable {c : TurnConnection}

/-- The connection cleans up or has failed, and has left `NEW`, which does not look at the state. -/
def Stopped (c : TurnConnection) : Prop :=
  c.currentState ≠ .NEW ∧ (c.state = .CLEAN_UP ∨ c.state = .FAILED)

def StaysStopped (c c' : TurnConnection) : Prop := Stopped c → Stopped c'

instance : Std.Refl StaysStopped := ⟨fun _ => id⟩

instance : IsTrans TurnConnection StaysStopped := ⟨fun _ _ _ h h' hc => h' (h hc)⟩

theorem Stopped.next (h : Stopped c) (s : Surroundings) :
    Stopped ((getNextState s c.currentState).exec c).2 ∧
      ∀ next, ((getNextState s c.currentState).exec c).1 = .ok next →
        next = .CLEAN_UP ∨ next = .FAILED := by
  have hmiddle (x : Action TURN_STATE) : (unlessStopped x).exec c = (.ok c.state, c) := by
    unfold unlessStopped
    rw [exec_get_bind, if_pos h.2]
    rfl
  cases hcurrent : c.currentState with
  | NEW => exact absurd hcurrent h.1
  | CLEAN_UP =>
    rw [getNextState, fromCleanUpTurnState, exec_get_bind]
    split
    · exact ⟨h, fun next e => by cases e; exact h.2⟩
    · split
      · rw [exec_modify_bind, exec_bind]
        cases s.closeSocket with
        | none =>
          refine ⟨h, fun next e => ?_⟩
          cases e
          split
          · exact .inl rfl
          · exact .inr rfl
        | some e => exact ⟨h, nofun⟩
      · exact ⟨h, fun next e => by cases e; exact .inl rfl⟩
  | FAILED =>
    rw [getNextState, fromFailedTurnState, exec_get_bind]
    split
    · exact ⟨h, fun next e => by cases e; exact h.2⟩
    · split
      · exact ⟨h, fun next e => by cases e; exact .inl rfl⟩
      · exact ⟨h, fun next e => by cases e; exact .inr rfl⟩
  | _ =>
    simp only [getNextState, fromCheckSocketConnectionTurnState, fromGetCredentialsTurnState,
      fromAllocationTurnState, fromCreatePermissionTurnState, fromBindChannelTurnState,
      fromReadyTurnState, hmiddle]
    exact ⟨h, fun next e => by cases e; exact h.2⟩

theorem Stopped.stepStateMachine (h : Stopped c) (w : Host) (s : Surroundings) :
    Stopped ((stepStateMachine w s).exec c).2 := by
  unfold Machine.stepStateMachine
  rw [exec_get_bind, exec_bind]
  obtain ⟨hc, hnext⟩ := h.next s
  generalize (getNextState s c.currentState).exec c = r at hc hnext
  obtain ⟨e | next, c'⟩ := r
  · exact hc
  · have hkeeps : Keeps StaysStopped (executeState w s next) := by
      rcases hnext next rfl with rfl | rfl
      · exact Keeps.modify_bind (fun _ h => ⟨h.1, .inl rfl⟩) fun _ => Keeps.get_bind fun _ =>
          Keeps.ite (fun _ => Keeps.check_bind fun _ => Keeps.modify_bind (fun _ => id) fun _ =>
            Keeps.check_bind fun _ => keeps_modify fun _ => id) fun _ => keeps_pure ()
      · exact keeps_modify fun _ h => ⟨h.1, .inr rfl⟩
    have hleft : next ≠ .NEW := by
      rcases hnext next rfl with rfl | rfl <;> simp
    exact Keeps.check_bind
      (fun _ => Keeps.modify_bind (fun _ h => ⟨hleft, h.2⟩) fun _ => hkeeps) c' hc

theorem Stopped.step (h : Stopped c) (w : Host) (e : Event) : Stopped (step w c e) := by
  cases e with
  | addPeer a =>
    dsimp only [Machine.step, turnConnectionAddPeer]
    split_ifs <;> exact h
  | receive pBuffer time =>
    dsimp only [Machine.step, handleStunMessage, turnConnectionHandleStun, allocateSucceeded,
      refreshSucceeded]
    repeat' split
    all_goals exact h
  | round s s' =>
    have hround := h.stepStateMachine w s
    dsimp only [Machine.step, stepTurnConnectionStateMachine]
    generalize (Machine.stepStateMachine w s).exec c = r at hround
    obtain ⟨e | _, c'⟩ := r
    · dsimp only
      split
      · exact ⟨hround.1, .inr rfl⟩
      · exact hround
    · dsimp only
      split
      · refine Stopped.stepStateMachine ?_ w s'
        exact ⟨hround.1, .inl rfl⟩
      · exact hround
  | afterFailure s => exact h.stepStateMachine w s
  | shutdown => exact h

/-- **A connection that cleans up or failed never comes back**, whatever is still received. -/
theorem stopped_for_good (w : Host) (h : Stopped c) (events : List Event) :
    Always (step w) Stopped c events :=
  Each.inv (P := fun _ _ => True) h (fun _ e hc _ => hc.step w e)
    (each_iff.mpr fun _ _ _ _ => trivial)

/-- The socket is open and every call succeeds. -/
def openSurroundings : Surroundings := ⟨0, true, false, none, none, none, none⟩

/-- Two rounds, a message and a round behind a failure between a clean-up and a shutdown. -/
theorem stopped_shutdown :
    Always (step ⟨⟨fun _ _ => [], fun _ => 0, fun _ => 0, fun _ => 0, fun _ => false⟩,
      fun _ => [], fun _ => []⟩) Stopped
      { createTurnConnection [] [] KVS_IP_FAMILY_TYPE_IPV4 with
        currentState := .READY, state := .CLEAN_UP }
      [.round openSurroundings openSurroundings, .receive [] 0,
        .round { openSurroundings with isClosed := true, time := 1 } openSurroundings,
        .afterFailure openSurroundings, .shutdown] :=
  stopped_for_good _ ⟨by decide, .inl rfl⟩ _

end

end KvsWebrtc.Turn.Machine
