import KvsWebrtc.Ice.Events

/-!
# The ICE agent: its state machine and its runs (`IceAgentStateMachine.c`)

A state of `ICE_AGENT_STATE_MACHINE_STATES` is a pair of callbacks: one that names the next state,
one that is executed when the machine gets there.  `stepStateMachine` calls both.  `time` is what
`GETTIME` returns in a step, and `shutdown` tells which TURN connections have completed their
shutdown.

An `Event` is one thing that happens to an agent under its lock.  The loop of
`stepIceAgentStateMachine` releases the lock between two rounds, so a round is an event of its own.
ICE restarts are not modelled.
-/

namespace KvsWebrtc.Ice

open Stun

abbrev MAX_ICE_CONFIG_USER_NAME_LEN : Nat := 256
abbrev MAX_ICE_CONFIG_CREDENTIAL_LEN : Nat := 256
abbrev INVALID_TIMESTAMP_VALUE : Nat := 2 ^ 64 - 1

/-- The timeouts of `KvsRtcConfiguration`. -/
structure IceTimeouts where
  iceConnectionCheckTimeout : Nat
  iceCandidateNominationTimeout : Nat
  iceDisconnectionTimeout : Nat
  deriving DecidableEq, Repr

/-! ## Creating and starting -/

def createIceAgent (username password : Bytes) (isLiteAgent : Bool) (tieBreaker : UINT64)
    (iceServers : List IceServer) (timeouts : IceTimeouts) : IceAgent where
  localUsername := username
  localPassword := password
  remotePassword := []
  combinedUserName := []
  remoteCredentialReceived := false
  isControlling := false
  isLiteAgent := isLiteAgent
  tieBreaker := tieBreaker
  localCandidates := []
  remoteCandidates := []
  triggeredCheckQueue := []
  iceCandidatePairs := []
  iceServers := iceServers
  relayCandidateCount := 0
  iceAgentState := .NEW
  currentState := .NEW
  iceAgentStatus := none
  stateEndTime := 0
  iceConnectionCheckTimeout := timeouts.iceConnectionCheckTimeout
  iceCandidateNominationTimeout := timeouts.iceCandidateNominationTimeout
  iceDisconnectionTimeout := timeouts.iceDisconnectionTimeout
  pDataSendingIceCandidatePair := none
  lastDataReceivedTime := none
  detectedDisconnection := false
  disconnectionGracePeriodEndTime := INVALID_TIMESTAMP_VALUE
  pBindingRequest := none
  pStunBindingRequestTransactionIdStore :=
    createTransactionIdStore DEFAULT_MAX_STORED_TRANSACTION_ID_COUNT
  nextPtr := 0
  draws := 0
  sends := 0
  sent := []

variable (a : IceAgent)

/-- Only the first call has an effect.  `:` is between the two names. -/
def iceAgentStartAgent (remoteUsername remotePassword : Bytes)
    (isControlling : Bool) : IceAgent :=
  if a.remoteCredentialReceived then a
  else if remoteUsername.length ≤ MAX_ICE_CONFIG_USER_NAME_LEN ∧
      remotePassword.length ≤ MAX_ICE_CONFIG_CREDENTIAL_LEN then
    { a with
      remoteCredentialReceived := true
      isControlling := isControlling
      remotePassword := remotePassword
      combinedUserName := remoteUsername ++ 58 :: a.localUsername }
  else a

/-! ## Setting up the states

A setup returns the agent as far as it got, and its error. -/

/-- The binding request for the checks, with USE-CANDIDATE for a nomination. -/
def bindingRequest (transactionId : Bytes) (nomination : Bool) :
    Except Failure StunPacket := do
  let p ← appendStunUsernameAttribute
    (createStunPacket STUN_PACKET_TYPE_BINDING_REQUEST transactionId) a.combinedUserName
  let p ← appendStunPriorityAttribute p 0
  let p ← appendStunIceControllAttribute p (iceControlAttribute a) a.tieBreaker
  if nomination then appendStunFlagAttribute p STUN_ATTRIBUTE_TYPE_USE_CANDIDATE else return p

/-- A new request of the agent.  One that cannot be built is not kept. -/
def renewBindingRequest (w : Host) (a : IceAgent) (nomination : Bool) : IceAgent × Option STATUS :=
  match bindingRequest a (iceUtilsGenerateTransactionId w a.draws) nomination with
  | .error e => ({ a with pBindingRequest := none, draws := a.draws + 1 }, some (.STUN e))
  | .ok request => ({ a with pBindingRequest := some request, draws := a.draws + 1 }, none)

/-- The state of every pair. -/
def IceAgent.setPairStates
    (f : IceCandidatePair → ICE_CANDIDATE_PAIR_STATE) : IceAgent :=
  { a with iceCandidatePairs := a.iceCandidatePairs.map fun p => { p with state := f p } }

/-- All pairs wait for a check again. -/
def iceAgentCheckConnectionStateSetup (w : Host) (a : IceAgent) (time : Nat) :
    IceAgent × Option STATUS :=
  let a := a.setPairStates fun _ => .WAITING
  match if a.isLiteAgent then (a, none) else renewBindingRequest w a false with
  | (a, some e) => (a, some e)
  | (a, none) => ({ a with stateEndTime := time + a.iceConnectionCheckTimeout }, none)

/-- The loop over the pairs: those that are waiting or in progress are checked. -/
def checkWaitingPairs (w : Host) : List Nat → IceAgent → IceAgent
  | [], a => a
  | ptr :: ptrs, a =>
    if (a.pair ptr).any fun p => p.state = .WAITING ∨ p.state = .IN_PROGRESS then
      let a := a.updatePair ptr fun p => { p with state := .IN_PROGRESS }
      match iceCandidatePairCheckConnection w a ptr with
      | none => iceAgentFatalError a .INVALID_ARG
      | some a => checkWaitingPairs w ptrs a
    else checkWaitingPairs w ptrs a

/-- A triggered check has precedence. -/
def iceAgentCheckCandidatePairConnection (w : Host) (a : IceAgent) : IceAgent :=
  match a.triggeredCheckQueue with
  | ptr :: queue => checkPairs w [ptr] { a with triggeredCheckQueue := queue }
  | [] => checkWaitingPairs w (a.iceCandidatePairs.map IceCandidatePair.ptr) a

/-- The pair is nominated and its check succeeded. -/
def IceCandidatePair.isSelectable (p : IceCandidatePair) : Bool :=
  p.nominated && p.state = .SUCCEEDED

/-- Without a restart no pair is selected before. -/
def iceAgentConnectedStateSetup : IceAgent :=
  { a with pDataSendingIceCandidatePair :=
      (a.iceCandidatePairs.find? IceCandidatePair.isSelectable).map IceCandidatePair.ptr }

/-- The first pair whose check succeeded is nominated; its transaction ids are cleared.  All pairs
that are not nominated are frozen. -/
def iceAgentNominateCandidatePair : IceAgent × Option STATUS :=
  if a.iceCandidatePairs = [] then (a, some .ICE_CANDIDATE_PAIR_LIST_EMPTY)
  else
    match a.iceCandidatePairs.find? fun p => p.state = .SUCCEEDED with
    | none => (a, some .ICE_FAILED_TO_NOMINATE_CANDIDATE_PAIR)
    | some p =>
      let a := a.updatePair p.ptr fun p => { p with
        nominated := true
        pTransactionIdStore := transactionIdStoreClear p.pTransactionIdStore }
      (a.setPairStates fun p => if p.nominated then p.state else .FROZEN, none)

/-- What a controlling agent does first. -/
def nominate (w : Host) (a : IceAgent) : IceAgent × Option STATUS :=
  match iceAgentNominateCandidatePair a with
  | (a, some e) => (a, some e)
  | (a, none) => renewBindingRequest w a true

def iceAgentNominatingStateSetup (w : Host) (a : IceAgent) (time : Nat) :
    IceAgent × Option STATUS :=
  match if a.isControlling then nominate w a else (a, none) with
  | (a, some e) => (a, some e)
  | (a, none) => ({ a with stateEndTime := time + a.iceCandidateNominationTimeout }, none)

/-- A check on every nominated pair. -/
def iceAgentSendCandidateNomination (w : Host) (a : IceAgent) : IceAgent :=
  checkPairs w ((a.iceCandidatePairs.filter IceCandidatePair.nominated).map IceCandidatePair.ptr) a

/-- Only the local candidate of the selected pair stays valid; pairs without a valid local candidate
fail, and failed pairs are freed. -/
def IceAgent.keepSelected (selected : Nat) : IceAgent :=
  let localPtr := (a.pair selected).map IceCandidatePair.localPtr
  let a := { a with
    localCandidates := a.localCandidates.map fun c =>
      if some c.ptr = localPtr then c else { c with state := .INVALID } }
  let a := iceAgentInvalidateCandidatePair a
  { a with iceCandidatePairs := a.iceCandidatePairs.filter fun p => p.state ≠ .FAILED }

/-- The pair that `READY` is entered with: a pair that is selected already stays. -/
def IceAgent.readyPair : Option Nat :=
  match a.pDataSendingIceCandidatePair with
  | some ptr => some ptr
  | none => (a.iceCandidatePairs.find? IceCandidatePair.isSelectable).map IceCandidatePair.ptr

/-- The triggered checks are not touched. -/
def iceAgentReadyStateSetup : IceAgent × Option STATUS :=
  match a.readyPair with
  | none => (a, some .ICE_NO_NOMINATED_VALID_CANDIDATE_PAIR_AVAILABLE)
  | some ptr => ({ a with
      pDataSendingIceCandidatePair := some ptr
      stateEndTime := INVALID_TIMESTAMP_VALUE }.keepSelected ptr, none)

/-! ## The next state -/

/-- An error of the agent, or one on the way to the next state, leads to `FAILED`. -/
def unlessFailed (next : Except STATUS ICE_AGENT_STATE) :
    IceAgent × ICE_AGENT_STATE :=
  match a.iceAgentStatus, next with
  | some _, _ => (a, .FAILED)
  | none, .error e => (iceAgentFatalError a e, .FAILED)
  | none, .ok state => (a, state)

def fromCheckConnectionIceAgentState (time : Nat) : IceAgent × ICE_AGENT_STATE :=
  unlessFailed a <|
    if a.iceCandidatePairs.any fun p => p.state = .SUCCEEDED then .ok .CONNECTED
    else if a.stateEndTime ≤ time then .error .ICE_NO_CONNECTED_CANDIDATE_PAIR
    else .ok .CHECK_CONNECTION

def fromConnectedIceAgentState : IceAgent × ICE_AGENT_STATE :=
  unlessFailed a (.ok .NOMINATING)

def fromNominatingIceAgentState (time : Nat) : IceAgent × ICE_AGENT_STATE :=
  unlessFailed a <|
    if a.iceCandidatePairs.any IceCandidatePair.isSelectable then .ok .READY
    else if a.stateEndTime ≤ time then .error .ICE_FAILED_TO_NOMINATE_CANDIDATE_PAIR
    else .ok .NOMINATING

/-- No data for the length of the timeout. -/
def IceAgent.silent (time : Nat) : Bool :=
  a.lastDataReceivedTime.any fun t => t + a.iceDisconnectionTimeout ≤ time

def IceAgent.recovered (time : Nat) : Bool :=
  a.lastDataReceivedTime.any fun t => time < t + a.iceDisconnectionTimeout

def iceAgentStateMachineCheckDisconnection (time : Nat) :
    IceAgent × Except STATUS ICE_AGENT_STATE :=
  if !a.detectedDisconnection && a.silent time then (a, .ok .DISCONNECTED)
  else if a.detectedDisconnection then
    if a.recovered time then ({ a with detectedDisconnection := false }, .ok .READY)
    else if a.disconnectionGracePeriodEndTime ≤ time then
      (a, .error .ICE_FAILED_TO_RECOVER_FROM_DISCONNECTION)
    else (a, .ok .READY)
  else (a, .ok .READY)

def fromReadyIceAgentState (time : Nat) : IceAgent × ICE_AGENT_STATE :=
  match a.iceAgentStatus with
  | some _ => (a, .FAILED)
  | none =>
    let (a, next) := iceAgentStateMachineCheckDisconnection a time
    unlessFailed a next

/-- Back to the state before. -/
def fromDisconnectedIceAgentState : IceAgent × ICE_AGENT_STATE :=
  unlessFailed a (.ok a.iceAgentState)

/-- `getNextStateFn` of the current state. -/
def getNextState (time : Nat) : IceAgent × ICE_AGENT_STATE :=
  match a.currentState with
  | .NEW => (a, .CHECK_CONNECTION)
  | .CHECK_CONNECTION => fromCheckConnectionIceAgentState a time
  | .CONNECTED => fromConnectedIceAgentState a
  | .NOMINATING => fromNominatingIceAgentState a time
  | .READY => fromReadyIceAgentState a time
  | .DISCONNECTED => fromDisconnectedIceAgentState a
  | .FAILED => (a, .FAILED)

/-! ## Executing a state -/

/-- A state whose setup failed is not entered. -/
def IceAgent.enter (state : ICE_AGENT_STATE) (setup : IceAgent × Option STATUS)
    (body : IceAgent → IceAgent) : IceAgent :=
  if a.iceAgentState = state then body a
  else
    match setup with
    | (a, some e) => iceAgentFatalError a e
    | (a, none) => body { a with iceAgentState := state }

def executeCheckConnectionIceAgentState (w : Host) (a : IceAgent) (time : Nat) : IceAgent :=
  a.enter .CHECK_CONNECTION (iceAgentCheckConnectionStateSetup w a time) fun a =>
    if a.isLiteAgent then a else iceAgentCheckCandidatePairConnection w a

def executeConnectedIceAgentState : IceAgent :=
  { iceAgentConnectedStateSetup a with iceAgentState := .CONNECTED }

def executeNominatingIceAgentState (w : Host) (a : IceAgent) (time : Nat) : IceAgent :=
  a.enter .NOMINATING (iceAgentNominatingStateSetup w a time) fun a =>
    if a.isLiteAgent then a
    else if a.isControlling then iceAgentSendCandidateNomination w a
    else iceAgentCheckCandidatePairConnection w a

/-- Local candidates whose TURN connection has completed its shutdown are freed. -/
def IceAgent.freeShutdown (shutdown : Nat → Bool) : IceAgent :=
  { a with localCandidates := a.localCandidates.filter fun c =>
      !(c.iceCandidateType = .RELAYED && shutdown c.ptr) }

def executeReadyIceAgentState (shutdown : Nat → Bool) : IceAgent :=
  a.enter .READY (iceAgentReadyStateSetup a) fun a => a.freeShutdown shutdown

/-- `executeStateFn` of a state; `disconnected` is the one of `DISCONNECTED`. -/
def executeState (w : Host) (time : Nat) (shutdown : Nat → Bool)
    (disconnected : IceAgent → IceAgent) (state : ICE_AGENT_STATE) (a : IceAgent) : IceAgent :=
  match state with
  | .NEW => { a with iceAgentState := .NEW }
  | .CHECK_CONNECTION => executeCheckConnectionIceAgentState w a time
  | .CONNECTED => executeConnectedIceAgentState a
  | .NOMINATING => executeNominatingIceAgentState w a time
  | .READY => executeReadyIceAgentState a shutdown
  | .DISCONNECTED => disconnected a
  | .FAILED => { a with iceAgentState := .FAILED }

/-- `acceptStates` of a state. -/
def acceptStates : ICE_AGENT_STATE → List ICE_AGENT_STATE
  | .NEW => [.NEW]
  | .CHECK_CONNECTION => [.NEW, .CHECK_CONNECTION]
  | .CONNECTED => [.CHECK_CONNECTION, .CONNECTED]
  | .NOMINATING => [.CONNECTED, .NOMINATING]
  | .READY => [.CONNECTED, .NOMINATING, .READY, .DISCONNECTED]
  | .DISCONNECTED => [.CHECK_CONNECTION, .CONNECTED, .NOMINATING, .READY, .DISCONNECTED]
  | .FAILED => [.CHECK_CONNECTION, .CONNECTED, .NOMINATING, .READY, .DISCONNECTED, .FAILED]

/-- A step of the machine with these `executeStateFn`.  A state that does not accept the current one
is not entered. -/
def stepWith (execute : ICE_AGENT_STATE → IceAgent → IceAgent) (time : Nat) (a : IceAgent) :
    IceAgent :=
  let (a, next) := getNextState a time
  if a.currentState ∈ acceptStates next then execute next { a with currentState := next } else a

/-- The disconnection is noted, and the machine steps back.  It does not get to `DISCONNECTED`
again from there. -/
def executeDisconnectedIceAgentState (w : Host) (time : Nat) (shutdown : Nat → Bool)
    (a : IceAgent) : IceAgent :=
  if a.iceAgentState = .DISCONNECTED then a
  else stepWith (executeState w time shutdown id) time { a with
    detectedDisconnection := true
    disconnectionGracePeriodEndTime := time + KVS_ICE_ENTER_STATE_FAILED_GRACE_PERIOD }

def stepStateMachine (w : Host) (time : Nat) (shutdown : Nat → Bool) (a : IceAgent) : IceAgent :=
  stepWith (executeState w time shutdown (executeDisconnectedIceAgentState w time shutdown)) time a

/-- One round: after an error the machine steps once more, to `FAILED`. -/
def stepIceAgentStateMachine (w : Host) (time : Nat) (shutdown : Nat → Bool) (a : IceAgent) :
    IceAgent :=
  let a := stepStateMachine w time shutdown a
  if a.iceAgentState ≠ .FAILED ∧ a.iceAgentStatus.isSome then stepStateMachine w time shutdown a
  else a

/-! ## Events -/

/-- `pBindingIndication`, with the transaction id it was created with. -/
def bindingIndication : StunPacket :=
  createStunPacket STUN_PACKET_TYPE_BINDING_INDICATION (List.replicate STUN_TRANSACTION_ID_LEN 0)

/-- The loop over the pairs.  The timer runs from `CONNECTED` on; here it may run at any time. -/
def sendKeepAlives (w : Host) : List Nat → IceAgent → IceAgent
  | [], a => a
  | ptr :: ptrs, a =>
    match a.pair ptr with
    | none => sendKeepAlives w ptrs a
    | some p =>
      match a.localCandidate p.localPtr, a.remoteCandidate p.remotePtr with
      | some l, some r =>
        if p.state = .SUCCEEDED then
          sendKeepAlives w ptrs (iceAgentSendStunPacket w a bindingIndication none l r.ipAddress)
        else sendKeepAlives w ptrs a
      | _, _ => sendKeepAlives w ptrs a

def iceAgentSendKeepAliveTimerCallback (w : Host) (a : IceAgent) : IceAgent :=
  sendKeepAlives w (a.iceCandidatePairs.map IceCandidatePair.ptr) a

/-- At least eight bytes, with the magic cookie in the last four. -/
def isStunPacket (buf : Bytes) : Bool :=
  8 ≤ buf.length && getUnalignedInt32BigEndian buf 4 = STUN_HEADER_MAGIC_COOKIE

/-- Other packets go to the owner of the agent. -/
def incomingDataHandler (w : Host) (a : IceAgent) (buf : Bytes) (socket : Nat)
    (src : KvsIpAddress) (time : Nat) : IceAgent :=
  let a := { a with lastDataReceivedTime := some time }
  if isStunPacket buf then handleStunPacket w a buf socket src else a

inductive Event where
  | startAgent (remoteUsername remotePassword : Bytes) (isControlling : Bool)
  | addRemoteCandidate (ipAddress : KvsIpAddress) (type : ICE_CANDIDATE_TYPE) (priority : UINT32)
  | initHostCandidate (ipAddress : KvsIpAddress) (isPointToPoint : Bool)
  | initSrflxCandidates (port : Nat → UINT16)
  | initRelayCandidate (iceServerIndex : Nat) (unset : KvsIpAddress)
  | gather (relayAddress : Nat → Option KvsIpAddress)
  | turnFailed (ptr : Nat)
  | receive (buf : Bytes) (socket : Nat) (src : KvsIpAddress) (time : Nat)
  | stateTimer (time : Nat) (shutdown : Nat → Bool)
  | keepAlive

/-- The timer of the state machine is started with the agent. -/
def step (w : Host) (a : IceAgent) : Event → IceAgent
  | .startAgent remoteUsername remotePassword isControlling =>
    iceAgentStartAgent a remoteUsername remotePassword isControlling
  | .addRemoteCandidate ipAddress type priority =>
    iceAgentAddRemoteCandidate a ipAddress type priority
  | .initHostCandidate ipAddress isPointToPoint =>
    iceAgentInitHostCandidate a ipAddress isPointToPoint
  | .initSrflxCandidates port => iceAgentInitSrflxCandidate a port
  | .initRelayCandidate iceServerIndex unset => iceAgentInitRelayCandidate a iceServerIndex unset
  | .gather relayAddress => iceAgentGatherCandidateTimerCallback w a relayAddress
  | .turnFailed ptr => turnStateFailedFn a ptr
  | .receive buf socket src time => incomingDataHandler w a buf socket src time
  | .stateTimer time shutdown =>
    if a.remoteCredentialReceived then stepIceAgentStateMachine w time shutdown a else a
  | .keepAlive => iceAgentSendKeepAliveTimerCallback w a

def run (w : Host) (a : IceAgent) (events : List Event) : IceAgent :=
  events.foldl (step w) a

end KvsWebrtc.Ice
