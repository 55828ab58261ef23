import KvsWebrtc.Ice.Agent

/-!
# The ICE agent: received STUN packets and the gathering timer

`handleStunPacket` with the three branches of a binding request, a response to a server reflexive
query and a response to a connectivity check, and `iceAgentGatherCandidateTimerCallback`.  The lock
of the agent is recursive and is held around each of them, so they are atomic.
-/

namespace KvsWebrtc.Ice

open Stun

/-! ## Received STUN packets -/

def updateCandidateAddress (c : IceCandidate) (ipAddress : KvsIpAddress) : IceCandidate :=
  if c.iceCandidateType ≠ .HOST ∧ c.state = .NEW then
    { c with ipAddress := ipAddress, state := .VALID }
  else c

/-- `iceAgentCheckPeerReflexiveCandidate` for the source of a request. -/
def checkRemotePeerReflexive (a : IceAgent) (ipAddress : KvsIpAddress) (priority : UINT32) :
    IceAgent :=
  a.addRemote ipAddress .PEER_REFLEXIVE priority

/-- `iceAgentCheckPeerReflexiveCandidate` for the address the peer sees: it replaces the address of
the local candidate. -/
def checkLocalPeerReflexive (a : IceAgent) (ipAddress : KvsIpAddress) (socket : Nat) : IceAgent :=
  match findCandidateWithIp ipAddress a.localCandidates with
  | some _ => a
  | none =>
    match findCandidateWithSocketConnection socket a.localCandidates with
    | none => a
    | some l => a.updateLocal l.ptr fun c =>
        { c with iceCandidateType := .PEER_REFLEXIVE, ipAddress := ipAddress }

/-- The role attribute of the agent. -/
def iceControlAttribute (a : IceAgent) : UINT16 :=
  if a.isControlling then STUN_ATTRIBUTE_TYPE_ICE_CONTROLLING
  else STUN_ATTRIBUTE_TYPE_ICE_CONTROLLED

def bindingResponse (a : IceAgent) (transactionId : Bytes) (src : KvsIpAddress) :
    Except Failure StunPacket := do
  let p ← appendStunAddressAttribute
    (createStunPacket STUN_PACKET_TYPE_BINDING_RESPONSE_SUCCESS transactionId)
    STUN_ATTRIBUTE_TYPE_XOR_MAPPED_ADDRESS src
  appendStunIceControllAttribute p (iceControlAttribute a) a.tieBreaker

/-- "Role Conflict". -/
def roleConflictPhrase : Bytes := [82, 111, 108, 101, 32, 67, 111, 110, 102, 108, 105, 99, 116]

def roleConflictResponse (transactionId : Bytes) : Except Failure StunPacket :=
  appendStunErrorCodeAttribute
    (createStunPacket STUN_PACKET_TYPE_BINDING_RESPONSE_ERROR transactionId) roleConflictPhrase 487

/-- The value of the PRIORITY attribute, or 0. -/
def priorityOf (q : ParsedPacket) : UINT32 :=
  match getStunAttribute q.attributeList STUN_ATTRIBUTE_TYPE_PRIORITY with
  | some ⟨_, _, .word v⟩ => v
  | _ => 0

def hasAttribute (q : ParsedPacket) (type : UINT16) : Bool :=
  (getStunAttribute q.attributeList type).isSome

def mappedAddressOf (q : ParsedPacket) : Option KvsIpAddress :=
  match getStunAttribute q.attributeList STUN_ATTRIBUTE_TYPE_XOR_MAPPED_ADDRESS with
  | some ⟨_, _, .address a⟩ => some a
  | _ => none

/-- The pair goes through a connectivity check before long. -/
def ICE_CANDIDATE_PAIR_STATE.isUnchecked : ICE_CANDIDATE_PAIR_STATE → Bool
  | .FROZEN | .WAITING | .IN_PROGRESS => true
  | .SUCCEEDED | .FAILED => false

def setNominated (a : IceAgent) (p : IceCandidatePair) (useCandidate : Bool) : IceAgent :=
  if !p.nominated && useCandidate then a.updatePair p.ptr fun p => { p with nominated := true }
  else a

/-- What a binding request does to the pair it arrived on. -/
def checkArrived (a : IceAgent) (p : IceCandidatePair) (useCandidate : Bool) : IceAgent :=
  let a := setNominated a p useCandidate
  if a.isLiteAgent then a.updatePair p.ptr fun p => { p with state := .SUCCEEDED }
  else if p.state.isUnchecked then
    { a with triggeredCheckQueue := a.triggeredCheckQueue ++ [p.ptr] }
  else a

def handleBindingRequest (w : Host) (a : IceAgent) (q : ParsedPacket) (socket : Nat)
    (src : KvsIpAddress) : IceAgent :=
  if a.isLiteAgent && hasAttribute q STUN_ATTRIBUTE_TYPE_ICE_CONTROLLED then
    match roleConflictResponse q.header.transactionId,
        findCandidateWithSocketConnection socket a.localCandidates with
    | .ok response, some l => iceAgentSendStunPacket w a response (some a.localPassword) l src
    | _, _ => a
  else
    match bindingResponse a q.header.transactionId src with
    | .error _ => a
    | .ok response =>
      let a := checkRemotePeerReflexive a src (priorityOf q)
      match findCandidateWithSocketConnection socket a.localCandidates with
      | none => a
      | some l =>
        let a := iceAgentSendStunPacket w a response (some a.localPassword) l src
        match findIceCandidatePairWithLocalSocketConnectionAndRemoteAddr a socket src with
        | none => a
        | some p => checkArrived a p (hasAttribute q STUN_ATTRIBUTE_TYPE_USE_CANDIDATE)

/-- The transaction id of a datagram, before it is parsed. -/
def datagramTransactionId (buf : Bytes) : Bytes :=
  (buf.drop STUN_PACKET_TRANSACTION_ID_OFFSET).take STUN_TRANSACTION_ID_LEN

/-- A response to a request for a server reflexive candidate. -/
def handleSrflxResponse (w : Host) (a : IceAgent) (buf : Bytes) (socket : Nat) : IceAgent :=
  match findCandidateWithSocketConnection socket a.localCandidates,
      deserializeStunPacket w.hmac w.crc32 buf none with
  | some l, .ok q =>
    match mappedAddressOf q with
    | none => a
    | some ipAddress =>
      if l.iceCandidateType = .HOST then a
      else
        { a.updateLocal l.ptr fun c => updateCandidateAddress c ipAddress with
          pStunBindingRequestTransactionIdStore := transactionIdStoreRemove
            a.pStunBindingRequestTransactionIdStore (datagramTransactionId buf) }
  | _, _ => a

/-- Both candidates of the pair are server reflexive, and the peer saw another address than the
local one. -/
def seesOtherAddress (a : IceAgent) (p : IceCandidatePair) (ipAddress : KvsIpAddress) : Bool :=
  ((a.localCandidate p.localPtr).any fun c => c.iceCandidateType = .SERVER_REFLEXIVE &&
      !isSameIpAddress ipAddress c.ipAddress false) &&
    ((a.remoteCandidate p.remotePtr).any fun c => c.iceCandidateType = .SERVER_REFLEXIVE)

/-- A response to a connectivity check. -/
def handleCheckResponse (w : Host) (a : IceAgent) (buf : Bytes) (socket : Nat)
    (src : KvsIpAddress) : IceAgent :=
  match findIceCandidatePairWithLocalSocketConnectionAndRemoteAddr a socket src with
  | none => a
  | some p =>
    if transactionIdStoreHasId p.pTransactionIdStore (datagramTransactionId buf) then
      match deserializeStunPacket w.hmac w.crc32 buf (some a.remotePassword) with
      | .error _ => a
      | .ok q =>
        match mappedAddressOf q with
        | none => a
        | some ipAddress =>
          let a := if seesOtherAddress a p ipAddress then checkLocalPeerReflexive a ipAddress socket
            else a
          a.updatePair p.ptr fun p => { p with state := .SUCCEEDED }
    else a

/-- Indications, error responses and other types change nothing. -/
def handleStunPacket (w : Host) (a : IceAgent) (buf : Bytes) (socket : Nat) (src : KvsIpAddress) :
    IceAgent :=
  let stunPacketType := getUnalignedInt16BigEndian buf 0
  if stunPacketType = STUN_PACKET_TYPE_BINDING_REQUEST then
    match deserializeStunPacket w.hmac w.crc32 buf (some a.localPassword) with
    | .error _ => a
    | .ok q => handleBindingRequest w a q socket src
  else if stunPacketType = STUN_PACKET_TYPE_BINDING_RESPONSE_SUCCESS then
    if transactionIdStoreHasId a.pStunBindingRequestTransactionIdStore (datagramTransactionId buf)
    then handleSrflxResponse w a buf socket
    else handleCheckResponse w a buf socket src
  else a

/-! ## Gathering -/

/-- The server reflexive candidates of one host candidate, one for each STUN server of its family,
at addresses from `ptr` on.  A new socket is bound to each; `port` is its port. -/
def srflxCandidates (port : Nat → UINT16) (host : IceCandidate) :
    Nat → Nat → List IceServer → List IceCandidate
  | _, _, [] => []
  | ptr, j, server :: servers =>
    if !server.isTurn &&
        (server.ipv4Address.any (fun a => a.family = host.ipAddress.family) ||
          server.ipv6Address.any (fun a => a.family = host.ipAddress.family)) then
      { ptr := ptr
        iceCandidateType := .SERVER_REFLEXIVE
        ipAddress := { host.ipAddress with port := port ptr }
        isPointToPoint := host.isPointToPoint
        pSocketConnection := some (ptr + 1)
        state := .NEW
        priority := computeCandidatePriority .SERVER_REFLEXIVE host.isPointToPoint
        iceServerIndex := j
        reported := false } :: srflxCandidates port host (ptr + 2) (j + 1) servers
    else srflxCandidates port host ptr (j + 1) servers

/-- Each new candidate goes to the head of the list. -/
def iceAgentInitSrflxCandidate (a : IceAgent) (port : Nat → UINT16) : IceAgent :=
  (a.localCandidates.filter fun c => c.iceCandidateType = .HOST).foldl
    (fun a host =>
      let new := srflxCandidates port host a.nextPtr 0 a.iceServers
      { a with
        localCandidates := new.reverse ++ a.localCandidates
        nextPtr := a.nextPtr + 2 * new.length }) a

/-- The address is set when the allocation succeeds. -/
def iceAgentInitRelayCandidate (a : IceAgent) (iceServerIndex : Nat) (unset : KvsIpAddress) :
    IceAgent :=
  if a.relayCandidateCount < KVS_ICE_MAX_RELAY_CANDIDATE_COUNT then
    let l : IceCandidate := {
      ptr := a.nextPtr
      iceCandidateType := .RELAYED
      ipAddress := unset
      isPointToPoint := false
      pSocketConnection := some (a.nextPtr + 1)
      state := .NEW
      priority := computeCandidatePriority .RELAYED false
      iceServerIndex := iceServerIndex
      reported := false }
    { a.insertLocal l with
      nextPtr := a.nextPtr + 2
      relayCandidateCount := a.relayCandidateCount + 1 }
  else a

def turnStateFailedFn (a : IceAgent) (ptr : Nat) : IceAgent :=
  a.updateLocal ptr fun c => if c.state = .NEW then { c with state := .INVALID } else c

/-- One local candidate in the gathering timer: the agent, the candidates that were reported and
whether a server reflexive one is pending. -/
def gatherCandidate (relayAddress : Nat → Option KvsIpAddress) (a : IceAgent) (reports : Nat)
    (pending : Bool) (c : IceCandidate) : IceAgent × Nat × Bool :=
  match c.state with
  | .NEW =>
    match c.iceCandidateType, relayAddress c.ptr with
    | .SERVER_REFLEXIVE, _ => (a, reports, true)
    | .RELAYED, some address =>
      let c := updateCandidateAddress c address
      ((a.updateLocal c.ptr fun _ => c).createPairsForLocal c, reports, pending)
    | _, _ => (a, reports, pending)
  | .VALID =>
    if c.reported then (a, reports, pending)
    else
      let now := reports < KVS_ICE_MAX_NEW_LOCAL_CANDIDATES_TO_REPORT_AT_ONCE
      let a := if now then a.updateLocal c.ptr fun c => { c with reported := true } else a
      let a := if c.iceCandidateType = .SERVER_REFLEXIVE then a.createPairsForLocal c else a
      (a, if now then reports + 1 else reports, pending)
  | .INVALID => (a, reports, pending)

def gatherLoop (relayAddress : Nat → Option KvsIpAddress) :
    List IceCandidate → IceAgent × Nat × Bool → IceAgent × Nat × Bool
  | [], s => s
  | c :: cs, (a, reports, pending) =>
    gatherLoop relayAddress cs (gatherCandidate relayAddress a reports pending c)

/-- The address of the STUN server for a candidate; one that is found for an earlier candidate
stays. -/
def stunServerAddress (a : IceAgent) (c : IceCandidate) (previous : Option KvsIpAddress) :
    Option KvsIpAddress :=
  match a.iceServers[c.iceServerIndex]? with
  | none => previous
  | some server =>
    if server.ipv4Address.isSome ∧ c.ipAddress.family = KVS_IP_FAMILY_TYPE_IPV4 then
      server.ipv4Address
    else if server.ipv6Address.isSome ∧ c.ipAddress.family = KVS_IP_FAMILY_TYPE_IPV6 then
      server.ipv6Address
    else previous

/-- The loop over the local candidates. -/
def srflxRequests (w : Host) (request : StunPacket) :
    List IceCandidate → Option KvsIpAddress → IceAgent → IceAgent
  | [], _, a => a
  | c :: cs, previous, a =>
    if c.state = .NEW ∧ c.iceCandidateType = .SERVER_REFLEXIVE then
      match stunServerAddress a c previous with
      | none => iceAgentFatalError a .INVALID_ARG
      | some dest =>
        let transactionId := iceUtilsGenerateTransactionId w a.draws
        let request := { request with
          header := { request.header with transactionId := transactionId } }
        let a := { a with
          draws := a.draws + 1
          pStunBindingRequestTransactionIdStore := transactionIdStoreInsert
            a.pStunBindingRequestTransactionIdStore transactionId }
        srflxRequests w request cs (some dest) (iceAgentSendStunPacket w a request none c dest)
    else srflxRequests w request cs previous a

def iceAgentSendSrflxCandidateRequest (w : Host) (a : IceAgent) : IceAgent :=
  let request := createStunPacket STUN_PACKET_TYPE_BINDING_REQUEST
    (iceUtilsGenerateTransactionId w a.draws)
  srflxRequests w request a.localCandidates none { a with draws := a.draws + 1 }

/-- `relayAddress` is what `turnConnectionGetRelayAddress` answers for a candidate.  When the timer
stops is not modelled. -/
def iceAgentGatherCandidateTimerCallback (w : Host) (a : IceAgent)
    (relayAddress : Nat → Option KvsIpAddress) : IceAgent :=
  let (a, _, pending) := gatherLoop relayAddress a.localCandidates (a, 0, false)
  if pending then iceAgentSendSrflxCandidateRequest w a else a

end KvsWebrtc.Ice
