import KvsWebrtc.Lib.InternetAddress
import KvsWebrtc.Sdp.Description
import KvsWebrtc.Sdp.Numbers
import KvsWebrtc.Turn.Peers

/-!
# Candidates in text and the peers of relayed candidates (`IceAgent.c`)

`iceCandidateSerialize` prints a local candidate for the remote side.  `iceAgentAddRemoteCandidate`
reads one: each round of its loop takes the text up to the next blank, so what stands behind the last
blank is never looked at, and each kind of token has its own check.  A new candidate is linked into
the lists of the agent and then becomes a peer of every TURN connection of its family.

A port is its number.  The foundation and the announced address of a candidate are arguments here.
-/

namespace KvsWebrtc.Ice.Trickle

open Stun CString InternetAddress Sdp

inductive SDP_ICE_CANDIDATE_PARSER_STATE where
  | FOUNDATION
  | COMPONENT
  | PROTOCOL
  | PRIORITY
  | IP
  | PORT
  | TYPE_ID
  | TYPE_VAL
  deriving DecidableEq, Repr

inductive KVS_SOCKET_PROTOCOL where
  | NONE
  | TCP
  | UDP
  deriving DecidableEq, Repr

inductive STATUS where
  | INVALID_ARG
  | BUFFER_TOO_SMALL
  | ICE_MAX_REMOTE_CANDIDATE_COUNT_EXCEEDED
  | ICE_CANDIDATE_STRING_IS_TCP
  | ICE_CANDIDATE_STRING_MISSING_IP
  | ICE_CANDIDATE_STRING_MISSING_TYPE
  /-- Of `strtoui32`. -/
  | NUMBER
  | TURN (s : Turn.Machine.STATUS)
  /-- Of a function outside these files. -/
  | other (code : UINT32)
  deriving DecidableEq, Repr

abbrev KVS_IP_ADDRESS_STRING_BUFFER_LEN : Nat := 46

def ICE_TRANSPORT_TYPE_UDP : Bytes := ascii "udp"
def ICE_TRANSPORT_TYPE_TCP : Bytes := ascii "tcp"
def SDP_CANDIDATE_TYPE_HOST : Bytes := ascii "host"
def SDP_CANDIDATE_TYPE_SERFLX : Bytes := ascii "srflx"
def SDP_CANDIDATE_TYPE_PRFLX : Bytes := ascii "prflx"
def SDP_CANDIDATE_TYPE_RELAY : Bytes := ascii "relay"

/-! ## Serialising -/

def iceAgentGetCandidateTypeStr : ICE_CANDIDATE_TYPE → Bytes
  | .HOST => SDP_CANDIDATE_TYPE_HOST
  | .SERVER_REFLEXIVE => SDP_CANDIDATE_TYPE_SERFLX
  | .PEER_REFLEXIVE => SDP_CANDIDATE_TYPE_PRFLX
  | .RELAYED => SDP_CANDIDATE_TYPE_RELAY

def printAddress (a : KvsIpAddress) : Bytes :=
  if a.isIpv4 then
    printIpv4 (a.address.getD 0 0) (a.address.getD 1 0) (a.address.getD 2 0) (a.address.getD 3 0)
  else printIpv6 a.address

/-- The formatted text. -/
def candidateText (foundation : UINT32) (c : IceCandidate) (announced : Option KvsIpAddress) :
    Bytes :=
  let ipAddress := announced.getD c.ipAddress
  printDecimal foundation.toNat ++ ascii " 1 udp " ++ printDecimal c.priority.toNat ++ ascii " " ++
    printAddress ipAddress ++ ascii " " ++ printDecimal ipAddress.port.toNat ++ ascii " typ " ++
    iceAgentGetCandidateTypeStr c.iceCandidateType ++
    (if ipAddress.isIpv4 then ascii " raddr 0.0.0.0" else ascii " raddr ::/0") ++
    ascii " rport 0 generation 0 network-cost 999"

/-- `pOutputData` is given by its size, `none` for `NULL`; the result is what is written, without the
NUL, and the new value of `pOutputLength`. -/
def iceCandidateSerialize (foundation : UINT32) (c : IceCandidate) (announced : Option KvsIpAddress)
    (pOutputData : Option Nat) : Except STATUS (Bytes × Nat) :=
  let text := candidateText foundation c announced
  match pOutputData with
  | none => .ok ([], text.length + 1)
  | some size => if text.length < size then .ok (text, size) else .error .BUFFER_TOO_SMALL

/-! ## Reading -/

def toLower (c : UINT8) : UINT8 := if 65 ≤ c.toNat ∧ c.toNat ≤ 90 then c + 32 else c

/-- Whether `strncasecmp(a, b, n)` is 0. -/
def strncmpiEq (a b : Bytes) (n : Nat) : Bool := (a.take n).map toLower == (b.take n).map toLower

/-- An address over cleared memory, without a port. -/
def ipAddressOf (family : UINT16) (bytes : Bytes) : KvsIpAddress where
  family := family
  port := 0
  address := (bytes ++ List.replicate IPV6_ADDRESS_LENGTH 0).take IPV6_ADDRESS_LENGTH
  length_address := by simp

/-- The two calls of `inet_pton`. -/
def readAddress (ipBuf : Bytes) : Option KvsIpAddress :=
  match inet_pton4 ipBuf with
  | some bytes => some (ipAddressOf KVS_IP_FAMILY_TYPE_IPV4 bytes)
  | none => (inet_pton6 ipBuf).map (ipAddressOf KVS_IP_FAMILY_TYPE_IPV6)

/-- What the loop has found so far. -/
structure Fields where
  candidateIpAddr : KvsIpAddress
  foundIp : Bool
  priority : UINT32
  iceCandidateType : ICE_CANDIDATE_TYPE
  remoteProtocol : KVS_SOCKET_PROTOCOL
  deriving DecidableEq, Repr

/-- The type a token is taken for; an unknown one changes nothing. -/
def typeOfToken (curr : Bytes) (tokenLen : Nat) : Option ICE_CANDIDATE_TYPE :=
  if strncmpiEq SDP_CANDIDATE_TYPE_HOST curr tokenLen then some .HOST
  else if strncmpiEq SDP_CANDIDATE_TYPE_SERFLX curr tokenLen then some .SERVER_REFLEXIVE
  else if strncmpiEq SDP_CANDIDATE_TYPE_PRFLX curr tokenLen then some .PEER_REFLEXIVE
  else if strncmpiEq SDP_CANDIDATE_TYPE_RELAY curr tokenLen then some .RELAYED
  else none

/-- The `switch`. -/
def readToken (state : SDP_ICE_CANDIDATE_PARSER_STATE) (curr : Bytes) (tokenLen : Nat) (f : Fields) :
    Except STATUS Fields :=
  match state with
  | .FOUNDATION => .ok f
  | .COMPONENT => .ok f
  | .PRIORITY =>
    -- a number that cannot be read is ignored
    match strtoui32 curr tokenLen 10 with
    | some priority => .ok { f with priority := priority }
    | none => .ok f
  | .PROTOCOL =>
    if strncmpiEq ICE_TRANSPORT_TYPE_TCP curr tokenLen then .error .ICE_CANDIDATE_STRING_IS_TCP
    else if strncmpiEq ICE_TRANSPORT_TYPE_UDP curr tokenLen then
      .ok { f with remoteProtocol := .UDP }
    else .ok f
  | .IP =>
    match readAddress (curr.take (min tokenLen (KVS_IP_ADDRESS_STRING_BUFFER_LEN - 1))) with
    | some address => .ok { f with candidateIpAddr := address, foundIp := true }
    | none => .error .ICE_CANDIDATE_STRING_MISSING_IP
  | .PORT =>
    match strtoui32 curr tokenLen 10 with
    | some portValue =>
      .ok { f with candidateIpAddr := { f.candidateIpAddr with port := portValue.truncate 16 } }
    | none => .error .NUMBER
  | .TYPE_ID =>
    if strncmpiEq (ascii "typ") curr tokenLen then .ok f
    else .error .ICE_CANDIDATE_STRING_MISSING_TYPE
  | .TYPE_VAL =>
    .ok { f with iceCandidateType := (typeOfToken curr tokenLen).getD f.iceCandidateType }

/-- The loop.  `foundType` is set in the last state, so no state comes twice. -/
def parseTokens :
    List SDP_ICE_CANDIDATE_PARSER_STATE → Bytes → Fields → Except STATUS Fields
  | [], _, f => .ok f
  | state :: states, curr, f =>
    match strnchr curr curr.length 32 with
    | none => .ok f
    | some tokenLen =>
      match readToken state curr tokenLen f with
      | .error e => .error e
      | .ok f => parseTokens states (curr.drop (tokenLen + 1)) f

def parserStates : List SDP_ICE_CANDIDATE_PARSER_STATE :=
  [.FOUNDATION, .COMPONENT, .PROTOCOL, .PRIORITY, .IP, .PORT, .TYPE_ID, .TYPE_VAL]

def noFields : Fields := ⟨Turn.Machine.noAddress, false, 0, .HOST, .NONE⟩

def parseCandidate (pIceCandidateString : Bytes) : Except STATUS Fields :=
  match parseTokens parserStates pIceCandidateString noFields with
  | .error e => .error e
  | .ok f => if f.foundIp then .ok f else .error .ICE_CANDIDATE_STRING_MISSING_IP

/-! ## Adding a candidate -/

/-- The agent and the TURN connections of its relayed candidates, by the address of the
candidate. -/
structure TurnAgent where
  agent : IceAgent
  pTurnConnection : Nat → Turn.Machine.TurnConnection

def isMatchingTurnFamily (turnFamily : UINT16) (ipAddress : KvsIpAddress) : Bool :=
  (turnFamily = KVS_IP_FAMILY_TYPE_IPV4 && ipAddress.family = KVS_IP_FAMILY_TYPE_IPV4) ||
    (turnFamily = KVS_IP_FAMILY_TYPE_IPV6 && ipAddress.family = KVS_IP_FAMILY_TYPE_IPV6)

/-- `turnConnectionAddPeer` for the connection of a candidate. -/
def addPeer (connections : Nat → Turn.Machine.TurnConnection) (ptr : Nat) (ipAddress : KvsIpAddress) :
    (Nat → Turn.Machine.TurnConnection) × Option Turn.Machine.STATUS :=
  let (connection, status) := Turn.Machine.turnConnectionAddPeer (connections ptr) ipAddress
  (Function.update connections ptr connection, status)

/-- A candidate whose TURN connection takes the address as a peer. -/
def takesPeer (connections : Nat → Turn.Machine.TurnConnection) (ipAddress : KvsIpAddress)
    (l : IceCandidate) : Bool :=
  l.iceCandidateType = .RELAYED && isMatchingTurnFamily (connections l.ptr).ipFamilyType ipAddress

/-- The loop over the local candidates; it stops at the first error. -/
def passToTurn (ipAddress : KvsIpAddress) :
    List IceCandidate → (Nat → Turn.Machine.TurnConnection) →
      (Nat → Turn.Machine.TurnConnection) × Option Turn.Machine.STATUS
  | [], connections => (connections, none)
  | l :: ls, connections =>
    if takesPeer connections ipAddress l then
      match addPeer connections l.ptr ipAddress with
      | (connections, none) => passToTurn ipAddress ls connections
      | (connections, some e) => (connections, some e)
    else passToTurn ipAddress ls connections

/-- A candidate whose address is not known yet. -/
def addNewCandidate (s : TurnAgent) (f : Fields) : TurnAgent × Option STATUS :=
  let r := s.agent.newRemote f.candidateIpAddr f.iceCandidateType f.priority
  let agent := (s.agent.insertRemote r).createPairsForRemote r
  let (connections, status) :=
    passToTurn f.candidateIpAddr agent.localCandidates s.pTurnConnection
  (⟨agent, connections⟩, status.map .TURN)

def iceAgentAddRemoteCandidate (s : TurnAgent) (pIceCandidateString : Bytes) :
    TurnAgent × Option STATUS :=
  if pIceCandidateString = [] then (s, some .INVALID_ARG)
  else if KVS_ICE_MAX_REMOTE_CANDIDATE_COUNT ≤ s.agent.remoteCandidates.length then
    (s, some .ICE_MAX_REMOTE_CANDIDATE_COUNT_EXCEEDED)
  else
    match parseCandidate pIceCandidateString with
    | .error e => (s, some e)
    | .ok f =>
      match findCandidateWithIp f.candidateIpAddr s.agent.remoteCandidates with
      | some _ => (s, none)
      | none => addNewCandidate s f

/-! ## Adding a relayed candidate -/

/-- What `iceAgentInitRelayCandidate` gets from outside: whether the server is secure while the
protocol is UDP, the first failure before the candidate is linked, if there is one, the credentials
of the server and the status of `turnConnectionStart`. -/
structure RelaySetup where
  turnServerIpFamily : UINT16
  iceServerIndex : Nat
  secureOverUdp : Bool
  failure : Option STATUS
  username : Bytes
  credential : Bytes
  started : Option STATUS

abbrev KVS_IP_FAMILY_TYPE_NOT_SET : UINT16 := 0

/-- The address is set when the allocation succeeds. -/
def relayCandidate (a : IceAgent) (iceServerIndex : Nat) : IceCandidate where
  ptr := a.nextPtr
  iceCandidateType := .RELAYED
  ipAddress := Turn.Machine.noAddress
  isPointToPoint := false
  pSocketConnection := some (a.nextPtr + 1)
  state := .NEW
  priority := computeCandidatePriority .RELAYED false
  iceServerIndex := iceServerIndex
  reported := false

/-- The loop over the remote candidates; it stops at the first error. -/
def addRemotePeers (connection : Turn.Machine.TurnConnection) (turnServerIpFamily : UINT16) :
    List IceCandidate → Turn.Machine.TurnConnection × Option Turn.Machine.STATUS
  | [] => (connection, none)
  | r :: rs =>
    if isMatchingTurnFamily turnServerIpFamily r.ipAddress then
      match Turn.Machine.turnConnectionAddPeer connection r.ipAddress with
      | (connection, none) => addRemotePeers connection turnServerIpFamily rs
      | (connection, some e) => (connection, some e)
    else addRemotePeers connection turnServerIpFamily rs

def iceAgentInitRelayCandidate (s : TurnAgent) (setup : RelaySetup) : TurnAgent × Option STATUS :=
  if setup.turnServerIpFamily = KVS_IP_FAMILY_TYPE_NOT_SET then (s, some .INVALID_ARG)
  else if setup.secureOverUdp then (s, none)
  else if KVS_ICE_MAX_RELAY_CANDIDATE_COUNT ≤ s.agent.relayCandidateCount then (s, none)
  else
    match setup.failure with
    | some e => (s, some e)
    | none =>
      let l := relayCandidate s.agent setup.iceServerIndex
      let connection := Turn.Machine.createTurnConnection setup.username setup.credential
        setup.turnServerIpFamily
      let agent := { s.agent.insertLocal l with nextPtr := s.agent.nextPtr + 2 }
      let (connection, status) :=
        addRemotePeers connection setup.turnServerIpFamily agent.remoteCandidates
      let connections := Function.update s.pTurnConnection l.ptr connection
      match status with
      | some e => (⟨agent, connections⟩, some (.TURN e))
      | none =>
        (⟨{ agent with relayCandidateCount := agent.relayCandidateCount + 1 }, connections⟩,
          setup.started)

end KvsWebrtc.Ice.Trickle
