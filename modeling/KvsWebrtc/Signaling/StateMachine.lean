import KvsWebrtc.Common
import KvsWebrtc.Lib.Steps

/-!
# The signaling state machine (`Signaling/StateMachine.c`, `State.c`)

A state of `SIGNALING_STATE_MACHINE_STATES` names the next state and is executed when the machine
gets there.  Service calls are outside, and so is when the loop of `signalingStateMachineIterator`
ends: what a call leaves in the client is part of a round of the loop.

Principal results:

* `transition_refused_iff` — which transitions the table of states refuses;
* `reconnects_iff` — when a lost connection comes back;
* `ready_provisioned` — which results were read, in which order, before a client is ready;
* `delete_called_iff` — when a deletion reaches the service.
-/

namespace KvsWebrtc.Signaling.Machine

inductive SIGNALING_STATE where
  | NEW | GET_TOKEN | DESCRIBE | DESCRIBE_MEDIA | CREATE | GET_ENDPOINT | GET_ICE_CONFIG | READY
  | CONNECT | CONNECTED | DISCONNECTED | DELETE | DELETED | JOIN_SESSION | JOIN_SESSION_WAITING
  | JOIN_SESSION_CONNECTED
  deriving DecidableEq, Repr

/-- The results that a state looks at. -/
inductive SERVICE_CALL_RESULT where
  | NOT_SET | OK | RESOURCE_NOT_FOUND | FORBIDDEN | NOT_AUTHORIZED | BAD_REQUEST | INTERNAL_ERROR
  | NETWORK_CONNECTION_TIMEOUT | NETWORK_READ_TIMEOUT | REQUEST_TIMEOUT | GATEWAY_TIMEOUT
  | RESOURCE_DELETED | SIGNALING_GO_AWAY | SIGNALING_RECONNECT_ICE | OTHER (code : Nat)
  deriving DecidableEq, Repr

/-- `log` is not in the source: the state that was left, the result seen there and the state that
was executed, for every transition. -/
structure SignalingClient where
  currentState : SIGNALING_STATE
  localStateRetryCount : UINT32
  result : SERVICE_CALL_RESULT
  connected : Bool
  deleting : Bool
  refreshIceConfig : Bool
  /-- `pChannelInfo` names the channel by its ARN. -/
  hasChannelArn : Bool
  useMediaStorage : Bool
  storageStatus : Bool
  log : List (SIGNALING_STATE × SERVICE_CALL_RESULT × SIGNALING_STATE)

/-! ## The next state -/

abbrev Next : Type := SignalingClient × SIGNALING_STATE

variable (c : SignalingClient)

/-- The exchange of `refreshIceConfig`, which overwrites the state. -/
def unlessRefreshing (state : SIGNALING_STATE) : Next :=
  ({ c with refreshIceConfig := false }, if c.refreshIceConfig then .GET_ICE_CONFIG else state)

def fromGetTokenSignalingState : SIGNALING_STATE :=
  match c.result with
  | .OK => if c.deleting then .DELETE else if c.hasChannelArn then .GET_ENDPOINT else .DESCRIBE
  | _ => .GET_TOKEN

def fromDescribeSignalingState : SIGNALING_STATE :=
  match c.result with
  | .OK =>
    if c.deleting then .DELETE else if c.useMediaStorage then .DESCRIBE_MEDIA else .GET_ENDPOINT
  | .RESOURCE_NOT_FOUND => .CREATE
  | .FORBIDDEN | .NOT_AUTHORIZED => .GET_TOKEN
  | _ => .DESCRIBE

def fromDescribeMediaStorageConfState : SIGNALING_STATE :=
  match c.result with
  | .OK => if c.deleting then .DELETE else .GET_ENDPOINT
  | .RESOURCE_NOT_FOUND => .CREATE
  | .FORBIDDEN | .NOT_AUTHORIZED => .GET_TOKEN
  | _ => .DESCRIBE_MEDIA

def fromCreateSignalingState : SIGNALING_STATE :=
  match c.result with
  | .OK => .DESCRIBE
  | .FORBIDDEN | .NOT_AUTHORIZED => .GET_TOKEN
  | _ => .CREATE

def fromGetEndpointSignalingState : SIGNALING_STATE :=
  match c.result with
  | .OK => .GET_ICE_CONFIG
  | .FORBIDDEN | .NOT_AUTHORIZED => .GET_TOKEN
  | _ => .GET_ENDPOINT

def fromGetIceConfigSignalingState : SIGNALING_STATE :=
  match c.result with
  | .OK => .READY
  | .FORBIDDEN | .NOT_AUTHORIZED => .GET_TOKEN
  | .RESOURCE_NOT_FOUND => .DESCRIBE
  | _ => .GET_ICE_CONFIG

def fromReadySignalingState : SIGNALING_STATE :=
  match c.result with
  | .OK => .READY
  | .SIGNALING_RECONNECT_ICE => .GET_ICE_CONFIG
  | .FORBIDDEN | .NOT_AUTHORIZED => .GET_TOKEN
  | _ => .CONNECT

/-- Failures of the network and the service, which ask for another endpoint. -/
def fromFailure : SERVICE_CALL_RESULT → SIGNALING_STATE
  | .RESOURCE_NOT_FOUND => .DESCRIBE
  | .SIGNALING_RECONNECT_ICE => .GET_ICE_CONFIG
  | .INTERNAL_ERROR | .BAD_REQUEST | .NETWORK_CONNECTION_TIMEOUT | .NETWORK_READ_TIMEOUT
  | .REQUEST_TIMEOUT | .GATEWAY_TIMEOUT => .GET_ENDPOINT
  | _ => .GET_TOKEN

def fromConnectSignalingState : SIGNALING_STATE :=
  match c.result with
  | .OK => if c.connected then .CONNECTED else .CONNECT
  | r => fromFailure r

def fromConnectedSignalingState : SIGNALING_STATE :=
  match c.result with
  | .OK =>
    if !c.connected then .DISCONNECTED else if c.storageStatus then .JOIN_SESSION else .CONNECTED
  | .SIGNALING_GO_AWAY => .DESCRIBE
  | r => fromFailure r

def fromJoinStorageSessionState : SIGNALING_STATE :=
  match c.result with
  | .OK => if c.connected then .JOIN_SESSION_WAITING else .DISCONNECTED
  | r => fromFailure r

def fromJoinStorageSessionWaitingState : SIGNALING_STATE :=
  match c.result with
  | .OK => if c.connected then .JOIN_SESSION_CONNECTED else .DISCONNECTED
  | .NOT_SET => if c.connected then .JOIN_SESSION else .DISCONNECTED
  | _ => .GET_TOKEN

def fromJoinStorageSessionConnectedState : SIGNALING_STATE :=
  match c.result with
  | .OK =>
    if !c.connected then .DISCONNECTED else if c.storageStatus then .GET_ICE_CONFIG else .CONNECTED
  | .SIGNALING_GO_AWAY => .DESCRIBE
  | .SIGNALING_RECONNECT_ICE => .GET_ICE_CONFIG
  | _ => .GET_TOKEN

def fromDisconnectedSignalingState : SIGNALING_STATE :=
  match c.result with
  | .FORBIDDEN | .NOT_AUTHORIZED => .GET_TOKEN
  | .SIGNALING_RECONNECT_ICE => .GET_ICE_CONFIG
  | _ => .READY

def fromDeleteSignalingState : SIGNALING_STATE :=
  match c.result with
  | .FORBIDDEN | .NOT_AUTHORIZED => .GET_TOKEN
  | .OK | .RESOURCE_DELETED | .RESOURCE_NOT_FOUND => .DELETED
  | .BAD_REQUEST => .DESCRIBE
  | _ => .DELETE

/-- `getNextStateFn` of the current state. -/
def getNextState : Next :=
  match c.currentState with
  | .NEW => (c, .GET_TOKEN)
  | .GET_TOKEN => (c, fromGetTokenSignalingState c)
  | .DESCRIBE => (c, fromDescribeSignalingState c)
  | .DESCRIBE_MEDIA => (c, fromDescribeMediaStorageConfState c)
  | .CREATE => (c, fromCreateSignalingState c)
  | .GET_ENDPOINT => (c, fromGetEndpointSignalingState c)
  | .GET_ICE_CONFIG => (c, fromGetIceConfigSignalingState c)
  | .READY => unlessRefreshing c (fromReadySignalingState c)
  | .CONNECT => unlessRefreshing c (fromConnectSignalingState c)
  | .CONNECTED => unlessRefreshing c (fromConnectedSignalingState c)
  | .JOIN_SESSION => unlessRefreshing c (fromJoinStorageSessionState c)
  | .JOIN_SESSION_WAITING => (c, fromJoinStorageSessionWaitingState c)
  | .JOIN_SESSION_CONNECTED => unlessRefreshing c (fromJoinStorageSessionConnectedState c)
  | .DISCONNECTED => unlessRefreshing c (fromDisconnectedSignalingState c)
  | .DELETE => (c, fromDeleteSignalingState c)
  | .DELETED => (c, .DELETED)

/-- `acceptStates` of a state. -/
def acceptStates : SIGNALING_STATE → List SIGNALING_STATE
  | .NEW => [.NEW]
  | .GET_TOKEN => [.NEW, .DESCRIBE, .DESCRIBE_MEDIA, .CREATE, .GET_ENDPOINT, .GET_ICE_CONFIG,
    .READY, .CONNECT, .CONNECTED, .JOIN_SESSION, .JOIN_SESSION_WAITING, .JOIN_SESSION_CONNECTED,
    .DELETE, .GET_TOKEN]
  | .DESCRIBE => [.GET_TOKEN, .CREATE, .GET_ENDPOINT, .GET_ICE_CONFIG, .CONNECT, .CONNECTED,
    .JOIN_SESSION, .JOIN_SESSION_CONNECTED, .DELETE, .DESCRIBE, .READY, .DISCONNECTED]
  | .DESCRIBE_MEDIA => [.DESCRIBE, .DESCRIBE_MEDIA]
  | .CREATE => [.DESCRIBE, .DESCRIBE_MEDIA, .CREATE]
  | .GET_ENDPOINT => [.DESCRIBE, .DESCRIBE_MEDIA, .CREATE, .GET_TOKEN, .READY, .CONNECT, .CONNECTED,
    .JOIN_SESSION, .JOIN_SESSION_CONNECTED, .GET_ENDPOINT]
  | .GET_ICE_CONFIG => [.DESCRIBE, .DESCRIBE_MEDIA, .CONNECT, .CONNECTED, .JOIN_SESSION,
    .JOIN_SESSION_CONNECTED, .GET_ENDPOINT, .READY, .GET_ICE_CONFIG]
  | .READY => [.GET_ICE_CONFIG, .DISCONNECTED, .READY]
  | .CONNECT => [.READY, .DISCONNECTED, .CONNECTED, .JOIN_SESSION, .CONNECT]
  | .CONNECTED => [.CONNECT, .CONNECTED, .JOIN_SESSION]
  | .DISCONNECTED => [.CONNECT, .CONNECTED, .JOIN_SESSION, .JOIN_SESSION_WAITING,
    .JOIN_SESSION_CONNECTED]
  | .DELETE => [.GET_TOKEN, .DESCRIBE, .DESCRIBE_MEDIA, .CREATE, .GET_ENDPOINT, .GET_ICE_CONFIG,
    .READY, .CONNECT, .CONNECTED, .JOIN_SESSION, .DISCONNECTED, .DELETE]
  | .DELETED => [.DELETE, .DELETED]
  | .JOIN_SESSION => [.CONNECTED, .JOIN_SESSION_WAITING, .JOIN_SESSION_CONNECTED]
  | .JOIN_SESSION_WAITING => [.JOIN_SESSION]
  | .JOIN_SESSION_CONNECTED => [.JOIN_SESSION_WAITING, .JOIN_SESSION_CONNECTED]

/-- `maxLocalStateRetryCount` of a state; 0 is no limit. -/
def maxLocalStateRetryCount : SIGNALING_STATE → UINT32
  | .GET_TOKEN | .DESCRIBE | .DESCRIBE_MEDIA | .CREATE | .GET_ENDPOINT | .GET_ICE_CONFIG
  | .DISCONNECTED | .DELETE => 1
  | _ => 0

/-! ## Steps -/

/-- What happens outside while a state is executed. -/
structure Outcome where
  /-- `stateChangeFn` succeeds. -/
  notified : Bool
  /-- What the call of the state leaves. -/
  result : SERVICE_CALL_RESULT
  connected : Bool
  storageStatus : Bool

def call (o : Outcome) (c : SignalingClient) : SignalingClient :=
  if o.notified then
    { c with result := o.result, connected := o.connected, storageStatus := o.storageStatus }
  else c

/-- `executeStateFn` of a state. -/
def executeState (o : Outcome) (c : SignalingClient) : SIGNALING_STATE → SignalingClient
  | .NEW | .READY => { c with result := .NOT_SET }
  | .GET_TOKEN | .DESCRIBE | .DESCRIBE_MEDIA | .CREATE | .GET_ENDPOINT | .GET_ICE_CONFIG
  | .DELETE => call o { c with result := .NOT_SET }
  | .CONNECT | .JOIN_SESSION => call o c
  | .JOIN_SESSION_WAITING => { c with result := o.result }
  | .CONNECTED | .DISCONNECTED | .JOIN_SESSION_CONNECTED | .DELETED => c

/-- `stepStateMachine`; `getNextStateFn` has been called when a transition is refused. -/
def stepStateMachine (o : Outcome) (c : SignalingClient) : SignalingClient :=
  let (c', next) := getNextState c
  if c.currentState ∉ acceptStates next then c'
  else
    let count := if next = c.currentState then c.localStateRetryCount + 1 else 0
    let c' := { c' with localStateRetryCount := count }
    if maxLocalStateRetryCount next ≠ 0 ∧ maxLocalStateRetryCount next < count then c'
    else executeState o { c' with
      currentState := next
      log := c.log ++ [(c.currentState, c.result, next)] } next

/-- A round of `signalingStateMachineIterator`. -/
structure Round where
  /-- The last call was not authorized, or the credentials have expired. -/
  unauthorized : Bool
  outcome : Outcome

def round (r : Round) : SignalingClient :=
  stepStateMachine r.outcome (if r.unauthorized then { c with result := .NOT_AUTHORIZED } else c)

def iterate (rounds : List Round) (c : SignalingClient) : SignalingClient := rounds.foldl round c

/-! ## Transitions -/

/-- The results that a lost connection has no accepted transition for. -/
abbrev stuckResults : List SERVICE_CALL_RESULT :=
  [.FORBIDDEN, .NOT_AUTHORIZED, .SIGNALING_RECONNECT_ICE]

/-- **Refused transitions:** from a lost connection to another token or to other ICE servers, and
from a joined session to a client that is connected without a storage. -/
theorem transition_refused_iff (c : SignalingClient) :
    c.currentState ∉ acceptStates (getNextState c).2 ↔
      (c.currentState = .DISCONNECTED ∧ (c.result ∈ stuckResults ∨ c.refreshIceConfig)) ∨
      (c.currentState = .JOIN_SESSION_CONNECTED ∧ c.result = .OK ∧ c.connected ∧
        !c.storageStatus ∧ !c.refreshIceConfig) := by
  unfold getNextState
  cases hstate : c.currentState <;> simp only [unlessRefreshing, fromFailure,
    fromGetTokenSignalingState, fromDescribeSignalingState, fromDescribeMediaStorageConfState,
    fromCreateSignalingState, fromGetEndpointSignalingState, fromGetIceConfigSignalingState,
    fromReadySignalingState, fromConnectSignalingState, fromConnectedSignalingState,
    fromJoinStorageSessionState, fromJoinStorageSessionWaitingState,
    fromJoinStorageSessionConnectedState, fromDisconnectedSignalingState, fromDeleteSignalingState]
  all_goals (repeat' split) <;> simp_all [acceptStates, stuckResults]

@[simp] theorem executeState_currentState (o : Outcome) (c : SignalingClient)
    (s : SIGNALING_STATE) : (executeState o c s).currentState = c.currentState := by
  cases s <;> simp [executeState, call] <;> split <;> rfl

@[simp] theorem executeState_log (o : Outcome) (c : SignalingClient) (s : SIGNALING_STATE) :
    (executeState o c s).log = c.log := by
  cases s <;> simp [executeState, call] <;> split <;> rfl

theorem getNextState_fst :
    ∃ b, (getNextState c).1 = { c with refreshIceConfig := b } := by
  unfold getNextState
  split <;> exact ⟨_, rfl⟩

/-- A step keeps the state and the result, or makes a transition that is accepted. -/
theorem stepStateMachine_cases (o : Outcome) (c : SignalingClient) :
    let next := (getNextState c).2
    let c' := stepStateMachine o c
    (c'.currentState = c.currentState ∧ c'.result = c.result ∧ c'.log = c.log) ∨
      (c.currentState ∈ acceptStates next ∧ c'.currentState = next ∧
        c'.log = c.log ++ [(c.currentState, c.result, next)]) := by
  obtain ⟨b, hb⟩ := getNextState_fst c
  simp only [stepStateMachine, hb]
  by_cases haccept : c.currentState ∈ acceptStates (getNextState c).2
  · rw [if_neg (not_not.mpr haccept)]
    generalize (if (getNextState c).2 = c.currentState then c.localStateRetryCount + 1 else 0) = n
    split
    · exact .inl ⟨rfl, rfl, rfl⟩
    · exact .inr ⟨haccept, by simp, by simp⟩
  · rw [if_pos haccept]
    exact .inl ⟨rfl, rfl, rfl⟩

/-! ## A lost connection -/

theorem not_accepted {c : SignalingClient} (hstate : c.currentState = .DISCONNECTED)
    (hresult : c.result ∈ stuckResults) : c.currentState ∉ acceptStates (getNextState c).2 := by
  simp only [getNextState, hstate, unlessRefreshing, fromDisconnectedSignalingState]
  split
  · decide
  · split <;> simp_all [acceptStates, stuckResults]

theorem round_stuck (r : Round) {c : SignalingClient} (hstate : c.currentState = .DISCONNECTED)
    (hresult : c.result ∈ stuckResults) :
    (round c r).currentState = .DISCONNECTED ∧ (round c r).result ∈ stuckResults := by
  obtain ⟨c', hround, hstate', hresult'⟩ : ∃ c', round c r = stepStateMachine r.outcome c' ∧
      c'.currentState = .DISCONNECTED ∧ c'.result ∈ stuckResults := by
    refine ⟨_, rfl, ?_⟩
    split
    · exact ⟨hstate, by simp [stuckResults]⟩
    · exact ⟨hstate, hresult⟩
  rw [hround]
  rcases stepStateMachine_cases r.outcome c' with ⟨h, h', -⟩ | ⟨h, -⟩
  · exact ⟨h.trans hstate', h' ▸ hresult'⟩
  · exact absurd h (not_accepted hstate' hresult')

theorem iterate_stuck (rounds : List Round) {c : SignalingClient}
    (hstate : c.currentState = .DISCONNECTED) (hresult : c.result ∈ stuckResults) :
    (iterate rounds c).currentState = .DISCONNECTED := by
  induction rounds generalizing c with
  | nil => exact hstate
  | cons r rounds ih =>
    have h := round_stuck r hstate hresult
    exact ih h.1 h.2

/-- A round in which the service answers. -/
def answered : Round := ⟨false, true, .OK, true, false⟩

theorem ready_connects {c : SignalingClient} (hstate : c.currentState = .READY)
    (hresult : c.result = .NOT_SET) (hrefresh : c.refreshIceConfig = false) :
    (iterate [answered, answered] c).currentState = .CONNECTED := by
  simp [iterate, round, answered, stepStateMachine, getNextState, unlessRefreshing, acceptStates,
    fromReadySignalingState, fromConnectSignalingState, maxLocalStateRetryCount, executeState, call,
    *]

theorem disconnected_ready {c : SignalingClient} (hstate : c.currentState = .DISCONNECTED)
    (hresult : c.result ∉ stuckResults) (hrefresh : c.refreshIceConfig = false) :
    let c' := round c answered
    c'.currentState = .READY ∧ c'.result = .NOT_SET ∧ c'.refreshIceConfig = false := by
  have hnext : fromDisconnectedSignalingState c = .READY := by
    unfold fromDisconnectedSignalingState
    split <;> simp_all [stuckResults]
  simp [round, answered, stepStateMachine, getNextState, unlessRefreshing, acceptStates,
    maxLocalStateRetryCount, executeState, *]

/-- **A lost connection comes back unless** the last result was a refusal or a refresh of the ICE
servers: the iterator then repeats a refused transition until it runs out of time. -/
theorem reconnects_iff (c : SignalingClient) (hstate : c.currentState = .DISCONNECTED) :
    ((∃ rounds, (iterate rounds c).currentState = .CONNECTED) ↔ c.result ∉ stuckResults) ∧
      (c.result ∈ stuckResults → ∀ rounds, (iterate rounds c).currentState = .DISCONNECTED) := by
  refine ⟨?_, fun hresult rounds => iterate_stuck rounds hstate hresult⟩
  constructor
  · rintro ⟨rounds, h⟩ hresult
    rw [iterate_stuck rounds hstate hresult] at h
    cases h
  · intro hresult
    cases hrefresh : c.refreshIceConfig with
    | false =>
      obtain ⟨h, h', h''⟩ := disconnected_ready hstate hresult hrefresh
      exact ⟨[answered, answered, answered], ready_connects h h' h''⟩
    | true =>
      -- the first transition is refused and the refresh forgotten
      have hround : round c answered = { c with refreshIceConfig := false } := by
        simp [round, answered, stepStateMachine, getNextState, unlessRefreshing, acceptStates, *]
      obtain ⟨h, h', h''⟩ := disconnected_ready (c := round c answered)
        (by rw [hround]; exact hstate) (by rw [hround]; exact hresult) (by rw [hround])
      exact ⟨[answered, answered, answered, answered], ready_connects h h' h''⟩

/-- A refresh of a client that lost its connection keeps it from connecting again. -/
theorem refreshed_disconnected : ¬ ∃ rounds, (iterate rounds
    { currentState := .DISCONNECTED, localStateRetryCount := 0, result := .SIGNALING_RECONNECT_ICE
      connected := false, deleting := false, refreshIceConfig := true, hasChannelArn := true
      useMediaStorage := false, storageStatus := false, log := [] }).currentState ≠ .DISCONNECTED := by
  rintro ⟨rounds, h⟩
  exact h ((reconnects_iff _ rfl).2 (by decide) rounds)

/-! ## Calls on every thread -/

/-- A client, and the states that its calls have stored to set them again when they fail. -/
structure Process where
  client : SignalingClient
  stored : List SIGNALING_STATE

inductive Event where
  | round (r : Round)
  | getStateMachineCurrentState
  | setStateMachineCurrentState (i : Nat)
  | resetStateMachineRetryCount
  | fetch
  | refresh
  | delete (listening : Bool)
  /-- A thread writes what it shares with the iterator. -/
  | write (result : SERVICE_CALL_RESULT) (connected storageStatus : Bool)

/-- `signalingFetchSync` up to the iterator. -/
def signalingFetchSync : SignalingClient :=
  { c with
    currentState := .GET_TOKEN
    result := if c.result = .NOT_AUTHORIZED then .NOT_AUTHORIZED else .OK }

/-- `refreshIceConfiguration` up to the iterator. -/
def refreshIceConfiguration : SignalingClient :=
  { c with result := .SIGNALING_RECONNECT_ICE, refreshIceConfig := true }

/-- `signalingDeleteSync` up to the iterator; `terminateOngoingOperations` closes the connection of
a listener that runs. -/
def signalingDeleteSync (listening : Bool) (c : SignalingClient) : SignalingClient :=
  { c with
    deleting := true
    currentState := .DELETE
    connected := !listening && c.connected
    result := if listening then .OK else c.result }

def Process.step (p : Process) : Event → Process
  | .round r => { p with client := Machine.round p.client r }
  | .getStateMachineCurrentState => { p with stored := p.client.currentState :: p.stored }
  | .setStateMachineCurrentState i =>
    { p with client.currentState := (p.stored[i]?).getD p.client.currentState }
  | .resetStateMachineRetryCount => { p with client.localStateRetryCount := 0 }
  | .fetch => { p with client := signalingFetchSync p.client }
  | .refresh => { p with client := refreshIceConfiguration p.client }
  | .delete listening => { p with client := signalingDeleteSync listening p.client }
  | .write result connected storageStatus =>
    { p with
      client.result := result
      client.connected := connected
      client.storageStatus := storageStatus }

/-- The states that `signalingConnectSync` and `refreshIceConfiguration` accept. -/
def readyStates : List SIGNALING_STATE :=
  [.READY, .CONNECT, .DISCONNECTED, .CONNECTED, .JOIN_SESSION, .JOIN_SESSION_WAITING,
    .JOIN_SESSION_CONNECTED]

abbrev Log : Type := List (SIGNALING_STATE × SERVICE_CALL_RESULT × SIGNALING_STATE)

/-- What leads to a client that is ready. -/
def provisions : Log := [(.GET_ENDPOINT, .OK, .GET_ICE_CONFIG), (.GET_ICE_CONFIG, .OK, .READY)]

/-- What was read in a client that has been in a state. -/
def Provisioned (log : Log) (s : SIGNALING_STATE) : Prop :=
  (s = .GET_ICE_CONFIG ∨ s ∈ readyStates → (.GET_ENDPOINT, .OK, .GET_ICE_CONFIG) ∈ log) ∧
    (s ∈ readyStates → provisions.Sublist log)

theorem Provisioned.append {log : Log} {s : SIGNALING_STATE} (h : Provisioned log s) (log' : Log) :
    Provisioned (log ++ log') s :=
  ⟨fun hs => List.mem_append_left _ (h.1 hs), fun hs =>
    (h.2 hs).trans (List.sublist_append_left _ _)⟩

/-- Only an endpoint leads to the ICE servers, and only these make a client ready. -/
theorem Provisioned.next {c : SignalingClient} (h : Provisioned c.log c.currentState) :
    Provisioned (c.log ++ [(c.currentState, c.result, (getNextState c).2)]) (getNextState c).2 := by
  have hready (hmem : (.GET_ENDPOINT, .OK, .GET_ICE_CONFIG) ∈ c.log) :
      provisions.Sublist (c.log ++ [(.GET_ICE_CONFIG, .OK, .READY)]) := by
    have hsub := List.singleton_sublist.mpr hmem
    exact hsub.append_right [(.GET_ICE_CONFIG, .OK, .READY)]
  have hkeep (hlog : provisions.Sublist c.log) (l : Log) : provisions.Sublist (c.log ++ l) :=
    hlog.trans (List.sublist_append_left c.log l)
  obtain ⟨h, h'⟩ := h
  unfold getNextState
  cases hstate : c.currentState <;> simp only [unlessRefreshing, fromFailure,
    fromGetTokenSignalingState, fromDescribeSignalingState, fromDescribeMediaStorageConfState,
    fromCreateSignalingState, fromGetEndpointSignalingState, fromGetIceConfigSignalingState,
    fromReadySignalingState, fromConnectSignalingState, fromConnectedSignalingState,
    fromJoinStorageSessionState, fromJoinStorageSessionWaitingState,
    fromJoinStorageSessionConnectedState, fromDisconnectedSignalingState, fromDeleteSignalingState]
  all_goals (repeat' split) <;> simp_all [Provisioned, readyStates]

def Process.Inv (p : Process) : Prop :=
  ∀ s ∈ p.client.currentState :: p.stored, Provisioned p.client.log s

theorem Process.Inv.round {p : Process} (h : p.Inv) (r : Round) :
    Process.Inv { p with client := Machine.round p.client r } := by
  obtain ⟨c', hround, hstate, hlog⟩ : ∃ c',
      Machine.round p.client r = stepStateMachine r.outcome c' ∧
        c'.currentState = p.client.currentState ∧ c'.log = p.client.log := by
    refine ⟨_, rfl, ?_⟩
    split <;> exact ⟨rfl, rfl⟩
  intro s hs
  simp only [hround] at hs ⊢
  rw [Process.Inv, ← hstate, ← hlog] at h
  rcases stepStateMachine_cases r.outcome c' with ⟨hkeep, -, hkeep'⟩ | ⟨-, hnext, happend⟩
  · rw [hkeep']
    rw [hkeep] at hs
    exact h s hs
  · rw [happend]
    rw [hnext] at hs
    rcases List.mem_cons.mp hs with rfl | hs
    · exact (h _ List.mem_cons_self).next
    · exact (h s (List.mem_cons_of_mem _ hs)).append _

theorem provisioned_of_not_ready (log : Log) {s : SIGNALING_STATE}
    (h : s ∉ .GET_ICE_CONFIG :: readyStates) : Provisioned log s := by
  rw [List.mem_cons] at h
  exact ⟨fun hs => absurd hs h, fun hs => absurd (.inr hs) h⟩

theorem Process.Inv.step {p : Process} (h : p.Inv) (e : Event) : (p.step e).Inv := by
  have hstored : ∀ s ∈ p.stored, Provisioned p.client.log s := fun s hs =>
    h s (List.mem_cons_of_mem _ hs)
  cases e with
  | round r => exact h.round r
  | getStateMachineCurrentState =>
    exact List.forall_mem_cons.mpr ⟨h _ List.mem_cons_self, h⟩
  | setStateMachineCurrentState i =>
    refine List.forall_mem_cons.mpr ⟨?_, hstored⟩
    cases hi : p.stored[i]? with
    | none => simpa [Process.step, hi] using h _ List.mem_cons_self
    | some s => simpa [Process.step, hi] using hstored s (List.mem_of_getElem? hi)
  | fetch =>
    have hs : SIGNALING_STATE.GET_TOKEN ∉ .GET_ICE_CONFIG :: readyStates := by decide
    exact List.forall_mem_cons.mpr ⟨provisioned_of_not_ready _ hs, hstored⟩
  | delete =>
    have hs : SIGNALING_STATE.DELETE ∉ .GET_ICE_CONFIG :: readyStates := by decide
    exact List.forall_mem_cons.mpr ⟨provisioned_of_not_ready _ hs, hstored⟩
  | resetStateMachineRetryCount => exact h
  | refresh => exact h
  | write => exact h

/-- **Before a client is ready**, `GET_ENDPOINT` was left for `GET_ICE_CONFIG`, and after that
`GET_ICE_CONFIG` for `READY`, each while the result that all threads share read `OK`, whichever
calls are made in whichever order, with the rounds of their iterators interleaved. -/
theorem ready_provisioned (c : SignalingClient) (es : List Event) :
    Steps.Always Process.step (fun p => p.client.currentState ∈ readyStates →
        provisions.Sublist p.client.log)
      { client := { c with currentState := .NEW, log := [] }, stored := [] } es := by
  have hnew : Process.Inv { client := { c with currentState := .NEW, log := [] }, stored := [] } :=
    List.forall_mem_cons.mpr ⟨provisioned_of_not_ready (s := .NEW) _ (by decide), by simp⟩
  refine Steps.Always.mono (fun p hp hs => ?_)
    (Steps.Each.inv (P := fun _ _ => True) hnew (fun p e hp _ => hp.step e) ?_)
  · exact (hp _ List.mem_cons_self).2 hs
  · exact Steps.each_iff.mpr (fun _ _ _ _ => trivial)

/-! ## Deletion -/

/-- How often a state was executed. -/
def calls (s : SIGNALING_STATE) (log : Log) : Nat := (log.map (·.2.2)).count s

abbrev doneResults : List SERVICE_CALL_RESULT := [.OK, .RESOURCE_DELETED, .RESOURCE_NOT_FOUND]

/-- After a deletion: the call was made, or a state is left that comes before it. -/
def Deleting (n : Nat) (c : SignalingClient) : Prop :=
  n < calls .DELETE c.log ∨
    (n = calls .DELETE c.log ∧
      (c.currentState ∉ [.DELETE, .DELETED] ∨
        (c.currentState = .DELETE ∧ c.result ∉ doneResults)))

theorem Deleting.step {n : Nat} {c : SignalingClient} (h : Deleting n c) (o : Outcome) :
    Deleting n (stepStateMachine o c) := by
  rcases stepStateMachine_cases o c with ⟨hstate, hresult, hlog⟩ | ⟨haccept, hstate, hlog⟩
  · rw [Deleting, hstate, hresult, hlog]
    exact h
  rw [Deleting, hstate, hlog]
  by_cases hnext : (getNextState c).2 = .DELETE
  · refine .inl ?_
    rcases h with h | ⟨h, -⟩ <;> simp [calls, hnext] at h ⊢ <;> omega
  have hcalls : calls .DELETE (c.log ++ [(c.currentState, c.result, (getNextState c).2)]) =
      calls .DELETE c.log := by
    simp [calls, hnext]
  rw [hcalls]
  refine h.imp_right (fun ⟨hn, h⟩ => ⟨hn, .inl ?_⟩)
  have hdeleted : (getNextState c).2 ≠ .DELETED := by
    intro heq
    rw [heq] at haccept
    rcases h with h | ⟨h, hdone⟩
    · exact h haccept
    · simp only [getNextState, h, fromDeleteSignalingState] at heq
      split at heq <;> simp_all
  simp [hnext, hdeleted]

theorem Deleting.iterate {n : Nat} (rounds : List Round) {c : SignalingClient}
    (h : Deleting n c) : Deleting n (iterate rounds c) := by
  induction rounds generalizing c with
  | nil => exact h
  | cons r rounds ih =>
    apply ih
    apply Deleting.step
    split
    · refine h.imp_right (fun ⟨hn, h⟩ => ⟨hn, h.imp_right (fun h => ⟨h.1, by simp⟩)⟩)
    · exact h

theorem deleted_uncalled {c : SignalingClient} (hstate : c.currentState = .DELETE)
    (hresult : c.result ∈ doneResults) :
    (round c answered).currentState = .DELETED ∧
      calls .DELETE (round c answered).log = calls .DELETE c.log := by
  have hnext : fromDeleteSignalingState c = .DELETED := by
    unfold fromDeleteSignalingState
    split <;> simp_all
  simp [round, answered, stepStateMachine, getNextState, acceptStates, maxLocalStateRetryCount,
    executeState, calls, *]

/-- **A deletion calls the service exactly when** no listener was running and the last result was
none of those that the call ends with: deleting a connected client never reaches the service. -/
theorem delete_called_iff (listening : Bool) (c : SignalingClient) :
    (∀ rounds, let c' := iterate rounds (signalingDeleteSync listening c)
      c'.currentState = .DELETED → calls .DELETE c.log < calls .DELETE c'.log) ↔
      !listening ∧ c.result ∉ doneResults := by
  constructor
  · intro h
    have hnot : (signalingDeleteSync listening c).result ∉ doneResults := by
      intro hresult
      have hround := deleted_uncalled rfl hresult
      exact (h [answered] hround.1).ne' hround.2
    cases listening with
    | false => exact ⟨rfl, hnot⟩
    | true => exact absurd (by simp [signalingDeleteSync]) hnot
  · rintro ⟨hlisten, hresult⟩ rounds c' hdeleted
    have hstart : Deleting (calls .DELETE c.log) (signalingDeleteSync listening c) := by
      cases listening with
      | true => cases hlisten
      | false => exact .inr ⟨rfl, .inr ⟨rfl, hresult⟩⟩
    have hdeleted : (iterate rounds (signalingDeleteSync listening c)).currentState = .DELETED :=
      hdeleted
    rcases hstart.iterate rounds with h | ⟨-, h | ⟨h, -⟩⟩
    · exact h
    · rw [hdeleted] at h
      exact absurd (by decide) h
    · exact absurd (hdeleted.symm.trans h) (by decide)

end KvsWebrtc.Signaling.Machine
