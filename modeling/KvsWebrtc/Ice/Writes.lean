import KvsWebrtc.Ice.NominationStates
import KvsWebrtc.Ice.PairList
import Mathlib.Logic.Relation

/-!
# The ICE agent: what a step writes

Every event but `iceAgentStartAgent` is a sequence of a few writes: candidates and pairs are added,
changed and freed, and the other fields are out of the way.  `Write` lists them with what each one
respects, so that an invariant of the candidates and pairs is one case for each write, instead of
one for each function.

A lite agent sends no checks, and its pairs lose a success only when the state machine sets
`CHECK_CONNECTION` or `NOMINATING` up.  `QuietStep` says that there is nothing to lose; the writes
depend on it through `K`.

Principal results:

* `Writes.stepIceAgentStateMachine` — the state machine.
* `Writes.step` — every event but the start.
* `Distinct.write` — an address in memory stands for one local candidate.
-/

namespace KvsWebrtc.Ice

open Stun

/-! ## Writes -/

/-- Candidates, pairs and settings are the same. -/
structure SameCore (a b : IceAgent) : Prop where
  locals : b.localCandidates = a.localCandidates
  remotes : b.remoteCandidates = a.remoteCandidates
  pairs : b.iceCandidatePairs = a.iceCandidatePairs
  next : b.nextPtr = a.nextPtr
  role : b.isControlling = a.isControlling
  lite : b.isLiteAgent = a.isLiteAgent
  machine : b.currentState = a.currentState

/-- A local candidate keeps its priority, and does not come back. -/
structure Ages (c d : IceCandidate) : Prop where
  ptr : d.ptr = c.ptr
  priority : d.priority = c.priority
  invalid : c.state = .INVALID → d.state = .INVALID
  new : d.state = .NEW → c.state = .NEW

/-- A success and a nomination stay. -/
structure Keeps (p q : IceCandidatePair) : Prop where
  succeeded : p.state = .SUCCEEDED → q.state = .SUCCEEDED
  nominated : p.nominated = true → q.nominated = true

theorem Ages.refl (c : IceCandidate) : Ages c c := ⟨rfl, rfl, id, id⟩

theorem Keeps.refl (p : IceCandidatePair) : Keeps p p := ⟨id, id⟩

/-- One write.  The pairs of a lite agent keep their successes if `K` holds. -/
inductive Write (K : Prop) : IceAgent → IceAgent → Prop
  | other {a b : IceAgent} (h : SameCore a b) : Write K a b
  | machine (a : IceAgent) {state : ICE_AGENT_STATE} (h : state ≠ .NEW) :
    Write K a { a with currentState := state }
  | candidates (a : IceAgent) (f : IceCandidate → IceCandidate)
    (hf : ∀ c ∈ a.localCandidates, Ages c (f c)) :
    Write K a { a with localCandidates := a.localCandidates.map f }
  | pairs (a : IceAgent) (f : IceCandidatePair → IceCandidatePair)
    (hlink : ∀ p, (f p).link = p.link) (hfailed : ∀ p, (f p).state = .FAILED → p.state = .FAILED)
    (hkeeps : a.isLiteAgent = true → K → ∀ p ∈ a.iceCandidatePairs, Keeps p (f p)) :
    Write K a { a with iceCandidatePairs := a.iceCandidatePairs.map f }
  | failPairs (a : IceAgent) : Write K a (iceAgentInvalidateCandidatePair a)
  | createPair (a : IceAgent) (l r : IceCandidate)
    (hl : ∃ c ∈ a.localCandidates, c.ptr = l.ptr ∧ c.priority = l.priority ∧ c.state ≠ .NEW)
    (hr : r ∈ a.remoteCandidates) : Write K a (a.createPair l r)
  | insertRemote (a : IceAgent) (r : IceCandidate) (hr : r.ptr = a.nextPtr) :
    Write K a (a.insertRemote r)
  | insertLocals (a : IceAgent) (cs : List IceCandidate) (n : Nat) (hn : a.nextPtr ≤ n)
    (hcs : ∀ c ∈ cs, a.nextPtr ≤ c.ptr ∧ c.ptr < n) (hunique : (cs.map IceCandidate.ptr).Nodup) :
    Write K a { a with localCandidates := cs ++ a.localCandidates, nextPtr := n }
  | freePairs (a : IceAgent) (keep : IceCandidatePair → Bool)
    (h : ∀ p ∈ a.iceCandidatePairs, keep p = false → p.state = .FAILED) :
    Write K a { a with iceCandidatePairs := a.iceCandidatePairs.filter keep }
  | freeLocals (a : IceAgent) (keep : IceCandidate → Bool) :
    Write K a { a with localCandidates := a.localCandidates.filter keep }

/-- `b` comes from `a` by writes. -/
def Writes (K : Prop) : IceAgent → IceAgent → Prop := Relation.ReflTransGen (Write K)

/-- Nothing succeeded that is not nominated with the first success. -/
def IceAgent.nominatesAll (a : IceAgent) : Prop :=
  ∀ p ∈ a.iceCandidatePairs, p.state = .SUCCEEDED → p.nominated = true ∨
    ∀ q ∈ a.iceCandidatePairs.find? (fun q => q.state = .SUCCEEDED), p.ptr = q.ptr

/-- Executing the state loses no success: the setup of `CHECK_CONNECTION` makes all pairs wait, and
that of `NOMINATING` freezes those which a controlling agent does not nominate. -/
def Quiet (a : IceAgent) : ICE_AGENT_STATE → Prop
  | .CHECK_CONNECTION => a.iceAgentState ≠ .CHECK_CONNECTION →
    ∀ p ∈ a.iceCandidatePairs, p.state ≠ .SUCCEEDED
  | .NOMINATING => a.iceAgentState ≠ .NOMINATING → a.isControlling = true → a.nominatesAll
  | _ => True

/-- The condition on a step. -/
def QuietStep (a : IceAgent) : Event → Prop
  | .stateTimer time _ => a.remoteCredentialReceived = true → Quiet a (getNextState a time).2
  | _ => True

/-- The event starts the agent. -/
def Event.Starts : Event → Prop
  | .startAgent .. => True
  | _ => False

instance (a : IceAgent) : Decidable a.nominatesAll :=
  inferInstanceAs (Decidable (∀ p ∈ a.iceCandidatePairs, p.state = .SUCCEEDED → p.nominated = true ∨
    ∀ q ∈ a.iceCandidatePairs.find? (fun q => q.state = .SUCCEEDED), p.ptr = q.ptr))

instance (a : IceAgent) : (state : ICE_AGENT_STATE) → Decidable (Quiet a state)
  | .CHECK_CONNECTION => inferInstanceAs (Decidable (_ → ∀ p ∈ a.iceCandidatePairs, _))
  | .NOMINATING => inferInstanceAs (Decidable (_ → _ → _))
  | .NEW | .CONNECTED | .READY | .DISCONNECTED | .FAILED => inferInstanceAs (Decidable True)

instance (a : IceAgent) : (e : Event) → Decidable (QuietStep a e)
  | .stateTimer _ _ => inferInstanceAs (Decidable (_ → _))
  | .startAgent .. | .addRemoteCandidate .. | .initHostCandidate .. | .initSrflxCandidates ..
  | .initRelayCandidate .. | .gather .. | .turnFailed .. | .receive .. | .keepAlive =>
    inferInstanceAs (Decidable True)

namespace Writes

variable {K : Prop} {a b c : IceAgent} {w : Host}

theorem refl (a : IceAgent) : Writes K a a := Relation.ReflTransGen.refl

theorem trans (h : Writes K a b) (h' : Writes K b c) : Writes K a c :=
  Relation.ReflTransGen.trans h h'

theorem one (h : Write K a b) : Writes K a b := Relation.ReflTransGen.single h

theorem inv {P : IceAgent → Prop} (hwrite : ∀ a b, P a → Write K a b → P b) (h : Writes K a b)
    (ha : P a) : P b := by
  induction h with
  | refl => exact ha
  | tail _ hlast ih => exact hwrite _ _ ih hlast

theorem lite (h : Writes K a b) : b.isLiteAgent = a.isLiteAgent := by
  refine h.inv (P := fun b => b.isLiteAgent = a.isLiteAgent) ?_ rfl
  rintro x y hx (⟨hsame⟩ | _ | _ | _ | _ | _ | _ | _ | _ | _)
  · exact hsame.lite.trans hx
  all_goals exact hx

theorem not_new (h : Writes K a b) (ha : a.currentState ≠ .NEW) : b.currentState ≠ .NEW := by
  refine h.inv (P := fun b => b.currentState ≠ .NEW) ?_ ha
  rintro x y hx (⟨hsame⟩ | ⟨hne⟩ | _ | _ | _ | _ | _ | _ | _ | _)
  · exact hsame.machine.symm ▸ hx
  · exact hne
  all_goals exact hx

theorem of_eq (hl : b.localCandidates = a.localCandidates)
    (hr : b.remoteCandidates = a.remoteCandidates)
    (hp : b.iceCandidatePairs = a.iceCandidatePairs) (hn : b.nextPtr = a.nextPtr)
    (hrole : b.isControlling = a.isControlling) (hlite : b.isLiteAgent = a.isLiteAgent)
    (hmachine : b.currentState = a.currentState) : Writes K a b :=
  one (.other ⟨hl, hr, hp, hn, hrole, hlite, hmachine⟩)

/-! ## Sending -/

theorem updateLocal {ptr : Nat} {f : IceCandidate → IceCandidate}
    (hf : ∀ c ∈ a.localCandidates, c.ptr = ptr → Ages c (f c)) :
    Writes K a (a.updateLocal ptr f) := by
  refine one (.candidates a _ ?_)
  intro c hc
  split
  case isTrue hptr => exact hf c hc hptr
  case isFalse => exact Ages.refl c

theorem updatePair {ptr : Nat} {f : IceCandidatePair → IceCandidatePair}
    (hlink : ∀ p, (f p).link = p.link) (hfailed : ∀ p, (f p).state = .FAILED → p.state = .FAILED)
    (hkeeps : a.isLiteAgent = true → K → ∀ p, Keeps p (f p)) :
    Writes K a (a.updatePair ptr f) := by
  refine one (.pairs a _ ?_ ?_ ?_)
  · intro p
    split
    · exact hlink p
    · rfl
  · intro p
    split
    · exact hfailed p
    · exact id
  · intro hlite hK p _
    split
    · exact hkeeps hlite hK p
    · exact Keeps.refl p

theorem setPairStates {f : IceCandidatePair → ICE_CANDIDATE_PAIR_STATE}
    (hfailed : ∀ p, f p = .FAILED → p.state = .FAILED)
    (hkeeps : K → ∀ p ∈ a.iceCandidatePairs, p.state = .SUCCEEDED → f p = .SUCCEEDED) :
    Writes K a (a.setPairStates f) :=
  one (.pairs a _ (fun _ => rfl) hfailed fun _ hk p hp => ⟨hkeeps hk p hp, id⟩)

theorem fatal (e : STATUS) : Writes K a (iceAgentFatalError a e) :=
  of_eq rfl rfl rfl rfl rfl rfl rfl

theorem sendStunPacket (p : StunPacket) (password : Option Bytes) (l : IceCandidate)
    (dest : KvsIpAddress) : Writes K a (iceAgentSendStunPacket w a p password l dest) := by
  unfold iceAgentSendStunPacket
  split
  · exact refl a
  · split
    · refine trans (trans ?_ (updateLocal ?_)) (one (.failPairs _))
      · exact of_eq rfl rfl rfl rfl rfl rfl rfl
      · exact fun c _ _ => ⟨rfl, rfl, fun _ => rfl, fun hnew => nomatch hnew⟩
    · exact of_eq rfl rfl rfl rfl rfl rfl rfl

theorem checkConnection {ptr : Nat} (h : iceCandidatePairCheckConnection w a ptr = some b) :
    Writes K a b := by
  unfold iceCandidatePairCheckConnection at h
  split at h
  · split at h
    · split at h
      · simp only [Option.some.injEq] at h
        subst h
        refine trans (trans ?_ (updatePair ?_ ?_ ?_)) (sendStunPacket _ _ _ _)
        · exact of_eq rfl rfl rfl rfl rfl rfl rfl
        · exact fun _ => rfl
        · exact fun _ => id
        · exact fun _ _ _ => ⟨id, id⟩
      · cases h
    · cases h
  · cases h

theorem checkPairs (ptrs : List Nat) (a : IceAgent) : Writes K a (checkPairs w ptrs a) := by
  induction ptrs generalizing a with
  | nil => exact refl a
  | cons ptr ptrs ih =>
    unfold Ice.checkPairs
    split
    · exact fatal _
    · rename_i b hb
      exact (checkConnection hb).trans (ih b)

theorem checkWaitingPairs (ptrs : List Nat) (a : IceAgent) (hfull : a.isLiteAgent = false) :
    Writes K a (checkWaitingPairs w ptrs a) := by
  induction ptrs generalizing a with
  | nil => exact refl a
  | cons ptr ptrs ih =>
    unfold Ice.checkWaitingPairs
    split
    · have hbusy : Writes K a (a.updatePair ptr fun p => { p with state := .IN_PROGRESS }) := by
        refine updatePair (fun _ => rfl) (fun _ hfailed => by cases hfailed) ?_
        intro hlite
        rw [hfull] at hlite
        cases hlite
      dsimp only
      split
      · exact hbusy.trans (fatal _)
      · rename_i b hb
        have hcheck : Writes K a b := hbusy.trans (checkConnection hb)
        exact hcheck.trans (ih b (hcheck.lite.trans hfull))
    · exact ih a hfull

theorem sendKeepAlives (ptrs : List Nat) (a : IceAgent) :
    Writes K a (sendKeepAlives w ptrs a) := by
  induction ptrs generalizing a with
  | nil => exact refl a
  | cons ptr ptrs ih =>
    unfold Ice.sendKeepAlives
    split
    · exact ih a
    · split
      · split
        · exact (sendStunPacket _ _ _ _).trans (ih _)
        · exact ih a
      · exact ih a

theorem srflxRequests (request : StunPacket) (cs : List IceCandidate)
    (previous : Option KvsIpAddress) (a : IceAgent) :
    Writes K a (srflxRequests w request cs previous a) := by
  induction cs generalizing request previous a with
  | nil => exact refl a
  | cons c cs ih =>
    unfold Ice.srflxRequests
    split
    · split
      · exact fatal _
      · refine trans (trans ?_ (sendStunPacket _ _ _ _)) (ih _ _ _)
        exact of_eq rfl rfl rfl rfl rfl rfl rfl
    · exact ih _ _ a

theorem sendSrflxRequests : Writes K a (iceAgentSendSrflxCandidateRequest w a) := by
  refine trans ?_ (srflxRequests _ _ _ _)
  exact of_eq rfl rfl rfl rfl rfl rfl rfl

/-! ## New candidates and pairs -/

theorem createPairsForRemote {r : IceCandidate} (hr : r ∈ a.remoteCandidates) :
    Writes K a (a.createPairsForRemote r) := by
  refine createPairsForRemote_induct (P := Writes K a) r ?_ (refl a)
  intro b l hb hlocals hremotes hl hpair _
  refine hb.trans (one (.createPair b l r ?_ (hremotes ▸ hr)))
  refine ⟨l, hlocals ▸ hl, rfl, rfl, ?_⟩
  rw [(PairInv.pairable_iff.mp hpair).1]
  exact fun hnew => nomatch hnew

theorem createPairsForLocal {l : IceCandidate}
    (hl : ∃ c ∈ a.localCandidates, c.ptr = l.ptr ∧ c.priority = l.priority ∧ c.state ≠ .NEW) :
    Writes K a (a.createPairsForLocal l) := by
  refine createPairsForLocal_induct (P := Writes K a) l ?_ (refl a)
  intro b r hb hlocals hremotes hr _ _
  exact hb.trans (one (.createPair b l r (hlocals ▸ hl) (hremotes ▸ hr)))

theorem addRemote (ipAddress : KvsIpAddress) (type : ICE_CANDIDATE_TYPE) (priority : UINT32) :
    Writes K a (a.addRemote ipAddress type priority) := by
  unfold IceAgent.addRemote
  split
  · split
    · exact refl a
    · refine trans (one (.insertRemote a _ rfl)) (createPairsForRemote ?_)
      exact List.mem_cons_self
  · exact refl a

theorem insertLocal {l : IceCandidate} (hptr : l.ptr = a.nextPtr) :
    Writes K a { a.insertLocal l with nextPtr := a.nextPtr + 2 } := by
  refine one (.insertLocals a [l] (a.nextPtr + 2) (Nat.le_add_right _ _) ?_
    (List.nodup_singleton _))
  intro c hc
  rw [List.mem_singleton.mp hc, hptr]
  omega

theorem initHostCandidate (ipAddress : KvsIpAddress) (isPointToPoint : Bool) :
    Writes K a (iceAgentInitHostCandidate a ipAddress isPointToPoint) := by
  unfold iceAgentInitHostCandidate
  split
  · exact refl a
  · refine trans (insertLocal ?_) (createPairsForLocal ?_)
    · rfl
    · exact ⟨_, List.mem_cons_self, rfl, rfl, fun hnew => nomatch hnew⟩

theorem initSrflxCandidate (port : Nat → UINT16) :
    Writes K a (iceAgentInitSrflxCandidate a port) := by
  refine List.foldlRecOn (motive := Writes K a) _ _ (refl a) ?_
  intro b hb host _
  obtain ⟨hnew, hunique⟩ := PairInv.srflxCandidates_spec port host b.nextPtr 0 b.iceServers
  refine hb.trans (one (.insertLocals b _ _ (Nat.le_add_right _ _) ?_ ?_))
  · exact fun c hc => (hnew c (List.mem_reverse.mp hc)).2
  · rw [List.map_reverse]
    exact List.nodup_reverse.mpr hunique

theorem initRelayCandidate (iceServerIndex : Nat) (unset : KvsIpAddress) :
    Writes K a (iceAgentInitRelayCandidate a iceServerIndex unset) := by
  unfold iceAgentInitRelayCandidate
  split
  · refine trans (insertLocal ?_) (of_eq rfl rfl rfl rfl rfl rfl rfl)
    rfl
  · exact refl a

/-! ## The gathering timer -/

theorem report (c : IceCandidate) (reports : Nat) : Writes K a (a.report c reports) := by
  unfold IceAgent.report
  split
  · exact updateLocal fun d _ _ => ⟨rfl, rfl, id, id⟩
  · exact refl a

theorem gatherCandidate (relayAddress : Nat → Option KvsIpAddress) (reports : Nat) (pending : Bool)
    {c : IceCandidate} (hunique : (a.localCandidates.map IceCandidate.ptr).Nodup)
    (hc : c ∈ a.localCandidates) :
    Writes K a (gatherCandidate relayAddress a reports pending c).1 := by
  rcases gatherCandidate_cases relayAddress a reports pending c rfl with
    ⟨heq, -⟩ | ⟨address, hnew, -, heq⟩ | ⟨hvalid, -, -, heq⟩ | ⟨-, -, -, heq⟩ <;> rw [heq]
  · exact refl a
  · -- the allocation of a relayed candidate succeeded
    refine trans (updateLocal ?_) (createPairsForLocal ?_)
    · intro d hd hptr
      obtain rfl : d = c := List.inj_on_of_nodup_map hunique hd hc hptr
      refine ⟨rfl, rfl, fun hinvalid => ?_, fun hstate => by cases hstate⟩
      rw [hnew] at hinvalid
      cases hinvalid
    · exact ⟨_, List.mem_map.mpr ⟨c, hc, if_pos rfl⟩, rfl, rfl, fun hstate => by cases hstate⟩
  · refine trans (report c reports) (createPairsForLocal ?_)
    have hne : c.state ≠ .NEW := by
      rw [hvalid]
      exact fun hstate => by cases hstate
    unfold IceAgent.report
    split
    · exact ⟨_, List.mem_map.mpr ⟨c, hc, if_pos rfl⟩, rfl, rfl, hne⟩
    · exact ⟨c, hc, rfl, rfl, hne⟩
  · exact report c reports

theorem gatherLoop (relayAddress : Nat → Option KvsIpAddress) (cs : List IceCandidate)
    (s : IceAgent × Nat × Bool) (hunique : (s.1.localCandidates.map IceCandidate.ptr).Nodup)
    (hdistinct : (cs.map IceCandidate.ptr).Nodup) (hcs : ∀ c ∈ cs, c ∈ s.1.localCandidates) :
    Writes K s.1 (gatherLoop relayAddress cs s).1 := by
  induction cs generalizing s with
  | nil => exact refl s.1
  | cons c cs ih =>
    obtain ⟨a, reports, pending⟩ := s
    obtain ⟨hnot, hdistinct⟩ := List.nodup_cons.mp hdistinct
    refine trans (gatherCandidate relayAddress reports pending hunique (hcs c List.mem_cons_self))
      (ih _ ?_ hdistinct ?_)
    · rw [localPtrs_gatherCandidate]
      exact hunique
    · intro d hd
      have hne : d.ptr ≠ c.ptr := fun heq => hnot (heq ▸ List.mem_map_of_mem hd)
      exact (PairInv.gatherCandidate_others relayAddress a reports pending c
        (hcs d (List.mem_cons_of_mem _ hd)) hne).1

theorem gather (relayAddress : Nat → Option KvsIpAddress)
    (hunique : (a.localCandidates.map IceCandidate.ptr).Nodup) :
    Writes K a (iceAgentGatherCandidateTimerCallback w a relayAddress) := by
  have hloop : Writes K a (Ice.gatherLoop relayAddress a.localCandidates (a, 0, false)).1 :=
    gatherLoop relayAddress a.localCandidates (a, 0, false) hunique hunique fun c hc => hc
  unfold iceAgentGatherCandidateTimerCallback
  dsimp only
  split
  · exact hloop.trans sendSrflxRequests
  · exact hloop

/-! ## Received packets -/

theorem setNominated (p : IceCandidatePair) (useCandidate : Bool) :
    Writes K a (setNominated a p useCandidate) := by
  unfold Ice.setNominated
  split
  · exact updatePair (fun _ => rfl) (fun _ => id) fun _ _ _ => ⟨id, fun _ => rfl⟩
  · exact refl a

theorem succeeded (ptr : Nat) :
    Writes K a (a.updatePair ptr fun p => { p with state := .SUCCEEDED }) :=
  updatePair (fun _ => rfl) (fun _ hfailed => by cases hfailed) fun _ _ _ => ⟨fun _ => rfl, id⟩

theorem checkArrived (p : IceCandidatePair) (useCandidate : Bool) :
    Writes K a (checkArrived a p useCandidate) := by
  unfold Ice.checkArrived
  dsimp only
  split
  · exact (setNominated p useCandidate).trans (succeeded p.ptr)
  · split
    · exact (setNominated p useCandidate).trans (of_eq rfl rfl rfl rfl rfl rfl rfl)
    · exact setNominated p useCandidate

theorem handleBindingRequest (q : ParsedPacket) (socket : Nat) (src : KvsIpAddress) :
    Writes K a (handleBindingRequest w a q socket src) := by
  unfold Ice.handleBindingRequest
  split
  · split
    · exact sendStunPacket _ _ _ _
    · exact refl a
  · split
    · exact refl a
    · have hadd : Writes K a (checkRemotePeerReflexive a src (priorityOf q)) := addRemote _ _ _
      dsimp only
      split
      · exact hadd
      · split
        · exact hadd.trans (sendStunPacket _ _ _ _)
        · exact (hadd.trans (sendStunPacket _ _ _ _)).trans (checkArrived _ _)

theorem handleSrflxResponse (buf : Bytes) (socket : Nat) :
    Writes K a (handleSrflxResponse w a buf socket) := by
  unfold Ice.handleSrflxResponse
  split
  · split
    · exact refl a
    · split
      · exact refl a
      · refine trans (updateLocal ?_) (of_eq rfl rfl rfl rfl rfl rfl rfl)
        intro c _ _
        unfold updateCandidateAddress
        split
        case isTrue h =>
          refine ⟨rfl, rfl, fun hinvalid => ?_, fun hnew => nomatch hnew⟩
          rw [h.2] at hinvalid
          cases hinvalid
        case isFalse => exact Ages.refl c
  · exact refl a

theorem checkLocalPeerReflexive (ipAddress : KvsIpAddress) (socket : Nat) :
    Writes K a (checkLocalPeerReflexive a ipAddress socket) := by
  unfold Ice.checkLocalPeerReflexive
  split
  · exact refl a
  · split
    · exact refl a
    · exact updateLocal fun c _ _ => ⟨rfl, rfl, id, id⟩

theorem handleCheckResponse (buf : Bytes) (socket : Nat) (src : KvsIpAddress) :
    Writes K a (handleCheckResponse w a buf socket src) := by
  unfold Ice.handleCheckResponse
  split
  · exact refl a
  · split
    · split
      · exact refl a
      · split
        · exact refl a
        · refine trans ?_ (succeeded _)
          split
          · exact checkLocalPeerReflexive _ _
          · exact refl a
    · exact refl a

theorem handleStunPacket (buf : Bytes) (socket : Nat) (src : KvsIpAddress) :
    Writes K a (handleStunPacket w a buf socket src) := by
  unfold Ice.handleStunPacket
  dsimp only
  split
  · split
    · exact refl a
    · exact handleBindingRequest _ _ _
  · split
    · split
      · exact handleSrflxResponse _ _
      · exact handleCheckResponse _ _ _
    · exact refl a

/-! ## The state machine -/

theorem renewBindingRequest (nomination : Bool) :
    Writes K a (renewBindingRequest w a nomination).1 := by
  unfold Ice.renewBindingRequest
  split <;> exact of_eq rfl rfl rfl rfl rfl rfl rfl

theorem checkConnectionSetup (time : Nat)
    (hK : K → ∀ p ∈ a.iceCandidatePairs, p.state ≠ .SUCCEEDED) :
    Writes K a (iceAgentCheckConnectionStateSetup w a time).1 := by
  have hwait : Writes K a (a.setPairStates fun _ => .WAITING) :=
    setPairStates (fun _ hfailed => by cases hfailed) fun hk p hp hsucceeded =>
      absurd hsucceeded (hK hk p hp)
  have hrequest : Writes K a (if (a.setPairStates fun _ => .WAITING).isLiteAgent then
      (a.setPairStates fun _ => .WAITING, none)
      else Ice.renewBindingRequest w (a.setPairStates fun _ => .WAITING) false).1 := by
    split
    · exact hwait
    · exact hwait.trans (renewBindingRequest false)
  unfold iceAgentCheckConnectionStateSetup
  dsimp only
  split <;> rename_i heq <;> rw [heq] at hrequest
  · exact hrequest
  · exact hrequest.trans (of_eq rfl rfl rfl rfl rfl rfl rfl)

theorem nominateCandidatePair (hK : K → a.nominatesAll) :
    Writes K a (iceAgentNominateCandidatePair a).1 := by
  unfold iceAgentNominateCandidatePair
  split
  · exact refl a
  · split
    · exact refl a
    · rename_i p hfound
      have hchosen : Writes K a (a.updatePair p.ptr fun p => { p with
          nominated := true
          pTransactionIdStore := transactionIdStoreClear p.pTransactionIdStore }) :=
        updatePair (fun _ => rfl) (fun _ => id) fun _ _ _ => ⟨id, fun _ => rfl⟩
      have hfrozen : ∀ q : IceCandidatePair,
          (if q.nominated then q.state else .FROZEN) = .FAILED → q.state = .FAILED := by
        intro q
        split
        · exact id
        · exact fun hfailed => nomatch hfailed
      refine hchosen.trans (setPairStates hfrozen ?_)
      intro hk q hq hsucceeded
      obtain ⟨x, hx, rfl⟩ := List.mem_map.mp hq
      split at hsucceeded
      case isTrue hptr =>
        rw [if_pos hptr]
        exact hsucceeded
      case isFalse hptr =>
        rw [if_neg hptr]
        rcases hK hk x hx hsucceeded with hnominated | hfirst
        · rw [if_pos hnominated]
          exact hsucceeded
        · exact absurd (hfirst p hfound) hptr

theorem nominate (hK : K → a.nominatesAll) : Writes K a (nominate w a).1 := by
  have hnominate := nominateCandidatePair hK
  unfold Ice.nominate
  split <;> rename_i heq <;> rw [heq] at hnominate
  · exact hnominate
  · exact hnominate.trans (renewBindingRequest true)

theorem nominatingSetup (time : Nat) (hK : K → a.isControlling = true → a.nominatesAll) :
    Writes K a (iceAgentNominatingStateSetup w a time).1 := by
  have hnominate : Writes K a (if a.isControlling then Ice.nominate w a else (a, none)).1 := by
    split
    case isTrue hcontrolling => exact nominate fun hk => hK hk hcontrolling
    case isFalse => exact refl a
  unfold iceAgentNominatingStateSetup
  split <;> rename_i heq <;> rw [heq] at hnominate
  · exact hnominate
  · exact hnominate.trans (of_eq rfl rfl rfl rfl rfl rfl rfl)

theorem keepSelected (selected : Nat) : Writes K a (a.keepSelected selected) := by
  refine trans (trans (one (.candidates a _ ?_)) (one (.failPairs _))) (one (.freePairs _ _ ?_))
  · intro c _
    split
    · exact Ages.refl c
    · exact ⟨rfl, rfl, fun _ => rfl, fun hnew => nomatch hnew⟩
  · intro p _ hfreed
    simpa using hfreed

theorem readySetup : Writes K a (iceAgentReadyStateSetup a).1 := by
  unfold iceAgentReadyStateSetup
  split
  · exact refl a
  · refine trans ?_ (keepSelected _)
    exact of_eq rfl rfl rfl rfl rfl rfl rfl

theorem executeReady (shutdown : Nat → Bool) :
    Writes K a (executeReadyIceAgentState a shutdown) := by
  have hfree : ∀ b : IceAgent, Writes K b (b.freeShutdown shutdown) := fun b =>
    one (.freeLocals b _)
  refine enter_cases (fun _ => hfree a) (fun _ e _ => readySetup.trans (fatal e)) fun _ _ => ?_
  refine trans (readySetup.trans ?_) (hfree _)
  exact of_eq rfl rfl rfl rfl rfl rfl rfl

theorem machine (K : Prop) (w : Host) (a : IceAgent) : MachineKeeps w (Writes K a) where
  flags _ _ _ _ h := h.trans (of_eq rfl rfl rfl rfl rfl rfl rfl)
  machine _ hne h := h.trans (one (.machine _ hne))
  connected h := h.trans (of_eq rfl rfl rfl rfl rfl rfl rfl)
  popped _ h := h.trans (of_eq rfl rfl rfl rfl rfl rfl rfl)
  checkPairs _ h := h.trans (checkPairs _ _)
  checkWaitingPairs _ hfull h := h.trans (checkWaitingPairs _ _ hfull)

theorem setsUp {time : Nat} {shutdown : Nat → Bool} (hK : K → Quiet b (getNextState b time).2) :
    SetsUp w (Writes K a) time shutdown b where
  checkConnection := by
    rintro hnext hne c ⟨status, detected, grace, current, rfl⟩ hc
    rw [hnext] at hK
    exact hc.trans (checkConnectionSetup time fun hk => hK hk hne)
  nominating := by
    rintro hnext hne c ⟨status, detected, grace, current, rfl⟩ hc
    rw [hnext] at hK
    exact hc.trans (nominatingSetup time fun hk => hK hk hne)
  ready _ _ _ hc := hc.trans (executeReady shutdown)

theorem stepStateMachine {time : Nat} {shutdown : Nat → Bool}
    (hK : K → Quiet a (getNextState a time).2) :
    Writes K a (stepStateMachine w time shutdown a) :=
  (machine K w a).stepStateMachine (refl a) (setsUp hK)

theorem stepStateMachine_ne_new (w : Host) (a : IceAgent) (time : Nat) (shutdown : Nat → Bool) :
    (Ice.stepStateMachine w time shutdown a).currentState ≠ .NEW := by
  by_cases hnew : a.currentState = .NEW
  · have hstep : Ice.stepStateMachine w time shutdown a =
        Ice.executeState w time shutdown (executeDisconnectedIceAgentState w time shutdown)
          .CHECK_CONNECTION { a with currentState := .CHECK_CONNECTION } := by
      simp [Ice.stepStateMachine, Ice.stepWith, getNextState, hnew, acceptStates]
    have hwrites : Writes False { a with currentState := .CHECK_CONNECTION }
        (Ice.stepStateMachine w time shutdown a) := by
      rw [hstep]
      exact (machine False w _).executeCheckConnection (refl _)
        fun _ => checkConnectionSetup time fun hk => hk.elim
    exact hwrites.not_new fun hstate => by cases hstate
  · have hwrites : Writes False a (Ice.stepStateMachine w time shutdown a) :=
      stepStateMachine fun hk => hk.elim
    exact hwrites.not_new hnew

theorem next_of_status {e : STATUS} {time : Nat} (hstatus : a.iceAgentStatus = some e)
    (hne : a.currentState ≠ .NEW) : (getNextState a time).2 = .FAILED := by
  rcases getNextState_of_status time hstatus with hfailed | hcheck
  · exact hfailed
  · rcases getNextState_follows a time with hfailed | ⟨hnew, -⟩ | ⟨hnone, -⟩
    · exact hfailed
    · exact absurd hnew hne
    · rw [hstatus] at hnone
      cases hnone

/-- **A round of the state machine.**  The second step leads to `FAILED`. -/
theorem stepIceAgentStateMachine {time : Nat} {shutdown : Nat → Bool}
    (hK : K → Quiet a (getNextState a time).2) :
    Writes K a (stepIceAgentStateMachine w time shutdown a) := by
  refine (machine K w a).stepIceAgentStateMachine (refl a) (setsUp hK) fun e he => setsUp fun _ => ?_
  rw [next_of_status he (stepStateMachine_ne_new w a time shutdown)]
  trivial

/-! ## Events -/

/-- **Every event but the start** is a sequence of writes. -/
theorem step {e : Event} (hunique : (a.localCandidates.map IceCandidate.ptr).Nodup)
    (he : ¬ e.Starts) (hK : K → QuietStep a e) : Writes K a (step w a e) := by
  cases e with
  | startAgent => exact absurd trivial he
  | addRemoteCandidate ipAddress type priority => exact addRemote _ _ _
  | initHostCandidate ipAddress isPointToPoint => exact initHostCandidate _ _
  | initSrflxCandidates port => exact initSrflxCandidate port
  | initRelayCandidate iceServerIndex unset => exact initRelayCandidate _ _
  | gather relayAddress => exact gather relayAddress hunique
  | turnFailed ptr =>
    refine updateLocal ?_
    intro c _ _
    split
    case isTrue hnew =>
      exact ⟨rfl, rfl, fun _ => rfl, fun hstate => by cases hstate⟩
    case isFalse => exact Ages.refl c
  | receive buf socket src time =>
    have htime : Writes K a { a with lastDataReceivedTime := some time } :=
      of_eq rfl rfl rfl rfl rfl rfl rfl
    unfold Ice.step incomingDataHandler
    dsimp only
    split
    · exact htime.trans (handleStunPacket _ _ _)
    · exact htime
  | stateTimer time shutdown =>
    unfold Ice.step
    dsimp only
    split
    case isTrue hstarted => exact stepIceAgentStateMachine fun hk => hK hk hstarted
    case isFalse => exact refl a
  | keepAlive => exact sendKeepAlives _ _

end Writes

/-! ## Local candidates in memory -/

/-- An address in memory stands for one local candidate. -/
structure Distinct (a : IceAgent) : Prop where
  unique : (a.localCandidates.map IceCandidate.ptr).Nodup
  fresh : ∀ c ∈ a.localCandidates, c.ptr < a.nextPtr

theorem Distinct.local_eq {a : IceAgent} (h : Distinct a) {c d : IceCandidate}
    (hc : c ∈ a.localCandidates) (hd : d ∈ a.localCandidates) (hptr : c.ptr = d.ptr) : c = d :=
  List.inj_on_of_nodup_map h.unique hc hd hptr

/-- **Every write** keeps the addresses apart. -/
theorem Distinct.write {K : Prop} {a b : IceAgent} (h : Distinct a) (hw : Write K a b) :
    Distinct b := by
  cases hw with
  | other hsame => exact ⟨hsame.locals ▸ h.unique, hsame.locals ▸ hsame.next ▸ h.fresh⟩
  | candidates f hf =>
    refine ⟨?_, ?_⟩
    · rw [List.map_map]
      exact (List.map_congr_left fun c hc => (hf c hc).ptr) ▸ h.unique
    · intro d hd
      obtain ⟨c, hc, rfl⟩ := List.mem_map.mp hd
      exact (hf c hc).ptr ▸ h.fresh c hc
  | createPair => exact ⟨h.unique, fun c hc => Nat.lt_succ_of_lt (h.fresh c hc)⟩
  | insertRemote => exact ⟨h.unique, fun c hc => Nat.lt_succ_of_lt (h.fresh c hc)⟩
  | insertLocals cs n hn hcs hunique =>
    refine ⟨?_, ?_⟩
    · rw [List.map_append, List.nodup_append]
      refine ⟨hunique, h.unique, ?_⟩
      intro x hx y hy heq
      obtain ⟨c, hc, rfl⟩ := List.mem_map.mp hx
      obtain ⟨l, hl, rfl⟩ := List.mem_map.mp hy
      have := (hcs c hc).1
      have := h.fresh l hl
      omega
    · intro c hc
      rcases List.mem_append.mp hc with hc | hc
      · exact (hcs c hc).2
      · exact Nat.lt_of_lt_of_le (h.fresh c hc) hn
  | freeLocals keep =>
    exact ⟨h.unique.sublist (List.filter_sublist.map _),
      fun c hc => h.fresh c (List.mem_of_mem_filter hc)⟩
  | machine | pairs | failPairs | freePairs => exact ⟨h.unique, h.fresh⟩

theorem distinct_createIceAgent (username password : Bytes) (isLiteAgent : Bool)
    (tieBreaker : UINT64) (iceServers : List IceServer) (timeouts : IceTimeouts) :
    Distinct (createIceAgent username password isLiteAgent tieBreaker iceServers timeouts) :=
  ⟨List.nodup_nil, fun _ hc => nomatch hc⟩

end KvsWebrtc.Ice
