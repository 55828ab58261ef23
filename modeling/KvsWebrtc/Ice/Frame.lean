import KvsWebrtc.Ice.StateMachine
import Mathlib.Data.List.Forall2
import Mathlib.Data.List.Basic

/-!
# The ICE agent: what most operations leave in place

Sending a packet, checking a pair, setting a state up: all these write into candidates and pairs,
but neither create nor free one.  `Unmoved` is what they have in common.  The rules for
`createIceCandidatePairs` say what has to hold of one new pair for a property to hold after all of
them.

Principal results:

* `Unmoved.checkPairs`, `Unmoved.checkWaitingPairs` — the loops of connectivity checks.
* `createPairsForRemote_induct`, `createPairsForLocal_induct` — the rules for new pairs.
-/

namespace KvsWebrtc.Ice

open Stun

/-- What is fixed when a pair is created. -/
def IceCandidatePair.link (p : IceCandidatePair) : Nat × Nat × Nat × UINT64 :=
  (p.ptr, p.localPtr, p.remotePtr, p.priority)

def IceAgent.links (a : IceAgent) : List (Nat × Nat × Nat × UINT64) :=
  a.iceCandidatePairs.map IceCandidatePair.link

/-- The candidate is the same, or became invalid. -/
def Fades (c d : IceCandidate) : Prop :=
  d = c ∨ d = { c with state := .INVALID }

/-- `b` has the candidates and the pairs of `a`. -/
structure SameLists (a b : IceAgent) : Prop where
  locals : List.Forall₂ Fades a.localCandidates b.localCandidates
  remotes : b.remoteCandidates = a.remoteCandidates
  pairs : b.links = a.links
  next : b.nextPtr = a.nextPtr

/-- `b` has the candidates, pairs and references of `a`. -/
structure Unmoved (a b : IceAgent) : Prop extends SameLists a b where
  queue : b.triggeredCheckQueue = a.triggeredCheckQueue
  selected : b.pDataSendingIceCandidatePair = a.pDataSendingIceCandidatePair

theorem Fades.trans {c d e : IceCandidate} (h : Fades c d) (h' : Fades d e) : Fades c e := by
  rcases h with rfl | rfl
  · exact h'
  · rcases h' with rfl | rfl
    · exact Or.inr rfl
    · exact Or.inr rfl

theorem Fades.ptr_eq {c d : IceCandidate} (h : Fades c d) : d.ptr = c.ptr := by
  rcases h with rfl | rfl <;> rfl

theorem fades_refl (cs : List IceCandidate) : List.Forall₂ Fades cs cs :=
  List.forall₂_same.mpr fun _ _ => Or.inl rfl

theorem forall₂_map_self {α : Type} {R : α → α → Prop} {f : α → α} {xs : List α}
    (h : ∀ x ∈ xs, R x (f x)) : List.Forall₂ R xs (xs.map f) := by
  rw [List.forall₂_map_right_iff]
  exact List.forall₂_same.mpr h

namespace SameLists

variable {a b c : IceAgent}

theorem refl (a : IceAgent) : SameLists a a :=
  ⟨fades_refl _, rfl, rfl, rfl⟩

theorem trans (h : SameLists a b) (h' : SameLists b c) : SameLists a c where
  locals := by
    have htrans : Relation.Comp Fades Fades ≤ Fades := by
      rintro x z ⟨y, hxy, hyz⟩
      exact hxy.trans hyz
    have hlen := h.locals.length_eq
    have hlen' := h'.locals.length_eq
    rw [List.forall₂_iff_get]
    refine ⟨hlen.trans hlen', ?_⟩
    intro i hi hi'
    have hib : i < b.localCandidates.length := by omega
    exact htrans _ _ ⟨_, h.locals.get hi hib, h'.locals.get hib hi'⟩
  remotes := h'.remotes.trans h.remotes
  pairs := h'.pairs.trans h.pairs
  next := h'.next.trans h.next

theorem of_eq (hl : b.localCandidates = a.localCandidates)
    (hr : b.remoteCandidates = a.remoteCandidates)
    (hp : b.iceCandidatePairs = a.iceCandidatePairs)
    (hn : b.nextPtr = a.nextPtr) : SameLists a b where
  locals := by rw [hl]; exact fades_refl _
  remotes := hr
  pairs := by rw [IceAgent.links, hp]; rfl
  next := hn

theorem localPtrs (h : SameLists a b) :
    b.localCandidates.map IceCandidate.ptr = a.localCandidates.map IceCandidate.ptr := by
  refine List.ext_getElem (by simp [h.locals.length_eq]) ?_
  intro i hi hi'
  simp only [List.getElem_map]
  rw [List.length_map] at hi hi'
  exact (h.locals.get hi' hi).ptr_eq

theorem pairPtrs (h : SameLists a b) :
    b.iceCandidatePairs.map IceCandidatePair.ptr =
      a.iceCandidatePairs.map IceCandidatePair.ptr := by
  have hmap := congrArg (List.map Prod.fst) h.pairs
  rw [IceAgent.links, IceAgent.links, List.map_map, List.map_map] at hmap
  exact hmap

end SameLists

namespace Unmoved

variable {a b c : IceAgent}

theorem refl (a : IceAgent) : Unmoved a a :=
  ⟨SameLists.refl a, rfl, rfl⟩

theorem trans (h : Unmoved a b) (h' : Unmoved b c) : Unmoved a c :=
  ⟨h.toSameLists.trans h'.toSameLists, h'.queue.trans h.queue, h'.selected.trans h.selected⟩

theorem of_eq (hl : b.localCandidates = a.localCandidates)
    (hr : b.remoteCandidates = a.remoteCandidates)
    (hp : b.iceCandidatePairs = a.iceCandidatePairs)
    (hq : b.triggeredCheckQueue = a.triggeredCheckQueue)
    (hs : b.pDataSendingIceCandidatePair = a.pDataSendingIceCandidatePair)
    (hn : b.nextPtr = a.nextPtr) : Unmoved a b :=
  ⟨SameLists.of_eq hl hr hp hn, hq, hs⟩

/-! ## Writes -/

theorem updateLocal {ptr : Nat} {f : IceCandidate → IceCandidate}
    (hf : ∀ c ∈ a.localCandidates, c.ptr = ptr → Fades c (f c)) :
    Unmoved a (a.updateLocal ptr f) where
  locals := by
    refine forall₂_map_self ?_
    intro c hc
    by_cases hptr : c.ptr = ptr
    · rw [if_pos hptr]
      exact hf c hc hptr
    · rw [if_neg hptr]
      exact Or.inl rfl
  remotes := rfl
  pairs := rfl
  queue := rfl
  selected := rfl
  next := rfl

theorem mapPairs {f : IceCandidatePair → IceCandidatePair} (hf : ∀ p, (f p).link = p.link) :
    Unmoved a { a with iceCandidatePairs := a.iceCandidatePairs.map f } where
  locals := fades_refl _
  remotes := rfl
  pairs := by
    rw [IceAgent.links, IceAgent.links, List.map_map]
    exact List.map_congr_left fun p _ => hf p
  queue := rfl
  selected := rfl
  next := rfl

theorem updatePair {ptr : Nat} {f : IceCandidatePair → IceCandidatePair}
    (hf : ∀ p, (f p).link = p.link) : Unmoved a (a.updatePair ptr f) := by
  refine mapPairs ?_
  intro p
  split
  · exact hf p
  · rfl

theorem setPairStates (f : IceCandidatePair → ICE_CANDIDATE_PAIR_STATE) :
    Unmoved a (a.setPairStates f) :=
  mapPairs fun _ => rfl

theorem invalidate : Unmoved a (iceAgentInvalidateCandidatePair a) := by
  refine mapPairs ?_
  intro p
  split <;> rfl

theorem fatal (e : STATUS) : Unmoved a (iceAgentFatalError a e) :=
  of_eq rfl rfl rfl rfl rfl rfl

/-! ## Sending -/

variable {w : Host}

theorem sendStunPacket (p : StunPacket) (password : Option Bytes) (l : IceCandidate)
    (dest : KvsIpAddress) : Unmoved a (iceAgentSendStunPacket w a p password l dest) := by
  unfold iceAgentSendStunPacket
  split
  · exact refl a
  · split
    · refine trans ?_ invalidate
      have hsends : Unmoved a { a with sends := a.sends + 1 } := of_eq rfl rfl rfl rfl rfl rfl
      exact hsends.trans (updateLocal fun _ _ _ => Or.inr rfl)
    · exact of_eq rfl rfl rfl rfl rfl rfl

theorem checkConnection {ptr : Nat} (h : iceCandidatePairCheckConnection w a ptr = some b) :
    Unmoved a b := by
  unfold iceCandidatePairCheckConnection at h
  split at h
  · split at h
    · split at h
      · simp only [Option.some.injEq] at h
        subst h
        refine trans ?_ (sendStunPacket _ _ _ _)
        refine trans ?_ (updatePair fun _ => rfl)
        exact of_eq rfl rfl rfl rfl rfl rfl
      · cases h
    · cases h
  · cases h

theorem checkPairs (ptrs : List Nat) (a : IceAgent) : Unmoved a (checkPairs w ptrs a) := by
  induction ptrs generalizing a with
  | nil => exact refl a
  | cons ptr ptrs ih =>
    unfold Ice.checkPairs
    split
    · exact fatal _
    · rename_i b hb
      exact (checkConnection hb).trans (ih b)

theorem checkWaitingPairs (ptrs : List Nat) (a : IceAgent) :
    Unmoved a (checkWaitingPairs w ptrs a) := by
  induction ptrs generalizing a with
  | nil => exact refl a
  | cons ptr ptrs ih =>
    unfold Ice.checkWaitingPairs
    split
    · have hbusy : Unmoved a (a.updatePair ptr fun p => { p with state := .IN_PROGRESS }) :=
        updatePair fun _ => rfl
      dsimp only
      split
      · exact hbusy.trans (fatal _)
      · rename_i b hb
        exact (hbusy.trans (checkConnection hb)).trans (ih b)
    · exact ih a

theorem sendKeepAlives (ptrs : List Nat) (a : IceAgent) : Unmoved a (sendKeepAlives w ptrs a) := by
  induction ptrs generalizing a with
  | nil => exact refl a
  | cons ptr ptrs ih =>
    unfold Ice.sendKeepAlives
    split
    · exact ih a
    · split
      · split
        · exact (sendStunPacket _ _ _ _).trans (ih _)
        · exact ih a
      · exact ih a

theorem srflxRequests (request : StunPacket) (cs : List IceCandidate)
    (previous : Option KvsIpAddress) (a : IceAgent) :
    Unmoved a (srflxRequests w request cs previous a) := by
  induction cs generalizing request previous a with
  | nil => exact refl a
  | cons c cs ih =>
    unfold Ice.srflxRequests
    split
    · split
      · exact fatal _
      · refine trans ?_ (ih _ _ _)
        refine trans ?_ (sendStunPacket _ _ _ _)
        exact of_eq rfl rfl rfl rfl rfl rfl
    · exact ih _ _ a

theorem sendSrflxRequests : Unmoved a (iceAgentSendSrflxCandidateRequest w a) := by
  refine trans ?_ (srflxRequests _ _ _ _)
  exact of_eq rfl rfl rfl rfl rfl rfl

/-! ## States -/

theorem setNominated (p : IceCandidatePair) (useCandidate : Bool) :
    Unmoved a (setNominated a p useCandidate) := by
  unfold Ice.setNominated
  split
  · exact updatePair fun _ => rfl
  · exact refl a

theorem renewBindingRequest (nomination : Bool) :
    Unmoved a (renewBindingRequest w a nomination).1 := by
  unfold Ice.renewBindingRequest
  split <;> exact of_eq rfl rfl rfl rfl rfl rfl

theorem checkConnectionSetup (time : Nat) :
    Unmoved a (iceAgentCheckConnectionStateSetup w a time).1 := by
  have hrequest : Unmoved a (if (a.setPairStates fun _ => .WAITING).isLiteAgent then
      (a.setPairStates fun _ => .WAITING, none)
      else Ice.renewBindingRequest w (a.setPairStates fun _ => .WAITING) false).1 := by
    split
    · exact setPairStates _
    · exact (setPairStates _).trans (renewBindingRequest false)
  unfold iceAgentCheckConnectionStateSetup
  dsimp only
  split <;> rename_i heq <;> rw [heq] at hrequest
  · exact hrequest
  · exact hrequest.trans (of_eq rfl rfl rfl rfl rfl rfl)

theorem nominateCandidatePair : Unmoved a (iceAgentNominateCandidatePair a).1 := by
  unfold iceAgentNominateCandidatePair
  split
  · exact refl a
  · split
    · exact refl a
    · refine trans ?_ (setPairStates _)
      exact updatePair fun _ => rfl

theorem nominate : Unmoved a (nominate w a).1 := by
  have hnominate := nominateCandidatePair (a := a)
  unfold Ice.nominate
  split <;> rename_i heq <;> rw [heq] at hnominate
  · exact hnominate
  · exact hnominate.trans (renewBindingRequest true)

theorem nominatingSetup (time : Nat) : Unmoved a (iceAgentNominatingStateSetup w a time).1 := by
  have hnominate : Unmoved a (if a.isControlling then Ice.nominate w a else (a, none)).1 := by
    split
    · exact nominate
    · exact refl a
  unfold iceAgentNominatingStateSetup
  split <;> rename_i heq <;> rw [heq] at hnominate
  · exact hnominate
  · exact hnominate.trans (of_eq rfl rfl rfl rfl rfl rfl)

end Unmoved

/-- Naming the next state changes nothing but the status and the mark of a disconnection. -/
theorem getNextState_eq (a : IceAgent) (time : Nat) : ∃ status detected,
    (getNextState a time).1 =
      { a with iceAgentStatus := status, detectedDisconnection := detected } := by
  have hunless : ∀ (b : IceAgent) next, ∃ status,
      (unlessFailed b next).1 = { b with iceAgentStatus := status } := by
    intro b next
    unfold unlessFailed
    split
    · exact ⟨_, rfl⟩
    · exact ⟨_, rfl⟩
    · exact ⟨_, rfl⟩
  have hcheck : ∃ detected, (iceAgentStateMachineCheckDisconnection a time).1 =
      { a with detectedDisconnection := detected } := by
    unfold iceAgentStateMachineCheckDisconnection
    split
    · exact ⟨_, rfl⟩
    · split
      · split
        · exact ⟨_, rfl⟩
        · split <;> exact ⟨_, rfl⟩
      · exact ⟨_, rfl⟩
  have hnext : ∀ next, ∃ status detected, (unlessFailed a next).1 =
      { a with iceAgentStatus := status, detectedDisconnection := detected } := by
    intro next
    obtain ⟨status, heq⟩ := hunless a next
    exact ⟨status, _, heq⟩
  unfold getNextState
  split
  · exact ⟨_, _, rfl⟩
  · exact hnext _
  · exact hnext _
  · exact hnext _
  · unfold fromReadyIceAgentState
    split
    · exact ⟨_, _, rfl⟩
    · obtain ⟨detected, hdetected⟩ := hcheck
      obtain ⟨status, hstatus⟩ := hunless (iceAgentStateMachineCheckDisconnection a time).1
        (iceAgentStateMachineCheckDisconnection a time).2
      refine ⟨status, detected, ?_⟩
      rw [hstatus, hdetected]
  · exact hnext _
  · exact ⟨_, _, rfl⟩

theorem getNextState_of_status {a : IceAgent} {e : STATUS} (time : Nat)
    (he : a.iceAgentStatus = some e) :
    (getNextState a time).2 = .FAILED ∨ (getNextState a time).2 = .CHECK_CONNECTION := by
  have hunless : ∀ next, (unlessFailed a next).2 = .FAILED := by
    intro next
    unfold unlessFailed
    rw [he]
  unfold getNextState
  split
  · exact Or.inr rfl
  · exact Or.inl (hunless _)
  · exact Or.inl (hunless _)
  · exact Or.inl (hunless _)
  · left
    unfold fromReadyIceAgentState
    rw [he]
  · exact Or.inl (hunless _)
  · exact Or.inl rfl

theorem getNextState_of_disconnected {a : IceAgent} (time : Nat)
    (h : a.currentState = .DISCONNECTED) :
    (getNextState a time).2 = .FAILED ∨ (getNextState a time).2 = a.iceAgentState := by
  simp only [getNextState, h, fromDisconnectedIceAgentState, unlessFailed]
  cases a.iceAgentStatus with
  | some e => exact Or.inl rfl
  | none => exact Or.inr rfl

theorem getNextState_back {a : IceAgent} {time : Nat} {state : ICE_AGENT_STATE}
    (h : a.currentState = .DISCONNECTED) (hne : state ≠ .FAILED)
    (hnext : (getNextState a time).2 = state) : a.iceAgentState = state := by
  rcases getNextState_of_disconnected time h with hfailed | hback
  · exact absurd (hnext.symm.trans hfailed) hne
  · exact hback.symm.trans hnext

/-! ## The state machine -/

/-- The step executes `READY`, from `DISCONNECTED` perhaps. -/
def executesReady (a : IceAgent) (time : Nat) : Prop :=
  (getNextState a time).2 = .READY ∨
    ((getNextState a time).2 = .DISCONNECTED ∧ a.iceAgentState = .READY)

instance (a : IceAgent) (time : Nat) : Decidable (executesReady a time) :=
  inferInstanceAs (Decidable (_ ∨ _ ∧ _))

theorem not_executesReady_of_status {a : IceAgent} {e : STATUS} (time : Nat)
    (he : a.iceAgentStatus = some e) : ¬ executesReady a time := by
  intro hready
  rcases getNextState_of_status time he with hnext | hnext
  · rcases hready with hready | ⟨hready, -⟩ <;> rw [hnext] at hready <;> cases hready
  · rcases hready with hready | ⟨hready, -⟩ <;> rw [hnext] at hready <;> cases hready

/-- The rule for `enter`: the state was entered before, its setup fails, or it is entered now. -/
theorem enter_cases {P : IceAgent → Prop} {a : IceAgent} {state : ICE_AGENT_STATE}
    {setup : IceAgent × Option STATUS} {body : IceAgent → IceAgent}
    (hbefore : a.iceAgentState = state → P (body a))
    (hfails : a.iceAgentState ≠ state → ∀ e, setup.2 = some e → P (iceAgentFatalError setup.1 e))
    (henters : a.iceAgentState ≠ state → setup.2 = none →
      P (body { setup.1 with iceAgentState := state })) :
    P (a.enter state setup body) := by
  unfold IceAgent.enter
  split
  · rename_i hstate
    exact hbefore hstate
  · rename_i hstate
    obtain ⟨c, status⟩ := setup
    cases status with
    | none => exact henters hstate rfl
    | some e => exact hfails hstate e rfl

theorem next_ne_new {a : IceAgent} {time : Nat}
    (haccept : a.currentState ∈ acceptStates (getNextState a time).2) :
    (getNextState a time).2 ≠ .NEW := by
  intro hnew
  rw [hnew] at haccept
  have hcurrent : a.currentState = .NEW := List.mem_singleton.mp haccept
  simp [getNextState, hcurrent] at hnew

/-- The agent as the machine hands it to a state. -/
def IceAgent.Named (a b : IceAgent) : Prop :=
  ∃ status detected grace current, b = { a with
    iceAgentStatus := status
    detectedDisconnection := detected
    disconnectionGracePeriodEndTime := grace
    currentState := current }

/-- What `P` has to outlive for the state machine to keep it, the setups and `READY` apart. -/
structure MachineKeeps (w : Host) (P : IceAgent → Prop) : Prop where
  flags : ∀ {a : IceAgent} (status : Option STATUS) (detected : Bool) (grace : Nat)
    (state : ICE_AGENT_STATE), P a → P { a with
      iceAgentStatus := status
      detectedDisconnection := detected
      disconnectionGracePeriodEndTime := grace
      iceAgentState := state }
  machine : ∀ {a : IceAgent} (state : ICE_AGENT_STATE), state ≠ .NEW → P a →
    P { a with currentState := state }
  connected : ∀ {a : IceAgent}, P a → P (iceAgentConnectedStateSetup a)
  popped : ∀ {a : IceAgent} {queue : List Nat}, (∀ x ∈ queue, x ∈ a.triggeredCheckQueue) → P a →
    P { a with triggeredCheckQueue := queue }
  checkPairs : ∀ {a : IceAgent} (ptrs : List Nat), P a → P (checkPairs w ptrs a)
  checkWaitingPairs : ∀ {a : IceAgent} (ptrs : List Nat), a.isLiteAgent = false → P a →
    P (checkWaitingPairs w ptrs a)

/-- `P` outlives the setups that a step of the machine makes, and `READY` if it is executed. -/
structure SetsUp (w : Host) (P : IceAgent → Prop) (time : Nat) (shutdown : Nat → Bool)
    (a : IceAgent) : Prop where
  checkConnection : (getNextState a time).2 = .CHECK_CONNECTION →
    a.iceAgentState ≠ .CHECK_CONNECTION → ∀ b, a.Named b → P b →
      P (iceAgentCheckConnectionStateSetup w b time).1
  nominating : (getNextState a time).2 = .NOMINATING → a.iceAgentState ≠ .NOMINATING →
    ∀ b, a.Named b → P b → P (iceAgentNominatingStateSetup w b time).1
  ready : executesReady a time → ∀ b, a.Named b → P b → P (executeReadyIceAgentState b shutdown)

namespace MachineKeeps

variable {w : Host} {P : IceAgent → Prop} {a : IceAgent} {time : Nat} {shutdown : Nat → Bool}

theorem checkCandidatePairConnection (hk : MachineKeeps w P) (hfull : a.isLiteAgent = false)
    (ha : P a) : P (iceAgentCheckCandidatePairConnection w a) := by
  unfold iceAgentCheckCandidatePairConnection
  split
  · rename_i ptr queue hqueue
    refine hk.checkPairs _ (hk.popped ?_ ha)
    intro x hx
    rw [hqueue]
    exact List.mem_cons_of_mem _ hx
  · exact hk.checkWaitingPairs _ hfull ha

theorem executeCheckConnection (hk : MachineKeeps w P) (ha : P a)
    (hsetup : a.iceAgentState ≠ .CHECK_CONNECTION → P (iceAgentCheckConnectionStateSetup w a time).1) :
    P (executeCheckConnectionIceAgentState w a time) := by
  have hbody : ∀ b : IceAgent, P b →
      P (if b.isLiteAgent then b else iceAgentCheckCandidatePairConnection w b) := by
    intro b hb
    split
    case isTrue => exact hb
    case isFalse hfull => exact hk.checkCandidatePairConnection (Bool.not_eq_true _ ▸ hfull) hb
  exact enter_cases (fun _ => hbody a ha) (fun hne _ _ => hk.flags _ _ _ _ (hsetup hne))
    fun hne _ => hbody _ (hk.flags _ _ _ _ (hsetup hne))

theorem executeNominating (hk : MachineKeeps w P) (ha : P a)
    (hsetup : a.iceAgentState ≠ .NOMINATING → P (iceAgentNominatingStateSetup w a time).1) :
    P (executeNominatingIceAgentState w a time) := by
  have hbody : ∀ b : IceAgent, P b → P (if b.isLiteAgent then b
      else if b.isControlling then iceAgentSendCandidateNomination w b
      else iceAgentCheckCandidatePairConnection w b) := by
    intro b hb
    split
    case isTrue => exact hb
    case isFalse hfull =>
      split
      · exact hk.checkPairs _ hb
      · exact hk.checkCandidatePairConnection (Bool.not_eq_true _ ▸ hfull) hb
  exact enter_cases (fun _ => hbody a ha) (fun hne _ _ => hk.flags _ _ _ _ (hsetup hne))
    fun hne _ => hbody _ (hk.flags _ _ _ _ (hsetup hne))

theorem executeState (hk : MachineKeeps w P) {disconnected : IceAgent → IceAgent}
    {state : ICE_AGENT_STATE} (ha : P a)
    (hcheck : state = .CHECK_CONNECTION → a.iceAgentState ≠ .CHECK_CONNECTION →
      P (iceAgentCheckConnectionStateSetup w a time).1)
    (hnominating : state = .NOMINATING → a.iceAgentState ≠ .NOMINATING →
      P (iceAgentNominatingStateSetup w a time).1)
    (hready : state = .READY → P (executeReadyIceAgentState a shutdown))
    (hdisconnected : state = .DISCONNECTED → P (disconnected a)) :
    P (executeState w time shutdown disconnected state a) := by
  cases state with
  | NEW => exact hk.flags _ _ _ _ ha
  | CHECK_CONNECTION => exact hk.executeCheckConnection ha (hcheck rfl)
  | CONNECTED => exact hk.flags _ _ _ _ (hk.connected ha)
  | NOMINATING => exact hk.executeNominating ha (hnominating rfl)
  | READY => exact hready rfl
  | DISCONNECTED => exact hdisconnected rfl
  | FAILED => exact hk.flags _ _ _ _ ha

theorem stepWith (hk : MachineKeeps w P) {execute : ICE_AGENT_STATE → IceAgent → IceAgent}
    (ha : P a) (hexecute : ∀ b, a.Named b → b.currentState = (getNextState a time).2 → P b →
      P (execute (getNextState a time).2 b)) : P (stepWith execute time a) := by
  have hne := @next_ne_new a time
  obtain ⟨status, detected, heq⟩ := getNextState_eq a time
  unfold Ice.stepWith
  dsimp only
  rw [heq]
  split
  case isTrue haccept =>
    refine hexecute _ ⟨status, detected, _, _, rfl⟩ rfl ?_
    exact hk.machine _ (hne haccept) (hk.flags _ _ _ _ ha)
  case isFalse => exact hk.flags _ _ _ _ ha

theorem executeDisconnected (hk : MachineKeeps w P) (ha : P a)
    (hcurrent : a.currentState = .DISCONNECTED)
    (hready : a.iceAgentState = .READY → ∀ b, a.Named b → P b →
      P (executeReadyIceAgentState b shutdown)) :
    P (executeDisconnectedIceAgentState w time shutdown a) := by
  unfold executeDisconnectedIceAgentState
  split
  · exact ha
  · refine hk.stepWith (hk.flags _ _ _ _ ha) ?_
    rintro c ⟨status, detected, grace, current, rfl⟩ _ hc
    have hback : ∀ {state : ICE_AGENT_STATE}, state ≠ .FAILED → (getNextState { a with
        detectedDisconnection := true
        disconnectionGracePeriodEndTime := time + KVS_ICE_ENTER_STATE_FAILED_GRACE_PERIOD }
          time).2 = state → a.iceAgentState = state :=
      fun {_} => getNextState_back (a := { a with
        detectedDisconnection := true
        disconnectionGracePeriodEndTime := time + KVS_ICE_ENTER_STATE_FAILED_GRACE_PERIOD }) hcurrent
    refine hk.executeState hc (fun hnext hne => ?_) (fun hnext hne => ?_) (fun hnext => ?_)
      fun _ => hc
    · exact absurd (hback (by decide) hnext) hne
    · exact absurd (hback (by decide) hnext) hne
    · exact hready (hback (by decide) hnext) _ ⟨status, detected, grace, current, rfl⟩ hc

theorem stepStateMachine (hk : MachineKeeps w P) (ha : P a) (hs : SetsUp w P time shutdown a) :
    P (stepStateMachine w time shutdown a) := by
  refine hk.stepWith ha ?_
  rintro b ⟨status, detected, grace, current, rfl⟩ hcurrent hb
  refine hk.executeState hb (fun hnext hne => hs.checkConnection hnext hne _ ⟨_, _, _, _, rfl⟩ hb)
    (fun hnext hne => hs.nominating hnext hne _ ⟨_, _, _, _, rfl⟩ hb)
    (fun hnext => hs.ready (Or.inl hnext) _ ⟨_, _, _, _, rfl⟩ hb) fun hnext => ?_
  refine hk.executeDisconnected hb (hcurrent.trans hnext) ?_
  rintro hready c ⟨status', detected', grace', current', rfl⟩ hc
  exact hs.ready (Or.inr ⟨hnext, hready⟩) _ ⟨status', detected', grace', current', rfl⟩ hc

/-- **A round of the machine** steps once more after an error. -/
theorem stepIceAgentStateMachine (hk : MachineKeeps w P) (ha : P a)
    (hs : SetsUp w P time shutdown a)
    (hagain : ∀ e, (Ice.stepStateMachine w time shutdown a).iceAgentStatus = some e →
      SetsUp w P time shutdown (Ice.stepStateMachine w time shutdown a)) :
    P (stepIceAgentStateMachine w time shutdown a) := by
  have hfirst := hk.stepStateMachine ha hs
  unfold Ice.stepIceAgentStateMachine
  dsimp only
  split
  · rename_i hsome
    obtain ⟨e, he⟩ := Option.isSome_iff_exists.mp hsome.2
    exact hk.stepStateMachine hfirst (hagain e he)
  · exact hfirst

end MachineKeeps

theorem SameLists.machine (w : Host) (a : IceAgent) : MachineKeeps w (SameLists a) where
  flags _ _ _ _ h := h.trans (of_eq rfl rfl rfl rfl)
  machine _ _ h := h.trans (of_eq rfl rfl rfl rfl)
  connected h := h.trans (of_eq rfl rfl rfl rfl)
  popped _ h := h.trans (of_eq rfl rfl rfl rfl)
  checkPairs _ h := h.trans (Unmoved.checkPairs _ _).toSameLists
  checkWaitingPairs _ _ h := h.trans (Unmoved.checkWaitingPairs _ _).toSameLists

theorem SameLists.stepIceAgentStateMachine {w : Host} {a : IceAgent} {time : Nat}
    {shutdown : Nat → Bool} (hready : ¬ executesReady a time) :
    SameLists a (stepIceAgentStateMachine w time shutdown a) := by
  have hsets : ∀ b, ¬ executesReady b time → SetsUp w (SameLists a) time shutdown b := fun b hb =>
    ⟨fun _ _ _ _ h => h.trans (Unmoved.checkConnectionSetup time).toSameLists,
      fun _ _ _ _ h => h.trans (Unmoved.nominatingSetup time).toSameLists,
      fun hexecutes => absurd hexecutes hb⟩
  exact (SameLists.machine w a).stepIceAgentStateMachine (refl a) (hsets a hready) fun e he =>
    hsets _ (not_executesReady_of_status time he)

/-! ## New pairs -/

theorem insertIceCandidatePair_perm (pairs : List IceCandidatePair) (p : IceCandidatePair) :
    (insertIceCandidatePair pairs p).Perm (p :: pairs) := by
  induction pairs with
  | nil => exact List.Perm.refl _
  | cons q qs ih =>
    unfold insertIceCandidatePair
    split
    · exact List.Perm.refl _
    · exact (ih.cons q).trans (List.Perm.swap p q qs)

theorem mem_insertIceCandidatePair {pairs : List IceCandidatePair} {p q : IceCandidatePair} :
    q ∈ insertIceCandidatePair pairs p ↔ q = p ∨ q ∈ pairs := by
  rw [(insertIceCandidatePair_perm pairs p).mem_iff, List.mem_cons]

theorem createPairsForRemote_induct {P : IceAgent → Prop} {a : IceAgent} (r : IceCandidate)
    (hcreate : ∀ b l, P b → b.localCandidates = a.localCandidates →
      b.remoteCandidates = a.remoteCandidates → l ∈ a.localCandidates → pairable r l = true →
      r.state = .VALID → P (b.createPair l r))
    (ha : P a) : P (a.createPairsForRemote r) := by
  unfold IceAgent.createPairsForRemote
  split
  · rename_i hvalid
    refine (List.foldlRecOn (motive := fun b => P b ∧ b.localCandidates = a.localCandidates ∧
      b.remoteCandidates = a.remoteCandidates) _ _ ⟨ha, rfl, rfl⟩ ?_).1
    rintro b ⟨hb, hlocal, hremote⟩ l hl
    obtain ⟨hmem, hpair⟩ := List.mem_filter.mp hl
    exact ⟨hcreate b l hb hlocal hremote hmem hpair hvalid, hlocal, hremote⟩
  · exact ha

theorem createPairsForLocal_induct {P : IceAgent → Prop} {a : IceAgent} (l : IceCandidate)
    (hcreate : ∀ b r, P b → b.localCandidates = a.localCandidates →
      b.remoteCandidates = a.remoteCandidates → r ∈ a.remoteCandidates → pairable l r = true →
      l.state = .VALID → P (b.createPair l r))
    (ha : P a) : P (a.createPairsForLocal l) := by
  unfold IceAgent.createPairsForLocal
  split
  · rename_i hvalid
    refine (List.foldlRecOn (motive := fun b => P b ∧ b.localCandidates = a.localCandidates ∧
      b.remoteCandidates = a.remoteCandidates) _ _ ⟨ha, rfl, rfl⟩ ?_).1
    rintro b ⟨hb, hlocal, hremote⟩ r hr
    obtain ⟨hmem, hpair⟩ := List.mem_filter.mp hr
    exact ⟨hcreate b r hb hlocal hremote hmem hpair hvalid, hlocal, hremote⟩
  · exact ha

theorem createPairsForLocal_localCandidates (a : IceAgent) (l : IceCandidate) :
    (a.createPairsForLocal l).localCandidates = a.localCandidates :=
  createPairsForLocal_induct (P := fun b => b.localCandidates = a.localCandidates) l
    (fun _ _ hb _ _ _ _ _ => hb) rfl

theorem localPtrs_updateLocal (a : IceAgent) (ptr : Nat) (f : IceCandidate → IceCandidate)
    (hf : ∀ c, c.ptr = ptr → (f c).ptr = ptr) :
    (a.updateLocal ptr f).localCandidates.map IceCandidate.ptr =
      a.localCandidates.map IceCandidate.ptr := by
  rw [IceAgent.updateLocal, List.map_map]
  refine List.map_congr_left ?_
  intro c _
  dsimp only [Function.comp_apply]
  split
  · rename_i hptr
    rw [hf c hptr, hptr]
  · rfl

/-! ## The gathering timer -/

/-- The agent with the candidate reported, if there is room for it. -/
def IceAgent.report (a : IceAgent) (c : IceCandidate) (reports : Nat) : IceAgent :=
  if reports < KVS_ICE_MAX_NEW_LOCAL_CANDIDATES_TO_REPORT_AT_ONCE then
    a.updateLocal c.ptr fun c => { c with reported := true }
  else a

theorem gatherCandidate_cases (relayAddress : Nat → Option KvsIpAddress) (a : IceAgent)
    (reports : Nat) (pending : Bool) (c : IceCandidate) {b : IceAgent}
    (hb : (gatherCandidate relayAddress a reports pending c).1 = b) :
    (b = a ∧ (c.state = .VALID → c.reported = true)) ∨
      (∃ address, c.state = .NEW ∧ c.iceCandidateType = .RELAYED ∧
        b = (a.updateLocal c.ptr fun _ => { c with ipAddress := address, state := .VALID
          }).createPairsForLocal { c with ipAddress := address, state := .VALID }) ∨
      (c.state = .VALID ∧ c.reported = false ∧ c.iceCandidateType = .SERVER_REFLEXIVE ∧
        b = (a.report c reports).createPairsForLocal c) ∨
      (c.state = .VALID ∧ c.reported = false ∧ c.iceCandidateType ≠ .SERVER_REFLEXIVE ∧
        b = a.report c reports) := by
  subst hb
  cases hstate : c.state with
  | INVALID =>
    left
    simp only [gatherCandidate, hstate]
    exact ⟨trivial, fun h => nomatch h⟩
  | NEW =>
    simp only [gatherCandidate, hstate]
    split
    · exact Or.inl ⟨rfl, fun h => nomatch h⟩
    · rename_i address htype _
      have hupdate : updateCandidateAddress c address =
          { c with ipAddress := address, state := .VALID } := by
        unfold updateCandidateAddress
        rw [if_pos ⟨by rw [htype]; decide, hstate⟩]
      refine Or.inr (Or.inl ⟨address, trivial, htype, ?_⟩)
      rw [hupdate]
    · exact Or.inl ⟨rfl, fun h => nomatch h⟩
  | VALID =>
    simp only [gatherCandidate, hstate]
    split
    · rename_i hreported
      exact Or.inl ⟨rfl, fun _ => hreported⟩
    · rename_i hreported
      rw [Bool.not_eq_true] at hreported
      by_cases htype : c.iceCandidateType = .SERVER_REFLEXIVE
      · refine Or.inr (Or.inr (Or.inl ⟨trivial, hreported, htype, ?_⟩))
        rw [if_pos htype]
        rfl
      · refine Or.inr (Or.inr (Or.inr ⟨trivial, hreported, htype, ?_⟩))
        rw [if_neg htype]
        rfl

theorem localPtrs_report (a : IceAgent) (c : IceCandidate) (reports : Nat) :
    (a.report c reports).localCandidates.map IceCandidate.ptr =
      a.localCandidates.map IceCandidate.ptr := by
  unfold IceAgent.report
  split
  · exact localPtrs_updateLocal _ _ _ fun d hd => hd
  · rfl

theorem localPtrs_gatherCandidate (relayAddress : Nat → Option KvsIpAddress) (a : IceAgent)
    (reports : Nat) (pending : Bool) (c : IceCandidate) :
    (gatherCandidate relayAddress a reports pending c).1.localCandidates.map IceCandidate.ptr =
      a.localCandidates.map IceCandidate.ptr := by
  rcases gatherCandidate_cases relayAddress a reports pending c rfl with
    ⟨h, -⟩ | ⟨address, -, -, h⟩ | ⟨-, -, -, h⟩ | ⟨-, -, -, h⟩
  · rw [h]
  · rw [h, createPairsForLocal_localCandidates]
    exact localPtrs_updateLocal _ _ _ fun _ _ => rfl
  · rw [h, createPairsForLocal_localCandidates, localPtrs_report]
  · rw [h, localPtrs_report]

end KvsWebrtc.Ice
