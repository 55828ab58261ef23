import KvsWebrtc.Ice.Frame

/-!
# Referential integrity of the ICE agent

Pairs refer to their candidates, the queue of triggered checks and `pDataSendingIceCandidatePair` to
pairs.  Candidates and pairs are freed in two places only, when `READY` is entered and in every
round of `READY`, and neither looks at the references: entering `READY` frees all failed pairs and
leaves the queue alone, and a round of `READY` frees every relayed candidate whose TURN connection
has completed its shutdown.  `ReadySafe` says that nothing freed there is in use; with it, the
references hold in every state of a run.

Principal results:

* `Held.stepIceAgentStateMachine` — one round of the state machine.
* `references_sound` — every run whose steps are safe.
* `queued_pair_freed` — a run that ends with a freed pair in the queue.
-/

namespace KvsWebrtc.Ice

open Stun

/-- Every reference is to an element of the list it belongs to. -/
structure Sound (a : IceAgent) : Prop where
  locals : ∀ p ∈ a.iceCandidatePairs, p.localPtr ∈ a.localCandidates.map IceCandidate.ptr
  remotes : ∀ p ∈ a.iceCandidatePairs, p.remotePtr ∈ a.remoteCandidates.map IceCandidate.ptr
  selected : ∀ ptr, a.pDataSendingIceCandidatePair = some ptr →
    ptr ∈ a.iceCandidatePairs.map IceCandidatePair.ptr
  queued : ∀ ptr ∈ a.triggeredCheckQueue, ptr ∈ a.iceCandidatePairs.map IceCandidatePair.ptr

/-- The references hold, and distinct pairs have distinct addresses. -/
structure Held (a : IceAgent) : Prop extends Sound a where
  distinct : (a.iceCandidatePairs.map IceCandidatePair.ptr).Nodup
  fresh : ∀ p ∈ a.iceCandidatePairs, p.ptr < a.nextPtr

/-- The pair is not freed when `READY` is entered with the pair `s`. -/
def IceAgent.keeps (a : IceAgent) (s p : IceCandidatePair) : Prop :=
  p.state ≠ .FAILED ∧ p.localPtr = s.localPtr ∧
    (a.localCandidate p.localPtr).any (fun c => c.state = .VALID) = true

/-- The local candidate of the pair has no TURN connection that has completed its shutdown. -/
def IceAgent.spares (a : IceAgent) (shutdown : Nat → Bool) (p : IceCandidatePair) : Prop :=
  ∀ c ∈ a.localCandidates, c.ptr = p.localPtr → c.iceCandidateType = .RELAYED →
    shutdown c.ptr = false

/-- Nothing that `READY` frees is in use. -/
def ReadySafe (a : IceAgent) (shutdown : Nat → Bool) : Prop :=
  if a.iceAgentState = .READY then ∀ p ∈ a.iceCandidatePairs, a.spares shutdown p
  else ∀ s ∈ a.readyPair.bind a.pair, a.keeps s s ∧ a.spares shutdown s ∧
    ∀ ptr ∈ a.triggeredCheckQueue, ∃ p ∈ a.iceCandidatePairs, p.ptr = ptr ∧ a.keeps s p

/-- The condition on a step. -/
def SafeStep (a : IceAgent) : Event → Prop
  | .stateTimer time shutdown => a.remoteCredentialReceived = true → executesReady a time →
      ReadySafe a shutdown
  | _ => True

/-- The condition on a run. -/
def SafeRun (w : Host) : IceAgent → List Event → Prop
  | _, [] => True
  | a, e :: events => SafeStep a e ∧ SafeRun w (step w a e) events

instance (a : IceAgent) (s p : IceCandidatePair) : Decidable (a.keeps s p) :=
  inferInstanceAs (Decidable (_ ∧ _ ∧ _))

instance (a : IceAgent) (shutdown : Nat → Bool) (p : IceCandidatePair) :
    Decidable (a.spares shutdown p) :=
  inferInstanceAs (Decidable (∀ c ∈ a.localCandidates, _ → _ → _))

instance (a : IceAgent) (shutdown : Nat → Bool) : Decidable (ReadySafe a shutdown) :=
  inferInstanceAs (Decidable (
    if a.iceAgentState = .READY then ∀ p ∈ a.iceCandidatePairs, a.spares shutdown p
    else ∀ s ∈ a.readyPair.bind a.pair, a.keeps s s ∧ a.spares shutdown s ∧
      ∀ ptr ∈ a.triggeredCheckQueue, ∃ p ∈ a.iceCandidatePairs, p.ptr = ptr ∧ a.keeps s p))

instance (a : IceAgent) : (e : Event) → Decidable (SafeStep a e)
  | .stateTimer _ _ => inferInstanceAs (Decidable (_ → _ → _))
  | .startAgent .. | .addRemoteCandidate .. | .initHostCandidate .. | .initSrflxCandidates ..
  | .initRelayCandidate .. | .gather .. | .turnFailed .. | .receive .. | .keepAlive =>
    inferInstanceAs (Decidable True)

def decidableSafeRun (w : Host) : (a : IceAgent) → (events : List Event) →
    Decidable (SafeRun w a events)
  | _, [] => inferInstanceAs (Decidable True)
  | a, e :: events =>
    have := decidableSafeRun w (step w a e) events
    inferInstanceAs (Decidable (_ ∧ _))

instance (w : Host) (a : IceAgent) (events : List Event) : Decidable (SafeRun w a events) :=
  decidableSafeRun w a events

namespace Held

variable {a b : IceAgent} {w : Host}

/-! ## Changes that free nothing -/

theorem mem_pairs {q : IceCandidatePair} (h : b.links = a.links) (hq : q ∈ b.iceCandidatePairs) :
    ∃ p ∈ a.iceCandidatePairs, p.link = q.link := by
  have hmem : q.link ∈ a.links := by
    rw [← h]
    exact List.mem_map_of_mem hq
  obtain ⟨p, hp, heq⟩ := List.mem_map.mp hmem
  exact ⟨p, hp, heq⟩

theorem of_links (h : Held a)
    (hl : ∀ ptr ∈ a.localCandidates.map IceCandidate.ptr,
      ptr ∈ b.localCandidates.map IceCandidate.ptr)
    (hr : ∀ ptr ∈ a.remoteCandidates.map IceCandidate.ptr,
      ptr ∈ b.remoteCandidates.map IceCandidate.ptr)
    (hp : b.links = a.links)
    (hq : b.triggeredCheckQueue = a.triggeredCheckQueue)
    (hs : b.pDataSendingIceCandidatePair = a.pDataSendingIceCandidatePair)
    (hn : a.nextPtr ≤ b.nextPtr) : Held b := by
  have hptrs : b.iceCandidatePairs.map IceCandidatePair.ptr =
      a.iceCandidatePairs.map IceCandidatePair.ptr := by
    have hmap := congrArg (List.map Prod.fst) hp
    rw [IceAgent.links, IceAgent.links, List.map_map, List.map_map] at hmap
    exact hmap
  refine ⟨⟨?_, ?_, ?_, ?_⟩, ?_, ?_⟩
  · intro q hmem
    obtain ⟨p, hp', heq⟩ := mem_pairs hp hmem
    have hlocal : p.localPtr = q.localPtr := congrArg (fun x => x.2.1) heq
    rw [← hlocal]
    exact hl _ (h.locals p hp')
  · intro q hmem
    obtain ⟨p, hp', heq⟩ := mem_pairs hp hmem
    have hremote : p.remotePtr = q.remotePtr := congrArg (fun x => x.2.2.1) heq
    rw [← hremote]
    exact hr _ (h.remotes p hp')
  · intro ptr hptr
    rw [hptrs]
    exact h.selected ptr (hs ▸ hptr)
  · intro ptr hptr
    rw [hptrs]
    exact h.queued ptr (hq ▸ hptr)
  · rw [hptrs]
    exact h.distinct
  · intro q hmem
    obtain ⟨p, hp', heq⟩ := mem_pairs hp hmem
    have hptr : p.ptr = q.ptr := congrArg (fun x => x.1) heq
    rw [← hptr]
    exact Nat.lt_of_lt_of_le (h.fresh p hp') hn

theorem unmoved (h : Held a) (hu : Unmoved a b) : Held b := by
  refine h.of_links ?_ ?_ hu.pairs hu.queue hu.selected (Nat.le_of_eq hu.next.symm)
  · intro ptr hptr
    rw [hu.localPtrs]
    exact hptr
  · intro ptr hptr
    rw [hu.remotes]
    exact hptr

theorem of_eq (h : Held a) (hl : b.localCandidates = a.localCandidates)
    (hr : b.remoteCandidates = a.remoteCandidates)
    (hp : b.iceCandidatePairs = a.iceCandidatePairs)
    (hq : b.triggeredCheckQueue = a.triggeredCheckQueue)
    (hs : b.pDataSendingIceCandidatePair = a.pDataSendingIceCandidatePair)
    (hn : b.nextPtr = a.nextPtr) : Held b :=
  h.unmoved (Unmoved.of_eq hl hr hp hq hs hn)

theorem updateLocal (h : Held a) {ptr : Nat} {f : IceCandidate → IceCandidate}
    (hf : ∀ c, (f c).ptr = c.ptr) : Held (a.updateLocal ptr f) := by
  refine h.of_links ?_ (fun _ hr => hr) rfl rfl rfl (Nat.le_refl _)
  intro x hx
  obtain ⟨c, hc, rfl⟩ := List.mem_map.mp hx
  refine List.mem_map.mpr ⟨_, List.mem_map_of_mem hc, ?_⟩
  split
  · exact hf c
  · rfl

theorem createPair (h : Held a) {l r : IceCandidate}
    (hl : l.ptr ∈ a.localCandidates.map IceCandidate.ptr)
    (hr : r.ptr ∈ a.remoteCandidates.map IceCandidate.ptr) : Held (a.createPair l r) := by
  have hgrow : ∀ ptr ∈ a.iceCandidatePairs.map IceCandidatePair.ptr,
      ptr ∈ (a.createPair l r).iceCandidatePairs.map IceCandidatePair.ptr := by
    intro ptr hptr
    obtain ⟨p, hp, rfl⟩ := List.mem_map.mp hptr
    exact List.mem_map_of_mem (mem_insertIceCandidatePair.mpr (Or.inr hp))
  refine ⟨⟨?_, ?_, ?_, ?_⟩, ?_, ?_⟩
  · intro p hp
    rcases mem_insertIceCandidatePair.mp hp with rfl | hp
    · exact hl
    · exact h.locals p hp
  · intro p hp
    rcases mem_insertIceCandidatePair.mp hp with rfl | hp
    · exact hr
    · exact h.remotes p hp
  · exact fun ptr hptr => hgrow ptr (h.selected ptr hptr)
  · exact fun ptr hptr => hgrow ptr (h.queued ptr hptr)
  · refine (((insertIceCandidatePair_perm _ _).map IceCandidatePair.ptr).nodup_iff).mpr ?_
    refine List.nodup_cons.mpr ⟨?_, h.distinct⟩
    intro hmem
    obtain ⟨p, hp, heq⟩ := List.mem_map.mp hmem
    have hlt := h.fresh p hp
    rw [heq] at hlt
    exact absurd hlt (Nat.lt_irrefl _)
  · intro p hp
    rcases mem_insertIceCandidatePair.mp hp with rfl | hp
    · exact Nat.lt_succ_self _
    · exact Nat.lt_succ_of_lt (h.fresh p hp)

theorem createPairsForRemote (h : Held a) {r : IceCandidate}
    (hr : r.ptr ∈ a.remoteCandidates.map IceCandidate.ptr) : Held (a.createPairsForRemote r) := by
  apply createPairsForRemote_induct r _ h
  intro b l hb hlocal hremote hmem _ _
  exact hb.createPair (by rw [hlocal]; exact List.mem_map_of_mem hmem) (by rw [hremote]; exact hr)

theorem createPairsForLocal (h : Held a) {l : IceCandidate}
    (hl : l.ptr ∈ a.localCandidates.map IceCandidate.ptr) : Held (a.createPairsForLocal l) := by
  apply createPairsForLocal_induct l _ h
  intro b r hb hlocal hremote hmem _ _
  exact hb.createPair (by rw [hlocal]; exact hl) (by rw [hremote]; exact List.mem_map_of_mem hmem)

theorem insertLocals (h : Held a) {cs : List IceCandidate}
    (hl : b.localCandidates = cs ++ a.localCandidates)
    (hr : b.remoteCandidates = a.remoteCandidates) (hp : b.links = a.links)
    (hq : b.triggeredCheckQueue = a.triggeredCheckQueue)
    (hs : b.pDataSendingIceCandidatePair = a.pDataSendingIceCandidatePair)
    (hn : a.nextPtr ≤ b.nextPtr) : Held b := by
  refine h.of_links ?_ ?_ hp hq hs hn
  · intro ptr hptr
    rw [hl, List.map_append]
    exact List.mem_append_right _ hptr
  · intro ptr hptr
    rw [hr]
    exact hptr

/-! ## Candidates -/

theorem addRemote (h : Held a) (ipAddress : KvsIpAddress) (type : ICE_CANDIDATE_TYPE)
    (priority : UINT32) : Held (a.addRemote ipAddress type priority) := by
  unfold IceAgent.addRemote
  split
  · split
    · exact h
    · have hinsert : Held (a.insertRemote (a.newRemote ipAddress type priority)) :=
        h.of_links (fun _ hl => hl) (fun _ hr => List.mem_cons_of_mem _ hr) rfl rfl rfl
          (Nat.le_succ _)
      exact hinsert.createPairsForRemote List.mem_cons_self
  · exact h

theorem initHostCandidate (h : Held a) (ipAddress : KvsIpAddress) (isPointToPoint : Bool) :
    Held (iceAgentInitHostCandidate a ipAddress isPointToPoint) := by
  unfold iceAgentInitHostCandidate
  split
  · exact h
  · refine createPairsForLocal ?_ List.mem_cons_self
    exact h.insertLocals (List.singleton_append).symm rfl rfl rfl rfl (Nat.le_add_right _ _)

theorem initSrflxCandidate (h : Held a) (port : Nat → UINT16) :
    Held (iceAgentInitSrflxCandidate a port) := by
  refine List.foldlRecOn _ _ h ?_
  intro b hb host _
  exact hb.insertLocals rfl rfl rfl rfl rfl (Nat.le_add_right _ _)

theorem initRelayCandidate (h : Held a) (iceServerIndex : Nat) (unset : KvsIpAddress) :
    Held (iceAgentInitRelayCandidate a iceServerIndex unset) := by
  unfold iceAgentInitRelayCandidate
  split
  · exact h.insertLocals (List.singleton_append).symm rfl rfl rfl rfl (Nat.le_add_right _ _)
  · exact h

/-! ## The gathering timer -/

theorem report (h : Held a) (c : IceCandidate) (reports : Nat) : Held (a.report c reports) := by
  unfold IceAgent.report
  split
  · exact h.updateLocal fun _ => rfl
  · exact h

theorem gatherCandidate (h : Held a) (relayAddress : Nat → Option KvsIpAddress) (reports : Nat)
    (pending : Bool) {c : IceCandidate} (hc : c.ptr ∈ a.localCandidates.map IceCandidate.ptr) :
    Held (gatherCandidate relayAddress a reports pending c).1 := by
  rcases gatherCandidate_cases relayAddress a reports pending c rfl with
    ⟨heq, -⟩ | ⟨address, -, -, heq⟩ | ⟨-, -, -, heq⟩ | ⟨-, -, -, heq⟩ <;> rw [heq]
  · exact h
  · have hptrs := localPtrs_updateLocal a c.ptr
      (fun _ => { c with ipAddress := address, state := .VALID }) fun _ _ => rfl
    refine createPairsForLocal ?_ ?_
    · refine h.of_links ?_ (fun _ hr => hr) rfl rfl rfl (Nat.le_refl _)
      intro x hx
      rw [hptrs]
      exact hx
    · rw [hptrs]
      exact hc
  · refine (h.report c reports).createPairsForLocal ?_
    rw [localPtrs_report]
    exact hc
  · exact h.report c reports

theorem gatherLoop (relayAddress : Nat → Option KvsIpAddress) (cs : List IceCandidate)
    (s : IceAgent × Nat × Bool) (h : Held s.1)
    (hcs : ∀ c ∈ cs, c.ptr ∈ s.1.localCandidates.map IceCandidate.ptr) :
    Held (gatherLoop relayAddress cs s).1 := by
  induction cs generalizing s with
  | nil => exact h
  | cons c cs ih =>
    obtain ⟨a, reports, pending⟩ := s
    refine ih _ (h.gatherCandidate relayAddress reports pending (hcs c List.mem_cons_self)) ?_
    intro d hd
    rw [localPtrs_gatherCandidate]
    exact hcs d (List.mem_cons_of_mem _ hd)

theorem gather (h : Held a) (relayAddress : Nat → Option KvsIpAddress) :
    Held (iceAgentGatherCandidateTimerCallback w a relayAddress) := by
  have hloop := gatherLoop relayAddress a.localCandidates (a, 0, false) h
    fun c hc => List.mem_map_of_mem hc
  unfold iceAgentGatherCandidateTimerCallback
  dsimp only
  split
  · exact hloop.unmoved Unmoved.sendSrflxRequests
  · exact hloop

/-! ## Received packets -/

theorem enqueue (h : Held a) {ptr : Nat}
    (hptr : ptr ∈ a.iceCandidatePairs.map IceCandidatePair.ptr) :
    Held { a with triggeredCheckQueue := a.triggeredCheckQueue ++ [ptr] } where
  locals := h.locals
  remotes := h.remotes
  selected := h.selected
  distinct := h.distinct
  fresh := h.fresh
  queued := by
    intro x hx
    rcases List.mem_append.mp hx with hx | hx
    · exact h.queued x hx
    · rw [List.mem_singleton.mp hx]
      exact hptr

theorem checkArrived (h : Held a) {p : IceCandidatePair} (hp : p ∈ a.iceCandidatePairs)
    (useCandidate : Bool) : Held (checkArrived a p useCandidate) := by
  have hnominate : Unmoved a (setNominated a p useCandidate) := Unmoved.setNominated p useCandidate
  unfold Ice.checkArrived
  dsimp only
  split
  · exact (h.unmoved hnominate).unmoved (Unmoved.updatePair fun _ => rfl)
  · split
    · refine (h.unmoved hnominate).enqueue ?_
      rw [hnominate.pairPtrs]
      exact List.mem_map_of_mem hp
    · exact h.unmoved hnominate

theorem handleBindingRequest (h : Held a) (q : ParsedPacket) (socket : Nat)
    (src : KvsIpAddress) : Held (handleBindingRequest w a q socket src) := by
  unfold Ice.handleBindingRequest
  split
  · split
    · exact h.unmoved (Unmoved.sendStunPacket _ _ _ _)
    · exact h
  · split
    · exact h
    · have hadd : Held (checkRemotePeerReflexive a src (priorityOf q)) := h.addRemote _ _ _
      dsimp only
      split
      · exact hadd
      · split
        · exact hadd.unmoved (Unmoved.sendStunPacket _ _ _ _)
        · rename_i p hfind
          refine checkArrived ?_ (List.mem_of_find?_eq_some hfind) _
          exact hadd.unmoved (Unmoved.sendStunPacket _ _ _ _)

theorem checkLocalPeerReflexive (h : Held a) (ipAddress : KvsIpAddress) (socket : Nat) :
    Held (checkLocalPeerReflexive a ipAddress socket) := by
  unfold Ice.checkLocalPeerReflexive
  split
  · exact h
  · split
    · exact h
    · exact h.updateLocal fun _ => rfl

theorem handleCheckResponse (h : Held a) (buf : Bytes) (socket : Nat) (src : KvsIpAddress) :
    Held (handleCheckResponse w a buf socket src) := by
  unfold Ice.handleCheckResponse
  split
  · exact h
  · split
    · split
      · exact h
      · split
        · exact h
        · refine unmoved ?_ (Unmoved.updatePair fun _ => rfl)
          split
          · exact h.checkLocalPeerReflexive _ _
          · exact h
    · exact h

theorem handleSrflxResponse (h : Held a) (buf : Bytes) (socket : Nat) :
    Held (handleSrflxResponse w a buf socket) := by
  have hupdate : ∀ ptr ipAddress,
      Held (a.updateLocal ptr fun c => updateCandidateAddress c ipAddress) := by
    intro ptr ipAddress
    refine h.updateLocal ?_
    intro c
    unfold updateCandidateAddress
    split <;> rfl
  unfold Ice.handleSrflxResponse
  split
  · split
    · exact h
    · split
      · exact h
      · exact (hupdate _ _).of_eq rfl rfl rfl rfl rfl rfl
  · exact h

theorem handleStunPacket (h : Held a) (buf : Bytes) (socket : Nat) (src : KvsIpAddress) :
    Held (handleStunPacket w a buf socket src) := by
  unfold Ice.handleStunPacket
  dsimp only
  split
  · split
    · exact h
    · exact h.handleBindingRequest _ _ _
  · split
    · split
      · exact h.handleSrflxResponse _ _
      · exact h.handleCheckResponse _ _ _
    · exact h

/-! ## The state machine -/

theorem connectedSetup (h : Held a) : Held (iceAgentConnectedStateSetup a) where
  locals := h.locals
  remotes := h.remotes
  selected := by
    intro ptr hptr
    obtain ⟨p, hfind, rfl⟩ := Option.map_eq_some_iff.mp hptr
    exact List.mem_map_of_mem (List.mem_of_find?_eq_some hfind)
  queued := h.queued
  distinct := h.distinct
  fresh := h.fresh

theorem freeShutdown (h : Held a) {shutdown : Nat → Bool}
    (hspare : ∀ p ∈ a.iceCandidatePairs, a.spares shutdown p) :
    Held (a.freeShutdown shutdown) where
  locals := by
    intro p hp
    obtain ⟨c, hc, hptr⟩ := List.mem_map.mp (h.locals p hp)
    refine List.mem_map.mpr ⟨c, List.mem_filter.mpr ⟨hc, ?_⟩, hptr⟩
    have hrelayed := hspare p hp c hc hptr
    by_cases htype : c.iceCandidateType = .RELAYED
    · simp [hrelayed htype]
    · simp [htype]
  remotes := h.remotes
  selected := h.selected
  queued := h.queued
  distinct := h.distinct
  fresh := h.fresh

theorem mem_keepSelected {ptr : Nat} {s : IceCandidatePair} (hs : a.pair ptr = some s)
    (p : IceCandidatePair) :
    p ∈ (a.keepSelected ptr).iceCandidatePairs ↔ p ∈ a.iceCandidatePairs ∧ a.keeps s p := by
  -- the local candidates after the first loop, and those of them that are still valid
  have hvalid : ∀ q : IceCandidatePair, (((a.localCandidates.map fun c =>
      if some c.ptr = some s.localPtr then c else { c with state := .INVALID }).find?
        fun c => c.ptr = q.localPtr).any fun c => c.state = .VALID) = true ↔
      q.localPtr = s.localPtr ∧
        (a.localCandidate q.localPtr).any (fun c => c.state = .VALID) = true := by
    intro q
    rw [List.find?_map]
    have hcomp : ((fun c : IceCandidate => decide (c.ptr = q.localPtr)) ∘ fun c : IceCandidate =>
        if some c.ptr = some s.localPtr then c else { c with state := .INVALID }) =
        fun c => decide (c.ptr = q.localPtr) := by
      funext c
      dsimp only [Function.comp_apply]
      split <;> rfl
    rw [hcomp, IceAgent.localCandidate]
    cases hfind : a.localCandidates.find? fun c => decide (c.ptr = q.localPtr) with
    | none => simp
    | some c =>
      have hptr : c.ptr = q.localPtr := by simpa using List.find?_some hfind
      by_cases hsel : c.ptr = s.localPtr
      · simp [hsel, ← hptr]
      · simp [hsel, ← hptr]
  unfold IceAgent.keepSelected
  simp only [hs, Option.map_some, iceAgentInvalidateCandidatePair, List.mem_filter, List.mem_map,
    decide_not, Bool.not_eq_true', decide_eq_false_iff_not]
  constructor
  · rintro ⟨⟨q, hq, heq⟩, hstate⟩
    split at heq
    · rename_i hany
      subst heq
      obtain ⟨hlocal, hany⟩ := (hvalid q).mp hany
      exact ⟨hq, hstate, hlocal, hany⟩
    · subst heq
      exact absurd rfl hstate
  · rintro ⟨hp, hstate, hlocal, hany⟩
    refine ⟨⟨p, hp, ?_⟩, hstate⟩
    exact if_pos ((hvalid p).mpr ⟨hlocal, hany⟩)

theorem localPtrs_keepSelected (ptr : Nat) :
    (a.keepSelected ptr).localCandidates.map IceCandidate.ptr =
      a.localCandidates.map IceCandidate.ptr := by
  unfold IceAgent.keepSelected iceAgentInvalidateCandidatePair
  rw [List.map_map]
  refine List.map_congr_left ?_
  intro c _
  dsimp only [Function.comp_apply]
  split <;> rfl

theorem keepSelected (h : Held a) {ptr : Nat} {s : IceCandidatePair} (hs : a.pair ptr = some s)
    (hselected : a.pDataSendingIceCandidatePair = some ptr) (hself : a.keeps s s)
    (hqueue : ∀ x ∈ a.triggeredCheckQueue, ∃ p ∈ a.iceCandidatePairs, p.ptr = x ∧ a.keeps s p) :
    Held (a.keepSelected ptr) where
  locals := by
    intro p hp
    rw [localPtrs_keepSelected]
    exact h.locals p ((mem_keepSelected hs p).mp hp).1
  remotes := fun p hp => h.remotes p ((mem_keepSelected hs p).mp hp).1
  selected := by
    intro x hx
    have hxptr : ptr = x := by
      rw [show (a.keepSelected ptr).pDataSendingIceCandidatePair = some ptr from hselected] at hx
      exact Option.some.inj hx
    have hmem : s ∈ a.iceCandidatePairs := List.mem_of_find?_eq_some hs
    have hptr : s.ptr = ptr := by simpa using List.find?_some hs
    exact List.mem_map.mpr ⟨s, (mem_keepSelected hs s).mpr ⟨hmem, hself⟩, hptr.trans hxptr⟩
  queued := by
    intro x hx
    obtain ⟨p, hp, hptr, hkeep⟩ := hqueue x hx
    exact List.mem_map.mpr ⟨p, (mem_keepSelected hs p).mpr ⟨hp, hkeep⟩, hptr⟩
  distinct := by
    refine List.Nodup.sublist ?_ h.distinct
    rw [← (Unmoved.invalidate (a := { a with
      localCandidates := a.localCandidates.map fun c =>
        if some c.ptr = (a.pair ptr).map IceCandidatePair.localPtr then c
        else { c with state := .INVALID } })).pairPtrs]
    exact List.filter_sublist.map _
  fresh := fun p hp => h.fresh p ((mem_keepSelected hs p).mp hp).1

theorem readyPair_mem (h : Held a) {ptr : Nat} (hptr : a.readyPair = some ptr) :
    ptr ∈ a.iceCandidatePairs.map IceCandidatePair.ptr := by
  unfold IceAgent.readyPair at hptr
  split at hptr
  · rename_i x hselected
    exact h.selected ptr (hselected.trans hptr)
  · obtain ⟨p, hfind, rfl⟩ := Option.map_eq_some_iff.mp hptr
    exact List.mem_map_of_mem (List.mem_of_find?_eq_some hfind)

theorem pair_isSome {ptr : Nat} (hptr : ptr ∈ a.iceCandidatePairs.map IceCandidatePair.ptr) :
    ∃ p, a.pair ptr = some p := by
  obtain ⟨p, hp, rfl⟩ := List.mem_map.mp hptr
  have hsome : (a.pair p.ptr).isSome := by
    rw [IceAgent.pair, List.find?_isSome]
    exact ⟨p, hp, decide_eq_true rfl⟩
  exact Option.isSome_iff_exists.mp hsome

theorem executeReady (h : Held a) {shutdown : Nat → Bool} (hsafe : ReadySafe a shutdown) :
    Held (executeReadyIceAgentState a shutdown) := by
  unfold ReadySafe at hsafe
  refine enter_cases ?_ ?_ ?_
  · intro hready
    rw [if_pos hready] at hsafe
    exact h.freeShutdown hsafe
  · intro _ e hfail
    unfold iceAgentReadyStateSetup at hfail ⊢
    split
    · exact h.unmoved (Unmoved.fatal e)
    · rename_i heq
      rw [heq] at hfail
      cases hfail
  · intro hready hsetup
    rw [if_neg hready] at hsafe
    unfold iceAgentReadyStateSetup at hsetup ⊢
    split
    · rename_i heq
      rw [heq] at hsetup
      cases hsetup
    · rename_i ptr hptr
      obtain ⟨s, hs⟩ := pair_isSome (h.readyPair_mem hptr)
      obtain ⟨hself, hspare, hqueue⟩ := hsafe s (by rw [hptr]; exact hs)
      set b : IceAgent := { a with
        pDataSendingIceCandidatePair := some ptr
        stateEndTime := INVALID_TIMESTAMP_VALUE } with hb
      have hsound : Held b := by
        refine ⟨⟨h.locals, h.remotes, ?_, h.queued⟩, h.distinct, h.fresh⟩
        intro x hx
        rw [← Option.some.inj hx]
        exact h.readyPair_mem hptr
      have hkeep : Held (b.keepSelected ptr) := hsound.keepSelected hs rfl hself hqueue
      have henter : Held { b.keepSelected ptr with iceAgentState := .READY } :=
        hkeep.of_eq rfl rfl rfl rfl rfl rfl
      refine henter.freeShutdown ?_
      intro p hp c hc hcptr hrelayed
      have hlocal : p.localPtr = s.localPtr := ((mem_keepSelected hs p).mp hp).2.2.1
      obtain ⟨d, hd, heq⟩ := List.mem_map.mp hc
      have hdc : d.ptr = c.ptr ∧ d.iceCandidateType = c.iceCandidateType := by
        rw [← heq]
        split <;> exact ⟨rfl, rfl⟩
      rw [← hdc.1]
      exact hspare d hd (by rw [hdc.1, hcptr, hlocal]) (by rw [hdc.2]; exact hrelayed)

theorem machine (w : Host) : MachineKeeps w Held where
  flags _ _ _ _ h := h.of_eq rfl rfl rfl rfl rfl rfl
  machine _ _ h := h.of_eq rfl rfl rfl rfl rfl rfl
  connected h := h.connectedSetup
  popped hsub h := ⟨⟨h.locals, h.remotes, h.selected, fun x hx => h.queued x (hsub x hx)⟩, h.distinct,
    h.fresh⟩
  checkPairs _ h := h.unmoved (Unmoved.checkPairs _ _)
  checkWaitingPairs _ _ h := h.unmoved (Unmoved.checkWaitingPairs _ _)

theorem setsUp {time : Nat} {shutdown : Nat → Bool}
    (hsafe : executesReady a time → ReadySafe a shutdown) : SetsUp w Held time shutdown a where
  checkConnection _ _ _ _ hb := hb.unmoved (Unmoved.checkConnectionSetup time)
  nominating _ _ _ _ hb := hb.unmoved (Unmoved.nominatingSetup time)
  ready := by
    rintro hready b ⟨status, detected, grace, current, rfl⟩ hb
    exact hb.executeReady (hsafe hready)

theorem stepIceAgentStateMachine (h : Held a) {time : Nat} {shutdown : Nat → Bool}
    (hsafe : executesReady a time → ReadySafe a shutdown) :
    Held (stepIceAgentStateMachine w time shutdown a) :=
  (machine w).stepIceAgentStateMachine h (setsUp hsafe) fun _ he =>
    setsUp fun hready => absurd hready (not_executesReady_of_status time he)

/-! ## Runs -/

theorem step (h : Held a) (e : Event) (hsafe : SafeStep a e) : Held (step w a e) := by
  cases e with
  | startAgent remoteUsername remotePassword isControlling =>
    unfold Ice.step iceAgentStartAgent
    dsimp only
    split
    · exact h
    · split
      · exact h.of_eq rfl rfl rfl rfl rfl rfl
      · exact h
  | addRemoteCandidate ipAddress type priority => exact h.addRemote ipAddress type priority
  | initHostCandidate ipAddress isPointToPoint => exact h.initHostCandidate ipAddress isPointToPoint
  | initSrflxCandidates port => exact h.initSrflxCandidate port
  | initRelayCandidate iceServerIndex unset => exact h.initRelayCandidate iceServerIndex unset
  | gather relayAddress => exact h.gather relayAddress
  | turnFailed ptr =>
    refine h.updateLocal ?_
    intro c
    split <;> rfl
  | receive buf socket src time =>
    have htime : Held { a with lastDataReceivedTime := some time } :=
      h.of_eq rfl rfl rfl rfl rfl rfl
    unfold Ice.step incomingDataHandler
    dsimp only
    split
    · exact htime.handleStunPacket buf socket src
    · exact htime
  | stateTimer time shutdown =>
    unfold Ice.step
    dsimp only
    split
    · rename_i hstarted
      exact h.stepIceAgentStateMachine (hsafe hstarted)
    · exact h
  | keepAlive => exact h.unmoved (Unmoved.sendKeepAlives _ _)

theorem createIceAgent (username password : Bytes) (isLiteAgent : Bool) (tieBreaker : UINT64)
    (iceServers : List IceServer) (timeouts : IceTimeouts) :
    Held (createIceAgent username password isLiteAgent tieBreaker iceServers timeouts) where
  locals := fun _ hp => nomatch hp
  remotes := fun _ hp => nomatch hp
  selected := fun _ hptr => nomatch hptr
  queued := fun _ hptr => nomatch hptr
  distinct := List.nodup_nil
  fresh := fun _ hp => nomatch hp

end Held

/-- **Referential integrity.**  In every run of an agent whose steps are safe, every reference is to
an element of its list, in every state that is reached. -/
theorem references_sound (w : Host) (username password : Bytes) (isLiteAgent : Bool)
    (tieBreaker : UINT64) (iceServers : List IceServer) (timeouts : IceTimeouts)
    (events : List Event)
    (hsafe : SafeRun w
      (createIceAgent username password isLiteAgent tieBreaker iceServers timeouts) events) :
    ∀ before after, events = before ++ after → Sound (run w
      (createIceAgent username password isLiteAgent tieBreaker iceServers timeouts) before) := by
  have hrun : ∀ before after a, Held a → SafeRun w a (before ++ after) →
      Held (run w a before) := by
    intro before
    induction before with
    | nil => exact fun _ a ha _ => ha
    | cons e before ih =>
      intro after a ha hsafe
      exact ih after (step w a e) (ha.step e hsafe.1) hsafe.2
  intro before after hsplit
  rw [hsplit] at hsafe
  exact (hrun before after _ (Held.createIceAgent _ _ _ _ _ _) hsafe).toSound

/-! ## Two runs -/

/-- 192.0.2.`x`, port 8080. -/
def hostAddress (x : UINT8) : KvsIpAddress where
  family := KVS_IP_FAMILY_TYPE_IPV4
  port := 0x1f90
  address := [192, 0, 2, x, 0, 0, 0, 0, 0, 0, 0, 0, 0, 0, 0, 0]
  length_address := rfl

/-- The HMACs and the CRCs are those of the packets sent below; they are told apart by the end of
the transaction id. -/
def sampleHost : Host where
  hmac := fun _ message =>
    match (message.getD 19 0).toNat with
    | 0x18 => [0x30, 0xb3, 0xd0, 0x96, 0xcc, 0xbd, 0x58, 0x90, 0x8f, 0x6e, 0x1b, 0x33, 0xa3, 0x8c,
        0x0e, 0x94, 0xa1, 0x81, 0x73, 0xcd]
    | 0x24 => [0x39, 0x29, 0x4c, 0xbb, 0x23, 0xcf, 0x90, 0xf9, 0xda, 0x51, 0xf3, 0x06, 0xe2, 0x61,
        0xaf, 0x95, 0x59, 0xb3, 0xa7, 0x79]
    | 0x30 => [0xe4, 0xac, 0x20, 0x71, 0xe7, 0x51, 0x37, 0xa4, 0x16, 0x1d, 0x2f, 0x7d, 0xa9, 0x77,
        0x7b, 0xc0, 0x55, 0xf6, 0x0f, 0xe0]
    | 0x01 => [0x43, 0x0e, 0xbe, 0x52, 0x08, 0x44, 0x86, 0xc3, 0x18, 0xf9, 0x4f, 0xcc, 0x84, 0x65,
        0x54, 0x6c, 0x8e, 0xfb, 0x58, 0xe8]
    | _ => [0x72, 0x57, 0x34, 0xa3, 0xa6, 0xf2, 0xe5, 0xa9, 0x10, 0x7a, 0xe9, 0xb9, 0x03, 0xc4,
        0x39, 0x9c, 0xb5, 0x8f, 0x0d, 0x86]
  crc32 := fun message =>
    match (message.getD 19 0).toNat with
    | 0x18 => 0x23fab64e
    | 0x24 => 0x774dcf0f
    | 0x30 => 0x7375765e
    | 0x01 => 0x25fe2e26
    | _ => 0x851e282d
  rand := fun n => BitVec.ofNat 8 (n + 1)
  stack := fun _ => 0
  closed := fun _ => false

/-- A full agent with the name `b` and the password `pw`. -/
def sampleAgent : IceAgent :=
  createIceAgent [0x62] [0x70, 0x77] false 7 [] ⟨100000000, 100000000, 60000000⟩

/-- A binding request; the last byte of its transaction id is `id`. -/
def plainRequest (id : UINT8) : Bytes :=
  [0x00, 0x01, 0x00, 0x00, 0x21, 0x12, 0xa4, 0x42, 0, 0, 0, 0, 0, 0, 0, 0, 0, 0, 0, id]

/-- The same with USE-CANDIDATE. -/
def nominatingRequest (id : UINT8) : Bytes :=
  [0x00, 0x01, 0x00, 0x04, 0x21, 0x12, 0xa4, 0x42, 0, 0, 0, 0, 0, 0, 0, 0, 0, 0, 0, id,
    0x00, 0x25, 0x00, 0x00]

/-- The response to the first check of the agent, from 192.0.2.1. -/
def firstResponse : Bytes :=
  [0x01, 0x01, 0x00, 0x0c, 0x21, 0x12, 0xa4, 0x42, 0x0d, 0x0e, 0x0f, 0x10, 0x11, 0x12, 0x13, 0x14,
    0x15, 0x16, 0x17, 0x18, 0x00, 0x20, 0x00, 0x08, 0x00, 0x01, 0x3e, 0x82, 0xe1, 0x12, 0xa6, 0x43]

def noShutdown : Nat → Bool := fun _ => false

/-- The first pair is checked, nominated by the peer and selected. -/
def selectFirst : List Event :=
  [.addRemoteCandidate (hostAddress 2) .HOST 5, .startAgent [0x61] [0x70, 0x77] false,
    .stateTimer 1 noShutdown, .receive firstResponse 1 (hostAddress 2) 2,
    .receive (nominatingRequest 1) 1 (hostAddress 2) 3, .stateTimer 4 noShutdown,
    .stateTimer 5 noShutdown]

/-- One host candidate, up to `READY`. -/
def readyRun : List Event :=
  .initHostCandidate (hostAddress 1) false :: selectFirst ++ [.stateTimer 7 noShutdown]

theorem readyRun_sound :
    SafeRun sampleHost sampleAgent readyRun ∧
      (run sampleHost sampleAgent readyRun).iceAgentState = .READY ∧
      Sound (run sampleHost sampleAgent readyRun) := by
  have hsafe : SafeRun sampleHost sampleAgent readyRun := by decide +kernel
  refine ⟨hsafe, by decide +kernel, ?_⟩
  exact references_sound sampleHost _ _ _ _ _ _ readyRun hsafe readyRun [] (List.append_nil _).symm

/-- Two host candidates.  A second remote candidate arrives after the first pair is selected, and
its check on the second host candidate comes before `READY`. -/
def danglingRun : List Event :=
  .initHostCandidate (hostAddress 1) false :: .initHostCandidate (hostAddress 3) false ::
    selectFirst ++
      [.addRemoteCandidate (hostAddress 4) .HOST 5, .receive (plainRequest 2) 3 (hostAddress 4) 6,
        .stateTimer 7 noShutdown]

/-- The pair of the second check is freed on the way to `READY` and stays in the queue. -/
theorem queued_pair_freed :
    (run sampleHost sampleAgent danglingRun).iceAgentState = .READY ∧
      ¬ Sound (run sampleHost sampleAgent danglingRun) := by
  have hqueue : (run sampleHost sampleAgent danglingRun).triggeredCheckQueue = [8] := by
    decide +kernel
  have hpairs : 8 ∉ (run sampleHost sampleAgent danglingRun).iceCandidatePairs.map
      IceCandidatePair.ptr := by
    decide +kernel
  refine ⟨by decide +kernel, ?_⟩
  intro hsound
  refine hpairs (hsound.queued 8 ?_)
  rw [hqueue]
  exact List.mem_singleton_self 8

end KvsWebrtc.Ice
