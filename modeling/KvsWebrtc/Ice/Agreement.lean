import KvsWebrtc.Ice.NominationStates

/-!
# Two agents select the same pair

A controlling and a controlled agent, both full and with host candidates only.  A datagram that one
of them has sent may arrive at the other any number of times, in any order, or never; its source is
the address of the candidate it was sent from, since no address is translated.  Remote candidates
may be added at any time and at any address.

Principal results:

* `Driven.step` — an event of one agent.
* `selected_pairs_mirror` — when both agents are ready, the pairs they selected are mirror images;
* `selected_for_good` — what one of them has selected once, neither selects otherwise later.
-/

namespace KvsWebrtc.Ice

open Stun

/-! ## Sessions -/

structure Session where
  controlling : IceAgent
  controlled : IceAgent

/-- Something happens to one of the agents. -/
inductive Move where
  | controlling (e : Event)
  | controlled (e : Event)

/-- The datagram was sent by the peer, to the address of the socket. -/
def Delivers (peer a : IceAgent) (buf : Bytes) (socket : Nat) (src : KvsIpAddress) : Prop :=
  ∃ d ∈ peer.sent, d.bytes = buf ∧ d.source = src ∧
    ∃ l ∈ a.localCandidates, l.pSocketConnection = some socket ∧
      isSameIpAddress l.ipAddress d.dest true = true

instance (peer a : IceAgent) (buf : Bytes) (socket : Nat) (src : KvsIpAddress) :
    Decidable (Delivers peer a buf socket src) :=
  List.decidableBEx _ _

/-- The events of an agent with host candidates only, in its role. -/
def Permitted (controls : Bool) (peer a : IceAgent) : Event → Prop
  | .startAgent _ _ isControlling => isControlling = controls
  | .addRemoteCandidate _ _ _ => True
  | .initHostCandidate _ _ => True
  | .gather _ => True
  | .receive buf socket src _ => Delivers peer a buf socket src
  | .stateTimer _ _ => True
  | .keepAlive => True
  | .initSrflxCandidates _ => False
  | .initRelayCandidate _ _ => False
  | .turnFailed _ => False

instance (controls : Bool) (peer a : IceAgent) (e : Event) :
    Decidable (Permitted controls peer a e) :=
  match e with
  | .startAgent _ _ isControlling => inferInstanceAs (Decidable (isControlling = controls))
  | .addRemoteCandidate _ _ _ => inferInstanceAs (Decidable True)
  | .initHostCandidate _ _ => inferInstanceAs (Decidable True)
  | .gather _ => inferInstanceAs (Decidable True)
  | .receive buf socket src _ => inferInstanceAs (Decidable (Delivers peer a buf socket src))
  | .stateTimer _ _ => inferInstanceAs (Decidable True)
  | .keepAlive => inferInstanceAs (Decidable True)
  | .initSrflxCandidates _ => inferInstanceAs (Decidable False)
  | .initRelayCandidate _ _ => inferInstanceAs (Decidable False)
  | .turnFailed _ => inferInstanceAs (Decidable False)

section

variable (wc wd : Host)

def Session.step (s : Session) : Move → Session
  | .controlling e => { s with controlling := Ice.step wc s.controlling e }
  | .controlled e => { s with controlled := Ice.step wd s.controlled e }

def Session.permits (s : Session) : Move → Prop
  | .controlling e => Permitted true s.controlled s.controlling e
  | .controlled e => Permitted false s.controlling s.controlled e

instance (s : Session) (m : Move) : Decidable (s.permits m) :=
  match m with
  | .controlling e => inferInstanceAs (Decidable (Permitted true s.controlled s.controlling e))
  | .controlled e => inferInstanceAs (Decidable (Permitted false s.controlling s.controlled e))

def Session.run (s : Session) (moves : List Move) : Session :=
  moves.foldl (Session.step wc wd) s

/-- Every move of the run is permitted. -/
def PermittedRun : Session → List Move → Prop
  | _, [] => True
  | s, m :: moves => s.permits m ∧ PermittedRun (s.step wc wd m) moves

instance decidablePermittedRun : (s : Session) → (moves : List Move) →
    Decidable (PermittedRun wc wd s moves)
  | _, [] => isTrue trivial
  | s, m :: moves =>
    have := decidablePermittedRun (s.step wc wd m) moves
    inferInstanceAs (Decidable (s.permits m ∧ PermittedRun wc wd (s.step wc wd m) moves))

end

/-! ## Selected pairs -/

/-- The local and the remote address of a pair. -/
def IceAgent.ends (a : IceAgent) (p : IceCandidatePair) : Option (KvsIpAddress × KvsIpAddress) :=
  match a.localCandidate p.localPtr, a.remoteCandidate p.remotePtr with
  | some l, some r => some (l.ipAddress, r.ipAddress)
  | _, _ => none

/-- The addresses of `pDataSendingIceCandidatePair`. -/
def IceAgent.selectedEnds (a : IceAgent) : Option (KvsIpAddress × KvsIpAddress) :=
  (a.pDataSendingIceCandidatePair.bind a.pair).bind a.ends

/-- The local address of one is the remote address of the other. -/
def Mirrors (x y : KvsIpAddress × KvsIpAddress) : Prop :=
  isSameIpAddress x.1 y.2 true = true ∧ isSameIpAddress x.2 y.1 true = true

instance (x y : KvsIpAddress × KvsIpAddress) : Decidable (Mirrors x y) :=
  inferInstanceAs (Decidable (_ ∧ _))

/-- Agents that are ready have selected pairs that are mirror images.  The memory of a pair may only
be freed after a socket was closed. -/
structure Agreement (wc wd : Host) (s : Session) : Prop where
  mirror : s.controlling.iceAgentState = .READY → s.controlled.iceAgentState = .READY →
    ∀ x y, s.controlling.selectedEnds = some x → s.controlled.selectedEnds = some y → Mirrors x y
  controlling : wc.Open → s.controlling.iceAgentState = .READY →
    s.controlling.selectedEnds.isSome
  controlled : wd.Open → s.controlled.iceAgentState = .READY → s.controlled.selectedEnds.isSome

/-! ## Events of one agent -/

section

variable {w : Host} {controls : Bool} {N : Option (KvsIpAddress × KvsIpAddress)} {a : IceAgent}

theorem Steady.report (ptr : Nat) :
    Steady w N a (a.updateLocal ptr fun c => { c with reported := true }) := by
  refine ⟨?_, fun _ hd => Or.inl hd, ?_, fun _ h => h, rfl, rfl, rfl, rfl, rfl, id⟩
  · unfold IceAgent.view IceAgent.updateLocal
    congr 1
    rw [List.map_map]
    refine List.map_congr_left fun c _ => ?_
    simp only [Function.comp]
    split <;> rfl
  · intro _ ha
    refine ⟨?_, ha.alive⟩
    intro c hc
    obtain ⟨d, hd, rfl⟩ := List.mem_map.mp hc
    split
    · exact ha.valid d hd
    · exact ha.valid d hd

theorem Driven.gatherCandidate (h : Driven w controls N a)
    (relayAddress : Nat → Option KvsIpAddress) (reports : Nat) {c : IceCandidate}
    (hhost : c.iceCandidateType = .HOST) :
    ∃ b n, Driven w controls N b ∧
      gatherCandidate relayAddress a reports false c = (b, n, false) := by
  unfold Ice.gatherCandidate
  cases c.state with
  | NEW =>
    rw [hhost]
    exact ⟨a, reports, h, rfl⟩
  | INVALID => exact ⟨a, reports, h, rfl⟩
  | VALID =>
    dsimp only
    split
    · exact ⟨a, reports, h, rfl⟩
    · rw [if_neg (by rw [hhost]; decide)]
      split
      · exact ⟨_, _, h.steady (Steady.report c.ptr), rfl⟩
      · exact ⟨a, _, h, rfl⟩

theorem Driven.gatherLoop (relayAddress : Nat → Option KvsIpAddress) (cs : List IceCandidate)
    (hcs : ∀ c ∈ cs, c.iceCandidateType = .HOST) (a : IceAgent) (h : Driven w controls N a)
    (reports : Nat) :
    ∃ b n, Driven w controls N b ∧
      gatherLoop relayAddress cs (a, reports, false) = (b, n, false) := by
  induction cs generalizing a reports with
  | nil => exact ⟨a, reports, h, rfl⟩
  | cons c cs ih =>
    obtain ⟨b, n, hb, heq⟩ := h.gatherCandidate relayAddress reports (hcs c List.mem_cons_self)
    unfold Ice.gatherLoop
    rw [heq]
    exact ih (fun c hc => hcs c (List.mem_cons_of_mem _ hc)) b hb n

theorem Driven.gather (h : Driven w controls N a) (relayAddress : Nat → Option KvsIpAddress) :
    Driven w controls N (iceAgentGatherCandidateTimerCallback w a relayAddress) := by
  obtain ⟨b, n, hb, heq⟩ := Driven.gatherLoop relayAddress a.localCandidates
    (fun c hc => (h.placed.host c.fixed (fixed_mem_hosts hc)).1) a h 0
  unfold iceAgentGatherCandidateTimerCallback
  rw [heq]
  exact hb

/-- **An event** keeps the nominee, or chooses it.  What is received and carries USE-CANDIDATE is
between the addresses of the nominee. -/
theorem Driven.step (h : Driven w controls N a)
    (hlen : ∀ k m, (w.hmac k m).length = STUN_HMAC_VALUE_LEN) {peer : IceAgent} {e : Event}
    (hpermitted : Permitted controls peer a e)
    (hreceived : ∀ buf socket src, Delivers peer a buf socket src → Carries buf →
      ∃ l ∈ a.view.hosts, l.pSocketConnection = some socket ∧ Near N l.ipAddress src) :
    ∃ M, (M = N ∨ controls = true ∧ N = none) ∧ Driven w controls M (step w a e) := by
  cases e with
  | startAgent remoteUsername remotePassword isControlling =>
    obtain rfl : isControlling = controls := hpermitted
    exact ⟨N, Or.inl rfl, h.startAgent remoteUsername remotePassword⟩
  | addRemoteCandidate ipAddress type priority =>
    exact ⟨N, Or.inl rfl, h.widen (widens_addRemote h.placed ipAddress type priority)⟩
  | initHostCandidate ipAddress isPointToPoint =>
    exact ⟨N, Or.inl rfl, h.widen (widens_initHostCandidate h.placed ipAddress isPointToPoint)⟩
  | gather relayAddress => exact ⟨N, Or.inl rfl, h.gather relayAddress⟩
  | receive buf socket src time =>
    refine ⟨N, Or.inl rfl, ?_⟩
    have htime : Driven w controls N { a with lastDataReceivedTime := some time } :=
      h.steady ⟨rfl, fun _ hd => Or.inl hd, fun _ h => ⟨h.valid, h.alive⟩, fun _ h => h, rfl, rfl,
        rfl, rfl, rfl, id⟩
    unfold Ice.step incomingDataHandler
    dsimp only
    split
    · exact htime.handleStunPacket (hreceived buf socket src hpermitted)
    · exact htime
  | stateTimer time shutdown =>
    unfold Ice.step
    dsimp only
    split
    · rename_i hstarted
      exact h.stepIceAgentStateMachine hstarted hlen time shutdown
    · exact ⟨N, Or.inl rfl, h⟩
  | keepAlive => exact ⟨N, Or.inl rfl, h.steady (Steady.sendKeepAlives _ _)⟩
  | initSrflxCandidates port => exact hpermitted.elim
  | initRelayCandidate iceServerIndex unset => exact hpermitted.elim
  | turnFailed ptr => exact hpermitted.elim

/-- A controlled agent without nominations fits every nominee. -/
theorem Driven.of_none (h : Driven w false none a) : Driven w false N a :=
  ⟨⟨h.placed.of_none, h.sent, h.role, h.full, h.ready, h.found⟩, h.settled, h.connected, h.request,
    nofun, h.healthy⟩

theorem driven_createIceAgent (w : Host) (controls : Bool) (username password : Bytes)
    (tieBreaker : UINT64) (iceServers : List IceServer) (timeouts : IceTimeouts) :
    Driven w controls none
      (createIceAgent username password false tieBreaker iceServers timeouts) where
  placed := ⟨nofun, List.nodup_nil, nofun, List.nodup_nil, List.nodup_nil, nofun, nofun, nofun⟩
  sent := nofun
  role := (Bool.and_false controls).symm
  full := rfl
  ready := nofun
  found := nofun
  settled := Or.inr rfl
  connected := nofun
  request := Or.inl nofun
  early := fun _ _ => rfl
  healthy := fun _ _ _ => ⟨nofun, nofun⟩

/-- The pair that is selected is between the addresses of the nominee. -/
theorem Driven.selectedEnds_near (h : Driven w controls N a) {x : KvsIpAddress × KvsIpAddress}
    (hx : a.selectedEnds = some x) : Near N x.1 x.2 := by
  obtain ⟨p, hp, hends⟩ := Option.bind_eq_some_iff.mp hx
  obtain ⟨ptr, hptr, hp⟩ := Option.bind_eq_some_iff.mp hp
  obtain ⟨hpmem, hpptr⟩ := pair_mem hp
  have hnominated := (h.placed.selected ptr hptr).2 p.fixed (fixed_mem_pairs hpmem) hpptr
  unfold IceAgent.ends at hends
  split at hends
  · rename_i l r hl hr
    obtain ⟨hlmem, hlptr⟩ := localCandidate_mem hl
    obtain ⟨hrmem, hrptr⟩ := remoteCandidate_mem hr
    rw [← Option.some.inj hends]
    exact h.placed.nominated p.fixed (fixed_mem_pairs hpmem) hnominated l.fixed
      (fixed_mem_hosts hlmem) hlptr r hrmem hrptr
  · cases hends

/-- An agent that is ready has a selected pair, if every socket works. -/
theorem Driven.selectedEnds_isSome (h : Driven w controls N a) (hopen : w.Open)
    (hready : a.iceAgentState = .READY) : a.selectedEnds.isSome := by
  obtain ⟨ptr, hptr⟩ := Option.isSome_iff_exists.mp (h.ready hready)
  have hmem := h.found hopen ptr hptr
  rw [pairPtrs_view] at hmem
  obtain ⟨p, hp⟩ := Held.pair_isSome hmem
  obtain ⟨_, hlocal, hremote⟩ := h.placed.pair p.fixed (fixed_mem_pairs (pair_mem hp).1)
  have hl : (a.localCandidate p.localPtr).isSome := by
    obtain ⟨c, hc, hcptr⟩ := List.mem_map.mp hlocal
    obtain ⟨l, hl, rfl⟩ := List.mem_map.mp hc
    have hlptr : l.ptr = p.localPtr := hcptr
    rw [IceAgent.localCandidate, List.find?_isSome]
    exact ⟨l, hl, by simp [hlptr]⟩
  have hr : (a.remoteCandidate p.remotePtr).isSome := by
    obtain ⟨r, hr, hrptr⟩ := List.mem_map.mp hremote
    have hrptr' : r.ptr = p.remotePtr := hrptr
    rw [IceAgent.remoteCandidate, List.find?_isSome]
    exact ⟨r, hr, by simp [hrptr']⟩
  obtain ⟨l, hl⟩ := Option.isSome_iff_exists.mp hl
  obtain ⟨r, hr⟩ := Option.isSome_iff_exists.mp hr
  unfold IceAgent.selectedEnds IceAgent.ends
  rw [hptr, Option.bind_some, hp, Option.bind_some, hl, hr]
  rfl

end

/-! ## Runs of both -/

/-- The nominees of the two agents are mirror images. -/
def SessionInv (wc wd : Host) (s : Session) : Prop :=
  ∃ N, Driven wc true N s.controlling ∧ Driven wd false (N.map Prod.swap) s.controlled

/-- The controlling agent has the nominee `N`, and the controlled agent its mirror image. -/
def Nominated (wc wd : Host) (N : Option (KvsIpAddress × KvsIpAddress)) (s : Session) : Prop :=
  Driven wc true N s.controlling ∧ Driven wd false (N.map Prod.swap) s.controlled

/-- A nominee is chosen once. -/
theorem Nominated.step {wc wd : Host} {N : Option (KvsIpAddress × KvsIpAddress)} {s : Session}
    (h : Nominated wc wd N s)
    (hlenc : ∀ k m, (wc.hmac k m).length = STUN_HMAC_VALUE_LEN)
    (hlend : ∀ k m, (wd.hmac k m).length = STUN_HMAC_VALUE_LEN) {m : Move}
    (hpermitted : s.permits m) :
    ∃ M, (M = N ∨ N = none) ∧ Nominated wc wd M (s.step wc wd m) := by
  obtain ⟨hc, hd⟩ := h
  cases m with
  | controlling e =>
    -- the controlled agent sends no USE-CANDIDATE
    have hreceived : ∀ buf socket src, Delivers s.controlled s.controlling buf socket src →
        Carries buf → ∃ l ∈ s.controlling.view.hosts, l.pSocketConnection = some socket ∧
          Near N l.ipAddress src := by
      rintro buf socket src ⟨d, hdmem, rfl, _⟩ hcarries
      exact absurd (hd.sent d hdmem hcarries) not_near_none
    obtain ⟨M, hchoice, hM⟩ := hc.step hlenc hpermitted hreceived
    refine ⟨M, hchoice.imp_right And.right, hM, ?_⟩
    rcases hchoice with rfl | ⟨_, rfl⟩
    · exact hd
    · exact hd.of_none
  | controlled e =>
    have hreceived : ∀ buf socket src, Delivers s.controlling s.controlled buf socket src →
        Carries buf → ∃ l ∈ s.controlled.view.hosts, l.pSocketConnection = some socket ∧
          Near (N.map Prod.swap) l.ipAddress src := by
      rintro buf socket src ⟨d, hdmem, rfl, rfl, l, hl, hsocket, hsame⟩ hcarries
      obtain ⟨n, hn, hsource, hdest⟩ := hc.sent d hdmem hcarries
      refine ⟨l.fixed, fixed_mem_hosts hl, hsocket, n.swap, ?_, ?_, hsource⟩
      · rw [show N = some n from hn]
        rfl
      · exact isSameIpAddress_trans hsame hdest
    obtain ⟨M, hchoice, hM⟩ := hd.step hlend hpermitted hreceived
    rcases hchoice with rfl | ⟨hcontrols, _⟩
    · exact ⟨N, .inl rfl, hc, hM⟩
    · cases hcontrols

theorem SessionInv.step {wc wd : Host} {s : Session} (h : SessionInv wc wd s)
    (hlenc : ∀ k m, (wc.hmac k m).length = STUN_HMAC_VALUE_LEN)
    (hlend : ∀ k m, (wd.hmac k m).length = STUN_HMAC_VALUE_LEN) {m : Move}
    (hpermitted : s.permits m) : SessionInv wc wd (s.step wc wd m) := by
  obtain ⟨N, hN⟩ := h
  obtain ⟨M, -, hM⟩ := Nominated.step hN hlenc hlend hpermitted
  exact ⟨M, hM⟩

theorem Nominated.run {wc wd : Host} (hlenc : ∀ k m, (wc.hmac k m).length = STUN_HMAC_VALUE_LEN)
    (hlend : ∀ k m, (wd.hmac k m).length = STUN_HMAC_VALUE_LEN) (moves : List Move)
    {N : Option (KvsIpAddress × KvsIpAddress)} {s : Session} (h : Nominated wc wd N s)
    (hpermitted : PermittedRun wc wd s moves) :
    ∃ M, (M = N ∨ N = none) ∧ Nominated wc wd M (s.run wc wd moves) := by
  induction moves generalizing N s with
  | nil => exact ⟨N, .inl rfl, h⟩
  | cons m moves ih =>
    obtain ⟨L, hL, hstep⟩ := h.step hlenc hlend hpermitted.1
    obtain ⟨M, hM, hrun⟩ := ih hstep hpermitted.2
    refine ⟨M, ?_, hrun⟩
    rcases hL with rfl | hnone
    · exact hM
    · exact .inr hnone

theorem SessionInv.agreement {wc wd : Host} {s : Session} (h : SessionInv wc wd s) :
    Agreement wc wd s := by
  obtain ⟨N, hc, hd⟩ := h
  refine ⟨?_, fun hopen => hc.selectedEnds_isSome hopen, fun hopen => hd.selectedEnds_isSome hopen⟩
  intro _ _ x y hx hy
  obtain ⟨n, hn, hlocal, hremote⟩ := hc.selectedEnds_near hx
  obtain ⟨n', hn', hlocal', hremote'⟩ := hd.selectedEnds_near hy
  rw [hn] at hn'
  obtain rfl : n.swap = n' := Option.some.inj hn'
  exact ⟨isSameIpAddress_trans hlocal (isSameIpAddress_symm hremote'),
    isSameIpAddress_trans hremote (isSameIpAddress_symm hlocal')⟩

/-- **Selected-pair agreement.**  In every run of a controlling and a controlled agent, whenever both
are ready the pairs they selected are mirror images. -/
theorem selected_pairs_mirror (wc wd : Host)
    (hlenc : ∀ k m, (wc.hmac k m).length = STUN_HMAC_VALUE_LEN)
    (hlend : ∀ k m, (wd.hmac k m).length = STUN_HMAC_VALUE_LEN)
    (usernamec passwordc usernamed passwordd : Bytes) (tieBreakerc tieBreakerd : UINT64)
    (iceServersc iceServersd : List IceServer) (timeoutsc timeoutsd : IceTimeouts)
    (moves : List Move)
    (hpermitted : PermittedRun wc wd
      ⟨createIceAgent usernamec passwordc false tieBreakerc iceServersc timeoutsc,
        createIceAgent usernamed passwordd false tieBreakerd iceServersd timeoutsd⟩ moves) :
    Agreement wc wd (Session.run wc wd
      ⟨createIceAgent usernamec passwordc false tieBreakerc iceServersc timeoutsc,
        createIceAgent usernamed passwordd false tieBreakerd iceServersd timeoutsd⟩ moves) := by
  have hrun : ∀ moves s, SessionInv wc wd s → PermittedRun wc wd s moves →
      SessionInv wc wd (Session.run wc wd s moves) := by
    intro moves
    induction moves with
    | nil => exact fun _ hs _ => hs
    | cons m moves ih =>
      intro s hs hpermitted
      exact ih _ (hs.step hlenc hlend hpermitted.1) hpermitted.2
  refine (hrun moves _ ⟨none, ?_, ?_⟩ hpermitted).agreement
  · exact driven_createIceAgent wc true _ _ _ _ _
  · exact driven_createIceAgent wd false _ _ _ _ _

/-- The addresses that an agent has selected, it selects later as well, and the other agent then
selects their mirror image. -/
structure SelectedForGood (s s' : Session) : Prop where
  controlling : ∀ x y, s.controlling.selectedEnds = some x → s'.controlling.selectedEnds = some y →
    Mirrors x y.swap
  controlled : ∀ x y, s.controlled.selectedEnds = some x → s'.controlled.selectedEnds = some y →
    Mirrors x y.swap
  answered : ∀ x y, s.controlling.selectedEnds = some x → s'.controlled.selectedEnds = some y →
    Mirrors x y
  followed : ∀ x y, s.controlled.selectedEnds = some x → s'.controlling.selectedEnds = some y →
    Mirrors x y

theorem Nominated.selected {wc wd : Host} {N : Option (KvsIpAddress × KvsIpAddress)} {s : Session}
    (h : Nominated wc wd N s) :
    (∀ x, s.controlling.selectedEnds = some x → Near N x.1 x.2) ∧
      ∀ x, s.controlled.selectedEnds = some x → Near N x.2 x.1 := by
  refine ⟨fun x hx => h.1.selectedEnds_near hx, fun x hx => ?_⟩
  obtain ⟨_, hn, hlocal, hremote⟩ := h.2.selectedEnds_near hx
  obtain ⟨n, hN, rfl⟩ := Option.map_eq_some_iff.mp hn
  exact ⟨n, hN, hremote, hlocal⟩

/-- What was near a nominee is near the same one later. -/
theorem Near.fits {N M : Option (KvsIpAddress × KvsIpAddress)} {l r l' r' : KvsIpAddress}
    (h : Near N l r) (hM : M = N ∨ N = none) (h' : Near M l' r') :
    isSameIpAddress l l' true = true ∧ isSameIpAddress r r' true = true := by
  obtain ⟨n, rfl, hl, hr⟩ := h
  obtain ⟨n', hn', hl', hr'⟩ := h'
  rcases hM with rfl | hnone
  · cases hn'
    exact ⟨isSameIpAddress_trans hl (isSameIpAddress_symm hl'),
      isSameIpAddress_trans hr (isSameIpAddress_symm hr')⟩
  · cases hnone

theorem permittedRun_append {wc wd : Host} {moves moves' : List Move} {s : Session} :
    PermittedRun wc wd s (moves ++ moves') ↔
      PermittedRun wc wd s moves ∧ PermittedRun wc wd (s.run wc wd moves) moves' := by
  induction moves generalizing s with
  | nil => simp [PermittedRun, Session.run]
  | cons m moves ih =>
    rw [List.cons_append, PermittedRun, ih, PermittedRun, and_assoc]
    rfl

/-- **A selection is for good.**  In every run, the pair an agent has selected fits all pairs that
either agent selects at any later time. -/
theorem selected_for_good (wc wd : Host)
    (hlenc : ∀ k m, (wc.hmac k m).length = STUN_HMAC_VALUE_LEN)
    (hlend : ∀ k m, (wd.hmac k m).length = STUN_HMAC_VALUE_LEN)
    (usernamec passwordc usernamed passwordd : Bytes) (tieBreakerc tieBreakerd : UINT64)
    (iceServersc iceServersd : List IceServer) (timeoutsc timeoutsd : IceTimeouts)
    (moves moves' : List Move)
    (hpermitted : PermittedRun wc wd
      ⟨createIceAgent usernamec passwordc false tieBreakerc iceServersc timeoutsc,
        createIceAgent usernamed passwordd false tieBreakerd iceServersd timeoutsd⟩
      (moves ++ moves')) :
    let s := Session.run wc wd
      ⟨createIceAgent usernamec passwordc false tieBreakerc iceServersc timeoutsc,
        createIceAgent usernamed passwordd false tieBreakerd iceServersd timeoutsd⟩ moves
    SelectedForGood s (s.run wc wd moves') := by
  intro s
  rw [permittedRun_append] at hpermitted
  obtain ⟨N, -, hN⟩ : ∃ N, (N = none ∨ none = none) ∧ Nominated wc wd N s := by
    refine Nominated.run hlenc hlend moves ⟨?_, ?_⟩ hpermitted.1
    · exact driven_createIceAgent wc true _ _ _ _ _
    · exact driven_createIceAgent wd false _ _ _ _ _
  obtain ⟨M, hM, hrun⟩ := hN.run hlenc hlend moves' hpermitted.2
  exact
    { controlling := fun x y hx hy => (hN.selected.1 x hx).fits hM (hrun.selected.1 y hy)
      controlled := fun x y hx hy => ((hN.selected.2 x hx).fits hM (hrun.selected.2 y hy)).symm
      answered := fun x y hx hy => (hN.selected.1 x hx).fits hM (hrun.selected.2 y hy)
      followed := fun x y hx hy => ((hN.selected.2 x hx).fits hM (hrun.selected.1 y hy)).symm }

/-! ## A session -/

/-- The HMACs and the CRCs are those of the packets sent below; they are told apart by the type and
the end of the transaction id.  `seed` starts the random bytes. -/
def sessionHost (seed : Nat) : Host where
  hmac := fun _ message =>
    match (message.getD 0 0).toNat, (message.getD 19 0).toNat with
    | 0, 0x18 => [0xa2, 0x52, 0xc9, 0xc0, 0x11, 0x00, 0x47, 0x18, 0x7f, 0x85, 0x23, 0x0a, 0xa6, 0xb2,
        0xcb, 0xad, 0x1f, 0x51, 0x29, 0x2c]
    | 1, 0x7c => [0x7f, 0xd2, 0x69, 0x88, 0x76, 0xe7, 0x02, 0x9f, 0xdf, 0x9d, 0x1b, 0x6f, 0x1f, 0xb2,
        0x68, 0x05, 0xc2, 0x05, 0x29, 0xfa]
    | 0, 0x30 => [0x8a, 0x8c, 0xf0, 0x67, 0x21, 0x88, 0x58, 0x32, 0x57, 0x1d, 0x76, 0x65, 0xa2, 0x6e,
        0xb1, 0x3e, 0xf3, 0x5e, 0x73, 0x25]
    | 0, 0x7c => [0x8b, 0xb7, 0xd4, 0x3b, 0x40, 0x5a, 0xa4, 0x3e, 0x85, 0x1a, 0x22, 0xba, 0x58, 0xb5,
        0x6e, 0x3c, 0x95, 0x07, 0xe2, 0x17]
    | 1, 0x18 => [0xa4, 0xfe, 0x38, 0x8a, 0x4e, 0xcf, 0x3b, 0x4c, 0x9b, 0x0a, 0x6c, 0xbd, 0x45, 0xc0,
        0x64, 0xeb, 0x62, 0x29, 0x4f, 0x21]
    | 1, 0x30 => [0x22, 0x5a, 0x0c, 0x63, 0xb5, 0xa0, 0x6b, 0xf5, 0x87, 0x34, 0x51, 0xab, 0xdb, 0xa4,
        0x50, 0xde, 0x1e, 0xec, 0xfd, 0xf3]
    | _, _ => [0xbc, 0x5f, 0x24, 0x4e, 0xb6, 0xfd, 0x2b, 0x5b, 0xbd, 0xfd, 0x37, 0x0a, 0x6e, 0x3d,
        0x53, 0x53, 0xb3, 0x3c, 0x83, 0x43]
  crc32 := fun message =>
    match (message.getD 0 0).toNat, (message.getD 19 0).toNat with
    | 0, 0x18 => 0x18d1eb8c
    | 1, 0x7c => 0xddb0fd51
    | 0, 0x30 => 0x66f12ad8
    | 0, 0x7c => 0x7adac449
    | 1, 0x18 => 0x2b229c8c
    | 1, 0x30 => 0xdc0ae13a
    | _, _ => 0x6cca1ae5
  rand := fun n => BitVec.ofNat 8 (n + seed)
  stack := fun _ => 0
  closed := fun _ => false

theorem length_sessionHost (seed : Nat) (k m : Bytes) :
    ((sessionHost seed).hmac k m).length = STUN_HMAC_VALUE_LEN := by
  simp only [sessionHost]
  split <;> rfl

/-- Two agents with the names `a` and `b` and the password `pw`. -/
def sampleSession : Session where
  controlling := createIceAgent [0x61] [0x70, 0x77] false 7 [] ⟨100000000, 100000000, 60000000⟩
  controlled := createIceAgent [0x62] [0x70, 0x77] false 7 [] ⟨100000000, 100000000, 60000000⟩

def runSample (moves : List Move) : Session :=
  Session.run (sessionHost 1) (sessionHost 101) sampleSession moves

/-- The datagram number `n` of the agent. -/
def IceAgent.sentBytes (a : IceAgent) (n : Nat) : Bytes := ((a.sent[n]?).map Datagram.bytes).getD []

/-- The agents exchange their candidates and send their first checks. -/
def firstChecks : List Move :=
  [.controlling (.initHostCandidate (hostAddress 1) false),
    .controlled (.initHostCandidate (hostAddress 2) false),
    .controlling (.addRemoteCandidate (hostAddress 2) .HOST 5),
    .controlled (.addRemoteCandidate (hostAddress 1) .HOST 5),
    .controlling (.startAgent [0x62] [0x70, 0x77] true),
    .controlled (.startAgent [0x61] [0x70, 0x77] false),
    .controlling (.stateTimer 1 noShutdown), .controlled (.stateTimer 1 noShutdown)]

/-- The checks are answered. -/
def firstAnswers : List Move :=
  firstChecks ++
    [.controlled (.receive ((runSample firstChecks).controlling.sentBytes 0) 1 (hostAddress 1) 2),
      .controlling (.receive ((runSample firstChecks).controlled.sentBytes 0) 1 (hostAddress 2) 2)]

/-- The answers arrive, and the controlling agent nominates. -/
def nominations : List Move :=
  firstAnswers ++
    [.controlling (.receive ((runSample firstAnswers).controlled.sentBytes 1) 1 (hostAddress 2) 3),
      .controlled (.receive ((runSample firstAnswers).controlling.sentBytes 1) 1 (hostAddress 1) 3),
      .controlling (.stateTimer 4 noShutdown), .controlled (.stateTimer 4 noShutdown),
      .controlling (.stateTimer 5 noShutdown)]

/-- The nomination arrives, twice, and both agents get ready. -/
def readySession : List Move :=
  nominations ++
    [.controlled (.receive ((runSample nominations).controlling.sentBytes 2) 1 (hostAddress 1) 6),
      .controlled (.receive ((runSample nominations).controlling.sentBytes 2) 1 (hostAddress 1) 6),
      .controlling (.stateTimer 7 noShutdown), .controlled (.stateTimer 7 noShutdown),
      .controlled (.stateTimer 8 noShutdown)]

theorem readySession_agrees :
    PermittedRun (sessionHost 1) (sessionHost 101) sampleSession readySession ∧
      (runSample readySession).controlling.iceAgentState = .READY ∧
      (runSample readySession).controlled.iceAgentState = .READY ∧
      Agreement (sessionHost 1) (sessionHost 101) (runSample readySession) := by
  have hpermitted : PermittedRun (sessionHost 1) (sessionHost 101) sampleSession readySession := by
    decide +kernel
  refine ⟨hpermitted, by decide +kernel, by decide +kernel, ?_⟩
  exact selected_pairs_mirror (sessionHost 1) (sessionHost 101) (length_sessionHost 1)
    (length_sessionHost 101) _ _ _ _ _ _ _ _ _ _ readySession hpermitted

/-- The controlled agent is ready one round after the controlling one. -/
theorem readySession_for_good :
    (runSample (readySession.take 19)).controlling.selectedEnds =
        some (hostAddress 1, hostAddress 2) ∧
      (runSample readySession).controlled.selectedEnds = some (hostAddress 2, hostAddress 1) ∧
      SelectedForGood (runSample (readySession.take 19))
        ((runSample (readySession.take 19)).run (sessionHost 1) (sessionHost 101)
          (readySession.drop 19)) := by
  refine ⟨by decide +kernel, by decide +kernel, ?_⟩
  exact selected_for_good (sessionHost 1) (sessionHost 101) (length_sessionHost 1)
    (length_sessionHost 101) _ _ _ _ _ _ _ _ _ _ (readySession.take 19) (readySession.drop 19)
    (by decide +kernel)

end KvsWebrtc.Ice
