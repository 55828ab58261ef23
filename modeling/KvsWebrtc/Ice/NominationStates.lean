import KvsWebrtc.Ice.Nomination

/-!
# Nominations and the state machine

What executing a state does to the nominee of an agent: `NOMINATING` chooses it for a controlling
agent when it is set up, and every other state keeps it.  A state is set up once, since without an
error the agent is in the state of the machine.

Principal results:

* `Based.nominatingSetup` — the choice.
* `Based.executeReady` — the selected pair is nominated, and is not freed while the sockets work.
* `Driven.stepIceAgentStateMachine` — a round of the state machine.
-/

namespace KvsWebrtc.Ice

open Stun

section

variable {w : Host} {controls : Bool} {N : Option (KvsIpAddress × KvsIpAddress)} {a b : IceAgent}

/-! ## The next state -/

/-- The states that may follow a state without an error; `state` is the state of the agent. -/
def successors (state : ICE_AGENT_STATE) : ICE_AGENT_STATE → List ICE_AGENT_STATE
  | .NEW => [.CHECK_CONNECTION]
  | .CHECK_CONNECTION => [.CHECK_CONNECTION, .CONNECTED]
  | .CONNECTED => [.NOMINATING]
  | .NOMINATING => [.NOMINATING, .READY]
  | .READY => [.READY, .DISCONNECTED]
  | .DISCONNECTED => [state]
  | .FAILED => []

theorem unlessFailed_cases (a : IceAgent) (next : Except STATUS ICE_AGENT_STATE) :
    (unlessFailed a next).2 = .FAILED ∨
      a.iceAgentStatus = none ∧ next = .ok (unlessFailed a next).2 := by
  unfold unlessFailed
  cases hstatus : a.iceAgentStatus with
  | some e => exact Or.inl rfl
  | none =>
    cases next with
    | error e => exact Or.inl rfl
    | ok state => exact Or.inr ⟨rfl, rfl⟩

/-- The machine fails, leaves `NEW`, or goes on without an error. -/
theorem getNextState_follows (a : IceAgent) (time : Nat) :
    (getNextState a time).2 = .FAILED ∨
      (a.currentState = .NEW ∧ (getNextState a time).2 = .CHECK_CONNECTION) ∨
      (a.iceAgentStatus = none ∧
        (getNextState a time).2 ∈ successors a.iceAgentState a.currentState) := by
  have hnext : ∀ next : Except STATUS ICE_AGENT_STATE,
      (∀ s, next = .ok s → s ∈ successors a.iceAgentState a.currentState) →
      (unlessFailed a next).2 = .FAILED ∨ a.iceAgentStatus = none ∧
        (unlessFailed a next).2 ∈ successors a.iceAgentState a.currentState := by
    intro next hall
    rcases unlessFailed_cases a next with hfailed | ⟨hstatus, hok⟩
    · exact Or.inl hfailed
    · exact Or.inr ⟨hstatus, hall _ hok⟩
  unfold getNextState
  split
  case h_1 hstate => exact Or.inr (Or.inl ⟨hstate, rfl⟩)
  case h_7 => exact Or.inl rfl
  all_goals rename_i hstate
  · refine (hnext _ ?_).imp id Or.inr
    rw [hstate]
    intro s hs
    split at hs
    · cases hs
      simp [successors]
    · split at hs
      · cases hs
      · cases hs
        simp [successors]
  · refine (hnext _ ?_).imp id Or.inr
    rw [hstate]
    intro s hs
    cases hs
    simp [successors]
  · refine (hnext _ ?_).imp id Or.inr
    rw [hstate]
    intro s hs
    split at hs
    · cases hs
      simp [successors]
    · split at hs
      · cases hs
      · cases hs
        simp [successors]
  · unfold fromReadyIceAgentState
    split
    · exact Or.inl rfl
    · rename_i hstatus
      rcases unlessFailed_cases (iceAgentStateMachineCheckDisconnection a time).1
        (iceAgentStateMachineCheckDisconnection a time).2 with hfailed | ⟨_, hok⟩
      · exact Or.inl hfailed
      · refine Or.inr (Or.inr ⟨hstatus, ?_⟩)
        rw [hstate]
        generalize (unlessFailed _ _).2 = s at hok
        unfold iceAgentStateMachineCheckDisconnection at hok
        repeat' split at hok
        all_goals cases hok
        all_goals simp [successors]
  · refine (hnext _ ?_).imp id Or.inr
    rw [hstate]
    intro s hs
    cases hs
    simp [successors]

/-! ## Executing the states -/

theorem Based.machine (h : Based w controls N a) (status : Option STATUS) (detected : Bool)
    (current : ICE_AGENT_STATE) :
    Based w controls N { a with
      iceAgentStatus := status
      detectedDisconnection := detected
      currentState := current } :=
  ⟨h.placed, h.sent, h.role, h.full, h.ready, h.found⟩

theorem renewBindingRequest_eq (w : Host) (a : IceAgent) (nomination : Bool) :
    ∃ x, (∀ r, x = some r → IsRequest nomination r) ∧
      (renewBindingRequest w a nomination).1 =
        { a with pBindingRequest := x, draws := a.draws + 1 } := by
  unfold renewBindingRequest
  split
  · exact ⟨none, nofun, rfl⟩
  · rename_i request hrequest
    refine ⟨some request, ?_, rfl⟩
    intro r hr
    rw [← Option.some.inj hr]
    exact isRequest_bindingRequest (length_iceUtilsGenerateTransactionId w _) hrequest

theorem Based.checkingBody (h : Based w controls N a) (hstate : a.iceAgentState = a.currentState)
    (hconnected : a.currentState ≠ .DISCONNECTED)
    (hlen : ∀ k m, (w.hmac k m).length = STUN_HMAC_VALUE_LEN)
    (hplain : ∀ r, a.pBindingRequest = some r → IsRequest false r)
    (hearly : controls = true → ¬ a.Late → N = none) (hhealthy : w.Open → Healthy a) :
    Driven w controls N (iceAgentCheckCandidatePairConnection w a) := by
  have hdriven : Driven w controls N a :=
    ⟨h, Or.inr hstate, hconnected, Or.inl hplain, hearly, fun hopen _ _ => hhealthy hopen⟩
  exact hdriven.steady (Steady.checkCandidatePairConnection hlen hplain)

theorem checkConnectionSetup_eq (hfull : a.isLiteAgent = false) (time : Nat) :
    ∃ x endTime, (∀ r, x = some r → IsRequest false r) ∧
      (iceAgentCheckConnectionStateSetup w a time).1 =
        { a.setPairStates fun _ => .WAITING with
          pBindingRequest := x
          draws := a.draws + 1
          stateEndTime := endTime } := by
  have hlite : ¬ (a.setPairStates fun _ => .WAITING).isLiteAgent = true := by
    rw [Bool.not_eq_true]
    exact hfull
  obtain ⟨x, hx, heq⟩ := renewBindingRequest_eq w (a.setPairStates fun _ => .WAITING) false
  unfold iceAgentCheckConnectionStateSetup
  dsimp only
  rw [if_neg hlite]
  split
  · rename_i c e hc
    rw [hc] at heq
    exact ⟨x, a.stateEndTime, hx, heq⟩
  · rename_i c hc
    rw [hc] at heq
    subst heq
    exact ⟨x, _, hx, rfl⟩

theorem Based.executeCheckConnection (h : Based w controls N a)
    (hcurrent : a.currentState = .CHECK_CONNECTION)
    (hlen : ∀ k m, (w.hmac k m).length = STUN_HMAC_VALUE_LEN)
    (hplain : ∀ r, a.pBindingRequest = some r → IsRequest false r)
    (hearly : controls = true → N = none) (hhealthy : w.Open → Healthy a) (time : Nat) :
    Driven w controls N (executeCheckConnectionIceAgentState w a time) := by
  have hconnected : a.currentState ≠ .DISCONNECTED := by
    rw [hcurrent]
    decide
  obtain ⟨x, endTime, hx, heq⟩ := checkConnectionSetup_eq (w := w) h.full time
  have hwaiting : Steady w (if controls then N else none) a (a.setPairStates fun _ => .WAITING) :=
    Steady.setPairStates fun _ _ => by simp
  have hb := h.steady hwaiting
  refine enter_cases ?_ (fun _ => ?_) fun _ => ?_
  · intro hstate
    rw [h.full, if_neg Bool.false_ne_true]
    exact h.checkingBody (hstate.trans hcurrent.symm) hconnected hlen hplain
      (fun hc _ => hearly hc) hhealthy
  · intro e _
    rw [heq]
    refine ⟨⟨hb.placed, hb.sent, hb.role, hb.full, hb.ready, hb.found⟩, Or.inl rfl, hconnected,
      Or.inl hx, fun hc _ => hearly hc, fun hopen _ _ => ?_⟩
    have ha := hwaiting.healthy hopen (hhealthy hopen)
    exact ⟨ha.valid, ha.alive⟩
  · intro _
    rw [heq]
    rw [if_neg (by rw [hb.full]; exact Bool.false_ne_true)]
    refine Based.checkingBody ⟨hb.placed, hb.sent, hb.role, hb.full, nofun, hb.found⟩ hcurrent.symm
      hconnected hlen hx (fun hc _ => hearly hc) ?_
    intro hopen
    have ha := hwaiting.healthy hopen (hhealthy hopen)
    exact ⟨ha.valid, ha.alive⟩

theorem Placed.select (h : Placed N a.view) {p : IceCandidatePair} (hp : p ∈ a.iceCandidatePairs)
    (hnominated : p.nominated = true) :
    Placed N { a with pDataSendingIceCandidatePair := some p.ptr }.view := by
  refine ⟨h.host, h.hosts, h.remote, h.remotes, h.pairs, h.pair, h.nominated, ?_⟩
  intro ptr hptr
  obtain rfl : p.ptr = ptr := Option.some.inj hptr
  refine ⟨(h.pair p.fixed (fixed_mem_pairs hp)).1, ?_⟩
  intro q hq hqp
  obtain rfl : q = p.fixed := List.inj_on_of_nodup_map h.pairs hq (fixed_mem_pairs hp) hqp
  exact hnominated

theorem Placed.deselect (h : Placed N a.view) :
    Placed N { a with pDataSendingIceCandidatePair := none }.view :=
  ⟨h.host, h.hosts, h.remote, h.remotes, h.pairs, h.pair, h.nominated, nofun⟩

theorem Based.executeConnected (h : Based w controls N a) (hcurrent : a.currentState = .CONNECTED)
    (hplain : ∀ r, a.pBindingRequest = some r → IsRequest false r)
    (hearly : controls = true → N = none) (hhealthy : w.Open → Healthy a) :
    Driven w controls N (executeConnectedIceAgentState a) := by
  unfold executeConnectedIceAgentState iceAgentConnectedStateSetup
  have hconnected : a.currentState ≠ .DISCONNECTED := by
    rw [hcurrent]
    decide
  have hhealthy' : ∀ selected, w.Open → Healthy { a with
      pDataSendingIceCandidatePair := selected
      iceAgentState := .CONNECTED } := fun _ hopen =>
    ⟨(hhealthy hopen).valid, (hhealthy hopen).alive⟩
  cases hfound : a.iceCandidatePairs.find? IceCandidatePair.isSelectable with
  | none =>
    exact ⟨⟨h.placed.deselect, h.sent, h.role, h.full, nofun, nofun⟩, Or.inr hcurrent.symm,
      hconnected, Or.inl hplain, fun hc _ => hearly hc, fun hopen _ _ => hhealthy' none hopen⟩
  | some p =>
    have hp := List.mem_of_find?_eq_some hfound
    have hselectable := List.find?_some hfound
    unfold IceCandidatePair.isSelectable at hselectable
    rw [Bool.and_eq_true] at hselectable
    refine ⟨⟨h.placed.select hp hselectable.1, h.sent, h.role, h.full, nofun, ?_⟩,
      Or.inr hcurrent.symm, hconnected, Or.inl hplain, fun hc _ => hearly hc,
      fun hopen _ _ => hhealthy' _ hopen⟩
    intro _ ptr hptr
    obtain rfl : p.ptr = ptr := Option.some.inj hptr
    exact List.mem_map.mpr ⟨p.fixed, fixed_mem_pairs hp, rfl⟩

theorem Based.nominateCandidatePair (h : Based w true none a) :
    (iceAgentNominateCandidatePair a).1 = a ∨
      ∃ N, Based w true N (iceAgentNominateCandidatePair a).1 ∧
        (Healthy a → Healthy (iceAgentNominateCandidatePair a).1) ∧
        (iceAgentNominateCandidatePair a).1 =
          { a with iceCandidatePairs := (iceAgentNominateCandidatePair a).1.iceCandidatePairs } := by
  unfold iceAgentNominateCandidatePair
  split
  · exact Or.inl rfl
  · split
    · exact Or.inl rfl
    · rename_i p hfound
      right
      have hp := List.mem_of_find?_eq_some hfound
      obtain ⟨_, hlocal, hremote⟩ := h.placed.pair p.fixed (fixed_mem_pairs hp)
      obtain ⟨l, hl, hlptr⟩ := List.mem_map.mp hlocal
      obtain ⟨r, hr, hrptr⟩ := List.mem_map.mp hremote
      refine ⟨some (l.ipAddress, r.ipAddress), ?_, ?_, rfl⟩
      · have hnear : ∀ l' ∈ a.view.hosts, l'.ptr = p.localPtr → ∀ r' ∈ a.view.remotes,
            r'.ptr = p.remotePtr →
            Near (some (l.ipAddress, r.ipAddress)) l'.ipAddress r'.ipAddress := by
          intro l' hl' hl'ptr r' hr' hr'ptr
          obtain rfl : l' = l :=
            List.inj_on_of_nodup_map h.placed.hosts hl' hl (hl'ptr.trans hlptr.symm)
          obtain rfl : r' = r :=
            List.inj_on_of_nodup_map h.placed.remotes hr' hr (hr'ptr.trans hrptr.symm)
          exact ⟨_, rfl, isSameIpAddress_refl _, isSameIpAddress_refl _⟩
        set b := a.updatePair p.ptr fun p => { p with
          nominated := true
          pTransactionIdStore := transactionIdStoreClear p.pTransactionIdStore } with hb
        have hptrs : b.view.pairs.map IceCandidatePair.ptr =
            a.view.pairs.map IceCandidatePair.ptr := by
          rw [hb]
          unfold IceAgent.view IceAgent.updatePair
          simp only [List.map_map]
          refine List.map_congr_left fun x _ => ?_
          simp only [Function.comp]
          split <;> rfl
        have hbased : Based w true (some (l.ipAddress, r.ipAddress)) b := by
          refine ⟨h.placed.of_none.nominate (fun _ => rfl) hp hnear, ?_, h.role, h.full, h.ready, ?_⟩
          · exact fun d hd hcarries => absurd (h.sent d hd hcarries) not_near_none
          · rw [hptrs]
            exact h.found
        have hstates : Steady w (some (l.ipAddress, r.ipAddress)) b
            (b.setPairStates fun p => if p.nominated then p.state else .FROZEN) := by
          refine Steady.setPairStates fun p hp => ?_
          split
          · exact hp
          · simp
        exact hbased.steady hstates
      · intro ha
        refine ⟨ha.valid, ?_⟩
        intro q hq
        obtain ⟨x, hx, rfl⟩ := List.mem_map.mp hq
        obtain ⟨y, hy, rfl⟩ := List.mem_map.mp hx
        have halive := ha.alive y hy
        by_cases hyp : y.ptr = p.ptr
        · simpa [hyp] using halive
        · cases hn : y.nominated <;> simp [hyp, hn, halive]

/-- What a setup of `NOMINATING` leaves. -/
structure NominatingSetup (w : Host) (controls : Bool) (N : Option (KvsIpAddress × KvsIpAddress))
    (a b : IceAgent) : Prop extends Based w controls N b where
  request : (∀ r, b.pBindingRequest = some r → IsRequest false r) ∨
    controls = true ∧ ∀ r, b.pBindingRequest = some r → IsRequest true r
  healthy : w.Open → Healthy b
  started : b.remoteCredentialReceived = true
  current : b.currentState = a.currentState
  state : b.iceAgentState = a.iceAgentState

theorem NominatingSetup.endTime (h : NominatingSetup w controls N a b) (endTime : Nat) :
    NominatingSetup w controls N a { b with stateEndTime := endTime } :=
  ⟨⟨h.placed, h.sent, h.role, h.full, h.ready, h.found⟩, h.request,
    fun hopen => ⟨(h.healthy hopen).valid, (h.healthy hopen).alive⟩, h.started, h.current, h.state⟩

theorem NominatingSetup.renew (h : NominatingSetup w true N a b) :
    NominatingSetup w true N a (renewBindingRequest w b true).1 := by
  obtain ⟨x, hx, heq⟩ := renewBindingRequest_eq w b true
  rw [heq]
  exact ⟨⟨h.placed, h.sent, h.role, h.full, h.ready, h.found⟩, Or.inr ⟨rfl, hx⟩,
    fun hopen => ⟨(h.healthy hopen).valid, (h.healthy hopen).alive⟩, h.started, h.current, h.state⟩

theorem NominatingSetup.nominate (h : NominatingSetup w true none a a) :
    ∃ N, NominatingSetup w true N a (nominate w a).1 := by
  have hchosen : ∃ N, NominatingSetup w true N a (iceAgentNominateCandidatePair a).1 := by
    rcases h.toBased.nominateCandidatePair with hsame | ⟨N, hbased, hhealthy, heq⟩
    · rw [hsame]
      exact ⟨none, h⟩
    · refine ⟨N, hbased, ?_, fun hopen => hhealthy (h.healthy hopen), ?_, ?_, ?_⟩
      · rw [heq]
        exact h.request
      · rw [heq]
        exact h.started
      · rw [heq]
      · rw [heq]
  obtain ⟨N, hN⟩ := hchosen
  unfold Ice.nominate
  split
  · rename_i c e hc
    rw [hc] at hN
    exact ⟨N, hN⟩
  · rename_i c hc
    rw [hc] at hN
    exact ⟨N, hN.renew⟩

/-- **The choice.**  Setting up `NOMINATING` chooses the nominee of a controlling agent. -/
theorem Based.nominatingSetup (h : Based w controls N a)
    (hstarted : a.remoteCredentialReceived = true)
    (hplain : ∀ r, a.pBindingRequest = some r → IsRequest false r)
    (hearly : controls = true → N = none) (hhealthy : w.Open → Healthy a) (time : Nat) :
    ∃ M, (M = N ∨ controls = true ∧ N = none) ∧
      NominatingSetup w controls M a (iceAgentNominatingStateSetup w a time).1 := by
  have hself : NominatingSetup w controls N a a :=
    ⟨h, Or.inl hplain, hhealthy, hstarted, rfl, rfl⟩
  have hrole : a.isControlling = controls := by rw [h.role, hstarted, Bool.and_true]
  have hsetup : ∃ M, (M = N ∨ controls = true ∧ N = none) ∧
      NominatingSetup w controls M a (if a.isControlling then Ice.nominate w a else (a, none)).1 := by
    cases controls with
    | false =>
      rw [if_neg (by rw [hrole]; exact Bool.false_ne_true)]
      exact ⟨N, Or.inl rfl, hself⟩
    | true =>
      obtain rfl := hearly rfl
      rw [if_pos hrole]
      obtain ⟨M, hM⟩ := hself.nominate
      exact ⟨M, Or.inr ⟨rfl, rfl⟩, hM⟩
  obtain ⟨M, hchoice, hM⟩ := hsetup
  refine ⟨M, hchoice, ?_⟩
  unfold iceAgentNominatingStateSetup
  split
  · rename_i c e hc
    rw [hc] at hM
    exact hM
  · rename_i c hc
    rw [hc] at hM
    exact hM.endTime _

theorem Driven.nominatingBody (h : Driven w controls N a)
    (hstarted : a.remoteCredentialReceived = true)
    (hlen : ∀ k m, (w.hmac k m).length = STUN_HMAC_VALUE_LEN) :
    Driven w controls N (if a.isLiteAgent then a
      else if a.isControlling then iceAgentSendCandidateNomination w a
      else iceAgentCheckCandidatePairConnection w a) := by
  have hrole : a.isControlling = controls := by rw [h.role, hstarted, Bool.and_true]
  rw [if_neg (by rw [h.full]; exact Bool.false_ne_true)]
  cases controls with
  | false =>
    rw [if_neg (by rw [hrole]; exact Bool.false_ne_true)]
    rcases h.request with hplain | ⟨_, hcontrols, _⟩
    · exact h.steady (Steady.checkCandidatePairConnection hlen hplain)
    · cases hcontrols
  | true =>
    rw [if_pos hrole]
    refine h.steady (Steady.sendCandidateNomination hlen ?_ h.placed)
    rcases h.request with hplain | ⟨hflag, _⟩
    · exact ⟨false, hplain⟩
    · exact ⟨true, hflag⟩

theorem Based.executeNominating (h : Based w controls N a)
    (hcurrent : a.currentState = .NOMINATING) (hstarted : a.remoteCredentialReceived = true)
    (hlen : ∀ k m, (w.hmac k m).length = STUN_HMAC_VALUE_LEN)
    (hrequest : (∀ r, a.pBindingRequest = some r → IsRequest false r) ∨
      (∀ r, a.pBindingRequest = some r → IsRequest true r) ∧ controls = true ∧ a.Late)
    (hfirst : a.iceAgentState ≠ .NOMINATING →
      (∀ r, a.pBindingRequest = some r → IsRequest false r) ∧ (controls = true → N = none))
    (hhealthy : w.Open → Healthy a) (time : Nat) :
    ∃ M, (M = N ∨ controls = true ∧ N = none) ∧
      Driven w controls M (executeNominatingIceAgentState w a time) := by
  have hconnected : a.currentState ≠ .DISCONNECTED := by
    rw [hcurrent]
    decide
  have hlate : a.Late := Or.inl hcurrent
  by_cases hstate : a.iceAgentState = .NOMINATING
  · refine ⟨N, Or.inl rfl, ?_⟩
    have hdriven : Driven w controls N a :=
      ⟨h, Or.inr (hstate.trans hcurrent.symm), hconnected, hrequest,
        fun _ hearly => absurd hlate hearly, fun hopen _ _ => hhealthy hopen⟩
    unfold executeNominatingIceAgentState IceAgent.enter
    rw [if_pos hstate]
    exact hdriven.nominatingBody hstarted hlen
  · obtain ⟨hplain, hearly⟩ := hfirst hstate
    obtain ⟨M, hchoice, hM⟩ := h.nominatingSetup hstarted hplain hearly hhealthy time
    refine ⟨M, hchoice, ?_⟩
    have hlate' : ∀ b : IceAgent, b.currentState = a.currentState → b.Late := fun b hb =>
      (late_congr hb).mpr hlate
    have hrequest' := hM.request.imp id fun hflag =>
      And.intro hflag.2 (And.intro hflag.1 (hlate' _ hM.current))
    refine enter_cases (fun hbefore => absurd hbefore hstate) (fun _ => ?_) fun _ => ?_
    · intro e _
      refine ⟨⟨hM.placed, hM.sent, hM.role, hM.full, hM.ready, hM.found⟩, Or.inl rfl, ?_, hrequest',
        fun _ hearly => absurd (hlate' _ hM.current) hearly, fun hopen _ _ => ?_⟩
      · have hc := hM.current
        rw [← hc] at hconnected
        exact hconnected
      · exact ⟨(hM.healthy hopen).valid, (hM.healthy hopen).alive⟩
    · intro _
      refine Driven.nominatingBody ?_ hM.started hlen
      refine ⟨⟨hM.placed, hM.sent, hM.role, hM.full, nofun, hM.found⟩, Or.inr ?_, ?_, hrequest',
        fun _ hearly => absurd (hlate' _ hM.current) hearly, fun hopen _ _ => ?_⟩
      · exact (hM.current.trans hcurrent).symm
      · have hc := hM.current
        rw [← hc] at hconnected
        exact hconnected
      · exact ⟨(hM.healthy hopen).valid, (hM.healthy hopen).alive⟩

theorem Placed.sublist {v : View} (h : Placed N v) {pairs : List IceCandidatePair}
    (hsub : pairs.Sublist v.pairs) : Placed N { v with pairs := pairs } where
  host := h.host
  hosts := h.hosts
  remote := h.remote
  remotes := h.remotes
  pairs := h.pairs.sublist (hsub.map IceCandidatePair.ptr)
  pair := fun p hp => h.pair p (hsub.subset hp)
  nominated := fun p hp => h.nominated p (hsub.subset hp)
  selected := fun ptr hptr => ⟨(h.selected ptr hptr).1,
    fun p hp => (h.selected ptr hptr).2 p (hsub.subset hp)⟩

theorem view_keepSelected (a : IceAgent) (ptr : Nat) :
    ∃ pairs, pairs.Sublist a.view.pairs ∧ (a.keepSelected ptr).view = { a.view with pairs } := by
  refine ⟨(a.keepSelected ptr).view.pairs, ?_, ?_⟩
  · unfold IceAgent.keepSelected iceAgentInvalidateCandidatePair IceAgent.view
    have hfixed : ∀ f : IceCandidatePair → IceCandidatePair, (∀ p, (f p).fixed = p.fixed) →
        (a.iceCandidatePairs.map f).map IceCandidatePair.fixed =
          a.iceCandidatePairs.map IceCandidatePair.fixed := by
      intro f hf
      rw [List.map_map]
      exact List.map_congr_left fun p _ => hf p
    refine (List.filter_sublist.map IceCandidatePair.fixed).trans ?_
    rw [hfixed]
    intro p
    split <;> rfl
  · unfold IceAgent.keepSelected iceAgentInvalidateCandidatePair IceAgent.view
    congr 1
    rw [List.map_map]
    refine List.map_congr_left fun c _ => ?_
    simp only [Function.comp]
    split <;> rfl

theorem pairPtrs_view (a : IceAgent) : a.view.pairs.map IceCandidatePair.ptr =
    a.iceCandidatePairs.map IceCandidatePair.ptr := by
  unfold IceAgent.view
  rw [List.map_map]
  rfl

theorem selected_survives {p : IceCandidatePair} (h : Placed N a.view) (ha : Healthy a)
    (hp : p ∈ a.iceCandidatePairs) :
    p.ptr ∈ (a.keepSelected p.ptr).view.pairs.map IceCandidatePair.ptr := by
  have hself : a.pair p.ptr = some p := by
    obtain ⟨q, hq⟩ := Held.pair_isSome (List.mem_map_of_mem hp)
    obtain ⟨hqmem, hqptr⟩ := pair_mem hq
    have hdistinct := h.pairs
    rw [pairPtrs_view] at hdistinct
    rw [hq, List.inj_on_of_nodup_map hdistinct hqmem hp hqptr]
  have hlocal : (a.localCandidate p.localPtr).any (fun c => c.state = .VALID) = true := by
    obtain ⟨c, hc, hcptr⟩ := List.mem_map.mp (h.pair p.fixed (fixed_mem_pairs hp)).2.1
    obtain ⟨l, hl, rfl⟩ := List.mem_map.mp hc
    have hsome : (a.localCandidate p.localPtr).isSome := by
      rw [IceAgent.localCandidate, List.find?_isSome]
      have hptr : l.ptr = p.localPtr := hcptr
      exact ⟨l, hl, by simp [hptr]⟩
    obtain ⟨l', hl'⟩ := Option.isSome_iff_exists.mp hsome
    rw [hl']
    simp [ha.valid l' (localCandidate_mem hl').1]
  have hkept : p ∈ (a.keepSelected p.ptr).iceCandidatePairs :=
    (Held.mem_keepSelected hself p).mpr ⟨hp, ha.alive p hp, rfl, hlocal⟩
  exact List.mem_map.mpr ⟨p.fixed, fixed_mem_pairs hkept, rfl⟩

theorem Based.keepSelected (h : Based w controls N a) {ptr : Nat}
    (hselected : a.pDataSendingIceCandidatePair = some ptr) (hhealthy : w.Open → Healthy a) :
    Based w controls N { a.keepSelected ptr with iceAgentState := .READY } := by
  obtain ⟨pairs, hsub, hview⟩ := view_keepSelected a ptr
  refine ⟨?_, h.sent, h.role, h.full, ?_, ?_⟩
  · have hplaced : Placed N (a.keepSelected ptr).view := by
      rw [hview]
      exact h.placed.sublist hsub
    exact hplaced
  · intro _
    have hsame : (a.keepSelected ptr).pDataSendingIceCandidatePair = some ptr := hselected
    exact Option.isSome_iff_exists.mpr ⟨ptr, hsame⟩
  · intro hopen x hx
    have hsame : (a.keepSelected ptr).pDataSendingIceCandidatePair = some ptr := hselected
    obtain rfl : ptr = x := Option.some.inj (hsame.symm.trans hx)
    have hmem := h.found hopen ptr hselected
    rw [pairPtrs_view] at hmem
    obtain ⟨p, hp, rfl⟩ := List.mem_map.mp hmem
    exact selected_survives h.placed (hhealthy hopen) hp

theorem Based.readyPair (h : Based w controls N a) {ptr : Nat} (hready : a.readyPair = some ptr) :
    Based w controls N { a with
      pDataSendingIceCandidatePair := some ptr
      stateEndTime := INVALID_TIMESTAMP_VALUE } := by
  unfold IceAgent.readyPair at hready
  split at hready
  · rename_i x hx
    obtain rfl : x = ptr := Option.some.inj hready
    rw [← hx]
    exact ⟨h.placed, h.sent, h.role, h.full, h.ready, h.found⟩
  · obtain ⟨p, hfound, rfl⟩ := Option.map_eq_some_iff.mp hready
    have hp := List.mem_of_find?_eq_some hfound
    have hselectable := List.find?_some hfound
    unfold IceCandidatePair.isSelectable at hselectable
    rw [Bool.and_eq_true] at hselectable
    refine ⟨h.placed.select hp hselectable.1, h.sent, h.role, h.full, fun _ => rfl, ?_⟩
    intro _ x hx
    obtain rfl : p.ptr = x := Option.some.inj hx
    exact List.mem_map.mpr ⟨p.fixed, fixed_mem_pairs hp, rfl⟩

theorem Based.freeShutdown (h : Based w controls N a) (shutdown : Nat → Bool) :
    a.freeShutdown shutdown = a := by
  have hall : a.localCandidates.filter (fun c =>
      !(decide (c.iceCandidateType = .RELAYED) && shutdown c.ptr)) = a.localCandidates := by
    refine List.filter_eq_self.mpr fun c hc => ?_
    have hhost : c.iceCandidateType = .HOST := (h.placed.host c.fixed (fixed_mem_hosts hc)).1
    simp [hhost]
  unfold IceAgent.freeShutdown
  rw [hall]

theorem Based.executeReady (h : Based w controls N a) (hcurrent : a.currentState = .READY)
    (hrequest : (∀ r, a.pBindingRequest = some r → IsRequest false r) ∨
      (∀ r, a.pBindingRequest = some r → IsRequest true r) ∧ controls = true ∧ a.Late)
    (hfirst : a.iceAgentState ≠ .READY → w.Open → Healthy a) (shutdown : Nat → Bool) :
    Driven w controls N (executeReadyIceAgentState a shutdown) := by
  have hlate : a.Late := Or.inr (Or.inl hcurrent)
  have hconnected : a.currentState ≠ .DISCONNECTED := by
    rw [hcurrent]
    decide
  -- in `READY` nothing else has to be shown
  have hready : ∀ b : IceAgent, Based w controls N b → b.pBindingRequest = a.pBindingRequest →
      b.currentState = a.currentState → (b.iceAgentStatus.isSome ∨ b.iceAgentState = .READY) →
      Driven w controls N b := by
    intro b hb hreq hcur hset
    refine ⟨hb, ?_, ?_, ?_, fun _ hearly => absurd ((late_congr hcur).mpr hlate) hearly, ?_⟩
    · rw [hcur, hcurrent]
      exact hset
    · rw [hcur]
      exact hconnected
    · rw [hreq, late_congr hcur]
      exact hrequest
    · intro _ hne
      exact absurd (hcur.trans hcurrent) hne
  by_cases hstate : a.iceAgentState = .READY
  · unfold executeReadyIceAgentState IceAgent.enter
    rw [if_pos hstate]
    dsimp only
    rw [h.freeShutdown]
    exact hready a h rfl rfl (Or.inr hstate)
  · unfold executeReadyIceAgentState
    refine enter_cases (fun hbefore => absurd hbefore hstate) (fun _ => ?_) fun _ => ?_
    · intro e he
      unfold iceAgentReadyStateSetup at he ⊢
      split at he
      · exact hready _ ⟨h.placed, h.sent, h.role, h.full, h.ready, h.found⟩ rfl rfl (Or.inl rfl)
      · cases he
    · intro he
      unfold iceAgentReadyStateSetup at he ⊢
      split at he
      · cases he
      · rename_i ptr hptr
        have hkept := (h.readyPair hptr).keepSelected rfl fun hopen =>
          ⟨(hfirst hstate hopen).valid, (hfirst hstate hopen).alive⟩
        rw [hkept.freeShutdown]
        exact hready _ hkept rfl rfl (Or.inr rfl)

/-! ## Steps of the machine -/

theorem mem_acceptStates (hback : a.currentState = .DISCONNECTED → a.iceAgentState = .READY)
    (time : Nat) : a.currentState ∈ acceptStates (getNextState a time).2 := by
  rcases getNextState_follows a time with hnext | ⟨hnew, hnext⟩ | ⟨_, hnext⟩
  · rw [hnext]
    cases hcurrent : a.currentState with
    | NEW =>
      simp only [getNextState, hcurrent] at hnext
      cases hnext
    | _ => decide
  · rw [hnext, hnew]
    decide
  · revert hnext
    generalize (getNextState a time).2 = next
    cases hcurrent : a.currentState with
    | DISCONNECTED =>
      rw [hback hcurrent]
      cases next <;> simp [successors, acceptStates]
    | _ => cases next <;> simp [successors, acceptStates]

theorem stepWith_eq (hback : a.currentState = .DISCONNECTED → a.iceAgentState = .READY)
    (execute : ICE_AGENT_STATE → IceAgent → IceAgent) (time : Nat) :
    ∃ status detected, stepWith execute time a = execute (getNextState a time).2 { a with
      iceAgentStatus := status
      detectedDisconnection := detected
      currentState := (getNextState a time).2 } := by
  obtain ⟨status, detected, heq⟩ := getNextState_eq a time
  refine ⟨status, detected, ?_⟩
  unfold stepWith
  dsimp only
  rw [heq]
  exact if_pos (mem_acceptStates hback time)

theorem Based.executeFailed (h : Based w controls N a) (hcurrent : a.currentState = .FAILED)
    (hrequest : (∀ r, a.pBindingRequest = some r → IsRequest false r) ∨
      (∀ r, a.pBindingRequest = some r → IsRequest true r) ∧ controls = true) :
    Driven w controls N { a with iceAgentState := .FAILED } := by
  have hlate : a.Late := Or.inr (Or.inr hcurrent)
  refine ⟨⟨h.placed, h.sent, h.role, h.full, nofun, h.found⟩, Or.inr hcurrent.symm, ?_, ?_,
    fun _ hearly => absurd hlate hearly, fun _ _ hfailed => absurd hcurrent hfailed⟩
  · show a.currentState ≠ .DISCONNECTED
    rw [hcurrent]
    decide
  · exact hrequest.imp id fun hflag => ⟨hflag.1, hflag.2, hlate⟩

theorem Based.executeDisconnected (h : Based w controls N a)
    (hcurrent : a.currentState = .DISCONNECTED) (hstate : a.iceAgentState = .READY)
    (hrequest : (∀ r, a.pBindingRequest = some r → IsRequest false r) ∨
      (∀ r, a.pBindingRequest = some r → IsRequest true r) ∧ controls = true) (time : Nat)
    (shutdown : Nat → Bool) :
    Driven w controls N (executeDisconnectedIceAgentState w time shutdown a) := by
  unfold executeDisconnectedIceAgentState
  rw [if_neg (by rw [hstate]; decide)]
  set b : IceAgent := { a with
    detectedDisconnection := true
    disconnectionGracePeriodEndTime := time + KVS_ICE_ENTER_STATE_FAILED_GRACE_PERIOD }
  have hb : Based w controls N b := ⟨h.placed, h.sent, h.role, h.full, h.ready, h.found⟩
  obtain ⟨status, detected, heq⟩ := stepWith_eq (a := b) (fun _ => hstate)
    (executeState w time shutdown id) time
  rw [heq]
  have hmachine := hb.machine status detected
  rcases getNextState_of_disconnected (a := b) time hcurrent with hnext | hnext
  · rw [hnext]
    exact (hmachine .FAILED).executeFailed rfl hrequest
  · have hready : (getNextState b time).2 = .READY := hnext.trans hstate
    rw [hready]
    refine (hmachine .READY).executeReady rfl ?_ (fun hne => absurd hstate hne) shutdown
    exact hrequest.imp id fun hflag => ⟨hflag.1, hflag.2, Or.inr (Or.inl rfl)⟩

/-- **A step of the machine** keeps the nominee, or chooses it. -/
theorem Driven.stepStateMachine (h : Driven w controls N a)
    (hstarted : a.iceAgentStatus = none → a.remoteCredentialReceived = true)
    (hlen : ∀ k m, (w.hmac k m).length = STUN_HMAC_VALUE_LEN) (time : Nat)
    (shutdown : Nat → Bool) :
    ∃ M, (M = N ∨ controls = true ∧ N = none) ∧
      Driven w controls M (stepStateMachine w time shutdown a) := by
  obtain ⟨status, detected, heq⟩ := stepWith_eq (a := a) (fun hc => absurd hc h.connected)
    (executeState w time shutdown (executeDisconnectedIceAgentState w time shutdown)) time
  unfold Ice.stepStateMachine
  rw [heq]
  have hmachine := h.toBased.machine status detected
  have hrequest := h.request.imp id fun hflag => And.intro hflag.1 hflag.2.1
  have hplain : ¬ a.Late → ∀ r, a.pBindingRequest = some r → IsRequest false r := by
    intro hearly
    rcases h.request with hplain | ⟨_, _, hlate⟩
    · exact hplain
    · exact absurd hlate hearly
  have hhealthy : ∀ current, a.currentState ≠ .READY → a.currentState ≠ .FAILED → w.Open →
      Healthy { a with
        iceAgentStatus := status
        detectedDisconnection := detected
        currentState := current } := fun _ hready hfailed hopen =>
    ⟨(h.healthy hopen hready hfailed).valid, (h.healthy hopen hready hfailed).alive⟩
  have hsound : ∀ current, ¬ a.Late → w.Open → Healthy { a with
      iceAgentStatus := status
      detectedDisconnection := detected
      currentState := current } := fun current hearly =>
    hhealthy current (fun hc => hearly (Or.inr (Or.inl hc))) fun hc => hearly (Or.inr (Or.inr hc))
  have hcheck : (getNextState a time).2 = .CHECK_CONNECTION → ¬ a.Late →
      Driven w controls N (executeState w time shutdown
        (executeDisconnectedIceAgentState w time shutdown) (getNextState a time).2 { a with
          iceAgentStatus := status
          detectedDisconnection := detected
          currentState := (getNextState a time).2 }) := by
    intro hnext hearly
    rw [hnext]
    refine (hmachine .CHECK_CONNECTION).executeCheckConnection rfl hlen (hplain hearly)
      (fun hc => h.early hc hearly) (hsound _ hearly) time
  rcases getNextState_follows a time with hnext | ⟨hnew, hnext⟩ | ⟨hstatus, hnext⟩
  · rw [hnext]
    exact ⟨N, Or.inl rfl, (hmachine .FAILED).executeFailed rfl hrequest⟩
  · refine ⟨N, Or.inl rfl, hcheck hnext ?_⟩
    unfold IceAgent.Late
    rw [hnew]
    decide
  · -- without an error the agent is in the state of the machine
    have hstate : a.iceAgentState = a.currentState := by
      rcases h.settled with hsome | hstate
      · rw [hstatus] at hsome
        cases hsome
      · exact hstate
    cases hcurrent : a.currentState with
    | FAILED =>
      rw [hcurrent] at hnext
      cases hnext
    | DISCONNECTED => exact absurd hcurrent h.connected
    | NEW =>
      rw [hcurrent] at hnext
      refine ⟨N, Or.inl rfl, hcheck (List.mem_singleton.mp hnext) ?_⟩
      unfold IceAgent.Late
      rw [hcurrent]
      decide
    | CHECK_CONNECTION =>
      have hearly : ¬ a.Late := by
        unfold IceAgent.Late
        rw [hcurrent]
        decide
      rw [hcurrent] at hnext
      refine ⟨N, Or.inl rfl, ?_⟩
      simp only [successors, List.mem_cons, List.not_mem_nil, or_false] at hnext
      rcases hnext with hnext | hnext
      · exact hcheck hnext hearly
      · rw [hnext]
        refine (hmachine .CONNECTED).executeConnected rfl (hplain hearly)
          (fun hc => h.early hc hearly) (hsound _ hearly)
    | CONNECTED =>
      have hearly : ¬ a.Late := by
        unfold IceAgent.Late
        rw [hcurrent]
        decide
      rw [hcurrent] at hnext
      rw [List.mem_singleton.mp hnext]
      refine (hmachine .NOMINATING).executeNominating rfl (hstarted hstatus) hlen (Or.inl (hplain hearly))
        (fun _ => ⟨hplain hearly, fun hc => h.early hc hearly⟩) (hsound _ hearly) time
    | NOMINATING =>
      have hne : a.currentState ≠ .READY ∧ a.currentState ≠ .FAILED := by
        rw [hcurrent]
        decide
      rw [hcurrent] at hnext hstate
      simp only [successors, List.mem_cons, List.not_mem_nil, or_false] at hnext
      rcases hnext with hnext | hnext
      · rw [hnext]
        exact (hmachine .NOMINATING).executeNominating rfl (hstarted hstatus) hlen
          (hrequest.imp id fun hflag => ⟨hflag.1, hflag.2, Or.inl rfl⟩)
          (fun hfirst => absurd hstate hfirst) (hhealthy _ hne.1 hne.2) time
      · rw [hnext]
        exact ⟨N, Or.inl rfl, (hmachine .READY).executeReady rfl
          (hrequest.imp id fun hflag => ⟨hflag.1, hflag.2, Or.inr (Or.inl rfl)⟩)
          (fun _ => hhealthy _ hne.1 hne.2) shutdown⟩
    | READY =>
      rw [hcurrent] at hnext hstate
      refine ⟨N, Or.inl rfl, ?_⟩
      simp only [successors, List.mem_cons, List.not_mem_nil, or_false] at hnext
      rcases hnext with hnext | hnext
      · rw [hnext]
        exact (hmachine .READY).executeReady rfl
          (hrequest.imp id fun hflag => ⟨hflag.1, hflag.2, Or.inr (Or.inl rfl)⟩)
          (fun hfirst => absurd hstate hfirst) shutdown
      · rw [hnext]
        exact (hmachine .DISCONNECTED).executeDisconnected rfl hstate hrequest time shutdown

/-- **A round of the machine** keeps the nominee, or chooses it. -/
theorem Driven.stepIceAgentStateMachine (h : Driven w controls N a)
    (hstarted : a.remoteCredentialReceived = true)
    (hlen : ∀ k m, (w.hmac k m).length = STUN_HMAC_VALUE_LEN) (time : Nat)
    (shutdown : Nat → Bool) :
    ∃ M, (M = N ∨ controls = true ∧ N = none) ∧
      Driven w controls M (stepIceAgentStateMachine w time shutdown a) := by
  obtain ⟨M, hchoice, hM⟩ := h.stepStateMachine (fun _ => hstarted) hlen time shutdown
  unfold Ice.stepIceAgentStateMachine
  dsimp only
  split
  · rename_i hagain
    have herror : ∀ e : Option STATUS, e.isSome → e = none → False := by
      rintro e hsome rfl
      cases hsome
    obtain ⟨M', hchoice', hM'⟩ := hM.stepStateMachine
      (fun hnone => (herror _ hagain.2 hnone).elim) hlen time shutdown
    refine ⟨M', ?_, hM'⟩
    rcases hchoice with rfl | hchoice
    · exact hchoice'
    · exact Or.inr hchoice
  · exact ⟨M, hchoice, hM⟩

end

end KvsWebrtc.Ice
