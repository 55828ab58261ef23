import KvsWebrtc.Ice.Writes
import KvsWebrtc.Lib.Steps

/-!
# ICE-lite: what a binding request achieved

A lite agent sends no checks.  A pair succeeds when a binding request arrives on it, and it is
nominated by a request with USE-CANDIDATE, before the agent is started as well as after.  The state
machine is not careful with that: the setup of `CHECK_CONNECTION` makes every pair wait, and the
setup of `NOMINATING` freezes the pairs that a controlling agent does not nominate.  A peer that has
sent its requests by then has no reason to send another one, so an early success may be lost for
good.

Principal results:

* `Lite.write` — one write keeps successes and nominations, unless the local candidate is gone.
* `lite_successes_last` — every run whose steps are quiet.
* `early_success_lost` — a run in which the peer nominates before the agent is started.
-/

namespace KvsWebrtc.Ice

open Stun

/-- The local candidate is invalid, or freed. -/
def IceAgent.gone (a : IceAgent) (ptr : Nat) : Prop :=
  ptr < a.nextPtr ∧ ∀ c ∈ a.localCandidates, c.ptr = ptr → c.state = .INVALID

/-- Pairs keep their successes and nominations until their local candidate is gone. -/
def Lasts (a b : IceAgent) : Prop :=
  ∀ p ∈ a.iceCandidatePairs, b.gone p.localPtr ∨
    ∃ q ∈ b.iceCandidatePairs, q.ptr = p.ptr ∧ q.localPtr = p.localPtr ∧ Keeps p q

/-- A lite agent.  Its pairs have local candidates that were valid once, and fail with them. -/
structure Lite (a : IceAgent) : Prop where
  lite : a.isLiteAgent = true
  distinct : Distinct a
  pairsFresh : ∀ p ∈ a.iceCandidatePairs, p.localPtr < a.nextPtr
  joined : ∀ p ∈ a.iceCandidatePairs, ∀ c ∈ a.localCandidates, c.ptr = p.localPtr →
    c.state ≠ .NEW
  failed : ∀ p ∈ a.iceCandidatePairs, p.state = .FAILED → a.gone p.localPtr

theorem Keeps.trans {p q r : IceCandidatePair} (h : Keeps p q) (h' : Keeps q r) : Keeps p r :=
  ⟨fun hp => h'.succeeded (h.succeeded hp), fun hp => h'.nominated (h.nominated hp)⟩

theorem Keeps.selectable {p q : IceCandidatePair} (h : Keeps p q) (hp : p.isSelectable = true) :
    q.isSelectable = true := by
  unfold IceCandidatePair.isSelectable at *
  rw [Bool.and_eq_true, decide_eq_true_iff] at *
  exact ⟨h.nominated hp.1, h.succeeded hp.2⟩

namespace Lasts

variable {a b c : IceAgent}

theorem refl (a : IceAgent) : Lasts a a :=
  fun p hp => Or.inr ⟨p, hp, rfl, rfl, Keeps.refl p⟩

theorem trans (h : Lasts a b) (h' : Lasts b c) (hgone : ∀ ptr, b.gone ptr → c.gone ptr) :
    Lasts a c := by
  intro p hp
  rcases h p hp with hptr | ⟨q, hq, hqp, hql, hkeeps⟩
  · exact Or.inl (hgone _ hptr)
  · rcases h' q hq with hptr | ⟨r, hr, hrq, hrl, hkeeps'⟩
    · exact Or.inl (hql ▸ hptr)
    · exact Or.inr ⟨r, hr, hrq.trans hqp, hrl.trans hql, hkeeps.trans hkeeps'⟩

theorem of_subset (h : ∀ p ∈ a.iceCandidatePairs, p ∈ b.iceCandidatePairs) : Lasts a b :=
  fun p hp => Or.inr ⟨p, h p hp, rfl, rfl, Keeps.refl p⟩

end Lasts

namespace Lite

variable {K : Prop} {a b : IceAgent}

theorem link_eq {p q : IceCandidatePair} (h : q.link = p.link) :
    q.ptr = p.ptr ∧ q.localPtr = p.localPtr := by
  simp only [IceCandidatePair.link, Prod.mk.injEq] at h
  exact ⟨h.1, h.2.1⟩

theorem gone_of_not_valid (h : Lite a) {p : IceCandidatePair} (hp : p ∈ a.iceCandidatePairs)
    (hnot : ¬ (a.localCandidate p.localPtr).any (fun c => c.state = .VALID) = true) :
    a.gone p.localPtr := by
  refine ⟨h.pairsFresh p hp, ?_⟩
  intro c hc hptr
  have hfound : a.localCandidate p.localPtr = some c := by
    cases hfind : a.localCandidate p.localPtr with
    | none =>
      have hnone := List.find?_eq_none.mp hfind c hc
      simp [hptr] at hnone
    | some d =>
      obtain ⟨hd, hdptr⟩ := localCandidate_mem hfind
      rw [h.distinct.local_eq hd hc (hdptr.trans hptr.symm)]
  rw [hfound] at hnot
  have hnew := h.joined p hp c hc hptr
  cases hstate : c.state with
  | NEW => exact absurd hstate hnew
  | VALID => simp [hstate] at hnot
  | INVALID => rfl

theorem gone_write (hw : Write K a b) {ptr : Nat} (hgone : a.gone ptr) : b.gone ptr := by
  obtain ⟨hlt, hall⟩ := hgone
  cases hw with
  | other hsame =>
    unfold IceAgent.gone
    rw [hsame.locals, hsame.next]
    exact ⟨hlt, hall⟩
  | candidates f hf =>
    refine ⟨hlt, ?_⟩
    intro d hd hptr
    obtain ⟨c, hc, rfl⟩ := List.mem_map.mp hd
    exact (hf c hc).invalid (hall c hc ((hf c hc).ptr.symm.trans hptr))
  | createPair => exact ⟨Nat.lt_succ_of_lt hlt, hall⟩
  | insertRemote => exact ⟨Nat.lt_succ_of_lt hlt, hall⟩
  | insertLocals cs n hn hcs hunique =>
    refine ⟨Nat.lt_of_lt_of_le hlt hn, ?_⟩
    intro c hc hptr
    rcases List.mem_append.mp hc with hc | hc
    · have := (hcs c hc).1
      omega
    · exact hall c hc hptr
  | freeLocals keep => exact ⟨hlt, fun c hc => hall c (List.mem_of_mem_filter hc)⟩
  | machine | pairs | failPairs | freePairs => exact ⟨hlt, hall⟩

theorem mapPairs (h : Lite a) {f : IceCandidatePair → IceCandidatePair}
    (hlink : ∀ p, (f p).link = p.link)
    (hfailed : ∀ p ∈ a.iceCandidatePairs, (f p).state = .FAILED → a.gone p.localPtr) :
    Lite { a with iceCandidatePairs := a.iceCandidatePairs.map f } := by
  refine ⟨h.lite, ⟨h.distinct.unique, h.distinct.fresh⟩, ?_, ?_, ?_⟩
  · intro q hq
    obtain ⟨p, hp, rfl⟩ := List.mem_map.mp hq
    exact (link_eq (hlink p)).2 ▸ h.pairsFresh p hp
  · intro q hq
    obtain ⟨p, hp, rfl⟩ := List.mem_map.mp hq
    exact (link_eq (hlink p)).2 ▸ h.joined p hp
  · intro q hq hstate
    obtain ⟨p, hp, rfl⟩ := List.mem_map.mp hq
    exact (link_eq (hlink p)).2 ▸ hfailed p hp hstate

theorem write (h : Lite a) (hw : Write K a b) : Lite b := by
  have hdistinct := h.distinct.write hw
  have hgone : ∀ p ∈ a.iceCandidatePairs, p.state = .FAILED → b.gone p.localPtr :=
    fun p hp hstate => gone_write hw (h.failed p hp hstate)
  cases hw with
  | other hsame =>
    refine ⟨hsame.lite.trans h.lite, hdistinct, ?_, ?_, ?_⟩
    · exact hsame.pairs ▸ hsame.next ▸ h.pairsFresh
    · exact hsame.pairs ▸ hsame.locals ▸ h.joined
    · exact hsame.pairs ▸ hgone
  | machine => exact ⟨h.lite, hdistinct, h.pairsFresh, h.joined, hgone⟩
  | candidates f hf =>
    refine ⟨h.lite, hdistinct, h.pairsFresh, ?_, hgone⟩
    intro p hp d hd hptr hnew
    obtain ⟨c, hc, rfl⟩ := List.mem_map.mp hd
    exact h.joined p hp c hc ((hf c hc).ptr.symm.trans hptr) ((hf c hc).new hnew)
  | pairs f hlink hfailed =>
    exact h.mapPairs hlink fun p hp hstate => h.failed p hp (hfailed p hstate)
  | failPairs =>
    refine h.mapPairs ?_ ?_
    · intro p
      split <;> rfl
    · intro p hp hstate
      split at hstate
      case isTrue => exact h.failed p hp hstate
      case isFalse hvalid => exact h.gone_of_not_valid hp hvalid
  | createPair l r hl hr =>
    obtain ⟨c, hc, hptr, -, hstate⟩ := hl
    refine ⟨h.lite, hdistinct, ?_, ?_, ?_⟩
    · intro p hp
      rcases mem_insertIceCandidatePair.mp hp with rfl | hp
      · exact Nat.lt_succ_of_lt (hptr ▸ h.distinct.fresh c hc)
      · exact Nat.lt_succ_of_lt (h.pairsFresh p hp)
    · intro p hp d hd hdp
      rcases mem_insertIceCandidatePair.mp hp with rfl | hp
      · rw [h.distinct.local_eq hd hc (hdp.trans hptr.symm)]
        exact hstate
      · exact h.joined p hp d hd hdp
    · intro p hp hfailed
      rcases mem_insertIceCandidatePair.mp hp with rfl | hp
      · cases hfailed
      · exact hgone p hp hfailed
  | insertRemote r hr =>
    exact ⟨h.lite, hdistinct, fun p hp => Nat.lt_succ_of_lt (h.pairsFresh p hp), h.joined, hgone⟩
  | insertLocals cs n hn hcs hunique =>
    refine ⟨h.lite, hdistinct, fun p hp => Nat.lt_of_lt_of_le (h.pairsFresh p hp) hn, ?_, hgone⟩
    intro p hp c hc hptr
    rcases List.mem_append.mp hc with hc | hc
    · have := (hcs c hc).1
      have := h.pairsFresh p hp
      omega
    · exact h.joined p hp c hc hptr
  | freePairs keep hfailed =>
    exact ⟨h.lite, hdistinct, fun p hp => h.pairsFresh p (List.mem_of_mem_filter hp),
      fun p hp => h.joined p (List.mem_of_mem_filter hp),
      fun p hp => hgone p (List.mem_of_mem_filter hp)⟩
  | freeLocals keep =>
    exact ⟨h.lite, hdistinct, h.pairsFresh,
      fun p hp c hc => h.joined p hp c (List.mem_of_mem_filter hc), hgone⟩

/-- **One write** of a quiet step. -/
theorem lasts_write (h : Lite a) (hK : K) (hw : Write K a b) : Lasts a b := by
  cases hw with
  | other hsame => exact Lasts.of_subset fun p hp => hsame.pairs ▸ hp
  | pairs f hlink hfailed hkeeps =>
    intro p hp
    have hptrs := link_eq (hlink p)
    exact Or.inr ⟨f p, List.mem_map_of_mem hp, hptrs.1, hptrs.2, hkeeps h.lite hK p hp⟩
  | failPairs =>
    intro p hp
    by_cases hvalid : (a.localCandidate p.localPtr).any (fun c => c.state = .VALID) = true
    · exact Or.inr ⟨p, List.mem_map.mpr ⟨p, hp, if_pos hvalid⟩, rfl, rfl, Keeps.refl p⟩
    · exact Or.inl (h.gone_of_not_valid hp hvalid)
  | createPair l r hl hr =>
    exact Lasts.of_subset fun p hp => mem_insertIceCandidatePair.mpr (Or.inr hp)
  | freePairs keep hfailed =>
    intro p hp
    cases hkeep : keep p with
    | true => exact Or.inr ⟨p, List.mem_filter.mpr ⟨hp, hkeep⟩, rfl, rfl, Keeps.refl p⟩
    | false => exact Or.inl (h.failed p hp (hfailed p hp hkeep))
  | machine | candidates | insertRemote | insertLocals | freeLocals =>
    exact Lasts.of_subset fun p hp => hp

theorem writes (h : Lite a) (hK : K) (hw : Writes K a b) : Lite b ∧ Lasts a b := by
  refine hw.inv (P := fun b => Lite b ∧ Lasts a b) ?_ ⟨h, Lasts.refl a⟩
  rintro x y ⟨hx, hlasts⟩ hone
  exact ⟨hx.write hone, hlasts.trans (hx.lasts_write hK hone) fun _ => gone_write hone⟩

theorem gone_writes (hw : Writes K a b) {ptr : Nat} (hgone : a.gone ptr) : b.gone ptr :=
  hw.inv (P := fun b => b.gone ptr) (fun _ _ hx hone => gone_write hone hx) hgone

theorem startAgent (h : Lite a) (remoteUsername remotePassword : Bytes) (isControlling : Bool) :
    Lite (iceAgentStartAgent a remoteUsername remotePassword isControlling) ∧
      Lasts a (iceAgentStartAgent a remoteUsername remotePassword isControlling) ∧
      ∀ ptr, a.gone ptr →
        (iceAgentStartAgent a remoteUsername remotePassword isControlling).gone ptr := by
  unfold iceAgentStartAgent
  split
  · exact ⟨h, Lasts.refl a, fun _ => id⟩
  · split
    · exact ⟨⟨h.lite, ⟨h.distinct.unique, h.distinct.fresh⟩, h.pairsFresh, h.joined, h.failed⟩,
        Lasts.of_subset fun _ => id, fun _ => id⟩
    · exact ⟨h, Lasts.refl a, fun _ => id⟩

/-- **One quiet step.** -/
theorem step {w : Host} (h : Lite a) {e : Event} (he : QuietStep a e) :
    Lite (step w a e) ∧ Lasts a (step w a e) ∧ ∀ ptr, a.gone ptr → (step w a e).gone ptr := by
  by_cases hstarts : e.Starts
  · cases e with
    | startAgent => exact h.startAgent _ _ _
    | _ => exact hstarts.elim
  · have hwrites : Writes True a (Ice.step w a e) :=
      Writes.step h.distinct.unique hstarts fun _ => he
    obtain ⟨hlite, hlasts⟩ := h.writes trivial hwrites
    exact ⟨hlite, hlasts, fun _ => gone_writes hwrites⟩

theorem run {w : Host} (events : List Event) : ∀ {a : IceAgent}, Lite a →
    Steps.Each (Ice.step w) QuietStep a events →
      Lite (run w a events) ∧ Lasts a (run w a events) ∧
        ∀ ptr, a.gone ptr → (run w a events).gone ptr := by
  induction events with
  | nil => exact fun {a} h _ => ⟨h, Lasts.refl a, fun _ => id⟩
  | cons e events ih =>
    intro a h hquiet
    obtain ⟨hlite, hlasts, hgone⟩ := h.step (w := w) hquiet.1
    obtain ⟨hlite', hlasts', hgone'⟩ := ih hlite hquiet.2
    exact ⟨hlite', hlasts.trans hlasts' hgone', fun ptr hptr => hgone' ptr (hgone ptr hptr)⟩

theorem createIceAgent (username password : Bytes) (tieBreaker : UINT64)
    (iceServers : List IceServer) (timeouts : IceTimeouts) :
    Lite (createIceAgent username password true tieBreaker iceServers timeouts) where
  lite := rfl
  distinct := distinct_createIceAgent _ _ _ _ _ _
  pairsFresh := fun _ hp => nomatch hp
  joined := fun _ hp => nomatch hp
  failed := fun _ hp => nomatch hp

end Lite

/-! ## Runs -/

/-- What was achieved at `a` counts at `b`: a pair that can be selected leads to `READY`. -/
structure Remembers (a b : IceAgent) : Prop where
  lasts : Lasts a b
  eligible : ∀ p ∈ a.iceCandidatePairs, p.isSelectable = true → b.gone p.localPtr ∨
    (b.iceAgentStatus = none → ∀ time, (fromNominatingIceAgentState b time).2 = .READY)

theorem Lasts.remembers {a b : IceAgent} (h : Lasts a b) : Remembers a b where
  lasts := h
  eligible := by
    intro p hp hselectable
    refine (h p hp).imp id ?_
    rintro ⟨q, hq, -, -, hkeeps⟩ hstatus time
    have hany : b.iceCandidatePairs.any IceCandidatePair.isSelectable = true :=
      List.any_eq_true.mpr ⟨q, hq, hkeeps.selectable hselectable⟩
    simp only [fromNominatingIceAgentState, unlessFailed, hstatus, if_pos hany]

/-- **Lite agents.**  In every run whose steps are quiet, a pair that succeeded or was nominated in
one state has succeeded or is nominated in every later state, unless its local candidate is gone. -/
theorem lite_successes_last (w : Host) (username password : Bytes) (tieBreaker : UINT64)
    (iceServers : List IceServer) (timeouts : IceTimeouts) (events : List Event)
    (hquiet : ∀ before e after, events = before ++ e :: after → QuietStep
      (run w (createIceAgent username password true tieBreaker iceServers timeouts) before) e) :
    ∀ before mid after, events = before ++ (mid ++ after) → Remembers
      (run w (createIceAgent username password true tieBreaker iceServers timeouts) before)
      (run w (createIceAgent username password true tieBreaker iceServers timeouts)
        (before ++ mid)) := by
  set agent := createIceAgent username password true tieBreaker iceServers timeouts
  intro before mid after hsplit
  have hbefore : Steps.Each (step w) QuietStep agent before := by
    refine Steps.each_iff.mpr ?_
    rintro pre e post rfl
    exact hquiet pre e (post ++ (mid ++ after)) (by rw [hsplit]; simp)
  have hmid : Steps.Each (step w) QuietStep (run w agent before) mid := by
    refine Steps.each_iff.mpr ?_
    rintro pre e post rfl
    have hquiet' := hquiet (before ++ pre) e (post ++ after) (by rw [hsplit]; simp)
    rwa [run, List.foldl_append] at hquiet'
  have hlite : Lite (run w agent before) :=
    (Lite.run before (Lite.createIceAgent _ _ _ _ _) hbefore).1
  have hlasts := (Lite.run mid hlite hmid).2.1
  have hrun : run w agent (before ++ mid) = run w (run w agent before) mid := List.foldl_append
  rw [hrun]
  exact hlasts.remembers

/-- A lite agent with the name `b` and the password `pw`. -/
def liteAgent : IceAgent :=
  createIceAgent [0x62] [0x70, 0x77] true 7 [] ⟨100000000, 100000000, 60000000⟩

/-- The agent is started and checks before the peer nominates. -/
def lateNomination : List Event :=
  [.initHostCandidate (hostAddress 1) false, .startAgent [0x61] [0x70, 0x77] false,
    .stateTimer 1 noShutdown, .receive (nominatingRequest 1) 1 (hostAddress 2) 2,
    .stateTimer 3 noShutdown, .stateTimer 4 noShutdown]

theorem late_nomination_lasts :
    Remembers (run sampleHost liteAgent (lateNomination.take 4))
      (run sampleHost liteAgent lateNomination) := by
  refine lite_successes_last sampleHost _ _ _ _ _ lateNomination ?_ (lateNomination.take 4)
    (lateNomination.drop 4) [] rfl
  have hquiet : Steps.Each (step sampleHost) QuietStep liteAgent lateNomination := by
    refine ⟨trivial, trivial, ?_, trivial, ?_, ?_, trivial⟩ <;> decide +kernel
  exact Steps.each_iff.mp hquiet

/-- The peer nominates before the answer, and the agent is started after that. -/
def earlyNomination : List Event :=
  [.initHostCandidate (hostAddress 1) false, .receive (nominatingRequest 1) 1 (hostAddress 2) 1,
    .startAgent [0x61] [0x70, 0x77] false, .stateTimer 2 noShutdown]

/-- The pair had succeeded and was nominated; now it waits, with a valid local candidate. -/
theorem early_success_lost :
    (run sampleHost liteAgent (earlyNomination.take 2)).iceCandidatePairs.all
        IceCandidatePair.isSelectable = true ∧
      ¬ Remembers (run sampleHost liteAgent (earlyNomination.take 2))
        (run sampleHost liteAgent earlyNomination) := by
  refine ⟨by decide +kernel, ?_⟩
  intro h
  have hpairs : (run sampleHost liteAgent (earlyNomination.take 2)).iceCandidatePairs.map
      (fun p => (p.localPtr, p.state)) = [(0, .SUCCEEDED)] := by
    decide +kernel
  obtain ⟨p, hp, heq⟩ := List.mem_map.mp (hpairs ▸ List.mem_singleton_self (0, _))
  obtain ⟨hlocal, hstate⟩ := Prod.mk.inj heq
  rcases h.lasts p hp with hgone | ⟨q, hq, -, -, hkeeps⟩
  · have hvalid : ∃ c ∈ (run sampleHost liteAgent earlyNomination).localCandidates,
        c.ptr = 0 ∧ c.state = .VALID := by
      decide +kernel
    obtain ⟨c, hc, hptr, hcvalid⟩ := hvalid
    rw [hgone.2 c hc (hptr.trans hlocal.symm)] at hcvalid
    cases hcvalid
  · have hwaiting : ∀ q ∈ (run sampleHost liteAgent earlyNomination).iceCandidatePairs,
        q.state = .WAITING := by
      decide +kernel
    have hsucceeded := hkeeps.succeeded hstate
    rw [hwaiting q hq] at hsucceeded
    cases hsucceeded

end KvsWebrtc.Ice
