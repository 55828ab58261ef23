import KvsWebrtc.Ice.Writes
import KvsWebrtc.Lib.Steps

/-!
# The priorities of candidate pairs

`computeCandidatePairPriority` packs the smaller and the larger candidate priority into 64 bits, and
the last bit tells which side has the larger one.  The larger one has only 32 bits of room before it
reaches into the smaller one, and it counts twice: for priorities below `2 ^ 31` the order is that
of the pairs (smaller, larger), but a remote priority is whatever the peer writes.

The value is computed when a pair is created, with the role that the agent has then.
`iceAgentStartAgent` sets the role later and leaves the pairs alone, so the last bit of an earlier
pair is that of the other role.  `iceAgentRestart` is an event here as well: it keeps the role, also
when the agent is started again, until the pair of the old session is given up in `CONNECTED`.

Principal results:

* `formulaSound_iff` — when the formula is exact and monotone.
* `Priced.step` — an invariant of every event but a start that changes the role.
* `pair_priorities_iff` — the formula, and the stored priorities of every run.
-/

namespace KvsWebrtc.Ice

open Stun

/-! ## The formula -/

/-- The candidate of the controlling agent has the larger priority. -/
def tieBit (localPriority remotePriority : UINT32) (isLocalControlling : Bool) : Nat :=
  if isLocalControlling then if remotePriority < localPriority then 1 else 0
  else if localPriority < remotePriority then 1 else 0

def smaller (l r : UINT32) : Nat := min l.toNat r.toNat

def larger (l r : UINT32) : Nat := max l.toNat r.toNat

/-- The formula without a bound on the result. -/
def pairPriority (l r : UINT32) (isLocalControlling : Bool) : Nat :=
  2 ^ 32 * smaller l r + 2 * larger l r + tieBit l r isLocalControlling

/-- The order of the pairs (smaller, larger). -/
def Below (l r l' r' : UINT32) : Prop :=
  smaller l r < smaller l' r' ∨ smaller l r = smaller l' r' ∧ larger l r < larger l' r'

instance (l r l' r' : UINT32) : Decidable (Below l r l' r') :=
  inferInstanceAs (Decidable (_ ∨ _ ∧ _))

/-- What is expected of the formula for two pairs. -/
structure FormulaSound (l r l' r' : UINT32) (isLocalControlling : Bool) : Prop where
  agrees : computeCandidatePairPriority r l (!isLocalControlling) =
    computeCandidatePairPriority l r isLocalControlling
  exact : (computeCandidatePairPriority l r isLocalControlling).toNat =
    pairPriority l r isLocalControlling
  exact' : (computeCandidatePairPriority l' r' isLocalControlling).toNat =
    pairPriority l' r' isLocalControlling
  monotone : Below l r l' r' → computeCandidatePairPriority l r isLocalControlling <
    computeCandidatePairPriority l' r' isLocalControlling

/-- Both priorities are the largest there are. -/
def Topmost (l r : UINT32) : Prop := l.toNat = 2 ^ 32 - 1 ∧ r.toNat = 2 ^ 32 - 1

/-- The larger priority of the lower pair does not make up for the smaller one; where it just does,
the last bits decide. -/
def Separated (l r l' r' : UINT32) (isLocalControlling : Bool) : Prop :=
  larger l r < larger l' r' + 2 ^ 31 * (smaller l' r' - smaller l r) ∨
    larger l r = larger l' r' + 2 ^ 31 * (smaller l' r' - smaller l r) ∧
      tieBit l r isLocalControlling < tieBit l' r' isLocalControlling

theorem tieBit_le (l r : UINT32) (c : Bool) : tieBit l r c ≤ 1 := by
  unfold tieBit
  split <;> split <;> omega

theorem tieBit_mirror (l r : UINT32) (c : Bool) : tieBit r l (!c) = tieBit l r c := by
  cases c <;> rfl

theorem tieBit_self (l : UINT32) (c : Bool) : tieBit l l c = 0 := by
  cases c <;> simp [tieBit]

theorem larger_lt (l r : UINT32) : larger l r < 2 ^ 32 :=
  max_lt l.isLt r.isLt

theorem smaller_comm (l r : UINT32) : smaller l r = smaller r l := min_comm _ _

theorem larger_comm (l r : UINT32) : larger l r = larger r l := max_comm _ _

theorem computeCandidatePairPriority_eq (l r : UINT32) (c : Bool) :
    computeCandidatePairPriority l r c = BitVec.ofNat 64 (pairPriority l r c) := by
  cases c
  · simp only [computeCandidatePairPriority, pairPriority, smaller, larger, tieBit,
      Bool.false_eq_true, if_false, BitVec.lt_def, gt_iff_lt]
  · simp only [computeCandidatePairPriority, pairPriority, smaller, larger, tieBit, if_true,
      BitVec.lt_def, gt_iff_lt, min_comm r.toNat, max_comm r.toNat]

theorem pairPriority_mirror (l r : UINT32) (c : Bool) :
    pairPriority r l (!c) = pairPriority l r c := by
  rw [pairPriority, pairPriority, tieBit_mirror, smaller_comm, larger_comm]

/-- The value needs more than 64 bits for one pair of priorities. -/
theorem pairPriority_lt_iff (l r : UINT32) (c : Bool) :
    pairPriority l r c < 2 ^ 64 ↔ ¬ Topmost l r := by
  have hl := l.isLt
  have hr := r.isLt
  by_cases htop : Topmost l r
  · refine iff_of_false ?_ (not_not_intro htop)
    obtain ⟨h, h'⟩ := htop
    rw [pairPriority, smaller, larger, h, h']
    omega
  · refine iff_of_true ?_ htop
    have htie := tieBit_le l r c
    have hsmaller : smaller l r ≤ 2 ^ 32 - 2 := by
      unfold smaller Topmost at *
      omega
    have hlarger := larger_lt l r
    rw [pairPriority]
    omega

theorem toNat_computeCandidatePairPriority_iff (l r : UINT32) (c : Bool) :
    (computeCandidatePairPriority l r c).toNat = pairPriority l r c ↔ ¬ Topmost l r := by
  rw [computeCandidatePairPriority_eq, BitVec.toNat_ofNat, ← pairPriority_lt_iff l r c]
  constructor
  · intro h
    rw [← h]
    exact Nat.mod_lt _ (by decide)
  · exact Nat.mod_eq_of_lt

theorem pairPriority_lt_pairPriority_iff {l r l' r' : UINT32} (c : Bool)
    (hle : smaller l r ≤ smaller l' r') :
    pairPriority l r c < pairPriority l' r' c ↔ Separated l r l' r' c := by
  have htie := tieBit_le l r c
  have htie' := tieBit_le l' r' c
  unfold pairPriority Separated
  omega

/-- **The formula** is exact and monotone for two pairs exactly if neither has the two largest
priorities and the lower one does not overtake. -/
theorem formulaSound_iff (l r l' r' : UINT32) (c : Bool) : FormulaSound l r l' r' c ↔
    ¬ Topmost l r ∧ ¬ Topmost l' r' ∧ (Below l r l' r' → Separated l r l' r' c) := by
  have hexact := toNat_computeCandidatePairPriority_iff l r c
  have hexact' := toNat_computeCandidatePairPriority_iff l' r' c
  have hlt : ¬ Topmost l r → ¬ Topmost l' r' → Below l r l' r' →
      (computeCandidatePairPriority l r c < computeCandidatePairPriority l' r' c ↔
        Separated l r l' r' c) := by
    intro htop htop' hbelow
    rw [BitVec.lt_def, hexact.mpr htop, hexact'.mpr htop']
    exact pairPriority_lt_pairPriority_iff c (hbelow.elim Nat.le_of_lt fun h => Nat.le_of_eq h.1)
  constructor
  · intro h
    have htop := hexact.mp h.exact
    have htop' := hexact'.mp h.exact'
    exact ⟨htop, htop', fun hbelow => (hlt htop htop' hbelow).mp (h.monotone hbelow)⟩
  · rintro ⟨htop, htop', hseparated⟩
    refine ⟨?_, hexact.mpr htop, hexact'.mpr htop', ?_⟩
    · rw [computeCandidatePairPriority_eq, computeCandidatePairPriority_eq, pairPriority_mirror]
    · exact fun hbelow => (hlt htop htop' hbelow).mpr (hseparated hbelow)

theorem computeCandidatePairPriority_not (l r : UINT32) (c : Bool) :
    computeCandidatePairPriority l r (!c) = computeCandidatePairPriority l r c ↔ l = r := by
  constructor
  · intro h
    by_contra hne
    rw [computeCandidatePairPriority_eq, computeCandidatePairPriority_eq, ← BitVec.toNat_inj,
      BitVec.toNat_ofNat, BitVec.toNat_ofNat] at h
    have hone : tieBit l r (!c) + tieBit l r c = 1 := by
      have hne' : l.toNat ≠ r.toNat := fun h => hne (BitVec.toNat_inj.mp h)
      cases c <;> simp only [tieBit, BitVec.lt_def, Bool.not_false, Bool.not_true, if_true,
        Bool.false_eq_true, if_false] <;> split <;> split <;> omega
    unfold pairPriority at h
    omega
  · rintro rfl
    rw [computeCandidatePairPriority_eq, computeCandidatePairPriority_eq, pairPriority,
      pairPriority, tieBit_self, tieBit_self]

/-! ## Sessions -/

/-- An agent with its `restart` flag. -/
structure AgentSession where
  agent : IceAgent
  restart : Bool
  deriving DecidableEq, Repr

def createSession (username password : Bytes) (isLiteAgent : Bool) (tieBreaker : UINT64)
    (iceServers : List IceServer) (timeouts : IceTimeouts) : AgentSession :=
  ⟨createIceAgent username password isLiteAgent tieBreaker iceServers timeouts, false⟩

/-- The timers are stopped, and packets are not processed while the lock is released, so it is one
event.  The selected pair is kept outside of the list, and the remote candidates stay. -/
def iceAgentRestart (s : AgentSession) (localIceUfrag localIcePwd : Bytes) : AgentSession :=
  if s.restart then s
  else {
    restart := true
    agent := { s.agent with
      iceAgentStatus := none
      lastDataReceivedTime := none
      relayCandidateCount := 0
      localCandidates := []
      iceCandidatePairs := []
      triggeredCheckQueue := []
      remoteCredentialReceived := false
      stateEndTime := 0
      detectedDisconnection := false
      disconnectionGracePeriodEndTime := INVALID_TIMESTAMP_VALUE
      pStunBindingRequestTransactionIdStore :=
        transactionIdStoreClear s.agent.pStunBindingRequestTransactionIdStore
      localUsername := localIceUfrag.take MAX_ICE_CONFIG_USER_NAME_LEN
      localPassword := localIcePwd.take MAX_ICE_CONFIG_CREDENTIAL_LEN
      iceAgentState := .NEW
      currentState := .NEW } }

inductive SessionEvent where
  | event (e : Event)
  | restart (localIceUfrag localIcePwd : Bytes)

/-- The role does not change during a restart. -/
def AgentSession.accepted (s : AgentSession) : Event → Event
  | .startAgent remoteUsername remotePassword isControlling =>
    .startAgent remoteUsername remotePassword
      (if s.restart then s.agent.isControlling else isControlling)
  | e => e

/-- `CONNECTED` is executed with the pair of the old session, which ends the restart. -/
def endsRestart (a : IceAgent) : Event → Bool
  | .stateTimer time _ => a.remoteCredentialReceived &&
    ((getNextState a time).2 = .CONNECTED && a.currentState ∈ acceptStates .CONNECTED) &&
      a.pDataSendingIceCandidatePair.isSome
  | _ => false

def sessionStep (w : Host) (s : AgentSession) : SessionEvent → AgentSession
  | .event e => ⟨step w s.agent (s.accepted e), s.restart && !endsRestart s.agent e⟩
  | .restart localIceUfrag localIcePwd => iceAgentRestart s localIceUfrag localIcePwd

def runSession (w : Host) (s : AgentSession) (events : List SessionEvent) : AgentSession :=
  events.foldl (sessionStep w) s

/-- The event starts the agent. -/
def SessionEvent.Starts : SessionEvent → Prop
  | .event e => e.Starts
  | .restart .. => False

/-- Every pair has the priority of its candidates under the role of the agent. -/
def PrioritiesCurrent (a : IceAgent) : Prop :=
  ∀ p ∈ a.iceCandidatePairs, ∀ l ∈ a.localCandidates, l.ptr = p.localPtr →
    ∀ r ∈ a.remoteCandidates, r.ptr = p.remotePtr →
      p.priority = computeCandidatePairPriority l.priority r.priority a.isControlling

/-- Both candidates of every pair have the same priority. -/
def PrioritiesEven (a : IceAgent) : Prop :=
  ∀ p ∈ a.iceCandidatePairs, ∀ l ∈ a.localCandidates, l.ptr = p.localPtr →
    ∀ r ∈ a.remoteCandidates, r.ptr = p.remotePtr → l.priority = r.priority

/-- A start that changes the role finds only pairs whose priority does not depend on it. -/
def RoleSafe (s : AgentSession) : SessionEvent → Prop
  | .event (.startAgent remoteUsername remotePassword isControlling) =>
    s.restart = false → s.agent.remoteCredentialReceived = false →
      remoteUsername.length ≤ MAX_ICE_CONFIG_USER_NAME_LEN →
        remotePassword.length ≤ MAX_ICE_CONFIG_CREDENTIAL_LEN →
          isControlling ≠ s.agent.isControlling → PrioritiesEven s.agent
  | _ => True

instance (a : IceAgent) : Decidable (PrioritiesCurrent a) :=
  inferInstanceAs (Decidable (∀ p ∈ a.iceCandidatePairs, ∀ l ∈ a.localCandidates, _ →
    ∀ r ∈ a.remoteCandidates, _ → _))

/-! ## The invariant -/

/-- The priorities are current, and an address in memory stands for one candidate. -/
structure Priced (a : IceAgent) : Prop where
  distinct : Distinct a
  remotesUnique : (a.remoteCandidates.map IceCandidate.ptr).Nodup
  remotesFresh : ∀ c ∈ a.remoteCandidates, c.ptr < a.nextPtr
  pairsFresh : ∀ p ∈ a.iceCandidatePairs, p.localPtr < a.nextPtr ∧ p.remotePtr < a.nextPtr
  current : PrioritiesCurrent a

/-- A new pair, whose local candidate may be a copy of the one in the list. -/
theorem PrioritiesCurrent.createPair {a : IceAgent} (h : PrioritiesCurrent a) (hd : Distinct a)
    (hunique : (a.remoteCandidates.map IceCandidate.ptr).Nodup) {c l r : IceCandidate}
    (hc : c ∈ a.localCandidates) (hptr : c.ptr = l.ptr) (hpriority : c.priority = l.priority)
    (hr : r ∈ a.remoteCandidates) : PrioritiesCurrent (a.createPair l r) := by
  intro p hp x hx hxp y hy hyp
  rcases mem_insertIceCandidatePair.mp hp with rfl | hp
  · obtain rfl : x = c := hd.local_eq hx hc (hxp.trans hptr.symm)
    obtain rfl : y = r := List.inj_on_of_nodup_map hunique hy hr hyp
    rw [hpriority]
    rfl
  · exact h p hp x hx hxp y hy hyp

namespace Priced

variable {K : Prop} {a b : IceAgent}

theorem locals (h : Priced a) {cs : List IceCandidate}
    (hdistinct : Distinct { a with localCandidates := cs })
    (hcs : ∀ d ∈ cs, ∃ c ∈ a.localCandidates, c.ptr = d.ptr ∧ c.priority = d.priority) :
    Priced { a with localCandidates := cs } where
  distinct := hdistinct
  remotesUnique := h.remotesUnique
  remotesFresh := h.remotesFresh
  pairsFresh := h.pairsFresh
  current := by
    intro p hp l hl hlp r hr hrp
    obtain ⟨c, hc, hptr, hpriority⟩ := hcs l hl
    rw [← hpriority]
    exact h.current p hp c hc (hptr.trans hlp) r hr hrp

theorem pairs (h : Priced a) {ps : List IceCandidatePair}
    (hps : ∀ q ∈ ps, ∃ p ∈ a.iceCandidatePairs, p.link = q.link) :
    Priced { a with iceCandidatePairs := ps } := by
  have hfields : ∀ q ∈ ps, ∃ p ∈ a.iceCandidatePairs, p.localPtr = q.localPtr ∧
      p.remotePtr = q.remotePtr ∧ p.priority = q.priority := by
    intro q hq
    obtain ⟨p, hp, hlink⟩ := hps q hq
    simp only [IceCandidatePair.link, Prod.mk.injEq] at hlink
    exact ⟨p, hp, hlink.2⟩
  refine ⟨⟨h.distinct.unique, h.distinct.fresh⟩, h.remotesUnique, h.remotesFresh, ?_, ?_⟩
  · intro q hq
    obtain ⟨p, hp, hlocal, hremote, -⟩ := hfields q hq
    rw [← hlocal, ← hremote]
    exact h.pairsFresh p hp
  · intro q hq l hl hlq r hr hrq
    obtain ⟨p, hp, hlocal, hremote, hpriority⟩ := hfields q hq
    rw [← hpriority]
    exact h.current p hp l hl (hlq.trans hlocal.symm) r hr (hrq.trans hremote.symm)

theorem mapPairs (h : Priced a) {f : IceCandidatePair → IceCandidatePair}
    (hlink : ∀ p, (f p).link = p.link) :
    Priced { a with iceCandidatePairs := a.iceCandidatePairs.map f } := by
  refine h.pairs ?_
  intro q hq
  obtain ⟨p, hp, rfl⟩ := List.mem_map.mp hq
  exact ⟨p, hp, (hlink p).symm⟩

theorem write (h : Priced a) (hw : Write K a b) : Priced b := by
  have hdistinct := h.distinct.write hw
  cases hw with
  | other hsame =>
    refine ⟨hdistinct, ?_, ?_, ?_, ?_⟩
    · exact hsame.remotes ▸ h.remotesUnique
    · exact hsame.remotes ▸ hsame.next ▸ h.remotesFresh
    · exact hsame.pairs ▸ hsame.next ▸ h.pairsFresh
    · unfold PrioritiesCurrent
      rw [hsame.locals, hsame.remotes, hsame.pairs, hsame.role]
      exact h.current
  | machine => exact ⟨hdistinct, h.remotesUnique, h.remotesFresh, h.pairsFresh, h.current⟩
  | candidates f hf =>
    refine h.locals hdistinct ?_
    intro d hd
    obtain ⟨c, hc, rfl⟩ := List.mem_map.mp hd
    exact ⟨c, hc, (hf c hc).ptr.symm, (hf c hc).priority.symm⟩
  | pairs f hlink => exact h.mapPairs hlink
  | failPairs =>
    refine h.mapPairs ?_
    intro p
    split <;> rfl
  | createPair l r hl hr =>
    obtain ⟨c, hc, hptr, hpriority, -⟩ := hl
    refine ⟨hdistinct, h.remotesUnique, fun d hd => Nat.lt_succ_of_lt (h.remotesFresh d hd), ?_,
      h.current.createPair h.distinct h.remotesUnique hc hptr hpriority hr⟩
    intro p hp
    rcases mem_insertIceCandidatePair.mp hp with rfl | hp
    · exact ⟨Nat.lt_succ_of_lt (hptr ▸ h.distinct.fresh c hc),
        Nat.lt_succ_of_lt (h.remotesFresh r hr)⟩
    · exact (h.pairsFresh p hp).imp Nat.lt_succ_of_lt Nat.lt_succ_of_lt
  | insertRemote r hr =>
    refine ⟨hdistinct, ?_, ?_, fun p hp =>
      (h.pairsFresh p hp).imp Nat.lt_succ_of_lt Nat.lt_succ_of_lt, ?_⟩
    · refine List.nodup_cons.mpr ⟨?_, h.remotesUnique⟩
      intro hmem
      obtain ⟨c, hc, heq⟩ := List.mem_map.mp hmem
      have := h.remotesFresh c hc
      omega
    · intro c hc
      rcases List.mem_cons.mp hc with rfl | hc
      · rw [hr]
        exact Nat.lt_succ_self _
      · exact Nat.lt_succ_of_lt (h.remotesFresh c hc)
    · intro p hp l hl hlp x hx hxp
      rcases List.mem_cons.mp hx with rfl | hx
      · have := (h.pairsFresh p hp).2
        omega
      · exact h.current p hp l hl hlp x hx hxp
  | insertLocals cs n hn hcs hunique =>
    refine ⟨hdistinct, h.remotesUnique, fun c hc => Nat.lt_of_lt_of_le (h.remotesFresh c hc) hn,
      fun p hp => (h.pairsFresh p hp).imp (Nat.lt_of_lt_of_le · hn) (Nat.lt_of_lt_of_le · hn), ?_⟩
    intro p hp l hl hlp r hr hrp
    rcases List.mem_append.mp hl with hl | hl
    · have := (h.pairsFresh p hp).1
      have := (hcs l hl).1
      omega
    · exact h.current p hp l hl hlp r hr hrp
  | freePairs keep hfailed =>
    exact h.pairs fun q hq => ⟨q, List.mem_of_mem_filter hq, rfl⟩
  | freeLocals keep =>
    exact h.locals hdistinct fun d hd => ⟨d, List.mem_of_mem_filter hd, rfl, rfl⟩

theorem writes (h : Priced a) (hw : Writes K a b) : Priced b :=
  hw.inv (fun _ _ hx hone => hx.write hone) h

theorem createIceAgent (username password : Bytes) (isLiteAgent : Bool) (tieBreaker : UINT64)
    (iceServers : List IceServer) (timeouts : IceTimeouts) :
    Priced (createIceAgent username password isLiteAgent tieBreaker iceServers timeouts) where
  distinct := distinct_createIceAgent _ _ _ _ _ _
  remotesUnique := List.nodup_nil
  remotesFresh := fun _ hc => nomatch hc
  pairsFresh := fun _ hp => nomatch hp
  current := fun _ hp => nomatch hp

theorem changeRole (h : Priced a) {c : Bool} (heven : c ≠ a.isControlling → PrioritiesEven a) :
    Priced { a with isControlling := c } where
  distinct := ⟨h.distinct.unique, h.distinct.fresh⟩
  remotesUnique := h.remotesUnique
  remotesFresh := h.remotesFresh
  pairsFresh := h.pairsFresh
  current := by
    intro p hp l hl hlp r hr hrp
    by_cases hc : c = a.isControlling
    · rw [hc]
      exact h.current p hp l hl hlp r hr hrp
    · rw [h.current p hp l hl hlp r hr hrp, Bool.eq_not_of_ne hc]
      exact ((computeCandidatePairPriority_not _ _ _).mpr
        (heven hc p hp l hl hlp r hr hrp)).symm

theorem startAgent (h : Priced a) {remoteUsername remotePassword : Bytes} {c : Bool}
    (heven : a.remoteCredentialReceived = false →
      remoteUsername.length ≤ MAX_ICE_CONFIG_USER_NAME_LEN →
        remotePassword.length ≤ MAX_ICE_CONFIG_CREDENTIAL_LEN →
          c ≠ a.isControlling → PrioritiesEven a) :
    Priced (iceAgentStartAgent a remoteUsername remotePassword c) := by
  unfold iceAgentStartAgent
  split
  case isTrue => exact h
  case isFalse hstarted =>
    split
    case isTrue hlengths =>
      have hrole := h.changeRole (heven (Bool.not_eq_true _ ▸ hstarted) hlengths.1 hlengths.2)
      exact ⟨⟨hrole.distinct.unique, hrole.distinct.fresh⟩, hrole.remotesUnique,
        hrole.remotesFresh, hrole.pairsFresh, hrole.current⟩
    case isFalse => exact h

theorem restart {s : AgentSession} (h : Priced s.agent) (localIceUfrag localIcePwd : Bytes) :
    Priced (iceAgentRestart s localIceUfrag localIcePwd).agent := by
  unfold iceAgentRestart
  split
  · exact h
  · exact ⟨⟨List.nodup_nil, fun _ hc => nomatch hc⟩, h.remotesUnique, h.remotesFresh,
      fun _ hp => (nomatch hp), fun _ hp => (nomatch hp)⟩

/-- **One event of a session.** -/
theorem step {w : Host} {s : AgentSession} (h : Priced s.agent) {e : SessionEvent} (he : RoleSafe s e) :
    Priced (sessionStep w s e).agent := by
  cases e with
  | restart localIceUfrag localIcePwd => exact h.restart _ _
  | event e =>
    by_cases hstarts : e.Starts
    · cases e with
      | startAgent remoteUsername remotePassword isControlling =>
        refine h.startAgent ?_
        intro hstarted huser hpassword hrole
        cases hrestart : s.restart with
        | true =>
          rw [hrestart, if_pos rfl] at hrole
          exact absurd rfl hrole
        | false =>
          rw [hrestart, if_neg Bool.false_ne_true] at hrole
          exact he hrestart hstarted huser hpassword hrole
      | _ => exact hstarts.elim
    · have haccepted : s.accepted e = e := by
        cases e with
        | startAgent => exact absurd trivial hstarts
        | _ => rfl
      have hwrites : Writes False s.agent (Ice.step w s.agent (s.accepted e)) := by
        rw [haccepted]
        exact Writes.step h.distinct.unique hstarts fun hk => hk.elim
      exact h.writes hwrites

theorem roleSafe {w : Host} {s : AgentSession} (h : Priced s.agent) {e : SessionEvent}
    (he : e.Starts → PrioritiesCurrent (sessionStep w s e).agent) : RoleSafe s e := by
  match e with
  | .restart .. => trivial
  | .event (.startAgent remoteUsername remotePassword isControlling) =>
    intro hrestart hstarted huser hpassword hrole p hp l hl hlp r hr hrp
    have hafter := he trivial
    simp only [sessionStep, AgentSession.accepted, Ice.step, hrestart, Bool.false_eq_true, if_false,
      iceAgentStartAgent, hstarted, if_pos (And.intro huser hpassword)] at hafter
    have hnew := hafter p hp l hl hlp r hr hrp
    have hold := h.current p hp l hl hlp r hr hrp
    rw [hold, Bool.eq_not_of_ne hrole] at hnew
    exact (computeCandidatePairPriority_not _ _ _).mp hnew.symm
  | .event (.addRemoteCandidate ..) | .event (.initHostCandidate ..)
  | .event (.initSrflxCandidates ..) | .event (.initRelayCandidate ..) | .event (.gather ..)
  | .event (.turnFailed ..) | .event (.receive ..) | .event (.stateTimer ..)
  | .event .keepAlive => trivial

end Priced

/-! ## Runs -/

/-- **Pair priorities.**  The formula is exact, agrees with the mirrored one and is monotone for two
pairs exactly if neither has the two largest priorities and the lower one does not overtake; and
after a start of the agent, the priorities of all pairs are current in every state of a run exactly
if each start that changes the role finds even priorities. -/
theorem pair_priorities_iff (l r l' r' : UINT32) (isLocalControlling : Bool) (w : Host)
    (username password : Bytes) (isLiteAgent : Bool) (tieBreaker : UINT64)
    (iceServers : List IceServer) (timeouts : IceTimeouts) (events : List SessionEvent) :
    (FormulaSound l r l' r' isLocalControlling ↔ ¬ Topmost l r ∧ ¬ Topmost l' r' ∧
      (Below l r l' r' → Separated l r l' r' isLocalControlling)) ∧
    ((∀ before after, events = before ++ after → (∃ e ∈ before, e.Starts) →
        PrioritiesCurrent (runSession w (createSession username password isLiteAgent tieBreaker
          iceServers timeouts) before).agent) ↔
      ∀ before e after, events = before ++ e :: after →
        RoleSafe (runSession w (createSession username password isLiteAgent tieBreaker
          iceServers timeouts) before) e) := by
  refine ⟨formulaSound_iff l r l' r' isLocalControlling, ?_⟩
  set s := createSession username password isLiteAgent tieBreaker iceServers timeouts with hs
  let Inv : AgentSession → Prop := fun s => Priced s.agent
  have hinit : Inv s := Priced.createIceAgent _ _ _ _ _ _
  have hrun : (∀ before e after, events = before ++ e :: after →
      RoleSafe (runSession w s before) e) → Steps.Always (sessionStep w) Inv s events := by
    intro h
    exact (Steps.each_iff.mpr h).inv hinit fun t e ht he => ht.step he
  constructor
  · intro h
    -- the first start that is not safe shows
    have hstarts : Steps.Each (sessionStep w)
        (fun t e => e.Starts → PrioritiesCurrent (sessionStep w t e).agent) s events := by
      refine Steps.each_iff.mpr ?_
      intro before e after hsplit he
      have hcurrent := h (before ++ [e]) after (by rw [hsplit]; simp) ⟨e, by simp, he⟩
      rwa [runSession, List.foldl_append] at hcurrent
    have hdom : Steps.Each (sessionStep w) (fun _ _ => True) s events :=
      Steps.each_iff.mpr fun _ _ _ _ => trivial
    refine Steps.each_iff.mp ((Steps.Each.iff_of_inv hinit ?_ ?_ hdom).mp hstarts)
    · exact fun t e ht _ he => ht.step he
    · exact fun t e ht _ => ⟨fun he => ht.roleSafe he, fun he _ => (ht.step he).current⟩
  · intro h before after hsplit _
    exact (Steps.always_iff.mp (hrun h) before after hsplit).current

/-! ## A run -/

def trickleTimeouts : IceTimeouts := ⟨100000000, 100000000, 60000000⟩

/-- A candidate arrives with the answer, before the agent starts as the controlling one. -/
def answerFirst : List SessionEvent :=
  [.event (.initHostCandidate (hostAddress 1) false),
    .event (.addRemoteCandidate (hostAddress 2) .HOST 5),
    .event (.startAgent [0x61] [0x70, 0x77] true)]

/-- The two largest priorities do not fit, a large priority overtakes, and the pair of an early
candidate has the priority of the other role. -/
theorem answer_first_priorities :
    ¬ FormulaSound 0xFFFFFFFF 0xFFFFFFFF 1 1 true ∧ ¬ FormulaSound 0 0xFFFFFFFF 1 1 true ∧
      ∃ before after, answerFirst = before ++ after ∧ (∃ e ∈ before, e.Starts) ∧
        ¬ PrioritiesCurrent (runSession sampleHost
          (createSession [0x62] [0x70, 0x77] false 7 [] trickleTimeouts) before).agent := by
  refine ⟨fun h => ?_, fun h => ?_, answerFirst, [], (List.append_nil _).symm, ?_, ?_⟩
  · exact absurd h.exact (by decide)
  · exact absurd (h.monotone (by decide)) (by decide)
  · exact ⟨_, List.mem_cons_of_mem _ (List.mem_cons_of_mem _ List.mem_cons_self), trivial⟩
  · decide +kernel

end KvsWebrtc.Ice
