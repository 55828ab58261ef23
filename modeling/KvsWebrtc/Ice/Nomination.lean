import KvsWebrtc.Ice.References
import KvsWebrtc.Ice.Requests
import Mathlib.Data.List.Nodup

/-!
# Nominations of one agent

An agent with host candidates only.  The controlling agent nominates a pair when it gets to
`NOMINATING` and from then on sends its requests with USE-CANDIDATE on this pair; the controlled one
nominates the pairs on which such requests arrive.  The nominee is a pair of addresses, and none as
long as the controlling agent has not chosen.

Principal results:

* `Steady.checkPairs`, `Steady.sendCandidateNomination` — checks that are allowed.
* `Placed.nominate` — nominating a pair between the addresses of the nominee.
* `Driven.handleStunPacket` — a datagram that fits the nominee.
-/

namespace KvsWebrtc.Ice

open Stun

/-! ## Addresses -/

theorem isSameIpAddress_refl (x : KvsIpAddress) : isSameIpAddress x x true = true := by
  simp [isSameIpAddress]

theorem addressLength_congr {x y : KvsIpAddress} (h : x.family = y.family) :
    x.addressLength = y.addressLength := by
  unfold KvsIpAddress.addressLength KvsIpAddress.isIpv4
  rw [h]

theorem isSameIpAddress_iff (x y : KvsIpAddress) : isSameIpAddress x y true = true ↔
    x.family = y.family ∧ x.address.take x.addressLength = y.address.take y.addressLength ∧
      x.port = y.port := by
  unfold isSameIpAddress
  constructor
  · intro h
    simp only [Bool.and_eq_true, decide_eq_true_eq, Bool.not_true, Bool.false_or] at h
    obtain ⟨⟨hfamily, haddress⟩, hport⟩ := h
    exact ⟨hfamily, by rw [← addressLength_congr hfamily]; exact haddress, hport⟩
  · rintro ⟨hfamily, haddress, hport⟩
    rw [← addressLength_congr hfamily] at haddress
    simp [hfamily, hport, haddress]

theorem isSameIpAddress_symm {x y : KvsIpAddress} (h : isSameIpAddress x y true = true) :
    isSameIpAddress y x true = true := by
  rw [isSameIpAddress_iff] at h ⊢
  exact ⟨h.1.symm, h.2.1.symm, h.2.2.symm⟩

theorem isSameIpAddress_trans {x y z : KvsIpAddress} (h : isSameIpAddress x y true = true)
    (h' : isSameIpAddress y z true = true) : isSameIpAddress x z true = true := by
  rw [isSameIpAddress_iff] at h h' ⊢
  exact ⟨h.1.trans h'.1, h.2.1.trans h'.2.1, h.2.2.trans h'.2.2⟩

/-- The local and the remote address are those of the nominee. -/
def Near (N : Option (KvsIpAddress × KvsIpAddress)) (l r : KvsIpAddress) : Prop :=
  ∃ n, N = some n ∧ isSameIpAddress l n.1 true = true ∧ isSameIpAddress r n.2 true = true

theorem not_near_none {l r : KvsIpAddress} : ¬ Near none l r := by
  rintro ⟨n, hn, _⟩
  cases hn

/-! ## What stays -/

/-- A candidate without what changes after it is created. -/
def IceCandidate.fixed (c : IceCandidate) : IceCandidate :=
  { c with state := .VALID, reported := false }

/-- A pair without what checks change. -/
def IceCandidatePair.fixed (p : IceCandidatePair) : IceCandidatePair :=
  { p with state := .FROZEN, pTransactionIdStore := createTransactionIdStore 0 }

/-- Candidates, pairs and nominations. -/
structure View where
  hosts : List IceCandidate
  remotes : List IceCandidate
  pairs : List IceCandidatePair
  next : Nat
  selected : Option Nat

def IceAgent.view (a : IceAgent) : View where
  hosts := a.localCandidates.map IceCandidate.fixed
  remotes := a.remoteCandidates
  pairs := a.iceCandidatePairs.map IceCandidatePair.fixed
  next := a.nextPtr
  selected := a.pDataSendingIceCandidatePair

/-- Host candidates with a socket each, pairs of known candidates, nominated pairs between the
addresses of the nominee, and a selected pair that is nominated. -/
structure Placed (N : Option (KvsIpAddress × KvsIpAddress)) (v : View) : Prop where
  host : ∀ c ∈ v.hosts, c.iceCandidateType = .HOST ∧ c.pSocketConnection = some (c.ptr + 1) ∧
    c.ptr < v.next
  hosts : (v.hosts.map IceCandidate.ptr).Nodup
  remote : ∀ c ∈ v.remotes, c.ptr < v.next
  remotes : (v.remotes.map IceCandidate.ptr).Nodup
  pairs : (v.pairs.map IceCandidatePair.ptr).Nodup
  pair : ∀ p ∈ v.pairs, p.ptr < v.next ∧ p.localPtr ∈ v.hosts.map IceCandidate.ptr ∧
    p.remotePtr ∈ v.remotes.map IceCandidate.ptr
  nominated : ∀ p ∈ v.pairs, p.nominated = true → ∀ l ∈ v.hosts, l.ptr = p.localPtr →
    ∀ r ∈ v.remotes, r.ptr = p.remotePtr → Near N l.ipAddress r.ipAddress
  selected : ∀ ptr, v.selected = some ptr → ptr < v.next ∧
    ∀ p ∈ v.pairs, p.ptr = ptr → p.nominated = true

/-- Every socket works and no check was given up. -/
structure Healthy (a : IceAgent) : Prop where
  valid : ∀ c ∈ a.localCandidates, c.state = .VALID
  alive : ∀ p ∈ a.iceCandidatePairs, p.state ≠ .FAILED

/-- No send fails because its socket is closed. -/
def Host.Open (w : Host) : Prop := ∀ n, w.closed n = false

/-- `b` is `a` after checks and other sends: what was sent with USE-CANDIDATE fits the nominee. -/
structure Steady (w : Host) (N : Option (KvsIpAddress × KvsIpAddress)) (a b : IceAgent) : Prop where
  view : b.view = a.view
  sent : ∀ d ∈ b.sent, d ∈ a.sent ∨ (Carries d.bytes → Near N d.source d.dest)
  healthy : w.Open → Healthy a → Healthy b
  request : ∀ nomination, (∀ r, a.pBindingRequest = some r → IsRequest nomination r) →
    ∀ r, b.pBindingRequest = some r → IsRequest nomination r
  controlling : b.isControlling = a.isControlling
  started : b.remoteCredentialReceived = a.remoteCredentialReceived
  lite : b.isLiteAgent = a.isLiteAgent
  machine : b.currentState = a.currentState
  state : b.iceAgentState = a.iceAgentState
  status : a.iceAgentStatus.isSome → b.iceAgentStatus.isSome

namespace Steady

variable {w : Host} {N : Option (KvsIpAddress × KvsIpAddress)} {a b c : IceAgent}

theorem refl (a : IceAgent) : Steady w N a a where
  view := rfl
  sent := fun _ hd => Or.inl hd
  healthy := fun _ h => h
  request := fun _ h => h
  controlling := rfl
  started := rfl
  lite := rfl
  machine := rfl
  state := rfl
  status := id

theorem trans (h : Steady w N a b) (h' : Steady w N b c) : Steady w N a c where
  view := h'.view.trans h.view
  sent := by
    intro d hd
    rcases h'.sent d hd with hd | hfits
    · exact h.sent d hd
    · exact Or.inr hfits
  healthy := fun hopen ha => h'.healthy hopen (h.healthy hopen ha)
  request := fun nomination ha => h'.request nomination (h.request nomination ha)
  controlling := h'.controlling.trans h.controlling
  started := h'.started.trans h.started
  lite := h'.lite.trans h.lite
  machine := h'.machine.trans h.machine
  state := h'.state.trans h.state
  status := fun ha => h'.status (h.status ha)

theorem mapPairs {f : IceCandidatePair → IceCandidatePair} (hf : ∀ p, (f p).fixed = p.fixed)
    (halive : ∀ p, p.state ≠ .FAILED → (f p).state ≠ .FAILED) :
    Steady w N a { a with iceCandidatePairs := a.iceCandidatePairs.map f } where
  view := by
    unfold IceAgent.view
    rw [List.map_map]
    congr 1
    exact List.map_congr_left fun p _ => hf p
  sent := fun _ hd => Or.inl hd
  healthy := fun _ ha => ⟨ha.valid, fun p hp => by
    obtain ⟨q, hq, rfl⟩ := List.mem_map.mp hp
    exact halive q (ha.alive q hq)⟩
  request := fun _ h => h
  controlling := rfl
  started := rfl
  lite := rfl
  machine := rfl
  state := rfl
  status := id

theorem updatePair {ptr : Nat} {f : IceCandidatePair → IceCandidatePair}
    (hf : ∀ p, (f p).fixed = p.fixed)
    (halive : ∀ p, p.state ≠ .FAILED → (f p).state ≠ .FAILED) :
    Steady w N a (a.updatePair ptr f) := by
  refine mapPairs ?_ ?_
  · intro p
    split
    · exact hf p
    · rfl
  · intro p hp
    split
    · exact halive p hp
    · exact hp

theorem setPairStates {f : IceCandidatePair → ICE_CANDIDATE_PAIR_STATE}
    (halive : ∀ p, p.state ≠ .FAILED → f p ≠ .FAILED) : Steady w N a (a.setPairStates f) :=
  mapPairs (fun _ => rfl) halive

theorem fatal (e : STATUS) : Steady w N a (iceAgentFatalError a e) where
  view := rfl
  sent := fun _ hd => Or.inl hd
  healthy := fun _ h => ⟨h.valid, h.alive⟩
  request := fun _ h => h
  controlling := rfl
  started := rfl
  lite := rfl
  machine := rfl
  state := rfl
  status := fun _ => rfl

/-- A packet that carries USE-CANDIDATE only between the addresses of the nominee. -/
theorem sendStunPacket {p : StunPacket} {password : Option Bytes} {l : IceCandidate}
    {dest : KvsIpAddress} (hfits : ∀ bytes, iceUtilsPackageStunPacket w p password = .ok bytes →
      Carries bytes → Near N l.ipAddress dest) :
    Steady w N a (iceAgentSendStunPacket w a p password l dest) := by
  unfold iceAgentSendStunPacket
  split
  · exact refl a
  · rename_i bytes hbytes
    split
    · rename_i hclosed
      refine ⟨?_, fun _ hd => Or.inl hd, ?_, fun _ h => h, rfl, rfl, rfl, rfl, rfl, id⟩
      · unfold IceAgent.view iceAgentInvalidateCandidatePair IceAgent.updateLocal
        simp only [List.map_map]
        congr 1
        · refine List.map_congr_left fun c _ => ?_
          simp only [Function.comp]
          split <;> rfl
        · refine List.map_congr_left fun p _ => ?_
          simp only [Function.comp]
          split <;> rfl
      · intro hopen
        rw [hopen a.sends] at hclosed
        cases hclosed
    · refine ⟨rfl, ?_, fun _ h => ⟨h.valid, h.alive⟩, fun _ h => h, rfl, rfl, rfl, rfl, rfl, id⟩
      intro d hd
      rcases List.mem_append.mp hd with hd | hd
      · exact Or.inl hd
      · rw [List.mem_singleton.mp hd]
        exact Or.inr (hfits bytes hbytes)

end Steady

/-! ## Checks -/

/-- Checks on these pairs are allowed: the request carries no USE-CANDIDATE, or they are
nominated. -/
def Allowed (N : Option (KvsIpAddress × KvsIpAddress)) (a : IceAgent) (ptrs : List Nat) : Prop :=
  (∀ r, a.pBindingRequest = some r → IsRequest false r) ∨
    (∃ nomination, ∀ r, a.pBindingRequest = some r → IsRequest nomination r) ∧ Placed N a.view ∧
      ∀ ptr ∈ ptrs, ∀ p ∈ a.view.pairs, p.ptr = ptr → p.nominated = true

theorem Allowed.steady {w : Host} {N M : Option (KvsIpAddress × KvsIpAddress)} {a b : IceAgent}
    {ptrs : List Nat} (h : Allowed N a ptrs) (hs : Steady w M a b) : Allowed N b ptrs := by
  rcases h with hrequest | ⟨⟨nomination, hrequest⟩, hplaced, hnominated⟩
  · exact Or.inl (hs.request false hrequest)
  · refine Or.inr ⟨⟨nomination, hs.request nomination hrequest⟩, ?_, ?_⟩
    · rw [hs.view]
      exact hplaced
    · rw [hs.view]
      exact hnominated

theorem Allowed.tail {N : Option (KvsIpAddress × KvsIpAddress)} {a : IceAgent} {ptr : Nat}
    {ptrs : List Nat} (h : Allowed N a (ptr :: ptrs)) : Allowed N a ptrs := by
  rcases h with hrequest | ⟨hrequest, hplaced, hnominated⟩
  · exact Or.inl hrequest
  · exact Or.inr ⟨hrequest, hplaced, fun x hx => hnominated x (List.mem_cons_of_mem ptr hx)⟩

theorem localCandidate_mem {a : IceAgent} {ptr : Nat} {c : IceCandidate}
    (h : a.localCandidate ptr = some c) : c ∈ a.localCandidates ∧ c.ptr = ptr :=
  ⟨List.mem_of_find?_eq_some h, by simpa using List.find?_some h⟩

theorem remoteCandidate_mem {a : IceAgent} {ptr : Nat} {c : IceCandidate}
    (h : a.remoteCandidate ptr = some c) : c ∈ a.remoteCandidates ∧ c.ptr = ptr :=
  ⟨List.mem_of_find?_eq_some h, by simpa using List.find?_some h⟩

theorem pair_mem {a : IceAgent} {ptr : Nat} {p : IceCandidatePair} (h : a.pair ptr = some p) :
    p ∈ a.iceCandidatePairs ∧ p.ptr = ptr :=
  ⟨List.mem_of_find?_eq_some h, by simpa using List.find?_some h⟩

theorem fixed_mem_hosts {a : IceAgent} {c : IceCandidate} (h : c ∈ a.localCandidates) :
    c.fixed ∈ a.view.hosts :=
  List.mem_map_of_mem h

theorem fixed_mem_pairs {a : IceAgent} {p : IceCandidatePair} (h : p ∈ a.iceCandidatePairs) :
    p.fixed ∈ a.view.pairs :=
  List.mem_map_of_mem h

namespace Steady

variable {w : Host} {N : Option (KvsIpAddress × KvsIpAddress)} {a b : IceAgent}

theorem checkConnection (hlen : ∀ k m, (w.hmac k m).length = STUN_HMAC_VALUE_LEN) {ptr : Nat}
    (hallowed : Allowed N a [ptr]) (h : iceCandidatePairCheckConnection w a ptr = some b) :
    Steady w N a b := by
  unfold iceCandidatePairCheckConnection at h
  split at h
  case h_2 => cases h
  case h_1 request p hrequest hp =>
    split at h
    case h_2 => cases h
    case h_1 l r hl hr =>
      split at h
      case isFalse => cases h
      case isTrue =>
        simp only [Option.some.injEq] at h
        subst h
        have htid := length_iceUtilsGenerateTransactionId w a.draws
        have hdraw : Steady w N a { a with
            draws := a.draws + 1
            pBindingRequest := some (withPriority request
              (iceUtilsGenerateTransactionId w a.draws) l.priority) } := by
          refine ⟨rfl, fun _ hd => Or.inl hd, fun _ h => ⟨h.valid, h.alive⟩, ?_, rfl, rfl, rfl, rfl,
            rfl, id⟩
          intro nomination hkind r' hr'
          rw [← Option.some.inj hr']
          exact (hkind request hrequest).withPriority htid l.priority
        refine trans hdraw (trans ?_ (sendStunPacket ?_))
        · exact updatePair (fun _ => rfl) fun _ hp => hp
        intro bytes hbytes hcarries
        rcases hallowed with hplain | ⟨_, hplaced, hnominated⟩
        · have hkind := (hplain request hrequest).withPriority htid l.priority
          exact absurd hcarries (hkind.carries hlen hbytes)
        · obtain ⟨hpmem, hpptr⟩ := pair_mem hp
          obtain ⟨hlmem, hlptr⟩ := localCandidate_mem hl
          obtain ⟨hrmem, hrptr⟩ := remoteCandidate_mem hr
          exact hplaced.nominated p.fixed (fixed_mem_pairs hpmem)
            (hnominated ptr (List.mem_singleton_self _) p.fixed (fixed_mem_pairs hpmem) hpptr)
            l.fixed (fixed_mem_hosts hlmem) hlptr r hrmem hrptr

theorem checkPairs (hlen : ∀ k m, (w.hmac k m).length = STUN_HMAC_VALUE_LEN) (ptrs : List Nat)
    (a : IceAgent) (hallowed : Allowed N a ptrs) : Steady w N a (checkPairs w ptrs a) := by
  induction ptrs generalizing a with
  | nil => exact refl a
  | cons ptr ptrs ih =>
    unfold Ice.checkPairs
    split
    · exact fatal _
    · rename_i b hb
      have hone : Allowed N a [ptr] := by
        rcases hallowed with hrequest | ⟨hrequest, hplaced, hnominated⟩
        · exact Or.inl hrequest
        · refine Or.inr ⟨hrequest, hplaced, fun x hx => hnominated x ?_⟩
          rw [List.mem_singleton.mp hx]
          exact List.mem_cons_self
      have hcheck := checkConnection hlen hone hb
      exact hcheck.trans (ih b (hallowed.tail.steady hcheck))

theorem checkWaitingPairs (hlen : ∀ k m, (w.hmac k m).length = STUN_HMAC_VALUE_LEN)
    (ptrs : List Nat) (a : IceAgent)
    (hplain : ∀ r, a.pBindingRequest = some r → IsRequest false r) :
    Steady w N a (checkWaitingPairs w ptrs a) := by
  induction ptrs generalizing a with
  | nil => exact refl a
  | cons ptr ptrs ih =>
    unfold Ice.checkWaitingPairs
    split
    · have hbusy : Steady w N a (a.updatePair ptr fun p => { p with state := .IN_PROGRESS }) :=
        updatePair (fun _ => rfl) fun _ _ => by simp
      dsimp only
      split
      · exact hbusy.trans (fatal _)
      · rename_i b hb
        have hcheck := hbusy.trans
          (checkConnection hlen (Or.inl (hbusy.request false hplain)) hb)
        exact hcheck.trans (ih b (hcheck.request false hplain))
    · exact ih a hplain

theorem checkCandidatePairConnection (hlen : ∀ k m, (w.hmac k m).length = STUN_HMAC_VALUE_LEN)
    (hplain : ∀ r, a.pBindingRequest = some r → IsRequest false r) :
    Steady w N a (iceAgentCheckCandidatePairConnection w a) := by
  unfold iceAgentCheckCandidatePairConnection
  split
  · rename_i ptr queue _
    have hqueue : Steady w N a { a with triggeredCheckQueue := queue } :=
      ⟨rfl, fun _ hd => Or.inl hd, fun _ h => ⟨h.valid, h.alive⟩, fun _ h => h, rfl, rfl, rfl, rfl,
        rfl, id⟩
    exact hqueue.trans (checkPairs hlen _ _ (Or.inl hplain))
  · exact checkWaitingPairs hlen _ a hplain

theorem sendCandidateNomination (hlen : ∀ k m, (w.hmac k m).length = STUN_HMAC_VALUE_LEN)
    (hrequest : ∃ nomination, ∀ r, a.pBindingRequest = some r → IsRequest nomination r)
    (hplaced : Placed N a.view) : Steady w N a (iceAgentSendCandidateNomination w a) := by
  refine checkPairs hlen _ a (Or.inr ⟨hrequest, hplaced, ?_⟩)
  intro ptr hptr p hp hpp
  obtain ⟨q, hq, rfl⟩ := List.mem_map.mp hptr
  obtain ⟨hqmem, hqnominated⟩ := List.mem_filter.mp hq
  obtain rfl : p = q.fixed :=
    List.inj_on_of_nodup_map hplaced.pairs hp (fixed_mem_pairs hqmem) hpp
  exact hqnominated

theorem sendKeepAlives (ptrs : List Nat) (a : IceAgent) : Steady w N a (sendKeepAlives w ptrs a) := by
  induction ptrs generalizing a with
  | nil => exact refl a
  | cons ptr ptrs ih =>
    unfold Ice.sendKeepAlives
    split
    · exact ih a
    · split
      · split
        · refine trans (sendStunPacket ?_) (ih _)
          intro bytes hbytes hcarries
          exact absurd hcarries (package_not_request (by decide) hbytes)
        · exact ih a
      · exact ih a

end Steady

/-! ## New candidates and pairs -/

namespace Placed

variable {N : Option (KvsIpAddress × KvsIpAddress)} {a : IceAgent}

theorem of_none {v : View} (h : Placed none v) : Placed N v where
  host := h.host
  hosts := h.hosts
  remote := h.remote
  remotes := h.remotes
  pairs := h.pairs
  pair := h.pair
  nominated := fun p hp hnominated l hl hlptr r hr hrptr =>
    absurd (h.nominated p hp hnominated l hl hlptr r hr hrptr) not_near_none
  selected := h.selected

theorem remotePtr_lt {v : View} (h : Placed N v) {p : IceCandidatePair} (hp : p ∈ v.pairs) :
    p.remotePtr < v.next := by
  obtain ⟨c, hc, heq⟩ := List.mem_map.mp (h.pair p hp).2.2
  rw [← heq]
  exact h.remote c hc

theorem localPtr_lt {v : View} (h : Placed N v) {p : IceCandidatePair} (hp : p ∈ v.pairs) :
    p.localPtr < v.next := by
  obtain ⟨c, hc, heq⟩ := List.mem_map.mp (h.pair p hp).2.1
  rw [← heq]
  exact (h.host c hc).2.2

theorem createPair (h : Placed N a.view) {l r : IceCandidate} (hl : l ∈ a.localCandidates)
    (hr : r ∈ a.remoteCandidates) : Placed N (a.createPair l r).view := by
  obtain ⟨new, hnew, hptr, hlocal, hremote, hplain⟩ :
      ∃ new : IceCandidatePair, (a.createPair l r).view.pairs.Perm (new :: a.view.pairs) ∧
        new.ptr = a.nextPtr ∧ new.localPtr = l.ptr ∧ new.remotePtr = r.ptr ∧
        new.nominated = false :=
    ⟨_, (insertIceCandidatePair_perm _ _).map IceCandidatePair.fixed, rfl, rfl, rfl, rfl⟩
  have hmem : ∀ p ∈ (a.createPair l r).view.pairs, p = new ∨ p ∈ a.view.pairs := fun p hp =>
    List.mem_cons.mp (hnew.mem_iff.mp hp)
  refine ⟨?_, h.hosts, ?_, h.remotes, ?_, ?_, ?_, ?_⟩
  · intro c hc
    obtain ⟨htype, hsocket, hlt⟩ := h.host c hc
    exact ⟨htype, hsocket, Nat.lt_succ_of_lt hlt⟩
  · exact fun c hc => Nat.lt_succ_of_lt (h.remote c hc)
  · refine (hnew.map IceCandidatePair.ptr).nodup_iff.mpr (List.nodup_cons.mpr ⟨?_, h.pairs⟩)
    intro hold
    obtain ⟨p, hp, heq⟩ := List.mem_map.mp hold
    have hlt : p.ptr < a.nextPtr := (h.pair p hp).1
    rw [heq, hptr] at hlt
    exact absurd hlt (Nat.lt_irrefl _)
  · intro p hp
    rcases hmem p hp with rfl | hp
    · refine ⟨?_, ?_, ?_⟩
      · rw [hptr]
        exact Nat.lt_succ_self _
      · rw [hlocal]
        have hhost : l.fixed.ptr ∈ a.view.hosts.map IceCandidate.ptr :=
          List.mem_map_of_mem (fixed_mem_hosts hl)
        exact hhost
      · rw [hremote]
        exact List.mem_map_of_mem hr
    · obtain ⟨hlt, hjoined⟩ := h.pair p hp
      exact ⟨Nat.lt_succ_of_lt hlt, hjoined⟩
  · intro p hp hnominated
    rcases hmem p hp with rfl | hp
    · rw [hplain] at hnominated
      cases hnominated
    · exact h.nominated p hp hnominated
  · intro ptr hselected
    obtain ⟨hlt, hall⟩ := h.selected ptr hselected
    refine ⟨Nat.lt_succ_of_lt hlt, ?_⟩
    intro p hp hpp
    rcases hmem p hp with rfl | hp
    · rw [← hpp, hptr] at hlt
      exact absurd hlt (Nat.lt_irrefl _)
    · exact hall p hp hpp

theorem insertRemote (h : Placed N a.view) {c : IceCandidate} (hc : c.ptr = a.nextPtr) :
    Placed N (a.insertRemote c).view := by
  refine ⟨?_, h.hosts, ?_, ?_, h.pairs, ?_, ?_, ?_⟩
  · intro l hl
    obtain ⟨htype, hsocket, hlt⟩ := h.host l hl
    exact ⟨htype, hsocket, Nat.lt_succ_of_lt hlt⟩
  · intro r hr
    rcases List.mem_cons.mp hr with rfl | hr
    · rw [hc]
      exact Nat.lt_succ_self _
    · exact Nat.lt_succ_of_lt (h.remote r hr)
  · refine List.nodup_cons.mpr ⟨?_, h.remotes⟩
    intro hold
    obtain ⟨r, hr, heq⟩ := List.mem_map.mp hold
    have hlt : r.ptr < a.nextPtr := h.remote r hr
    rw [heq, hc] at hlt
    exact absurd hlt (Nat.lt_irrefl _)
  · intro p hp
    obtain ⟨hlt, hlocal, hremote⟩ := h.pair p hp
    exact ⟨Nat.lt_succ_of_lt hlt, hlocal, List.mem_cons_of_mem _ hremote⟩
  · intro p hp hnominated l hl hlptr r hr hrptr
    rcases List.mem_cons.mp hr with rfl | hr
    · have hlt := h.remotePtr_lt hp
      rw [← hrptr, hc] at hlt
      exact absurd hlt (Nat.lt_irrefl _)
    · exact h.nominated p hp hnominated l hl hlptr r hr hrptr
  · intro ptr hselected
    obtain ⟨hlt, hall⟩ := h.selected ptr hselected
    exact ⟨Nat.lt_succ_of_lt hlt, hall⟩

theorem insertHost (h : Placed N a.view) {c : IceCandidate} (hc : c.ptr = a.nextPtr)
    (htype : c.iceCandidateType = .HOST) (hsocket : c.pSocketConnection = some (c.ptr + 1)) :
    Placed N { a.insertLocal c with nextPtr := a.nextPtr + 2 }.view := by
  have hnext : ∀ n : Nat, n < a.nextPtr → n < a.nextPtr + 2 := fun n hn => by omega
  refine ⟨?_, ?_, ?_, h.remotes, h.pairs, ?_, ?_, ?_⟩
  · intro l hl
    rcases List.mem_cons.mp hl with rfl | hl
    · refine ⟨htype, hsocket, ?_⟩
      have hfixed : c.fixed.ptr = a.nextPtr := hc
      rw [hfixed]
      exact Nat.lt_add_of_pos_right (by decide)
    · obtain ⟨htype, hsocket, hlt⟩ := h.host l hl
      exact ⟨htype, hsocket, hnext _ hlt⟩
  · refine List.nodup_cons.mpr ⟨?_, h.hosts⟩
    intro hold
    obtain ⟨l, hl, heq⟩ := List.mem_map.mp hold
    have hlt : l.ptr < a.nextPtr := (h.host l hl).2.2
    have hfixed : c.fixed.ptr = a.nextPtr := hc
    rw [heq, hfixed] at hlt
    exact absurd hlt (Nat.lt_irrefl _)
  · exact fun r hr => hnext _ (h.remote r hr)
  · intro p hp
    obtain ⟨hlt, hlocal, hremote⟩ := h.pair p hp
    exact ⟨hnext _ hlt, List.mem_cons_of_mem _ hlocal, hremote⟩
  · intro p hp hnominated l hl hlptr r hr hrptr
    rcases List.mem_cons.mp hl with rfl | hl
    · have hlt := h.localPtr_lt hp
      have hfixed : c.fixed.ptr = a.nextPtr := hc
      rw [← hlptr, hfixed] at hlt
      exact absurd hlt (Nat.lt_irrefl _)
    · exact h.nominated p hp hnominated l hl hlptr r hr hrptr
  · intro ptr hselected
    obtain ⟨hlt, hall⟩ := h.selected ptr hselected
    exact ⟨hnext _ hlt, hall⟩

end Placed

/-! ## The invariant -/

/-- The agent has chosen, or gave up. -/
def IceAgent.Late (a : IceAgent) : Prop :=
  a.currentState = .NOMINATING ∨ a.currentState = .READY ∨ a.currentState = .FAILED

/-- What holds whatever the state machine does.  The nominee of the messages is none for a
controlled agent, which never sends USE-CANDIDATE. -/
structure Based (w : Host) (controls : Bool) (N : Option (KvsIpAddress × KvsIpAddress))
    (a : IceAgent) : Prop where
  placed : Placed N a.view
  sent : ∀ d ∈ a.sent, Carries d.bytes → Near (if controls then N else none) d.source d.dest
  role : a.isControlling = (controls && a.remoteCredentialReceived)
  full : a.isLiteAgent = false
  ready : a.iceAgentState = .READY → a.pDataSendingIceCandidatePair.isSome
  found : w.Open → ∀ ptr, a.pDataSendingIceCandidatePair = some ptr →
    ptr ∈ a.view.pairs.map IceCandidatePair.ptr

/-- A full agent with host candidates, controlling or controlled, and its nominee. -/
structure Driven (w : Host) (controls : Bool) (N : Option (KvsIpAddress × KvsIpAddress))
    (a : IceAgent) : Prop extends Based w controls N a where
  settled : a.iceAgentStatus.isSome ∨ a.iceAgentState = a.currentState
  connected : a.currentState ≠ .DISCONNECTED
  request : (∀ r, a.pBindingRequest = some r → IsRequest false r) ∨
    (∀ r, a.pBindingRequest = some r → IsRequest true r) ∧ controls = true ∧ a.Late
  early : controls = true → ¬ a.Late → N = none
  healthy : w.Open → a.currentState ≠ .READY → a.currentState ≠ .FAILED → Healthy a

section

variable {w : Host} {controls : Bool} {N : Option (KvsIpAddress × KvsIpAddress)} {a b : IceAgent}

theorem Based.steady (h : Based w controls N a)
    (hs : Steady w (if controls then N else none) a b) : Based w controls N b where
  placed := by
    rw [hs.view]
    exact h.placed
  sent := by
    intro d hd
    rcases hs.sent d hd with hd | hfits
    · exact h.sent d hd
    · exact hfits
  role := by rw [hs.controlling, hs.started, h.role]
  full := hs.lite.trans h.full
  ready := by
    intro hready
    have hselected : b.pDataSendingIceCandidatePair = a.pDataSendingIceCandidatePair :=
      congrArg View.selected hs.view
    rw [hselected]
    exact h.ready (hs.state ▸ hready)
  found := by
    intro hopen ptr hptr
    have hselected : b.pDataSendingIceCandidatePair = a.pDataSendingIceCandidatePair :=
      congrArg View.selected hs.view
    rw [hs.view]
    exact h.found hopen ptr (hselected ▸ hptr)

theorem late_congr (h : b.currentState = a.currentState) : b.Late ↔ a.Late := by
  unfold IceAgent.Late
  rw [h]

theorem Driven.steady (h : Driven w controls N a)
    (hs : Steady w (if controls then N else none) a b) : Driven w controls N b where
  toBased := h.toBased.steady hs
  settled := by
    rcases h.settled with hstatus | hstate
    · exact Or.inl (hs.status hstatus)
    · exact Or.inr (by rw [hs.state, hs.machine, hstate])
  connected := by
    rw [hs.machine]
    exact h.connected
  request := by
    rcases h.request with hplain | ⟨hflag, hcontrols, hlate⟩
    · exact Or.inl (hs.request false hplain)
    · exact Or.inr ⟨hs.request true hflag, hcontrols, (late_congr hs.machine).mpr hlate⟩
  early := fun hcontrols hearly =>
    h.early hcontrols fun hlate => hearly ((late_congr hs.machine).mpr hlate)
  healthy := by
    intro hopen hready hfailed
    rw [hs.machine] at hready hfailed
    exact hs.healthy hopen (h.healthy hopen hready hfailed)

/-! ## Candidates and the start -/

/-- `b` is `a` with new candidates and pairs. -/
structure Widens (N : Option (KvsIpAddress × KvsIpAddress)) (a b : IceAgent) : Prop where
  placed : Placed N b.view
  hosts : ∀ c ∈ a.view.hosts, c ∈ b.view.hosts
  pairs : ∀ p ∈ a.view.pairs, p ∈ b.view.pairs
  healthy : Healthy a → Healthy b
  same : b = { a with
    localCandidates := b.localCandidates
    remoteCandidates := b.remoteCandidates
    iceCandidatePairs := b.iceCandidatePairs
    nextPtr := b.nextPtr }

theorem Driven.widen (h : Driven w controls N a) (hg : Widens N a b) : Driven w controls N b := by
  have hsame := hg.same
  have hselected : b.pDataSendingIceCandidatePair = a.pDataSendingIceCandidatePair := by rw [hsame]
  have hmachine : b.currentState = a.currentState := by rw [hsame]
  have hstate : b.iceAgentState = a.iceAgentState := by rw [hsame]
  refine ⟨⟨hg.placed, ?_, ?_, ?_, ?_, ?_⟩, ?_, ?_, ?_, ?_, ?_⟩
  · rw [hsame]
    exact h.sent
  · rw [hsame]
    exact h.role
  · rw [hsame]
    exact h.full
  · intro hready
    rw [hselected]
    exact h.ready (hstate ▸ hready)
  · intro hopen ptr hptr
    obtain ⟨p, hp, heq⟩ := List.mem_map.mp (h.found hopen ptr (hselected ▸ hptr))
    exact List.mem_map.mpr ⟨p, hg.pairs p hp, heq⟩
  · rw [hmachine, hstate, hsame]
    exact h.settled
  · rw [hmachine]
    exact h.connected
  · rw [late_congr hmachine, hsame]
    exact h.request
  · intro hcontrols hearly
    exact h.early hcontrols fun hlate => hearly ((late_congr hmachine).mpr hlate)
  · intro hopen hready hfailed
    rw [hmachine] at hready hfailed
    exact hg.healthy (h.healthy hopen hready hfailed)

theorem Widens.createPair (h : Widens N a b) {l r : IceCandidate} (hl : l ∈ b.localCandidates)
    (hr : r ∈ b.remoteCandidates) : Widens N a (b.createPair l r) where
  placed := h.placed.createPair hl hr
  hosts := h.hosts
  pairs := by
    intro p hp
    obtain ⟨q, hq, rfl⟩ := List.mem_map.mp (h.pairs p hp)
    exact List.mem_map_of_mem (mem_insertIceCandidatePair.mpr (Or.inr hq))
  healthy := by
    intro ha
    have hb := h.healthy ha
    refine ⟨hb.valid, ?_⟩
    intro p hp
    rcases mem_insertIceCandidatePair.mp hp with rfl | hp
    · simp
    · exact hb.alive p hp
  same := by
    have hsame := h.same
    unfold IceAgent.createPair
    rw [hsame]

theorem widens_insertRemote (h : Placed N a.view) {c : IceCandidate} (hc : c.ptr = a.nextPtr) :
    Widens N a (a.insertRemote c) where
  placed := h.insertRemote hc
  hosts := fun _ hc => hc
  pairs := fun _ hp => hp
  healthy := fun ha => ⟨ha.valid, ha.alive⟩
  same := rfl

theorem widens_insertHost (h : Placed N a.view) {c : IceCandidate} (hc : c.ptr = a.nextPtr)
    (htype : c.iceCandidateType = .HOST) (hsocket : c.pSocketConnection = some (c.ptr + 1))
    (hvalid : c.state = .VALID) :
    Widens N a { a.insertLocal c with nextPtr := a.nextPtr + 2 } where
  placed := h.insertHost hc htype hsocket
  hosts := fun _ hc => List.mem_cons_of_mem _ hc
  pairs := fun _ hp => hp
  healthy := by
    intro ha
    refine ⟨?_, ha.alive⟩
    intro l hl
    rcases List.mem_cons.mp hl with rfl | hl
    · exact hvalid
    · exact ha.valid l hl
  same := rfl

theorem widens_refl (h : Placed N a.view) : Widens N a a where
  placed := h
  hosts := fun _ hc => hc
  pairs := fun _ hp => hp
  healthy := id
  same := rfl

theorem widens_addRemote (h : Placed N a.view) (ipAddress : KvsIpAddress)
    (type : ICE_CANDIDATE_TYPE) (priority : UINT32) :
    Widens N a (a.addRemote ipAddress type priority) := by
  unfold IceAgent.addRemote
  split
  · split
    · exact widens_refl h
    · refine createPairsForRemote_induct _ ?_ (widens_insertRemote h rfl)
      intro b l hb hlocals hremotes hl _ _
      refine hb.createPair ?_ ?_
      · rw [hlocals]
        exact hl
      · rw [hremotes]
        exact List.mem_cons_self
  · exact widens_refl h

theorem widens_initHostCandidate (h : Placed N a.view) (ipAddress : KvsIpAddress)
    (isPointToPoint : Bool) : Widens N a (iceAgentInitHostCandidate a ipAddress isPointToPoint) := by
  unfold iceAgentInitHostCandidate
  split
  · exact widens_refl h
  · refine createPairsForLocal_induct _ ?_ (widens_insertHost h rfl rfl rfl rfl)
    intro b r hb hlocals hremotes hr _ _
    refine hb.createPair ?_ ?_
    · rw [hlocals]
      exact List.mem_cons_self
    · rw [hremotes]
      exact hr

theorem Driven.startAgent (h : Driven w controls N a) (remoteUsername remotePassword : Bytes) :
    Driven w controls N (iceAgentStartAgent a remoteUsername remotePassword controls) := by
  unfold iceAgentStartAgent
  split
  · exact h
  · split
    · refine ⟨⟨h.placed, h.sent, ?_, h.full, h.ready, h.found⟩, h.settled, h.connected, h.request,
        h.early, fun hopen hr hf => ?_⟩
      · rw [Bool.and_true]
      · exact ⟨(h.healthy hopen hr hf).valid, (h.healthy hopen hr hf).alive⟩
    · exact h

/-! ## Nominating a pair -/

theorem Placed.nominate (h : Placed N a.view) {p : IceCandidatePair}
    {f : IceCandidatePair → IceCandidatePair}
    (hf : ∀ x, (f x).fixed = { x.fixed with nominated := true })
    (hp : p ∈ a.iceCandidatePairs)
    (hnear : ∀ l ∈ a.view.hosts, l.ptr = p.localPtr → ∀ r ∈ a.view.remotes, r.ptr = p.remotePtr →
      Near N l.ipAddress r.ipAddress) :
    Placed N (a.updatePair p.ptr f).view := by
  have hpairs : (a.updatePair p.ptr f).view.pairs = a.iceCandidatePairs.map fun x =>
      if x.ptr = p.ptr then { x.fixed with nominated := true } else x.fixed := by
    unfold IceAgent.view IceAgent.updatePair
    rw [List.map_map]
    refine List.map_congr_left fun x _ => ?_
    simp only [Function.comp]
    split
    · exact hf x
    · rfl
  have hmem : ∀ q ∈ (a.updatePair p.ptr f).view.pairs, ∃ x ∈ a.iceCandidatePairs,
      q = if x.ptr = p.ptr then { x.fixed with nominated := true } else x.fixed := by
    intro q hq
    rw [hpairs] at hq
    obtain ⟨x, hx, heq⟩ := List.mem_map.mp hq
    exact ⟨x, hx, heq.symm⟩
  refine ⟨h.host, h.hosts, h.remote, h.remotes, ?_, ?_, ?_, ?_⟩
  · have hptrs : (a.updatePair p.ptr f).view.pairs.map IceCandidatePair.ptr =
        a.view.pairs.map IceCandidatePair.ptr := by
      rw [hpairs, IceAgent.view, List.map_map, List.map_map]
      refine List.map_congr_left fun x _ => ?_
      simp only [Function.comp]
      split <;> rfl
    rw [hptrs]
    exact h.pairs
  · intro q hq
    obtain ⟨x, hx, rfl⟩ := hmem q hq
    have hx' := h.pair x.fixed (fixed_mem_pairs hx)
    split <;> exact hx'
  · intro q hq hnominated l hl hlptr r hr hrptr
    obtain ⟨x, hx, rfl⟩ := hmem q hq
    split at hnominated
    · rename_i hxp
      rw [if_pos hxp] at hlptr hrptr
      obtain heq : x.fixed = p.fixed :=
        List.inj_on_of_nodup_map h.pairs (fixed_mem_pairs hx) (fixed_mem_pairs hp) hxp
      have hlocal : x.fixed.localPtr = p.fixed.localPtr := by rw [heq]
      have hremote : x.fixed.remotePtr = p.fixed.remotePtr := by rw [heq]
      exact hnear l hl (hlptr.trans hlocal) r hr (hrptr.trans hremote)
    · rename_i hxp
      rw [if_neg hxp] at hlptr hrptr
      exact h.nominated x.fixed (fixed_mem_pairs hx) hnominated l hl hlptr r hr hrptr
  · intro ptr hselected
    obtain ⟨hlt, hall⟩ := h.selected ptr hselected
    refine ⟨hlt, ?_⟩
    intro q hq hqptr
    obtain ⟨x, hx, rfl⟩ := hmem q hq
    split
    · rfl
    · rename_i hxp
      rw [if_neg hxp] at hqptr
      exact hall x.fixed (fixed_mem_pairs hx) hqptr

theorem near_of_connects (h : Placed N a.view) {socket : Nat} {src : KvsIpAddress}
    {p : IceCandidatePair} (hconnects : a.connects socket src p = true)
    (hnear : ∃ l ∈ a.view.hosts, l.pSocketConnection = some socket ∧ Near N l.ipAddress src) :
    ∀ l ∈ a.view.hosts, l.ptr = p.localPtr → ∀ r ∈ a.view.remotes, r.ptr = p.remotePtr →
      Near N l.ipAddress r.ipAddress := by
  intro l hl hlptr r hr hrptr
  unfold IceAgent.connects at hconnects
  simp only [Bool.and_eq_true, decide_eq_true_eq] at hconnects
  obtain ⟨⟨_, hsocket⟩, hremote⟩ := hconnects
  obtain ⟨l', hl', hsocket⟩ := Option.bind_eq_some_iff.mp hsocket
  cases hr' : a.remoteCandidate p.remotePtr with
  | none =>
    rw [hr'] at hremote
    cases hremote
  | some r' =>
    rw [hr'] at hremote
    obtain ⟨hlmem, hlptr'⟩ := localCandidate_mem hl'
    obtain ⟨hrmem, hrptr'⟩ := remoteCandidate_mem hr'
    -- the candidate of the socket is the one of the pair
    obtain ⟨l0, hl0, hsocket0, n, hN, hl0near, hsrcnear⟩ := hnear
    have hptr : l0.ptr = l'.fixed.ptr := by
      have h0 := (h.host l0 hl0).2.1
      have h1 := (h.host l'.fixed (fixed_mem_hosts hlmem)).2.1
      have h2 : l'.fixed.pSocketConnection = some socket := hsocket
      rw [hsocket0] at h0
      rw [h2, h0] at h1
      simpa using h1
    obtain rfl : l0 = l'.fixed :=
      List.inj_on_of_nodup_map h.hosts hl0 (fixed_mem_hosts hlmem) hptr
    obtain rfl : l = l'.fixed :=
      List.inj_on_of_nodup_map h.hosts hl (fixed_mem_hosts hlmem) (hlptr.trans hlptr'.symm)
    obtain rfl : r = r' := List.inj_on_of_nodup_map h.remotes hr hrmem (hrptr.trans hrptr'.symm)
    have hsame : isSameIpAddress src r.ipAddress true = true := hremote
    exact ⟨n, hN, hl0near, isSameIpAddress_trans (isSameIpAddress_symm hsame) hsrcnear⟩

/-! ## Received datagrams -/

theorem Driven.setNominated (h : Driven w controls N a) {p : IceCandidatePair} {useCandidate : Bool}
    (hp : p ∈ a.iceCandidatePairs)
    (hnear : useCandidate = true → ∀ l ∈ a.view.hosts, l.ptr = p.localPtr →
      ∀ r ∈ a.view.remotes, r.ptr = p.remotePtr → Near N l.ipAddress r.ipAddress) :
    Driven w controls N (setNominated a p useCandidate) := by
  unfold Ice.setNominated
  split
  · rename_i hnominates
    rw [Bool.and_eq_true] at hnominates
    have hptrs : (a.updatePair p.ptr fun p => { p with nominated := true }).view.pairs.map
        IceCandidatePair.ptr = a.view.pairs.map IceCandidatePair.ptr := by
      unfold IceAgent.view IceAgent.updatePair
      simp only [List.map_map]
      refine List.map_congr_left fun x _ => ?_
      simp only [Function.comp]
      split <;> rfl
    refine ⟨⟨h.placed.nominate (fun _ => rfl) hp (hnear hnominates.2), h.sent, h.role, h.full,
      h.ready, ?_⟩, h.settled, h.connected, h.request, h.early, ?_⟩
    · rw [hptrs]
      exact h.found
    · intro hopen hready hfailed
      have ha := h.healthy hopen hready hfailed
      refine ⟨ha.valid, ?_⟩
      intro q hq
      obtain ⟨x, hx, rfl⟩ := List.mem_map.mp hq
      split
      · exact ha.alive x hx
      · exact ha.alive x hx
  · exact h

theorem Driven.checkArrived (h : Driven w controls N a) {p : IceCandidatePair} {useCandidate : Bool}
    (hp : p ∈ a.iceCandidatePairs)
    (hnear : useCandidate = true → ∀ l ∈ a.view.hosts, l.ptr = p.localPtr →
      ∀ r ∈ a.view.remotes, r.ptr = p.remotePtr → Near N l.ipAddress r.ipAddress) :
    Driven w controls N (checkArrived a p useCandidate) := by
  have hb := h.setNominated hp hnear
  unfold Ice.checkArrived
  dsimp only
  split
  · rename_i hlite
    rw [hb.full] at hlite
    cases hlite
  · split
    · exact hb.steady ⟨rfl, fun _ hd => Or.inl hd, fun _ h => ⟨h.valid, h.alive⟩, fun _ h => h, rfl,
        rfl, rfl, rfl, rfl, id⟩
    · exact hb

theorem Driven.handleBindingRequest (h : Driven w controls N a) {q : ParsedPacket} {socket : Nat}
    {src : KvsIpAddress}
    (hnear : hasAttribute q STUN_ATTRIBUTE_TYPE_USE_CANDIDATE = true →
      ∃ l ∈ a.view.hosts, l.pSocketConnection = some socket ∧ Near N l.ipAddress src) :
    Driven w controls N (handleBindingRequest w a q socket src) := by
  unfold Ice.handleBindingRequest
  rw [h.full, Bool.false_and, if_neg Bool.false_ne_true]
  split
  · exact h
  · rename_i response hresponse
    have hwidens := widens_addRemote h.placed src .PEER_REFLEXIVE (priorityOf q)
    have hb := h.widen hwidens
    dsimp only
    split
    · exact hb
    · rename_i l hl
      have hsteady : Steady w (if controls then N else none)
          (a.addRemote src .PEER_REFLEXIVE (priorityOf q))
          (iceAgentSendStunPacket w (a.addRemote src .PEER_REFLEXIVE (priorityOf q)) response
            (some (a.addRemote src .PEER_REFLEXIVE (priorityOf q)).localPassword) l src) := by
        refine Steady.sendStunPacket ?_
        intro bytes hbytes hcarries
        refine absurd hcarries (package_not_request ?_ hbytes)
        rw [bindingResponse_header hresponse]
        decide
      have hc := hb.steady hsteady
      split
      · exact hc
      · rename_i p hp
        refine hc.checkArrived (List.mem_of_find?_eq_some hp) ?_
        intro huse
        obtain ⟨l0, hl0, hsocket, hfits⟩ := hnear huse
        refine near_of_connects hc.placed (List.find?_some hp) ⟨l0, ?_, hsocket, hfits⟩
        rw [hsteady.view]
        exact hwidens.hosts l0 hl0

theorem Driven.handleCheckResponse (h : Driven w controls N a) (buf : Bytes) (socket : Nat)
    (src : KvsIpAddress) : Driven w controls N (handleCheckResponse w a buf socket src) := by
  unfold Ice.handleCheckResponse
  split
  · exact h
  · rename_i p hp
    split
    · split
      · exact h
      · split
        · exact h
        · rename_i ipAddress _
          -- host candidates are not replaced
          have hother : seesOtherAddress a p ipAddress = false := by
            unfold seesOtherAddress
            cases hl : a.localCandidate p.localPtr with
            | none => rfl
            | some l =>
              have hhost : l.iceCandidateType = .HOST :=
                (h.placed.host l.fixed (fixed_mem_hosts (localCandidate_mem hl).1)).1
              simp [hhost]
          rw [hother, if_neg Bool.false_ne_true]
          exact h.steady (Steady.updatePair (fun _ => rfl) fun _ _ => by simp)
    · exact h

theorem Driven.handleSrflxResponse (h : Driven w controls N a) (buf : Bytes) (socket : Nat) :
    Driven w controls N (handleSrflxResponse w a buf socket) := by
  unfold Ice.handleSrflxResponse
  split
  · rename_i l q hl hq
    split
    · exact h
    · split
      · exact h
      · rename_i hother
        have hmem : l ∈ a.localCandidates := List.mem_of_find?_eq_some hl
        exact absurd (h.placed.host l.fixed (fixed_mem_hosts hmem)).1 hother
  · exact h

/-- **A datagram** that carries USE-CANDIDATE only between the addresses of the nominee. -/
theorem Driven.handleStunPacket (h : Driven w controls N a) {buf : Bytes} {socket : Nat}
    {src : KvsIpAddress}
    (hnear : Carries buf →
      ∃ l ∈ a.view.hosts, l.pSocketConnection = some socket ∧ Near N l.ipAddress src) :
    Driven w controls N (handleStunPacket w a buf socket src) := by
  unfold Ice.handleStunPacket
  dsimp only
  split
  · rename_i htype
    split
    · exact h
    · rename_i q hq
      refine h.handleBindingRequest ?_
      intro huse
      exact hnear ⟨htype, mem_attributeOffsets_of_hasAttribute hq huse⟩
  · split
    · split
      · exact h.handleSrflxResponse buf socket
      · exact h.handleCheckResponse buf socket src
    · exact h

end

end KvsWebrtc.Ice
