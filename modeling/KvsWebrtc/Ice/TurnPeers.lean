import KvsWebrtc.Ice.CandidateGrammar
import Mathlib.Data.Finset.Card

/-!
# Remote candidates and the peers of TURN connections

A TURN connection has room for 32 peers and the agent for 100 remote candidates.  A candidate is
linked into the lists of the agent before it is passed to the TURN connections, and nothing is taken
back when one of them has no room; a remote candidate that is known already is passed to none.

Principal results:

* `passToTurn_iff` — every connection has room, or the loop fails;
* `addRemotePeers_iff` — a new connection takes all remote candidates exactly if they have at most 32
  different addresses;
* `adding_atomic` — when adding a candidate changes nothing on failure and leaves the address with
  every relayed candidate on success.
-/

namespace KvsWebrtc.Ice.Trickle

open Stun Turn Turn.Machine

/-! ## One peer -/

def HasPeer (c : Machine.TurnConnection) (ipAddress : KvsIpAddress) : Prop :=
  ∃ p ∈ c.turnPeerList, Turn.isSameIpAddress p.address ipAddress = true

/-- The address is a peer, or there is room for it. -/
def TakesPeer (c : Machine.TurnConnection) (ipAddress : KvsIpAddress) : Prop :=
  HasPeer c ipAddress ∨ c.turnPeerList.length < DEFAULT_TURN_MAX_PEER_COUNT

theorem isSameIpAddress_self (a : KvsIpAddress) : Turn.isSameIpAddress a a = true := by
  simp [Turn.isSameIpAddress]

theorem family_addPeer (c : Machine.TurnConnection) (ipAddress : KvsIpAddress) :
    (Machine.turnConnectionAddPeer c ipAddress).1.ipFamilyType = c.ipFamilyType := by
  unfold Machine.turnConnectionAddPeer
  split
  · rfl
  · split
    · rfl
    · split <;> rfl

theorem HasPeer.stays {c : Machine.TurnConnection} {ipAddress : KvsIpAddress}
    (h : HasPeer c ipAddress) (other : KvsIpAddress) :
    HasPeer (Machine.turnConnectionAddPeer c other).1 ipAddress := by
  obtain ⟨p, hp, hsame⟩ := h
  unfold Machine.turnConnectionAddPeer
  split
  · exact ⟨p, hp, hsame⟩
  · split
    · exact ⟨p, hp, hsame⟩
    · split
      · exact ⟨p, hp, hsame⟩
      · exact ⟨p, List.mem_append_left _ hp, hsame⟩

theorem not_ofOtherFamily {family : UINT16} {ipAddress : KvsIpAddress}
    (h : isMatchingTurnFamily family ipAddress = true) : ofOtherFamily family ipAddress = false := by
  unfold isMatchingTurnFamily at h
  unfold ofOtherFamily
  simp only [Bool.or_eq_true, Bool.and_eq_true, decide_eq_true_eq] at h
  rcases h with ⟨rfl, h⟩ | ⟨rfl, h⟩ <;> simp [h]

/-- **An address of the connection's family becomes a peer if there is room.** -/
theorem addPeer_spec {c : Machine.TurnConnection} {ipAddress : KvsIpAddress}
    (h : isMatchingTurnFamily c.ipFamilyType ipAddress = true) :
    ((Machine.turnConnectionAddPeer c ipAddress).2 = none ↔ TakesPeer c ipAddress) ∧
      ((Machine.turnConnectionAddPeer c ipAddress).2 = none →
        HasPeer (Machine.turnConnectionAddPeer c ipAddress).1 ipAddress) := by
  have hany : c.turnPeerList.any (fun p => Turn.isSameIpAddress p.address ipAddress) = true ↔
      HasPeer c ipAddress := List.any_eq_true
  unfold Machine.turnConnectionAddPeer TakesPeer
  rw [not_ofOtherFamily h]
  by_cases hpeer : HasPeer c ipAddress
  · rw [if_pos (hany.mpr hpeer)]
    exact ⟨by simp [hpeer], fun _ => hpeer⟩
  · rw [if_neg (mt hany.mp hpeer)]
    by_cases hfull : DEFAULT_TURN_MAX_PEER_COUNT ≤ c.turnPeerList.length
    · rw [if_pos hfull]
      have hnot := Nat.not_lt.mpr hfull
      exact ⟨by simp [hpeer, hnot], fun h => by cases h⟩
    · rw [if_neg hfull]
      refine ⟨by simp [Nat.lt_of_not_le hfull], fun _ => ?_⟩
      exact ⟨newPeer ipAddress (c.turnPeerList.length + 1), by simp,
        isSameIpAddress_self ipAddress⟩

/-! ## The loop over the relayed candidates -/

section

variable {connections : Nat → Machine.TurnConnection} {ipAddress : KvsIpAddress}

theorem family_pass (ls : List IceCandidate) (ptr : Nat) :
    ((passToTurn ipAddress ls connections).1 ptr).ipFamilyType = (connections ptr).ipFamilyType := by
  induction ls generalizing connections with
  | nil => rfl
  | cons l ls ih =>
    have hstep : ((addPeer connections l.ptr ipAddress).1 ptr).ipFamilyType =
        (connections ptr).ipFamilyType := by
      by_cases hptr : ptr = l.ptr
      · subst hptr
        simp [addPeer, family_addPeer]
      · simp [addPeer, hptr]
    unfold passToTurn
    split
    · split
      · next connections' heq =>
        rw [heq] at hstep
        rw [ih, hstep]
      · next connections' e heq =>
        rw [heq] at hstep
        exact hstep
    · exact ih

theorem HasPeer.pass {ptr : Nat} (h : HasPeer (connections ptr) ipAddress) (ls : List IceCandidate) :
    HasPeer ((passToTurn ipAddress ls connections).1 ptr) ipAddress := by
  induction ls generalizing connections with
  | nil => exact h
  | cons l ls ih =>
    have hstep : HasPeer ((addPeer connections l.ptr ipAddress).1 ptr) ipAddress := by
      by_cases hptr : ptr = l.ptr
      · subst hptr
        simpa [addPeer] using h.stays ipAddress
      · simpa [addPeer, hptr] using h
    unfold passToTurn
    split
    · split
      · next connections' heq =>
        rw [heq] at hstep
        exact ih hstep
      · next connections' e heq =>
        rw [heq] at hstep
        exact hstep
    · exact ih h

/-- **The loop succeeds exactly if every connection it comes to has room, and then every one has the
peer.** -/
theorem passToTurn_iff (connections : Nat → Machine.TurnConnection) (ipAddress : KvsIpAddress)
    (ls : List IceCandidate) :
    ((passToTurn ipAddress ls connections).2 = none ↔
        ∀ l ∈ ls, takesPeer connections ipAddress l = true → TakesPeer (connections l.ptr) ipAddress) ∧
      ((passToTurn ipAddress ls connections).2 = none →
        ∀ l ∈ ls, takesPeer connections ipAddress l = true →
          HasPeer ((passToTurn ipAddress ls connections).1 l.ptr) ipAddress) := by
  induction ls generalizing connections with
  | nil => simp [passToTurn]
  | cons l ls ih =>
    unfold passToTurn
    by_cases htakes : takesPeer connections ipAddress l = true
    · rw [if_pos htakes]
      have hmatching : isMatchingTurnFamily (connections l.ptr).ipFamilyType ipAddress = true := by
        exact (Bool.and_eq_true _ _ ▸ htakes).2
      obtain ⟨hnone, hhas⟩ := addPeer_spec hmatching
      cases hadd : Machine.turnConnectionAddPeer (connections l.ptr) ipAddress with
      | mk c status =>
        rw [hadd] at hnone hhas
        have heq : addPeer connections l.ptr ipAddress =
            (Function.update connections l.ptr c, status) := by
          unfold addPeer
          rw [hadd]
        rw [heq]
        cases status with
        | some e =>
          refine ⟨⟨fun h => (by cases h), fun h => ?_⟩, fun h => (by cases h)⟩
          exact absurd (hnone.mpr (h l List.mem_cons_self htakes)) (by simp)
        | none =>
          -- the connections of the other candidates are as before, and this one has the peer
          have hfamily : c.ipFamilyType = (connections l.ptr).ipFamilyType := by
            have := family_addPeer (connections l.ptr) ipAddress
            rwa [hadd] at this
          have htakes' (k : IceCandidate) :
              takesPeer (Function.update connections l.ptr c) ipAddress k =
                takesPeer connections ipAddress k := by
            unfold takesPeer
            by_cases hptr : k.ptr = l.ptr
            · rw [hptr, Function.update_self, hfamily]
            · rw [Function.update_of_ne hptr]
          have hpeer' (k : IceCandidate) :
              TakesPeer (Function.update connections l.ptr c k.ptr) ipAddress ↔
                TakesPeer (connections k.ptr) ipAddress := by
            by_cases hptr : k.ptr = l.ptr
            · rw [hptr, Function.update_self]
              exact ⟨fun _ => hnone.mp rfl, fun _ => .inl (hhas rfl)⟩
            · rw [Function.update_of_ne hptr]
          obtain ⟨hrest, hrestHas⟩ := ih (Function.update connections l.ptr c)
          simp only [htakes', hpeer'] at hrest hrestHas
          refine ⟨?_, fun h => ?_⟩
          · rw [hrest, List.forall_mem_cons]
            exact ⟨fun h => ⟨fun _ => hnone.mp rfl, h⟩, fun h => h.2⟩
          · rw [List.forall_mem_cons]
            refine ⟨fun _ => ?_, hrestHas h⟩
            apply HasPeer.pass
            rw [Function.update_self]
            exact hhas rfl
    · rw [if_neg htakes]
      simpa [List.forall_mem_cons, htakes] using ih connections

end

/-! ## The loop over the remote candidates -/

/-- What `isSameIpAddress` compares. -/
def addressKey (a : KvsIpAddress) : UINT16 × Bytes × UINT16 :=
  (a.family, a.address.take a.addressLength, a.port)

theorem isSameIpAddress_iff (a b : KvsIpAddress) :
    Turn.isSameIpAddress a b = true ↔ addressKey a = addressKey b := by
  have hlength (h : a.family = b.family) : a.addressLength = b.addressLength := by
    unfold KvsIpAddress.addressLength KvsIpAddress.isIpv4
    rw [h]
  simp only [Turn.isSameIpAddress, addressKey, Bool.and_eq_true, decide_eq_true_eq, Prod.mk.injEq,
    and_assoc]
  refine and_congr_right fun hfamily => ?_
  rw [hlength hfamily]

def peerKeys (c : Machine.TurnConnection) : List (UINT16 × Bytes × UINT16) :=
  c.turnPeerList.map fun p => addressKey p.address

theorem hasPeer_iff (c : Machine.TurnConnection) (ipAddress : KvsIpAddress) :
    HasPeer c ipAddress ↔ addressKey ipAddress ∈ peerKeys c := by
  simp [HasPeer, peerKeys, isSameIpAddress_iff]

/-- The remote candidates a connection of the family takes. -/
def matchingRemotes (turnServerIpFamily : UINT16) (rs : List IceCandidate) : List IceCandidate :=
  rs.filter fun r => isMatchingTurnFamily turnServerIpFamily r.ipAddress

/-- Their different addresses. -/
def remoteKeys (turnServerIpFamily : UINT16) (rs : List IceCandidate) :
    Finset (UINT16 × Bytes × UINT16) :=
  ((matchingRemotes turnServerIpFamily rs).map fun r => addressKey r.ipAddress).toFinset

/-- **The peers and the addresses of the remote candidates need room together.** -/
theorem addRemotePeers_card {turnServerIpFamily : UINT16} (rs : List IceCandidate)
    {c : Machine.TurnConnection} (hfamily : c.ipFamilyType = turnServerIpFamily)
    (hnodup : (peerKeys c).Nodup) (hcount : c.turnPeerList.length ≤ DEFAULT_TURN_MAX_PEER_COUNT) :
    ((addRemotePeers c turnServerIpFamily rs).2 = none ↔
        ((peerKeys c).toFinset ∪ remoteKeys turnServerIpFamily rs).card ≤
          DEFAULT_TURN_MAX_PEER_COUNT) ∧
      ((addRemotePeers c turnServerIpFamily rs).2 = none →
        ∀ k ∈ (peerKeys c).toFinset ∪ remoteKeys turnServerIpFamily rs,
          k ∈ peerKeys (addRemotePeers c turnServerIpFamily rs).1) := by
  have hcard (c : Machine.TurnConnection) (h : (peerKeys c).Nodup) :
      (peerKeys c).toFinset.card = c.turnPeerList.length := by
    rw [List.toFinset_card_of_nodup h, peerKeys, List.length_map]
  induction rs generalizing c with
  | nil =>
    refine ⟨?_, fun _ k hk => by
      simpa [addRemotePeers, remoteKeys, matchingRemotes] using hk⟩
    simp only [addRemotePeers, remoteKeys, matchingRemotes, List.filter_nil, List.map_nil,
      List.toFinset_nil, Finset.union_empty, true_iff, hcard c hnodup]
    exact hcount
  | cons r rs ih =>
    unfold addRemotePeers
    by_cases hmatching : isMatchingTurnFamily turnServerIpFamily r.ipAddress = true
    · rw [if_pos hmatching]
      have hkeys : remoteKeys turnServerIpFamily (r :: rs) =
          insert (addressKey r.ipAddress) (remoteKeys turnServerIpFamily rs) := by
        simp [remoteKeys, matchingRemotes, hmatching]
      rw [← hfamily] at hmatching
      have hnot := not_ofOtherFamily hmatching
      have hany : c.turnPeerList.any (fun p => Turn.isSameIpAddress p.address r.ipAddress) = true ↔
          addressKey r.ipAddress ∈ peerKeys c := by
        rw [← hasPeer_iff]
        exact List.any_eq_true
      rw [hkeys]
      unfold Machine.turnConnectionAddPeer
      rw [hnot]
      by_cases hpeer : addressKey r.ipAddress ∈ peerKeys c
      · rw [if_pos (hany.mpr hpeer)]
        have hunion : (peerKeys c).toFinset ∪
            insert (addressKey r.ipAddress) (remoteKeys turnServerIpFamily rs) =
            (peerKeys c).toFinset ∪ remoteKeys turnServerIpFamily rs := by
          rw [Finset.union_insert, Finset.insert_eq_of_mem]
          exact Finset.mem_union_left _ (List.mem_toFinset.mpr hpeer)
        rw [hunion]
        exact ih hfamily hnodup hcount
      · rw [if_neg (mt hany.mp hpeer)]
        by_cases hfull : DEFAULT_TURN_MAX_PEER_COUNT ≤ c.turnPeerList.length
        · rw [if_pos hfull]
          refine ⟨⟨fun h => (by cases h), fun h => ?_⟩, fun h => (by cases h)⟩
          -- the address is one more than the peers that fill the connection
          have hmore : (insert (addressKey r.ipAddress) (peerKeys c).toFinset).card ≤
              ((peerKeys c).toFinset ∪
                insert (addressKey r.ipAddress) (remoteKeys turnServerIpFamily rs)).card := by
            apply Finset.card_le_card
            intro k hk
            rcases Finset.mem_insert.mp hk with rfl | hk
            · exact Finset.mem_union_right _ (Finset.mem_insert_self _ _)
            · exact Finset.mem_union_left _ hk
          rw [Finset.card_insert_of_notMem (by simpa using hpeer), hcard c hnodup] at hmore
          omega
        · rw [if_neg hfull]
          obtain ⟨c', hc'⟩ : ∃ c' : Machine.TurnConnection, c' = { c with turnPeerList :=
              c.turnPeerList ++ [newPeer r.ipAddress (c.turnPeerList.length + 1)] } := ⟨_, rfl⟩
          have hkeys' : peerKeys c' = peerKeys c ++ [addressKey r.ipAddress] := by
            simp [hc', peerKeys, newPeer]
          have hnodup' : (peerKeys c').Nodup := by
            rw [hkeys', List.nodup_append]
            refine ⟨hnodup, by simp, ?_⟩
            rintro k hk k' hk' rfl
            exact hpeer (by simpa using List.mem_singleton.mp hk' ▸ hk)
          have hunion : (peerKeys c').toFinset ∪ remoteKeys turnServerIpFamily rs =
              (peerKeys c).toFinset ∪
                insert (addressKey r.ipAddress) (remoteKeys turnServerIpFamily rs) := by
            rw [hkeys', List.toFinset_append, Finset.union_assoc, Finset.insert_eq]
            simp
          have hrest := ih (c := c') (by rw [hc']; exact hfamily) hnodup' (by
            rw [hc', List.length_append, List.length_singleton]
            omega)
          rw [hunion] at hrest
          rw [← hc']
          exact hrest
    · rw [if_neg hmatching]
      have hkeys : remoteKeys turnServerIpFamily (r :: rs) = remoteKeys turnServerIpFamily rs := by
        simp [remoteKeys, matchingRemotes, hmatching]
      rw [hkeys]
      exact ih hfamily hnodup hcount

/-- **A new connection takes all remote candidates of its family exactly if they have at most 32
different addresses.** -/
theorem addRemotePeers_iff (username credential : Bytes) (turnServerIpFamily : UINT16)
    (rs : List IceCandidate) :
    ((addRemotePeers (createTurnConnection username credential turnServerIpFamily)
          turnServerIpFamily rs).2 = none ↔
        (remoteKeys turnServerIpFamily rs).card ≤ DEFAULT_TURN_MAX_PEER_COUNT) ∧
      ((addRemotePeers (createTurnConnection username credential turnServerIpFamily)
          turnServerIpFamily rs).2 = none →
        ∀ r ∈ matchingRemotes turnServerIpFamily rs,
          HasPeer (addRemotePeers (createTurnConnection username credential turnServerIpFamily)
            turnServerIpFamily rs).1 r.ipAddress) := by
  have hempty : peerKeys (createTurnConnection username credential turnServerIpFamily) = [] := rfl
  obtain ⟨hnone, hhas⟩ := addRemotePeers_card rs
    (c := createTurnConnection username credential turnServerIpFamily) rfl
    (by rw [hempty]; exact List.nodup_nil) (Nat.zero_le _)
  rw [hempty, List.toFinset_nil, Finset.empty_union] at hnone hhas
  refine ⟨hnone, fun h r hr => ?_⟩
  rw [hasPeer_iff]
  exact hhas h _ (List.mem_toFinset.mpr (List.mem_map_of_mem hr))

/-! ## Atomic operations -/

/-- The lists of the agent and of its TURN connections are the same. -/
structure SameLists (s s' : TurnAgent) : Prop where
  remoteCandidates : s'.agent.remoteCandidates = s.agent.remoteCandidates
  localCandidates : s'.agent.localCandidates = s.agent.localCandidates
  iceCandidatePairs : s'.agent.iceCandidatePairs = s.agent.iceCandidatePairs
  relayCandidateCount : s'.agent.relayCandidateCount = s.agent.relayCandidateCount
  turnPeerList : ∀ ptr, (s'.pTurnConnection ptr).turnPeerList = (s.pTurnConnection ptr).turnPeerList

/-- Every relayed candidate of the address's family has it as a peer. -/
def PeersKnow (s : TurnAgent) (ipAddress : KvsIpAddress) : Prop :=
  ∀ l ∈ s.agent.localCandidates, takesPeer s.pTurnConnection ipAddress l = true →
    HasPeer (s.pTurnConnection l.ptr) ipAddress

/-- Every relayed candidate of the address's family has it as a peer or has room. -/
def PeersTake (s : TurnAgent) (ipAddress : KvsIpAddress) : Prop :=
  ∀ l ∈ s.agent.localCandidates, takesPeer s.pTurnConnection ipAddress l = true →
    TakesPeer (s.pTurnConnection l.ptr) ipAddress

/-- `iceAgentAddRemoteCandidate` changes nothing on failure, and the address of the line is a peer of
every relayed candidate on success. -/
def AddAtomic (s : TurnAgent) (line : Bytes) : Prop :=
  ((iceAgentAddRemoteCandidate s line).2 ≠ none →
      SameLists s (iceAgentAddRemoteCandidate s line).1) ∧
    ((iceAgentAddRemoteCandidate s line).2 = none → ∀ f, parseCandidate line = .ok f →
      PeersKnow (iceAgentAddRemoteCandidate s line).1 f.candidateIpAddr)

/-- `iceAgentInitRelayCandidate` changes nothing on failure, and on success every remote candidate is
a peer of a relayed candidate that is new. -/
def InitAtomic (s : TurnAgent) (setup : RelaySetup) : Prop :=
  ((iceAgentInitRelayCandidate s setup).2 ≠ none →
      SameLists s (iceAgentInitRelayCandidate s setup).1) ∧
    ((iceAgentInitRelayCandidate s setup).2 = none →
      ∀ l, (iceAgentInitRelayCandidate s setup).1.agent.localCandidates =
          l :: s.agent.localCandidates →
        ∀ r ∈ matchingRemotes setup.turnServerIpFamily s.agent.remoteCandidates,
          HasPeer ((iceAgentInitRelayCandidate s setup).1.pTurnConnection l.ptr) r.ipAddress)

/-- A known address is a peer everywhere already; for a new one there is room everywhere. -/
def AddFits (s : TurnAgent) (line : Bytes) : Prop :=
  ∀ f, parseCandidate line = .ok f → ¬Full s →
    (¬Unknown s f.candidateIpAddr → PeersKnow s f.candidateIpAddr) ∧
      (Unknown s f.candidateIpAddr → PeersTake s f.candidateIpAddr)

/-- The candidate is not linked at all. -/
def NotLinked (s : TurnAgent) (setup : RelaySetup) : Prop :=
  setup.turnServerIpFamily = KVS_IP_FAMILY_TYPE_NOT_SET ∨ setup.secureOverUdp = true ∨
    KVS_ICE_MAX_RELAY_CANDIDATE_COUNT ≤ s.agent.relayCandidateCount ∨ setup.failure ≠ none

/-- The candidate is not linked, or the remote candidates fit and the connection starts. -/
def InitFits (s : TurnAgent) (setup : RelaySetup) : Prop :=
  NotLinked s setup ∨
    ((remoteKeys setup.turnServerIpFamily s.agent.remoteCandidates).card ≤
      DEFAULT_TURN_MAX_PEER_COUNT ∧ setup.started = none)

theorem sameLists_self (s : TurnAgent) : SameLists s s := ⟨rfl, rfl, rfl, rfl, fun _ => rfl⟩

theorem localCandidates_addNew (s : TurnAgent) (f : Fields) :
    (addNewCandidate s f).1.agent.localCandidates = s.agent.localCandidates := by
  change ((s.agent.insertRemote _).createPairsForRemote _).localCandidates = _
  refine createPairsForRemote_induct (P := fun a => a.localCandidates = _) _ ?_ rfl
  intro b l hb _ _ _ _ _
  exact hb

theorem addNew_pass (s : TurnAgent) (f : Fields) :
    (addNewCandidate s f).1.pTurnConnection =
        (passToTurn f.candidateIpAddr s.agent.localCandidates s.pTurnConnection).1 ∧
      ((addNewCandidate s f).2 = none ↔
        (passToTurn f.candidateIpAddr s.agent.localCandidates s.pTurnConnection).2 = none) := by
  have hlocal := localCandidates_addNew s f
  change ((s.agent.insertRemote _).createPairsForRemote _).localCandidates = _ at hlocal
  unfold addNewCandidate
  dsimp only
  rw [hlocal]
  simp

theorem takesPeer_pass (ipAddress : KvsIpAddress) (ls : List IceCandidate)
    (connections : Nat → Machine.TurnConnection) (l : IceCandidate) :
    takesPeer (passToTurn ipAddress ls connections).1 ipAddress l =
      takesPeer connections ipAddress l := by
  unfold takesPeer
  rw [family_pass]

/-- **When adding a remote candidate is atomic.** -/
theorem addAtomic_iff (s : TurnAgent) (line : Bytes) : AddAtomic s line ↔ AddFits s line := by
  by_cases hne : line = []
  · subst hne
    have herror : ∀ f, parseCandidate [] ≠ .ok f := fun f h => by cases h
    refine iff_of_true ⟨fun _ => ?_, fun _ f hf => absurd hf (herror f)⟩
      fun f hf => absurd hf (herror f)
    exact sameLists_self s
  · unfold AddAtomic AddFits
    by_cases hfull : Full s
    · rw [add_full hne hfull]
      exact iff_of_true ⟨fun _ => sameLists_self s, fun h => by cases h⟩
        fun f _ hroom => absurd hfull hroom
    · rw [add_room hne hfull]
      cases hparse : parseCandidate line with
      | error e =>
        exact iff_of_true ⟨fun _ => sameLists_self s, fun h => by cases h⟩ fun f hf => by cases hf
      | ok f =>
        simp only [Except.ok.injEq, forall_eq', hfull, not_false_eq_true, forall_const]
        by_cases hunknown : Unknown s f.candidateIpAddr
        · have hfind : findCandidateWithIp f.candidateIpAddr s.agent.remoteCandidates = none :=
            hunknown
          simp only [hfind, hunknown, not_true_eq_false, false_imp_iff, true_and, forall_const]
          obtain ⟨hconnections, hstatus⟩ := addNew_pass s f
          obtain ⟨hnone, hhas⟩ := passToTurn_iff s.pTurnConnection f.candidateIpAddr
            s.agent.localCandidates
          constructor
          · rintro ⟨hsame, -⟩
            refine hnone.mp (hstatus.mp ?_)
            by_contra hfailed
            have hlength := congrArg List.length (hsame hfailed).remoteCandidates
            rw [remoteCandidates_addNew] at hlength
            simp at hlength
          · intro htake
            have hok := hnone.mpr htake
            refine ⟨fun hfailed => absurd (hstatus.mpr hok) hfailed, fun _ l hl htakes => ?_⟩
            rw [localCandidates_addNew] at hl
            rw [hconnections] at htakes ⊢
            rw [takesPeer_pass] at htakes
            exact hhas hok l hl htakes
        · obtain ⟨r, hfind⟩ : ∃ r, findCandidateWithIp f.candidateIpAddr
              s.agent.remoteCandidates = some r := Option.ne_none_iff_exists'.mp hunknown
          simp only [hfind, hunknown, not_false_eq_true, forall_const, false_imp_iff, and_true,
            ne_eq, not_true_eq_false, true_and]

/-- **When adding a relayed candidate is atomic.** -/
theorem initAtomic_iff (s : TurnAgent) (setup : RelaySetup) :
    InitAtomic s setup ↔ InitFits s setup := by
  unfold InitAtomic InitFits
  by_cases hlinked : NotLinked s setup
  · have hsame : (iceAgentInitRelayCandidate s setup).1 = s := by
      unfold iceAgentInitRelayCandidate
      split
      · rfl
      · split
        · rfl
        · split
          · rfl
          · cases hfailure : setup.failure with
            | some e => rfl
            | none =>
              rcases hlinked with h | h | h | h
              · contradiction
              · contradiction
              · contradiction
              · exact absurd hfailure h
    rw [hsame]
    refine iff_of_true ⟨fun _ => sameLists_self s, fun _ l hl => ?_⟩ (.inl hlinked)
    exact absurd (congrArg List.length hl) (by simp)
  · simp only [hlinked, false_or]
    simp only [NotLinked, not_or, Bool.not_eq_true, not_not] at hlinked
    obtain ⟨hfamily, hsecure, hcount, hfailure⟩ := hlinked
    obtain ⟨hnone, hhas⟩ := addRemotePeers_iff setup.username setup.credential
      setup.turnServerIpFamily s.agent.remoteCandidates
    have hremote (a : IceAgent) (l : IceCandidate) (n : Nat) :
        ({ a.insertLocal l with nextPtr := n } : IceAgent).remoteCandidates = a.remoteCandidates :=
      rfl
    unfold iceAgentInitRelayCandidate
    rw [if_neg hfamily, hsecure, if_neg (by simp), if_neg hcount, hfailure]
    dsimp only
    rw [hremote]
    cases hadd : addRemotePeers (createTurnConnection setup.username setup.credential
        setup.turnServerIpFamily) setup.turnServerIpFamily s.agent.remoteCandidates with
    | mk connection status =>
      rw [hadd] at hnone hhas
      cases status with
      | some e =>
        refine iff_of_false (fun h => ?_) fun h => absurd (hnone.mpr h.1) (by simp)
        have hlength := congrArg List.length (h.1 (by simp)).localCandidates
        simp [IceAgent.insertLocal] at hlength
      | none =>
        dsimp only at hnone hhas ⊢
        have hcard := hnone.mp rfl
        constructor
        · intro h
          refine ⟨hcard, ?_⟩
          by_contra hfailed
          have hlength := congrArg List.length (h.1 hfailed).localCandidates
          simp [IceAgent.insertLocal] at hlength
        · rintro ⟨-, hstarted⟩
          refine ⟨fun h => absurd hstarted h, fun _ l hl r hr => ?_⟩
          obtain ⟨rfl, -⟩ := List.cons.inj (hl.symm.trans rfl :
            l :: s.agent.localCandidates =
              relayCandidate s.agent setup.iceServerIndex :: s.agent.localCandidates)
          rw [Function.update_self]
          exact hhas rfl r hr

/-- **Adding a candidate is atomic exactly if every TURN connection it reaches has room, a known
address is their peer already, and a connection that was linked also starts.** -/
theorem adding_atomic (s : TurnAgent) (line : Bytes) (setup : RelaySetup) :
    (AddAtomic s line ↔ AddFits s line) ∧ (InitAtomic s setup ↔ InitFits s setup) :=
  ⟨addAtomic_iff s line, initAtomic_iff s setup⟩

/-- A relayed candidate whose connection has 32 peers. -/
def crowdedAgent : TurnAgent where
  agent := emptyAgent.agent.insertLocal (relayCandidate emptyAgent.agent 0)
  pTurnConnection _ :=
    { createTurnConnection [] [] KVS_IP_FAMILY_TYPE_IPV4 with
      turnPeerList := (List.range 32).map fun n =>
        newPeer (ipAddressOf KVS_IP_FAMILY_TYPE_IPV4 [10, 0, 0, BitVec.ofNat 8 n]) (n + 1) }

/-- The 33rd remote candidate is stored although the call fails. -/
theorem candidate_left_behind :
    ¬∀ (s : TurnAgent) (line : Bytes) (setup : RelaySetup),
      AddAtomic s line ∧ InitAtomic s setup := by
  intro h
  have hatomic := (h crowdedAgent (Sdp.ascii "1 1 udp 1 192.0.2.3 4 typ host ")
    ⟨KVS_IP_FAMILY_TYPE_IPV4, 0, false, none, [], [], none⟩).1
  rw [addAtomic_iff] at hatomic
  have hparse : parseCandidate (Sdp.ascii "1 1 udp 1 192.0.2.3 4 typ host ") =
      .ok ⟨{ ipAddressOf KVS_IP_FAMILY_TYPE_IPV4 [192, 0, 2, 3] with port := 4 }, true, 1, .HOST,
        .UDP⟩ := by
    decide
  have htake := (hatomic _ hparse (by unfold Full; decide)).2 rfl _ List.mem_cons_self rfl
  rcases htake with ⟨p, hp, hsame⟩ | hroom
  · obtain ⟨n, -, rfl⟩ := List.mem_map.mp hp
    simp [Turn.isSameIpAddress, newPeer, ipAddressOf] at hsame
  · exact absurd hroom (by decide)

end KvsWebrtc.Ice.Trickle
