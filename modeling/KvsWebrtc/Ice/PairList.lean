import KvsWebrtc.Ice.References
import Mathlib.Data.List.Nodup

/-!
# The list of candidate pairs

Pairs are created in four places: for a new remote candidate, for a new host candidate, for a
relayed candidate when its allocation succeeds, and for a server reflexive candidate in the first
tick after it became valid.  None of them looks for an existing pair.  A server reflexive candidate
is known to be new by its `reported` flag, but it is valid, and open to pairs with new remote
candidates, before the tick; and the flag stays unset in a tick that has ten candidates to report
before it.  Its pairs are then created twice.

Principal results:

* `PairInv` — the invariant: no combination twice, families agree, and which pairs may be missing.
* `pair_list` — the list in every state of a run whose steps are clean, before `READY`.
* `reflexive_pair_twice` — a run that creates a pair twice.
-/

namespace KvsWebrtc.Ice

open Stun

/-- The local and the remote candidate of every pair. -/
def IceAgent.joins (a : IceAgent) : List (Nat × Nat) :=
  a.iceCandidatePairs.map fun p => (p.localPtr, p.remotePtr)

/-- `waiting` are the local candidates that were validated after the last tick. -/
structure PairList (a : IceAgent) (waiting : List Nat) : Prop where
  sorted : a.iceCandidatePairs.Pairwise fun p q => q.priority ≤ p.priority
  unique : a.joins.Nodup
  family : ∀ p ∈ a.iceCandidatePairs, ∃ l ∈ a.localCandidates, ∃ r ∈ a.remoteCandidates,
    l.ptr = p.localPtr ∧ r.ptr = p.remotePtr ∧ l.ipAddress.family = r.ipAddress.family
  complete : ∀ l ∈ a.localCandidates, l.state = .VALID → l.ptr ∉ waiting →
    ∀ r ∈ a.remoteCandidates, r.ipAddress.family = l.ipAddress.family → (l.ptr, r.ptr) ∈ a.joins

/-- The local candidates that are valid in `b` and were not in `a`. -/
def validated (a b : IceAgent) : List Nat :=
  (b.localCandidates.filter fun c => c.state = .VALID &&
    !a.localCandidates.any fun d => d.ptr = c.ptr && d.state = .VALID).map IceCandidate.ptr

/-- The local candidates that wait for a tick after one more event. -/
def waitingAfter (w : Host) (a : IceAgent) (waiting : List Nat) (e : Event) : List Nat :=
  match e with
  | .gather _ => []
  | _ => waiting ++ validated a (step w a e)

/-- The local candidates that wait for a tick after these events. -/
def waitingRun (w : Host) : IceAgent → List Nat → List Event → List Nat
  | _, waiting, [] => waiting
  | a, waiting, e :: events =>
    waitingRun w (step w a e) (waitingAfter w a waiting e) events

/-! ## Clean steps -/

/-- The local candidate that a response of a STUN server makes valid, and its address. -/
def srflxAnswer (w : Host) (a : IceAgent) (buf : Bytes) (socket : Nat) :
    Option (IceCandidate × KvsIpAddress) :=
  if getUnalignedInt16BigEndian buf 0 = STUN_PACKET_TYPE_BINDING_RESPONSE_SUCCESS ∧
      transactionIdStoreHasId a.pStunBindingRequestTransactionIdStore (datagramTransactionId buf)
  then
    match findCandidateWithSocketConnection socket a.localCandidates,
        deserializeStunPacket w.hmac w.crc32 buf none with
    | some l, .ok q =>
      if l.iceCandidateType ≠ .HOST ∧ l.state = .NEW then (mappedAddressOf q).map fun x => (l, x)
      else none
    | _, _ => none
  else none

/-- The local candidate that the response to a check makes peer reflexive, and its address. -/
def localReflexive (w : Host) (a : IceAgent) (buf : Bytes) (socket : Nat) (src : KvsIpAddress) :
    Option (IceCandidate × KvsIpAddress) :=
  if getUnalignedInt16BigEndian buf 0 = STUN_PACKET_TYPE_BINDING_RESPONSE_SUCCESS ∧
      ¬ transactionIdStoreHasId a.pStunBindingRequestTransactionIdStore (datagramTransactionId buf)
  then
    match findIceCandidatePairWithLocalSocketConnectionAndRemoteAddr a socket src,
        findCandidateWithSocketConnection socket a.localCandidates,
        deserializeStunPacket w.hmac w.crc32 buf (some a.remotePassword) with
    | some p, some l, .ok q =>
      (mappedAddressOf q).bind fun x =>
        if transactionIdStoreHasId p.pTransactionIdStore (datagramTransactionId buf) ∧
            seesOtherAddress a p x ∧ findCandidateWithIp x a.localCandidates = none then some (l, x)
        else none
    | _, _, _ => none
  else none

/-- The condition on a step.  In a tick, no server reflexive candidate that is not reported yet has
a pair already.  A response of a STUN server is for a server reflexive candidate, or there is no
remote candidate of that family.  A candidate that becomes peer reflexive keeps its family and has
all its pairs. -/
def CleanStep (w : Host) (a : IceAgent) : Event → Prop
  | .gather _ => ∀ c ∈ a.localCandidates, c.state = .VALID → c.reported = false →
      c.iceCandidateType = .SERVER_REFLEXIVE → ∀ p ∈ a.iceCandidatePairs, p.localPtr ≠ c.ptr
  | .receive buf socket src _ =>
    (∀ x ∈ srflxAnswer w a buf socket, x.1.iceCandidateType = .SERVER_REFLEXIVE ∨
      ∀ r ∈ a.remoteCandidates, r.ipAddress.family ≠ x.2.family) ∧
    ∀ x ∈ localReflexive w a buf socket src, x.2.family = x.1.ipAddress.family ∧
      (x.1.state = .VALID → ∀ r ∈ a.remoteCandidates, r.ipAddress.family = x.2.family →
        (x.1.ptr, r.ptr) ∈ a.joins)
  | _ => True

def CleanRun (w : Host) : IceAgent → List Event → Prop
  | _, [] => True
  | a, e :: events => CleanStep w a e ∧ CleanRun w (step w a e) events

/-- The step does not execute `READY`. -/
def StaysBefore (a : IceAgent) : Event → Prop
  | .stateTimer time _ => a.remoteCredentialReceived = true → ¬ executesReady a time
  | _ => True

/-- The run does not get to `READY`. -/
def BeforeReady (w : Host) : IceAgent → List Event → Prop
  | _, [] => True
  | a, e :: events => StaysBefore a e ∧ BeforeReady w (step w a e) events

instance (w : Host) (a : IceAgent) : (e : Event) → Decidable (CleanStep w a e)
  | .gather _ => inferInstanceAs (Decidable (∀ c ∈ a.localCandidates, _ → _ → _ →
      ∀ p ∈ a.iceCandidatePairs, _))
  | .receive buf socket src _ => inferInstanceAs (Decidable (
      (∀ x ∈ srflxAnswer w a buf socket, x.1.iceCandidateType = .SERVER_REFLEXIVE ∨
        ∀ r ∈ a.remoteCandidates, r.ipAddress.family ≠ x.2.family) ∧
      ∀ x ∈ localReflexive w a buf socket src, x.2.family = x.1.ipAddress.family ∧
        (x.1.state = .VALID → ∀ r ∈ a.remoteCandidates, r.ipAddress.family = x.2.family →
          (x.1.ptr, r.ptr) ∈ a.joins)))
  | .startAgent .. | .addRemoteCandidate .. | .initHostCandidate .. | .initSrflxCandidates ..
  | .initRelayCandidate .. | .turnFailed .. | .stateTimer .. | .keepAlive =>
    inferInstanceAs (Decidable True)

def decidableCleanRun (w : Host) : (a : IceAgent) → (events : List Event) →
    Decidable (CleanRun w a events)
  | _, [] => inferInstanceAs (Decidable True)
  | a, e :: events =>
    have := decidableCleanRun w (step w a e) events
    inferInstanceAs (Decidable (_ ∧ _))

instance (w : Host) (a : IceAgent) (events : List Event) : Decidable (CleanRun w a events) :=
  decidableCleanRun w a events

/-! ## New pairs -/

theorem insertIceCandidatePair_sorted {pairs : List IceCandidatePair} (p : IceCandidatePair)
    (h : pairs.Pairwise fun p q => q.priority ≤ p.priority) :
    (insertIceCandidatePair pairs p).Pairwise fun p q => q.priority ≤ p.priority := by
  induction pairs with
  | nil => exact List.pairwise_singleton _ _
  | cons q qs ih =>
    rw [List.pairwise_cons] at h
    unfold insertIceCandidatePair
    split
    · rename_i hle
      rw [List.pairwise_cons]
      refine ⟨?_, List.pairwise_cons.mpr h⟩
      intro x hx
      rcases List.mem_cons.mp hx with rfl | hx
      · exact hle
      · exact BitVec.le_trans (h.1 x hx) hle
    · rename_i hlt
      rw [List.pairwise_cons]
      refine ⟨?_, ih h.2⟩
      intro x hx
      rcases mem_insertIceCandidatePair.mp hx with rfl | hx
      · exact BitVec.le_of_lt (BitVec.not_le.mp hlt)
      · exact h.1 x hx

theorem joins_createPair (a : IceAgent) (l r : IceCandidate) :
    (a.createPair l r).joins.Perm ((l.ptr, r.ptr) :: a.joins) :=
  (insertIceCandidatePair_perm _ _).map _

theorem joins_foldl {f : IceCandidate → IceCandidate × IceCandidate} (cs : List IceCandidate)
    (a : IceAgent) :
    (cs.foldl (fun a c => a.createPair (f c).1 (f c).2) a).joins.Perm
      (cs.map (fun c => ((f c).1.ptr, (f c).2.ptr)) ++ a.joins) := by
  induction cs generalizing a with
  | nil => exact List.Perm.refl _
  | cons c cs ih =>
    refine (ih _).trans ?_
    refine ((joins_createPair a _ _).append_left _).trans ?_
    exact List.perm_middle

/-- What is the same, and what is kept, when pairs are created. -/
structure Grows (a b : IceAgent) : Prop where
  locals : b.localCandidates = a.localCandidates
  remotes : b.remoteCandidates = a.remoteCandidates
  next : a.nextPtr ≤ b.nextPtr
  sorted : (a.iceCandidatePairs.Pairwise fun p q => q.priority ≤ p.priority) →
    b.iceCandidatePairs.Pairwise fun p q => q.priority ≤ p.priority

theorem Grows.createPair {a b : IceAgent} (h : Grows a b) (l r : IceCandidate) :
    Grows a (b.createPair l r) where
  locals := h.locals
  remotes := h.remotes
  next := Nat.le_succ_of_le h.next
  sorted := fun hsorted => insertIceCandidatePair_sorted _ (h.sorted hsorted)

theorem grows_refl (a : IceAgent) : Grows a a :=
  ⟨rfl, rfl, Nat.le_refl _, id⟩

theorem grows_forRemote (a : IceAgent) (r : IceCandidate) : Grows a (a.createPairsForRemote r) :=
  createPairsForRemote_induct r (fun _ l hb _ _ _ _ _ => hb.createPair l r) (grows_refl a)

theorem grows_forLocal (a : IceAgent) (l : IceCandidate) : Grows a (a.createPairsForLocal l) :=
  createPairsForLocal_induct l (fun _ r hb _ _ _ _ _ => hb.createPair l r) (grows_refl a)

theorem joins_forRemote (a : IceAgent) {r : IceCandidate} (hr : r.state = .VALID) :
    (a.createPairsForRemote r).joins.Perm
      ((a.localCandidates.filter (pairable r)).map (fun l => (l.ptr, r.ptr)) ++ a.joins) := by
  unfold IceAgent.createPairsForRemote
  rw [if_pos hr]
  exact joins_foldl (f := fun l => (l, r)) _ a

theorem joins_forLocal (a : IceAgent) {l : IceCandidate} (hl : l.state = .VALID) :
    (a.createPairsForLocal l).joins.Perm
      ((a.remoteCandidates.filter (pairable l)).map (fun r => (l.ptr, r.ptr)) ++ a.joins) := by
  unfold IceAgent.createPairsForLocal
  rw [if_pos hl]
  exact joins_foldl (f := fun r => (l, r)) _ a

/-! ## The invariant -/

/-- The pair list of an agent.  Only the combinations in `E` may be missing, and only candidates that
are not new are in pairs. -/
structure PairInv (a : IceAgent) (E : IceCandidate → IceCandidate → Prop) : Prop where
  sorted : a.iceCandidatePairs.Pairwise fun p q => q.priority ≤ p.priority
  unique : a.joins.Nodup
  localsUnique : (a.localCandidates.map IceCandidate.ptr).Nodup
  localsFresh : ∀ c ∈ a.localCandidates, c.ptr < a.nextPtr
  unreported : ∀ c ∈ a.localCandidates, c.state = .NEW → c.reported = false
  remotesFresh : ∀ c ∈ a.remoteCandidates, c.ptr < a.nextPtr
  remotesUnique : (a.remoteCandidates.map IceCandidate.ptr).Nodup
  remotesValid : ∀ r ∈ a.remoteCandidates, r.state = .VALID
  family : ∀ j ∈ a.joins, ∃ l ∈ a.localCandidates, ∃ r ∈ a.remoteCandidates,
    j = (l.ptr, r.ptr) ∧ l.state ≠ .NEW ∧ l.ipAddress.family = r.ipAddress.family
  complete : ∀ l ∈ a.localCandidates, l.state = .VALID → ∀ r ∈ a.remoteCandidates,
    r.ipAddress.family = l.ipAddress.family → (l.ptr, r.ptr) ∈ a.joins ∨ E l r

/-- The candidates whose pairs the next tick creates. -/
def Pending (waiting : List Nat) (l _ : IceCandidate) : Prop :=
  l.ptr ∈ waiting ∧ l.iceCandidateType = .SERVER_REFLEXIVE ∧ l.reported = false

namespace PairInv

variable {a b : IceAgent} {E F : IceCandidate → IceCandidate → Prop}

theorem imp (h : PairInv a E)
    (himp : ∀ l ∈ a.localCandidates, l.state = .VALID → ∀ r, E l r → F l r) : PairInv a F :=
  { h with
    complete := fun l hl hvalid r hr hfamily =>
      (h.complete l hl hvalid r hr hfamily).imp_right (himp l hl hvalid r) }

theorem grow {waiting : List Nat} (h : PairInv a (Pending waiting)) (ptrs : List Nat) :
    PairInv a (Pending (waiting ++ ptrs)) := by
  refine h.imp ?_
  rintro l - - r ⟨hptr, hrest⟩
  exact ⟨List.mem_append_left _ hptr, hrest⟩

theorem local_eq (h : PairInv a E) {c d : IceCandidate} (hc : c ∈ a.localCandidates)
    (hd : d ∈ a.localCandidates) (hptr : c.ptr = d.ptr) : c = d :=
  List.inj_on_of_nodup_map h.localsUnique hc hd hptr

theorem remote_lt (h : PairInv a E) {x y : Nat} (hj : (x, y) ∈ a.joins) : y < a.nextPtr := by
  obtain ⟨l, -, r, hr, heq, -⟩ := h.family _ hj
  rw [(Prod.mk.inj heq).2]
  exact h.remotesFresh r hr

theorem local_lt (h : PairInv a E) {x y : Nat} (hj : (x, y) ∈ a.joins) : x < a.nextPtr := by
  obtain ⟨l, hl, r, -, heq, -⟩ := h.family _ hj
  rw [(Prod.mk.inj heq).1]
  exact h.localsFresh l hl

theorem new_not_joined (h : PairInv a E) {c : IceCandidate} (hc : c ∈ a.localCandidates)
    (hnew : c.state = .NEW) (y : Nat) : (c.ptr, y) ∉ a.joins := by
  intro hj
  obtain ⟨l, hl, r, -, heq, hne, -⟩ := h.family _ hj
  rw [h.local_eq hc hl (Prod.mk.inj heq).1] at hnew
  exact hne hnew

/-! ## Changes that create no pairs -/

theorem sameLists (h : PairInv a E) (hs : SameLists a b) : PairInv b E := by
  have hjoins : b.joins = a.joins := by
    have hmap := congrArg (List.map fun x => (x.2.1, x.2.2.1)) hs.pairs
    rw [IceAgent.links, IceAgent.links, List.map_map, List.map_map] at hmap
    exact hmap
  have hback : ∀ d ∈ b.localCandidates, ∃ c ∈ a.localCandidates, Fades c d := by
    intro d hd
    obtain ⟨i, hi, rfl⟩ := List.mem_iff_getElem.mp hd
    have hia : i < a.localCandidates.length := by rw [hs.locals.length_eq]; exact hi
    exact ⟨_, List.getElem_mem hia, hs.locals.get hia hi⟩
  have hforth : ∀ c ∈ a.localCandidates, ∃ d ∈ b.localCandidates, Fades c d := by
    intro c hc
    obtain ⟨i, hi, rfl⟩ := List.mem_iff_getElem.mp hc
    have hib : i < b.localCandidates.length := by rw [← hs.locals.length_eq]; exact hi
    exact ⟨_, List.getElem_mem hib, hs.locals.get hi hib⟩
  constructor
  · have hsorted := h.sorted
    have hlinks : (a.links.map fun x => x.2.2.2).Pairwise fun x y => y ≤ x := by
      rw [IceAgent.links, List.map_map, List.pairwise_map]
      exact hsorted
    rw [← hs.pairs, IceAgent.links, List.map_map, List.pairwise_map] at hlinks
    exact hlinks
  · rw [hjoins]
    exact h.unique
  · rw [hs.localPtrs]
    exact h.localsUnique
  · intro d hd
    obtain ⟨c, hc, hfade⟩ := hback d hd
    rw [hfade.ptr_eq, hs.next]
    exact h.localsFresh c hc
  · intro d hd hnew
    obtain ⟨c, hc, hfade⟩ := hback d hd
    rcases hfade with rfl | rfl
    · exact h.unreported d hc hnew
    · cases hnew
  · rw [hs.remotes, hs.next]
    exact h.remotesFresh
  · rw [hs.remotes]
    exact h.remotesUnique
  · rw [hs.remotes]
    exact h.remotesValid
  · rw [hjoins, hs.remotes]
    intro j hj
    obtain ⟨l, hl, r, hr, heq, hne, hfamily⟩ := h.family j hj
    obtain ⟨d, hd, hfade⟩ := hforth l hl
    refine ⟨d, hd, r, hr, ?_, ?_, ?_⟩
    · rw [heq, hfade.ptr_eq]
    · rcases hfade with rfl | rfl
      · exact hne
      · exact fun hnew => by cases hnew
    · rcases hfade with rfl | rfl <;> exact hfamily
  · rw [hjoins, hs.remotes]
    intro d hd hvalid r hr hfamily
    obtain ⟨c, hc, hfade⟩ := hback d hd
    have hsame : d = c := by
      rcases hfade with heq | rfl
      · exact heq
      · cases hvalid
    subst hsame
    exact h.complete d hc hvalid r hr hfamily

theorem replace (h : PairInv a E) {c d : IceCandidate} (hc : c ∈ a.localCandidates)
    (hptr : d.ptr = c.ptr) (hnew : d.state = .NEW → c.state = .NEW ∧ d.reported = c.reported)
    (hfamily : d.ipAddress.family = c.ipAddress.family ∨ ∀ y, (c.ptr, y) ∉ a.joins)
    (hcomplete : d.state = .VALID → ∀ r ∈ a.remoteCandidates,
      r.ipAddress.family = d.ipAddress.family → (d.ptr, r.ptr) ∈ a.joins ∨ F d r)
    (hF : ∀ l ∈ a.localCandidates, l.ptr ≠ c.ptr → ∀ r, E l r → F l r) :
    PairInv (a.updateLocal c.ptr fun _ => d) F where
  sorted := h.sorted
  unique := h.unique
  localsUnique := by
    rw [localPtrs_updateLocal _ _ _ fun _ _ => hptr]
    exact h.localsUnique
  localsFresh := by
    intro x hx
    obtain ⟨l, hl, heq⟩ := List.mem_map.mp hx
    split at heq
    · rw [← heq, hptr]
      exact h.localsFresh c hc
    · rw [← heq]
      exact h.localsFresh l hl
  unreported := by
    intro x hx hxnew
    obtain ⟨l, hl, heq⟩ := List.mem_map.mp hx
    split at heq
    · subst heq
      rw [(hnew hxnew).2]
      exact h.unreported c hc (hnew hxnew).1
    · subst heq
      exact h.unreported l hl hxnew
  remotesFresh := h.remotesFresh
  remotesUnique := h.remotesUnique
  remotesValid := h.remotesValid
  family := by
    intro j hj
    obtain ⟨l, hl, r, hr, heq, hne, hsame⟩ := h.family j hj
    by_cases hlc : l.ptr = c.ptr
    · have hl' : l = c := h.local_eq hl hc hlc
      subst hl'
      refine ⟨d, List.mem_map.mpr ⟨l, hl, if_pos rfl⟩, r, hr, ?_, fun hd => hne (hnew hd).1, ?_⟩
      · rw [hptr]
        exact heq
      · rcases hfamily with hfamily | hnone
        · rw [hfamily]
          exact hsame
        · exact absurd (heq ▸ hj) (hnone r.ptr)
    · exact ⟨l, List.mem_map.mpr ⟨l, hl, if_neg hlc⟩, r, hr, heq, hne, hsame⟩
  complete := by
    intro x hx hvalid r hr hsame
    obtain ⟨l, hl, heq⟩ := List.mem_map.mp hx
    split at heq
    · subst heq
      exact hcomplete hvalid r hr hsame
    · rename_i hne
      subst heq
      exact (h.complete l hl hvalid r hr hsame).imp_right (hF l hl hne r)

theorem insertLocals (h : PairInv a E) (cs : List IceCandidate) (n : Nat)
    (hcs : ∀ c ∈ cs, a.nextPtr ≤ c.ptr ∧ c.ptr < n) (hn : a.nextPtr ≤ n)
    (hunique : (cs.map IceCandidate.ptr).Nodup) (hunreported : ∀ c ∈ cs, c.reported = false)
    (hvalid : ∀ c ∈ cs, c.state = .VALID → ∀ r, F c r)
    (hF : ∀ l ∈ a.localCandidates, ∀ r, E l r → F l r) :
    PairInv { a with localCandidates := cs ++ a.localCandidates, nextPtr := n } F where
  sorted := h.sorted
  unique := h.unique
  localsUnique := by
    rw [List.map_append, List.nodup_append]
    refine ⟨hunique, h.localsUnique, ?_⟩
    intro x hx y hy heq
    obtain ⟨c, hc, rfl⟩ := List.mem_map.mp hx
    obtain ⟨l, hl, rfl⟩ := List.mem_map.mp hy
    have := (hcs c hc).1
    have := h.localsFresh l hl
    omega
  localsFresh := by
    intro c hc
    rcases List.mem_append.mp hc with hc | hc
    · exact (hcs c hc).2
    · exact Nat.lt_of_lt_of_le (h.localsFresh c hc) hn
  unreported := by
    intro c hc hnew
    rcases List.mem_append.mp hc with hc | hc
    · exact hunreported c hc
    · exact h.unreported c hc hnew
  remotesFresh := fun c hc => Nat.lt_of_lt_of_le (h.remotesFresh c hc) hn
  remotesUnique := h.remotesUnique
  remotesValid := h.remotesValid
  family := by
    intro j hj
    obtain ⟨l, hl, r, hr, hrest⟩ := h.family j hj
    exact ⟨l, List.mem_append_right _ hl, r, hr, hrest⟩
  complete := by
    intro l hl hlvalid r hr hsame
    rcases List.mem_append.mp hl with hl | hl
    · exact Or.inr (hvalid l hl hlvalid r)
    · exact (h.complete l hl hlvalid r hr hsame).imp_right (hF l hl r)

theorem insertLocal (h : PairInv a E) {c : IceCandidate} (hptr : c.ptr = a.nextPtr)
    (hunreported : c.reported = false)
    (hvalid : c.state = .VALID → ∀ r, F c r)
    (hF : ∀ l ∈ a.localCandidates, ∀ r, E l r → F l r) :
    PairInv { a.insertLocal c with nextPtr := a.nextPtr + 2 } F := by
  refine h.insertLocals [c] (a.nextPtr + 2) ?_ (by omega) (List.nodup_singleton _) ?_ ?_ hF
  · intro d hd
    rw [List.mem_singleton.mp hd]
    omega
  · intro d hd
    rw [List.mem_singleton.mp hd]
    exact hunreported
  · intro d hd
    rw [List.mem_singleton.mp hd]
    exact hvalid

/-! ## Creating pairs -/

theorem mem_joins_of_perm {js : List (Nat × Nat)} (hperm : b.joins.Perm (js ++ a.joins))
    {j : Nat × Nat} : j ∈ b.joins ↔ j ∈ js ∨ j ∈ a.joins := by
  rw [hperm.mem_iff, List.mem_append]

theorem addPairs (h : PairInv a E) (hgrow : Grows a b) {js : List (Nat × Nat)}
    (hperm : b.joins.Perm (js ++ a.joins)) (hunique : js.Nodup)
    (hdisjoint : ∀ j ∈ js, j ∉ a.joins)
    (hfamily : ∀ j ∈ js, ∃ l ∈ a.localCandidates, ∃ r ∈ a.remoteCandidates,
      j = (l.ptr, r.ptr) ∧ l.state ≠ .NEW ∧ l.ipAddress.family = r.ipAddress.family)
    (hF : ∀ l ∈ a.localCandidates, l.state = .VALID → ∀ r ∈ a.remoteCandidates,
      r.ipAddress.family = l.ipAddress.family → E l r → (l.ptr, r.ptr) ∈ js ∨ F l r) :
    PairInv b F where
  sorted := hgrow.sorted h.sorted
  unique := by
    rw [hperm.nodup_iff, List.nodup_append]
    refine ⟨hunique, h.unique, ?_⟩
    intro x hx y hy heq
    exact hdisjoint x hx (heq ▸ hy)
  localsUnique := by
    rw [hgrow.locals]
    exact h.localsUnique
  localsFresh := by
    rw [hgrow.locals]
    exact fun c hc => Nat.lt_of_lt_of_le (h.localsFresh c hc) hgrow.next
  unreported := by
    rw [hgrow.locals]
    exact h.unreported
  remotesFresh := by
    rw [hgrow.remotes]
    exact fun c hc => Nat.lt_of_lt_of_le (h.remotesFresh c hc) hgrow.next
  remotesUnique := by
    rw [hgrow.remotes]
    exact h.remotesUnique
  remotesValid := by
    rw [hgrow.remotes]
    exact h.remotesValid
  family := by
    rw [hgrow.locals, hgrow.remotes]
    intro j hj
    rcases (mem_joins_of_perm hperm).mp hj with hj | hj
    · exact hfamily j hj
    · exact h.family j hj
  complete := by
    rw [hgrow.locals, hgrow.remotes]
    intro l hl hvalid r hr hsame
    rw [mem_joins_of_perm hperm]
    rcases h.complete l hl hvalid r hr hsame with hj | hE
    · exact Or.inl (Or.inr hj)
    · exact (hF l hl hvalid r hr hsame hE).imp_left Or.inl

theorem pairable_iff {c d : IceCandidate} :
    pairable c d = true ↔ d.state = .VALID ∧ d.ipAddress.family = c.ipAddress.family := by
  unfold pairable
  rw [Bool.and_eq_true, decide_eq_true_iff, decide_eq_true_iff]

/-- All pairs of a local candidate that has none; `x` is the candidate as it stands in the list. -/
theorem createPairsForLocal (h : PairInv a E) {c x : IceCandidate} (hvalid : c.state = .VALID)
    (hx : x ∈ a.localCandidates) (hptr : x.ptr = c.ptr) (hstate : x.state = .VALID)
    (hfamily : x.ipAddress.family = c.ipAddress.family) (hnone : ∀ y, (c.ptr, y) ∉ a.joins)
    (hF : ∀ l ∈ a.localCandidates, l.ptr ≠ c.ptr → ∀ r, E l r → F l r) :
    PairInv (a.createPairsForLocal c) F := by
  refine h.addPairs (grows_forLocal a c) (joins_forLocal a hvalid) ?_ ?_ ?_ ?_
  · refine List.Nodup.of_map Prod.snd ?_
    rw [List.map_map]
    exact h.remotesUnique.sublist (List.filter_sublist.map _)
  · intro j hj
    obtain ⟨r, -, rfl⟩ := List.mem_map.mp hj
    exact hnone r.ptr
  · intro j hj
    obtain ⟨r, hr, rfl⟩ := List.mem_map.mp hj
    obtain ⟨hmem, hpair⟩ := List.mem_filter.mp hr
    refine ⟨x, hx, r, hmem, ?_, ?_, ?_⟩
    · rw [hptr]
    · rw [hstate]
      exact fun hnew => by cases hnew
    · rw [hfamily]
      exact (pairable_iff.mp hpair).2.symm
  · intro l hl hlvalid r hr hsame hE
    by_cases hlc : l.ptr = c.ptr
    · left
      have hlx : l = x := h.local_eq hl hx (hlc.trans hptr.symm)
      subst hlx
      rw [hlc]
      refine List.mem_map_of_mem (List.mem_filter.mpr ⟨hr, ?_⟩)
      exact pairable_iff.mpr ⟨h.remotesValid r hr, hsame.trans hfamily⟩
    · exact Or.inr (hF l hl hlc r hE)

theorem insertRemote (h : PairInv a E) {r : IceCandidate} (hptr : r.ptr = a.nextPtr)
    (hvalid : r.state = .VALID) :
    PairInv (a.insertRemote r) fun l x => E l x ∨ x.ptr = r.ptr where
  sorted := h.sorted
  unique := h.unique
  localsUnique := h.localsUnique
  localsFresh := fun c hc => Nat.lt_succ_of_lt (h.localsFresh c hc)
  unreported := h.unreported
  remotesFresh := by
    intro c hc
    rcases List.mem_cons.mp hc with rfl | hc
    · rw [hptr]
      exact Nat.lt_succ_self _
    · exact Nat.lt_succ_of_lt (h.remotesFresh c hc)
  remotesUnique := by
    refine List.nodup_cons.mpr ⟨?_, h.remotesUnique⟩
    intro hmem
    obtain ⟨c, hc, heq⟩ := List.mem_map.mp hmem
    have := h.remotesFresh c hc
    omega
  remotesValid := by
    intro c hc
    rcases List.mem_cons.mp hc with rfl | hc
    · exact hvalid
    · exact h.remotesValid c hc
  family := by
    intro j hj
    obtain ⟨l, hl, x, hx, hrest⟩ := h.family j hj
    exact ⟨l, hl, x, List.mem_cons_of_mem _ hx, hrest⟩
  complete := by
    intro l hl hlvalid x hx hsame
    rcases List.mem_cons.mp hx with rfl | hx
    · exact Or.inr (Or.inr rfl)
    · exact (h.complete l hl hlvalid x hx hsame).imp_right Or.inl

theorem addRemote (h : PairInv a E) (ipAddress : KvsIpAddress) (type : ICE_CANDIDATE_TYPE)
    (priority : UINT32) : PairInv (a.addRemote ipAddress type priority) E := by
  unfold IceAgent.addRemote
  split
  · split
    · exact h
    · set r := a.newRemote ipAddress type priority
      have hinsert := h.insertRemote (r := r) rfl rfl
      have hmem : r ∈ (a.insertRemote r).remoteCandidates := List.mem_cons_self
      refine hinsert.addPairs (grows_forRemote _ r) (joins_forRemote _ rfl) ?_ ?_ ?_ ?_
      · refine List.Nodup.of_map Prod.fst ?_
        rw [List.map_map]
        exact h.localsUnique.sublist (List.filter_sublist.map _)
      · intro j hj
        obtain ⟨l, -, rfl⟩ := List.mem_map.mp hj
        intro hold
        exact absurd (h.remote_lt hold) (Nat.lt_irrefl _)
      · intro j hj
        obtain ⟨l, hl, rfl⟩ := List.mem_map.mp hj
        obtain ⟨hlmem, hpair⟩ := List.mem_filter.mp hl
        obtain ⟨hvalid, hfamily⟩ := pairable_iff.mp hpair
        refine ⟨l, hlmem, r, hmem, rfl, ?_, hfamily⟩
        rw [hvalid]
        exact fun hnew => by cases hnew
      · intro l hl hvalid x hx hsame hE
        rcases hE with hE | hxr
        · exact Or.inr hE
        · left
          have hx' : x = r := List.inj_on_of_nodup_map hinsert.remotesUnique hx hmem hxr
          subst hx'
          refine List.mem_map_of_mem (f := fun l => (l.ptr, r.ptr)) (List.mem_filter.mpr ⟨hl, ?_⟩)
          exact pairable_iff.mpr ⟨hvalid, hsame.symm⟩
  · exact h

theorem initHostCandidate (h : PairInv a E) (ipAddress : KvsIpAddress) (isPointToPoint : Bool) :
    PairInv (iceAgentInitHostCandidate a ipAddress isPointToPoint) E := by
  unfold iceAgentInitHostCandidate
  split
  · exact h
  · set c : IceCandidate := {
      ptr := a.nextPtr
      iceCandidateType := .HOST
      ipAddress := ipAddress
      isPointToPoint := isPointToPoint
      pSocketConnection := some (a.nextPtr + 1)
      state := .VALID
      priority := computeCandidatePriority .HOST isPointToPoint
      iceServerIndex := 0
      reported := false }
    have hinsert : PairInv { a.insertLocal c with nextPtr := a.nextPtr + 2 }
        fun l r => E l r ∨ l.ptr = c.ptr :=
      h.insertLocal rfl rfl (fun _ _ => Or.inr rfl) fun _ _ _ hE => Or.inl hE
    refine hinsert.createPairsForLocal rfl List.mem_cons_self rfl rfl rfl ?_ ?_
    · intro y hj
      exact absurd (h.local_lt hj) (Nat.lt_irrefl _)
    · exact fun _ _ hne _ hE => hE.resolve_right hne

theorem srflxCandidates_spec (port : Nat → UINT16) (host : IceCandidate) (ptr j : Nat)
    (servers : List IceServer) :
    (∀ c ∈ srflxCandidates port host ptr j servers, (c.state = .NEW ∧ c.reported = false) ∧
      ptr ≤ c.ptr ∧ c.ptr < ptr + 2 * (srflxCandidates port host ptr j servers).length) ∧
      ((srflxCandidates port host ptr j servers).map IceCandidate.ptr).Nodup := by
  induction servers generalizing ptr j with
  | nil => exact ⟨fun _ hc => absurd hc List.not_mem_nil, List.nodup_nil⟩
  | cons server servers ih =>
    unfold srflxCandidates
    split
    · obtain ⟨hrest, hunique⟩ := ih (ptr + 2) (j + 1)
      constructor
      · intro c hc
        rw [List.length_cons]
        rcases List.mem_cons.mp hc with rfl | hc
        · exact ⟨⟨rfl, rfl⟩, Nat.le_refl _, by dsimp only; omega⟩
        · obtain ⟨hstate, hle, hlt⟩ := hrest c hc
          exact ⟨hstate, by omega, by omega⟩
      · refine List.nodup_cons.mpr ⟨?_, hunique⟩
        intro hmem
        obtain ⟨c, hc, heq⟩ := List.mem_map.mp hmem
        have hle := (hrest c hc).2.1
        dsimp only at heq
        omega
    · exact ih ptr (j + 1)

theorem initSrflxCandidate (h : PairInv a E) (port : Nat → UINT16) :
    PairInv (iceAgentInitSrflxCandidate a port) E := by
  refine List.foldlRecOn (motive := fun b => PairInv b E) _ _ h ?_
  intro b hb host _
  obtain ⟨hnew, hunique⟩ := srflxCandidates_spec port host b.nextPtr 0 b.iceServers
  refine hb.insertLocals _ _ ?_ (Nat.le_add_right _ _) ?_ ?_ ?_ fun _ _ _ hE => hE
  · intro c hc
    exact (hnew c (List.mem_reverse.mp hc)).2
  · rw [List.map_reverse]
    exact List.nodup_reverse.mpr hunique
  · intro c hc
    exact (hnew c (List.mem_reverse.mp hc)).1.2
  · intro c hc hvalid
    rw [(hnew c (List.mem_reverse.mp hc)).1.1] at hvalid
    cases hvalid

theorem initRelayCandidate (h : PairInv a E) (iceServerIndex : Nat) (unset : KvsIpAddress) :
    PairInv (iceAgentInitRelayCandidate a iceServerIndex unset) E := by
  unfold iceAgentInitRelayCandidate
  split
  · set c : IceCandidate := {
      ptr := a.nextPtr
      iceCandidateType := .RELAYED
      ipAddress := unset
      isPointToPoint := false
      pSocketConnection := some (a.nextPtr + 1)
      state := .NEW
      priority := computeCandidatePriority .RELAYED false
      iceServerIndex := iceServerIndex
      reported := false }
    have hinsert : PairInv { a.insertLocal c with nextPtr := a.nextPtr + 2 } E :=
      h.insertLocal rfl rfl (fun hvalid => nomatch hvalid) fun _ _ _ hE => hE
    refine hinsert.sameLists ?_
    exact SameLists.of_eq rfl rfl rfl rfl
  · exact h

/-! ## The gathering timer -/

theorem updateLocal_const (h : PairInv a E) {c : IceCandidate} (hc : c ∈ a.localCandidates)
    (f : IceCandidate → IceCandidate) :
    a.updateLocal c.ptr f = a.updateLocal c.ptr fun _ => f c := by
  unfold IceAgent.updateLocal
  have hmap : (a.localCandidates.map fun x => if x.ptr = c.ptr then f x else x) =
      a.localCandidates.map fun x => if x.ptr = c.ptr then f c else x := by
    refine List.map_congr_left ?_
    intro x hx
    split
    · rename_i hptr
      rw [h.local_eq hx hc hptr]
    · rfl
  rw [hmap]

theorem report (h : PairInv a E) {c : IceCandidate} (hc : c ∈ a.localCandidates)
    (hvalid : c.state = .VALID) (reports : Nat)
    (hcomplete : c.state = .VALID → ∀ r ∈ a.remoteCandidates,
      r.ipAddress.family = c.ipAddress.family → (c.ptr, r.ptr) ∈ a.joins ∨
        F { c with reported := true } r)
    (hF : ∀ l ∈ a.localCandidates, ∀ r, E l r → F l r) :
    PairInv (a.report c reports) F := by
  unfold IceAgent.report
  split
  · rw [h.updateLocal_const hc]
    have hstate : ({ c with reported := true } : IceCandidate).state = .NEW → c.state = .NEW ∧
        ({ c with reported := true } : IceCandidate).reported = c.reported := by
      intro hnew
      cases hvalid.symm.trans hnew
    exact h.replace hc rfl hstate (Or.inl rfl) hcomplete fun l hl _ => hF l hl
  · exact h.imp fun l hl _ => hF l hl

theorem mem_report {c : IceCandidate} (hc : c ∈ a.localCandidates) (reports : Nat) :
    ∃ x ∈ (a.report c reports).localCandidates, x.ptr = c.ptr ∧ x.state = c.state ∧
      x.ipAddress = c.ipAddress := by
  unfold IceAgent.report
  split
  · exact ⟨_, List.mem_map.mpr ⟨c, hc, if_pos rfl⟩, rfl, rfl, rfl⟩
  · exact ⟨c, hc, rfl, rfl, rfl⟩

theorem joins_report (a : IceAgent) (c : IceCandidate) (reports : Nat) :
    (a.report c reports).joins = a.joins := by
  unfold IceAgent.report
  split <;> rfl

theorem gatherCandidate {c : IceCandidate} {ptrs : List Nat}
    (h : PairInv a (Pending (c.ptr :: ptrs))) (relayAddress : Nat → Option KvsIpAddress)
    (reports : Nat) (pending : Bool) (hc : c ∈ a.localCandidates)
    (hclean : c.state = .VALID → c.reported = false → c.iceCandidateType = .SERVER_REFLEXIVE →
      ∀ y, (c.ptr, y) ∉ a.joins) :
    PairInv (gatherCandidate relayAddress a reports pending c).1 (Pending ptrs) := by
  have hrest : ∀ l r, Pending (c.ptr :: ptrs) l r → Pending ptrs l r ∨ l.ptr = c.ptr := by
    rintro l r ⟨hptr, hsrflx, hreported⟩
    rcases List.mem_cons.mp hptr with hptr | hptr
    · exact Or.inr hptr
    · exact Or.inl ⟨hptr, hsrflx, hreported⟩
  rcases gatherCandidate_cases relayAddress a reports pending c rfl with
    ⟨heq, hreported⟩ | ⟨address, hnew, -, heq⟩ | ⟨hvalid, hunreported, hsrflx, heq⟩ |
      ⟨hvalid, hunreported, hsrflx, heq⟩ <;> rw [heq]
  · refine h.imp ?_
    intro l hl hlvalid r hE
    refine (hrest l r hE).resolve_right ?_
    intro hptr
    have hlc := h.local_eq hl hc hptr
    subst hlc
    exact Bool.false_ne_true (hE.2.2.symm.trans (hreported hlvalid))
  · -- the allocation of a relayed candidate succeeded
    have hreplace : PairInv (a.updateLocal c.ptr fun _ =>
        { c with ipAddress := address, state := .VALID })
        fun l r => Pending ptrs l r ∨ l.ptr = c.ptr := by
      refine h.replace hc rfl (fun hstate => nomatch hstate) ?_ (fun _ _ _ _ => Or.inr (Or.inr rfl))
        fun l _ _ r => hrest l r
      exact Or.inr (h.new_not_joined hc hnew)
    refine hreplace.createPairsForLocal rfl (List.mem_map.mpr ⟨c, hc, if_pos rfl⟩) rfl rfl rfl ?_ ?_
    · intro y
      exact h.new_not_joined hc hnew y
    · exact fun _ _ hne _ hE => hE.resolve_right hne
  · have hreport : PairInv (a.report c reports) fun l r => Pending ptrs l r ∨ l.ptr = c.ptr :=
      h.report hc hvalid reports (fun _ _ _ _ => Or.inr (Or.inr rfl)) fun l _ r => hrest l r
    obtain ⟨x, hx, hptr, hstate, haddress⟩ := mem_report hc reports
    refine hreport.createPairsForLocal hvalid hx hptr (hstate.trans hvalid) (by rw [haddress]) ?_ ?_
    · rw [joins_report]
      exact hclean hvalid hunreported hsrflx
    · exact fun _ _ hne _ hE => hE.resolve_right hne
  · -- its pairs are there already
    have hjoined : ∀ r ∈ a.remoteCandidates, r.ipAddress.family = c.ipAddress.family →
        (c.ptr, r.ptr) ∈ a.joins := by
      intro r hr hsame
      exact (h.complete c hc hvalid r hr hsame).resolve_right fun hE => hsrflx hE.2.1
    have hothers : PairInv a (Pending ptrs) := by
      refine h.imp ?_
      intro l hl _ r hE
      refine (hrest l r hE).resolve_right ?_
      intro hptr
      rw [h.local_eq hl hc hptr] at hE
      exact hsrflx hE.2.1
    exact hothers.report hc hvalid reports (fun _ r hr hsame => Or.inl (hjoined r hr hsame))
      fun _ _ _ hE => hE

theorem gatherCandidate_others (relayAddress : Nat → Option KvsIpAddress) (a : IceAgent)
    (reports : Nat) (pending : Bool) (c : IceCandidate) {d : IceCandidate}
    (hd : d ∈ a.localCandidates) (hne : d.ptr ≠ c.ptr) :
    d ∈ (Ice.gatherCandidate relayAddress a reports pending c).1.localCandidates ∧
      ∀ y, (d.ptr, y) ∈ (Ice.gatherCandidate relayAddress a reports pending c).1.joins →
        (d.ptr, y) ∈ a.joins := by
  have hupdate : ∀ f, d ∈ (a.updateLocal c.ptr f).localCandidates :=
    fun f => List.mem_map.mpr ⟨d, hd, if_neg hne⟩
  have hreport : d ∈ (a.report c reports).localCandidates := by
    unfold IceAgent.report
    split
    · exact hupdate _
    · exact hd
  -- new pairs are those of `c`
  have hpairs : ∀ (b : IceAgent) (x : IceCandidate), x.state = .VALID → x.ptr = c.ptr →
      b.joins = a.joins → ∀ y, (d.ptr, y) ∈ (b.createPairsForLocal x).joins → (d.ptr, y) ∈ a.joins := by
    intro b x hvalid hptr hjoins y hy
    rw [mem_joins_of_perm (joins_forLocal b hvalid), hjoins] at hy
    refine hy.resolve_left ?_
    intro hnew
    obtain ⟨r, -, heq⟩ := List.mem_map.mp hnew
    exact hne ((Prod.mk.inj heq).1.symm.trans hptr)
  rcases gatherCandidate_cases relayAddress a reports pending c rfl with
    ⟨heq, -⟩ | ⟨address, -, -, heq⟩ | ⟨hvalid, -, -, heq⟩ | ⟨-, -, -, heq⟩ <;> rw [heq]
  · exact ⟨hd, fun _ hy => hy⟩
  · rw [createPairsForLocal_localCandidates]
    exact ⟨hupdate _, hpairs _ _ rfl rfl rfl⟩
  · rw [createPairsForLocal_localCandidates]
    exact ⟨hreport, hpairs _ _ hvalid rfl (joins_report a c reports)⟩
  · rw [joins_report]
    exact ⟨hreport, fun _ hy => hy⟩

theorem gatherLoop (relayAddress : Nat → Option KvsIpAddress) (cs : List IceCandidate)
    (s : IceAgent × Nat × Bool) (h : PairInv s.1 (Pending (cs.map IceCandidate.ptr)))
    (hunique : (cs.map IceCandidate.ptr).Nodup) (hcs : ∀ c ∈ cs, c ∈ s.1.localCandidates)
    (hclean : ∀ c ∈ cs, c.state = .VALID → c.reported = false →
      c.iceCandidateType = .SERVER_REFLEXIVE → ∀ y, (c.ptr, y) ∉ s.1.joins) :
    PairInv (gatherLoop relayAddress cs s).1 (Pending []) := by
  induction cs generalizing s with
  | nil => exact h
  | cons c cs ih =>
    obtain ⟨a, reports, pending⟩ := s
    obtain ⟨hnot, hunique⟩ := List.nodup_cons.mp hunique
    have hne : ∀ d ∈ cs, d.ptr ≠ c.ptr := by
      intro d hd heq
      exact hnot (heq ▸ List.mem_map_of_mem hd)
    refine ih _ ?_ hunique ?_ ?_
    · exact h.gatherCandidate relayAddress reports pending (hcs c List.mem_cons_self)
        (hclean c List.mem_cons_self)
    · intro d hd
      exact (gatherCandidate_others relayAddress a reports pending c
        (hcs d (List.mem_cons_of_mem _ hd)) (hne d hd)).1
    · intro d hd hvalid hunreported hsrflx y hy
      refine hclean d (List.mem_cons_of_mem _ hd) hvalid hunreported hsrflx y ?_
      exact (gatherCandidate_others relayAddress a reports pending c
        (hcs d (List.mem_cons_of_mem _ hd)) (hne d hd)).2 y hy

theorem gather {w : Host} {waiting : List Nat} (h : PairInv a (Pending waiting))
    (relayAddress : Nat → Option KvsIpAddress)
    (hclean : CleanStep w a (.gather relayAddress)) :
    PairInv (iceAgentGatherCandidateTimerCallback w a relayAddress) (Pending []) := by
  have hall : PairInv a (Pending (a.localCandidates.map IceCandidate.ptr)) := by
    refine h.imp ?_
    rintro l hl _ r ⟨-, hsrflx, hreported⟩
    exact ⟨List.mem_map_of_mem hl, hsrflx, hreported⟩
  have hloop := gatherLoop relayAddress a.localCandidates (a, 0, false) hall h.localsUnique
    (fun c hc => hc) (by
      intro c hc hvalid hreported hsrflx y hy
      obtain ⟨p, hp, heq⟩ := List.mem_map.mp hy
      exact hclean c hc hvalid hreported hsrflx p hp (Prod.mk.inj heq).1)
  unfold iceAgentGatherCandidateTimerCallback
  dsimp only
  split
  · exact hloop.sameLists Unmoved.sendSrflxRequests.toSameLists
  · exact hloop

/-! ## Received packets -/

variable {w : Host} {waiting : List Nat}

theorem handleBindingRequest (h : PairInv a E) (q : ParsedPacket) (socket : Nat)
    (src : KvsIpAddress) : PairInv (handleBindingRequest w a q socket src) E := by
  have harrived : ∀ (b : IceAgent) p useCandidate, SameLists b (checkArrived b p useCandidate) := by
    intro b p useCandidate
    have hnominate : SameLists b (setNominated b p useCandidate) :=
      (Unmoved.setNominated p useCandidate).toSameLists
    unfold checkArrived
    dsimp only
    split
    · refine hnominate.trans (Unmoved.updatePair ?_).toSameLists
      exact fun _ => rfl
    · split
      · refine hnominate.trans ?_
        exact SameLists.of_eq rfl rfl rfl rfl
      · exact hnominate
  unfold Ice.handleBindingRequest
  split
  · split
    · exact h.sameLists (Unmoved.sendStunPacket _ _ _ _).toSameLists
    · exact h
  · split
    · exact h
    · have hadd : PairInv (checkRemotePeerReflexive a src (priorityOf q)) E := h.addRemote _ _ _
      dsimp only
      split
      · exact hadd
      · split
        · exact hadd.sameLists (Unmoved.sendStunPacket _ _ _ _).toSameLists
        · refine sameLists ?_ (harrived _ _ _)
          exact hadd.sameLists (Unmoved.sendStunPacket _ _ _ _).toSameLists

theorem handleSrflxResponse (h : PairInv a (Pending waiting)) {buf : Bytes} {socket : Nat}
    (htype : getUnalignedInt16BigEndian buf 0 = STUN_PACKET_TYPE_BINDING_RESPONSE_SUCCESS)
    (hid : transactionIdStoreHasId a.pStunBindingRequestTransactionIdStore
      (datagramTransactionId buf) = true)
    (hclean : ∀ x ∈ srflxAnswer w a buf socket, x.1.iceCandidateType = .SERVER_REFLEXIVE ∨
      ∀ r ∈ a.remoteCandidates, r.ipAddress.family ≠ x.2.family) :
    PairInv (handleSrflxResponse w a buf socket)
      (Pending (waiting ++ validated a (handleSrflxResponse w a buf socket))) := by
  unfold srflxAnswer at hclean
  rw [if_pos ⟨htype, hid⟩] at hclean
  unfold Ice.handleSrflxResponse
  split
  · rename_i l q hl hq
    rw [hl, hq] at hclean
    have hmem : l ∈ a.localCandidates := List.mem_of_find?_eq_some hl
    cases hmapped : mappedAddressOf q with
    | none => exact h.grow _
    | some ipAddress =>
      dsimp only
      split
      · exact h.grow _
      · rename_i hhost
        rw [h.updateLocal_const hmem]
        set b : IceAgent := { a.updateLocal l.ptr fun _ => updateCandidateAddress l ipAddress with
          pStunBindingRequestTransactionIdStore := transactionIdStoreRemove
            a.pStunBindingRequestTransactionIdStore (datagramTransactionId buf) }
        have hsame : SameLists (a.updateLocal l.ptr fun _ => updateCandidateAddress l ipAddress) b :=
          SameLists.of_eq rfl rfl rfl rfl
        refine sameLists ?_ hsame
        have hothers : ∀ x ∈ a.localCandidates, x.ptr ≠ l.ptr → ∀ r, Pending waiting x r →
            Pending (waiting ++ validated a b) x r := by
          rintro x - - r ⟨hptr, hrest⟩
          exact ⟨List.mem_append_left _ hptr, hrest⟩
        by_cases hnew : l.state = .NEW
        · have hupdate : updateCandidateAddress l ipAddress =
              { l with ipAddress := ipAddress, state := .VALID } := by
            unfold updateCandidateAddress
            rw [if_pos ⟨hhost, hnew⟩]
          rw [hupdate]
          refine h.replace hmem rfl (fun hstate => nomatch hstate)
            (Or.inr (h.new_not_joined hmem hnew)) ?_ hothers
          intro _ r hr hfamily
          rcases hclean (l, ipAddress) (by simp [hhost, hnew, hmapped]) with hsrflx | hnone
          · refine Or.inr ⟨List.mem_append_right _ ?_, hsrflx, h.unreported l hmem hnew⟩
            -- it is valid now and was new before
            refine List.mem_map_of_mem (List.mem_filter.mpr ⟨?_, ?_⟩)
            · refine List.mem_map.mpr ⟨l, hmem, ?_⟩
              rw [if_pos rfl, hupdate]
            · simp only [decide_true, Bool.true_and, Bool.not_eq_true', List.any_eq_false,
                Bool.and_eq_true, decide_eq_true_eq, not_and]
              intro x hx hptr
              rw [h.local_eq hx hmem hptr, hnew]
              exact fun hstate => nomatch hstate
          · exact absurd hfamily (hnone r hr)
        · have hupdate : updateCandidateAddress l ipAddress = l := by
            unfold updateCandidateAddress
            rw [if_neg fun hboth => hnew hboth.2]
          rw [hupdate]
          refine h.replace hmem rfl (fun hstate => absurd hstate hnew) (Or.inl rfl) ?_ hothers
          intro hvalid r hr hfamily
          refine (h.complete l hmem hvalid r hr hfamily).imp_right ?_
          rintro ⟨hptr, hrest⟩
          exact ⟨List.mem_append_left _ hptr, hrest⟩
  · exact h.grow _

theorem handleCheckResponse (h : PairInv a (Pending waiting)) {buf : Bytes} {socket : Nat}
    {src : KvsIpAddress}
    (htype : getUnalignedInt16BigEndian buf 0 = STUN_PACKET_TYPE_BINDING_RESPONSE_SUCCESS)
    (hid : transactionIdStoreHasId a.pStunBindingRequestTransactionIdStore
      (datagramTransactionId buf) ≠ true)
    (hclean : ∀ x ∈ localReflexive w a buf socket src, x.2.family = x.1.ipAddress.family ∧
      (x.1.state = .VALID → ∀ r ∈ a.remoteCandidates, r.ipAddress.family = x.2.family →
        (x.1.ptr, r.ptr) ∈ a.joins)) :
    PairInv (handleCheckResponse w a buf socket src) (Pending waiting) := by
  unfold localReflexive at hclean
  rw [if_pos ⟨htype, hid⟩] at hclean
  unfold Ice.handleCheckResponse
  split
  · exact h
  · rename_i p hp
    split
    · rename_i hstore
      split
      · exact h
      · rename_i q hq
        split
        · exact h
        · rename_i ipAddress hmapped
          have hsucceeded : ∀ b : IceAgent,
              SameLists b (b.updatePair p.ptr fun p => { p with state := .SUCCEEDED }) := by
            intro b
            refine (Unmoved.updatePair ?_).toSameLists
            exact fun _ => rfl
          refine sameLists ?_ (hsucceeded _)
          split
          · rename_i hsees
            unfold checkLocalPeerReflexive
            split
            · exact h
            · rename_i hip
              split
              · exact h
              · rename_i l hl
                have hmem : l ∈ a.localCandidates := List.mem_of_find?_eq_some hl
                have hlocal := hclean (l, ipAddress) (by
                  rw [hp, hl, hq]
                  simp [hmapped, hstore, hsees, hip])
                rw [h.updateLocal_const hmem]
                refine h.replace hmem rfl (fun hstate => ⟨hstate, rfl⟩) (Or.inl hlocal.1) ?_
                  fun _ _ _ _ hE => hE
                intro hvalid r hr hfamily
                exact Or.inl (hlocal.2 hvalid r hr hfamily)
          · exact h
    · exact h

theorem handleStunPacket (h : PairInv a (Pending waiting)) (buf : Bytes) (socket : Nat)
    (src : KvsIpAddress) (time : Nat) (hclean : CleanStep w a (.receive buf socket src time)) :
    PairInv (handleStunPacket w a buf socket src)
      (Pending (waiting ++ validated a (handleStunPacket w a buf socket src))) := by
  unfold Ice.handleStunPacket
  dsimp only
  split
  · split
    · exact h.grow _
    · exact (h.handleBindingRequest _ _ _).grow _
  · split
    · rename_i htype
      split
      · rename_i hid
        exact h.handleSrflxResponse htype hid hclean.1
      · rename_i hid
        exact (h.handleCheckResponse htype hid hclean.2).grow _
    · exact h.grow _

/-! ## Runs -/

theorem step (h : PairInv a (Pending waiting)) (e : Event) (hclean : CleanStep w a e)
    (hbefore : StaysBefore a e) :
    PairInv (step w a e) (Pending (waitingAfter w a waiting e)) := by
  cases e with
  | startAgent remoteUsername remotePassword isControlling =>
    refine grow (h.sameLists ?_) _
    unfold Ice.step iceAgentStartAgent
    dsimp only
    split
    · exact SameLists.refl a
    · split
      · exact SameLists.of_eq rfl rfl rfl rfl
      · exact SameLists.refl a
  | addRemoteCandidate ipAddress type priority =>
    exact (h.addRemote ipAddress type priority).grow _
  | initHostCandidate ipAddress isPointToPoint =>
    exact (h.initHostCandidate ipAddress isPointToPoint).grow _
  | initSrflxCandidates port => exact (h.initSrflxCandidate port).grow _
  | initRelayCandidate iceServerIndex unset =>
    exact (h.initRelayCandidate iceServerIndex unset).grow _
  | gather relayAddress => exact h.gather relayAddress hclean
  | turnFailed ptr =>
    refine grow (h.sameLists (Unmoved.updateLocal ?_).toSameLists) _
    intro c _ _
    split
    · exact Or.inr rfl
    · exact Or.inl rfl
  | receive buf socket src time =>
    have htime : PairInv { a with lastDataReceivedTime := some time } (Pending waiting) :=
      h.sameLists (SameLists.of_eq rfl rfl rfl rfl)
    unfold waitingAfter Ice.step incomingDataHandler
    dsimp only
    split
    · exact htime.handleStunPacket buf socket src time hclean
    · exact htime.grow _
  | stateTimer time shutdown =>
    refine grow (h.sameLists ?_) _
    unfold Ice.step
    dsimp only
    split
    · rename_i hstarted
      exact SameLists.stepIceAgentStateMachine (hbefore hstarted)
    · exact SameLists.refl a
  | keepAlive => exact (h.sameLists (Unmoved.sendKeepAlives _ _).toSameLists).grow _

theorem createIceAgent (username password : Bytes) (isLiteAgent : Bool) (tieBreaker : UINT64)
    (iceServers : List IceServer) (timeouts : IceTimeouts) :
    PairInv (createIceAgent username password isLiteAgent tieBreaker iceServers timeouts) E where
  sorted := List.Pairwise.nil
  unique := List.nodup_nil
  localsUnique := List.nodup_nil
  localsFresh := fun _ hc => nomatch hc
  unreported := fun _ hc => nomatch hc
  remotesFresh := fun _ hc => nomatch hc
  remotesUnique := List.nodup_nil
  remotesValid := fun _ hc => nomatch hc
  family := fun _ hj => nomatch hj
  complete := fun _ hl => nomatch hl

theorem pairList (h : PairInv a (Pending waiting)) : PairList a waiting where
  sorted := h.sorted
  unique := h.unique
  family := by
    intro p hp
    obtain ⟨l, hl, r, hr, heq, -, hfamily⟩ := h.family _ (List.mem_map_of_mem hp)
    obtain ⟨hlocal, hremote⟩ := Prod.mk.inj heq
    exact ⟨l, hl, r, hr, hlocal.symm, hremote.symm, hfamily⟩
  complete := by
    intro l hl hvalid hwaiting r hr hfamily
    exact (h.complete l hl hvalid r hr hfamily).resolve_right fun hpending => hwaiting hpending.1

end PairInv

/-- **The pair list.**  In every run of an agent whose steps are clean and do not execute `READY`,
the list is sorted, has no combination twice, joins candidates of one family, and misses no pair of
a valid local candidate that has seen a tick. -/
theorem pair_list (w : Host) (username password : Bytes) (isLiteAgent : Bool) (tieBreaker : UINT64)
    (iceServers : List IceServer) (timeouts : IceTimeouts) (events : List Event)
    (hbefore : BeforeReady w
      (createIceAgent username password isLiteAgent tieBreaker iceServers timeouts) events)
    (hclean : CleanRun w
      (createIceAgent username password isLiteAgent tieBreaker iceServers timeouts) events) :
    ∀ before after, events = before ++ after →
      PairList
        (run w (createIceAgent username password isLiteAgent tieBreaker iceServers timeouts) before)
        (waitingRun w
          (createIceAgent username password isLiteAgent tieBreaker iceServers timeouts) [] before) := by
  have hrun : ∀ before after a waiting, PairInv a (Pending waiting) →
      BeforeReady w a (before ++ after) → CleanRun w a (before ++ after) →
      PairInv (run w a before) (Pending (waitingRun w a waiting before)) := by
    intro before
    induction before with
    | nil => exact fun _ a _ ha _ _ => ha
    | cons e before ih =>
      intro after a waiting ha hbefore hclean
      exact ih after (step w a e) _ (ha.step e hclean.1 hbefore.1) hbefore.2 hclean.2
  intro before after hsplit
  rw [hsplit] at hbefore hclean
  exact (hrun before after _ [] (PairInv.createIceAgent _ _ _ _ _ _) hbefore hclean).pairList

/-! ## Two runs -/

/-- The CRC is that of the request to the STUN server. -/
def gatheringHost : Host :=
  { sampleHost with crc32 := fun _ => 0x491d0626 }

/-- An agent with a STUN server. -/
def gatheringAgent : IceAgent :=
  createIceAgent [0x62] [0x70, 0x77] false 7 [⟨false, some (hostAddress 9), none⟩]
    ⟨100000000, 100000000, 60000000⟩

/-- The answer of the STUN server: 192.0.2.7, port 8080. -/
def mappedResponse : Bytes :=
  [0x01, 0x01, 0x00, 0x0c, 0x21, 0x12, 0xa4, 0x42, 0x0d, 0x0e, 0x0f, 0x10, 0x11, 0x12, 0x13, 0x14,
    0x15, 0x16, 0x17, 0x18, 0x00, 0x20, 0x00, 0x08, 0x00, 0x01, 0x3e, 0x82, 0xe1, 0x12, 0xa6, 0x45]

/-- A host candidate and a server reflexive one that becomes valid. -/
def gatherReflexive : List Event :=
  [.initHostCandidate (hostAddress 1) false, .initSrflxCandidates fun _ => 0x1f91,
    .gather fun _ => none, .receive mappedResponse 3 (hostAddress 9) 1]

/-- A tick, and then a remote candidate. -/
def tickFirst : List Event :=
  gatherReflexive ++ [.gather fun _ => none, .addRemoteCandidate (hostAddress 2) .HOST 5]

theorem tickFirst_pairs :
    CleanRun gatheringHost gatheringAgent tickFirst ∧
      (run gatheringHost gatheringAgent tickFirst).joins.length = 2 ∧
      PairList (run gatheringHost gatheringAgent tickFirst)
        (waitingRun gatheringHost gatheringAgent [] tickFirst) := by
  have hclean : CleanRun gatheringHost gatheringAgent tickFirst := by decide +kernel
  refine ⟨hclean, by decide +kernel, ?_⟩
  exact pair_list gatheringHost _ _ _ _ _ _ tickFirst
    ⟨trivial, trivial, trivial, trivial, trivial, trivial, trivial⟩ hclean tickFirst []
    (List.append_nil _).symm

/-- A remote candidate, and then a tick. -/
def remoteFirst : List Event :=
  gatherReflexive ++ [.addRemoteCandidate (hostAddress 2) .HOST 5, .gather fun _ => none]

/-- The pair of the server reflexive candidate is in the list twice. -/
theorem reflexive_pair_twice :
    BeforeReady gatheringHost gatheringAgent remoteFirst ∧
      ¬ PairList (run gatheringHost gatheringAgent remoteFirst)
        (waitingRun gatheringHost gatheringAgent [] remoteFirst) := by
  refine ⟨⟨trivial, trivial, trivial, trivial, trivial, trivial, trivial⟩, ?_⟩
  intro hlist
  have htwice : ¬ (run gatheringHost gatheringAgent remoteFirst).joins.Nodup := by decide +kernel
  exact htwice hlist.unique

end KvsWebrtc.Ice
