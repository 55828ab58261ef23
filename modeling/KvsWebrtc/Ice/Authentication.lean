import KvsWebrtc.Ice.References
import KvsWebrtc.Stun.Authentication
import KvsWebrtc.Stun.Append
import Mathlib.Data.List.Nodup

/-!
# Acting on authenticated checks

`deserializeStunPacket` verifies a MESSAGE-INTEGRITY when it comes across one, and
`handleStunPacket` does not ask whether it did.  So a request without one, or with one behind an
unknown attribute, is answered and acted upon like any other.  A response is also matched against
all slots of the store of transaction ids, those that were never used or were cleared included.

Principal results:

* `handleBindingRequest_acts_iff` — when a request adds a remote candidate, nominates a pair, marks
  it as succeeded or triggers a check.
* `handleCheckResponse_succeeds_iff` — which pair a response moves to `SUCCEEDED`.
* `acts_authenticated_iff` — when all that is acted upon was authenticated.
-/

namespace KvsWebrtc.Ice

open Stun

/-! ## Signed messages -/

/-- The message has a MESSAGE-INTEGRITY that verifies under the password. -/
def Signed (w : Host) (buf password : Bytes) : Prop :=
  ∃ o ∈ attributeOffsets buf, kindAt buf o = .messageIntegrity ∧
    (buf.drop (o + 4)).take STUN_HMAC_VALUE_LEN =
      w.hmac password (bytesBefore buf o STUN_HMAC_VALUE_LEN)

/-- One of the attributes that the second pass of the parser visits is a MESSAGE-INTEGRITY, at an
offset that fits 16 bits. -/
def ReadsIntegrity (buf : Bytes) : Prop :=
  ∃ o ∈ (attributeOffsets buf).take (knownCount buf), kindAt buf o = .messageIntegrity ∧ o < 65536

theorem signed_of_readsIntegrity {w : Host} {buf password : Bytes} {q : ParsedPacket}
    (hok : deserializeStunPacket w.hmac w.crc32 buf (some password) = .ok q)
    (hreads : ReadsIntegrity buf) : Signed w buf password := by
  obtain ⟨_, _, s, _, es, hes, _⟩ := (deserializeStunPacket_ok_iff _ _ _ _ _).mp hok
  obtain ⟨o, ho, hkind, hlt⟩ := hreads
  obtain ⟨v, hv⟩ := exists_entry hes ho
  obtain ⟨pw, hpw, heq⟩ := readValue_messageIntegrity hkind hv
  obtain rfl : password = pw := Option.some.inj hpw
  rw [coveredBytes_eq buf hlt] at heq
  exact ⟨o, List.mem_of_mem_take ho, hkind, heq⟩

/-! ## What counts as acting -/

/-- `q` is a pair of `b` with a property that the pair of `a` at its address does not have. -/
def Newly (P : IceCandidatePair → Prop) (a b : IceAgent) (q : IceCandidatePair) : Prop :=
  q ∈ b.iceCandidatePairs ∧ P q ∧ ∀ p ∈ a.iceCandidatePairs, p.ptr = q.ptr → ¬ P p

def IceCandidatePair.Nominated (p : IceCandidatePair) : Prop := p.nominated = true

def IceCandidatePair.Succeeded (p : IceCandidatePair) : Prop := p.state = .SUCCEEDED

/-- A remote candidate was added, a pair nominated or marked as succeeded, or a check triggered. -/
def Acts (a b : IceAgent) : Prop :=
  a.remoteCandidates.length < b.remoteCandidates.length ∨
    (∃ q, Newly IceCandidatePair.Nominated a b q) ∨
    (∃ q, Newly IceCandidatePair.Succeeded a b q) ∨
    a.triggeredCheckQueue.length < b.triggeredCheckQueue.length

/-- What is acted upon is authenticated: a request under the local password, a response to a check
under the remote one, with a transaction id that was sent on the pair. -/
structure ActsAuthenticated (w : Host) (a : IceAgent) (buf : Bytes) (socket : Nat)
    (src : KvsIpAddress) : Prop where
  request : getUnalignedInt16BigEndian buf 0 = STUN_PACKET_TYPE_BINDING_REQUEST →
    Acts a (handleStunPacket w a buf socket src) → Signed w buf a.localPassword
  response : getUnalignedInt16BigEndian buf 0 = STUN_PACKET_TYPE_BINDING_RESPONSE_SUCCESS →
    ¬ transactionIdStoreHasId a.pStunBindingRequestTransactionIdStore (datagramTransactionId buf) →
    ∀ q, Newly IceCandidatePair.Succeeded a (handleStunPacket w a buf socket src) q →
      Signed w buf a.remotePassword ∧
        datagramTransactionId buf ∈ q.pTransactionIdStore.inserted

/-! ## The pair a request arrives on -/

/-- The response is not sent because the socket is closed. -/
def IceAgent.refuses (w : Host) (a : IceAgent) (response : StunPacket) : Bool :=
  (iceUtilsPackageStunPacket w response (some a.localPassword)).toBool && w.closed a.sends

/-- The pair fails when the candidate becomes invalid. -/
def IceAgent.failsWith (a : IceAgent) (l : IceCandidate) (p : IceCandidatePair) : Bool :=
  p.localPtr = l.ptr || !(a.localCandidate p.localPtr).any fun c => c.state = .VALID

/-- The first pair of the socket and the source that does not fail with the response. -/
def IceAgent.arrivesOn (w : Host) (a : IceAgent) (transactionId : Bytes) (socket : Nat)
    (src : KvsIpAddress) : Option IceCandidatePair :=
  match bindingResponse a transactionId src,
      findCandidateWithSocketConnection socket a.localCandidates with
  | .ok response, some l => a.iceCandidatePairs.find? fun p =>
      a.connects socket src p && !(a.refuses w response && a.failsWith l p)
  | _, _ => none

/-- A request leaves candidates, nominations, successes and the queue as they are: it is a role
conflict, or its source is known (or there is no room for it) and the pair it arrives on has nothing
to gain. -/
def Idle (w : Host) (a : IceAgent) (q : ParsedPacket) (socket : Nat) (src : KvsIpAddress) : Prop :=
  (a.isLiteAgent ∧ hasAttribute q STUN_ATTRIBUTE_TYPE_ICE_CONTROLLED) ∨
    ((KVS_ICE_MAX_REMOTE_CANDIDATE_COUNT ≤ a.remoteCandidates.length ∨
        (findCandidateWithIp src a.remoteCandidates).isSome) ∧
      ∀ p, a.arrivesOn w q.header.transactionId socket src = some p →
        (hasAttribute q STUN_ATTRIBUTE_TYPE_USE_CANDIDATE → p.nominated) ∧
          if a.isLiteAgent then p.state = .SUCCEEDED else ¬ p.state.isUnchecked)

/-- A request that parses has nothing to act upon, or a MESSAGE-INTEGRITY that the parser reads, or
one it does not read that verifies.  The same for a response that parses and matches a pair that has
not succeeded; its transaction id was inserted into the store since it was cleared. -/
structure Vouched (w : Host) (a : IceAgent) (buf : Bytes) (socket : Nat) (src : KvsIpAddress) :
    Prop where
  request : getUnalignedInt16BigEndian buf 0 = STUN_PACKET_TYPE_BINDING_REQUEST →
    ∀ q, deserializeStunPacket w.hmac w.crc32 buf (some a.localPassword) = .ok q →
      Idle w a q socket src ∨ ReadsIntegrity buf ∨ Signed w buf a.localPassword
  response : getUnalignedInt16BigEndian buf 0 = STUN_PACKET_TYPE_BINDING_RESPONSE_SUCCESS →
    ¬ transactionIdStoreHasId a.pStunBindingRequestTransactionIdStore (datagramTransactionId buf) →
    ∀ p, findIceCandidatePairWithLocalSocketConnectionAndRemoteAddr a socket src = some p →
      p.state ≠ .SUCCEEDED →
      transactionIdStoreHasId p.pTransactionIdStore (datagramTransactionId buf) →
      ∀ q, deserializeStunPacket w.hmac w.crc32 buf (some a.remotePassword) = .ok q →
        (mappedAddressOf q).isSome →
        (ReadsIntegrity buf ∨ Signed w buf a.remotePassword) ∧
          datagramTransactionId buf ∈ p.pTransactionIdStore.inserted

/-! ## Sending the response -/

theorem iceControlAttribute_cases (a : IceAgent) :
    iceControlAttribute a = STUN_ATTRIBUTE_TYPE_ICE_CONTROLLING ∨
      iceControlAttribute a = STUN_ATTRIBUTE_TYPE_ICE_CONTROLLED := by
  unfold iceControlAttribute
  split
  · exact Or.inl rfl
  · exact Or.inr rfl

theorem appendAttribute_room {p : StunPacket} {size written : Nat} (attr : StunAttribute) (n : Nat)
    (offset : Nat) (hfirst : getFirstAvailableStunAttribute p = .ok offset)
    (hsize : offset + size ≤ p.allocationSize) (hwritten : written ≤ size) :
    appendAttribute p attr size written n = .ok { p with
      header := { p.header with messageLength := p.header.messageLength + BitVec.ofNat 16 n }
      attributeList := p.attributeList ++ [attr]
      offsets := p.offsets ++ [offset] } := by
  have hroom : offset + written ≤ p.allocationSize := by omega
  unfold appendAttribute
  rw [hfirst]
  dsimp only
  rw [if_pos hsize, if_pos hroom]

theorem bindingResponse_ok (a : IceAgent) (transactionId : Bytes) (src : KvsIpAddress) :
    ∃ response, bindingResponse a transactionId src = .ok response := by
  unfold bindingResponse appendStunAddressAttribute appendStunIceControllAttribute
  simp only [if_pos (iceControlAttribute_cases a)]
  rw [appendAttribute_room _ _ 200 rfl (Nat.le_of_ble_eq_true rfl) (by decide)]
  refine ⟨_, appendAttribute_room _ _ 232 ?_ (Nat.le_of_ble_eq_true rfl) (by decide)⟩
  simp [getFirstAvailableStunAttribute, getPackagedStunAttributeSize, createStunPacket, ROUND_UP,
    STUN_PACKET_ALLOCATION_SIZE, STUN_ATTRIBUTE_MAX_COUNT]

/-- What sending a packet does to a pair. -/
def IceAgent.afterSend (a : IceAgent) (refused : Bool) (l : IceCandidate) (p : IceCandidatePair) :
    IceCandidatePair :=
  if refused && a.failsWith l p then { p with state := .FAILED } else p

theorem afterSend_cases (a : IceAgent) (refused : Bool) (l : IceCandidate)
    (p : IceCandidatePair) :
    a.afterSend refused l p = p ∨ a.afterSend refused l p = { p with state := .FAILED } := by
  unfold IceAgent.afterSend
  split
  · exact Or.inr rfl
  · exact Or.inl rfl

theorem localCandidate_ptr {a : IceAgent} {ptr : Nat} {c : IceCandidate}
    (h : a.localCandidate ptr = some c) : c.ptr = ptr := by
  have hfound := List.find?_some h
  simpa using hfound

theorem localCandidate_invalid (a : IceAgent) (ptr x : Nat) :
    (a.updateLocal ptr fun c => { c with state := .INVALID }).localCandidate x =
      (a.localCandidate x).map fun c => if c.ptr = ptr then { c with state := .INVALID } else c := by
  unfold IceAgent.localCandidate IceAgent.updateLocal
  rw [List.find?_map]
  congr 2
  funext c
  simp only [Function.comp]
  split <;> rfl

/-- `b` is `a` after a response was sent from `l`. -/
structure Sent (a b : IceAgent) (refused : Bool) (l : IceCandidate) : Prop where
  remotes : b.remoteCandidates = a.remoteCandidates
  queue : b.triggeredCheckQueue = a.triggeredCheckQueue
  lite : b.isLiteAgent = a.isLiteAgent
  pairs : b.iceCandidatePairs = a.iceCandidatePairs.map (a.afterSend refused l)
  sockets : ∀ ptr, (b.localCandidate ptr).bind IceCandidate.pSocketConnection =
    (a.localCandidate ptr).bind IceCandidate.pSocketConnection

theorem sent_of_eq {a b : IceAgent} (l : IceCandidate)
    (hr : b.remoteCandidates = a.remoteCandidates)
    (hq : b.triggeredCheckQueue = a.triggeredCheckQueue) (hlite : b.isLiteAgent = a.isLiteAgent)
    (hp : b.iceCandidatePairs = a.iceCandidatePairs)
    (hl : b.localCandidates = a.localCandidates) : Sent a b false l where
  remotes := hr
  queue := hq
  lite := hlite
  pairs := by
    rw [hp]
    exact (List.map_id _).symm
  sockets := fun ptr => by
    rw [IceAgent.localCandidate, hl]
    rfl

/-- The candidate becomes invalid, and the pairs fail that have an invalid candidate. -/
theorem sent_refused (a : IceAgent) (l : IceCandidate) :
    Sent a (iceAgentInvalidateCandidatePair (a.updateLocal l.ptr fun c =>
      { c with state := .INVALID })) true l where
  remotes := rfl
  queue := rfl
  lite := rfl
  pairs := by
    refine List.map_congr_left fun p _ => ?_
    rw [localCandidate_invalid]
    unfold IceAgent.afterSend IceAgent.failsWith
    cases hc : a.localCandidate p.localPtr with
    | none => simp
    | some c =>
      rw [← localCandidate_ptr hc]
      by_cases hl : c.ptr = l.ptr
      · simp [hl]
      · by_cases hvalid : c.state = .VALID <;> simp [hl, hvalid]
  sockets := fun ptr => by
    have hlocal : (iceAgentInvalidateCandidatePair (a.updateLocal l.ptr fun c =>
        { c with state := .INVALID })).localCandidate ptr =
        (a.updateLocal l.ptr fun c => { c with state := .INVALID }).localCandidate ptr := rfl
    rw [hlocal, localCandidate_invalid]
    cases a.localCandidate ptr with
    | none => rfl
    | some c =>
      simp only [Option.map_some, Option.bind_some]
      split <;> rfl

theorem sent_sendStunPacket (w : Host) (a : IceAgent) (response : StunPacket) (l : IceCandidate)
    (src : KvsIpAddress) :
    Sent a (iceAgentSendStunPacket w a response (some a.localPassword) l src)
      (a.refuses w response) l := by
  unfold iceAgentSendStunPacket IceAgent.refuses
  cases iceUtilsPackageStunPacket w response (some a.localPassword) with
  | error e => exact sent_of_eq l rfl rfl rfl rfl rfl
  | ok bytes =>
    cases w.closed a.sends with
    | false => exact sent_of_eq l rfl rfl rfl rfl rfl
    | true =>
      have hsent := sent_refused { a with sends := a.sends + 1 } l
      exact ⟨hsent.remotes, hsent.queue, hsent.lite, hsent.pairs, hsent.sockets⟩

theorem Sent.find_eq {a b : IceAgent} {refused : Bool} {l : IceCandidate} (h : Sent a b refused l)
    (socket : Nat) (src : KvsIpAddress) :
    findIceCandidatePairWithLocalSocketConnectionAndRemoteAddr b socket src =
      a.iceCandidatePairs.find? fun p =>
        a.connects socket src p && !(refused && a.failsWith l p) := by
  have hconnects : b.connects socket src ∘ a.afterSend refused l = fun p =>
      a.connects socket src p && !(refused && a.failsWith l p) := by
    funext p
    have hremote : b.remoteCandidate = a.remoteCandidate := by
      funext ptr
      rw [IceAgent.remoteCandidate, h.remotes]
      rfl
    simp only [Function.comp, IceAgent.connects, hremote, h.sockets]
    unfold IceAgent.afterSend
    cases refused && a.failsWith l p with
    | true => simp
    | false => simp
  unfold findIceCandidatePairWithLocalSocketConnectionAndRemoteAddr
  rw [h.pairs, List.find?_map, hconnects]
  cases hfound : a.iceCandidatePairs.find? fun p =>
      a.connects socket src p && !(refused && a.failsWith l p) with
  | none => rfl
  | some p =>
    have hkept := List.find?_some hfound
    simp only [Bool.and_eq_true, Bool.not_eq_true'] at hkept
    simp [IceAgent.afterSend, hkept.2]

/-! ## New nominations and successes -/

theorem newly_map_iff {P : IceCandidatePair → Prop} {a b : IceAgent}
    {f : IceCandidatePair → IceCandidatePair} (hf : ∀ p, (f p).ptr = p.ptr)
    (hdistinct : (a.iceCandidatePairs.map IceCandidatePair.ptr).Nodup)
    (hb : b.iceCandidatePairs = a.iceCandidatePairs.map f) (q : IceCandidatePair) :
    Newly P a b q ↔ ∃ p ∈ a.iceCandidatePairs, q = f p ∧ P (f p) ∧ ¬ P p := by
  unfold Newly
  rw [hb]
  constructor
  · rintro ⟨hq, hP, hnew⟩
    obtain ⟨p, hp, rfl⟩ := List.mem_map.mp hq
    exact ⟨p, hp, rfl, hP, hnew p hp (hf p).symm⟩
  · rintro ⟨p, hp, rfl, hP, hnot⟩
    refine ⟨List.mem_map_of_mem hp, hP, ?_⟩
    intro p' hp' hptr
    rw [hf] at hptr
    rwa [List.inj_on_of_nodup_map hdistinct hp' hp hptr]

/-- The write of `checkArrived`. -/
def arrived (lite nominates : Bool) (p x : IceCandidatePair) : IceCandidatePair :=
  if x.ptr = p.ptr then
    { x with
      nominated := nominates || x.nominated
      state := if lite then .SUCCEEDED else x.state }
  else x

theorem arrived_ptr (lite nominates : Bool) (p x : IceCandidatePair) :
    (arrived lite nominates p x).ptr = x.ptr := by
  unfold arrived
  split <;> rfl

theorem setNominated_lite (a : IceAgent) (p : IceCandidatePair) (useCandidate : Bool) :
    (setNominated a p useCandidate).isLiteAgent = a.isLiteAgent := by
  unfold setNominated
  split <;> rfl

theorem setNominated_pairs (a : IceAgent) (p : IceCandidatePair) (useCandidate : Bool) :
    (setNominated a p useCandidate).iceCandidatePairs =
      a.iceCandidatePairs.map (arrived false (!p.nominated && useCandidate) p) := by
  unfold setNominated
  split
  · rename_i hnominates
    refine List.map_congr_left fun x _ => ?_
    rw [arrived, hnominates]
    rfl
  · rename_i hkeeps
    rw [Bool.not_eq_true] at hkeeps
    have hid : arrived false false p = id := by
      funext x
      unfold arrived
      split <;> rfl
    rw [hkeeps, hid, List.map_id]

theorem checkArrived_pairs (a : IceAgent) (p : IceCandidatePair) (useCandidate : Bool) :
    (checkArrived a p useCandidate).iceCandidatePairs =
      a.iceCandidatePairs.map (arrived a.isLiteAgent (!p.nominated && useCandidate) p) := by
  unfold checkArrived
  dsimp only
  rw [setNominated_lite]
  cases a.isLiteAgent with
  | true =>
    rw [if_pos rfl, IceAgent.updatePair, setNominated_pairs]
    rw [List.map_map]
    refine List.map_congr_left fun x _ => ?_
    simp only [Function.comp, arrived_ptr]
    unfold arrived
    split <;> rfl
  | false =>
    rw [if_neg Bool.false_ne_true]
    split <;> exact setNominated_pairs a p useCandidate

theorem checkArrived_remotes (a : IceAgent) (p : IceCandidatePair) (useCandidate : Bool) :
    (checkArrived a p useCandidate).remoteCandidates = a.remoteCandidates := by
  have hremotes := (Unmoved.setNominated (a := a) p useCandidate).remotes
  unfold checkArrived
  dsimp only
  split
  · exact hremotes
  · split <;> exact hremotes

theorem checkArrived_queue (a : IceAgent) (p : IceCandidatePair) (useCandidate : Bool) :
    (checkArrived a p useCandidate).triggeredCheckQueue =
      if !a.isLiteAgent && p.state.isUnchecked then a.triggeredCheckQueue ++ [p.ptr]
      else a.triggeredCheckQueue := by
  have hqueue := (Unmoved.setNominated (a := a) p useCandidate).queue
  unfold checkArrived
  dsimp only
  rw [setNominated_lite]
  cases a.isLiteAgent with
  | true => exact hqueue
  | false =>
    rw [if_neg Bool.false_ne_true]
    cases p.state.isUnchecked with
    | true => simp [hqueue]
    | false => simp [hqueue]

/-! ## Requests -/

section

variable {a b : IceAgent} {refused : Bool} {l : IceCandidate}

theorem afterSend_ptr (p : IceCandidatePair) : (a.afterSend refused l p).ptr = p.ptr := by
  rcases afterSend_cases a refused l p with h | h <;> rw [h]

theorem Sent.not_acts (h : Sent a b refused l)
    (hdistinct : (a.iceCandidatePairs.map IceCandidatePair.ptr).Nodup) : ¬ Acts a b := by
  rintro (hremote | ⟨q, hq⟩ | ⟨q, hq⟩ | hqueue)
  · rw [h.remotes] at hremote
    exact absurd hremote (Nat.lt_irrefl _)
  · obtain ⟨p, _, _, hnew, hold⟩ := (newly_map_iff afterSend_ptr hdistinct h.pairs q).mp hq
    rcases afterSend_cases a refused l p with heq | heq <;> rw [heq] at hnew <;> exact hold hnew
  · obtain ⟨p, _, _, hnew, hold⟩ := (newly_map_iff afterSend_ptr hdistinct h.pairs q).mp hq
    rcases afterSend_cases a refused l p with heq | heq <;> rw [heq] at hnew
    · exact hold hnew
    · cases hnew
  · rw [h.queue] at hqueue
    exact absurd hqueue (Nat.lt_irrefl _)

theorem Sent.checkArrived_pairs (h : Sent a b refused l) (p : IceCandidatePair)
    (useCandidate : Bool) :
    (checkArrived b p useCandidate).iceCandidatePairs = a.iceCandidatePairs.map
      (arrived a.isLiteAgent (!p.nominated && useCandidate) p ∘ a.afterSend refused l) := by
  rw [Ice.checkArrived_pairs, h.pairs, h.lite, List.map_map]

theorem arrived_afterSend_ptr (lite nominates : Bool) (p x : IceCandidatePair) :
    ((arrived lite nominates p ∘ a.afterSend refused l) x).ptr = x.ptr := by
  rw [Function.comp, arrived_ptr, afterSend_ptr]

variable {p : IceCandidatePair}

theorem Sent.nominates_iff (h : Sent a b refused l)
    (hdistinct : (a.iceCandidatePairs.map IceCandidatePair.ptr).Nodup)
    (hp : p ∈ a.iceCandidatePairs) (useCandidate : Bool) :
    (∃ q, Newly IceCandidatePair.Nominated a (checkArrived b p useCandidate) q) ↔
      useCandidate ∧ ¬ p.nominated := by
  have hiff := newly_map_iff (P := IceCandidatePair.Nominated)
    (arrived_afterSend_ptr _ _ p) hdistinct (h.checkArrived_pairs p useCandidate)
  have hkeeps : ∀ x, (a.afterSend refused l x).nominated = x.nominated := fun x => by
    rcases afterSend_cases a refused l x with heq | heq <;> rw [heq]
  constructor
  · rintro ⟨q, hq⟩
    obtain ⟨x, _, _, hnew, hold⟩ := (hiff q).mp hq
    unfold IceCandidatePair.Nominated Function.comp arrived at hnew
    split at hnew
    · rw [hkeeps, Bool.or_eq_true] at hnew
      rcases hnew with hnominates | hnew
      · rw [Bool.and_eq_true, Bool.not_eq_true'] at hnominates
        exact ⟨hnominates.2, by rw [hnominates.1]; exact Bool.false_ne_true⟩
      · exact absurd hnew hold
    · rw [hkeeps] at hnew
      exact absurd hnew hold
  · rintro ⟨huse, hold⟩
    refine ⟨_, (hiff _).mpr ⟨p, hp, rfl, ?_, hold⟩⟩
    unfold IceCandidatePair.Nominated Function.comp arrived
    rw [if_pos (afterSend_ptr p)]
    simp [huse, hold]

theorem Sent.succeeds_iff (h : Sent a b refused l)
    (hdistinct : (a.iceCandidatePairs.map IceCandidatePair.ptr).Nodup)
    (hp : p ∈ a.iceCandidatePairs) (useCandidate : Bool) :
    (∃ q, Newly IceCandidatePair.Succeeded a (checkArrived b p useCandidate) q) ↔
      a.isLiteAgent ∧ p.state ≠ .SUCCEEDED := by
  have hiff := newly_map_iff (P := IceCandidatePair.Succeeded)
    (arrived_afterSend_ptr _ _ p) hdistinct (h.checkArrived_pairs p useCandidate)
  have hkeeps : ∀ x, (a.afterSend refused l x).state = .SUCCEEDED → x.state = .SUCCEEDED := by
    intro x hx
    rcases afterSend_cases a refused l x with heq | heq <;> rw [heq] at hx
    · exact hx
    · cases hx
  constructor
  · rintro ⟨q, hq⟩
    obtain ⟨x, hx, _, hnew, hold⟩ := (hiff q).mp hq
    unfold IceCandidatePair.Succeeded Function.comp arrived at hnew
    split at hnew
    · rename_i hptr
      rw [afterSend_ptr] at hptr
      obtain rfl : x = p := List.inj_on_of_nodup_map hdistinct hx hp hptr
      refine ⟨?_, hold⟩
      split at hnew
      · assumption
      · exact absurd (hkeeps x hnew) hold
    · exact absurd (hkeeps x hnew) hold
  · rintro ⟨hlite, hold⟩
    refine ⟨_, (hiff _).mpr ⟨p, hp, rfl, ?_, hold⟩⟩
    unfold IceCandidatePair.Succeeded Function.comp arrived
    rw [if_pos (afterSend_ptr p)]
    exact if_pos hlite

theorem Sent.acts_checkArrived_iff (h : Sent a b refused l)
    (hdistinct : (a.iceCandidatePairs.map IceCandidatePair.ptr).Nodup)
    (hp : p ∈ a.iceCandidatePairs) (useCandidate : Bool) :
    Acts a (checkArrived b p useCandidate) ↔
      ¬ ((useCandidate → p.nominated) ∧
        if a.isLiteAgent then p.state = .SUCCEEDED else ¬ p.state.isUnchecked) := by
  have hremotes : ¬ a.remoteCandidates.length <
      (checkArrived b p useCandidate).remoteCandidates.length := by
    rw [checkArrived_remotes, h.remotes]
    exact Nat.lt_irrefl _
  have hqueue : a.triggeredCheckQueue.length <
      (checkArrived b p useCandidate).triggeredCheckQueue.length ↔
        ¬ a.isLiteAgent ∧ p.state.isUnchecked := by
    rw [checkArrived_queue, h.lite, h.queue]
    cases a.isLiteAgent <;> cases p.state.isUnchecked <;> simp
  unfold Acts
  rw [h.nominates_iff hdistinct hp, h.succeeds_iff hdistinct hp, hqueue]
  simp only [hremotes, false_or]
  cases a.isLiteAgent with
  | true => cases useCandidate <;> cases p.nominated <;> simp
  | false => cases useCandidate <;> cases p.nominated <;> simp

theorem checkRemotePeerReflexive_remotes (a : IceAgent) (src : KvsIpAddress) (priority : UINT32) :
    (checkRemotePeerReflexive a src priority = a ∧
        (KVS_ICE_MAX_REMOTE_CANDIDATE_COUNT ≤ a.remoteCandidates.length ∨
          (findCandidateWithIp src a.remoteCandidates).isSome)) ∨
      (a.remoteCandidates.length <
          (checkRemotePeerReflexive a src priority).remoteCandidates.length ∧
        ¬ (KVS_ICE_MAX_REMOTE_CANDIDATE_COUNT ≤ a.remoteCandidates.length ∨
          (findCandidateWithIp src a.remoteCandidates).isSome)) := by
  unfold checkRemotePeerReflexive IceAgent.addRemote
  split
  · rename_i hroom
    split
    · rename_i hfound
      exact Or.inl ⟨rfl, Or.inr (by rw [hfound]; rfl)⟩
    · rename_i hnone
      right
      refine ⟨?_, ?_⟩
      · dsimp only
        have hremotes := createPairsForRemote_induct
          (P := fun b => a.remoteCandidates.length < b.remoteCandidates.length)
          (a := a.insertRemote (a.newRemote src .PEER_REFLEXIVE priority))
          (a.newRemote src .PEER_REFLEXIVE priority)
        exact hremotes (fun b l hb _ _ _ _ _ => hb) (Nat.lt_succ_self _)
      · rw [hnone]
        rintro (hfull | hsome)
        · exact absurd hroom (Nat.not_lt.mpr hfull)
        · cases hsome
  · rename_i hfull
    exact Or.inl ⟨rfl, Or.inl (Nat.not_lt.mp hfull)⟩

theorem not_acts_self (a : IceAgent) : ¬ Acts a a := by
  rintro (hremote | ⟨q, hq, hnew, hold⟩ | ⟨q, hq, hnew, hold⟩ | hqueue)
  · exact absurd hremote (Nat.lt_irrefl _)
  · exact hold q hq rfl hnew
  · exact hold q hq rfl hnew
  · exact absurd hqueue (Nat.lt_irrefl _)

/-- A request that is no role conflict is idle if and only if its source is not added and the pair
it arrives on has nothing to gain. -/
theorem idle_iff {w : Host} {q : ParsedPacket} {socket : Nat} {src : KvsIpAddress}
    (hconflict : ¬ (a.isLiteAgent && hasAttribute q STUN_ATTRIBUTE_TYPE_ICE_CONTROLLED)) :
    Idle w a q socket src ↔
      (KVS_ICE_MAX_REMOTE_CANDIDATE_COUNT ≤ a.remoteCandidates.length ∨
        (findCandidateWithIp src a.remoteCandidates).isSome) ∧
      ∀ p, a.arrivesOn w q.header.transactionId socket src = some p →
        (hasAttribute q STUN_ATTRIBUTE_TYPE_USE_CANDIDATE → p.nominated) ∧
          if a.isLiteAgent then p.state = .SUCCEEDED else ¬ p.state.isUnchecked := by
  rw [Bool.and_eq_true] at hconflict
  exact or_iff_right hconflict

/-- **What a request does.**  It acts unless it is idle. -/
theorem handleBindingRequest_acts_iff (w : Host) (a : IceAgent) (q : ParsedPacket) (socket : Nat)
    (src : KvsIpAddress) (hdistinct : (a.iceCandidatePairs.map IceCandidatePair.ptr).Nodup) :
    Acts a (handleBindingRequest w a q socket src) ↔ ¬ Idle w a q socket src := by
  unfold handleBindingRequest
  split
  · rename_i hconflict
    rw [Bool.and_eq_true] at hconflict
    refine iff_of_false ?_ (not_not_intro (Or.inl hconflict))
    split
    · exact (sent_sendStunPacket w a _ _ src).not_acts hdistinct
    · exact not_acts_self a
  · rename_i hconflict
    rw [idle_iff hconflict]
    obtain ⟨response, hresponse⟩ := bindingResponse_ok a q.header.transactionId src
    rw [hresponse]
    dsimp only
    rcases checkRemotePeerReflexive_remotes a src (priorityOf q) with ⟨heq, hknown⟩ | ⟨hadded, hnew⟩
    · -- the source is known, so everything is decided by the pair
      rw [heq]
      have hpair : a.arrivesOn w q.header.transactionId socket src =
          (findCandidateWithSocketConnection socket a.localCandidates).bind fun l =>
            a.iceCandidatePairs.find? fun p =>
              a.connects socket src p && !(a.refuses w response && a.failsWith l p) := by
        unfold IceAgent.arrivesOn
        rw [hresponse]
        cases findCandidateWithSocketConnection socket a.localCandidates <;> rfl
      rw [hpair]
      cases findCandidateWithSocketConnection socket a.localCandidates with
      | none => exact iff_of_false (not_acts_self a) (not_not_intro ⟨hknown, nofun⟩)
      | some l =>
        have hsent := sent_sendStunPacket w a response l src
        dsimp only
        rw [hsent.find_eq, Option.bind_some]
        cases hfound : a.iceCandidatePairs.find? fun p =>
            a.connects socket src p && !(a.refuses w response && a.failsWith l p) with
        | none =>
          exact iff_of_false (hsent.not_acts hdistinct) (not_not_intro ⟨hknown, nofun⟩)
        | some p =>
          rw [hsent.acts_checkArrived_iff hdistinct (List.mem_of_find?_eq_some hfound)]
          simp [hknown]
    · -- a new remote candidate
      refine iff_of_true (Or.inl ?_) fun hidle => hnew hidle.1
      set c := checkRemotePeerReflexive a src (priorityOf q)
      split
      · exact hadded
      · have hremotes := (Unmoved.sendStunPacket (a := c) (w := w) response
          (some c.localPassword) ‹_› src).remotes
        split
        · rwa [hremotes]
        · rwa [checkArrived_remotes, hremotes]

end

/-! ## Responses -/

theorem checkLocalPeerReflexive_pairs (a : IceAgent) (ipAddress : KvsIpAddress) (socket : Nat) :
    (checkLocalPeerReflexive a ipAddress socket).iceCandidatePairs = a.iceCandidatePairs := by
  unfold checkLocalPeerReflexive
  split
  · rfl
  · split <;> rfl

theorem newly_succeeded_iff {a c : IceAgent} (hpairs : c.iceCandidatePairs = a.iceCandidatePairs)
    (hdistinct : (a.iceCandidatePairs.map IceCandidatePair.ptr).Nodup) {p : IceCandidatePair}
    (hp : p ∈ a.iceCandidatePairs) (r : IceCandidatePair) :
    Newly IceCandidatePair.Succeeded a
        (c.updatePair p.ptr fun p => { p with state := .SUCCEEDED }) r ↔
      p.state ≠ .SUCCEEDED ∧ r = { p with state := .SUCCEEDED } := by
  have hptr : ∀ x : IceCandidatePair,
      (if x.ptr = p.ptr then { x with state := .SUCCEEDED } else x).ptr = x.ptr := by
    intro x
    split <;> rfl
  rw [newly_map_iff hptr hdistinct (by rw [IceAgent.updatePair, hpairs])]
  constructor
  · rintro ⟨x, hx, rfl, hnew, hold⟩
    by_cases hxp : x.ptr = p.ptr
    · obtain rfl : x = p := List.inj_on_of_nodup_map hdistinct hx hp hxp
      exact ⟨hold, if_pos rfl⟩
    · rw [if_neg hxp] at hnew
      exact absurd hnew hold
  · rintro ⟨hold, rfl⟩
    exact ⟨p, hp, (if_pos rfl).symm, by rw [if_pos rfl]; rfl, hold⟩

/-- **What a response does.**  It moves the pair it is found on to `SUCCEEDED`, if it parses and has
an address and the transaction id is in a slot of the store. -/
theorem handleCheckResponse_succeeds_iff (w : Host) (a : IceAgent) (buf : Bytes) (socket : Nat)
    (src : KvsIpAddress) (hdistinct : (a.iceCandidatePairs.map IceCandidatePair.ptr).Nodup)
    (r : IceCandidatePair) :
    Newly IceCandidatePair.Succeeded a (handleCheckResponse w a buf socket src) r ↔
      ∃ p, findIceCandidatePairWithLocalSocketConnectionAndRemoteAddr a socket src = some p ∧
        p.state ≠ .SUCCEEDED ∧
        transactionIdStoreHasId p.pTransactionIdStore (datagramTransactionId buf) ∧
        (∃ q, deserializeStunPacket w.hmac w.crc32 buf (some a.remotePassword) = .ok q ∧
          (mappedAddressOf q).isSome) ∧
        r = { p with state := .SUCCEEDED } := by
  have hself : ¬ Newly IceCandidatePair.Succeeded a a r := fun ⟨hr, hnew, hold⟩ =>
    hold r hr rfl hnew
  unfold handleCheckResponse
  cases hfound : findIceCandidatePairWithLocalSocketConnectionAndRemoteAddr a socket src with
  | none => exact iff_of_false hself (by simp)
  | some p =>
    have hp : p ∈ a.iceCandidatePairs := List.mem_of_find?_eq_some hfound
    dsimp only
    split
    case isFalse hid => exact iff_of_false hself (by simp [hid])
    case isTrue hid =>
      cases hparse : deserializeStunPacket w.hmac w.crc32 buf (some a.remotePassword) with
      | error e => exact iff_of_false hself (by simp)
      | ok q =>
        dsimp only
        cases hmapped : mappedAddressOf q with
        | none => exact iff_of_false hself (by simp [hmapped])
        | some ipAddress =>
          rw [newly_succeeded_iff _ hdistinct hp]
          · simp [hid, hmapped]
          · split
            · exact checkLocalPeerReflexive_pairs a ipAddress socket
            · rfl

/-- **Authenticated checks.**  A datagram makes the agent act only if it is authenticated, if and
only if it is vouched for.  The addresses of the pairs are distinct, as they are in memory. -/
theorem acts_authenticated_iff (w : Host) (a : IceAgent) (buf : Bytes) (socket : Nat)
    (src : KvsIpAddress) (hdistinct : (a.iceCandidatePairs.map IceCandidatePair.ptr).Nodup) :
    ActsAuthenticated w a buf socket src ↔ Vouched w a buf socket src := by
  have hrequest : getUnalignedInt16BigEndian buf 0 = STUN_PACKET_TYPE_BINDING_REQUEST →
      (Acts a (handleStunPacket w a buf socket src) ↔
        ∃ q, deserializeStunPacket w.hmac w.crc32 buf (some a.localPassword) = .ok q ∧
          ¬ Idle w a q socket src) := by
    intro htype
    unfold handleStunPacket
    rw [htype, if_pos rfl]
    cases deserializeStunPacket w.hmac w.crc32 buf (some a.localPassword) with
    | error e => exact iff_of_false (not_acts_self a) (by simp)
    | ok q => simp [handleBindingRequest_acts_iff w a q socket src hdistinct]
  have hresponse : getUnalignedInt16BigEndian buf 0 = STUN_PACKET_TYPE_BINDING_RESPONSE_SUCCESS →
      ¬ transactionIdStoreHasId a.pStunBindingRequestTransactionIdStore
        (datagramTransactionId buf) →
      handleStunPacket w a buf socket src = handleCheckResponse w a buf socket src := by
    intro htype hsrflx
    unfold handleStunPacket
    rw [htype, if_neg (by decide), if_pos rfl, if_neg hsrflx]
  constructor
  · rintro ⟨hreq, hres⟩
    refine ⟨?_, ?_⟩
    · intro htype q hq
      by_cases hidle : Idle w a q socket src
      · exact Or.inl hidle
      · exact Or.inr (Or.inr (hreq htype ((hrequest htype).mpr ⟨q, hq, hidle⟩)))
    · intro htype hsrflx p hp hstate hid q hq hmapped
      have hnew : Newly IceCandidatePair.Succeeded a (handleStunPacket w a buf socket src)
          { p with state := .SUCCEEDED } := by
        rw [hresponse htype hsrflx, handleCheckResponse_succeeds_iff w a buf socket src hdistinct]
        exact ⟨p, hp, hstate, hid, ⟨q, hq, hmapped⟩, rfl⟩
      obtain ⟨hsigned, hinserted⟩ := hres htype hsrflx _ hnew
      exact ⟨Or.inr hsigned, hinserted⟩
  · rintro ⟨hreq, hres⟩
    refine ⟨?_, ?_⟩
    · intro htype hacts
      obtain ⟨q, hq, hbusy⟩ := (hrequest htype).mp hacts
      rcases hreq htype q hq with hidle | hreads | hsigned
      · exact absurd hidle hbusy
      · exact signed_of_readsIntegrity hq hreads
      · exact hsigned
    · intro htype hsrflx r hr
      rw [hresponse htype hsrflx, handleCheckResponse_succeeds_iff w a buf socket src hdistinct]
        at hr
      obtain ⟨p, hp, hstate, hid, ⟨q, hq, hmapped⟩, rfl⟩ := hr
      obtain ⟨hvouched, hinserted⟩ := hres htype hsrflx p hp hstate hid q hq hmapped
      refine ⟨?_, hinserted⟩
      rcases hvouched with hreads | hsigned
      · exact signed_of_readsIntegrity hq hreads
      · exact hsigned

/-! ## Two requests

Both arrive on the pair of the host candidate 192.0.2.1 and the remote candidate 192.0.2.2; the
password of both agents is `pw`. -/

instance (buf : Bytes) : Decidable (ReadsIntegrity buf) :=
  List.decidableBEx _ _

def startedAgent : IceAgent :=
  run sampleHost sampleAgent [.initHostCandidate (hostAddress 1) false,
    .addRemoteCandidate (hostAddress 2) .HOST 5, .startAgent [0x61] [0x70, 0x77] false]

/-- The HMACs and the CRCs of `signedMessage` and of the response to it. -/
def signedHost : Host := { sampleHost with
  hmac := fun _ message =>
    if message.getD 0 0 = 0 then signedHmac
    else [0xc3, 0xc9, 0xaf, 0x5d, 0x4f, 0x6e, 0xff, 0x8c, 0x1b, 0xcb, 0xea, 0xfc, 0xa3, 0x4c, 0x26,
      0xcc, 0x4a, 0x35, 0x54, 0xaf]
  crc32 := fun message => if message.getD 0 0 = 0 then 0x3e178533 else 0x45bb9933 }

/-- A signed request triggers a check. -/
theorem signedMessage_acts :
    Acts startedAgent (handleStunPacket signedHost startedAgent signedMessage 1 (hostAddress 2)) ∧
      ActsAuthenticated signedHost startedAgent signedMessage 1 (hostAddress 2) := by
  refine ⟨Or.inr (Or.inr (Or.inr (by decide +kernel))), ?_⟩
  refine (acts_authenticated_iff signedHost startedAgent signedMessage 1 (hostAddress 2)
    (by decide +kernel)).mpr ⟨?_, ?_⟩
  · exact fun _ _ _ => Or.inr (Or.inl (by decide +kernel))
  · intro htype
    exact absurd htype (by decide +kernel)

/-- A request of USE-CANDIDATE alone nominates the pair and triggers a check. -/
theorem unsigned_request_nominates :
    (handleStunPacket sampleHost startedAgent (nominatingRequest 1) 1
        (hostAddress 2)).iceCandidatePairs.map IceCandidatePair.nominated = [true] ∧
      ¬ ActsAuthenticated sampleHost startedAgent (nominatingRequest 1) 1 (hostAddress 2) := by
  refine ⟨by decide +kernel, fun h => ?_⟩
  obtain ⟨o, ho, hkind, _⟩ := h.request (by decide +kernel)
    (Or.inr (Or.inr (Or.inr (by decide +kernel))))
  have hnone : ∀ o ∈ attributeOffsets (nominatingRequest 1),
      kindAt (nominatingRequest 1) o ≠ .messageIntegrity := by
    decide +kernel
  exact hnone o ho hkind

end KvsWebrtc.Ice
