import KvsWebrtc.Ice.StateMachine
import KvsWebrtc.Stun.Authentication
import KvsWebrtc.Stun.RoundTrip

/-!
# The binding requests of an agent on the wire

A pair is nominated by a binding request with USE-CANDIDATE, so the bytes of a request have to say
whether the sender meant one.  The attributes that can be read from a serialised packet are those
that were appended to it and the two that close it.

Principal results:

* `package_types` — the types that stand in a packaged message.
* `IsRequest.carries` — the bytes of an ordinary request carry no USE-CANDIDATE.
-/

namespace KvsWebrtc.Ice

open Stun

/-- The bytes are a binding request with USE-CANDIDATE. -/
def Carries (buf : Bytes) : Prop :=
  getUnalignedInt16BigEndian buf 0 = STUN_PACKET_TYPE_BINDING_REQUEST ∧
    ∃ o ∈ attributeOffsets buf, typeAt buf o = STUN_ATTRIBUTE_TYPE_USE_CANDIDATE

theorem mem_attributeOffsets_of_hasAttribute {hmac : Bytes → Bytes → Bytes}
    {crc32 : Bytes → UINT32} {buf : Bytes} {password : Option Bytes} {q : ParsedPacket}
    {type : UINT16} (hok : deserializeStunPacket hmac crc32 buf password = .ok q)
    (hattr : hasAttribute q type = true) : ∃ o ∈ attributeOffsets buf, typeAt buf o = type := by
  obtain ⟨_, _, s, _, es, hes, rfl⟩ := (deserializeStunPacket_ok_iff _ _ _ _ _).mp hok
  obtain ⟨attr, hfound⟩ := Option.isSome_iff_exists.mp hattr
  have htype : attr.type = type := by simpa using List.find?_some hfound
  obtain ⟨e, he, rfl⟩ := List.mem_map.mp (List.mem_of_find?_eq_some hfound)
  obtain ⟨o, ho, hentry⟩ := exists_of_mem_right hes (mem_settleEntries he)
  refine ⟨o, List.mem_of_mem_take ho, ?_⟩
  rw [← htype, hentry.2.2.1]

/-! ## The type of a message -/

/-- The position is behind the type, and the buffer begins with it. -/
structure Headed (ty : UINT16) (s : Serial) : Prop where
  position : 2 ≤ s.position
  type : ∃ buf, s.buffer = some buf ∧ buf.take 2 = putUnalignedInt16BigEndian ty

theorem take_two_of_take {a b : Bytes} {n : Nat} (hn : 2 ≤ n) (h : a.take n = b.take n) :
    a.take 2 = b.take 2 := by
  rw [← min_eq_left hn, ← List.take_take, h, List.take_take]

namespace Headed

variable {ty : UINT16} {s s' : Serial}

theorem advance (h : Headed ty s) {pkg : Package} (hok : s.advance pkg = .ok s') :
    Headed ty s' := by
  obtain ⟨hposition, buf, hbuf, htype⟩ := h
  unfold Serial.advance at hok
  rw [hbuf] at hok
  dsimp only at hok
  split at hok
  case isFalse => cases hok
  case isTrue =>
    obtain ⟨written, hwrite, hok⟩ := bind_ok_iff.mp hok
    cases hok
    have htake := (writeAll_ok (k := 0) hwrite fun _ _ => Nat.zero_le _).2
    exact ⟨Nat.le_add_right_of_le hposition, written, rfl,
      (take_two_of_take hposition htake).trans htype⟩

theorem serializeAttribute (h : Headed ty s) {tid : Bytes} {count i : Nat} {a : StunAttribute}
    (hok : serializeAttribute tid count i a s = .ok s') : Headed ty s' := by
  unfold Stun.serializeAttribute at hok
  split at hok
  case h_1 => cases hok
  case h_2 s1 horder =>
    have hsame : s1.buffer = s.buffer ∧ s1.position = s.position := by
      unfold Serial.order at horder
      split at horder
      all_goals repeat' split at horder
      all_goals cases horder
      all_goals exact ⟨rfl, rfl⟩
    split at hok
    case h_1 => cases hok
    case h_2 => exact advance (s := s1) ⟨hsame.2 ▸ h.position, hsame.1 ▸ h.type⟩ hok

theorem serializeLoop {tid : Bytes} {count : Nat} : ∀ {as : List StunAttribute} {i : Nat}
    {s s' : Serial}, Headed ty s → serializeLoop tid count i as s = .ok s' → Headed ty s'
  | [], _, _, _, h, hok => by
    cases hok
    exact h
  | _ :: _, _, _, _, h, hok => by
    obtain ⟨s1, hone, hrest⟩ := bind_ok_iff.mp hok
    exact serializeLoop (h.serializeAttribute hone) hrest

theorem generate (h : Headed ty s) {type : UINT16} {n : Nat} {value : Bytes → Bytes}
    (hok : s.generate type n value = .ok s') : Headed ty s' := by
  obtain ⟨hposition, buf, hbuf, htype⟩ := h
  unfold Serial.generate at hok
  rw [hbuf] at hok
  dsimp only at hok
  split at hok
  case isFalse => cases hok
  case isTrue =>
    obtain ⟨b1, h1, hok⟩ := bind_ok_iff.mp hok
    obtain ⟨b2, h2, hok⟩ := bind_ok_iff.mp hok
    obtain ⟨b3, h3, hok⟩ := bind_ok_iff.mp hok
    cases hok
    refine ⟨Nat.le_add_right_of_le hposition, b3, rfl, ?_⟩
    rw [(writeAt_ok h3).2 2 (Nat.le_add_right_of_le hposition), (writeAt_ok h2).2 2 (le_refl _),
      (writeAt_ok h1).2 2 hposition, htype]

theorem start {header : StunHeader} {memory : Bytes}
    (hok : Serial.start header (some memory) = .ok s) : Headed header.stunMessageType s := by
  unfold Serial.start at hok
  dsimp only at hok
  split at hok
  case isTrue => cases hok
  case isFalse =>
    obtain ⟨written, hwrite, hok⟩ := bind_ok_iff.mp hok
    cases hok
    obtain ⟨b1, h1, hwrite⟩ := bind_ok_iff.mp hwrite
    obtain ⟨b2, h2, hwrite⟩ := bind_ok_iff.mp hwrite
    obtain ⟨b3, h3, hwrite⟩ := bind_ok_iff.mp hwrite
    cases hwrite
    refine ⟨Nat.le_of_ble_eq_true rfl, written, rfl, ?_⟩
    rw [(writeAt_ok h3).2 2 (by decide), (writeAt_ok h2).2 2 (by decide)]
    unfold writeAt at h1
    split at h1
    case isFalse => cases h1
    case isTrue =>
      cases h1
      simp

end Headed

theorem serialize_type {hmac : Bytes → Bytes → Bytes} {crc32 : Bytes → UINT32} {p : StunPacket}
    {password : Option Bytes} {mi fp : Bool} {memory : Bytes} {r : Option Bytes × Nat}
    (hok : serializeStunPacket hmac crc32 p password mi fp (some memory) = .ok r) :
    getUnalignedInt16BigEndian (r.1.getD []) 0 = p.header.stunMessageType := by
  unfold serializeStunPacket at hok
  repeat' split at hok
  case isFalse =>
    obtain ⟨s, hstart, hok⟩ := bind_ok_iff.mp hok
    obtain ⟨s1, hloop, hok⟩ := bind_ok_iff.mp hok
    obtain ⟨s2, hmi, hok⟩ := bind_ok_iff.mp hok
    obtain ⟨s3, hfp, hok⟩ := bind_ok_iff.mp hok
    have h1 : Headed p.header.stunMessageType s1 := (Headed.start hstart).serializeLoop hloop
    have h2 : Headed p.header.stunMessageType s2 := by
      unfold Serial.generateMessageIntegrity at hmi
      split at hmi
      · exact h1.generate hmi
      · cases hmi
        exact h1
    have h3 : Headed p.header.stunMessageType s3 := by
      unfold Serial.generateFingerprint at hfp
      split at hfp
      · exact h2.generate hfp
      · cases hfp
        exact h2
    obtain ⟨_, buf, hbuf, htype⟩ := h3
    unfold Serial.finish at hok
    rw [hbuf] at hok
    obtain ⟨written, hwrite, hok⟩ := bind_ok_iff.mp hok
    split at hok
    case isFalse => cases hok
    case isTrue =>
      cases hok
      have htake := (writeAt_ok hwrite).2 2 (le_refl _)
      rw [htype] at htake
      rw [Option.getD_some, ← List.take_append_drop 2 written, htake, get16_put16]
  all_goals cases hok

/-! ## Packaged messages -/

section

variable {w : Host} {ty : UINT16} {tid : Bytes} {p : StunPacket} {calls : List AppendCall}
  {password : Option Bytes} {bytes : Bytes}

theorem package_message (hlen : ∀ k m, (w.hmac k m).length = STUN_HMAC_VALUE_LEN)
    (h : Appended ty tid p calls) (htid : tid.length = 12)
    (hok : iceUtilsPackageStunPacket w p password = .ok bytes) :
    ∃ items, List.Forall₂ (Wrote tid) (sentCalls calls) items ∧
      bytes = closedMessage w.hmac w.crc32 ty tid hlen password password.isSome true items := by
  have hpw : PasswordOk password password.isSome := by
    refine ⟨?_, ?_⟩
    · rintro hsome rfl
      cases hsome
    · rintro rfl
      simp [iceUtilsPackageStunPacket, serializeStunPacket] at hok
  have hsize : serializeStunPacket w.hmac w.crc32 p password password.isSome true none =
      .ok (none, 20 + totalSent calls + generatedBytes password.isSome true) := serialize_size h hpw
  unfold iceUtilsPackageStunPacket at hok
  rw [hsize] at hok
  dsimp only at hok
  split at hok
  case isFalse => cases hok
  case isTrue =>
    split at hok
    case h_1 => cases hok
    case h_2 heq =>
      obtain ⟨items, hitems, hr⟩ := serialize_ok hlen h hpw htid (by simp) heq
      obtain ⟨rfl, _⟩ := Prod.mk.inj hr
      exact ⟨items, hitems, (Except.ok.inj hok).symm⟩

/-- **The types in a packaged message** are those of the packet and of the closing attributes. -/
theorem package_types (hlen : ∀ k m, (w.hmac k m).length = STUN_HMAC_VALUE_LEN)
    (h : Appended ty tid p calls) (htid : tid.length = 12)
    (hok : iceUtilsPackageStunPacket w p password = .ok bytes) :
    ∀ o ∈ attributeOffsets bytes, (∃ c ∈ calls, typeAt bytes o = c.attribute.type) ∨
      typeAt bytes o ∈ generatedTypes password.isSome true := by
  obtain ⟨items, hitems, rfl⟩ := package_message hlen h htid hok
  set closing := generatedItems w.crc32 ty tid hlen (password.getD []) password.isSome true items
    with hclosing
  have hmessage : closedMessage w.hmac w.crc32 ty tid hlen password password.isSome true items =
      message ty tid (items ++ closing) := closedMessage_eq hlen items
  have hbody : (bodyOf (items ++ closing)).length < 65536 := by
    have hitemsBody := length_bodyOf_wrote hitems
    have hclosingBody : (bodyOf closing).length = generatedBytes password.isSome true :=
      length_bodyOf_generated hlen items
    have hsent := totalSent_le calls
    have htotal := h.total_le
    have hgenerated : generatedBytes password.isSome true ≤ 40 := by
      cases password.isSome <;> decide
    rw [bodyOf_append, List.length_append]
    omega
  rw [hmessage]
  intro o ho
  rw [attributeOffsets_message htid hbody] at ho
  obtain ⟨i, hi, hstand⟩ := exists_of_mem_left (standing_message ty (items ++ closing) htid) ho
  rw [hstand.typeAt_eq]
  rcases List.mem_append.mp hi with hi | hi
  · obtain ⟨c, hc, hwrote⟩ := exists_of_mem_right hitems hi
    exact Or.inl ⟨c, List.mem_of_mem_filter hc, hwrote.1⟩
  · right
    have htypes : closing.map Item.type = generatedTypes password.isSome true :=
      generatedItems_types hlen items
    rw [← htypes]
    exact List.mem_map_of_mem hi

theorem package_not_request (hty : p.header.stunMessageType ≠ STUN_PACKET_TYPE_BINDING_REQUEST)
    (hok : iceUtilsPackageStunPacket w p password = .ok bytes) : ¬ Carries bytes := by
  unfold iceUtilsPackageStunPacket at hok
  split at hok
  case h_1 => cases hok
  case h_2 =>
    split at hok
    case isFalse => cases hok
    case isTrue =>
      split at hok
      case h_1 => cases hok
      case h_2 heq =>
        cases hok
        rintro ⟨htype, _⟩
        exact hty ((serialize_type heq).symm.trans htype)

end

/-! ## The requests of an agent -/

/-- What is appended to a binding request. -/
def requestCalls (name : Bytes) (priority : UINT32) (controlling : Bool) (tieBreaker : UINT64)
    (nomination : Bool) : List AppendCall :=
  [.username name, .priority priority, .iceControl controlling tieBreaker] ++
    if nomination then [.flag .useCandidate] else []

/-- A binding request of an agent. -/
def IsRequest (nomination : Bool) (p : StunPacket) : Prop :=
  ∃ tid name priority controlling tieBreaker, tid.length = 12 ∧
    Appended STUN_PACKET_TYPE_BINDING_REQUEST tid p
      (requestCalls name priority controlling tieBreaker nomination)

theorem length_iceUtilsGenerateTransactionId (w : Host) (n : Nat) :
    (iceUtilsGenerateTransactionId w n).length = 12 := by
  simp [iceUtilsGenerateTransactionId]

theorem isRequest_bindingRequest {a : IceAgent} {tid : Bytes} {nomination : Bool} {p : StunPacket}
    (htid : tid.length = 12) (hok : bindingRequest a tid nomination = .ok p) :
    IsRequest nomination p := by
  refine ⟨tid, a.combinedUserName, 0, a.isControlling, a.tieBreaker, htid, ?_⟩
  have hall : appendAll (createStunPacket STUN_PACKET_TYPE_BINDING_REQUEST tid)
      (requestCalls a.combinedUserName 0 a.isControlling a.tieBreaker nomination) = .ok p := by
    rw [← hok]
    cases nomination with
    | false => rfl
    | true =>
      simp only [appendAll, requestCalls, if_true, List.cons_append, List.nil_append,
        List.foldlM_cons, List.foldlM_nil, bind_pure]
      rfl
  have hrun := appended_run _ (appended_create _ tid) hall
  rwa [List.nil_append] at hrun

theorem IsRequest.withPriority {nomination : Bool} {p : StunPacket} (h : IsRequest nomination p)
    {tid : Bytes} (htid : tid.length = 12) (v : UINT32) :
    IsRequest nomination (withPriority p tid v) := by
  obtain ⟨_, name, priority, controlling, tieBreaker, _, happ⟩ := h
  refine ⟨tid, name, v, controlling, tieBreaker, htid, ?_⟩
  have hbytes : totalBytes (requestCalls name v controlling tieBreaker nomination) =
      totalBytes (requestCalls name priority controlling tieBreaker nomination) := by
    cases nomination <;> rfl
  have hattributes : (requestCalls name v controlling tieBreaker nomination).map
      AppendCall.attribute = p.attributeList.map fun attr =>
        if attr.type = STUN_ATTRIBUTE_TYPE_PRIORITY then { attr with value := .word v }
        else attr := by
    rw [happ.attributeList]
    cases nomination <;> cases controlling <;> rfl
  refine ⟨?_, hattributes.symm, happ.allocationSize, ?_, ?_, ?_⟩
  · rw [hbytes, Ice.withPriority, happ.header]
  · intro c hc
    have hwritten : (requestCalls name v controlling tieBreaker nomination).map
        AppendCall.written = (requestCalls name priority controlling tieBreaker nomination).map
          AppendCall.written := by
      cases nomination <;> rfl
    have hmem := List.mem_map_of_mem (f := AppendCall.written) hc
    rw [hwritten] at hmem
    obtain ⟨c', hc', heq⟩ := List.mem_map.mp hmem
    rw [← heq]
    exact happ.written_le c' hc'
  · rw [hbytes]
    exact happ.total_le
  · intro before c hsplit
    cases nomination with
    | false =>
      have hlast : [.username name, .priority v] ++ [.iceControl controlling tieBreaker] =
          before ++ [c] := hsplit
      obtain ⟨rfl, _⟩ := List.append_inj' hlast rfl
      exact happ.last [.username name, .priority priority] _ rfl
    | true =>
      have hlast : [.username name, .priority v, .iceControl controlling tieBreaker] ++
          [.flag .useCandidate] = before ++ [c] := hsplit
      obtain ⟨rfl, _⟩ := List.append_inj' hlast rfl
      exact happ.last [.username name, .priority priority, .iceControl controlling tieBreaker] _ rfl

/-- **An ordinary request** carries no USE-CANDIDATE. -/
theorem IsRequest.carries {w : Host} (hlen : ∀ k m, (w.hmac k m).length = STUN_HMAC_VALUE_LEN)
    {p : StunPacket} (h : IsRequest false p) {password : Option Bytes} {bytes : Bytes}
    (hok : iceUtilsPackageStunPacket w p password = .ok bytes) : ¬ Carries bytes := by
  obtain ⟨tid, name, priority, controlling, tieBreaker, htid, happ⟩ := h
  rintro ⟨_, o, ho, htype⟩
  rcases package_types hlen happ htid hok o ho with ⟨c, hc, heq⟩ | hclosing
  · rw [htype] at heq
    simp only [requestCalls, Bool.false_eq_true, if_false, List.append_nil, List.mem_cons,
      List.not_mem_nil, or_false] at hc
    rcases hc with rfl | rfl | rfl
    · simp [AppendCall.attribute, paddedAttribute] at heq
    · simp [AppendCall.attribute] at heq
    · cases controlling <;> simp [AppendCall.attribute, iceControlType] at heq
  · rw [htype] at hclosing
    revert hclosing
    cases password.isSome <;> decide

theorem appendAttribute_header {p p' : StunPacket} {attr : StunAttribute} {size written n : Nat}
    (hok : appendAttribute p attr size written n = .ok p') :
    p'.header.stunMessageType = p.header.stunMessageType := by
  unfold appendAttribute at hok
  repeat' split at hok
  case isTrue =>
    cases hok
    rfl
  all_goals cases hok

theorem bindingResponse_header {a : IceAgent} {tid : Bytes} {src : KvsIpAddress} {p : StunPacket}
    (hok : bindingResponse a tid src = .ok p) :
    p.header.stunMessageType = STUN_PACKET_TYPE_BINDING_RESPONSE_SUCCESS := by
  obtain ⟨p1, hone, htwo⟩ := bind_ok_iff.mp hok
  unfold appendStunAddressAttribute at hone
  unfold appendStunIceControllAttribute at htwo
  split at htwo
  case isFalse => cases htwo
  case isTrue => exact (appendAttribute_header htwo).trans (appendAttribute_header hone)

end KvsWebrtc.Ice
