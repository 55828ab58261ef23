import KvsWebrtc.Stun.Walk

/-!
# Packets built by append calls

A packet is created and filled by calls of the append functions, each with arguments its type
allows.  What a call adds is its `attribute`; the memory of the packet bounds what all of them can
add.

Principal results:

* `append_ok` — what a successful call does;
* `appended_run` — the packet after a sequence of successful calls.
-/

namespace KvsWebrtc.Stun

inductive AddressType where
  | mapped
  | xorMapped
  | response
  | source
  | reflectedFrom
  | xorRelayed
  | xorPeer
  | changed
  deriving DecidableEq, Repr

def AddressType.type : AddressType → UINT16
  | .mapped => STUN_ATTRIBUTE_TYPE_MAPPED_ADDRESS
  | .xorMapped => STUN_ATTRIBUTE_TYPE_XOR_MAPPED_ADDRESS
  | .response => STUN_ATTRIBUTE_TYPE_RESPONSE_ADDRESS
  | .source => STUN_ATTRIBUTE_TYPE_SOURCE_ADDRESS
  | .reflectedFrom => STUN_ATTRIBUTE_TYPE_REFLECTED_FROM
  | .xorRelayed => STUN_ATTRIBUTE_TYPE_XOR_RELAYED_ADDRESS
  | .xorPeer => STUN_ATTRIBUTE_TYPE_XOR_PEER_ADDRESS
  | .changed => STUN_ATTRIBUTE_TYPE_CHANGED_ADDRESS

inductive FlagType where
  | useCandidate
  | dontFragment
  deriving DecidableEq, Repr

def FlagType.type : FlagType → UINT16
  | .useCandidate => STUN_ATTRIBUTE_TYPE_USE_CANDIDATE
  | .dontFragment => STUN_ATTRIBUTE_TYPE_DONT_FRAGMENT

/-- A call of an append function. -/
inductive AppendCall where
  | address (t : AddressType) (a : KvsIpAddress)
      (family : a.family = KVS_IP_FAMILY_TYPE_IPV4 ∨ a.family = KVS_IP_FAMILY_TYPE_IPV6)
  | username (userName : Bytes)
  | priority (priority : UINT32)
  | flag (t : FlagType)
  | lifetime (lifetime : UINT32)
  | changeRequest (changeFlag : UINT32)
  | requestedTransport (protocol : UINT8)
  | realm (realm : Bytes)
  | allocationAddressFamily (ipFamily : UINT16)
  | nonce (nonce : Bytes)
  | errorCode (errorPhrase : Bytes) (errorCode : UINT16)
  | iceControl (controlling : Bool) (tieBreaker : UINT64)
  | data (data : Bytes)
  | channelNumber (channelNumber : UINT16)
  deriving DecidableEq

def iceControlType (controlling : Bool) : UINT16 :=
  if controlling then STUN_ATTRIBUTE_TYPE_ICE_CONTROLLING else STUN_ATTRIBUTE_TYPE_ICE_CONTROLLED

def AppendCall.append (p : StunPacket) : AppendCall → Except Failure StunPacket
  | .address t a _ => appendStunAddressAttribute p t.type a
  | .username userName => appendStunUsernameAttribute p userName
  | .priority v => appendStunPriorityAttribute p v
  | .flag t => appendStunFlagAttribute p t.type
  | .lifetime v => appendStunLifetimeAttribute p v
  | .changeRequest v => appendStunChangeRequestAttribute p v
  | .requestedTransport protocol => appendStunRequestedTransportAttribute p protocol
  | .realm r => appendStunRealmAttribute p r
  | .allocationAddressFamily ipFamily => appendStunAllocationAddressFamily p ipFamily
  | .nonce b => appendStunNonceAttribute p b
  | .errorCode phrase code => appendStunErrorCodeAttribute p phrase code
  | .iceControl controlling tieBreaker =>
    appendStunIceControllAttribute p (iceControlType controlling) tieBreaker
  | .data b => appendStunDataAttribute p b
  | .channelNumber n => appendStunChannelNumberAttribute p n

def appendAll (p : StunPacket) (calls : List AppendCall) : Except Failure StunPacket :=
  calls.foldlM AppendCall.append p

/-! ## What a call adds -/

def paddedAttribute (type : UINT16) (data : Bytes) : StunAttribute :=
  let length : UINT16 := BitVec.ofNat 16 data.length
  ⟨type, length, .padded (padTo (paddedLengthOf length).toNat data)⟩

def AppendCall.attribute : AppendCall → StunAttribute
  | .address t a _ =>
    ⟨t.type, BitVec.ofNat 16 (STUN_ATTRIBUTE_ADDRESS_HEADER_LEN + a.addressLength), .address a⟩
  | .username userName =>
    paddedAttribute STUN_ATTRIBUTE_TYPE_USERNAME (strnCopy userName STUN_MAX_USERNAME_LEN)
  | .priority v => ⟨STUN_ATTRIBUTE_TYPE_PRIORITY, 4, .word v⟩
  | .flag t => ⟨t.type, 0, .none⟩
  | .lifetime v => ⟨STUN_ATTRIBUTE_TYPE_LIFETIME, 4, .word v⟩
  | .changeRequest v => ⟨STUN_ATTRIBUTE_TYPE_CHANGE_REQUEST, 4, .word v⟩
  | .requestedTransport protocol =>
    ⟨STUN_ATTRIBUTE_TYPE_REQUESTED_TRANSPORT, 4, .bytes [protocol, 0, 0, 0]⟩
  | .realm r => paddedAttribute STUN_ATTRIBUTE_TYPE_REALM (strnCopy r STUN_MAX_REALM_LEN)
  | .allocationAddressFamily ipFamily =>
    ⟨STUN_ATTRIBUTE_TYPE_REQUESTED_ADDRESS_FAMILY, 4, .bytes [ipFamily.truncate 8, 0, 0, 0]⟩
  | .nonce b => paddedAttribute STUN_ATTRIBUTE_TYPE_NONCE b
  | .errorCode errorPhrase code =>
    let phrase := strnCopy errorPhrase STUN_MAX_ERROR_PHRASE_LEN
    let length : UINT16 := BitVec.ofNat 16 phrase.length
    ⟨STUN_ATTRIBUTE_TYPE_ERROR_CODE, length,
      .errorCode code (padTo (paddedLengthOf length).toNat phrase)⟩
  | .iceControl controlling tieBreaker => ⟨iceControlType controlling, 8, .tieBreaker tieBreaker⟩
  | .data b => paddedAttribute STUN_ATTRIBUTE_TYPE_DATA b
  | .channelNumber n => ⟨STUN_ATTRIBUTE_TYPE_CHANNEL_NUMBER, 4, .channelNumber n 0⟩

/-- The bytes of the packet's memory that a call writes. -/
def AppendCall.written : AppendCall → Nat
  | .address _ _ _ => 28
  | .username userName => 16 + (strnCopy userName STUN_MAX_USERNAME_LEN).length
  | .realm r => 16 + (strnCopy r STUN_MAX_REALM_LEN).length
  | .nonce b => 16 + b.length
  | .errorCode errorPhrase _ => 16 + (strnCopy errorPhrase STUN_MAX_ERROR_PHRASE_LEN).length
  | .data b => 16 + b.length
  | .iceControl _ _ => 16
  | .flag _ => 4
  | _ => 8

/-- What the call adds to the length in the header. -/
def AppendCall.messageBytes (c : AppendCall) : Nat := (paddedLengthOf c.attribute.length).toNat + 4

theorem addressLength_cases (a : KvsIpAddress) : a.addressLength = 4 ∨ a.addressLength = 16 := by
  rw [KvsIpAddress.addressLength]
  split
  · exact Or.inl rfl
  · exact Or.inr rfl

theorem paddedLengthOf_fixed {length : UINT16}
    (h : length = 0 ∨ length = 4 ∨ length = 8 ∨ length = 20) :
    (paddedLengthOf length).toNat = length.toNat := by
  rcases h with rfl | rfl | rfl | rfl
  all_goals decide

theorem messageBytes_address (t : AddressType) (a : KvsIpAddress)
    (h : a.family = KVS_IP_FAMILY_TYPE_IPV4 ∨ a.family = KVS_IP_FAMILY_TYPE_IPV6) :
    (AppendCall.address t a h).messageBytes = 8 + a.addressLength := by
  simp only [AppendCall.messageBytes, AppendCall.attribute]
  rcases addressLength_cases a with h4 | h16
  · rw [h4, paddedLengthOf_fixed (by decide)]
    rfl
  · rw [h16, paddedLengthOf_fixed (by decide)]
    rfl

theorem append_eq (p : StunPacket) (c : AppendCall) :
    ∃ size, c.append p = appendAttribute p c.attribute size c.written c.messageBytes := by
  cases c with
  | address t a h =>
    refine ⟨ROUND_UP 28 8, ?_⟩
    have hbytes : STUN_ATTRIBUTE_ADDRESS_HEADER_LEN + a.addressLength + STUN_ATTRIBUTE_HEADER_LEN =
        8 + a.addressLength := by
      simp only [STUN_ATTRIBUTE_ADDRESS_HEADER_LEN, STUN_ATTRIBUTE_HEADER_LEN]
      omega
    rw [messageBytes_address, ← hbytes]
    rfl
  | iceControl controlling tieBreaker =>
    refine ⟨ROUND_UP 16 8, ?_⟩
    simp only [AppendCall.append, appendStunIceControllAttribute, AppendCall.messageBytes,
      AppendCall.attribute, paddedLengthOf_fixed (show (8 : UINT16) = 0 ∨ _ by decide)]
    rw [if_pos]
    · rfl
    · cases controlling with
      | true => exact Or.inl rfl
      | false => exact Or.inr rfl
  | username userName => exact ⟨_, rfl⟩
  | realm r => exact ⟨_, rfl⟩
  | nonce b => exact ⟨_, rfl⟩
  | data b => exact ⟨_, rfl⟩
  | errorCode phrase code => exact ⟨_, rfl⟩
  | flag t =>
    refine ⟨ROUND_UP 4 8, ?_⟩
    simp only [AppendCall.messageBytes, AppendCall.attribute, paddedLengthOf_fixed, true_or]
    rfl
  | _ =>
    refine ⟨ROUND_UP 8 8, ?_⟩
    simp only [AppendCall.messageBytes, AppendCall.attribute, paddedLengthOf_fixed, true_or, or_true]
    rfl

/-- **A successful call** puts its attribute at the end, in memory the packet has. -/
theorem append_ok {p p' : StunPacket} {c : AppendCall} (h : c.append p = .ok p') :
    ∃ offset, getFirstAvailableStunAttribute p = .ok offset ∧
      offset + c.written ≤ p.allocationSize ∧
      p' = { p with
        header := { p.header with
          messageLength := p.header.messageLength + BitVec.ofNat 16 c.messageBytes }
        attributeList := p.attributeList ++ [c.attribute]
        offsets := p.offsets ++ [offset] } := by
  obtain ⟨size, heq⟩ := append_eq p c
  rw [heq, appendAttribute] at h
  cases hfirst : getFirstAvailableStunAttribute p with
  | error e =>
    rw [hfirst] at h
    cases h
  | ok offset =>
    rw [hfirst] at h
    simp only at h
    split at h
    case isFalse => cases h
    case isTrue =>
      split at h
      case isFalse => cases h
      case isTrue hroom =>
        cases h
        exact ⟨offset, rfl, hroom, rfl⟩

/-! ## The memory bounds the message -/

theorem paddedLengthOf_ofNat {n : Nat} (h : n ≤ 2048) :
    (paddedLengthOf (BitVec.ofNat 16 n)).toNat = ROUND_UP n 4 := by
  rw [toNat_paddedLengthOf, BitVec.toNat_ofNat, ROUND_UP, ROUND_UP]
  omega

theorem length_padTo {n : Nat} {b : Bytes} (h : b.length ≤ n) : (padTo n b).length = n := by
  rw [padTo, List.length_append, List.length_replicate]
  omega

theorem length_padTo_padded {b : Bytes} (h : b.length ≤ 2048) :
    (padTo (paddedLengthOf (BitVec.ofNat 16 b.length)).toNat b).length = ROUND_UP b.length 4 := by
  rw [paddedLengthOf_ofNat h, length_padTo (le_ROUND_UP _)]

theorem messageBytes_padded {type : UINT16} {data : Bytes} (h : data.length ≤ 2048) :
    (paddedLengthOf (paddedAttribute type data).length).toNat = ROUND_UP data.length 4 :=
  paddedLengthOf_ofNat h

theorem messageBytes_le_written {c : AppendCall} (h : c.written ≤ 2048) :
    c.messageBytes ≤ c.written := by
  have hpadded : ∀ (type : UINT16) (data : Bytes), 16 + data.length ≤ 2048 →
      (paddedLengthOf (paddedAttribute type data).length).toNat + 4 ≤ 16 + data.length := by
    intro type data hdata
    rw [messageBytes_padded (by omega), ROUND_UP]
    omega
  cases c with
  | address t a hfam =>
    rw [messageBytes_address, AppendCall.written]
    rcases addressLength_cases a with h4 | h16
    · omega
    · omega
  | username userName => exact hpadded _ _ h
  | realm realm => exact hpadded _ _ h
  | nonce nonce => exact hpadded _ _ h
  | data data => exact hpadded _ _ h
  | errorCode phrase code => exact hpadded STUN_ATTRIBUTE_TYPE_ERROR_CODE _ h
  | _ =>
    simp only [AppendCall.messageBytes, AppendCall.attribute, AppendCall.written]
    decide

theorem getPackagedStunAttributeSize_padded {a : StunAttribute}
    (htype : a.type = STUN_ATTRIBUTE_TYPE_REALM ∨ a.type = STUN_ATTRIBUTE_TYPE_NONCE ∨
      a.type = STUN_ATTRIBUTE_TYPE_DATA ∨ a.type = STUN_ATTRIBUTE_TYPE_USERNAME ∨
      a.type = STUN_ATTRIBUTE_TYPE_ERROR_CODE) :
    getPackagedStunAttributeSize a =
      BitVec.ofNat 16 (ROUND_UP ((16 + a.value.paddedLength) % 2 ^ 16) 8) := by
  rcases htype with h | h | h | h | h
  all_goals
    rw [getPackagedStunAttributeSize, h]
    rfl

theorem packaged_padded {a : StunAttribute} {data : Bytes} (hdata : 16 + data.length ≤ 2048)
    (htype : a.type = STUN_ATTRIBUTE_TYPE_REALM ∨ a.type = STUN_ATTRIBUTE_TYPE_NONCE ∨
      a.type = STUN_ATTRIBUTE_TYPE_DATA ∨ a.type = STUN_ATTRIBUTE_TYPE_USERNAME ∨
      a.type = STUN_ATTRIBUTE_TYPE_ERROR_CODE)
    (hvalue : a.value.paddedLength =
      (padTo (paddedLengthOf (BitVec.ofNat 16 data.length)).toNat data).length) :
    ROUND_UP data.length 4 + 4 ≤ (getPackagedStunAttributeSize a).toNat := by
  rw [length_padTo_padded (by omega)] at hvalue
  rw [getPackagedStunAttributeSize_padded htype, hvalue, BitVec.toNat_ofNat]
  simp only [ROUND_UP]
  omega

theorem messageBytes_le_packaged {c : AppendCall} (h : c.written ≤ 2048) :
    c.messageBytes ≤ (getPackagedStunAttributeSize c.attribute).toNat := by
  have hpadded : ∀ (type : UINT16) (data : Bytes), 16 + data.length ≤ 2048 →
      (type = STUN_ATTRIBUTE_TYPE_REALM ∨ type = STUN_ATTRIBUTE_TYPE_NONCE ∨
        type = STUN_ATTRIBUTE_TYPE_DATA ∨ type = STUN_ATTRIBUTE_TYPE_USERNAME ∨
        type = STUN_ATTRIBUTE_TYPE_ERROR_CODE) →
      (paddedLengthOf (paddedAttribute type data).length).toNat + 4 ≤
        (getPackagedStunAttributeSize (paddedAttribute type data)).toNat := by
    intro type data hdata htype
    rw [messageBytes_padded (by omega)]
    exact packaged_padded hdata htype rfl
  cases c with
  | address t a hfam =>
    rw [messageBytes_address]
    have hsize : (getPackagedStunAttributeSize (AppendCall.address t a hfam).attribute).toNat =
        if t = .xorRelayed then ROUND_UP (8 + a.addressLength) 8 else 32 := by
      cases t with
      | xorRelayed =>
        simp only [AppendCall.attribute, getPackagedStunAttributeSize, AddressType.type]
        rcases addressLength_cases a with h4 | h16
        · simp [h4, ROUND_UP, STUN_ATTRIBUTE_HEADER_LEN, STUN_ATTRIBUTE_ADDRESS_HEADER_LEN]
        · simp [h16, ROUND_UP, STUN_ATTRIBUTE_HEADER_LEN, STUN_ATTRIBUTE_ADDRESS_HEADER_LEN]
      | _ => simp [AppendCall.attribute, getPackagedStunAttributeSize, AddressType.type, ROUND_UP]
    have hlen := addressLength_cases a
    rw [hsize, ROUND_UP]
    split
    · omega
    · omega
  | username userName => exact hpadded _ _ h (by simp)
  | realm realm => exact hpadded _ _ h (by simp)
  | nonce nonce => exact hpadded _ _ h (by simp)
  | data data => exact hpadded _ _ h (by simp)
  | errorCode phrase code =>
    have hlen : (strnCopy phrase STUN_MAX_ERROR_PHRASE_LEN).length ≤ 2048 := by
      rw [AppendCall.written] at h
      omega
    have hbytes : (AppendCall.errorCode phrase code).messageBytes =
        ROUND_UP (strnCopy phrase STUN_MAX_ERROR_PHRASE_LEN).length 4 + 4 := by
      simp only [AppendCall.messageBytes, AppendCall.attribute, paddedLengthOf_ofNat hlen]
    rw [hbytes]
    exact packaged_padded h (by simp [AppendCall.attribute]) rfl
  | flag t =>
    cases t <;> decide
  | iceControl controlling tieBreaker =>
    cases controlling <;> simp [AppendCall.messageBytes, AppendCall.attribute, paddedLengthOf_fixed,
      getPackagedStunAttributeSize, iceControlType, ROUND_UP]
  | _ =>
    simp [AppendCall.messageBytes, AppendCall.attribute, paddedLengthOf_fixed,
      getPackagedStunAttributeSize, STUN_ATTRIBUTE_HEADER_LEN, ROUND_UP]

/-! ## The packet after the calls -/

def totalBytes (calls : List AppendCall) : Nat := (calls.map AppendCall.messageBytes).sum

@[simp] theorem totalBytes_append (calls : List AppendCall) (c : AppendCall) :
    totalBytes (calls ++ [c]) = totalBytes calls + c.messageBytes := by
  simp [totalBytes]

/-- The packet is the created one with the attributes of these calls. -/
structure Appended (stunPacketType : UINT16) (transactionId : Bytes) (p : StunPacket)
    (calls : List AppendCall) : Prop where
  header : p.header = ⟨stunPacketType, BitVec.ofNat 16 (totalBytes calls), STUN_HEADER_MAGIC_COOKIE,
    transactionId⟩
  attributeList : p.attributeList = calls.map AppendCall.attribute
  allocationSize : p.allocationSize = STUN_PACKET_ALLOCATION_SIZE
  written_le : ∀ c ∈ calls, c.written ≤ 2048
  total_le : 200 + totalBytes calls ≤ 2048
  last : ∀ before c, calls = before ++ [c] →
    ∃ offset, p.offsets.getLast? = some offset ∧ 200 + totalBytes before ≤ offset

theorem appended_create (stunPacketType : UINT16) (transactionId : Bytes) :
    Appended stunPacketType transactionId (createStunPacket stunPacketType transactionId) [] where
  header := rfl
  attributeList := rfl
  allocationSize := rfl
  written_le := by simp
  total_le := by decide
  last := by simp

section

variable {stunPacketType : UINT16} {transactionId : Bytes} {p p' : StunPacket}
  {calls : List AppendCall} {c : AppendCall}

theorem Appended.firstAvailable (h : Appended stunPacketType transactionId p calls) {offset : Nat}
    (hfirst : getFirstAvailableStunAttribute p = .ok offset) : 200 + totalBytes calls ≤ offset := by
  rw [getFirstAvailableStunAttribute] at hfirst
  split at hfirst
  case isFalse => cases hfirst
  case isTrue =>
    rcases List.eq_nil_or_concat calls with hnil | ⟨before, c, hcalls⟩
    · rw [hnil] at h ⊢
      have hlist := h.attributeList
      rw [List.map_nil] at hlist
      rw [hlist] at hfirst
      cases hfirst
      decide
    · rw [List.concat_eq_append] at hcalls
      obtain ⟨off, hoff, hbefore⟩ := h.last before c hcalls
      have hlast : p.attributeList.getLast? = some c.attribute := by
        rw [h.attributeList, hcalls]
        simp
      have hc : c.written ≤ 2048 := h.written_le c (by rw [hcalls]; simp)
      have hpackaged := messageBytes_le_packaged hc
      rw [hlast, hoff] at hfirst
      simp only at hfirst
      split at hfirst
      case isFalse => cases hfirst
      case isTrue =>
        split at hfirst
        case isFalse => cases hfirst
        case isTrue =>
          cases hfirst
          rw [hcalls, totalBytes_append]
          omega

theorem Appended.append (h : Appended stunPacketType transactionId p calls)
    (hc : c.append p = .ok p') : Appended stunPacketType transactionId p' (calls ++ [c]) := by
  obtain ⟨offset, hfirst, hroom, rfl⟩ := append_ok hc
  have hbehind := h.firstAvailable hfirst
  rw [h.allocationSize, STUN_PACKET_ALLOCATION_SIZE] at hroom
  have hwritten : c.written ≤ 2048 := by omega
  have hbytes := messageBytes_le_written hwritten
  refine ⟨?_, ?_, h.allocationSize, ?_, ?_, ?_⟩
  · simp only [h.header, totalBytes_append, BitVec.ofNat_add]
  · simp [h.attributeList]
  · intro c' hc'
    rcases List.mem_append.mp hc' with hc' | hc'
    · exact h.written_le c' hc'
    · rw [List.mem_singleton.mp hc']
      exact hwritten
  · rw [totalBytes_append]
    omega
  · intro before c' hsplit
    obtain ⟨rfl, _⟩ := List.append_inj' hsplit rfl
    exact ⟨offset, by simp, hbehind⟩

end

/-- **After the calls** the packet holds their attributes, in order. -/
theorem appended_run {stunPacketType : UINT16} {transactionId : Bytes} : ∀ (calls : List AppendCall)
    {done : List AppendCall} {p p' : StunPacket}, Appended stunPacketType transactionId p done →
    appendAll p calls = .ok p' → Appended stunPacketType transactionId p' (done ++ calls)
  | [], done, p, p', h, hrun => by
    obtain rfl : p = p' := Except.ok.inj hrun
    rwa [List.append_nil]
  | c :: calls, done, p, p', h, hrun => by
    rw [appendAll, List.foldlM_cons, bind_ok_iff] at hrun
    obtain ⟨p1, hone, hrest⟩ := hrun
    have hall := appended_run calls (h.append hone) hrest
    rwa [List.append_assoc, List.singleton_append] at hall

end KvsWebrtc.Stun
