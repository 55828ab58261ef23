import KvsWebrtc.Stun.Written

/-!
# Values read back

What the second pass of the parser makes of the items that the serialiser has written for the
append calls.  All kinds of attributes but four come back as they were appended: the relayed address
is not written at all, the peer's address is masked by the writer and not unmasked by the parser, the
error code is written two bytes too far, and the requested address family is unknown to the parser.

Principal results:

* `checkLength_call` — the first pass accepts the item of a faithful call;
* `readValue_call` — the second pass reads its value back;
* `readValue_xorPeer`, `readValue_errorCode` — two kinds that do not come back.
-/

namespace KvsWebrtc.Stun

open ByteOrder

/-! ## The kinds of the parser -/

def AppendCall.kind : AppendCall → AttributeKind
  | .address _ _ _ => .address
  | .username _ => .username
  | .priority _ => .priority
  | .flag _ => .flag
  | .lifetime _ => .lifetime
  | .changeRequest _ => .changeRequest
  | .requestedTransport _ => .requestedTransport
  | .realm _ => .realm
  | .allocationAddressFamily _ => .unknown
  | .nonce _ => .nonce
  | .errorCode _ _ => .errorCode
  | .iceControl _ _ => .iceControl
  | .data _ => .data
  | .channelNumber _ => .channelNumber

theorem kindOf_call (c : AppendCall) : kindOf c.attribute.type = c.kind := by
  cases c with
  | address t a h => cases t <;> rfl
  | flag t => cases t <;> rfl
  | iceControl controlling tieBreaker => cases controlling <;> rfl
  | _ => rfl

theorem Wrote.kind_eq {tid : Bytes} {c : AppendCall} {i : Item} (h : Wrote tid c i) :
    i.kind = c.kind := by
  rw [Item.kind, h.1, kindOf_call]

/-- The attribute of the call comes back. -/
def AppendCall.Faithful : AppendCall → Prop
  | .address t _ _ => t ≠ .xorRelayed ∧ t ≠ .xorPeer
  | .allocationAddressFamily _ => False
  | .errorCode _ _ => False
  | .nonce b => b.length ≤ STUN_MAX_NONCE_LEN
  | _ => True

/-- The values are equal; of an address, only the bytes of its family count. -/
def SameValue : AttributeValue → AttributeValue → Prop
  | .address a, .address b => a.family = b.family ∧ a.port = b.port ∧
      a.address.take a.addressLength = b.address.take a.addressLength
  | v, w => v = w

theorem SameValue.refl_of_eq {v w : AttributeValue} (h : v = w) : SameValue v w := by
  subst h
  cases v with
  | address a => exact ⟨rfl, rfl, rfl⟩
  | _ => rfl

/-! ## Addresses -/

theorem toNat_addressLength (a : KvsIpAddress) :
    (BitVec.ofNat 16 (STUN_ATTRIBUTE_ADDRESS_HEADER_LEN + a.addressLength) : UINT16).toNat =
      4 + a.addressLength := by
  rcases addressLength_cases a with h | h
  · rw [h]
    rfl
  · rw [h]
    rfl

/-- The value of an address that is not masked. -/
def addressBytes (a : KvsIpAddress) : Bytes :=
  putUnalignedInt16BigEndian a.family ++ putUnalignedInt16BigEndian a.port ++
    a.address.take a.addressLength

theorem family_addressBytes {a : KvsIpAddress}
    (h : a.family = KVS_IP_FAMILY_TYPE_IPV4 ∨ a.family = KVS_IP_FAMILY_TYPE_IPV6) :
    getUnalignedInt16BigEndian (addressBytes a) 0 &&& 0x00ff = a.family := by
  rw [addressBytes, List.append_assoc, get16_put16]
  rcases h with h | h
  · rw [h]
    decide
  · rw [h]
    decide

theorem port_addressBytes (a : KvsIpAddress) :
    getUnalignedInt16BigEndian (addressBytes a) 2 = a.port := by
  rw [addressBytes, List.append_assoc, get16_skip _ (by simp), length_put16, Nat.sub_self,
    get16_put16]

theorem address_addressBytes (a : KvsIpAddress) :
    ((addressBytes a).drop 4).take 16 = a.address.take a.addressLength := by
  have hdrop : (addressBytes a).drop 4 = a.address.take a.addressLength := by
    rw [addressBytes]
    exact List.drop_left' (by simp)
  rw [hdrop, List.take_of_length_le]
  have h16 := a.length_address
  simp only [List.length_take, h16, IPV6_ADDRESS_LENGTH]
  omega

theorem take_padTo {n m : Nat} {b : Bytes} (h : b.length = n) : (padTo m b).take n = b := by
  rw [padTo, ← h, List.take_left]

theorem length_take_address (a : KvsIpAddress) :
    (a.address.take a.addressLength).length = a.addressLength := by
  have h16 := a.length_address
  rw [List.length_take, h16, IPV6_ADDRESS_LENGTH]
  rcases addressLength_cases a with h | h
  · omega
  · omega

theorem sameValue_addressOfBytes {a : KvsIpAddress}
    (h : a.family = KVS_IP_FAMILY_TYPE_IPV4 ∨ a.family = KVS_IP_FAMILY_TYPE_IPV6) :
    SameValue (.address a) (.address (addressOfBytes (addressBytes a))) := by
  have haddr : (addressOfBytes (addressBytes a)).address =
      padTo 16 (((addressBytes a).drop 4).take 16) := rfl
  refine ⟨(family_addressBytes h).symm, (port_addressBytes a).symm, ?_⟩
  rw [haddr, address_addressBytes, take_padTo (length_take_address a)]

theorem xorBytes_xorBytes : ∀ {a m : Bytes}, a.length ≤ m.length → xorBytes (xorBytes a m) m = a
  | [], _, _ => rfl
  | x :: a, [], h => by simp at h
  | x :: a, y :: m, h => by
    have hrest := xorBytes_xorBytes (a := a) (m := m) (by simpa using h)
    simp only [xorBytes, List.zipWith_cons_cons] at hrest ⊢
    rw [hrest, BitVec.xor_assoc, BitVec.xor_self, BitVec.xor_zero]

theorem take_xorBytes (n : Nat) (a m : Bytes) :
    (xorBytes a m).take n = xorBytes (a.take n) (m.take n) := by
  rw [xorBytes, xorBytes, List.take_zipWith]

theorem sameValue_masked {a : KvsIpAddress} (tid : Bytes)
    (h : a.family = KVS_IP_FAMILY_TYPE_IPV4 ∨ a.family = KVS_IP_FAMILY_TYPE_IPV6) :
    SameValue (.address a)
      (.address (xorIpAddress (addressOfBytes (addressBytes (xorIpAddress a tid))) tid)) := by
  obtain ⟨hfam, hport, haddr⟩ := sameValue_addressOfBytes (a := xorIpAddress a tid) h
  refine ⟨hfam, ?_, ?_⟩
  · rw [xorIpAddress, ← hport, xorIpAddress, BitVec.xor_assoc, BitVec.xor_self, BitVec.xor_zero]
  · have hmask : addressMask (addressOfBytes (addressBytes (xorIpAddress a tid))).family tid =
        addressMask a.family tid := by
      rw [← hfam]
      rfl
    rw [addressLength_xorIpAddress] at haddr
    simp only [xorIpAddress] at haddr hmask ⊢
    rw [take_xorBytes, ← haddr, hmask, take_xorBytes, xorBytes_xorBytes]
    have h16 := length_addressMask a.family tid
    have hlen := length_take_address a
    simp only [List.length_take, h16] at hlen ⊢
    rcases addressLength_cases a with h4 | h4
    · omega
    · omega

/-! ## Lengths -/

theorem atMost_ok {n m : Nat} {e : STATUS} (hn : n ≤ m) (hm : m < 65536) :
    (if (BitVec.ofNat 16 n : UINT16).toNat ≤ m then .ok () else .error e : Except STATUS Unit) =
      .ok () := by
  rw [BitVec.toNat_ofNat, Nat.mod_eq_of_lt (by omega), if_pos hn]

theorem checkLength_address_ok {family length : UINT16} (h : length.toNat =
    STUN_ATTRIBUTE_ADDRESS_HEADER_LEN +
      if family = KVS_IP_FAMILY_TYPE_IPV4 then IPV4_ADDRESS_LENGTH else IPV6_ADDRESS_LENGTH) :
    checkLength .address family length = .ok () := if_pos h

/-- **The first pass** accepts the length of the item of a faithful call. -/
theorem checkLength_call {tid : Bytes} {c : AppendCall} {i : Item} (h : Wrote tid c i)
    (hc : c.Faithful) : checkLength i.kind i.family i.length = .ok () := by
  rw [h.kind_eq, h.2.1]
  cases c with
  | address t a hfam =>
    have hvalue : i.value = stunPackageIpAddr tid t.type a := h.2.2 rfl
    have hfamily : i.family = a.family := by
      rw [Item.family, h.kind_eq, AppendCall.kind, if_pos rfl, hvalue, stunPackageIpAddr]
      split
      · exact family_addressBytes (a := xorIpAddress a tid) hfam
      · exact family_addressBytes hfam
    rw [hfamily]
    apply checkLength_address_ok
    rw [AppendCall.attribute, toNat_addressLength, KvsIpAddress.addressLength, KvsIpAddress.isIpv4]
    simp
  | username userName => exact atMost_ok (length_strnCopy_le _ _) (by decide)
  | realm r => exact atMost_ok (length_strnCopy_le _ _) (by decide)
  | nonce b => exact atMost_ok hc (by decide)
  | allocationAddressFamily v => exact absurd hc id
  | errorCode phrase code => exact absurd hc id
  | _ => rfl

/-! ## Values -/

section

variable (hmac : Bytes → Bytes → Bytes) (crc32 : Bytes → UINT32) {buf : Bytes}
  (password : Option Bytes) {tid : Bytes} {o : Nat} {i : Item}

theorem readBytes_value (h : Standing buf o i) :
    readBytes buf (o + STUN_ATTRIBUTE_HEADER_LEN) i.value.length = .ok i.value := by
  have hread := h.readBytes (j := 0) (n := i.value.length) (by omega)
  simpa using hread

theorem readValue_padded (h : Standing buf o i) (hk : i.kind = .username ∨ i.kind = .realm ∨
    i.kind = .nonce ∨ i.kind = .data) :
    readValue hmac crc32 buf password tid o i.type i.length = .ok (.padded i.value) := by
  have hread := readBytes_value h
  rw [i.length_value] at hread
  rcases hk with hk | hk | hk | hk
  all_goals
    rw [Item.kind] at hk
    simp only [readValue, hk, hread, bind, Except.bind]
    rfl

theorem readValue_word (h : Standing buf o i) (hk : i.kind = .priority ∨ i.kind = .lifetime ∨
    i.kind = .changeRequest) {v : UINT32} (hv : i.value = putUnalignedInt32BigEndian v) :
    readValue hmac crc32 buf password tid o i.type i.length = .ok (.word v) := by
  have hread := h.read32 (by rw [hv, length_put32])
  have hget : getUnalignedInt32BigEndian i.value 0 = v := by
    have hput := get32_put32 v []
    rwa [List.append_nil, ← hv] at hput
  rw [hget] at hread
  rcases hk with hk | hk | hk
  all_goals
    rw [Item.kind] at hk
    simp only [readValue, hk, STUN_ATTRIBUTE_HEADER_LEN, hread, bind, Except.bind]
    rfl

theorem readValue_address (h : Standing buf o i) (hk : i.kind = .address)
    (hlen : i.length.toNat = i.value.length) :
    readValue hmac crc32 buf password tid o i.type i.length =
      .ok (.address (if i.type = STUN_ATTRIBUTE_TYPE_XOR_MAPPED_ADDRESS ∨
        i.type = STUN_ATTRIBUTE_TYPE_XOR_RELAYED_ADDRESS then
          xorIpAddress (addressOfBytes i.value) tid else addressOfBytes i.value)) := by
  have hread := readBytes_value h
  rw [← hlen] at hread
  rw [Item.kind] at hk
  simp only [readValue, hk, hread, bind, Except.bind]
  split
  · rfl
  · rfl

theorem Wrote.address_length {t : AddressType} {a : KvsIpAddress}
    {hfam : a.family = KVS_IP_FAMILY_TYPE_IPV4 ∨ a.family = KVS_IP_FAMILY_TYPE_IPV6}
    (h : Wrote tid (.address t a hfam) i) :
    i.value = stunPackageIpAddr tid t.type a ∧ i.length.toNat = i.value.length := by
  have hvalue : i.value = stunPackageIpAddr tid t.type a := h.2.2 rfl
  refine ⟨hvalue, ?_⟩
  rw [hvalue, length_stunPackageIpAddr, h.2.1]
  exact toNat_addressLength a

/-- **The second pass** reads the value of a faithful call back. -/
theorem readValue_call {c : AppendCall} (h : Standing buf o i) (hw : Wrote tid c i)
    (hc : c.Faithful) :
    ∃ v, readValue hmac crc32 buf password tid o i.type i.length = .ok v ∧
      SameValue c.attribute.value v := by
  have hkind := hw.kind_eq
  cases c with
  | address t a hfam =>
    obtain ⟨hvalue, hlen⟩ := hw.address_length
    refine ⟨_, readValue_address hmac crc32 password h hkind hlen, ?_⟩
    rw [hvalue, hw.1]
    cases t with
    | xorRelayed => exact absurd rfl hc.1
    | xorPeer => exact absurd rfl hc.2
    | xorMapped => exact sameValue_masked tid hfam
    | _ => exact sameValue_addressOfBytes hfam
  | username userName | realm r | nonce b | data b =>
    refine ⟨_, readValue_padded hmac crc32 password h (by simp [hkind, AppendCall.kind]), ?_⟩
    rw [hw.2.2 rfl]
    exact SameValue.refl_of_eq rfl
  | priority v | lifetime v | changeRequest v =>
    exact ⟨_, readValue_word hmac crc32 password h (by simp [hkind, AppendCall.kind]) (hw.2.2 rfl),
      SameValue.refl_of_eq rfl⟩
  | flag t =>
    rw [Item.kind] at hkind
    refine ⟨.none, ?_, SameValue.refl_of_eq rfl⟩
    simp only [readValue, hkind, AppendCall.kind]
    rfl
  | requestedTransport protocol =>
    have hvalue : i.value = [protocol, 0, 0, 0] := hw.2.2 rfl
    have hread := readBytes_value h
    rw [Item.kind] at hkind
    rw [hvalue] at hread
    refine ⟨.bytes [protocol, 0, 0, 0], ?_, SameValue.refl_of_eq rfl⟩
    simp only [readValue, hkind, AppendCall.kind]
    rw [show (4 : Nat) = [protocol, 0, 0, 0].length from rfl, hread]
    rfl
  | allocationAddressFamily v => exact absurd hc id
  | errorCode phrase code => exact absurd hc id
  | iceControl controlling tieBreaker =>
    have hvalue : i.value = encodeBE 8 tieBreaker.toNat := hw.2.2 rfl
    have hread := readBytes_value h
    rw [Item.kind] at hkind
    rw [hvalue, length_encodeBE] at hread
    refine ⟨.tieBreaker tieBreaker, ?_, SameValue.refl_of_eq rfl⟩
    simp only [readValue, hkind, AppendCall.kind, hread, bind, Except.bind, decodeBE_encodeBE]
    have hmod : tieBreaker.toNat % 256 ^ 8 = tieBreaker.toNat :=
      Nat.mod_eq_of_lt tieBreaker.isLt
    rw [hmod, BitVec.ofNat_toNat, BitVec.setWidth_eq]
    rfl
  | channelNumber n =>
    have hvalue : i.value = putUnalignedInt16BigEndian n ++ putUnalignedInt16BigEndian 0 := hw.2.2 rfl
    have hread := h.read16 (by rw [hvalue]; simp)
    rw [Item.kind] at hkind
    rw [hvalue, get16_put16] at hread
    refine ⟨.channelNumber n 0, ?_, SameValue.refl_of_eq rfl⟩
    simp only [readValue, hkind, AppendCall.kind, STUN_ATTRIBUTE_HEADER_LEN, hread, bind,
      Except.bind]
    rfl

theorem readValue_xorPeer {a : KvsIpAddress}
    {hfam : a.family = KVS_IP_FAMILY_TYPE_IPV4 ∨ a.family = KVS_IP_FAMILY_TYPE_IPV6}
    (h : Standing buf o i) (hw : Wrote tid (.address .xorPeer a hfam) i) {v : AttributeValue}
    (hv : readValue hmac crc32 buf password tid o i.type i.length = .ok v) :
    ¬ SameValue (.address a) v := by
  obtain ⟨hvalue, hlen⟩ := hw.address_length
  rw [readValue_address hmac crc32 password h hw.kind_eq hlen, hvalue, hw.1] at hv
  have hbytes : stunPackageIpAddr tid AddressType.xorPeer.type a =
      addressBytes (xorIpAddress a tid) := rfl
  have htype : (AppendCall.address .xorPeer a hfam).attribute.type =
      STUN_ATTRIBUTE_TYPE_XOR_PEER_ADDRESS := rfl
  rw [hbytes, htype, if_neg (by decide)] at hv
  cases hv
  rintro ⟨_, hport, _⟩
  have hmasked : a.port = a.port ^^^ 0x2112 := hport.trans (port_addressBytes (xorIpAddress a tid))
  have hzero : a.port ^^^ a.port = a.port ^^^ (a.port ^^^ 0x2112) := by rw [← hmasked]
  rw [← BitVec.xor_assoc, BitVec.xor_self, BitVec.zero_xor] at hzero
  exact absurd hzero (by decide)

theorem getElem?_padTo_left {n k : Nat} {b : Bytes} (h : k < b.length) :
    (padTo n b)[k]? = b[k]? := by
  rw [padTo, List.getElem?_append_left h]

theorem getElem?_padTo_right {n k : Nat} {b : Bytes} (h : b.length ≤ k) (hk : k < n) :
    (padTo n b)[k]? = some 0 := by
  rw [padTo, List.getElem?_append_right h, List.getElem?_replicate, if_pos (by omega)]

theorem getElem?_strnCopy_ne {s : Bytes} {n k : Nat} : (strnCopy s n)[k]? ≠ some 0 := by
  intro h
  have hmem : (0 : UINT8) ∈ strnCopy s n := List.mem_of_getElem? h
  have hmem' : (0 : UINT8) ∈ s.takeWhile (· ≠ 0) := List.mem_of_mem_take hmem
  have hall : (s.takeWhile (· ≠ 0)).all (· ≠ 0) = true := List.all_takeWhile
  have hne := List.all_eq_true.mp hall 0 hmem'
  simp at hne

theorem readValue_errorCode {phrase : Bytes} {code : UINT16}
    (hw : Wrote tid (.errorCode phrase code) i) {v : AttributeValue}
    (hwritten : (AppendCall.errorCode phrase code).written ≤ 2048)
    (hv : readValue hmac crc32 buf password tid o i.type i.length = .ok v) :
    ¬ SameValue (AppendCall.errorCode phrase code).attribute.value v := by
  obtain ⟨text, htext⟩ : ∃ text, text = strnCopy phrase STUN_MAX_ERROR_PHRASE_LEN := ⟨_, rfl⟩
  rw [AppendCall.written, ← htext] at hwritten
  have hpad : (paddedLengthOf i.length).toNat = ROUND_UP text.length 4 := by
    rw [hw.2.1, AppendCall.attribute, ← htext]
    exact paddedLengthOf_ofNat (by omega)
  have hkind := hw.kind_eq
  rw [Item.kind] at hkind
  simp only [readValue, hkind, AppendCall.kind] at hv
  obtain ⟨errorClass, _, hv⟩ := bind_ok_iff.mp hv
  obtain ⟨errorNumber, _, hv⟩ := bind_ok_iff.mp hv
  split at hv
  case isTrue => cases hv
  case isFalse hfour =>
    obtain ⟨rest, hread, hv⟩ := bind_ok_iff.mp hv
    have hrest : rest.length = (paddedLengthOf i.length).toNat - 4 := by
      rw [readBytes] at hread
      split at hread
      case isTrue hin =>
        cases hread
        simp
        omega
      case isFalse => cases hread
    rw [pure_ok_iff] at hv
    subst hv
    intro hsame
    have heq : padTo (ROUND_UP text.length 4) text = padTo (ROUND_UP text.length 4) rest := by
      have hvalue : (AppendCall.errorCode phrase code).attribute.value =
          .errorCode code (padTo (paddedLengthOf (BitVec.ofNat 16 text.length)).toNat text) := by
        rw [htext]
        rfl
      rw [hvalue, paddedLengthOf_ofNat (by omega), hpad] at hsame
      exact (AttributeValue.errorCode.inj hsame).2
    -- the byte four before the end is a character of the phrase, and zero in what was read
    have hround : text.length < ROUND_UP text.length 4 + 1 ∧ ROUND_UP text.length 4 < text.length + 4 := by
      rw [ROUND_UP]
      omega
    have hchar := getElem?_padTo_left (n := ROUND_UP text.length 4)
      (show ROUND_UP text.length 4 - 4 < text.length by omega)
    rw [heq, getElem?_padTo_right (by omega) (by omega), htext] at hchar
    exact getElem?_strnCopy_ne hchar.symm

end

end KvsWebrtc.Stun
