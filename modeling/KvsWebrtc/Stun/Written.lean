import KvsWebrtc.Stun.Append
import KvsWebrtc.Stun.Items

/-!
# The bytes of a serialised packet

What `serializeStunPacket` writes for a packet that was built by append calls: the header and one
item for every attribute that the switch knows, then the generated ones.

Principal results:

* `serializeLoop_written`, `serializeLoop_exists` — the items of the attributes;
* `Holds.generate` — a generated attribute;
* `serialize_size`, `serialize_ok`, `serialize_exists` — the two calls.
-/

namespace KvsWebrtc.Stun

open ByteOrder

/-! ## Writes -/

theorem writeAt_ok {buf buf' bs : Bytes} {off : Nat} (h : writeAt buf off bs = .ok buf') :
    buf'.length = buf.length ∧ ∀ k ≤ off, buf'.take k = buf.take k := by
  rw [writeAt] at h
  split at h
  case isFalse => cases h
  case isTrue hle =>
    cases h
    refine ⟨by simp; omega, fun k hk => ?_⟩
    rw [List.append_assoc, List.take_append_of_le_length (by simp; omega), List.take_take,
      min_eq_left hk]

theorem writeAt_append (pre : Bytes) {rest bs : Bytes} {k : Nat} (h : k + bs.length ≤ rest.length) :
    writeAt (pre ++ rest) (pre.length + k) bs =
      .ok (pre ++ (rest.take k ++ bs ++ rest.drop (k + bs.length))) := by
  rw [writeAt, if_pos (by simp; omega), Nat.add_assoc, List.take_length_add_append,
    List.drop_length_add_append]
  simp

theorem writeAll_ok {off k : Nat} : ∀ {ws : List (Nat × Bytes)} {buf buf' : Bytes},
    writeAll buf off ws = .ok buf' → (∀ w ∈ ws, k ≤ w.1) →
    buf'.length = buf.length ∧ buf'.take (off + k) = buf.take (off + k)
  | [], buf, buf', h, _ => by
    cases h
    exact ⟨rfl, rfl⟩
  | w :: ws, buf, buf', h, hk => by
    obtain ⟨buf1, hone, hrest⟩ := bind_ok_iff.mp h
    obtain ⟨hlen, htake⟩ := writeAt_ok hone
    obtain ⟨hlen', htake'⟩ := writeAll_ok hrest fun w' hw => hk w' (List.mem_cons_of_mem w hw)
    have hw : k ≤ w.1 := hk w (by simp)
    exact ⟨hlen'.trans hlen, htake'.trans (htake (off + k) (by omega))⟩

theorem writeAll_value (pre : Bytes) {rest v : Bytes} (type length : UINT16) (n : Nat)
    (h : 4 + v.length ≤ rest.length) :
    writeAll (pre ++ rest) pre.length (packageValue type length n v).writes =
      .ok (pre ++ (packageAttrHeader type length ++ v ++ rest.drop (4 + v.length))) := by
  have hhead : writeAt (pre ++ rest) (pre.length + 0) (packageAttrHeader type length) =
      .ok (pre ++ (packageAttrHeader type length ++ rest.drop 4)) := by
    rw [writeAt_append _ (by simp; omega)]
    simp
  have hvalue : writeAt (pre ++ (packageAttrHeader type length ++ rest.drop 4))
      (pre.length + STUN_ATTRIBUTE_HEADER_LEN) v =
      .ok (pre ++ (packageAttrHeader type length ++ v ++ rest.drop (4 + v.length))) := by
    rw [writeAt_append _ (by simp; omega)]
    simp [List.drop_append]
  simp only [packageValue, writeAll, hhead, bind, Except.bind, hvalue]

/-! ## What is sent of a call -/

/-- The relayed address is not in the switch. -/
def AppendCall.isSkipped : AppendCall → Bool
  | .address .xorRelayed _ _ => true
  | _ => false

def AppendCall.isErrorCode : AppendCall → Bool
  | .errorCode _ _ => true
  | _ => false

/-- The value of an attribute on the wire; that of an error code is garbled. -/
def valueBytes (transactionId : Bytes) (a : StunAttribute) : Bytes :=
  match a.value with
  | .address ip => stunPackageIpAddr transactionId a.type ip
  | .padded data => data
  | .word v => putUnalignedInt32BigEndian v
  | .bytes b => b
  | .tieBreaker v => encodeBE 8 v.toNat
  | .channelNumber n reserve => putUnalignedInt16BigEndian n ++ putUnalignedInt16BigEndian reserve
  | .none | .errorCode _ _ => []

def AppendCall.sentBytes (c : AppendCall) : Nat := if c.isSkipped then 0 else c.messageBytes

def totalSent (calls : List AppendCall) : Nat := (calls.map AppendCall.sentBytes).sum

@[simp] theorem addressLength_xorIpAddress (a : KvsIpAddress) (transactionId : Bytes) :
    (xorIpAddress a transactionId).addressLength = a.addressLength := rfl

theorem length_stunPackageIpAddr (transactionId : Bytes) (type : UINT16) (a : KvsIpAddress) :
    (stunPackageIpAddr transactionId type a).length = 4 + a.addressLength := by
  have hlen : ∀ b : KvsIpAddress, (b.address.take b.addressLength).length = b.addressLength := by
    intro b
    have h16 := b.length_address
    rw [List.length_take, h16, IPV6_ADDRESS_LENGTH]
    rcases addressLength_cases b with h | h
    · omega
    · omega
  simp only [stunPackageIpAddr, List.length_append, length_put16, hlen]
  split
  · simp only [addressLength_xorIpAddress]
  · rfl

theorem length_valueBytes {c : AppendCall} (transactionId : Bytes) (hc : c.isErrorCode = false)
    (hwritten : c.written ≤ 2048) :
    (valueBytes transactionId c.attribute).length = (paddedLengthOf c.attribute.length).toNat := by
  have hpadded : ∀ (type : UINT16) (data : Bytes), 16 + data.length ≤ 2048 →
      (valueBytes transactionId (paddedAttribute type data)).length =
        (paddedLengthOf (paddedAttribute type data).length).toNat := by
    intro type data hdata
    rw [messageBytes_padded (by omega)]
    exact length_padTo_padded (by omega)
  cases c with
  | address t a h =>
    have hbytes := messageBytes_address t a h
    rw [AppendCall.messageBytes] at hbytes
    have hlen := length_stunPackageIpAddr transactionId t.type a
    simp only [AppendCall.attribute, valueBytes] at hbytes ⊢
    omega
  | username userName => exact hpadded _ _ hwritten
  | realm r => exact hpadded _ _ hwritten
  | nonce b => exact hpadded _ _ hwritten
  | data b => exact hpadded _ _ hwritten
  | errorCode phrase code => cases hc
  | _ => simp [AppendCall.attribute, valueBytes, paddedLengthOf_fixed]

theorem package_skipped {c : AppendCall} (transactionId : Bytes) (hc : c.isSkipped = true) :
    packageAttribute transactionId c.attribute = some ⟨0, []⟩ := by
  cases c with
  | address t a h =>
    cases t with
    | xorRelayed => rfl
    | _ => cases hc
  | _ => cases hc

theorem package_value {c : AppendCall} (transactionId : Bytes) (hskip : c.isSkipped = false)
    (herr : c.isErrorCode = false) :
    packageAttribute transactionId c.attribute =
      some (packageValue c.attribute.type c.attribute.length
        (valueBytes transactionId c.attribute).length (valueBytes transactionId c.attribute)) := by
  cases c with
  | address t a h =>
    have hlen := length_stunPackageIpAddr transactionId t.type a
    have hvalue : valueBytes transactionId (AppendCall.address t a h).attribute =
        stunPackageIpAddr transactionId t.type a := rfl
    rw [hvalue, hlen]
    cases t with
    | xorRelayed => cases hskip
    | _ => rfl
  | errorCode phrase code => cases herr
  | flag t => cases t <;> rfl
  | iceControl controlling tieBreaker =>
    cases controlling <;> simp [AppendCall.attribute, valueBytes] <;> rfl
  | _ => rfl

/-- The case of the switch that a call's attribute is written by. -/
def AppendCall.writeKind : AppendCall → WriteKind
  | .address .xorRelayed _ _ => .skipped
  | .address _ _ _ => .address
  | .username _ | .realm _ | .nonce _ | .data _ => .padded
  | .priority _ | .lifetime _ | .changeRequest _ => .word
  | .flag _ => .flag
  | .requestedTransport _ | .allocationAddressFamily _ => .bytes
  | .errorCode _ _ => .errorCode
  | .iceControl _ _ => .iceControl
  | .channelNumber _ => .channelNumber

theorem writeKindOf_call (c : AppendCall) : writeKindOf c.attribute.type = c.writeKind := by
  cases c with
  | address t a h => cases t <;> rfl
  | flag t => cases t <;> rfl
  | iceControl controlling tieBreaker => cases controlling <;> rfl
  | _ => rfl

theorem order_call (c : AppendCall) {s : Serial} (count i : Nat) (hfp : s.fingerprintFound = false)
    (hmi : s.messageIntegrityFound = false) :
    s.order count i (writeKindOf c.attribute.type) = .ok s := by
  rw [writeKindOf_call]
  cases c with
  | address t a h => cases t <;> simp [AppendCall.writeKind, Serial.order, hfp, hmi]
  | _ => simp [AppendCall.writeKind, Serial.order, hfp, hmi]

/-! ## The attributes -/

/-- The buffer is `pre`, which has been written, and `rest`. -/
structure Holds (s : Serial) (pre rest : Bytes) : Prop where
  buffer : s.buffer = some (pre ++ rest)
  position : s.position = pre.length
  remaining : s.remaining = rest.length
  fingerprintFound : s.fingerprintFound = false
  messageIntegrityFound : s.messageIntegrityFound = false

/-- The item that is written for a call. -/
def Wrote (transactionId : Bytes) (c : AppendCall) (i : Item) : Prop :=
  i.type = c.attribute.type ∧ i.length = c.attribute.length ∧
    (c.isErrorCode = false → i.value = valueBytes transactionId c.attribute)

section

variable {transactionId pre rest : Bytes} {s s' : Serial}

theorem Holds.advance_value (h : Holds s pre rest) (item : Item)
    (hroom : item.bytes.length ≤ rest.length) :
    ∃ s1, s.advance (packageValue item.type item.length item.value.length item.value) = .ok s1 ∧
      Holds s1 (pre ++ item.bytes) (rest.drop item.bytes.length) ∧ s1.packetSize = s.packetSize := by
  rw [Item.length_bytes] at hroom
  have hwrite := writeAll_value pre item.type item.length item.value.length hroom
  refine ⟨{ s with
    buffer := some (pre ++ (packageAttrHeader item.type item.length ++ item.value ++
      rest.drop (4 + item.value.length)))
    position := s.position + (4 + item.value.length)
    remaining := s.remaining - (4 + item.value.length) }, ?_, ?_, rfl⟩
  · simp only [Serial.advance, h.buffer]
    rw [if_pos (by rw [h.remaining]; exact hroom), h.position, hwrite]
    rfl
  · refine ⟨?_, ?_, ?_, h.fingerprintFound, h.messageIntegrityFound⟩
    · simp [Item.bytes]
    · simp [h.position]
    · simp [h.remaining]

/-- The item of a call that is not an error code. -/
def itemOf (transactionId : Bytes) (c : AppendCall) (herr : c.isErrorCode = false)
    (hwritten : c.written ≤ 2048) : Item :=
  ⟨c.attribute.type, c.attribute.length, valueBytes transactionId c.attribute,
    length_valueBytes transactionId herr hwritten⟩

theorem serializeAttribute_eq {c : AppendCall} (count i : Nat) (h : Holds s pre rest)
    {pkg : Package} (hpkg : packageAttribute transactionId c.attribute = some pkg) :
    serializeAttribute transactionId count i c.attribute s = s.advance pkg := by
  rw [serializeAttribute, order_call c count i h.fingerprintFound h.messageIntegrityFound, hpkg]

theorem Holds.advance_skipped (h : Holds s pre rest) : s.advance ⟨0, []⟩ = .ok s := by
  obtain ⟨buffer, _, _, _, _, _⟩ := s
  have hbuf : buffer = some (pre ++ rest) := h.buffer
  rw [hbuf]
  rfl

theorem Wrote.length_bytes {c : AppendCall} {i : Item} (h : Wrote transactionId c i) :
    i.bytes.length = c.messageBytes := by
  rw [Item.length_bytes, i.length_value, h.2.1, AppendCall.messageBytes, Nat.add_comm]

variable (transactionId) in
theorem serializeAttribute_value {c : AppendCall} (count i : Nat) (h : Holds s pre rest)
    (hwritten : c.written ≤ 2048) (hskip : c.isSkipped = false) (herr : c.isErrorCode = false)
    (hroom : c.messageBytes ≤ rest.length) :
    ∃ s1 item rest', serializeAttribute transactionId count i c.attribute s = .ok s1 ∧
      Holds s1 (pre ++ item.bytes) rest' ∧ Wrote transactionId c item ∧
      rest'.length + c.messageBytes = rest.length ∧ s1.packetSize = s.packetSize := by
  have hwrote : Wrote transactionId c (itemOf transactionId c herr hwritten) :=
    ⟨rfl, rfl, fun _ => rfl⟩
  have hlen := hwrote.length_bytes
  obtain ⟨s1, hadv, hholds, hsize⟩ := h.advance_value (itemOf transactionId c herr hwritten)
    (by omega)
  refine ⟨s1, _, _, ?_, hholds, hwrote, ?_, hsize⟩
  · rw [serializeAttribute_eq count i h (package_value transactionId hskip herr)]
    exact hadv
  · rw [hlen, List.length_drop]
    omega

/-- The header of an error code is written, whatever becomes of its value. -/
theorem serializeAttribute_errorCode {phrase : Bytes} {code : UINT16} (count i : Nat)
    (h : Holds s pre rest)
    (hok : serializeAttribute transactionId count i (AppendCall.errorCode phrase code).attribute s =
      .ok s') (hwritten : (AppendCall.errorCode phrase code).written ≤ 2048) :
    ∃ item rest', Holds s' (pre ++ item.bytes) rest' ∧
      Wrote transactionId (.errorCode phrase code) item ∧
      rest'.length + (AppendCall.errorCode phrase code).messageBytes = rest.length ∧
      s'.packetSize = s.packetSize := by
  obtain ⟨attr, hattr⟩ : ∃ attr, attr = (AppendCall.errorCode phrase code).attribute := ⟨_, rfl⟩
  obtain ⟨text, htext⟩ : ∃ text, text =
    padTo (paddedLengthOf attr.length).toNat (strnCopy phrase STUN_MAX_ERROR_PHRASE_LEN) := ⟨_, rfl⟩
  have hlen : text.length = (paddedLengthOf attr.length).toNat := by
    rw [AppendCall.written] at hwritten
    rw [htext, hattr, AppendCall.attribute, length_padTo_padded (by omega),
      paddedLengthOf_ofNat (by omega)]
  have hpkg : packageAttribute transactionId attr = some ⟨4 + text.length,
      [(0, packageAttrHeader attr.type attr.length), (8, putUnalignedInt16BigEndian code),
        (6, text)]⟩ := by
    rw [htext, hattr]
    rfl
  rw [← hattr, serializeAttribute, hattr,
    order_call _ count i h.fingerprintFound h.messageIntegrityFound, ← hattr, hpkg] at hok
  simp only [Serial.advance, h.buffer] at hok
  split at hok
  case isFalse => cases hok
  case isTrue hroom =>
    rw [h.remaining] at hroom
    obtain ⟨buf, hwrites, hret⟩ := bind_ok_iff.mp hok
    rw [pure_ok_iff] at hret
    obtain ⟨buf1, hhead, hrest⟩ := bind_ok_iff.mp hwrites
    rw [h.position, writeAt_append _ (by simp; omega)] at hhead
    cases hhead
    obtain ⟨hlength, htake⟩ := writeAll_ok (k := 4) hrest (by simp)
    rw [h.position] at htake
    -- the header stands, and the rest has the length it had
    have hbuf : buf = pre ++ (packageAttrHeader attr.type attr.length ++ buf.drop (pre.length + 4)) := by
      conv_lhs => rw [← List.take_append_drop (pre.length + 4) buf, htake]
      simp [List.take_append]
    have hbuflen : buf.length = pre.length + rest.length := by
      rw [hlength]
      simp
      omega
    refine ⟨⟨attr.type, attr.length, (buf.drop (pre.length + 4)).take text.length, ?_⟩,
      (buf.drop (pre.length + 4)).drop text.length, ?_, ⟨?_, ?_, fun herr => ?_⟩, ?_, ?_⟩
    · rw [← hlen]
      simp
      omega
    · rw [← hret]
      refine ⟨?_, ?_, ?_, h.fingerprintFound, h.messageIntegrityFound⟩
      · simp only [Item.bytes]
        rw [List.append_assoc, List.append_assoc, List.take_append_drop, ← hbuf]
      · simp [h.position]
        omega
      · simp [h.remaining]
        omega
    · rw [← hattr]
    · rw [← hattr]
    · cases herr
    · rw [AppendCall.messageBytes, ← hattr, ← hlen]
      simp
      omega
    · rw [← hret]

theorem Holds.room (h : Holds s pre rest) {pkg : Package} (hok : s.advance pkg = .ok s') :
    pkg.encodedLen ≤ rest.length := by
  simp only [Serial.advance, h.buffer] at hok
  split at hok
  case isTrue hroom => rwa [h.remaining] at hroom
  case isFalse => cases hok

theorem serializeAttribute_written {c : AppendCall} (count i : Nat) (h : Holds s pre rest)
    (hwritten : c.written ≤ 2048) (hskip : c.isSkipped = false)
    (hok : serializeAttribute transactionId count i c.attribute s = .ok s') :
    ∃ item rest', Holds s' (pre ++ item.bytes) rest' ∧ Wrote transactionId c item ∧
      rest'.length + c.messageBytes = rest.length ∧ s'.packetSize = s.packetSize := by
  by_cases herr : c.isErrorCode = false
  · have hpkg := package_value transactionId hskip herr
    have hroom : c.messageBytes ≤ rest.length := by
      rw [serializeAttribute_eq count i h hpkg] at hok
      have hroom := h.room hok
      rw [packageValue, length_valueBytes transactionId herr hwritten] at hroom
      rw [AppendCall.messageBytes, Nat.add_comm]
      exact hroom
    obtain ⟨s1, item, rest', hok', hitem⟩ := serializeAttribute_value transactionId count i h
      hwritten hskip herr hroom
    rw [hok] at hok'
    cases hok'
    exact ⟨item, rest', hitem⟩
  · cases c with
    | errorCode phrase code => exact serializeAttribute_errorCode count i h hok hwritten
    | _ => exact absurd rfl herr

theorem totalSent_cons (c : AppendCall) (calls : List AppendCall) :
    totalSent (c :: calls) = c.sentBytes + totalSent calls := by
  simp [totalSent]

/-- The calls whose attributes are sent. -/
def sentCalls (calls : List AppendCall) : List AppendCall := calls.filter fun c => !c.isSkipped

/-- **The attributes.**  If the loop succeeds, it has written an item for every call that is sent. -/
theorem serializeLoop_written (count : Nat) : ∀ (calls : List AppendCall) (i : Nat) (s : Serial)
    (pre rest : Bytes), (∀ c ∈ calls, c.written ≤ 2048) → Holds s pre rest →
    serializeLoop transactionId count i (calls.map AppendCall.attribute) s = .ok s' →
    ∃ items rest', Holds s' (pre ++ bodyOf items) rest' ∧
      List.Forall₂ (Wrote transactionId) (sentCalls calls) items ∧
      rest'.length + totalSent calls = rest.length ∧ s'.packetSize = s.packetSize
  | [], i, s, pre, rest, _, h, hok => by
    obtain rfl : s = s' := Except.ok.inj hok
    refine ⟨[], rest, ?_, .nil, rfl, rfl⟩
    simpa using h
  | c :: calls, i, s, pre, rest, hwritten, h, hok => by
    obtain ⟨s1, hone, hrest⟩ := bind_ok_iff.mp hok
    have hloop := fun pre rest => serializeLoop_written count calls (i + 1) s1 pre rest
      fun c' hc' => hwritten c' (List.mem_cons_of_mem c hc')
    by_cases hskip : c.isSkipped = true
    · rw [serializeAttribute_eq count i h (package_skipped transactionId hskip),
        h.advance_skipped] at hone
      cases hone
      have hsent : sentCalls (c :: calls) = sentCalls calls := by simp [sentCalls, hskip]
      rw [hsent, totalSent_cons, AppendCall.sentBytes, if_pos hskip, Nat.zero_add]
      exact hloop pre rest h hrest
    · have hsent : sentCalls (c :: calls) = c :: sentCalls calls := by simp [sentCalls, hskip]
      obtain ⟨item, rest1, hholds, hwrote, hlen, hsize⟩ := serializeAttribute_written count i h
        (hwritten c (by simp)) (by simpa using hskip) hone
      obtain ⟨items, rest', hholds', hall, hlen', hsize'⟩ := hloop _ _ hholds hrest
      refine ⟨item :: items, rest', ?_, ?_, ?_, hsize'.trans hsize⟩
      · rwa [bodyOf_cons, ← List.append_assoc]
      · rw [hsent]
        exact .cons hwrote hall
      · rw [totalSent_cons, AppendCall.sentBytes, if_neg hskip]
        omega

theorem length_bodyOf_wrote : ∀ {calls : List AppendCall} {items : List Item},
    List.Forall₂ (Wrote transactionId) (sentCalls calls) items →
    (bodyOf items).length = totalSent calls
  | [], [], _ => rfl
  | c :: calls, items, h => by
    rw [totalSent_cons, AppendCall.sentBytes]
    by_cases hskip : c.isSkipped = true
    · have hsent : sentCalls (c :: calls) = sentCalls calls := by simp [sentCalls, hskip]
      rw [hsent] at h
      rw [if_pos hskip, length_bodyOf_wrote h, Nat.zero_add]
    · have hsent : sentCalls (c :: calls) = c :: sentCalls calls := by simp [sentCalls, hskip]
      rw [hsent] at h
      obtain ⟨i, is, hone, hrest, rfl⟩ := List.forall₂_cons_left_iff.mp h
      rw [if_neg hskip, bodyOf_cons, List.length_append, hone.length_bytes, length_bodyOf_wrote hrest]

variable (transactionId) in
theorem serializeLoop_exists (count : Nat) : ∀ (calls : List AppendCall) (i : Nat) (s : Serial)
    (pre rest : Bytes), (∀ c ∈ calls, c.written ≤ 2048 ∧ c.isErrorCode = false) →
    Holds s pre rest → totalSent calls ≤ rest.length →
    ∃ s', serializeLoop transactionId count i (calls.map AppendCall.attribute) s = .ok s'
  | [], i, s, pre, rest, _, _, _ => ⟨s, rfl⟩
  | c :: calls, i, s, pre, rest, hall, h, hroom => by
    obtain ⟨hwritten, herr⟩ := hall c (by simp)
    have hloop := fun s pre rest => serializeLoop_exists count calls (i + 1) s pre rest
      fun c' hc' => hall c' (List.mem_cons_of_mem c hc')
    rw [totalSent_cons, AppendCall.sentBytes] at hroom
    by_cases hskip : c.isSkipped = true
    · rw [if_pos hskip] at hroom
      obtain ⟨s', hs'⟩ := hloop s pre rest h (by omega)
      refine ⟨s', bind_ok_iff.mpr ⟨s, ?_, hs'⟩⟩
      rw [serializeAttribute_eq count i h (package_skipped transactionId hskip), h.advance_skipped]
    · rw [if_neg hskip] at hroom
      obtain ⟨s1, item, rest', hone, hholds, _, hlen, _⟩ := serializeAttribute_value transactionId
        count i h hwritten (by simpa using hskip) herr (by omega)
      obtain ⟨s', hs'⟩ := hloop s1 _ _ hholds (by omega)
      exact ⟨s', bind_ok_iff.mpr ⟨s1, hone, hs'⟩⟩

end

/-! ## The size -/

theorem package_encodedLen {c : AppendCall} (transactionId : Bytes) (hwritten : c.written ≤ 2048) :
    ∃ pkg, packageAttribute transactionId c.attribute = some pkg ∧ pkg.encodedLen = c.sentBytes := by
  rw [AppendCall.sentBytes]
  by_cases hskip : c.isSkipped = true
  · exact ⟨_, package_skipped transactionId hskip, by rw [if_pos hskip]⟩
  · rw [if_neg hskip, AppendCall.messageBytes, Nat.add_comm]
    by_cases herr : c.isErrorCode = false
    · refine ⟨_, package_value transactionId (by simpa using hskip) herr, ?_⟩
      rw [packageValue, length_valueBytes transactionId herr hwritten]
    · cases c with
      | errorCode phrase code =>
        refine ⟨_, rfl, ?_⟩
        rw [AppendCall.written] at hwritten
        simp only [AppendCall.attribute]
        rw [length_padTo_padded (by omega), paddedLengthOf_ofNat (by omega)]
      | _ => exact absurd rfl herr

theorem serializeLoop_size (transactionId : Bytes) (count : Nat) : ∀ (calls : List AppendCall)
    (i : Nat) (size : Nat), (∀ c ∈ calls, c.written ≤ 2048) →
    serializeLoop transactionId count i (calls.map AppendCall.attribute)
      ⟨none, size, 0, 0, false, false⟩ = .ok ⟨none, size + totalSent calls, 0, 0, false, false⟩
  | [], i, size, _ => rfl
  | c :: calls, i, size, hwritten => by
    obtain ⟨pkg, hpkg, hlen⟩ := package_encodedLen transactionId (hwritten c (by simp))
    have hone : serializeAttribute transactionId count i c.attribute
        ⟨none, size, 0, 0, false, false⟩ =
        .ok ⟨none, size + c.sentBytes, 0, 0, false, false⟩ := by
      rw [serializeAttribute, order_call c count i rfl rfl, hpkg]
      simp only [Serial.advance, hlen]
    rw [List.map_cons, serializeLoop, hone]
    have hrest := serializeLoop_size transactionId count calls (i + 1) (size + c.sentBytes)
      fun c' hc' => hwritten c' (List.mem_cons_of_mem c hc')
    rw [totalSent_cons, ← Nat.add_assoc]
    exact hrest

/-! ## The header and the generated attributes -/

/-- The header of a message with the two bytes of its length. -/
def headerBytes (stunMessageType : UINT16) (length transactionId : Bytes) : Bytes :=
  putUnalignedInt16BigEndian stunMessageType ++
    (length ++ (putUnalignedInt32BigEndian STUN_HEADER_MAGIC_COOKIE ++ transactionId))

/-- The two bytes of a length. -/
def lengthBytes (n : Nat) : Bytes := putUnalignedInt16BigEndian (BitVec.ofNat 16 n)

def message (stunMessageType : UINT16) (transactionId : Bytes) (items : List Item) : Bytes :=
  headerBytes stunMessageType (lengthBytes (bodyOf items).length) transactionId ++ bodyOf items

@[simp] theorem length_lengthBytes (n : Nat) : (lengthBytes n).length = 2 := by
  simp [lengthBytes]

theorem length_headerBytes {ty : UINT16} {l tid : Bytes} (hl : l.length = 2)
    (htid : tid.length = 12) : (headerBytes ty l tid).length = 20 := by
  simp [headerBytes, hl, htid]

theorem writeAt_mid (a : Bytes) {b : Bytes} (c bs : Bytes) (h : b.length = bs.length) :
    writeAt (a ++ (b ++ c)) a.length bs = .ok (a ++ (bs ++ c)) := by
  rw [writeAt, if_pos (by simp; omega)]
  simp [List.drop_append, ← h]

theorem writeAt_length (ty : UINT16) {l : Bytes} (tid x : Bytes) (n : Nat) (hl : l.length = 2) :
    writeAt (headerBytes ty l tid ++ x) 2 (lengthBytes n) =
      .ok (headerBytes ty (lengthBytes n) tid ++ x) := by
  have hmid := writeAt_mid (putUnalignedInt16BigEndian ty) (b := l)
    (putUnalignedInt32BigEndian STUN_HEADER_MAGIC_COOKIE ++ tid ++ x) (lengthBytes n) (by simp [hl])
  simpa [headerBytes] using hmid

section

variable {ty : UINT16} {l tid rest : Bytes} {s : Serial} {items : List Item}

/-- **A generated attribute** stands behind the others, over the bytes before it with its length. -/
theorem Holds.generate (h : Holds s (headerBytes ty l tid ++ bodyOf items) rest) (hl : l.length = 2)
    (htid : tid.length = 12) (item : Item) (n : Nat) (value : Bytes → Bytes)
    (hlength : item.length = BitVec.ofNat 16 n) (hn : item.value.length = n)
    (hvalue : item.value =
      value (headerBytes ty (lengthBytes ((bodyOf items).length + (4 + n))) tid ++ bodyOf items))
    (hroom : 4 + n ≤ rest.length) (hsmall : (bodyOf items).length < 65516) :
    ∃ s' l', s.generate item.type n value = .ok s' ∧ l'.length = 2 ∧
      Holds s' (headerBytes ty l' tid ++ bodyOf (items ++ [item])) (rest.drop (4 + n)) ∧
      s'.packetSize = s.packetSize := by
  have hpos : s.position = 20 + (bodyOf items).length := by
    rw [h.position, List.length_append, length_headerBytes hl htid]
  have hfield : s.position + (STUN_ATTRIBUTE_HEADER_LEN + n) - STUN_HEADER_LEN =
      (bodyOf items).length + (4 + n) := by
    simp only [hpos, STUN_ATTRIBUTE_HEADER_LEN, STUN_HEADER_LEN]
    omega
  obtain ⟨l', hl'⟩ : ∃ l', l' = lengthBytes ((bodyOf items).length + (4 + n)) := ⟨_, rfl⟩
  have hlen' : (headerBytes ty l' tid ++ bodyOf items).length = s.position := by
    rw [List.length_append, length_headerBytes (by rw [hl']; simp) htid, hpos]
  obtain ⟨hdr, hhdr⟩ : ∃ hdr, hdr = packageAttrHeader item.type (BitVec.ofNat 16 n) := ⟨_, rfl⟩
  have hhdrlen : hdr.length = 4 := by rw [hhdr, length_packageAttrHeader]
  -- the three writes
  have hhead : writeAt (headerBytes ty l tid ++ bodyOf items ++ rest) s.position hdr =
      .ok (headerBytes ty l tid ++ (bodyOf items ++ (hdr ++ rest.drop 4))) := by
    have hwrite := writeAt_append (headerBytes ty l tid ++ bodyOf items)
      (show 0 + hdr.length ≤ rest.length by omega)
    rw [h.position]
    simpa [hhdrlen] using hwrite
  have hpatch := writeAt_length ty tid (bodyOf items ++ (hdr ++ rest.drop 4))
    ((bodyOf items).length + (4 + n)) hl
  rw [← hl'] at hpatch
  have hcovered : (headerBytes ty l' tid ++ (bodyOf items ++ (hdr ++ rest.drop 4))).take
      (BitVec.ofNat 16 s.position).toNat = headerBytes ty l' tid ++ bodyOf items := by
    rw [BitVec.toNat_ofNat, Nat.mod_eq_of_lt (by omega), ← List.append_assoc, ← hlen',
      List.take_left]
  have hlast : writeAt (headerBytes ty l' tid ++ (bodyOf items ++ (hdr ++ rest.drop 4)))
      (s.position + STUN_ATTRIBUTE_HEADER_LEN) item.value =
      .ok (headerBytes ty l' tid ++ (bodyOf items ++ (hdr ++ (item.value ++ rest.drop (4 + n))))) := by
    have hwrite := writeAt_append (headerBytes ty l' tid ++ bodyOf items)
      (show 4 + item.value.length ≤ (hdr ++ rest.drop 4).length by simp; omega)
    have hnil : hdr.drop (4 + n) = [] := List.drop_eq_nil_of_le (by omega)
    rw [hlen'] at hwrite
    simpa [hhdrlen, hn, List.take_append, List.drop_append, hnil] using hwrite
  refine ⟨{ s with
    buffer := some (headerBytes ty l' tid ++
      (bodyOf items ++ (hdr ++ (item.value ++ rest.drop (4 + n)))))
    position := s.position + (4 + n)
    remaining := s.remaining - (4 + n) }, l', ?_, by rw [hl']; simp, ?_, rfl⟩
  · simp only [Serial.generate, h.buffer]
    rw [if_pos (by rw [h.remaining]; exact hroom), ← hhdr, hhead, hfield, ← lengthBytes, ← hl']
    simp only [bind, Except.bind, hpatch]
    rw [hcovered, hl', ← hvalue, ← hl', hlast]
    rfl
  · refine ⟨?_, ?_, ?_, h.fingerprintFound, h.messageIntegrityFound⟩
    · simp [Item.bytes, hhdr, hlength]
    · simp only [bodyOf_append, bodyOf_cons, bodyOf_nil, List.append_nil, Item.bytes, ← hlen',
        List.length_append, length_packageAttrHeader, hn]
      omega
    · simp [h.remaining]

end

section

variable (hmac : Bytes → Bytes → Bytes) (crc32 : Bytes → UINT32) (ty : UINT16) (tid : Bytes)

/-- MESSAGE-INTEGRITY behind these items. -/
def integrityItem (hlen : ∀ k m, (hmac k m).length = STUN_HMAC_VALUE_LEN) (password : Bytes)
    (items : List Item) : Item where
  type := STUN_ATTRIBUTE_TYPE_MESSAGE_INTEGRITY
  length := BitVec.ofNat 16 STUN_HMAC_VALUE_LEN
  value := hmac password
    (headerBytes ty (lengthBytes ((bodyOf items).length + (4 + STUN_HMAC_VALUE_LEN))) tid ++
      bodyOf items)
  length_value := by
    rw [hlen]
    decide

/-- FINGERPRINT behind these items. -/
def fingerprintItem (items : List Item) : Item where
  type := STUN_ATTRIBUTE_TYPE_FINGERPRINT
  length := BitVec.ofNat 16 STUN_ATTRIBUTE_FINGERPRINT_LEN
  value := putUnalignedInt32BigEndian
    (crc32 (headerBytes ty (lengthBytes ((bodyOf items).length +
      (4 + STUN_ATTRIBUTE_FINGERPRINT_LEN))) tid ++ bodyOf items) ^^^
      STUN_FINGERPRINT_ATTRIBUTE_XOR_VALUE)
  length_value := by
    rw [length_put32]
    decide

def withIntegrity (hlen : ∀ k m, (hmac k m).length = STUN_HMAC_VALUE_LEN) (password : Bytes)
    (generate : Bool) (items : List Item) : List Item :=
  if generate then items ++ [integrityItem hmac ty tid hlen password items] else items

def withFingerprint (generate : Bool) (items : List Item) : List Item :=
  if generate then items ++ [fingerprintItem crc32 ty tid items] else items

/-- The bytes of the generated attributes. -/
def generatedBytes (generateMessageIntegrity generateFingerprint : Bool) : Nat :=
  (if generateMessageIntegrity then 4 + STUN_HMAC_VALUE_LEN else 0) +
    if generateFingerprint then 4 + STUN_ATTRIBUTE_FINGERPRINT_LEN else 0

end

section

variable {hmac : Bytes → Bytes → Bytes} {crc32 : Bytes → UINT32} {ty : UINT16}
  {l tid rest : Bytes} {s : Serial} {items : List Item}

theorem Holds.integrity (hlen : ∀ k m, (hmac k m).length = STUN_HMAC_VALUE_LEN)
    (password : Bytes) (mi : Bool) (h : Holds s (headerBytes ty l tid ++ bodyOf items) rest)
    (hl : l.length = 2) (htid : tid.length = 12) (hroom : generatedBytes mi false ≤ rest.length)
    (hsmall : (bodyOf items).length < 65516) :
    ∃ s' l', s.generateMessageIntegrity hmac mi password = .ok s' ∧ l'.length = 2 ∧
      Holds s' (headerBytes ty l' tid ++ bodyOf (withIntegrity hmac ty tid hlen password mi items))
        (rest.drop (generatedBytes mi false)) ∧ s'.packetSize = s.packetSize := by
  cases mi with
  | false =>
    refine ⟨s, l, rfl, hl, ?_, rfl⟩
    simpa [withIntegrity, generatedBytes] using h
  | true =>
    exact h.generate hl htid (integrityItem hmac ty tid hlen password items) STUN_HMAC_VALUE_LEN
      (hmac password) rfl (hlen _ _) rfl hroom hsmall

theorem Holds.fingerprint (crc32 : Bytes → UINT32) (fp : Bool) (h : Holds s (headerBytes ty l tid ++ bodyOf items) rest)
    (hl : l.length = 2) (htid : tid.length = 12) (hroom : generatedBytes false fp ≤ rest.length)
    (hsmall : (bodyOf items).length < 65516) :
    ∃ s' l', s.generateFingerprint crc32 fp = .ok s' ∧ l'.length = 2 ∧
      Holds s' (headerBytes ty l' tid ++ bodyOf (withFingerprint crc32 ty tid fp items))
        (rest.drop (generatedBytes false fp)) ∧ s'.packetSize = s.packetSize := by
  cases fp with
  | false =>
    refine ⟨s, l, rfl, hl, ?_, rfl⟩
    simpa [withFingerprint, generatedBytes] using h
  | true =>
    have hbytes : generatedBytes false true = 4 + STUN_ATTRIBUTE_FINGERPRINT_LEN := rfl
    rw [hbytes] at hroom ⊢
    exact h.generate hl htid (fingerprintItem crc32 ty tid items) STUN_ATTRIBUTE_FINGERPRINT_LEN
      (fun covered => putUnalignedInt32BigEndian (crc32 covered ^^^
        STUN_FINGERPRINT_ATTRIBUTE_XOR_VALUE)) rfl (length_put32 _) rfl hroom hsmall

theorem Holds.finish (h : Holds s (headerBytes ty l tid ++ bodyOf items) []) (hl : l.length = 2)
    (htid : tid.length = 12) (hsize : s.packetSize = 20 + (bodyOf items).length) :
    s.finish = .ok (some (message ty tid items), s.packetSize) := by
  have hpos : s.packetSize = s.position := by
    rw [h.position, List.length_append, length_headerBytes hl htid, hsize]
  have hfield : s.packetSize - STUN_HEADER_LEN = (bodyOf items).length := by
    rw [hsize, Nat.add_sub_cancel_left]
  have hwrite := writeAt_length ty tid (bodyOf items) (bodyOf items).length hl
  rw [lengthBytes] at hwrite
  simp only [Serial.finish, h.buffer, List.append_nil, hfield, hwrite, bind, Except.bind]
  rw [if_pos hpos]
  rfl

/-! ## The two calls -/

theorem start_holds (header : StunHeader) {memory : Bytes} (hmemory : 20 ≤ memory.length)
    (htid : header.transactionId.length = 12) :
    ∃ s l, Serial.start header (some memory) = .ok s ∧ l.length = 2 ∧
      Holds s (headerBytes header.stunMessageType l header.transactionId) (memory.drop 20) ∧
      s.packetSize = memory.length := by
  obtain ⟨m, l, n, k, hsplit, hm, hl, hn, hk⟩ : ∃ m l n k : Bytes,
      memory = m ++ (l ++ (n ++ (k ++ memory.drop 20))) ∧ m.length = 2 ∧ l.length = 2 ∧
        n.length = 4 ∧ k.length = 12 := by
    refine ⟨memory.take 2, (memory.drop 2).take 2, (memory.drop 4).take 4, (memory.drop 8).take 12,
      ?_, by simp; omega, by simp; omega, by simp; omega, by simp; omega⟩
    have h12 : memory.drop 20 = (memory.drop 8).drop 12 := by rw [List.drop_drop]
    have h4 : memory.drop 8 = (memory.drop 4).drop 4 := by rw [List.drop_drop]
    have h2 : memory.drop 4 = (memory.drop 2).drop 2 := by rw [List.drop_drop]
    rw [h12, List.take_append_drop, h4, List.take_append_drop, h2, List.take_append_drop,
      List.take_append_drop]
  obtain ⟨rest, hrest⟩ : ∃ rest, rest = memory.drop 20 := ⟨_, rfl⟩
  obtain ⟨ty, hty⟩ : ∃ ty, ty = putUnalignedInt16BigEndian header.stunMessageType := ⟨_, rfl⟩
  have htylen : ty.length = 2 := by rw [hty, length_put16]
  rw [← hrest] at hsplit
  have htype := writeAt_mid [] (b := m) (l ++ (n ++ (k ++ rest))) ty (by omega)
  have hcookie := writeAt_mid (ty ++ l) (b := n) (k ++ rest)
    (putUnalignedInt32BigEndian STUN_HEADER_MAGIC_COOKIE) (by simp [hn])
  have hid := writeAt_mid (ty ++ (l ++ putUnalignedInt32BigEndian STUN_HEADER_MAGIC_COOKIE)) (b := k)
    rest header.transactionId (by omega)
  simp only [List.nil_append, List.append_assoc, List.length_nil, List.length_append, htylen, hl,
    length_put32, Nat.reduceAdd] at htype hcookie hid
  refine ⟨⟨some (headerBytes header.stunMessageType l header.transactionId ++ rest), memory.length, 20,
    memory.length - 20, false, false⟩, l, ?_, hl, ⟨?_, ?_, ?_, rfl, rfl⟩, rfl⟩
  · simp only [Serial.start]
    rw [if_neg (by simp only [STUN_HEADER_LEN]; omega)]
    have hwrites : writeAll memory 0
        [(0, putUnalignedInt16BigEndian header.stunMessageType),
          (4, putUnalignedInt32BigEndian STUN_HEADER_MAGIC_COOKIE), (8, header.transactionId)] =
        .ok (headerBytes header.stunMessageType l header.transactionId ++ rest) := by
      rw [hsplit, ← hty]
      simp only [writeAll, Nat.zero_add, htype, hcookie, hid, bind, Except.bind, headerBytes,
        List.append_assoc, ← hty]
    rw [hwrites]
    rfl
  · rw [hrest]
  · rw [length_headerBytes hl htid]
  · rw [List.length_drop]

end

/-- A password is given for message integrity, and it is not empty. -/
def PasswordOk (password : Option Bytes) (generateMessageIntegrity : Bool) : Prop :=
  (generateMessageIntegrity = true → password ≠ none) ∧ password ≠ some []

section

variable {hmac : Bytes → Bytes → Bytes} {crc32 : Bytes → UINT32} {ty : UINT16} {tid : Bytes}
  {p : StunPacket} {calls : List AppendCall} {password : Option Bytes} {mi fp : Bool}

theorem serialize_checked (h : Appended ty tid p calls) (hpw : PasswordOk password mi)
    (buffer : Option Bytes) :
    serializeStunPacket hmac crc32 p password mi fp buffer =
      (Serial.start p.header buffer >>= fun s =>
        serializeLoop tid calls.length 0 (calls.map AppendCall.attribute) s >>= fun s =>
        s.generateMessageIntegrity hmac mi (password.getD []) >>= fun s =>
        s.generateFingerprint crc32 fp >>= fun s => s.finish) := by
  rw [serializeStunPacket, if_neg fun hno => hpw.1 hno.1 hno.2, if_neg hpw.2,
    if_neg (by rw [h.header]; simp), h.attributeList]
  simp only [h.header, List.length_map]

/-- **The size.** -/
theorem serialize_size (h : Appended ty tid p calls) (hpw : PasswordOk password mi) :
    serializeStunPacket hmac crc32 p password mi fp none =
      .ok (none, 20 + totalSent calls + generatedBytes mi fp) := by
  have hloop := serializeLoop_size tid calls.length calls 0 20 h.written_le
  rw [serialize_checked h hpw]
  simp only [Serial.start, bind, Except.bind, hloop]
  cases mi <;> cases fp <;> rfl

variable (crc32 mi fp) in
theorem Holds.close (hlen : ∀ k m, (hmac k m).length = STUN_HMAC_VALUE_LEN) (pw : Bytes)
    {s : Serial} {l rest : Bytes} {items : List Item}
    (h : Holds s (headerBytes ty l tid ++ bodyOf items) rest) (hl : l.length = 2)
    (htid : tid.length = 12) (hrest : rest.length = generatedBytes mi fp)
    (hsmall : (bodyOf items).length < 60000)
    (hsize : s.packetSize = 20 + (bodyOf items).length + generatedBytes mi fp) :
    (s.generateMessageIntegrity hmac mi pw >>= fun s => s.generateFingerprint crc32 fp >>= fun s =>
      s.finish) = .ok (some (message ty tid (withFingerprint crc32 ty tid fp
        (withIntegrity hmac ty tid hlen pw mi items))), s.packetSize) := by
  have hmi : (bodyOf (withIntegrity hmac ty tid hlen pw mi items)).length =
      (bodyOf items).length + generatedBytes mi false := by
    cases mi with
    | false => simp [withIntegrity, generatedBytes]
    | true => simp [withIntegrity, generatedBytes, integrityItem, hlen]
  have hfp : ∀ is : List Item, (bodyOf (withFingerprint crc32 ty tid fp is)).length =
      (bodyOf is).length + generatedBytes false fp := by
    intro is
    cases fp with
    | false => simp [withFingerprint, generatedBytes]
    | true => simp [withFingerprint, generatedBytes, fingerprintItem, STUN_ATTRIBUTE_FINGERPRINT_LEN]
  have hsum : generatedBytes mi fp = generatedBytes mi false + generatedBytes false fp := by
    cases mi <;> cases fp <;> rfl
  have hle : generatedBytes mi false ≤ 24 := by cases mi <;> decide
  obtain ⟨s1, l1, hone, hl1, hholds1, hsize1⟩ := h.integrity hlen pw mi hl htid (by omega)
    (by omega)
  obtain ⟨s2, l2, htwo, hl2, hholds2, hsize2⟩ := hholds1.fingerprint crc32 fp hl1 htid
    (by rw [List.length_drop]; omega) (by omega)
  rw [hone]
  simp only [bind, Except.bind, htwo]
  have hnil : (rest.drop (generatedBytes mi false)).drop (generatedBytes false fp) = [] := by
    rw [List.drop_drop]
    exact List.drop_eq_nil_of_le (by omega)
  rw [hnil] at hholds2
  rw [hholds2.finish hl2 htid (by rw [hfp, hmi]; omega), hsize2, hsize1]

theorem totalSent_le : ∀ calls : List AppendCall, totalSent calls ≤ totalBytes calls
  | [] => le_refl _
  | c :: calls => by
    have hrest := totalSent_le calls
    have hone : c.sentBytes ≤ c.messageBytes := by
      rw [AppendCall.sentBytes]
      split
      · exact Nat.zero_le _
      · exact le_refl _
    simp only [totalSent, totalBytes, List.map_cons, List.sum_cons] at hrest ⊢
    omega

/-- The message that is written for these items. -/
def closedMessage (hmac : Bytes → Bytes → Bytes) (crc32 : Bytes → UINT32) (ty : UINT16) (tid : Bytes)
    (hlen : ∀ k m, (hmac k m).length = STUN_HMAC_VALUE_LEN) (password : Option Bytes) (mi fp : Bool)
    (items : List Item) : Bytes :=
  message ty tid (withFingerprint crc32 ty tid fp
    (withIntegrity hmac ty tid hlen (password.getD []) mi items))

variable (hlen : ∀ k m, (hmac k m).length = STUN_HMAC_VALUE_LEN) {memory : Bytes}

variable (crc32 fp) in
theorem serialize_of_loop (h : Appended ty tid p calls) (hpw : PasswordOk password mi)
    (htid : tid.length = 12) {s s' : Serial} {l : Bytes}
    (hmemory : memory.length = 20 + totalSent calls + generatedBytes mi fp)
    (hstart : Serial.start p.header (some memory) = .ok s) (hl : l.length = 2)
    (hholds : Holds s (headerBytes ty l tid) (memory.drop 20)) (hsize : s.packetSize = memory.length)
    (hloop : serializeLoop tid calls.length 0 (calls.map AppendCall.attribute) s = .ok s') :
    ∃ items, List.Forall₂ (Wrote tid) (sentCalls calls) items ∧
      serializeStunPacket hmac crc32 p password mi fp (some memory) =
        .ok (some (closedMessage hmac crc32 ty tid hlen password mi fp items), memory.length) := by
  obtain ⟨items, rest, hholds', hitems, hrest, hsize'⟩ :=
    serializeLoop_written calls.length calls 0 s _ _ h.written_le hholds hloop
  have hbody := length_bodyOf_wrote hitems
  have hle := totalSent_le calls
  have htotal := h.total_le
  rw [List.length_drop] at hrest
  have hclose := hholds'.close crc32 mi fp hlen (password.getD []) hl htid
    (by omega) (by omega) (by omega)
  refine ⟨items, hitems, ?_⟩
  rw [serialize_checked h hpw, hstart]
  simp only [bind, Except.bind] at hclose ⊢
  rw [hloop]
  rw [hclose, hsize', hsize]
  rfl

variable (memory) in
theorem start_of_appended (h : Appended ty tid p calls) (htid : tid.length = 12)
    (hmemory : 20 ≤ memory.length) :
    ∃ s l, Serial.start p.header (some memory) = .ok s ∧ l.length = 2 ∧
      Holds s (headerBytes ty l tid) (memory.drop 20) ∧ s.packetSize = memory.length := by
  have hstart := start_holds p.header hmemory (by rw [h.header]; exact htid)
  rw [h.header] at hstart ⊢
  exact hstart

/-- **The second call** writes the items of the calls, if it succeeds. -/
theorem serialize_ok (h : Appended ty tid p calls) (hpw : PasswordOk password mi)
    (htid : tid.length = 12)
    (hmemory : memory.length = 20 + totalSent calls + generatedBytes mi fp)
    {r : Option Bytes × Nat}
    (hok : serializeStunPacket hmac crc32 p password mi fp (some memory) = .ok r) :
    ∃ items, List.Forall₂ (Wrote tid) (sentCalls calls) items ∧
      r = (some (closedMessage hmac crc32 ty tid hlen password mi fp items), memory.length) := by
  obtain ⟨s, l, hstart, hl, hholds, hsize⟩ := start_of_appended memory h htid (by omega)
  have hok' := hok
  rw [serialize_checked h hpw, hstart] at hok'
  obtain ⟨s0, hs0, hok'⟩ := bind_ok_iff.mp hok'
  cases hs0
  obtain ⟨s', hloop, _⟩ := bind_ok_iff.mp hok'
  obtain ⟨items, hitems, heq⟩ := serialize_of_loop crc32 fp hlen h hpw htid hmemory
    hstart hl hholds hsize hloop
  rw [hok] at heq
  exact ⟨items, hitems, Except.ok.inj heq⟩

variable (crc32) in
/-- **The second call** succeeds if there is no error code. -/
theorem serialize_exists (h : Appended ty tid p calls) (hpw : PasswordOk password mi)
    (htid : tid.length = 12)
    (hmemory : memory.length = 20 + totalSent calls + generatedBytes mi fp)
    (herr : ∀ c ∈ calls, c.isErrorCode = false) :
    ∃ items, List.Forall₂ (Wrote tid) (sentCalls calls) items ∧
      serializeStunPacket hmac crc32 p password mi fp (some memory) =
        .ok (some (closedMessage hmac crc32 ty tid hlen password mi fp items), memory.length) := by
  obtain ⟨s, l, hstart, hl, hholds, hsize⟩ := start_of_appended memory h htid (by omega)
  obtain ⟨s', hloop⟩ := serializeLoop_exists tid calls.length calls 0 s _ _
    (fun c hc => ⟨h.written_le c hc, herr c hc⟩) hholds (by rw [List.length_drop]; omega)
  exact serialize_of_loop crc32 fp hlen h hpw htid hmemory hstart hl hholds hsize hloop

end

end KvsWebrtc.Stun
