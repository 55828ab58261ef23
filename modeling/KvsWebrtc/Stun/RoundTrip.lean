import KvsWebrtc.Stun.Authentication
import KvsWebrtc.Stun.Values

/-!
# The round trip of STUN packets

A packet that is built by append calls, serialised and parsed with the same password comes back
exactly if all its calls are faithful and the parser's limit on the number of attributes leaves room
for the generated ones.

Principal results:

* `deserialize_message_ok_iff` — when a message of items is parsed;
* `sizeItems_closed` — the generated attributes are accepted;
* `stun_round_trip_iff`.
-/

namespace KvsWebrtc.Stun

open ByteOrder

/-! ## The message -/

section

variable {ty : UINT16} {tid : Bytes} {items : List Item}

theorem length_message (htid : tid.length = 12) :
    (message ty tid items).length = 20 + (bodyOf items).length := by
  rw [message, List.length_append, length_headerBytes (by simp) htid]

theorem messageLengthOf_eq :
    messageLengthOf (message ty tid items) = BitVec.ofNat 16 (bodyOf items).length := by
  rw [messageLengthOf, message, headerBytes, List.append_assoc, get16_skip _ (by simp),
    length_put16, Nat.sub_self, List.append_assoc, lengthBytes, get16_put16]

theorem messageLengthOf_message (hsmall : (bodyOf items).length < 65536) :
    (messageLengthOf (message ty tid items)).toNat = (bodyOf items).length := by
  rw [messageLengthOf_eq, BitVec.toNat_ofNat, Nat.mod_eq_of_lt hsmall]

theorem type_message : getUnalignedInt16BigEndian (message ty tid items) 0 = ty := by
  rw [message, headerBytes, List.append_assoc, get16_put16]

theorem stopOf_message (htid : tid.length = 12) (hsmall : (bodyOf items).length < 65536) :
    stopOf (message ty tid items) = (message ty tid items).length := by
  rw [stopOf, messageLengthOf_message hsmall, length_message htid]

theorem cookie_message :
    getUnalignedInt32BigEndian (message ty tid items) 4 = STUN_HEADER_MAGIC_COOKIE := by
  rw [message, headerBytes, List.append_assoc, get32_skip _ (by simp), length_put16,
    List.append_assoc, get32_skip _ (by simp), length_lengthBytes, List.append_assoc, get32_put32]

theorem headerOk_message (htid : tid.length = 12) (hsmall : (bodyOf items).length < 65536) :
    HeaderOk (message ty tid items) := by
  refine ⟨?_, ?_, cookie_message⟩
  · rw [length_message htid]
    exact Nat.le_add_right _ _
  · rw [stopOf_message htid hsmall]

theorem transactionIdOf_message (htid : tid.length = 12) :
    transactionIdOf (message ty tid items) = tid := by
  have hdrop : (message ty tid items).drop 8 = tid ++ bodyOf items := by
    have hsplit : message ty tid items =
        (putUnalignedInt16BigEndian ty ++ (lengthBytes (bodyOf items).length ++
          putUnalignedInt32BigEndian STUN_HEADER_MAGIC_COOKIE)) ++ (tid ++ bodyOf items) := by
      simp [message, headerBytes]
    rw [hsplit]
    exact List.drop_left' (by simp)
  rw [transactionIdOf, hdrop, ← htid, List.take_left]

theorem length_le_bodyOf : ∀ items : List Item, items.length ≤ (bodyOf items).length
  | [] => Nat.zero_le _
  | i :: is => by
    have hrest := length_le_bodyOf is
    simp only [bodyOf_cons, List.length_cons, List.length_append, Item.length_bytes]
    omega

theorem attributeOffsets_message (htid : tid.length = 12)
    (hsmall : (bodyOf items).length < 65536) :
    attributeOffsets (message ty tid items) = itemOffsets 20 items := by
  have hbuf : message ty tid items =
      headerBytes ty (lengthBytes (bodyOf items).length) tid ++ bodyOf items := rfl
  have hwalk := offsetsFrom_items items _ (bodyOf items).length hbuf (length_le_bodyOf items)
  rw [length_headerBytes (by simp) htid] at hwalk
  rw [attributeOffsets, stopOf_message htid hsmall, messageLengthOf_message hsmall]
  exact hwalk

variable (ty items) in
theorem standing_message (htid : tid.length = 12) :
    List.Forall₂ (Standing (message ty tid items)) (itemOffsets 20 items) items := by
  have hbuf : message ty tid items =
      headerBytes ty (lengthBytes (bodyOf items).length) tid ++ bodyOf items := rfl
  have hstand := standing_items items _ hbuf
  rwa [length_headerBytes (by simp) htid] at hstand

theorem putMessageLength_header {l x : Bytes} (n : UINT16) (hl : l.length = 2) :
    putMessageLength (headerBytes ty l tid ++ x) n =
      headerBytes ty (putUnalignedInt16BigEndian n) tid ++ x := by
  have htake : (headerBytes ty l tid ++ x).take 2 = putUnalignedInt16BigEndian ty := by
    rw [headerBytes, List.append_assoc]
    exact List.take_left' (by simp)
  have hdrop : (headerBytes ty l tid ++ x).drop 4 =
      putUnalignedInt32BigEndian STUN_HEADER_MAGIC_COOKIE ++ (tid ++ x) := by
    have hsplit : headerBytes ty l tid ++ x = (putUnalignedInt16BigEndian ty ++ l) ++
        (putUnalignedInt32BigEndian STUN_HEADER_MAGIC_COOKIE ++ (tid ++ x)) := by
      simp [headerBytes]
    rw [hsplit]
    exact List.drop_left' (by simp [hl])
  rw [putMessageLength, htake, hdrop]
  simp [headerBytes]

/-- What a generated attribute covers is the same when it is written and when it is verified. -/
theorem coveredBytes_message {more : List Item} {n : Nat} (htid : tid.length = 12)
    (hsmall : 20 + (bodyOf items).length < 65536) :
    coveredBytes (message ty tid (items ++ more)) (20 + (bodyOf items).length) n =
      headerBytes ty (lengthBytes ((bodyOf items).length + (4 + n))) tid ++ bodyOf items := by
  have hfield : 20 + (bodyOf items).length + STUN_ATTRIBUTE_HEADER_LEN + n - STUN_HEADER_LEN =
      (bodyOf items).length + (4 + n) := by
    simp only [STUN_ATTRIBUTE_HEADER_LEN, STUN_HEADER_LEN]
    omega
  have hlen : (headerBytes ty (lengthBytes ((bodyOf items).length + (4 + n))) tid ++
      bodyOf items).length = 20 + (bodyOf items).length := by
    rw [List.length_append, length_headerBytes (by simp) htid]
  rw [coveredBytes, hfield, message, putMessageLength_header _ (by simp), BitVec.toNat_ofNat,
    Nat.mod_eq_of_lt hsmall, bodyOf_append, ← List.append_assoc, ← lengthBytes, ← hlen,
    List.take_left]

theorem itemOffsets_append : ∀ (off : Nat) (is js : List Item),
    itemOffsets off (is ++ js) = itemOffsets off is ++ itemOffsets (off + (bodyOf is).length) js
  | _, [], _ => rfl
  | off, i :: is, js => by
    simp only [List.cons_append, itemOffsets, itemOffsets_append _ is js, bodyOf_cons,
      List.length_append, Nat.add_assoc]

end

/-! ## Entries -/

theorem exists_of_mem_left {α β : Type} {R : α → β → Prop} {xs : List α} {ys : List β}
    (h : List.Forall₂ R xs ys) {x : α} (hx : x ∈ xs) : ∃ y ∈ ys, R x y := by
  induction h with
  | nil => cases hx
  | cons hone _ ih =>
    rcases List.mem_cons.mp hx with rfl | hx
    · exact ⟨_, List.mem_cons_self, hone⟩
    · obtain ⟨y, hy, hR⟩ := ih hx
      exact ⟨y, List.mem_cons_of_mem _ hy, hR⟩

theorem exists_of_mem_right {α β : Type} {R : α → β → Prop} {xs : List α} {ys : List β}
    (h : List.Forall₂ R xs ys) {y : β} (hy : y ∈ ys) : ∃ x ∈ xs, R x y :=
  exists_of_mem_left h.flip hy

/-- The same type, length and value. -/
def SameAttribute (a b : StunAttribute) : Prop :=
  a.type = b.type ∧ a.length = b.length ∧ SameValue a.value b.value

section

variable (hmac : Bytes → Bytes → Bytes) (crc32 : Bytes → UINT32) {buf : Bytes}
  (password : Option Bytes) {tid : Bytes}

theorem entry_of_value {o : Nat} {i : Item} {v : AttributeValue} (h : Standing buf o i)
    (hv : readValue hmac crc32 buf password tid o i.type i.length = .ok v) :
    Entry hmac crc32 buf password tid o (o, ⟨i.type, i.length, v⟩) := by
  have hlen := h.length_le
  exact ⟨by omega, rfl, h.typeAt_eq.symm, h.lengthAt_eq.symm, hv⟩

theorem standing_left {os os' : List Nat} {items more : List Item} (hlen : os.length = items.length)
    (h : List.Forall₂ (Standing buf) (os ++ os') (items ++ more)) :
    List.Forall₂ (Standing buf) os items := by
  have htake := List.forall₂_take os.length h
  rwa [List.take_left, hlen, List.take_left] at htake

theorem entries_of_calls : ∀ {calls : List AppendCall} {items : List Item} {os : List Nat},
    List.Forall₂ (Standing buf) os items → List.Forall₂ (Wrote tid) calls items →
    (∀ c ∈ calls, c.Faithful) →
    ∃ es, List.Forall₂ (Entry hmac crc32 buf password tid) os es ∧
      List.Forall₂ SameAttribute (calls.map AppendCall.attribute) (es.map Prod.snd)
  | [], [], [], _, _, _ => ⟨[], .nil, .nil⟩
  | c :: calls, i :: items, o :: os, .cons hstand hstands, .cons hwrote hwrotes, hall => by
    obtain ⟨es, hes, hsame⟩ := entries_of_calls hstands hwrotes
      fun c' hc' => hall c' (List.mem_cons_of_mem c hc')
    obtain ⟨v, hv, hsamev⟩ := readValue_call hmac crc32 password hstand hwrote (hall c (by simp))
    exact ⟨_ :: es, .cons (entry_of_value hmac crc32 password hstand hv) hes,
      .cons ⟨hwrote.1.symm, hwrote.2.1.symm, hsamev⟩ hsame⟩

/-! ## Generated attributes -/

theorem standing_mid (ty : UINT16) (htid : tid.length = 12) (items more : List Item) (i : Item) :
    Standing (message ty tid (items ++ i :: more)) (20 + (bodyOf items).length) i := by
  refine ⟨headerBytes ty (lengthBytes (bodyOf (items ++ i :: more)).length) tid ++ bodyOf items,
    bodyOf more, ?_, ?_⟩
  · rw [message, bodyOf_append, bodyOf_cons, List.append_assoc]
  · rw [List.length_append, length_headerBytes (by simp) htid]

variable {hmac password} in
theorem entry_integrity (ty : UINT16) (hlen : ∀ k m, (hmac k m).length = STUN_HMAC_VALUE_LEN)
    (htid : tid.length = 12) (items more : List Item)
    (hsmall : 20 + (bodyOf items).length < 65536) (hpw : PasswordOk password true) :
    ∃ e, Entry hmac crc32
        (message ty tid (items ++ integrityItem hmac ty tid hlen (password.getD []) items :: more))
        password tid (20 + (bodyOf items).length) e ∧
      e.2.type = STUN_ATTRIBUTE_TYPE_MESSAGE_INTEGRITY := by
  obtain ⟨i, hi⟩ : ∃ i, i = integrityItem hmac ty tid hlen (password.getD []) items := ⟨_, rfl⟩
  rw [← hi]
  have hstand := standing_mid ty htid items more i
  have hvlen : i.value.length = STUN_HMAC_VALUE_LEN := by
    rw [hi]
    exact hlen _ _
  have hread := readBytes_value hstand
  rw [hvlen] at hread
  have hv : readValue hmac crc32 (message ty tid (items ++ i :: more)) password tid
      (20 + (bodyOf items).length) i.type i.length = .ok (.bytes i.value) := by
    have hkind : kindOf i.type = .messageIntegrity := by rw [hi]; rfl
    cases password with
    | none => exact absurd rfl (hpw.1 rfl)
    | some pw =>
      cases pw with
      | nil => exact absurd rfl hpw.2
      | cons b pw =>
        have hexpected : hmac (b :: pw) (coveredBytes (message ty tid (items ++ i :: more))
            (20 + (bodyOf items).length) STUN_HMAC_VALUE_LEN) = i.value := by
          rw [coveredBytes_message htid hsmall, hi]
          rfl
        simp only [readValue, hkind, hread, bind, Except.bind, hexpected, if_true]
        rfl
  refine ⟨_, entry_of_value hmac crc32 password hstand hv, ?_⟩
  rw [hi]
  rfl

theorem entry_fingerprint (ty : UINT16) (htid : tid.length = 12) (items : List Item)
    (hsmall : 20 + (bodyOf items).length < 65536) :
    ∃ e, Entry hmac crc32 (message ty tid (items ++ [fingerprintItem crc32 ty tid items]))
        password tid (20 + (bodyOf items).length) e ∧
      e.2.type = STUN_ATTRIBUTE_TYPE_FINGERPRINT := by
  obtain ⟨i, hi⟩ : ∃ i, i = fingerprintItem crc32 ty tid items := ⟨_, rfl⟩
  rw [← hi]
  have hstand := standing_mid ty htid items [] i
  obtain ⟨w, hw⟩ : ∃ w, w = crc32 (headerBytes ty (lengthBytes ((bodyOf items).length +
      (4 + STUN_ATTRIBUTE_FINGERPRINT_LEN))) tid ++ bodyOf items) := ⟨_, rfl⟩
  have hvalue : i.value =
      putUnalignedInt32BigEndian (w ^^^ STUN_FINGERPRINT_ATTRIBUTE_XOR_VALUE) := by
    rw [hi, hw]
    rfl
  have hget : getUnalignedInt32BigEndian i.value 0 = w ^^^ STUN_FINGERPRINT_ATTRIBUTE_XOR_VALUE := by
    have hput := get32_put32 (w ^^^ STUN_FINGERPRINT_ATTRIBUTE_XOR_VALUE) []
    rwa [List.append_nil, ← hvalue] at hput
  have hread := hstand.read32 (by rw [hvalue, length_put32])
  rw [hget] at hread
  have hv : readValue hmac crc32 (message ty tid (items ++ [i])) password tid
      (20 + (bodyOf items).length) i.type i.length =
      .ok (.word (w ^^^ STUN_FINGERPRINT_ATTRIBUTE_XOR_VALUE)) := by
    have hkind : kindOf i.type = .fingerprint := by rw [hi]; rfl
    have hcovered : crc32 (coveredBytes (message ty tid (items ++ [i]))
        (20 + (bodyOf items).length) 4) = w := by
      rw [coveredBytes_message htid hsmall, hw]
    simp only [readValue, hkind, STUN_ATTRIBUTE_HEADER_LEN, hread, bind, Except.bind, hcovered,
      if_true]
    rfl
  refine ⟨_, entry_of_value hmac crc32 password hstand hv, ?_⟩
  rw [hi]
  rfl

end

/-- The types of the generated attributes. -/
def generatedTypes (mi fp : Bool) : List UINT16 :=
  (if mi then [STUN_ATTRIBUTE_TYPE_MESSAGE_INTEGRITY] else []) ++
    if fp then [STUN_ATTRIBUTE_TYPE_FINGERPRINT] else []

section

variable {hmac : Bytes → Bytes → Bytes} {crc32 : Bytes → UINT32} {ty : UINT16} {tid : Bytes}
  {password : Option Bytes} {mi fp : Bool}
  (hlen : ∀ k m, (hmac k m).length = STUN_HMAC_VALUE_LEN)

/-- The items that are generated behind these. -/
def generatedItems (crc32 : Bytes → UINT32) (ty : UINT16) (tid : Bytes)
    (hlen : ∀ k m, (hmac k m).length = STUN_HMAC_VALUE_LEN) (pw : Bytes) (mi fp : Bool)
    (items : List Item) : List Item :=
  (if mi then [integrityItem hmac ty tid hlen pw items] else []) ++
    if fp then [fingerprintItem crc32 ty tid (withIntegrity hmac ty tid hlen pw mi items)] else []

theorem closedMessage_eq (items : List Item) :
    closedMessage hmac crc32 ty tid hlen password mi fp items = message ty tid
      (items ++ generatedItems crc32 ty tid hlen (password.getD []) mi fp items) := by
  rw [closedMessage]
  cases mi <;> cases fp <;> simp [generatedItems, withFingerprint, withIntegrity]

theorem generatedItems_types (items : List Item) :
    (generatedItems crc32 ty tid hlen (password.getD []) mi fp items).map Item.type =
      generatedTypes mi fp := by
  cases mi <;> cases fp <;> rfl

theorem generatedItems_length (items : List Item) :
    (generatedItems crc32 ty tid hlen (password.getD []) mi fp items).length =
      (generatedTypes mi fp).length := by
  cases mi <;> cases fp <;> rfl

theorem length_bodyOf_generated (items : List Item) :
    (bodyOf (generatedItems crc32 ty tid hlen (password.getD []) mi fp items)).length =
      generatedBytes mi fp := by
  cases mi <;> cases fp <;>
    simp [generatedItems, generatedBytes, integrityItem, fingerprintItem, hlen,
      STUN_ATTRIBUTE_FINGERPRINT_LEN]

theorem sizeAttribute_integrity {s : Scan} (hfp : s.fingerprintFound = false)
    (hmi : s.messageIntegrityFound = false) (hcount : s.attributeCount < STUN_ATTRIBUTE_MAX_COUNT) :
    ∃ s', sizeAttribute .messageIntegrity 0 (BitVec.ofNat 16 STUN_HMAC_VALUE_LEN) s = .ok s' ∧
      s'.fingerprintFound = false ∧ s'.attributeCount = s.attributeCount + 1 := by
  have horder : checkOrder .messageIntegrity s = .ok { s with messageIntegrityFound := true } := by
    simp [checkOrder, hfp, hmi]
  exact ⟨_, sizeAttribute_of_order rfl horder (by decide) hcount, hfp, rfl⟩

theorem sizeAttribute_fingerprint {s : Scan} (hfp : s.fingerprintFound = false)
    (hcount : s.attributeCount < STUN_ATTRIBUTE_MAX_COUNT) :
    ∃ s', sizeAttribute .fingerprint 0 (BitVec.ofNat 16 STUN_ATTRIBUTE_FINGERPRINT_LEN) s =
      .ok s' := by
  have horder : checkOrder .fingerprint s = .ok { s with fingerprintFound := true } := by
    simp [checkOrder, hfp]
  exact ⟨_, sizeAttribute_of_order rfl horder (by decide) hcount⟩

variable (crc32 ty tid password mi fp) in
theorem sizeItems_generated (items : List Item) (s : Scan) (hfp : s.fingerprintFound = false)
    (hmi : s.messageIntegrityFound = false)
    (hcount : s.attributeCount + (generatedTypes mi fp).length ≤ STUN_ATTRIBUTE_MAX_COUNT) :
    ∃ s', sizeItems (generatedItems crc32 ty tid hlen (password.getD []) mi fp items) s = .ok s' := by
  have hfinger : ∀ (is : List Item) (s1 : Scan), s1.fingerprintFound = false →
      s1.attributeCount < STUN_ATTRIBUTE_MAX_COUNT →
      ∃ s', sizeItems [fingerprintItem crc32 ty tid is] s1 = .ok s' := by
    intro is s1 hfp1 hcount1
    obtain ⟨s', hs'⟩ := sizeAttribute_fingerprint hfp1 hcount1
    exact ⟨s', bind_ok_iff.mpr ⟨s', hs', rfl⟩⟩
  cases mi with
  | false =>
    cases fp with
    | false => exact ⟨s, rfl⟩
    | true => exact hfinger _ s hfp hcount
  | true =>
    obtain ⟨s1, hs1, hfp1, hcount1⟩ := sizeAttribute_integrity hfp hmi (by
      have hpos : 0 < (generatedTypes true fp).length := by cases fp <;> decide
      omega)
    cases fp with
    | false => exact ⟨s1, bind_ok_iff.mpr ⟨s1, hs1, rfl⟩⟩
    | true =>
      have htwo : (generatedTypes true true).length = 2 := rfl
      obtain ⟨s2, hs2⟩ := hfinger
        (withIntegrity hmac ty tid hlen (password.getD []) true items) s1 hfp1 (by omega)
      exact ⟨s2, bind_ok_iff.mpr ⟨s1, hs1, hs2⟩⟩

variable (crc32 ty fp) in
theorem entries_generated (htid : tid.length = 12) (hpw : PasswordOk password mi) (items : List Item)
    (hsmall : (bodyOf items).length < 60000) :
    ∃ es, List.Forall₂ (Entry hmac crc32 (message ty tid (items ++
        generatedItems crc32 ty tid hlen (password.getD []) mi fp items)) password tid)
        (itemOffsets (20 + (bodyOf items).length)
          (generatedItems crc32 ty tid hlen (password.getD []) mi fp items)) es ∧
      es.map (fun e => e.2.type) = generatedTypes mi fp := by
  cases mi with
  | false =>
    cases fp with
    | false => exact ⟨[], .nil, rfl⟩
    | true =>
      obtain ⟨e, he, htype⟩ := entry_fingerprint hmac crc32 password ty htid items (by omega)
      exact ⟨[e], .cons he .nil, congrArg (· :: []) htype⟩
  | true =>
    have hone := fun more => entry_integrity crc32 ty hlen htid items more (by omega) hpw
    obtain ⟨i, hi⟩ : ∃ i, i = integrityItem hmac ty tid hlen (password.getD []) items := ⟨_, rfl⟩
    cases fp with
    | false =>
      obtain ⟨e, he, htype⟩ := hone []
      exact ⟨[e], .cons he .nil, congrArg (· :: []) htype⟩
    | true =>
      have hgen : generatedItems crc32 ty tid hlen (password.getD []) true true items =
          [i, fingerprintItem crc32 ty tid (items ++ [i])] := by
        rw [hi]
        rfl
      have hbody : (bodyOf (items ++ [i])).length = (bodyOf items).length + i.bytes.length := by
        simp
      have hlength : i.bytes.length = 24 := by
        have hvalue : i.value.length = STUN_HMAC_VALUE_LEN := by
          rw [hi]
          exact hlen _ _
        rw [Item.length_bytes, hvalue, STUN_HMAC_VALUE_LEN]
      obtain ⟨e, he, htype⟩ := hone [fingerprintItem crc32 ty tid (items ++ [i])]
      obtain ⟨f, hf, hftype⟩ := entry_fingerprint hmac crc32 password ty htid (items ++ [i]) (by omega)
      rw [← hi] at he
      rw [hbody, List.append_assoc, List.singleton_append, ← Nat.add_assoc] at hf
      rw [hgen]
      refine ⟨[e, f], .cons he (.cons hf .nil), ?_⟩
      simp only [List.map_cons, List.map_nil, htype, hftype]
      rfl

end

/-! ## The round trip -/

/-- The parsed packet has the header and the attributes of the packet, followed by the generated
attributes.  The length in the header counts these too. -/
structure SamePacket (p : StunPacket) (mi fp : Bool) (q : ParsedPacket) : Prop where
  header : q.header = { p.header with
    messageLength := p.header.messageLength + BitVec.ofNat 16 (generatedBytes mi fp) }
  attributes : ∃ same generated, q.attributeList = same ++ generated ∧
    List.Forall₂ SameAttribute p.attributeList same ∧
    generated.map StunAttribute.type = generatedTypes mi fp

/-- The call without a buffer gives the size of what is written into any buffer of that size, and
parsing these bytes with the same password gives the packet back. -/
def RoundTrips (hmac : Bytes → Bytes → Bytes) (crc32 : Bytes → UINT32) (p : StunPacket)
    (password : Option Bytes) (mi fp : Bool) : Prop :=
  ∃ size, serializeStunPacket hmac crc32 p password mi fp none = .ok (none, size) ∧
    ∀ memory : Bytes, memory.length = size →
      ∃ bytes q, serializeStunPacket hmac crc32 p password mi fp (some memory) =
          .ok (some bytes, size) ∧
        deserializeStunPacket hmac crc32 bytes password = .ok q ∧ SamePacket p mi fp q

section

variable {hmac : Bytes → Bytes → Bytes} {crc32 : Bytes → UINT32} {ty : UINT16} {tid : Bytes}
  {p : StunPacket} {calls : List AppendCall} {password : Option Bytes} {mi fp : Bool}
  {items : List Item} (hlen : ∀ k m, (hmac k m).length = STUN_HMAC_VALUE_LEN)

theorem Wrote.address_value {c : AppendCall} {i : Item} (h : Wrote tid c i)
    (hk : i.kind = .address) : 2 ≤ i.value.length := by
  rw [h.kind_eq] at hk
  cases c with
  | address t a hfam =>
    obtain ⟨hvalue, _⟩ := h.address_length
    rw [hvalue, length_stunPackageIpAddr]
    omega
  | _ => cases hk

theorem wrote_address {more : List Item} (hw : List.Forall₂ (Wrote tid) calls items)
    (hmore : ∀ i ∈ more, i.kind ≠ .address) :
    ∀ i ∈ items ++ more, i.kind = .address → 2 ≤ i.value.length := by
  intro i hi hk
  rcases List.mem_append.mp hi with hi | hi
  · obtain ⟨c, _, hwrote⟩ := exists_of_mem_right hw hi
    exact hwrote.address_value hk
  · exact absurd hk (hmore i hi)

theorem generatedItems_kind (items : List Item) : ∀ i ∈ generatedItems crc32 ty tid hlen
    (password.getD []) mi fp items, i.kind ≠ .address ∧ i.kind ≠ .unknown := by
  cases mi <;> cases fp <;> simp [generatedItems, Item.kind, integrityItem, fingerprintItem] <;>
    decide

def Item.known (i : Item) : Bool := i.kind ≠ .unknown

theorem countP_known {buf : Bytes} {os : List Nat} {all : List Item}
    (h : List.Forall₂ (Standing buf) os all) :
    os.countP (known buf) = all.countP Item.known := by
  induction h with
  | nil => rfl
  | @cons o i os is hone _ ih =>
    have hknown : known buf o = i.known := by
      rw [known, Item.known, hone.kindAt_eq]
    rw [List.countP_cons, List.countP_cons, hknown, ih]

/-- **Parsing a message of items.** -/
theorem deserialize_message_ok_iff {all : List Item} (htid : tid.length = 12)
    (hsmall : (bodyOf all).length < 65536)
    (haddr : ∀ i ∈ all, i.kind = .address → 2 ≤ i.value.length) (q : ParsedPacket) :
    deserializeStunPacket hmac crc32 (message ty tid all) password = .ok q ↔
      ∃ s, sizeItems all initialScan = .ok s ∧
      ∃ es, List.Forall₂ (Entry hmac crc32 (message ty tid all) password tid)
        ((itemOffsets 20 all).take (all.countP Item.known)) es ∧
        q = packetOf (message ty tid all) s es := by
  have hstand := standing_message ty all htid
  have hcount : knownCount (message ty tid all) = all.countP Item.known := by
    rw [knownCount, attributeOffsets_message htid hsmall]
    exact countP_known hstand
  have hinside : ∀ o ∈ itemOffsets 20 all, HeaderInside (message ty tid all) o := by
    intro o ho
    obtain ⟨i, hi, hone⟩ := exists_of_mem_left hstand ho
    exact hone.headerInside (haddr i hi)
  rw [deserializeStunPacket_ok_iff, hcount, attributeOffsets_message htid hsmall,
    transactionIdOf_message htid]
  simp only [headerOk_message htid hsmall, true_and, sizeOffsets_items hstand haddr]
  exact ⟨fun h => h.2, fun h => ⟨hinside, h⟩⟩

variable (ty) in
theorem packetOf_message (all : List Item) (htid : tid.length = 12) (s : Scan)
    {es : List (Nat × StunAttribute)} (hes : ∀ e ∈ es, kindOf e.2.type ≠ .unknown) :
    (packetOf (message ty tid all) s es).attributeList = es.map Prod.snd ∧
      (packetOf (message ty tid all) s es).header =
        ⟨ty, BitVec.ofNat 16 (bodyOf all).length, STUN_HEADER_MAGIC_COOKIE, tid⟩ := by
  refine ⟨?_, ?_⟩
  · rw [packetOf, settleEntries_of_known hes]
  · rw [packetOf, type_message, messageLengthOf_eq, cookie_message, transactionIdOf_message htid]

theorem Faithful.not_skipped {c : AppendCall} (h : c.Faithful) :
    c.isSkipped = false ∧ c.isErrorCode = false ∧ c.kind ≠ .unknown ∧ c.kind ≠ .messageIntegrity ∧
      c.kind ≠ .fingerprint := by
  cases c with
  | address t a hfam =>
    cases t with
    | xorRelayed => exact absurd rfl h.1
    | _ => simp [AppendCall.isSkipped, AppendCall.isErrorCode, AppendCall.kind]
  | allocationAddressFamily v => exact absurd h id
  | errorCode phrase code => exact absurd h id
  | _ => simp [AppendCall.isSkipped, AppendCall.isErrorCode, AppendCall.kind]

theorem sentCalls_eq (h : ∀ c ∈ calls, c.isSkipped = false) : sentCalls calls = calls := by
  rw [sentCalls, List.filter_eq_self]
  intro c hc
  simp [h c hc]

theorem totalSent_eq : ∀ {calls : List AppendCall}, (∀ c ∈ calls, c.isSkipped = false) →
    totalSent calls = totalBytes calls
  | [], _ => rfl
  | c :: calls, h => by
    have hrest := totalSent_eq fun c' hc' => h c' (List.mem_cons_of_mem c hc')
    rw [totalBytes] at hrest
    rw [totalSent_cons, totalBytes, List.map_cons, List.sum_cons, hrest, AppendCall.sentBytes,
      h c (by simp)]
    rfl

variable (crc32 ty password) in
theorem sizeItems_closed (hw : List.Forall₂ (Wrote tid) calls items)
    (hall : ∀ c ∈ calls, c.Faithful)
    (hcount : calls.length + (generatedTypes mi fp).length ≤ STUN_ATTRIBUTE_MAX_COUNT) :
    ∃ s, sizeItems (items ++ generatedItems crc32 ty tid hlen (password.getD []) mi fp items)
      initialScan = .ok s := by
  have hlength := hw.length_eq
  have hplain : ∀ i ∈ items, i.Plain ∧ checkLength i.kind i.family i.length = .ok () := by
    intro i hi
    obtain ⟨c, hc, hwrote⟩ := exists_of_mem_right hw hi
    obtain ⟨_, _, hun, hmi, hfp⟩ := Faithful.not_skipped (hall c hc)
    refine ⟨?_, checkLength_call hwrote (hall c hc)⟩
    rw [Item.Plain, hwrote.kind_eq]
    exact ⟨hmi, hfp, hun⟩
  obtain ⟨size, hsize⟩ := sizeItems_plain (s := initialScan) hplain rfl rfl (by
    simp only [initialScan]
    omega)
  obtain ⟨s, hs⟩ := sizeItems_generated crc32 ty tid password mi fp hlen items
    { initialScan with
      allocationSize := size, attributeCount := initialScan.attributeCount + items.length }
    rfl rfl (by simp only [initialScan]; omega)
  refine ⟨s, ?_⟩
  rw [sizeItems_append, hsize]
  exact hs

include hlen in
/-- **Faithful calls** make a round trip. -/
theorem roundTrips_of_faithful (h : Appended ty tid p calls) (hpw : PasswordOk password mi)
    (htid : tid.length = 12) (hall : ∀ c ∈ calls, c.Faithful)
    (hcount : calls.length + (generatedTypes mi fp).length ≤ STUN_ATTRIBUTE_MAX_COUNT) :
    RoundTrips hmac crc32 p password mi fp := by
  have hskip : ∀ c ∈ calls, c.isSkipped = false := fun c hc => (Faithful.not_skipped (hall c hc)).1
  refine ⟨_, serialize_size h hpw, fun memory hmemory => ?_⟩
  obtain ⟨items, hw, hok⟩ := serialize_exists crc32 hlen h hpw htid hmemory
    fun c hc => (Faithful.not_skipped (hall c hc)).2.1
  rw [closedMessage_eq] at hok
  obtain ⟨gen, hgen⟩ : ∃ gen, gen = generatedItems crc32 ty tid hlen (password.getD []) mi fp items :=
    ⟨_, rfl⟩
  have hbodyitems := length_bodyOf_wrote hw
  rw [sentCalls_eq hskip] at hw
  rw [totalSent_eq hskip] at hbodyitems hmemory
  have htotal := h.total_le
  have hbodygen : (bodyOf gen).length = generatedBytes mi fp := by
    rw [hgen]
    exact length_bodyOf_generated hlen items
  have hgenle : generatedBytes mi fp ≤ 32 := by cases mi <;> cases fp <;> decide
  have hbody : (bodyOf (items ++ gen)).length = totalBytes calls + generatedBytes mi fp := by
    rw [bodyOf_append, List.length_append, hbodyitems, hbodygen]
  have hgenkind : ∀ i ∈ gen, i.kind ≠ .address ∧ i.kind ≠ .unknown := by
    rw [hgen]
    exact generatedItems_kind hlen items
  have haddr := wrote_address hw fun i hi => (hgenkind i hi).1
  obtain ⟨s, hs⟩ := sizeItems_closed crc32 ty password hlen hw hall hcount
  rw [← hgen] at hs hok
  -- every attribute is known, so the second pass visits all of them
  have hknown : (items ++ gen).countP Item.known = (items ++ gen).length := by
    rw [List.countP_eq_length]
    intro i hi
    rw [Item.known, decide_eq_true_eq]
    rcases List.mem_append.mp hi with hi | hi
    · obtain ⟨c, hc, hwrote⟩ := exists_of_mem_right hw hi
      rw [hwrote.kind_eq]
      exact (Faithful.not_skipped (hall c hc)).2.2.1
    · exact (hgenkind i hi).2
  have hstand := standing_message ty (items ++ gen) htid
  have hoffsets : ∀ o ∈ itemOffsets 20 (items ++ gen), known (message ty tid (items ++ gen)) o := by
    intro o ho
    obtain ⟨i, hi, hone⟩ := exists_of_mem_left hstand ho
    rw [known, hone.kindAt_eq]
    exact List.countP_eq_length.mp hknown i hi
  rw [itemOffsets_append] at hstand
  obtain ⟨es, hes, hsame⟩ := entries_of_calls hmac crc32 password
    (standing_left (length_itemOffsets 20 items) hstand) hw hall
  obtain ⟨es', hes', htypes⟩ := entries_generated crc32 ty fp hlen htid hpw items (by omega)
  rw [← hgen] at hes'
  have hentries : List.Forall₂ (Entry hmac crc32 (message ty tid (items ++ gen)) password tid)
      (itemOffsets 20 (items ++ gen)) (es ++ es') := by
    rw [itemOffsets_append]
    exact List.rel_append hes hes'
  have hparse := (deserialize_message_ok_iff htid (by omega) haddr
    (packetOf (message ty tid (items ++ gen)) s (es ++ es'))).mpr ⟨s, hs, es ++ es', by
      rw [hknown, List.take_of_length_le (by rw [length_itemOffsets])]
      exact hentries, rfl⟩
  obtain ⟨hlist, hheader⟩ := packetOf_message ty (items ++ gen) htid s
    (entries_known hentries hoffsets)
  refine ⟨_, _, by rw [hok, hmemory, totalSent_eq hskip], hparse, ?_, ?_⟩
  · rw [hheader, hbody, h.header, BitVec.ofNat_add]
  · refine ⟨es.map Prod.snd, es'.map Prod.snd, by rw [hlist, List.map_append], ?_, ?_⟩
    · rw [h.attributeList]
      exact hsame
    · rw [List.map_map]
      exact htypes

/-! ### Calls that do not come back -/

theorem sizeItems_ok : ∀ {all : List Item} {s s' : Scan}, sizeItems all s = .ok s' →
    (∀ i ∈ all, checkLength i.kind i.family i.length = .ok ()) ∧
      s'.attributeCount = s.attributeCount + all.countP Item.known ∧
      (s.attributeCount ≤ STUN_ATTRIBUTE_MAX_COUNT → s'.attributeCount ≤ STUN_ATTRIBUTE_MAX_COUNT)
  | [], s, s', h => by
    obtain rfl : s = s' := Except.ok.inj h
    simp
  | i :: is, s, s', h => by
    obtain ⟨s1, hone, hrest⟩ := bind_ok_iff.mp h
    obtain ⟨hlength, _, hcount, hle⟩ := sizeAttribute_ok hone
    obtain ⟨hlengths, hcount', hle'⟩ := sizeItems_ok hrest
    refine ⟨fun j hj => ?_, ?_, fun _ => hle' hle⟩
    · rcases List.mem_cons.mp hj with rfl | hj
      · exact hlength
      · exact hlengths j hj
    · rw [hcount', hcount, List.countP_cons]
      by_cases hk : i.kind = .unknown
      · simp [Item.known, hk]
      · simp [Item.known, hk]
        omega

theorem length_settleEntries : ∀ es : List (Nat × StunAttribute),
    (settleEntries es).length = es.length
  | [] => rfl
  | e :: es => by
    have hrest := length_settleEntries es
    rw [settleEntries]
    split
    case h_1 heq =>
      rw [heq] at hrest
      simp only [List.length_cons, List.length_nil] at hrest ⊢
      omega
    case h_2 heq =>
      rw [heq] at hrest
      simp only [List.length_cons] at hrest ⊢
      omega

theorem faithful_of_value {buf : Bytes} {o : Nat} {i : Item} {c : AppendCall} {v : AttributeValue}
    (hstand : Standing buf o i) (hw : Wrote tid c i) (hskip : c.isSkipped = false)
    (hwritten : c.written ≤ 2048) (hknown : i.known)
    (hlength : checkLength i.kind i.family i.length = .ok ())
    (hv : readValue hmac crc32 buf password tid o i.type i.length = .ok v)
    (hsame : SameValue c.attribute.value v) : c.Faithful := by
  have hkind := hw.kind_eq
  cases c with
  | address t a hfam =>
    refine ⟨?_, ?_⟩
    · rintro rfl
      cases hskip
    · rintro rfl
      exact readValue_xorPeer hmac crc32 password hstand hw hv hsame
  | allocationAddressFamily f =>
    rw [Item.known, hkind] at hknown
    simp [AppendCall.kind] at hknown
  | errorCode phrase code => exact readValue_errorCode hmac crc32 password hw hwritten hv hsame
  | nonce b =>
    rw [hkind, hw.2.1] at hlength
    rw [AppendCall.written] at hwritten
    have hle : (BitVec.ofNat 16 b.length : UINT16).toNat ≤ STUN_MAX_NONCE_LEN := by
      by_contra hno
      have hbad : checkLength .nonce i.family (BitVec.ofNat 16 b.length) =
          .error .STUN_INVALID_NONCE_ATTRIBUTE_LENGTH := if_neg hno
      rw [show (AppendCall.nonce b).kind = .nonce from rfl,
        show (AppendCall.nonce b).attribute.length = BitVec.ofNat 16 b.length from rfl, hbad] at hlength
      cases hlength
    rwa [BitVec.toNat_ofNat, Nat.mod_eq_of_lt (by omega)] at hle
  | _ => exact trivial

theorem faithful_of_entries {buf : Bytes} : ∀ {calls : List AppendCall} {items : List Item}
    {os : List Nat} {es : List (Nat × StunAttribute)}, List.Forall₂ (Standing buf) os items →
    List.Forall₂ (Wrote tid) calls items →
    List.Forall₂ (Entry hmac crc32 buf password tid) os es →
    List.Forall₂ SameAttribute (calls.map AppendCall.attribute) (es.map Prod.snd) →
    (∀ c ∈ calls, c.isSkipped = false ∧ c.written ≤ 2048) →
    (∀ i ∈ items, i.known ∧ checkLength i.kind i.family i.length = .ok ()) →
    ∀ c ∈ calls, c.Faithful
  | [], [], [], [], _, _, _, _, _, _ => by simp
  | c :: calls, i :: items, o :: os, e :: es, .cons hstand hstands, .cons hw hws, .cons he hes,
    hsames, hcalls, hitems => by
    rw [List.map_cons, List.map_cons, List.forall₂_cons] at hsames
    obtain ⟨hsame, hsames⟩ := hsames
    obtain ⟨_, _, htype, hlength, hv⟩ := he
    rw [htype, hlength, hstand.typeAt_eq, hstand.lengthAt_eq] at hv
    have hone : c.Faithful := faithful_of_value hstand hw (hcalls c (by simp)).1
      (hcalls c (by simp)).2 (hitems i (by simp)).1 (hitems i (by simp)).2 hv hsame.2.2
    intro c' hc'
    rcases List.mem_cons.mp hc' with rfl | hc'
    · exact hone
    · exact faithful_of_entries hstands hws hes hsames
        (fun c'' hc'' => hcalls c'' (List.mem_cons_of_mem c hc''))
        (fun i' hi' => hitems i' (List.mem_cons_of_mem i hi')) c' hc'

include hlen in
theorem faithful_of_roundTrips (h : Appended ty tid p calls) (hpw : PasswordOk password mi)
    (htid : tid.length = 12) (hround : RoundTrips hmac crc32 p password mi fp) :
    (∀ c ∈ calls, c.Faithful) ∧
      calls.length + (generatedTypes mi fp).length ≤ STUN_ATTRIBUTE_MAX_COUNT := by
  obtain ⟨size, hsize, hmemory⟩ := hround
  rw [serialize_size h hpw] at hsize
  obtain rfl : 20 + totalSent calls + generatedBytes mi fp = size := (Prod.mk.inj (Except.ok.inj hsize)).2
  obtain ⟨bytes, q, hok, hparse, hsame⟩ := hmemory (List.replicate _ 0) List.length_replicate
  obtain ⟨items, hw, hbytes⟩ := serialize_ok hlen h hpw htid List.length_replicate hok
  obtain rfl : bytes = _ := Option.some.inj (Prod.mk.inj hbytes).1
  rw [closedMessage_eq] at hparse
  obtain ⟨gen, hgen⟩ : ∃ gen, gen = generatedItems crc32 ty tid hlen (password.getD []) mi fp items :=
    ⟨_, rfl⟩
  rw [← hgen] at hparse
  have hgenkind : ∀ i ∈ gen, i.kind ≠ .address ∧ i.kind ≠ .unknown := by
    rw [hgen]
    exact generatedItems_kind hlen items
  have hgenlen : gen.length = (generatedTypes mi fp).length := by
    rw [hgen]
    exact generatedItems_length hlen items
  have hsmall : (bodyOf (items ++ gen)).length < 65536 := by
    have hbody := length_bodyOf_wrote hw
    have htotal := h.total_le
    have hsent := totalSent_le calls
    have hbodygen : (bodyOf gen).length = generatedBytes mi fp := by
      rw [hgen]
      exact length_bodyOf_generated hlen items
    have hgenle : generatedBytes mi fp ≤ 32 := by cases mi <;> cases fp <;> decide
    rw [bodyOf_append, List.length_append]
    omega
  obtain ⟨s, hs, es, hes, rfl⟩ := (deserialize_message_ok_iff htid hsmall
    (wrote_address hw fun i hi => (hgenkind i hi).1) q).mp hparse
  obtain ⟨hlengths, hcount, hmax⟩ := sizeItems_ok hs
  -- as many entries as known items, and as many as calls and generated attributes
  obtain ⟨same, generated, hlist, hsames, htypes⟩ := hsame.attributes
  have heslen : es.length = (items ++ gen).countP Item.known := by
    have hle : (items ++ gen).countP Item.known ≤ (items ++ gen).length := List.countP_le_length
    rw [← hes.length_eq, List.length_take, length_itemOffsets]
    omega
  have hlistlen : es.length = calls.length + (generatedTypes mi fp).length := by
    have hlen1 := congrArg List.length hlist
    have hlen2 := hsames.length_eq
    have hlen3 := congrArg List.length htypes
    rw [h.attributeList, List.length_map] at hlen2
    rw [List.length_map] at hlen3
    rw [packetOf, List.length_map, length_settleEntries, List.length_append] at hlen1
    omega
  have hsentle : (sentCalls calls).length ≤ calls.length := List.length_filter_le _ _
  have hitemslen := hw.length_eq
  have hcountle : (items ++ gen).countP Item.known ≤ (items ++ gen).length := List.countP_le_length
  rw [List.length_append] at hcountle
  have hskip : ∀ c ∈ calls, c.isSkipped = false := by
    have hall := List.length_filter_eq_length_iff.mp (show (sentCalls calls).length = calls.length
      by omega)
    intro c hc
    simpa using hall c hc
  have hknown : ∀ i ∈ items ++ gen, i.known := by
    apply List.countP_eq_length.mp
    rw [List.length_append]
    omega
  rw [sentCalls_eq hskip] at hw
  rw [List.take_of_length_le (by rw [length_itemOffsets, List.length_append]; omega)] at hes
  have hstand := standing_message ty (items ++ gen) htid
  have hoffsets : ∀ o ∈ itemOffsets 20 (items ++ gen), known (message ty tid (items ++ gen)) o := by
    intro o ho
    obtain ⟨i, hi, hone⟩ := exists_of_mem_left hstand ho
    rw [known, hone.kindAt_eq]
    exact hknown i hi
  obtain ⟨hattrs, _⟩ := packetOf_message ty (items ++ gen) htid s (entries_known hes hoffsets)
  rw [hattrs] at hlist
  rw [itemOffsets_append] at hstand hes
  refine ⟨?_, ?_⟩
  · have hsamelen := hsames.length_eq
    rw [h.attributeList, List.length_map] at hsamelen
    have htake : (es.take calls.length).map Prod.snd = same := by
      rw [List.map_take, hlist, hsamelen, List.take_left]
    have hentries := List.forall₂_take calls.length hes
    rw [show calls.length = (itemOffsets 20 items).length by
      rw [length_itemOffsets, hw.length_eq], List.take_left] at hentries
    rw [length_itemOffsets, ← hw.length_eq] at hentries
    apply faithful_of_entries (standing_left (length_itemOffsets 20 items) hstand) hw hentries
    · rw [htake, ← h.attributeList]
      exact hsames
    · exact fun c hc => ⟨hskip c hc, h.written_le c hc⟩
    · exact fun i hi => ⟨hknown i (List.mem_append_left gen hi),
        hlengths i (List.mem_append_left gen hi)⟩
  · have hle := hmax (by decide)
    omega

end

/-- **The round trip.**  A packet built by append calls comes back exactly if every call is faithful
and the parser's count has room for all attributes, the generated ones included. -/
theorem stun_round_trip_iff (hmac : Bytes → Bytes → Bytes) (crc32 : Bytes → UINT32)
    (hlen : ∀ k m, (hmac k m).length = STUN_HMAC_VALUE_LEN) (stunPacketType : UINT16)
    (transactionId : Bytes) (htid : transactionId.length = 12) (calls : List AppendCall)
    (p : StunPacket)
    (hp : appendAll (createStunPacket stunPacketType transactionId) calls = .ok p)
    (password : Option Bytes) (mi fp : Bool) (hpw : PasswordOk password mi) :
    RoundTrips hmac crc32 p password mi fp ↔ (∀ c ∈ calls, c.Faithful) ∧
      calls.length + (generatedTypes mi fp).length ≤ STUN_ATTRIBUTE_MAX_COUNT := by
  have happended := appended_run calls (appended_create stunPacketType transactionId) hp
  rw [List.nil_append] at happended
  constructor
  · exact faithful_of_roundTrips hlen happended hpw htid
  · rintro ⟨hall, hcount⟩
    exact roundTrips_of_faithful hlen happended hpw htid hall hcount

/-! ## Two packets -/

def sampleAddress : KvsIpAddress where
  family := KVS_IP_FAMILY_TYPE_IPV4
  port := 0x1388
  address := [192, 168, 1, 2, 0, 0, 0, 0, 0, 0, 0, 0, 0, 0, 0, 0]
  length_address := rfl

/-- The calls of a binding request. -/
def requestCalls : List AppendCall :=
  [.username [0x61, 0x3a, 0x62], .address .xorMapped sampleAddress (Or.inl rfl), .priority 0x6e001eff]

def requestPacket : StunPacket where
  header := ⟨1, 28, STUN_HEADER_MAGIC_COOKIE, sampleTransactionId⟩
  allocationSize := STUN_PACKET_ALLOCATION_SIZE
  attributeList := requestCalls.map AppendCall.attribute
  offsets := [200, 224, 256]

/-- The HMAC of the request with the password `pw`. -/
def requestHmac : Bytes :=
  [0x28, 0x71, 0x66, 0xa5, 0xf8, 0xd6, 0xe8, 0xec, 0x70, 0x05, 0xe3, 0x2a, 0xa3, 0xd3, 0xc0, 0x62,
    0xb6, 0xfc, 0xf4, 0x22]

theorem requestPacket_round_trip :
    RoundTrips (fun _ _ => requestHmac) (fun _ => 0xfb2bad8a) requestPacket (some samplePassword) true
      true := by
  refine (stun_round_trip_iff (fun _ _ => requestHmac) (fun _ => 0xfb2bad8a) (fun _ _ => rfl) 1
    sampleTransactionId rfl requestCalls requestPacket (by decide +kernel) (some samplePassword) true
    true ⟨by decide, by decide⟩).mpr ⟨?_, by decide⟩
  simp [requestCalls, AppendCall.Faithful]

/-- The address of a peer. -/
def peerCalls : List AppendCall := [.address .xorPeer sampleAddress (Or.inl rfl)]

def peerPacket : StunPacket where
  header := ⟨1, 12, STUN_HEADER_MAGIC_COOKIE, sampleTransactionId⟩
  allocationSize := STUN_PACKET_ALLOCATION_SIZE
  attributeList := peerCalls.map AppendCall.attribute
  offsets := [200]

/-- The peer's port comes back masked. -/
theorem peerPacket_lost :
    appendAll (createStunPacket 1 sampleTransactionId) peerCalls = .ok peerPacket ∧
      ¬ RoundTrips (fun _ _ => requestHmac) (fun _ => 0) peerPacket none false false := by
  have hrun : appendAll (createStunPacket 1 sampleTransactionId) peerCalls = .ok peerPacket := by
    decide +kernel
  refine ⟨hrun, fun hround => ?_⟩
  have happended := appended_run peerCalls (appended_create 1 sampleTransactionId) hrun
  have hall := (faithful_of_roundTrips (fun _ _ => rfl) happended ⟨by decide, by decide⟩ rfl hround).1
  exact (hall _ List.mem_cons_self).2 rfl

end KvsWebrtc.Stun
