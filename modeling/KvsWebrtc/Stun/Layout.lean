import KvsWebrtc.Lib.Region
import KvsWebrtc.Lib.Steps
import KvsWebrtc.Stun.Append
import Mathlib.Data.List.Induction

/-!
# Where the append functions put attributes

A packet is one allocation: its header, a table of 20 pointers and the structures of the attributes,
each behind the one before it by what `getPackagedStunAttributeSize` says.  A call that fails with a
status leaves the packet as it is; one that writes behind the allocation fails with `outOfBounds` in
the model.

Principal results:

* `covered_iff` — the size table has room for every attribute but XOR-RELAYED-ADDRESS;
* `layout_kept_iff` — a run of calls keeps the layout exactly when no call succeeds on a packet with
  20 attributes or behind an XOR-RELAYED-ADDRESS, and no length rounds up to 0.
-/

namespace KvsWebrtc.Stun

open Regions Steps

/-! ## Calls -/

/-- A call of an append function: those of `AppendCall`, addresses of any family, and
`appendStunIceControllAttribute` with any type. -/
inductive BuildCall where
  | call (c : AppendCall)
  | address (t : AddressType) (a : KvsIpAddress)
  | iceControl (attributeType : UINT16) (tieBreaker : UINT64)
  deriving DecidableEq

def BuildCall.append (p : StunPacket) : BuildCall → Except Failure StunPacket
  | .call c => c.append p
  | .address t a => appendStunAddressAttribute p t.type a
  | .iceControl attributeType tieBreaker =>
    appendStunIceControllAttribute p attributeType tieBreaker

def BuildCall.attribute : BuildCall → StunAttribute
  | .call c => c.attribute
  | .address t a =>
    ⟨t.type, BitVec.ofNat 16 (STUN_ATTRIBUTE_ADDRESS_HEADER_LEN + a.addressLength), .address a⟩
  | .iceControl attributeType tieBreaker => ⟨attributeType, 8, .tieBreaker tieBreaker⟩

/-- The length the caller gives. -/
def BuildCall.dataLength : BuildCall → Nat
  | .call (.nonce b) => b.length
  | .call (.data b) => b.length
  | _ => 0

/-- The bytes that are written behind the place of the attribute. -/
def BuildCall.written : BuildCall → Nat
  | .call c => c.written
  | .address _ _ => 28
  | .iceControl _ _ => 16

/-- The room behind the place of the attribute that a call asks for. -/
def BuildCall.room : BuildCall → Nat
  | .call (.address _ _ _) => ROUND_UP 28 8
  | .call (.iceControl _ _) => ROUND_UP 16 8
  | .call (.flag _) => ROUND_UP 4 8
  | .call (.username userName) => paddedRoom (strnCopy userName STUN_MAX_USERNAME_LEN)
  | .call (.realm r) => paddedRoom (strnCopy r STUN_MAX_REALM_LEN)
  | .call (.nonce b) => paddedRoom b
  | .call (.data b) => paddedRoom b
  | .call (.errorCode phrase _) => paddedRoom (strnCopy phrase STUN_MAX_ERROR_PHRASE_LEN)
  | .call (.allocationAddressFamily _) => ROUND_UP 8 4
  | .call _ => ROUND_UP 8 8
  | .address _ _ => ROUND_UP 28 8
  | .iceControl _ _ => ROUND_UP 16 8
where
  paddedRoom (data : Bytes) : Nat :=
    ROUND_UP ((paddedLengthOf (BitVec.ofNat 16 data.length)).toNat + 16) 8

/-- The check of `appendStunIceControllAttribute`. -/
def BuildCall.Accepted : BuildCall → Prop
  | .iceControl attributeType _ => attributeType = STUN_ATTRIBUTE_TYPE_ICE_CONTROLLING ∨
      attributeType = STUN_ATTRIBUTE_TYPE_ICE_CONTROLLED
  | _ => True

theorem BuildCall.append_eq (p : StunPacket) {c : BuildCall} (h : c.Accepted) : ∃ messageBytes,
    c.append p = appendAttribute p c.attribute c.room c.written messageBytes := by
  cases c with
  | call c =>
    cases c with
    | iceControl controlling tieBreaker =>
      refine ⟨_, if_pos ?_⟩
      cases controlling with
      | true => exact .inl rfl
      | false => exact .inr rfl
    | _ => exact ⟨_, rfl⟩
  | address t a => exact ⟨_, rfl⟩
  | iceControl attributeType tieBreaker => exact ⟨_, if_pos h⟩

theorem BuildCall.append_not_accepted (p : StunPacket) {c : BuildCall} (h : ¬c.Accepted) :
    c.append p = .error (.status .INVALID_ARG) := by
  cases c with
  | iceControl attributeType tieBreaker => exact if_neg h
  | _ => exact absurd trivial h

/-! ## Sizes -/

/-- The bytes of an attribute's structure, with its padded value behind it. -/
def StunAttribute.occupied (a : StunAttribute) : Nat :=
  match a.value with
  | .none => 4
  | .address _ => 28
  | .padded data => 16 + data.length
  | .errorCode _ phrase => 16 + phrase.length
  | .word _ => 8
  | .bytes _ => 8
  | .tieBreaker _ => 16
  | .channelNumber _ _ => 8

theorem StunAttribute.occupied_pos (a : StunAttribute) : 0 < a.occupied := by
  unfold occupied
  split <;> omega

theorem paddedRoom_ge {data : Bytes} (h : data.length ≤ 65532) :
    16 + (padTo (paddedLengthOf (BitVec.ofNat 16 data.length)).toNat data).length ≤
      BuildCall.room.paddedRoom data := by
  have hlen : (BitVec.ofNat 16 data.length).toNat = data.length := by
    rw [BitVec.toNat_ofNat]
    exact Nat.mod_eq_of_lt (by omega)
  have hup := @ROUND_UP_of_le (BitVec.ofNat 16 data.length) (by omega)
  have hle := le_ROUND_UP data.length
  rw [hlen] at hup
  rw [length_padTo (by omega), BuildCall.room.paddedRoom, hup]
  unfold ROUND_UP
  omega

theorem BuildCall.occupied_le_room {c : BuildCall} (h : c.dataLength ≤ 65532) :
    c.attribute.occupied ≤ c.room := by
  cases c with
  | call c =>
    cases c with
    | username userName =>
      have := length_strnCopy_le userName STUN_MAX_USERNAME_LEN
      exact paddedRoom_ge (le_trans this (by decide))
    | realm r =>
      have := length_strnCopy_le r STUN_MAX_REALM_LEN
      exact paddedRoom_ge (le_trans this (by decide))
    | errorCode phrase code =>
      have := length_strnCopy_le phrase STUN_MAX_ERROR_PHRASE_LEN
      exact paddedRoom_ge (le_trans this (by decide))
    | nonce b => exact paddedRoom_ge h
    | data b => exact paddedRoom_ge h
    | _ =>
      simp [BuildCall.attribute, AppendCall.attribute, BuildCall.room, StunAttribute.occupied,
        ROUND_UP]
  | address t a => exact (by decide : 28 ≤ ROUND_UP 28 8)
  | iceControl attributeType tieBreaker => exact (by decide : 16 ≤ ROUND_UP 16 8)

theorem covered_of_padded {a : StunAttribute} {data : Bytes} (hdata : 16 + data.length ≤ 2048)
    (htype : a.type = STUN_ATTRIBUTE_TYPE_REALM ∨ a.type = STUN_ATTRIBUTE_TYPE_NONCE ∨
      a.type = STUN_ATTRIBUTE_TYPE_DATA ∨ a.type = STUN_ATTRIBUTE_TYPE_USERNAME ∨
      a.type = STUN_ATTRIBUTE_TYPE_ERROR_CODE)
    (hvalue : a.value.paddedLength =
      (padTo (paddedLengthOf (BitVec.ofNat 16 data.length)).toNat data).length)
    (hoccupied : a.occupied = 16 + a.value.paddedLength) :
    a.occupied ≤ (getPackagedStunAttributeSize a).toNat ↔
      a.type ≠ STUN_ATTRIBUTE_TYPE_XOR_RELAYED_ADDRESS := by
  rw [length_padTo_padded (by omega)] at hvalue
  refine iff_of_true ?_ ?_
  · rw [hoccupied, getPackagedStunAttributeSize_padded htype, hvalue, BitVec.toNat_ofNat]
    unfold ROUND_UP
    omega
  · rcases htype with h | h | h | h | h
    all_goals
      rw [h]
      decide

/-- **The size table** has room for the structure of every attribute but one. -/
theorem covered_iff {c : BuildCall} (hc : c.Accepted) (h : c.written ≤ 2048) :
    c.attribute.occupied ≤ (getPackagedStunAttributeSize c.attribute).toNat ↔
      c.attribute.type ≠ STUN_ATTRIBUTE_TYPE_XOR_RELAYED_ADDRESS := by
  have haddress : ∀ (t : AddressType) (a : KvsIpAddress), (28 : Nat) ≤
      (getPackagedStunAttributeSize ⟨t.type,
        BitVec.ofNat 16 (STUN_ATTRIBUTE_ADDRESS_HEADER_LEN + a.addressLength), .address a⟩).toNat ↔
      t.type ≠ STUN_ATTRIBUTE_TYPE_XOR_RELAYED_ADDRESS := by
    intro t a
    cases t with
    | xorRelayed =>
      rcases addressLength_cases a with h4 | h16
      · simp [getPackagedStunAttributeSize, AddressType.type, h4, ROUND_UP,
          STUN_ATTRIBUTE_HEADER_LEN, STUN_ATTRIBUTE_ADDRESS_HEADER_LEN]
      · simp [getPackagedStunAttributeSize, AddressType.type, h16, ROUND_UP,
          STUN_ATTRIBUTE_HEADER_LEN, STUN_ATTRIBUTE_ADDRESS_HEADER_LEN]
    | _ => simp [getPackagedStunAttributeSize, AddressType.type, ROUND_UP]
  cases c with
  | call c =>
    cases c with
    | address t a _ => exact haddress t a
    | username userName =>
      exact covered_of_padded h
        (by simp [BuildCall.attribute, AppendCall.attribute, paddedAttribute]) rfl rfl
    | realm r =>
      exact covered_of_padded h
        (by simp [BuildCall.attribute, AppendCall.attribute, paddedAttribute]) rfl rfl
    | errorCode phrase code =>
      exact covered_of_padded h
        (by simp [BuildCall.attribute, AppendCall.attribute]) rfl rfl
    | nonce b =>
      exact covered_of_padded h
        (by simp [BuildCall.attribute, AppendCall.attribute, paddedAttribute]) rfl rfl
    | data b =>
      exact covered_of_padded h
        (by simp [BuildCall.attribute, AppendCall.attribute, paddedAttribute]) rfl rfl
    | flag t =>
      cases t <;> simp [BuildCall.attribute, AppendCall.attribute, StunAttribute.occupied,
        getPackagedStunAttributeSize, ROUND_UP, FlagType.type]
    | iceControl controlling v =>
      cases controlling <;> simp [BuildCall.attribute, AppendCall.attribute,
        StunAttribute.occupied, getPackagedStunAttributeSize, ROUND_UP, iceControlType]
    | _ =>
      simp [BuildCall.attribute, AppendCall.attribute, StunAttribute.occupied,
        getPackagedStunAttributeSize, ROUND_UP, STUN_ATTRIBUTE_HEADER_LEN]
  | address t a => exact haddress t a
  | iceControl attributeType tieBreaker =>
    rcases hc with rfl | rfl <;> simp [BuildCall.attribute, StunAttribute.occupied,
      getPackagedStunAttributeSize, ROUND_UP]

/-! ## Layout -/

/-- Where the attributes lie. -/
def StunPacket.regions (p : StunPacket) : List Region :=
  List.zipWith (fun offset a => ⟨offset, a.occupied⟩) p.offsets p.attributeList

/-- The end of the pointer table. -/
abbrev ATTRIBUTES_START : Nat := SIZEOF_STUN_PACKET + STUN_ATTRIBUTE_MAX_COUNT * SIZEOF_POINTER

/-- The layout of a packet's memory. -/
structure LaidOut (p : StunPacket) : Prop where
  count_le : p.attributeList.length ≤ STUN_ATTRIBUTE_MAX_COUNT
  inside : ∀ r ∈ p.regions, ATTRIBUTES_START ≤ r.start ∧ r.stop ≤ p.allocationSize
  apart : p.regions.Pairwise Region.Apart

/-- What a successful call writes: the header, the next pointer and the attribute. -/
def BuildCall.writes (p : StunPacket) (c : BuildCall) (offset : Nat) : List Region :=
  [⟨0, SIZEOF_STUN_PACKET⟩,
    ⟨SIZEOF_STUN_PACKET + p.attributeList.length * SIZEOF_POINTER, SIZEOF_POINTER⟩,
    ⟨offset, c.written⟩]

/-- The call keeps the layout and what the attributes hold, and writes inside the allocation; one
that fails with a status has written nothing. -/
def BuildCall.Keeps (p : StunPacket) (c : BuildCall) : Prop :=
  match c.append p with
  | .ok p' => LaidOut p' ∧ p.attributeList <+: p'.attributeList ∧ p.offsets <+: p'.offsets ∧
      ∀ offset ∈ p'.offsets.getLast?, ∀ r ∈ p.regions, ∀ s ∈ c.writes p offset, r.Apart s
  | .error (.status _) => True
  | .error _ => False

/-- The place behind the last attribute, by the size table. -/
def StunPacket.free (p : StunPacket) : Nat :=
  match p.attributeList.getLast?, p.offsets.getLast? with
  | some a, some offset => offset + (getPackagedStunAttributeSize a).toNat
  | _, _ => ATTRIBUTES_START

/-- The checks of a call. -/
def BuildCall.Passes (p : StunPacket) (c : BuildCall) : Prop :=
  c.Accepted ∧ p.attributeList.length ≤ STUN_ATTRIBUTE_MAX_COUNT ∧
    p.free + c.room ≤ p.allocationSize

/-- The call is refused, or it comes to fewer than 20 attributes, not behind a relayed address, and
its length does not round up to 0. -/
def BuildCall.Fits (p : StunPacket) (c : BuildCall) : Prop :=
  c.Passes p → p.attributeList.length < STUN_ATTRIBUTE_MAX_COUNT ∧ c.dataLength ≤ 65532 ∧
    ∀ a ∈ p.attributeList.getLast?, a.type ≠ STUN_ATTRIBUTE_TYPE_XOR_RELAYED_ADDRESS

/-! ## Packets that were built -/

/-- What every packet built by calls has. -/
structure Built (p : StunPacket) : Prop where
  allocationSize : p.allocationSize = STUN_PACKET_ALLOCATION_SIZE
  length_offsets : p.offsets.length = p.attributeList.length
  attributes : ∀ a ∈ p.attributeList, ∃ c : BuildCall, c.Accepted ∧ c.written ≤ 2048 ∧
    c.attribute = a

theorem Built.create (stunPacketType : UINT16) (transactionId : Bytes) :
    Built (createStunPacket stunPacketType transactionId) where
  allocationSize := rfl
  length_offsets := rfl
  attributes := by simp [createStunPacket]

theorem BuildCall.attribute_type {c : BuildCall} (hc : c.Accepted) :
    c.attribute.type ≠ STUN_ATTRIBUTE_TYPE_MESSAGE_INTEGRITY ∧
      c.attribute.type ≠ STUN_ATTRIBUTE_TYPE_FINGERPRINT := by
  have haddress : ∀ t : AddressType, t.type ≠ STUN_ATTRIBUTE_TYPE_MESSAGE_INTEGRITY ∧
      t.type ≠ STUN_ATTRIBUTE_TYPE_FINGERPRINT := by
    intro t
    cases t <;> decide
  cases c with
  | call c =>
    cases c with
    | address t a _ => exact haddress t
    | flag t => cases t <;> simp [BuildCall.attribute, AppendCall.attribute, FlagType.type]
    | iceControl controlling v =>
      cases controlling <;> simp [BuildCall.attribute, AppendCall.attribute, iceControlType]
    | _ => simp [BuildCall.attribute, AppendCall.attribute, paddedAttribute]
  | address t a => exact haddress t
  | iceControl attributeType tieBreaker => rcases hc with rfl | rfl <;> simp [BuildCall.attribute]

theorem BuildCall.room_pos (c : BuildCall) : 0 < c.room := by
  have hpadded : ∀ data : Bytes, 0 < room.paddedRoom data := by
    intro data
    unfold room.paddedRoom ROUND_UP
    omega
  cases c with
  | call c =>
    cases c with
    | username userName => exact hpadded _
    | realm r => exact hpadded _
    | nonce b => exact hpadded _
    | data b => exact hpadded _
    | errorCode phrase code => exact hpadded _
    | _ => simp [room, ROUND_UP]
  | _ => simp [room, ROUND_UP]

section

variable {p p' : StunPacket} {c : BuildCall}

theorem Built.cases_last (h : Built p) : (p.attributeList = [] ∧ p.offsets = []) ∨
    ∃ attributes a offsets offset, p.attributeList = attributes ++ [a] ∧
      p.offsets = offsets ++ [offset] ∧ offsets.length = attributes.length := by
  have hlen := h.length_offsets
  rcases List.eq_nil_or_concat p.attributeList with hnil | ⟨attributes, a, hconcat⟩
  · refine .inl ⟨hnil, List.length_eq_zero_iff.mp ?_⟩
    rw [hlen, hnil, List.length_nil]
  · rcases List.eq_nil_or_concat p.offsets with hnil' | ⟨offsets, offset, hconcat'⟩
    · simp [hnil', hconcat] at hlen
    · refine .inr ⟨attributes, a, offsets, offset, ?_, ?_, ?_⟩
      · rw [hconcat, List.concat_eq_append]
      · rw [hconcat', List.concat_eq_append]
      · simpa [hconcat, hconcat'] using hlen

theorem Built.firstAvailable (h : Built p)
    (hcount : p.attributeList.length ≤ STUN_ATTRIBUTE_MAX_COUNT) :
    getFirstAvailableStunAttribute p =
      if p.free < p.allocationSize then .ok p.free else .error .NOT_ENOUGH_MEMORY := by
  rw [getFirstAvailableStunAttribute, if_pos hcount]
  rcases h.cases_last with ⟨hnil, hnil'⟩ | ⟨attributes, a, offsets, offset, hlist, hoffsets, -⟩
  · have hfree : p.free = ATTRIBUTES_START := by simp [StunPacket.free, hnil]
    rw [hfree, h.allocationSize, hnil]
    rfl
  · obtain ⟨c, hc, -, rfl⟩ := h.attributes a (by simp [hlist])
    have hfree : p.free = offset + (getPackagedStunAttributeSize c.attribute).toNat := by
      simp [StunPacket.free, hlist, hoffsets]
    simp only [hlist, hoffsets, List.getLast?_append, List.getLast?_singleton, Option.some_or]
    rw [if_pos (BuildCall.attribute_type hc), hfree]

/-- The packet with the attribute of a call. -/
structure Adds (p : StunPacket) (c : BuildCall) (p' : StunPacket) : Prop where
  allocationSize : p'.allocationSize = p.allocationSize
  attributeList : p'.attributeList = p.attributeList ++ [c.attribute]
  offsets : p'.offsets = p.offsets ++ [p.free]

theorem Built.append_refused (h : Built p) (hpasses : ¬c.Passes p) :
    ∃ s, c.append p = .error (.status s) := by
  by_cases hc : c.Accepted
  case neg => exact ⟨_, BuildCall.append_not_accepted p hc⟩
  obtain ⟨messageBytes, heq⟩ := BuildCall.append_eq p hc
  rw [heq, appendAttribute]
  by_cases hcount : p.attributeList.length ≤ STUN_ATTRIBUTE_MAX_COUNT
  · rw [h.firstAvailable hcount]
    by_cases hfree : p.free < p.allocationSize
    · have hroom : ¬p.allocationSize ≥ p.free + c.room := fun hroom => hpasses ⟨hc, hcount, hroom⟩
      rw [if_pos hfree]
      simp only [if_neg hroom]
      exact ⟨_, rfl⟩
    · rw [if_neg hfree]
      exact ⟨_, rfl⟩
  · rw [getFirstAvailableStunAttribute, if_neg hcount]
    exact ⟨_, rfl⟩

theorem Built.append_passes (h : Built p) (hpasses : c.Passes p) :
    if p.free + c.written ≤ p.allocationSize then ∃ p', c.append p = .ok p' ∧ Adds p c p'
    else c.append p = .error .outOfBounds := by
  obtain ⟨hc, hcount, hroom⟩ := hpasses
  obtain ⟨messageBytes, heq⟩ := BuildCall.append_eq p hc
  have hpos := c.room_pos
  have hfree : p.free < p.allocationSize := by omega
  rw [heq, appendAttribute, h.firstAvailable hcount, if_pos hfree]
  simp only [ge_iff_le, if_pos hroom]
  by_cases hwritten : p.free + c.written ≤ p.allocationSize
  · rw [if_pos hwritten, if_pos hwritten]
    exact ⟨_, rfl, rfl, rfl, rfl⟩
  · rw [if_neg hwritten, if_neg hwritten]

theorem Built.adds (h : Built p) (hc : c.Accepted)
    (hwritten : p.free + c.written ≤ p.allocationSize) (hadds : Adds p c p') : Built p' := by
  refine ⟨hadds.allocationSize.trans h.allocationSize, ?_, ?_⟩
  · simp [hadds.offsets, hadds.attributeList, h.length_offsets]
  · intro a ha
    rw [hadds.attributeList, List.mem_append, List.mem_singleton] at ha
    rcases ha with ha | rfl
    · exact h.attributes a ha
    · have hsize := h.allocationSize
      refine ⟨c, hc, ?_, rfl⟩
      rw [STUN_PACKET_ALLOCATION_SIZE] at hsize
      omega

theorem Adds.regions (h : Built p) (hadds : Adds p c p') :
    p'.regions = p.regions ++ [⟨p.free, c.attribute.occupied⟩] := by
  rw [StunPacket.regions, hadds.offsets, hadds.attributeList, List.zipWith_append h.length_offsets]
  rfl

/-! ## One call -/

/-- The layout, with the attributes in order. -/
structure InOrder (p : StunPacket) : Prop where
  count_le : p.attributeList.length ≤ STUN_ATTRIBUTE_MAX_COUNT
  inside : ∀ r ∈ p.regions, ATTRIBUTES_START ≤ r.start ∧ r.stop ≤ p.allocationSize
  stacked : Stacked p.regions

theorem InOrder.create (stunPacketType : UINT16) (transactionId : Bytes) :
    InOrder (createStunPacket stunPacketType transactionId) where
  count_le := Nat.zero_le _
  inside := by simp [StunPacket.regions, createStunPacket]
  stacked := List.Pairwise.nil

theorem InOrder.laidOut (h : InOrder p) : LaidOut p where
  count_le := h.count_le
  inside := h.inside
  apart := h.stacked.pairwise_apart

theorem regions_last {attributes : List StunAttribute} {a : StunAttribute} {offsets : List Nat}
    {offset : Nat} (hlist : p.attributeList = attributes ++ [a])
    (hoffsets : p.offsets = offsets ++ [offset]) (hlen : offsets.length = attributes.length) :
    p.regions = List.zipWith (fun offset a => ⟨offset, a.occupied⟩) offsets attributes ++
      [⟨offset, a.occupied⟩] := by
  rw [StunPacket.regions, hlist, hoffsets, List.zipWith_append hlen]
  rfl

theorem free_last {attributes : List StunAttribute} {a : StunAttribute} {offsets : List Nat}
    {offset : Nat} (hlist : p.attributeList = attributes ++ [a])
    (hoffsets : p.offsets = offsets ++ [offset]) :
    p.free = offset + (getPackagedStunAttributeSize a).toNat := by
  simp [StunPacket.free, hlist, hoffsets]

theorem InOrder.start_le_free (ho : InOrder p) (h : Built p) : ATTRIBUTES_START ≤ p.free := by
  rcases h.cases_last with ⟨hnil, -⟩ | ⟨attributes, a, offsets, offset, hlist, hoffsets, hlen⟩
  · simp [StunPacket.free, hnil]
  · have hlast := ho.inside ⟨offset, a.occupied⟩ (by simp [regions_last hlist hoffsets hlen])
    rw [free_last hlist hoffsets]
    exact le_trans hlast.1 (Nat.le_add_right offset _)

/-- The place for the next attribute is behind all of them, unless the last is a relayed address. -/
theorem InOrder.stop_le_free (ho : InOrder p) (h : Built p)
    (htype : ∀ a ∈ p.attributeList.getLast?, a.type ≠ STUN_ATTRIBUTE_TYPE_XOR_RELAYED_ADDRESS) :
    ∀ r ∈ p.regions, r.stop ≤ p.free := by
  rcases h.cases_last with ⟨hnil, hnil'⟩ | ⟨attributes, a, offsets, offset, hlist, hoffsets, hlen⟩
  · simp [StunPacket.regions, hnil]
  · intro r hr
    obtain ⟨c, hc, hwritten, rfl⟩ := h.attributes a (by simp [hlist])
    have hcovered := (covered_iff hc hwritten).mpr (htype _ (by simp [hlist]))
    have hstack := ho.stacked
    rw [regions_last hlist hoffsets hlen] at hstack hr
    have hstop := hstack.stop_le r hr
    rw [free_last hlist hoffsets]
    exact le_trans hstop (Nat.add_le_add_left hcovered offset)

theorem BuildCall.written_le_occupied {c : BuildCall} (h : c.dataLength ≤ 65532) :
    c.written ≤ c.attribute.occupied := by
  have hpad : ∀ (n : Nat) (b : Bytes), b.length ≤ (padTo n b).length := by
    intro n b
    rw [padTo, List.length_append]
    exact Nat.le_add_right _ _
  cases c with
  | call c =>
    cases c with
    | username userName => exact Nat.add_le_add_left (hpad _ _) 16
    | realm r => exact Nat.add_le_add_left (hpad _ _) 16
    | nonce b => exact Nat.add_le_add_left (hpad _ _) 16
    | data b => exact Nat.add_le_add_left (hpad _ _) 16
    | errorCode phrase code => exact Nat.add_le_add_left (hpad _ _) 16
    | _ => exact le_of_eq rfl
  | _ => exact le_of_eq rfl

theorem BuildCall.dataLength_le_written (c : BuildCall) : c.dataLength ≤ c.written := by
  cases c with
  | call c =>
    cases c with
    | nonce b => exact Nat.le_add_left _ _
    | data b => exact Nat.le_add_left _ _
    | _ => exact Nat.zero_le _
  | _ => exact Nat.zero_le _

/-- **A call that fits** keeps the layout, and the attributes stay in order. -/
theorem InOrder.adds (ho : InOrder p) (h : Built p) (hpasses : c.Passes p) (hfits : c.Fits p)
    (hadds : Adds p c p') : InOrder p' := by
  obtain ⟨hcount, hlength, htype⟩ := hfits hpasses
  have hroom := BuildCall.occupied_le_room hlength
  refine ⟨?_, ?_, ?_⟩
  · rw [hadds.attributeList, List.length_append, List.length_singleton]
    exact hcount
  · rw [hadds.regions h, hadds.allocationSize]
    intro r hr
    rcases List.mem_append.mp hr with hr | hr
    · exact ho.inside r hr
    · rw [List.mem_singleton.mp hr]
      exact ⟨ho.start_le_free h, le_trans (Nat.add_le_add_left hroom p.free) hpasses.2.2⟩
  · rw [hadds.regions h]
    exact ho.stacked.concat (ho.stop_le_free h htype)

theorem InOrder.writes_apart (ho : InOrder p) (h : Built p) (hpasses : c.Passes p)
    (hfits : c.Fits p) : ∀ r ∈ p.regions, ∀ s ∈ c.writes p p.free, r.Apart s := by
  obtain ⟨hcount, -, htype⟩ := hfits hpasses
  intro r hr s hs
  have hstart := (ho.inside r hr).1
  simp only [BuildCall.writes, List.mem_cons, List.not_mem_nil, or_false] at hs
  rcases hs with rfl | rfl | rfl
  · refine .inr (le_trans ?_ hstart)
    decide
  · refine .inr (le_trans ?_ hstart)
    change SIZEOF_STUN_PACKET + p.attributeList.length * SIZEOF_POINTER + SIZEOF_POINTER ≤ _
    have hmax : STUN_ATTRIBUTE_MAX_COUNT = 20 := rfl
    simp only [ATTRIBUTES_START, SIZEOF_STUN_PACKET, SIZEOF_POINTER]
    omega
  · exact .inl (ho.stop_le_free h htype r hr)

theorem BuildCall.keeps_ok (hok : c.append p = .ok p') : c.Keeps p ↔
    LaidOut p' ∧ p.attributeList <+: p'.attributeList ∧ p.offsets <+: p'.offsets ∧
      ∀ offset ∈ p'.offsets.getLast?, ∀ r ∈ p.regions, ∀ s ∈ c.writes p offset, r.Apart s := by
  rw [BuildCall.Keeps, hok]

theorem BuildCall.written_fits (hpasses : c.Passes p)
    (hfits : c.Fits p) : p.free + c.written ≤ p.allocationSize := by
  obtain ⟨-, hlength, -⟩ := hfits hpasses
  have hwritten := BuildCall.written_le_occupied hlength
  have hroom := BuildCall.occupied_le_room hlength
  have hall := hpasses.2.2
  omega

/-- **A call** on a packet in order keeps the layout exactly when it fits. -/
theorem keeps_iff_fits (h : Built p) (ho : InOrder p) : c.Keeps p ↔ c.Fits p := by
  by_cases hpasses : c.Passes p
  case neg =>
    obtain ⟨s, hrefused⟩ := h.append_refused hpasses
    refine iff_of_true ?_ fun hp => absurd hp hpasses
    rw [BuildCall.Keeps, hrefused]
    trivial
  have happend := h.append_passes hpasses
  constructor
  · intro hkeeps _
    by_cases hwritten : p.free + c.written ≤ p.allocationSize
    case neg =>
      rw [if_neg hwritten] at happend
      rw [BuildCall.Keeps, happend] at hkeeps
      exact hkeeps.elim
    rw [if_pos hwritten] at happend
    obtain ⟨p', hok, hadds⟩ := happend
    obtain ⟨hlaid, -⟩ := (BuildCall.keeps_ok hok).mp hkeeps
    refine ⟨?_, ?_, ?_⟩
    · have hcount := hlaid.count_le
      rw [hadds.attributeList, List.length_append, List.length_singleton] at hcount
      exact hcount
    · have hdata := c.dataLength_le_written
      rw [h.allocationSize, STUN_PACKET_ALLOCATION_SIZE] at hwritten
      omega
    · -- the new attribute starts at `free`: it is apart from the last one only if that is covered
      intro a ha
      rcases h.cases_last with ⟨hnil, -⟩ | ⟨attributes, a', offsets, offset, hlist, hoffsets, hlen⟩
      · simp [hnil] at ha
      · obtain rfl : a' = a := by simpa [hlist] using ha
        obtain ⟨c', hc', hwritten', rfl⟩ := h.attributes a' (by simp [hlist])
        have hapart := hlaid.apart
        rw [hadds.regions h, regions_last hlist hoffsets hlen, free_last hlist hoffsets] at hapart
        have hlast := (List.pairwise_append.mp hapart).2.2 ⟨offset, c'.attribute.occupied⟩
          (by simp) _ (List.mem_singleton_self _)
        have hpos := c.attribute.occupied_pos
        refine (covered_iff hc' hwritten').mp ?_
        rcases hlast with hlast | hlast
        · simp only [Region.stop] at hlast
          omega
        · simp only [Region.stop] at hlast
          omega
  · intro hfits
    rw [if_pos (BuildCall.written_fits hpasses hfits)] at happend
    obtain ⟨p', hok, hadds⟩ := happend
    refine (BuildCall.keeps_ok hok).mpr ⟨(ho.adds h hpasses hfits hadds).laidOut, ?_, ?_, ?_⟩
    · exact hadds.attributeList ▸ List.prefix_append _ _
    · exact hadds.offsets ▸ List.prefix_append _ _
    · intro offset hoffset
      obtain rfl : p.free = offset := by simpa [hadds.offsets] using hoffset
      exact ho.writes_apart h hpasses hfits

end

/-! ## Runs of calls -/

/-- The packet after a call: a refused one leaves it as it is. -/
def BuildCall.after (p : StunPacket) (c : BuildCall) : StunPacket :=
  match c.append p with
  | .ok p' => p'
  | .error _ => p

def buildPacket (stunPacketType : UINT16) (transactionId : Bytes) (calls : List BuildCall) :
    StunPacket :=
  calls.foldl BuildCall.after (createStunPacket stunPacketType transactionId)

theorem Built.after {p : StunPacket} (h : Built p) (c : BuildCall) : Built (c.after p) := by
  rw [BuildCall.after]
  by_cases hpasses : c.Passes p
  case neg =>
    obtain ⟨s, hrefused⟩ := h.append_refused hpasses
    rwa [hrefused]
  have happend := h.append_passes hpasses
  by_cases hwritten : p.free + c.written ≤ p.allocationSize
  · rw [if_pos hwritten] at happend
    obtain ⟨p', hok, hadds⟩ := happend
    rw [hok]
    exact h.adds hpasses.1 hwritten hadds
  · rw [if_neg hwritten] at happend
    rwa [happend]

theorem InOrder.after {p : StunPacket} {c : BuildCall} (ho : InOrder p) (h : Built p)
    (hfits : c.Fits p) : InOrder (c.after p) := by
  rw [BuildCall.after]
  by_cases hpasses : c.Passes p
  case neg =>
    obtain ⟨s, hrefused⟩ := h.append_refused hpasses
    rwa [hrefused]
  have happend := h.append_passes hpasses
  rw [if_pos (BuildCall.written_fits hpasses hfits)] at happend
  obtain ⟨p', hok, hadds⟩ := happend
  rw [hok]
  exact ho.adds h hpasses hfits hadds

theorem built_buildPacket {stunPacketType : UINT16} {transactionId : Bytes}
    (calls : List BuildCall) : Built (buildPacket stunPacketType transactionId calls) := by
  induction calls using List.reverseRecOn with
  | nil => exact Built.create _ _
  | append_singleton calls c ih =>
    rw [buildPacket, List.foldl_append]
    exact ih.after c

/-- **A run of append calls** on a created packet keeps the layout at every call exactly when every
call is refused or comes to fewer than 20 attributes, not behind a relayed address, with a length
that does not round up to 0. -/
theorem layout_kept_iff (stunPacketType : UINT16) (transactionId : Bytes) (calls : List BuildCall) :
    (∀ done c later, calls = done ++ c :: later →
        c.Keeps (buildPacket stunPacketType transactionId done)) ↔
      ∀ done c later, calls = done ++ c :: later →
        c.Fits (buildPacket stunPacketType transactionId done) := by
  let Inv : StunPacket → Prop := fun p => Built p ∧ InOrder p
  let Dom : StunPacket → BuildCall → Prop := fun _ _ => True
  have hcreate : Inv (createStunPacket stunPacketType transactionId) :=
    ⟨Built.create _ _, InOrder.create _ _⟩
  have hafter : ∀ p c, Inv p → Dom p c → c.Fits p → Inv (c.after p) :=
    fun p c hinv _ hfits => ⟨hinv.1.after c, hinv.2.after hinv.1 hfits⟩
  have hstep : ∀ p c, Inv p → Dom p c → (c.Keeps p ↔ c.Fits p) :=
    fun p c hinv _ => keeps_iff_fits hinv.1 hinv.2
  have hall : Each BuildCall.after Dom (createStunPacket stunPacketType transactionId) calls :=
    each_iff.mpr fun _ _ _ _ => trivial
  have hruns := Each.iff_of_inv hcreate hafter hstep hall
  rwa [each_iff, each_iff] at hruns

/-! ## Calls that do not fit -/

/-- Flags without a value: the 21st is accepted, and its pointer is written over the first. -/
def flagCalls (n : Nat) : List BuildCall := List.replicate n (.call (.flag .dontFragment))

theorem length_flagCalls : (buildPacket 1 [] (flagCalls 20)).attributeList.length = 20 := by
  decide +kernel

theorem free_flagCalls : (buildPacket 1 [] (flagCalls 20)).free = 360 := by
  decide +kernel

set_option maxRecDepth 4096 in
theorem not_layout_kept : ¬∀ done c later, flagCalls 21 = done ++ c :: later →
    c.Keeps (buildPacket 1 [] done) := by
  intro h
  have hkeeps := h (flagCalls 20) (.call (.flag .dontFragment)) [] rfl
  have hbuilt := (built_buildPacket (flagCalls 20) : Built (buildPacket 1 [] (flagCalls 20)))
  have hpasses : (BuildCall.call (.flag .dontFragment)).Passes
      (buildPacket 1 [] (flagCalls 20)) := by
    refine ⟨trivial, le_of_eq length_flagCalls, ?_⟩
    rw [free_flagCalls, hbuilt.allocationSize]
    decide
  have happend := hbuilt.append_passes hpasses
  have hwritten : (buildPacket 1 [] (flagCalls 20)).free +
      (BuildCall.call (.flag .dontFragment)).written ≤
        (buildPacket 1 [] (flagCalls 20)).allocationSize := by
    rw [free_flagCalls, hbuilt.allocationSize]
    decide
  rw [if_pos hwritten] at happend
  obtain ⟨p', hok, hadds⟩ := happend
  have hcount := ((BuildCall.keeps_ok hok).mp hkeeps).1.count_le
  rw [hadds.attributeList, List.length_append, length_flagCalls] at hcount
  exact absurd hcount (by decide)

end KvsWebrtc.Stun
