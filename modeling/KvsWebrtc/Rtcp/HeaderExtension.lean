import KvsWebrtc.Rtcp.Twcc

/-!
# One-byte header extensions (`Rtcp.c`)

`findOneByteExtension` walks over the elements of a header extension and compares the start of each
one with the end of the payload, but not its data.  `twccReceiverOnPacketReceived` reads a sequence
number of two bytes behind the header of the element that was found and does not ask for its length.

An extension is shorter than `2 ^ 16` bytes, so the offset never wraps.

Principal results:

* `found_iff` — the walk finds the first element with the id;
* `extension_lookup` — the walk reads only the payload; the data of the element lie in it, and a
  sequence number is recorded of two bytes of it, exactly if the payload is not cut short there.
-/

namespace KvsWebrtc.Rtcp.HeaderExtension

abbrev TWCC_EXT_PROFILE : UINT16 := 0xBEDE

/-- The payload of an extension and the memory behind it. -/
structure Extension where
  payload : Bytes
  behind : Nat → UINT8

/-- `extensionLength`. -/
def Extension.length (e : Extension) : Nat := e.payload.length

def Extension.byte (e : Extension) (i : Nat) : UINT8 :=
  match e.payload[i]? with
  | some b => b
  | none => e.behind (i - e.length)

def idOf (byte : UINT8) : UINT8 := (byte >>> 4) &&& 0x0F

/-- The number of data bytes. -/
def lenOf (byte : UINT8) : UINT8 := (byte &&& 0x0F) + 1

/-- Where the data of an element begin, and `*pDataLen`. -/
structure Found where
  data : Nat
  dataLen : UINT8
  deriving DecidableEq, Repr

/-- The loop from `offset` on: the offsets that are read, and the result. -/
def findOneByteExtension (e : Extension) (targetId : UINT8) (offset : Nat) :
    List Nat × Option Found :=
  if offset < e.length then
    let byte := e.byte offset
    if byte = 0 then
      let rest := findOneByteExtension e targetId (offset + 1)
      (offset :: rest.1, rest.2)
    else if idOf byte = 15 then ([offset], none)
    else if idOf byte = targetId then ([offset], some ⟨offset + 1, lenOf byte⟩)
    else
      let rest := findOneByteExtension e targetId (offset + 1 + (lenOf byte).toNat)
      (offset :: rest.1, rest.2)
  else ([], none)
termination_by e.length - offset

/-- A received packet with a header extension. -/
structure ReceivedPacket where
  extension : Bool
  extensionProfile : UINT16
  extensionPayload : Extension
  receivedTime : UINT64
  ssrc : UINT32

/-- The two bytes at the data of an element. -/
def sequenceNumberAt (e : Extension) (data : Nat) : UINT16 :=
  getUnalignedInt16BigEndian [e.byte data, e.byte (data + 1)] 0

/-- There is no manager without the extension's negotiation. -/
def twccReceiverOnPacketReceived (m : Option TwccReceiverManager) (twccExtId : UINT16)
    (p : ReceivedPacket) : Option TwccReceiverManager :=
  if p.extension && p.extensionProfile = TWCC_EXT_PROFILE then
    match m, (findOneByteExtension p.extensionPayload (twccExtId.truncate 8) 0).2 with
    | some m, some found =>
      some (Rtcp.twccReceiverOnPacketReceived m
        ⟨sequenceNumberAt p.extensionPayload found.data, p.receivedTime, p.ssrc⟩)
    | m, _ => m
  else m

/-! ## Elements -/

/-- The walk over padding and elements comes from one offset to another. -/
inductive Walk (e : Extension) : Nat → Nat → Prop where
  | here (p : Nat) : Walk e p p
  | padding {p q : Nat} (hin : p < e.length) (hzero : e.byte p = 0) (h : Walk e (p + 1) q) :
    Walk e p q
  | element {p q : Nat} (hin : p < e.length) (hbyte : e.byte p ≠ 0) (hid : idOf (e.byte p) ≠ 15)
    (h : Walk e (p + 1 + (lenOf (e.byte p)).toNat) q) : Walk e p q

/-- An element with this id begins at `p`. -/
structure ElementAt (e : Extension) (id : UINT8) (start p : Nat) : Prop where
  walk : Walk e start p
  inside : p < e.length
  byte : e.byte p ≠ 0
  notReserved : idOf (e.byte p) ≠ 15
  id : idOf (e.byte p) = id

/-- It is the first one. -/
def FirstElement (e : Extension) (id : UINT8) (start p : Nat) : Prop :=
  ElementAt e id start p ∧ ∀ q, ElementAt e id start q → p ≤ q

variable {e : Extension} {id : UINT8}

theorem Walk.le {p q : Nat} (h : Walk e p q) : p ≤ q := by
  induction h with
  | here p => exact Nat.le_refl p
  | padding _ _ _ ih => omega
  | element _ _ _ _ ih => omega

theorem elementAt_padding {p q : Nat} (hin : p < e.length) (hzero : e.byte p = 0) :
    ElementAt e id p q ↔ ElementAt e id (p + 1) q := by
  constructor
  · rintro ⟨hwalk, hinside, hbyte, hreserved, hid⟩
    refine ⟨?_, hinside, hbyte, hreserved, hid⟩
    cases hwalk with
    | here => exact absurd hzero hbyte
    | padding _ _ h => exact h
    | element _ hne _ _ => exact absurd hzero hne
  · rintro ⟨hwalk, hinside, hbyte, hreserved, hid⟩
    exact ⟨.padding hin hzero hwalk, hinside, hbyte, hreserved, hid⟩

theorem elementAt_other {p q : Nat} (hin : p < e.length) (hbyte : e.byte p ≠ 0)
    (hreserved : idOf (e.byte p) ≠ 15) (hother : idOf (e.byte p) ≠ id) :
    ElementAt e id p q ↔ ElementAt e id (p + 1 + (lenOf (e.byte p)).toNat) q := by
  constructor
  · rintro ⟨hwalk, hinside, hbyteq, hreservedq, hid⟩
    refine ⟨?_, hinside, hbyteq, hreservedq, hid⟩
    cases hwalk with
    | here => exact absurd hid hother
    | padding _ hzero _ => exact absurd hzero hbyte
    | element _ _ _ h => exact h
  · rintro ⟨hwalk, hinside, hbyteq, hreservedq, hid⟩
    exact ⟨.element hin hbyte hreserved hwalk, hinside, hbyteq, hreservedq, hid⟩

theorem not_elementAt_reserved {p q : Nat} (hbyte : e.byte p ≠ 0)
    (hreserved : idOf (e.byte p) = 15) : ¬ElementAt e id p q := by
  rintro ⟨hwalk, -, -, hne, -⟩
  cases hwalk with
  | here => exact hne hreserved
  | padding _ hzero _ => exact hbyte hzero
  | element _ _ hid _ => exact hid hreserved

theorem not_elementAt_end {p q : Nat} (hend : ¬p < e.length) : ¬ElementAt e id p q := by
  rintro ⟨hwalk, hinside, -, -, -⟩
  have := hwalk.le
  omega

/-- **The loop finds the first element with the id.** -/
theorem found_iff (e : Extension) (id : UINT8) (start : Nat) (found : Found) :
    (findOneByteExtension e id start).2 = some found ↔
      ∃ p, FirstElement e id start p ∧ found = ⟨p + 1, lenOf (e.byte p)⟩ := by
  fun_induction findOneByteExtension e id start with
  | case1 start hin byte hzero rest ih =>
    rw [ih]
    simp only [FirstElement, elementAt_padding hin hzero]
  | case2 start hin byte hbyte hreserved =>
    simp only [reduceCtorEq, false_iff, not_exists, FirstElement]
    rintro p ⟨⟨hp, -⟩, -⟩
    exact not_elementAt_reserved hbyte hreserved hp
  | case3 start hin byte hbyte hreserved hid =>
    have hhere : ElementAt e id start start := ⟨.here start, hin, hbyte, hreserved, hid⟩
    constructor
    · intro h
      cases h
      exact ⟨start, ⟨hhere, fun q hq => hq.walk.le⟩, rfl⟩
    · rintro ⟨p, ⟨hp, hfirst⟩, rfl⟩
      have heq : p = start := Nat.le_antisymm (hfirst start hhere) hp.walk.le
      rw [heq]
  | case4 start hin byte hbyte hreserved hother rest ih =>
    rw [ih]
    simp only [FirstElement, elementAt_other hin hbyte hreserved hother]
    rfl
  | case5 start hend =>
    simp only [reduceCtorEq, false_iff, not_exists, FirstElement]
    rintro p ⟨⟨hp, -⟩, -⟩
    exact not_elementAt_end hend hp

/-- **Only the payload is read.** -/
theorem reads_inside (e : Extension) (id : UINT8) (start : Nat) :
    ∀ i ∈ (findOneByteExtension e id start).1, i < e.length := by
  fun_induction findOneByteExtension e id start with
  | case1 start hin byte hzero rest ih => exact List.forall_mem_cons.mpr ⟨hin, ih⟩
  | case2 start hin byte hbyte hreserved => simpa using hin
  | case3 start hin byte hbyte hreserved hid => simpa using hin
  | case4 start hin byte hbyte hreserved hother rest ih =>
    exact List.forall_mem_cons.mpr ⟨hin, ih⟩
  | case5 start hend => simp

/-! ## What is returned and recorded -/

/-- The element that is found is the first one with the id, and its data lie in the payload. -/
def LookupSound (e : Extension) (id : UINT8) : Prop :=
  ∀ found, (findOneByteExtension e id 0).2 = some found →
    ∃ p, FirstElement e id 0 p ∧ found.data = p + 1 ∧
      found.data + found.dataLen.toNat ≤ e.length

/-- The first element with the id is not cut short. -/
def FirstComplete (e : Extension) (id : UINT8) : Prop :=
  ∀ p, FirstElement e id 0 p → p + 1 + (lenOf (e.byte p)).toNat ≤ e.length

/-- Two data bytes of the element lie in the payload. -/
def TwoBytes (e : Extension) (p : Nat) : Prop :=
  2 ≤ (lenOf (e.byte p)).toNat ∧ p + 3 ≤ e.length

def receivedTable (m : Option TwccReceiverManager) : Option (UINT16 → Option UINT64) :=
  m.map fun m => m.pReceivedPktsHashTable

/-- A number is recorded only of an element with two data bytes. -/
def RecordSound (m : Option TwccReceiverManager) (twccExtId : UINT16) (p : ReceivedPacket) : Prop :=
  receivedTable (twccReceiverOnPacketReceived m twccExtId p) ≠ receivedTable m →
    ∃ q, FirstElement p.extensionPayload (twccExtId.truncate 8) 0 q ∧ TwoBytes p.extensionPayload q

/-- The first element has two data bytes, or the number that stands there is known. -/
def RecordFits (m : TwccReceiverManager) (twccExtId : UINT16) (p : ReceivedPacket) : Prop :=
  ∀ q, FirstElement p.extensionPayload (twccExtId.truncate 8) 0 q →
    TwoBytes p.extensionPayload q ∨
      (m.pReceivedPktsHashTable (sequenceNumberAt p.extensionPayload (q + 1))).isSome

theorem lookupSound_iff (e : Extension) (id : UINT8) : LookupSound e id ↔ FirstComplete e id := by
  constructor
  · intro h p hp
    obtain ⟨q, -, -, hfit⟩ := h _ ((found_iff e id 0 _).mpr ⟨p, hp, rfl⟩)
    exact hfit
  · intro h found hfound
    obtain ⟨p, hp, rfl⟩ := (found_iff e id 0 found).mp hfound
    exact ⟨p, hp, rfl, h p hp⟩

theorem FirstElement.unique {start p q : Nat} (hp : FirstElement e id start p)
    (hq : FirstElement e id start q) : p = q :=
  Nat.le_antisymm (hp.2 q hq.1) (hq.2 p hp.1)

theorem table_recorded_iff (m : TwccReceiverManager) (a : TwccArrival) :
    (Rtcp.twccReceiverOnPacketReceived m a).pReceivedPktsHashTable ≠ m.pReceivedPktsHashTable ↔
      m.pReceivedPktsHashTable a.twccSeqNum = none := by
  unfold Rtcp.twccReceiverOnPacketReceived
  cases hknown : m.pReceivedPktsHashTable a.twccSeqNum with
  | some t => simp
  | none =>
    simp only [iff_true]
    intro h
    have := congrFun h a.twccSeqNum
    simp [hknown] at this

theorem recordSound_iff (m : TwccReceiverManager) (twccExtId : UINT16) (p : ReceivedPacket) :
    RecordSound (some m) twccExtId p ↔
      (p.extension = true → p.extensionProfile = TWCC_EXT_PROFILE → RecordFits m twccExtId p) := by
  unfold RecordSound twccReceiverOnPacketReceived RecordFits
  by_cases henabled : (p.extension && decide (p.extensionProfile = TWCC_EXT_PROFILE)) = true
  · rw [if_pos henabled]
    simp only [Bool.and_eq_true, decide_eq_true_eq] at henabled
    simp only [henabled.1, henabled.2, forall_const]
    cases hfound : (findOneByteExtension p.extensionPayload (twccExtId.truncate 8) 0).2 with
    | none =>
      refine iff_of_true (fun h => absurd rfl h) fun q hq => ?_
      have := (found_iff _ _ _ _).mpr ⟨q, hq, rfl⟩
      rw [hfound] at this
      cases this
    | some found =>
      obtain ⟨q, hq, rfl⟩ := (found_iff _ _ _ _).mp hfound
      have hrecorded := table_recorded_iff m
        ⟨sequenceNumberAt p.extensionPayload (q + 1), p.receivedTime, p.ssrc⟩
      simp only [receivedTable, Option.map_some, ne_eq, Option.some.injEq]
      rw [ne_eq] at hrecorded
      rw [hrecorded]
      constructor
      · intro h q' hq'
        obtain rfl := hq'.unique hq
        cases hknown : m.pReceivedPktsHashTable (sequenceNumberAt p.extensionPayload (q' + 1)) with
        | some t => exact .inr rfl
        | none =>
          obtain ⟨r, hr, htwo⟩ := h hknown
          obtain rfl := hr.unique hq
          exact .inl htwo
      · intro h hknown
        rcases h q hq with htwo | hsome
        · exact ⟨q, hq, htwo⟩
        · rw [hknown] at hsome
          cases hsome
  · rw [if_neg henabled]
    refine iff_of_true (fun h => absurd rfl h) fun hext hprofile => ?_
    exact absurd (by simp [hext, hprofile]) henabled

/-- **The walk reads only the payload; the element it returns is complete, and a sequence number is
recorded of two data bytes, exactly if the first element with the id is not cut short.** -/
theorem extension_lookup (e : Extension) (id : UINT8) (m : Option TwccReceiverManager)
    (twccExtId : UINT16) (p : ReceivedPacket) :
    (∀ i ∈ (findOneByteExtension e id 0).1, i < e.length) ∧
      (LookupSound e id ↔ FirstComplete e id) ∧
      (RecordSound m twccExtId p ↔ ∀ m' ∈ m, p.extension = true →
        p.extensionProfile = TWCC_EXT_PROFILE → RecordFits m' twccExtId p) := by
  refine ⟨reads_inside e id 0, lookupSound_iff e id, ?_⟩
  cases m with
  | none =>
    refine iff_of_true (fun h => absurd ?_ h) fun m' hm => by cases hm
    unfold twccReceiverOnPacketReceived
    split <;> rfl
  | some m =>
    rw [recordSound_iff]
    simp

/-- An element of one byte at the very end. -/
theorem cut_element_returned :
    ¬∀ (e : Extension) (id : UINT8) (m : Option TwccReceiverManager) (twccExtId : UINT16)
      (p : ReceivedPacket), LookupSound e id ∧ RecordSound m twccExtId p := by
  intro h
  have hsound := (h ⟨[0x31, 0x07, 0x00, 0x11], fun _ => 0⟩ 1 none 0
    ⟨false, 0, ⟨[], fun _ => 0⟩, 0, 0⟩).1
  have hfound : (findOneByteExtension ⟨[0x31, 0x07, 0x00, 0x11], fun _ => 0⟩ 1 0).2 =
      some ⟨4, 2⟩ := by
    simp [findOneByteExtension, Extension.length, Extension.byte, idOf, lenOf]
  obtain ⟨p, -, -, hfit⟩ := hsound _ hfound
  exact absurd hfit (by decide)

end KvsWebrtc.Rtcp.HeaderExtension
