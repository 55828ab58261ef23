import KvsWebrtc.Stun.Serialize
import KvsWebrtc.Stun.Walk

/-!
# Messages as lists of attributes on the wire

An `Item` is an attribute as it stands in the message, with a value of the padded length.  A message
whose body is a list of items is walked item by item, and what the parser reads of an attribute is
read off its item.

Principal results:

* `offsetsFrom_items` — the walk over a body of items;
* `sizeOffsets_items` — the first pass in terms of the items;
* `Standing.readBytes`, `Standing.read32` — the reads of the second pass.
-/

namespace KvsWebrtc.Stun

open ByteOrder

structure Item where
  type : UINT16
  length : UINT16
  value : Bytes
  length_value : value.length = (paddedLengthOf length).toNat

def Item.bytes (i : Item) : Bytes := packageAttrHeader i.type i.length ++ i.value

def Item.kind (i : Item) : AttributeKind := kindOf i.type

/-- The family in the value of an address. -/
def Item.family (i : Item) : UINT16 :=
  if i.kind = .address then getUnalignedInt16BigEndian i.value 0 &&& 0x00ff else 0

/-- The body of a message. -/
def bodyOf (items : List Item) : Bytes := items.flatMap Item.bytes

def itemOffsets : Nat → List Item → List Nat
  | _, [] => []
  | off, i :: is => off :: itemOffsets (off + i.bytes.length) is

@[simp] theorem length_packageAttrHeader (type length : UINT16) :
    (packageAttrHeader type length).length = 4 := by
  simp [packageAttrHeader]

@[simp] theorem Item.length_bytes (i : Item) : i.bytes.length = 4 + i.value.length := by
  simp [Item.bytes]

@[simp] theorem bodyOf_nil : bodyOf [] = [] := rfl

@[simp] theorem bodyOf_cons (i : Item) (is : List Item) : bodyOf (i :: is) = i.bytes ++ bodyOf is := rfl

@[simp] theorem bodyOf_append (is js : List Item) : bodyOf (is ++ js) = bodyOf is ++ bodyOf js := by
  simp [bodyOf]

@[simp] theorem length_itemOffsets : ∀ (off : Nat) (is : List Item),
    (itemOffsets off is).length = is.length
  | _, [] => rfl
  | off, i :: is => by rw [itemOffsets, List.length_cons, length_itemOffsets, List.length_cons]

/-! ## Reading an item -/

/-- The item stands at this offset. -/
def Standing (buf : Bytes) (o : Nat) (i : Item) : Prop :=
  ∃ pre rest, buf = pre ++ (i.bytes ++ rest) ∧ pre.length = o

theorem get16_mid (pre mid : Bytes) (off : Nat) :
    getUnalignedInt16BigEndian (pre ++ mid) (pre.length + off) = getUnalignedInt16BigEndian mid off := by
  rw [get16_skip mid (Nat.le_add_right _ _), Nat.add_sub_cancel_left]

theorem readBE_left {a b : Bytes} {off n : Nat} (h : off + n ≤ a.length) :
    readBE (a ++ b) off n = readBE a off n := by
  rw [readBE, readBE, List.drop_append_of_le_length (by omega),
    List.take_append_of_le_length (by simp; omega)]

namespace Standing

variable {buf : Bytes} {o : Nat} {i : Item}

theorem typeAt_eq (h : Standing buf o i) : typeAt buf o = i.type := by
  obtain ⟨pre, rest, rfl, rfl⟩ := h
  have hmid := get16_mid pre (i.bytes ++ rest) 0
  rw [Nat.add_zero] at hmid
  rw [typeAt, hmid, Item.bytes, packageAttrHeader, List.append_assoc, List.append_assoc, get16_put16]

theorem lengthAt_eq (h : Standing buf o i) : lengthAt buf o = i.length := by
  obtain ⟨pre, rest, rfl, rfl⟩ := h
  rw [lengthAt, get16_mid, Item.bytes, packageAttrHeader, List.append_assoc, List.append_assoc,
    get16_skip _ (by simp), length_put16, Nat.sub_self, get16_put16]

theorem kindAt_eq (h : Standing buf o i) : kindAt buf o = i.kind := by
  rw [kindAt, h.typeAt_eq, Item.kind]

theorem nextAt_eq (h : Standing buf o i) : nextAt buf o = o + i.bytes.length := by
  rw [nextAt, h.lengthAt_eq, Item.length_bytes, i.length_value, Nat.add_assoc]

theorem length_le (h : Standing buf o i) : o + 4 + i.value.length ≤ buf.length := by
  obtain ⟨pre, rest, rfl, rfl⟩ := h
  simp
  omega

theorem drop_eq (h : Standing buf o i) : ∃ rest, buf.drop (o + 4) = i.value ++ rest := by
  obtain ⟨pre, rest, rfl, rfl⟩ := h
  refine ⟨rest, ?_⟩
  rw [List.drop_append, List.drop_eq_nil_of_le (by omega), List.nil_append, Item.bytes,
    List.append_assoc, List.drop_append_of_le_length (by simp)]
  rw [List.drop_eq_nil_of_le (by simp), List.nil_append]

theorem readBytes (h : Standing buf o i) {j n : Nat} (hn : j + n ≤ i.value.length) :
    readBytes buf (o + 4 + j) n = .ok ((i.value.drop j).take n) := by
  have hlen := h.length_le
  obtain ⟨rest, hrest⟩ := h.drop_eq
  rw [Stun.readBytes, if_pos (by omega), ← List.drop_drop, hrest,
    List.drop_append_of_le_length (by omega), List.take_append_of_le_length (by simp; omega)]

theorem read16 (h : Standing buf o i) (hn : 2 ≤ i.value.length) :
    read16 buf (o + 4) = .ok (getUnalignedInt16BigEndian i.value 0) := by
  have hlen := h.length_le
  obtain ⟨rest, hrest⟩ := h.drop_eq
  have hread : readBE buf (o + 4) 2 = readBE (i.value ++ rest) 0 2 := by
    rw [readBE, hrest, readBE, List.drop_zero]
  rw [Stun.read16, if_pos (by omega), getUnalignedInt16BigEndian, hread, readBE_left (by omega),
    getUnalignedInt16BigEndian]

theorem read32 (h : Standing buf o i) (hn : 4 ≤ i.value.length) :
    read32 buf (o + 4) = .ok (getUnalignedInt32BigEndian i.value 0) := by
  have hlen := h.length_le
  obtain ⟨rest, hrest⟩ := h.drop_eq
  have hread : readBE buf (o + 4) 4 = readBE (i.value ++ rest) 0 4 := by
    rw [readBE, hrest, readBE, List.drop_zero]
  rw [Stun.read32, if_pos (by omega), getUnalignedInt32BigEndian, hread, readBE_left (by omega),
    getUnalignedInt32BigEndian]

theorem familyAt_eq (h : Standing buf o i) (hn : i.kind = .address → 2 ≤ i.value.length) :
    familyAt buf o = i.family := by
  rw [familyAt, Item.family, h.kindAt_eq]
  by_cases hk : i.kind = .address
  · have hread := h.read16 (hn hk)
    have hlen := h.length_le
    have h2 := hn hk
    rw [Stun.read16, if_pos (by omega)] at hread
    rw [if_pos hk, if_pos hk, Except.ok.inj hread]
  · rw [if_neg hk, if_neg hk]

theorem headerInside (h : Standing buf o i) (hn : i.kind = .address → 2 ≤ i.value.length) :
    HeaderInside buf o := by
  have hlen := h.length_le
  refine ⟨by omega, fun hk => ?_⟩
  rw [h.kindAt_eq] at hk
  have h2 := hn hk
  omega

end Standing

/-! ## The walk -/

theorem standing_items {buf : Bytes} : ∀ (items : List Item) (pre : Bytes),
    buf = pre ++ bodyOf items → List.Forall₂ (Standing buf) (itemOffsets pre.length items) items
  | [], _, _ => .nil
  | i :: is, pre, h => by
    refine .cons ⟨pre, bodyOf is, by rw [h, bodyOf_cons], rfl⟩ ?_
    have hbuf : buf = (pre ++ i.bytes) ++ bodyOf is := by
      rw [h, bodyOf_cons, List.append_assoc]
    have hrest := standing_items is (pre ++ i.bytes) hbuf
    rwa [List.length_append] at hrest

theorem offsetsFrom_items {buf : Bytes} : ∀ (items : List Item) (pre : Bytes) (n : Nat),
    buf = pre ++ bodyOf items → items.length ≤ n →
    offsetsFrom buf buf.length n pre.length = itemOffsets pre.length items
  | [], pre, n, h, _ => by
    rw [h]
    cases n with
    | zero => rfl
    | succ n =>
      rw [offsetsFrom, if_neg (by simp)]
      rfl
  | i :: is, pre, 0, h, hn => by simp at hn
  | i :: is, pre, n + 1, h, hn => by
    have hstand : Standing buf pre.length i := ⟨pre, bodyOf is, by rw [h, bodyOf_cons], rfl⟩
    have hlt := hstand.length_le
    have hbuf : buf = (pre ++ i.bytes) ++ bodyOf is := by
      rw [h, bodyOf_cons, List.append_assoc]
    have hrest := offsetsFrom_items is (pre ++ i.bytes) n hbuf (by simpa using hn)
    rw [List.length_append] at hrest
    rw [offsetsFrom, if_pos (by omega), hstand.nextAt_eq, hrest, itemOffsets]

/-! ## The first pass -/

/-- The first pass over items. -/
def sizeItems : List Item → Scan → Except STATUS Scan
  | [], s => .ok s
  | i :: is, s => do
    let s ← sizeAttribute i.kind i.family i.length s
    sizeItems is s

theorem sizeOffsets_items {buf : Bytes} {os : List Nat} {items : List Item}
    (h : List.Forall₂ (Standing buf) os items)
    (hfam : ∀ i ∈ items, i.kind = .address → 2 ≤ i.value.length) (s : Scan) :
    sizeOffsets buf os s = sizeItems items s := by
  induction h generalizing s with
  | nil => rfl
  | @cons o i os is hone _ ih =>
    rw [sizeOffsets, sizeItems, hone.kindAt_eq, hone.familyAt_eq (hfam i (by simp)),
      hone.lengthAt_eq]
    cases sizeAttribute i.kind i.family i.length s with
    | error e => rfl
    | ok s1 => exact ih (fun j hj => hfam j (List.mem_cons_of_mem i hj)) s1

theorem sizeItems_append : ∀ (is js : List Item) (s : Scan),
    sizeItems (is ++ js) s = (sizeItems is s >>= sizeItems js)
  | [], _, _ => rfl
  | i :: is, js, s => by
    simp only [List.cons_append, sizeItems]
    cases sizeAttribute i.kind i.family i.length s with
    | error e => rfl
    | ok s1 => exact sizeItems_append is js s1

/-- Neither of the two attributes that close a message, and known. -/
def Item.Plain (i : Item) : Prop :=
  i.kind ≠ .messageIntegrity ∧ i.kind ≠ .fingerprint ∧ i.kind ≠ .unknown

theorem sizeAttribute_of_order {kind : AttributeKind} {family length : UINT16} {s s1 : Scan}
    (hlen : checkLength kind family length = .ok ()) (horder : checkOrder kind s = .ok s1)
    (hknown : kind ≠ .unknown) (hcount : s1.attributeCount < STUN_ATTRIBUTE_MAX_COUNT) :
    sizeAttribute kind family length s = .ok { s1 with
      allocationSize := s1.allocationSize + attributeSize kind (paddedLengthOf length)
      attributeCount := s1.attributeCount + 1 } := by
  rw [sizeAttribute, hlen, horder]
  simp only [bind, Except.bind, if_neg hknown]
  rw [if_pos (show s1.attributeCount + 1 ≤ STUN_ATTRIBUTE_MAX_COUNT from hcount)]

theorem sizeItems_plain : ∀ {items : List Item} {s : Scan},
    (∀ i ∈ items, i.Plain ∧ checkLength i.kind i.family i.length = .ok ()) →
    s.fingerprintFound = false → s.messageIntegrityFound = false →
    s.attributeCount + items.length ≤ STUN_ATTRIBUTE_MAX_COUNT →
    ∃ size, sizeItems items s =
      .ok { s with allocationSize := size, attributeCount := s.attributeCount + items.length }
  | [], s, _, _, _, _ => ⟨s.allocationSize, rfl⟩
  | i :: is, s, hall, hfp, hmi, hcount => by
    obtain ⟨⟨hnmi, hnfp, hnun⟩, hlen⟩ := hall i (by simp)
    rw [List.length_cons] at hcount
    have horder : checkOrder i.kind s = .ok s := by
      cases hk : i.kind with
      | messageIntegrity => exact absurd hk hnmi
      | fingerprint => exact absurd hk hnfp
      | unknown => exact absurd hk hnun
      | _ => simp [checkOrder, hfp, hmi]
    have hone := sizeAttribute_of_order hlen horder hnun (by omega)
    obtain ⟨size, hrest⟩ := sizeItems_plain (s := { s with
        allocationSize := s.allocationSize + attributeSize i.kind (paddedLengthOf i.length)
        attributeCount := s.attributeCount + 1 })
      (fun j hj => hall j (List.mem_cons_of_mem i hj)) hfp hmi (by simp only; omega)
    refine ⟨size, ?_⟩
    rw [sizeItems, hone]
    simp only [bind, Except.bind]
    rw [hrest, List.length_cons]
    simp only [Except.ok.injEq, Scan.mk.injEq, true_and, and_true]
    omega

end KvsWebrtc.Stun
