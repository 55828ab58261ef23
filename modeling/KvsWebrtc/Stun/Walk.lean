import KvsWebrtc.Stun.Deserialize
import Mathlib.Algebra.Order.BigOperators.Group.List
import Mathlib.Data.List.Forall2

/-!
# The attributes of a STUN message

Both passes of the parser visit the same offsets: `attributeOffsets`.  The second one visits only as
many of them as there are known attributes.

Principal results:

* `scanLoop_eq`, `fillLoop_eq` — the two passes as recursions over the offsets, so both end;
* `scanOffsets_ok_iff`, `fillOffsets_ok_iff` — what a pass that succeeds has done;
* `deserializeStunPacket_ok_iff` — when parsing succeeds.
-/

namespace KvsWebrtc.Stun

open ByteOrder

theorem bind_ok_iff {ε α β : Type} {x : Except ε α} {f : α → Except ε β} {b : β} :
    (x >>= f) = .ok b ↔ ∃ a, x = .ok a ∧ f a = .ok b := by
  cases x with
  | error e => simp [bind, Except.bind]
  | ok a => simp [bind, Except.bind]

@[simp] theorem pure_ok_iff {ε α : Type} {a b : α} :
    (pure a : Except ε α) = .ok b ↔ a = b := by
  simp [pure, Except.pure]

@[simp] theorem ofStatus_ok_iff {α : Type} {x : Except STATUS α} {a : α} :
    ofStatus x = .ok a ↔ x = .ok a := by
  cases x <;> simp [ofStatus]

/-! ## The fields of an attribute -/

def typeAt (buf : Bytes) (off : Nat) : UINT16 := getUnalignedInt16BigEndian buf off

def lengthAt (buf : Bytes) (off : Nat) : UINT16 := getUnalignedInt16BigEndian buf (off + 2)

def kindAt (buf : Bytes) (off : Nat) : AttributeKind := kindOf (typeAt buf off)

def familyAt (buf : Bytes) (off : Nat) : UINT16 :=
  if kindAt buf off = .address then getUnalignedInt16BigEndian buf (off + 4) &&& 0x00ff else 0

/-- Where the walk goes on. -/
def nextAt (buf : Bytes) (off : Nat) : Nat := off + 4 + (paddedLengthOf (lengthAt buf off)).toNat

/-- Where the attribute really ends. -/
def endAt (buf : Bytes) (off : Nat) : Nat := off + 4 + ROUND_UP (lengthAt buf off).toNat 4

/-- The header, and the family of an address, lie in the buffer. -/
def HeaderInside (buf : Bytes) (off : Nat) : Prop :=
  off + 4 ≤ buf.length ∧ (kindAt buf off = .address → off + 6 ≤ buf.length)

theorem nextAt_gt (buf : Bytes) (off : Nat) : off + 4 ≤ nextAt buf off := Nat.le_add_right _ _

theorem le_ROUND_UP (n : Nat) : n ≤ ROUND_UP n 4 := by
  rw [ROUND_UP]
  omega

theorem toNat_paddedLengthOf (length : UINT16) :
    (paddedLengthOf length).toNat = ROUND_UP length.toNat 4 % 65536 := by
  rw [paddedLengthOf, BitVec.toNat_ofNat]

theorem ROUND_UP_of_le {length : UINT16} (h : length.toNat ≤ 65532) :
    (paddedLengthOf length).toNat = ROUND_UP length.toNat 4 := by
  rw [toNat_paddedLengthOf, ROUND_UP]
  omega

theorem paddedLengthOf_ge_iff (length : UINT16) :
    length.toNat ≤ (paddedLengthOf length).toNat ↔ length.toNat ≤ 65532 := by
  have hlt := length.isLt
  rw [toNat_paddedLengthOf, ROUND_UP]
  omega

theorem nextAt_eq_endAt {buf : Bytes} {off : Nat} (h : (lengthAt buf off).toNat ≤ 65532) :
    nextAt buf off = endAt buf off := by
  rw [nextAt, endAt, ROUND_UP_of_le h]

/-! ## The walk -/

/-- The offsets before `stop` that are visited from `off` on. -/
def offsetsFrom (buf : Bytes) (stop : Nat) : Nat → Nat → List Nat
  | 0, _ => []
  | n + 1, off => if off < stop then off :: offsetsFrom buf stop n (nextAt buf off) else []

def messageLengthOf (buf : Bytes) : UINT16 := getUnalignedInt16BigEndian buf 2

/-- The end of the attributes. -/
def stopOf (buf : Bytes) : Nat := STUN_HEADER_LEN + (messageLengthOf buf).toNat

/-- The attributes of a message, by their offsets. -/
def attributeOffsets (buf : Bytes) : List Nat :=
  offsetsFrom buf (stopOf buf) (messageLengthOf buf).toNat STUN_HEADER_LEN

theorem offsetsFrom_ge {buf : Bytes} {stop : Nat} : ∀ (n off : Nat),
    ∀ o ∈ offsetsFrom buf stop n off, off ≤ o
  | 0, _, o, h => by simp [offsetsFrom] at h
  | n + 1, off, o, h => by
    rw [offsetsFrom] at h
    split at h
    case isTrue =>
      rcases List.mem_cons.mp h with rfl | h
      · exact le_refl _
      · have := offsetsFrom_ge n _ o h
        have := nextAt_gt buf off
        omega
    case isFalse => simp at h

theorem offsetsFrom_pairwise {buf : Bytes} {stop : Nat} : ∀ (n off : Nat),
    (offsetsFrom buf stop n off).Pairwise (· < ·)
  | 0, _ => by simp [offsetsFrom]
  | n + 1, off => by
    rw [offsetsFrom]
    split
    case isTrue =>
      rw [List.pairwise_cons]
      refine ⟨fun o h => ?_, offsetsFrom_pairwise n _⟩
      have := offsetsFrom_ge n _ o h
      have := nextAt_gt buf off
      omega
    case isFalse => exact List.Pairwise.nil

/-! ## The first pass -/

/-- The first pass over a list of offsets. -/
def scanOffsets (buf : Bytes) : List Nat → Scan → Except Failure Scan
  | [], s => .ok s
  | o :: os, s => do
    let (s, _) ← scanAttribute buf o s
    scanOffsets buf os s

theorem scanAttribute_ok_iff {buf : Bytes} {off : Nat} {s : Scan} {r : Scan × Nat} :
    scanAttribute buf off s = .ok r ↔ HeaderInside buf off ∧
      sizeAttribute (kindAt buf off) (familyAt buf off) (lengthAt buf off) s = .ok r.1 ∧
      r.2 = nextAt buf off := by
  unfold scanAttribute HeaderInside
  by_cases h4 : off + 4 ≤ buf.length
  · have h2 : off + 2 ≤ buf.length := by omega
    have h2' : off + 2 + 2 ≤ buf.length := by omega
    simp only [bind_ok_iff, read16, if_pos h2, if_pos h2', Except.ok.injEq, exists_eq_left']
    have hfam : ∀ fam, readFamily buf off (kindOf (getUnalignedInt16BigEndian buf off)) = .ok fam ↔
        (kindAt buf off = .address → off + 6 ≤ buf.length) ∧ familyAt buf off = fam := by
      intro fam
      have hkind : kindOf (getUnalignedInt16BigEndian buf off) = kindAt buf off := rfl
      rw [hkind, readFamily, familyAt]
      by_cases hk : kindAt buf off = .address
      · simp only [hk, if_true, forall_const, bind_ok_iff, pure_ok_iff, read16,
          STUN_ATTRIBUTE_HEADER_LEN]
        by_cases h6 : off + 6 ≤ buf.length
        · rw [if_pos (show off + 4 + 2 ≤ buf.length from h6)]
          simp [h6]
        · rw [if_neg (show ¬ off + 4 + 2 ≤ buf.length from h6)]
          simp [h6]
      · simp [hk]
    simp only [hfam, ofStatus_ok_iff, pure_ok_iff, h4, true_and]
    constructor
    · rintro ⟨fam, ⟨h6, rfl⟩, s', hs, rfl⟩
      exact ⟨h6, hs, rfl⟩
    · rintro ⟨h6, hs, hr⟩
      exact ⟨_, ⟨h6, rfl⟩, _, hs, Prod.ext rfl hr.symm⟩
  · simp only [h4, false_and, iff_false]
    intro h
    obtain ⟨t, _, h⟩ := bind_ok_iff.mp h
    obtain ⟨l, hl, _⟩ := bind_ok_iff.mp h
    rw [read16, if_neg (by omega)] at hl
    cases hl

theorem scanLoop_eq {buf : Bytes} {stop : Nat} : ∀ (n off : Nat) (s : Scan), stop ≤ off + 4 * n →
    scanLoop buf stop n off s = scanOffsets buf (offsetsFrom buf stop n off) s
  | 0, off, s, hn => by
    simp only [scanLoop, offsetsFrom, scanOffsets]
    rw [if_neg (by omega)]
  | n + 1, off, s, hn => by
    rw [scanLoop, offsetsFrom]
    by_cases hlt : off < stop
    · rw [if_pos hlt, if_pos hlt, scanOffsets]
      cases hs : scanAttribute buf off s with
      | error e => rfl
      | ok r =>
        have hnext := (scanAttribute_ok_iff.mp hs).2.2
        have hgt := nextAt_gt buf off
        simp only [bind, Except.bind]
        rw [scanLoop_eq n _ _ (by omega), hnext]
    · rw [if_neg hlt, if_neg hlt]
      rfl

/-- The first pass without the reads: every attribute is accepted in turn. -/
def sizeOffsets (buf : Bytes) : List Nat → Scan → Except STATUS Scan
  | [], s => .ok s
  | o :: os, s => do
    let s ← sizeAttribute (kindAt buf o) (familyAt buf o) (lengthAt buf o) s
    sizeOffsets buf os s

theorem scanOffsets_ok_iff {buf : Bytes} : ∀ {os : List Nat} {s s' : Scan},
    scanOffsets buf os s = .ok s' ↔
      (∀ o ∈ os, HeaderInside buf o) ∧ sizeOffsets buf os s = .ok s'
  | [], s, s' => by simp [scanOffsets, sizeOffsets]
  | o :: os, s, s' => by
    rw [scanOffsets, sizeOffsets, bind_ok_iff, bind_ok_iff]
    constructor
    · rintro ⟨r, hr, hrest⟩
      obtain ⟨hin, hsize, _⟩ := scanAttribute_ok_iff.mp hr
      obtain ⟨hins, hsizes⟩ := scanOffsets_ok_iff.mp hrest
      refine ⟨fun o' ho => ?_, _, hsize, hsizes⟩
      rcases List.mem_cons.mp ho with rfl | ho
      · exact hin
      · exact hins o' ho
    · rintro ⟨hins, s1, hsize, hsizes⟩
      refine ⟨(s1, nextAt buf o), scanAttribute_ok_iff.mpr ⟨hins o (by simp), hsize, rfl⟩, ?_⟩
      exact scanOffsets_ok_iff.mpr ⟨fun o' ho => hins o' (List.mem_cons_of_mem o ho), hsizes⟩

theorem sizeOffsets_append {buf : Bytes} : ∀ (os os' : List Nat) (s : Scan),
    sizeOffsets buf (os ++ os') s = (sizeOffsets buf os s >>= sizeOffsets buf os')
  | [], _, _ => rfl
  | o :: os, os', s => by
    simp only [List.cons_append, sizeOffsets]
    cases sizeAttribute (kindAt buf o) (familyAt buf o) (lengthAt buf o) s with
    | error e => rfl
    | ok s1 => exact sizeOffsets_append os os' s1

/-! ### What one attribute adds -/

/-- The attribute is of a kind the parser knows. -/
def known (buf : Bytes) (off : Nat) : Bool := kindAt buf off ≠ .unknown

/-- The bytes of an attribute's structure. -/
def sizeAt (buf : Bytes) (off : Nat) : Nat :=
  attributeSize (kindAt buf off) (paddedLengthOf (lengthAt buf off))

theorem checkOrder_ok {kind : AttributeKind} {s s' : Scan} (h : checkOrder kind s = .ok s') :
    s'.allocationSize = s.allocationSize ∧ s'.attributeCount = s.attributeCount := by
  cases kind
  all_goals
    simp only [checkOrder] at h
    repeat' split at h
    all_goals first | cases h; exact ⟨rfl, rfl⟩ | cases h

theorem sizeAttribute_ok {kind : AttributeKind} {fam length : UINT16} {s s' : Scan}
    (h : sizeAttribute kind fam length s = .ok s') :
    checkLength kind fam length = .ok () ∧
      s'.allocationSize = s.allocationSize + attributeSize kind (paddedLengthOf length) ∧
      s'.attributeCount = s.attributeCount + (if kind = .unknown then 0 else 1) ∧
      s'.attributeCount ≤ STUN_ATTRIBUTE_MAX_COUNT := by
  obtain ⟨_, hlen, h⟩ := bind_ok_iff.mp h
  obtain ⟨s1, horder, h⟩ := bind_ok_iff.mp h
  obtain ⟨ha, hc⟩ := checkOrder_ok horder
  obtain ⟨count, hcount⟩ : ∃ c, c = if kind = .unknown then s1.attributeCount
    else s1.attributeCount + 1 := ⟨_, rfl⟩
  simp only [← hcount] at h
  split at h
  case isTrue hle =>
    cases h
    refine ⟨hlen, by simp only [ha], ?_, hle⟩
    simp only [hcount, hc]
    split <;> rfl
  case isFalse => cases h

theorem sizeOffsets_ok {buf : Bytes} : ∀ {os : List Nat} {s s' : Scan},
    sizeOffsets buf os s = .ok s' →
      s'.attributeCount = s.attributeCount + os.countP (known buf) ∧
      s'.allocationSize = s.allocationSize + (os.map (sizeAt buf)).sum ∧
      ∀ o ∈ os, checkLength (kindAt buf o) (familyAt buf o) (lengthAt buf o) = .ok ()
  | [], s, s', h => by
    obtain rfl : s = s' := Except.ok.inj h
    simp
  | o :: os, s, s', h => by
    rw [sizeOffsets, bind_ok_iff] at h
    obtain ⟨s1, hone, hrest⟩ := h
    obtain ⟨hlen, ha, hc, _⟩ := sizeAttribute_ok hone
    obtain ⟨hc', ha', hlens⟩ := sizeOffsets_ok hrest
    refine ⟨?_, ?_, fun o' ho => ?_⟩
    · rw [hc', hc, List.countP_cons]
      by_cases hk : kindAt buf o = .unknown
      · simp [known, hk]
      · simp [known, hk]
        omega
    · rw [ha', ha, List.map_cons, List.sum_cons, sizeAt]
      omega
    · rcases List.mem_cons.mp ho with rfl | ho
      · exact hlen
      · exact hlens o' ho

/-! ## The second pass -/

section

variable (hmac : Bytes → Bytes → Bytes) (crc32 : Bytes → UINT32) (buf : Bytes)
  (password : Option Bytes) (transactionId : Bytes)

/-- The second pass over a list of offsets. -/
def fillOffsets (allocationSize : Nat) : List Nat → Nat → Except Failure (List (Nat × StunAttribute))
  | [], _ => .ok []
  | o :: os, dest => do
    let type ← read16 buf o
    let length ← read16 buf (o + 2)
    if dest + writtenSize (kindOf type) length (paddedLengthOf length) ≤ allocationSize then
      let value ← readValue hmac crc32 buf password transactionId o type length
      let rest ← fillOffsets allocationSize os
        (dest + attributeSize (kindOf type) (paddedLengthOf length))
      return (o, ⟨type, length, value⟩) :: rest
    else .error .outOfBounds

/-- What the second pass makes of the attribute at `o`. -/
def Entry (o : Nat) (e : Nat × StunAttribute) : Prop :=
  o + 4 ≤ buf.length ∧ e.1 = o ∧ e.2.type = typeAt buf o ∧ e.2.length = lengthAt buf o ∧
    readValue hmac crc32 buf password transactionId o e.2.type e.2.length = .ok e.2.value

/-- The bytes that the second pass writes of the attribute at `o`. -/
def writtenAt (o : Nat) : Nat :=
  writtenSize (kindAt buf o) (lengthAt buf o) (paddedLengthOf (lengthAt buf o))

/-- The structures of these attributes fit the allocation. -/
def DestFits (allocationSize : Nat) : List Nat → Nat → Prop
  | [], _ => True
  | o :: os, dest =>
    dest + writtenAt buf o ≤ allocationSize ∧ DestFits allocationSize os (dest + sizeAt buf o)

theorem fillLoop_eq (stop allocationSize : Nat) : ∀ n off dest left : Nat, stop ≤ off + 4 * n →
    fillLoop hmac crc32 buf password transactionId stop allocationSize n off dest left =
      fillOffsets hmac crc32 buf password transactionId allocationSize
        ((offsetsFrom buf stop n off).take left) dest
  | 0, off, dest, left, hn => by
    simp only [fillLoop, offsetsFrom, List.take_nil, fillOffsets]
    rw [if_neg (by omega)]
  | n + 1, off, dest, 0, hn => by
    rw [fillLoop, if_neg (by omega), List.take_zero, fillOffsets]
  | n + 1, off, dest, left + 1, hn => by
    rw [fillLoop, offsetsFrom]
    by_cases hlt : off < stop
    · rw [if_pos ⟨hlt, by omega⟩, if_pos hlt, List.take_succ_cons, fillOffsets]
      have hgt := nextAt_gt buf off
      cases ht : read16 buf off with
      | error e => rfl
      | ok type =>
        cases hl : read16 buf (off + 2) with
        | error e => rfl
        | ok length =>
          have hnext : off + STUN_ATTRIBUTE_HEADER_LEN + (paddedLengthOf length).toNat =
              nextAt buf off := by
            have hlength : lengthAt buf off = length := by
              rw [read16] at hl
              split at hl
              · exact Except.ok.inj hl
              · cases hl
            rw [nextAt, hlength]
          have hrec := fun d => fillLoop_eq stop allocationSize n (nextAt buf off) d left (by omega)
          simp only [bind, Except.bind, hnext, hrec, Nat.add_sub_cancel]
    · rw [if_neg (by omega), if_neg hlt, List.take_nil, fillOffsets]

theorem fillOffsets_ok_iff {allocationSize : Nat} : ∀ {os : List Nat} {dest : Nat}
    {es : List (Nat × StunAttribute)},
    fillOffsets hmac crc32 buf password transactionId allocationSize os dest = .ok es ↔
      List.Forall₂ (Entry hmac crc32 buf password transactionId) os es ∧
        DestFits buf allocationSize os dest
  | [], dest, es => by
    simp [fillOffsets, DestFits, eq_comm]
  | o :: os, dest, es => by
    rw [fillOffsets, DestFits]
    by_cases h4 : o + 4 ≤ buf.length
    · have h2 : o + 2 ≤ buf.length := by omega
      have h2' : o + 2 + 2 ≤ buf.length := by omega
      have hread : read16 buf o = .ok (typeAt buf o) := by rw [read16, if_pos h2]; rfl
      have hread' : read16 buf (o + 2) = .ok (lengthAt buf o) := by rw [read16, if_pos h2']; rfl
      rw [hread, hread']
      simp only [bind_ok_iff, Except.ok.injEq, exists_eq_left']
      by_cases hdest : dest + writtenAt buf o ≤ allocationSize
      · rw [if_pos (show dest + writtenSize (kindOf (typeAt buf o)) (lengthAt buf o)
          (paddedLengthOf (lengthAt buf o)) ≤ allocationSize from hdest)]
        simp only [bind_ok_iff, pure_ok_iff, fillOffsets_ok_iff, hdest, true_and]
        constructor
        · rintro ⟨value, hvalue, rest, ⟨hrest, hfits⟩, rfl⟩
          exact ⟨.cons ⟨h4, rfl, rfl, rfl, hvalue⟩ hrest, hfits⟩
        · rintro ⟨hall, hfits⟩
          obtain ⟨e, es', hentry, hrest, rfl⟩ := List.forall₂_cons_left_iff.mp hall
          obtain ⟨_, rfl, htype, hlength, hvalue⟩ := hentry
          rw [htype, hlength] at hvalue
          refine ⟨e.2.value, hvalue, es', ⟨hrest, hfits⟩, ?_⟩
          rw [← htype, ← hlength]
      · rw [if_neg (show ¬ dest + writtenSize (kindOf (typeAt buf o)) (lengthAt buf o)
          (paddedLengthOf (lengthAt buf o)) ≤ allocationSize from hdest)]
        simp [hdest]
    · constructor
      · intro h
        obtain ⟨t, _, h⟩ := bind_ok_iff.mp h
        obtain ⟨l, hl, _⟩ := bind_ok_iff.mp h
        rw [read16, if_neg (by omega)] at hl
        cases hl
      · rintro ⟨hall, _⟩
        obtain ⟨e, es', hentry, _⟩ := List.forall₂_cons_left_iff.mp hall
        exact absurd hentry.1 h4

end

/-! ### The allocation is large enough -/

theorem checkLength_address {fam length : UINT16} (h : checkLength .address fam length = .ok ()) :
    length.toNat = 8 ∨ length.toNat = 20 := by
  simp only [checkLength] at h
  by_cases hfam : fam = KVS_IP_FAMILY_TYPE_IPV4
  · rw [if_pos hfam] at h
    split at h
    · left
      assumption
    · cases h
  · rw [if_neg hfam] at h
    split at h
    · right
      assumption
    · cases h

theorem writtenAt_le {buf : Bytes} {o : Nat} (hknown : known buf o)
    (hlen : checkLength (kindAt buf o) (familyAt buf o) (lengthAt buf o) = .ok ()) :
    writtenAt buf o ≤ sizeAt buf o := by
  simp only [known, decide_eq_true_eq, ne_eq] at hknown
  rw [writtenAt, sizeAt]
  cases hk : kindAt buf o with
  | address =>
    rw [hk] at hlen
    simp only [writtenSize, attributeSize, sizeofAttribute, STUN_ATTRIBUTE_HEADER_LEN]
    rcases checkLength_address hlen with h | h
    · omega
    · omega
  | unknown => exact absurd hk hknown
  | _ => exact le_refl _

theorem four_le_sizeAt {buf : Bytes} {o : Nat} (hknown : known buf o) : 4 ≤ sizeAt buf o := by
  simp only [known, decide_eq_true_eq, ne_eq] at hknown
  rw [sizeAt, attributeSize]
  cases hk : kindAt buf o with
  | unknown => exact absurd hk hknown
  | _ =>
    simp only [sizeofAttribute]
    omega

/-- As long as at least as many known attributes remain as entries, their structures leave room,
even for the header of an unknown attribute. -/
theorem destFits_take (buf : Bytes) (allocationSize : Nat) : ∀ (os : List Nat) (dest left : Nat),
    (∀ o ∈ os, checkLength (kindAt buf o) (familyAt buf o) (lengthAt buf o) = .ok ()) →
    left ≤ os.countP (known buf) → dest + (os.map (sizeAt buf)).sum ≤ allocationSize →
    DestFits buf allocationSize (os.take left) dest
  | [], _, _, _, _, _ => by simp [DestFits]
  | o :: os, dest, 0, _, _, _ => by simp [DestFits]
  | o :: os, dest, left + 1, hlen, hleft, hroom => by
    rw [List.map_cons, List.sum_cons] at hroom
    rw [List.countP_cons] at hleft
    rw [List.take_succ_cons, DestFits]
    have hrec := destFits_take buf allocationSize os (dest + sizeAt buf o) left
      (fun o' ho => hlen o' (List.mem_cons_of_mem o ho))
    by_cases hk : known buf o
    · have hwritten := writtenAt_le hk (hlen o (by simp))
      rw [if_pos hk] at hleft
      exact ⟨by omega, hrec (by omega) (by omega)⟩
    · rw [if_neg hk] at hleft
      -- a known attribute is still to come
      obtain ⟨o', ho', hk'⟩ := List.countP_pos_iff.mp (show 0 < os.countP (known buf) by omega)
      have hsize : sizeAt buf o' ≤ (os.map (sizeAt buf)).sum :=
        List.single_le_sum (by simp) _ (List.mem_map.mpr ⟨o', ho', rfl⟩)
      have hfour := four_le_sizeAt hk'
      have hunknown : kindAt buf o = .unknown := by simpa [known] using hk
      have hwritten : writtenAt buf o = 4 := by
        rw [writtenAt, hunknown, writtenSize]
      exact ⟨by omega, hrec (by omega) (by omega)⟩

/-! ## Parsing -/

/-- The state before the first attribute. -/
def initialScan : Scan := ⟨SIZEOF_STUN_PACKET, 0, false, false⟩

def transactionIdOf (buf : Bytes) : Bytes := (buf.drop 8).take 12

/-- The header is accepted. -/
def HeaderOk (buf : Bytes) : Prop :=
  STUN_HEADER_LEN ≤ buf.length ∧ stopOf buf ≤ buf.length ∧
    getUnalignedInt32BigEndian buf 4 = STUN_HEADER_MAGIC_COOKIE

/-- The number of known attributes. -/
def knownCount (buf : Bytes) : Nat := (attributeOffsets buf).countP (known buf)

/-- The packet that is returned for these entries. -/
def packetOf (buf : Bytes) (s : Scan) (es : List (Nat × StunAttribute)) : ParsedPacket where
  header := ⟨getUnalignedInt16BigEndian buf 0, messageLengthOf buf, getUnalignedInt32BigEndian buf 4,
    transactionIdOf buf⟩
  allocationSize := s.allocationSize + s.attributeCount * SIZEOF_POINTER
  attributeList := (settleEntries es).map Prod.snd
  origins := (settleEntries es).map Prod.fst

theorem deserializeStunPacket_passes (hmac : Bytes → Bytes → Bytes) (crc32 : Bytes → UINT32)
    {buf : Bytes} (password : Option Bytes) (hheader : HeaderOk buf) :
    deserializeStunPacket hmac crc32 buf password =
      (scanOffsets buf (attributeOffsets buf) initialScan >>= fun s =>
        fillOffsets hmac crc32 buf password (transactionIdOf buf)
            (s.allocationSize + s.attributeCount * SIZEOF_POINTER)
            ((attributeOffsets buf).take s.attributeCount)
            (SIZEOF_STUN_PACKET + s.attributeCount * SIZEOF_POINTER) >>= fun es =>
        pure (packetOf buf s es)) := by
  obtain ⟨h1, h2, h3⟩ := hheader
  have hstop : STUN_HEADER_LEN + (getUnalignedInt16BigEndian buf 2).toNat = stopOf buf := rfl
  have hfuel : stopOf buf ≤ STUN_HEADER_LEN + 4 * (getUnalignedInt16BigEndian buf 2).toNat := by
    rw [← hstop]
    omega
  simp only [deserializeStunPacket, hstop]
  rw [if_neg (by omega), if_neg (by omega), if_neg (not_not.mpr h3), scanLoop_eq _ _ _ hfuel]
  have hfill := fun alloc dest left => fillLoop_eq hmac crc32 buf password ((buf.drop 8).take 12)
    (stopOf buf) alloc (getUnalignedInt16BigEndian buf 2).toNat STUN_HEADER_LEN dest left hfuel
  simp only [hfill]
  rfl

theorem deserializeStunPacket_header (hmac : Bytes → Bytes → Bytes) (crc32 : Bytes → UINT32)
    {buf : Bytes} (password : Option Bytes) (h : ¬ HeaderOk buf) :
    ∃ e, deserializeStunPacket hmac crc32 buf password = .error (.status e) := by
  simp only [deserializeStunPacket]
  by_cases h1 : buf.length < STUN_HEADER_LEN
  · exact ⟨_, if_pos h1⟩
  · rw [if_neg h1]
    by_cases h2 : buf.length < STUN_HEADER_LEN + (getUnalignedInt16BigEndian buf 2).toNat
    · exact ⟨_, if_pos h2⟩
    · rw [if_neg h2]
      have h3 : getUnalignedInt32BigEndian buf 4 ≠ STUN_HEADER_MAGIC_COOKIE := fun h3 =>
        h ⟨by omega, by rw [stopOf, messageLengthOf]; omega, h3⟩
      exact ⟨_, if_pos h3⟩

/-- **Success.**  Parsing succeeds exactly if the header is accepted, every attribute is accepted in
the first pass, and the second pass makes an entry of each of the first `knownCount` attributes. -/
theorem deserializeStunPacket_ok_iff (hmac : Bytes → Bytes → Bytes) (crc32 : Bytes → UINT32)
    (buf : Bytes) (password : Option Bytes) (p : ParsedPacket) :
    deserializeStunPacket hmac crc32 buf password = .ok p ↔
      HeaderOk buf ∧ (∀ o ∈ attributeOffsets buf, HeaderInside buf o) ∧
      ∃ s, sizeOffsets buf (attributeOffsets buf) initialScan = .ok s ∧
      ∃ es, List.Forall₂ (Entry hmac crc32 buf password (transactionIdOf buf))
        ((attributeOffsets buf).take (knownCount buf)) es ∧ p = packetOf buf s es := by
  by_cases hheader : HeaderOk buf
  · rw [deserializeStunPacket_passes hmac crc32 password hheader, bind_ok_iff]
    simp only [hheader, true_and, scanOffsets_ok_iff, bind_ok_iff, fillOffsets_ok_iff, pure_ok_iff]
    constructor
    · rintro ⟨s, ⟨hin, hs⟩, es, ⟨hes, _⟩, rfl⟩
      have hcount : s.attributeCount = knownCount buf := by
        simpa [initialScan, knownCount] using (sizeOffsets_ok hs).1
      rw [hcount] at hes
      exact ⟨hin, s, hs, es, hes, rfl⟩
    · rintro ⟨hin, s, hs, es, hes, rfl⟩
      obtain ⟨hcount, halloc, hlens⟩ := sizeOffsets_ok hs
      have hk : s.attributeCount = knownCount buf := by simpa [initialScan, knownCount] using hcount
      refine ⟨s, ⟨hin, hs⟩, es, ⟨by rw [hk]; exact hes, ?_⟩, rfl⟩
      apply destFits_take _ _ _ _ _ hlens (by rw [hk]; exact le_refl _)
      rw [halloc]
      simp only [initialScan]
      omega
  · constructor
    · intro h
      obtain ⟨e, he⟩ := deserializeStunPacket_header hmac crc32 password hheader
      rw [he] at h
      cases h
    · rintro ⟨h, _⟩
      exact absurd h hheader

end KvsWebrtc.Stun
