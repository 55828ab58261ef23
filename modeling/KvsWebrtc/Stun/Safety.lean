import KvsWebrtc.Stun.Walk

/-!
# Memory safety of STUN parsing

The walk is bounded by the length of the message, not by the attribute at hand: nothing checks that
an attribute ends where the message does.  So the reads of the parser stay in the buffer only for
messages whose attributes do, and the room of an ERROR-CODE is used without a check that it is not
empty.

Principal results:

* `scanOffsets_of_headers`, `fillOffsets_clean` — the two passes of a tame message;
* `stun_parsing_safe_iff` — parsing is safe on exactly the tame messages.
-/

namespace KvsWebrtc.Stun

/-! ## Statuses and memory errors -/

/-- The computation fails only with a status of the source. -/
def Clean {α : Type} (x : Except Failure α) : Prop := ∀ e, x = .error e → ∃ st, e = .status st

theorem clean_ok {α : Type} (a : α) : Clean (.ok a) := by
  intro e h
  cases h

theorem clean_status {α : Type} (st : STATUS) : Clean (.error (.status st) : Except Failure α) := by
  intro e h
  cases h
  exact ⟨st, rfl⟩

theorem clean_ofStatus {α : Type} (x : Except STATUS α) : Clean (ofStatus x) := by
  cases x with
  | error st => exact clean_status st
  | ok a => exact clean_ok a

theorem Clean.bind {α β : Type} {x : Except Failure α} {f : α → Except Failure β} (hx : Clean x)
    (hf : ∀ a, x = .ok a → Clean (f a)) : Clean (x >>= f) := by
  cases x with
  | error e =>
    intro e' h
    have heq : (Except.error e : Except Failure β) = .error e' := h
    cases heq
    exact hx e rfl
  | ok a => exact hf a rfl

theorem Clean.ne_outOfBounds {α : Type} {x : Except Failure α} (h : Clean x) :
    x ≠ .error .outOfBounds := by
  intro hx
  obtain ⟨st, hst⟩ := h _ hx
  cases hst

theorem Clean.ne_notTerminated {α : Type} {x : Except Failure α} (h : Clean x) :
    x ≠ .error .notTerminated := by
  intro hx
  obtain ⟨st, hst⟩ := h _ hx
  cases hst

theorem read16_clean {buf : Bytes} {off : Nat} (h : off + 2 ≤ buf.length) : Clean (read16 buf off) := by
  rw [read16, if_pos h]
  exact clean_ok _

theorem read32_clean {buf : Bytes} {off : Nat} (h : off + 4 ≤ buf.length) : Clean (read32 buf off) := by
  rw [read32, if_pos h]
  exact clean_ok _

theorem readBytes_clean {buf : Bytes} {off n : Nat} (h : off + n ≤ buf.length) :
    Clean (readBytes buf off n) := by
  rw [readBytes, if_pos h]
  exact clean_ok _

/-! ## The first pass -/

/-- The attribute passes the checks of the first pass in this state. -/
def accepted (buf : Bytes) (o : Nat) (s : Scan) : Except STATUS Scan :=
  sizeAttribute (kindAt buf o) (familyAt buf o) (lengthAt buf o) s

/-- The attributes that the first pass reaches, each with the state before it: up to the first one
that is not accepted. -/
def reachedFrom (buf : Bytes) : List Nat → Scan → List (Nat × Scan)
  | [], _ => []
  | o :: os, s => (o, s) ::
    match accepted buf o s with
    | .ok s' => reachedFrom buf os s'
    | .error _ => []

instance (buf : Bytes) : Decidable (HeaderOk buf) := inferInstanceAs (Decidable (_ ∧ _))

def reached (buf : Bytes) : List (Nat × Scan) :=
  if HeaderOk buf then reachedFrom buf (attributeOffsets buf) initialScan else []

theorem scanAttribute_inside {buf : Bytes} {o : Nat} (h : HeaderInside buf o) (s : Scan) :
    scanAttribute buf o s = (ofStatus (accepted buf o s) >>= fun s' => pure (s', nextAt buf o)) := by
  cases hacc : accepted buf o s with
  | ok s' => exact scanAttribute_ok_iff.mpr ⟨h, hacc, rfl⟩
  | error st =>
    obtain ⟨h4, h6⟩ := h
    have hread : read16 buf o = .ok (typeAt buf o) := by
      rw [read16, if_pos (by omega)]
      rfl
    have hread' : read16 buf (o + 2) = .ok (lengthAt buf o) := by
      rw [read16, if_pos (by omega)]
      rfl
    have hfam : readFamily buf o (kindOf (typeAt buf o)) = .ok (familyAt buf o) := by
      have hkind : kindOf (typeAt buf o) = kindAt buf o := rfl
      rw [hkind, readFamily, familyAt]
      by_cases hk : kindAt buf o = .address
      · have hin : o + 4 + 2 ≤ buf.length := h6 hk
        rw [if_pos hk, if_pos hk]
        simp only [read16, STUN_ATTRIBUTE_HEADER_LEN, if_pos hin]
        rfl
      · rw [if_neg hk, if_neg hk]
        rfl
    rw [accepted] at hacc
    simp only [scanAttribute, hread, hread', bind, Except.bind, hfam]
    rw [show kindOf (typeAt buf o) = kindAt buf o from rfl, hacc]
    rfl

theorem scanAttribute_outside {buf : Bytes} {o : Nat} (h : ¬ HeaderInside buf o) (s : Scan) :
    scanAttribute buf o s = .error .outOfBounds := by
  rw [scanAttribute]
  by_cases h2 : o + 2 ≤ buf.length
  · by_cases h4 : o + 4 ≤ buf.length
    · have hnot : kindAt buf o = .address ∧ ¬ o + 6 ≤ buf.length := by
        by_contra hno
        apply h
        refine ⟨h4, fun hk => ?_⟩
        by_contra h6
        exact hno ⟨hk, h6⟩
      have hkind : kindOf (getUnalignedInt16BigEndian buf o) = .address := hnot.1
      have hin : ¬ o + 4 + 2 ≤ buf.length := hnot.2
      simp only [read16, if_pos h2, if_pos (show o + 2 + 2 ≤ buf.length from h4), bind, Except.bind,
        readFamily, hkind, if_true, STUN_ATTRIBUTE_HEADER_LEN, if_neg hin]
    · simp only [read16, if_pos h2, if_neg (show ¬ o + 2 + 2 ≤ buf.length from h4), bind, Except.bind]
  · simp only [read16, if_neg h2, bind, Except.bind]

/-- The first pass reads inside the buffer if the headers that it reaches lie there. -/
theorem scanOffsets_of_headers {buf : Bytes} : ∀ (os : List Nat) (s : Scan),
    (∀ r ∈ reachedFrom buf os s, HeaderInside buf r.1) →
    scanOffsets buf os s = ofStatus (sizeOffsets buf os s)
  | [], _, _ => rfl
  | o :: os, s, h => by
    have hin : HeaderInside buf o := h (o, s) (by simp [reachedFrom])
    rw [scanOffsets, sizeOffsets, scanAttribute_inside hin]
    cases hacc : accepted buf o s with
    | error st =>
      rw [accepted] at hacc
      rw [hacc]
      rfl
    | ok s' =>
      have hrest := scanOffsets_of_headers os s' fun r hr => h r (by
        simp only [reachedFrom, hacc]
        exact List.mem_cons_of_mem _ hr)
      rw [accepted] at hacc
      rw [hacc]
      exact hrest

/-- ... and only then. -/
theorem headers_of_scanOffsets {buf : Bytes} : ∀ (os : List Nat) (s : Scan),
    scanOffsets buf os s ≠ .error .outOfBounds →
    ∀ r ∈ reachedFrom buf os s, HeaderInside buf r.1
  | [], _, _ => by simp [reachedFrom]
  | o :: os, s, h => by
    by_cases hin : HeaderInside buf o
    · rw [scanOffsets, scanAttribute_inside hin] at h
      intro r hr
      rcases List.mem_cons.mp hr with rfl | hr
      · exact hin
      · cases hacc : accepted buf o s with
        | error st => simp [hacc] at hr
        | ok s' =>
          rw [hacc] at h hr
          exact headers_of_scanOffsets os s' h r hr
    · rw [scanOffsets, scanAttribute_outside hin] at h
      exact absurd rfl h

theorem reachedFrom_of_sizeOffsets {buf : Bytes} : ∀ {os : List Nat} {s s' : Scan},
    sizeOffsets buf os s = .ok s' → ∀ o ∈ os, ∃ r ∈ reachedFrom buf os s, r.1 = o ∧
      ∃ s1, accepted buf o r.2 = .ok s1
  | [], _, _, _ => by simp
  | o :: os, s, s', h => by
    obtain ⟨s1, hacc, hrest⟩ := bind_ok_iff.mp h
    intro o' ho
    rcases List.mem_cons.mp ho with rfl | ho
    · exact ⟨(o', s), by simp [reachedFrom], rfl, s1, hacc⟩
    · obtain ⟨r, hr, hro⟩ := reachedFrom_of_sizeOffsets hrest o' ho
      have hacc' : accepted buf o s = .ok s1 := hacc
      refine ⟨r, ?_, hro⟩
      simp only [reachedFrom, hacc']
      exact List.mem_cons_of_mem _ hr

theorem offsetsFrom_of_ge {buf : Bytes} {stop n off : Nat} (h : stop ≤ off) :
    offsetsFrom buf stop n off = [] := by
  cases n with
  | zero => rfl
  | succ n => rw [offsetsFrom, if_neg (by omega)]

theorem sizeOffsets_of_last {buf : Bytes} {stop : Nat} : ∀ (n off : Nat) (s : Scan),
    ∀ r ∈ reachedFrom buf (offsetsFrom buf stop n off) s, (∃ s1, accepted buf r.1 r.2 = .ok s1) →
      stop ≤ nextAt buf r.1 → ∃ s', sizeOffsets buf (offsetsFrom buf stop n off) s = .ok s'
  | 0, _, _, r, hr => by simp [offsetsFrom, reachedFrom] at hr
  | n + 1, off, s, r, hr => by
    rintro ⟨s1, hacc⟩ hlast
    by_cases hlt : off < stop
    · rw [offsetsFrom, if_pos hlt] at hr ⊢
      rcases List.mem_cons.mp hr with rfl | hr
      · rw [offsetsFrom_of_ge hlast]
        exact ⟨s1, bind_ok_iff.mpr ⟨s1, hacc, rfl⟩⟩
      · cases hfirst : accepted buf off s with
        | error st => simp [hfirst] at hr
        | ok s2 =>
          rw [hfirst] at hr
          obtain ⟨s', hs'⟩ := sizeOffsets_of_last n _ s2 r hr ⟨s1, hacc⟩ hlast
          exact ⟨s', bind_ok_iff.mpr ⟨s2, hfirst, hs'⟩⟩
    · rw [offsetsFrom, if_neg hlt] at hr
      simp [reachedFrom] at hr

/-! ## The second pass -/

section

variable (hmac : Bytes → Bytes → Bytes) (crc32 : Bytes → UINT32) {buf : Bytes}
  (password : Option Bytes) (transactionId : Bytes)

/-- The attribute lies in the buffer, and an ERROR-CODE is not empty. -/
structure Readable (buf : Bytes) (o : Nat) : Prop where
  inside : endAt buf o ≤ buf.length
  length_le : (lengthAt buf o).toNat ≤ 65532
  length_ok : checkLength (kindAt buf o) (familyAt buf o) (lengthAt buf o) = .ok ()
  errorCode : kindAt buf o = .errorCode → (lengthAt buf o).toNat ≠ 0

theorem length_of_exactly {n : Nat} {length : UINT16} {e : STATUS}
    (h : (if length.toNat = n then .ok () else .error e : Except STATUS Unit) = .ok ()) :
    length.toNat = n := by
  split at h
  case isTrue heq => exact heq
  case isFalse => cases h

theorem readValue_clean {o : Nat} (h : Readable buf o) :
    Clean (readValue hmac crc32 buf password transactionId o (typeAt buf o) (lengthAt buf o)) := by
  obtain ⟨hin, hle, hlen, herr⟩ := h
  have hround := le_ROUND_UP (lengthAt buf o).toNat
  have hpad := ROUND_UP_of_le hle
  rw [endAt] at hin
  have hkind : kindOf (typeAt buf o) = kindAt buf o := rfl
  have hbytes : ∀ {k n : Nat}, k + n ≤ ROUND_UP (lengthAt buf o).toNat 4 →
      Clean (readBytes buf (o + STUN_ATTRIBUTE_HEADER_LEN + k) n) := fun hkn =>
    readBytes_clean (by simp only [STUN_ATTRIBUTE_HEADER_LEN]; omega)
  have hword : 4 ≤ ROUND_UP (lengthAt buf o).toNat 4 →
      Clean (read32 buf (o + STUN_ATTRIBUTE_HEADER_LEN)) := fun h4 =>
    read32_clean (by simp only [STUN_ATTRIBUTE_HEADER_LEN]; omega)
  unfold readValue
  rw [hkind]
  cases hk : kindAt buf o with
  | address =>
    refine (hbytes (k := 0) (by omega)).bind fun v _ => ?_
    split
    · exact clean_ok _
    · exact clean_ok _
  | username | realm | nonce | data =>
    exact (hbytes (k := 0) (by omega)).bind fun v _ => clean_ok _
  | priority | lifetime | changeRequest =>
    rw [hk] at hlen
    have h4 := length_of_exactly hlen
    exact (hword (by omega)).bind fun v _ => clean_ok _
  | flag | unknown => exact clean_ok _
  | requestedTransport =>
    rw [hk] at hlen
    have h4 := length_of_exactly hlen
    exact (hbytes (k := 0) (by omega)).bind fun v _ => clean_ok _
  | errorCode =>
    have hne := herr hk
    have hfour : 4 ≤ ROUND_UP (lengthAt buf o).toNat 4 := by
      rw [ROUND_UP]
      omega
    refine (hbytes (by omega)).bind fun v _ => (hbytes (by omega)).bind fun w _ => ?_
    rw [if_neg (by omega)]
    exact (hbytes (by omega)).bind fun x _ => clean_ok _
  | iceControl =>
    rw [hk] at hlen
    have h8 := length_of_exactly hlen
    exact (hbytes (k := 0) (by omega)).bind fun v _ => clean_ok _
  | channelNumber =>
    rw [hk] at hlen
    have h4 := length_of_exactly hlen
    refine (read16_clean (by simp only [STUN_ATTRIBUTE_HEADER_LEN]; omega)).bind fun v _ => ?_
    exact clean_ok _
  | messageIntegrity =>
    rw [hk] at hlen
    have h20 := length_of_exactly hlen
    simp only
    split
    · exact clean_status _
    · exact clean_status _
    · refine (hbytes (k := 0) (by omega)).bind fun v _ => ?_
      split
      · exact clean_ok _
      · exact clean_status _
  | fingerprint =>
    rw [hk] at hlen
    have h4 := length_of_exactly hlen
    refine (hword (by omega)).bind fun v _ => ?_
    split
    · exact clean_ok _
    · exact clean_status _

theorem fillOffsets_clean {allocationSize : Nat} : ∀ (os : List Nat) (dest : Nat),
    (∀ o ∈ os, Readable buf o) → DestFits buf allocationSize os dest →
    Clean (fillOffsets hmac crc32 buf password transactionId allocationSize os dest)
  | [], _, _, _ => clean_ok _
  | o :: os, dest, hos, hfits => by
    have hread := hos o (by simp)
    have hin := hread.inside
    have hround := le_ROUND_UP (lengthAt buf o).toNat
    rw [endAt] at hin
    have htype : read16 buf o = .ok (typeAt buf o) := by
      rw [read16, if_pos (by omega)]
      rfl
    have hlength : read16 buf (o + 2) = .ok (lengthAt buf o) := by
      rw [read16, if_pos (by omega)]
      rfl
    obtain ⟨hdest, hrest⟩ := hfits
    rw [fillOffsets, htype, hlength]
    simp only [bind, Except.bind]
    rw [if_pos (show dest + writtenSize (kindOf (typeAt buf o)) (lengthAt buf o)
      (paddedLengthOf (lengthAt buf o)) ≤ allocationSize from hdest)]
    refine (readValue_clean hmac crc32 password transactionId hread).bind fun v _ => ?_
    refine (fillOffsets_clean os _ (fun o' ho => hos o' (List.mem_cons_of_mem o ho)) hrest).bind
      fun rest _ => ?_
    exact clean_ok _

/-! ### An empty ERROR-CODE -/

/-- Only MESSAGE-INTEGRITY and FINGERPRINT end the second pass with a status. -/
def Verified (kind : AttributeKind) : Prop := kind = .messageIntegrity ∨ kind = .fingerprint

/-- The read succeeds, or leaves the bytes. -/
def ReadsOnly {α : Type} (x : Except Failure α) : Prop := (∃ v, x = .ok v) ∨ x = .error .outOfBounds

theorem ReadsOnly.ok {α : Type} (v : α) : ReadsOnly (.ok v) := Or.inl ⟨v, rfl⟩

theorem ReadsOnly.bind {α β : Type} {x : Except Failure α} {f : α → Except Failure β}
    (hx : ReadsOnly x) (hf : ∀ v, ReadsOnly (f v)) : ReadsOnly (x >>= f) := by
  rcases hx with ⟨v, rfl⟩ | rfl
  · exact hf v
  · exact Or.inr rfl

theorem readBytes_readsOnly (buf : Bytes) (off n : Nat) : ReadsOnly (readBytes buf off n) := by
  rw [readBytes]
  split
  · exact .ok _
  · exact Or.inr rfl

theorem read16_cases (buf : Bytes) (off : Nat) :
    read16 buf off = .ok (getUnalignedInt16BigEndian buf off) ∨
      read16 buf off = .error .outOfBounds := by
  rw [read16]
  split
  · exact Or.inl rfl
  · exact Or.inr rfl

theorem read32_readsOnly (buf : Bytes) (off : Nat) : ReadsOnly (read32 buf off) := by
  rw [read32]
  split
  · exact .ok _
  · exact Or.inr rfl

theorem readValue_unverified {o : Nat} {type length : UINT16} (h : ¬ Verified (kindOf type)) :
    ReadsOnly (readValue hmac crc32 buf password transactionId o type length) := by
  unfold readValue
  cases hk : kindOf type with
  | address =>
    refine (readBytes_readsOnly _ _ _).bind fun v => ?_
    split
    · exact .ok _
    · exact .ok _
  | username | realm | nonce | data | requestedTransport | iceControl =>
    exact (readBytes_readsOnly _ _ _).bind fun v => .ok _
  | priority | lifetime | changeRequest => exact (read32_readsOnly _ _).bind fun v => .ok _
  | flag | unknown => exact .ok _
  | errorCode =>
    refine (readBytes_readsOnly _ _ _).bind fun b => (readBytes_readsOnly _ _ _).bind fun c => ?_
    split
    · exact Or.inr rfl
    · exact (readBytes_readsOnly _ _ _).bind fun d => .ok _
  | channelNumber =>
    have hread : ReadsOnly (read16 buf (o + STUN_ATTRIBUTE_HEADER_LEN)) :=
      (read16_cases _ _).imp_left fun heq => ⟨_, heq⟩
    exact hread.bind fun v => .ok _
  | messageIntegrity => exact absurd (Or.inl hk) h
  | fingerprint => exact absurd (Or.inr hk) h

theorem readValue_empty_errorCode {o : Nat} {type length : UINT16} (hk : kindOf type = .errorCode)
    (hlen : length.toNat = 0) :
    readValue hmac crc32 buf password transactionId o type length = .error .outOfBounds := by
  have hpad : (paddedLengthOf length).toNat < 4 := by
    rw [toNat_paddedLengthOf, hlen, ROUND_UP]
    decide
  simp only [readValue, hk]
  rcases readBytes_readsOnly buf (o + STUN_ATTRIBUTE_HEADER_LEN + 2) 1 with ⟨b, hb⟩ | hb
  · rcases readBytes_readsOnly buf (o + STUN_ATTRIBUTE_HEADER_LEN + 3) 1 with ⟨c, hc⟩ | hc
    · simp only [hb, hc, bind, Except.bind, if_pos hpad]
    · simp only [hb, hc, bind, Except.bind]
  · simp only [hb, bind, Except.bind]

theorem fillOffsets_cons_outOfBounds {allocationSize o dest : Nat} {os : List Nat}
    (h : readValue hmac crc32 buf password transactionId o (typeAt buf o) (lengthAt buf o) =
        .error .outOfBounds ∨
      (∃ v, readValue hmac crc32 buf password transactionId o (typeAt buf o) (lengthAt buf o) =
        .ok v) ∧
      ∀ d, fillOffsets hmac crc32 buf password transactionId allocationSize os d =
        .error .outOfBounds) :
    fillOffsets hmac crc32 buf password transactionId allocationSize (o :: os) dest =
      .error .outOfBounds := by
  rw [fillOffsets]
  have htype : read16 buf o = .ok (typeAt buf o) ∨ read16 buf o = .error .outOfBounds :=
    read16_cases buf o
  have hlength : read16 buf (o + 2) = .ok (lengthAt buf o) ∨
      read16 buf (o + 2) = .error .outOfBounds := read16_cases buf (o + 2)
  rcases htype with ht | ht
  · rcases hlength with hl | hl
    · simp only [ht, hl, bind, Except.bind]
      split
      · rcases h with h | ⟨⟨v, hv⟩, h⟩
        · rw [h]
        · rw [hv, h]
      · rfl
    · simp only [ht, hl, bind, Except.bind]
  · simp only [ht, bind, Except.bind]

theorem fillOffsets_empty_errorCode (allocationSize : Nat) {o : Nat}
    (hk : kindAt buf o = .errorCode) (hlen : (lengthAt buf o).toNat = 0) : ∀ (os rest : List Nat) (dest : Nat),
    (∀ o' ∈ os, ¬ Verified (kindAt buf o')) →
    fillOffsets hmac crc32 buf password transactionId allocationSize (os ++ o :: rest) dest =
      .error .outOfBounds
  | [], rest, dest, _ => by
    apply fillOffsets_cons_outOfBounds
    exact Or.inl (readValue_empty_errorCode hmac crc32 password transactionId hk hlen)
  | o' :: os, rest, dest, hos => by
    have hrest := fun d => fillOffsets_empty_errorCode allocationSize hk hlen os
      rest d fun o'' ho => hos o'' (List.mem_cons_of_mem o' ho)
    apply fillOffsets_cons_outOfBounds
    rcases readValue_unverified hmac crc32 password transactionId (hos o' (by simp)) with hv | hv
    · exact Or.inr ⟨hv, hrest⟩
    · exact Or.inl hv

end

/-! ### The order of the attributes -/

/-- MESSAGE-INTEGRITY or FINGERPRINT has been seen. -/
def Scan.closed (s : Scan) : Bool := s.fingerprintFound || s.messageIntegrityFound

theorem checkOrder_closed {kind : AttributeKind} {s s' : Scan} (h : checkOrder kind s = .ok s') :
    (s.closed → s'.closed) ∧ (Verified kind → s'.closed) ∧ (kind = .errorCode → ¬ s.closed) := by
  cases kind with
  | messageIntegrity =>
    simp only [checkOrder] at h
    repeat' split at h
    case isFalse.isFalse =>
      cases h
      simp [Scan.closed]
    all_goals cases h
  | fingerprint =>
    simp only [checkOrder] at h
    split at h
    case isFalse =>
      cases h
      simp [Scan.closed]
    case isTrue => cases h
  | unknown =>
    cases h
    simp [Verified]
  | _ =>
    simp only [checkOrder] at h
    split at h
    case isTrue => cases h
    case isFalse hopen =>
      cases h
      simp only [not_or, Bool.not_eq_true] at hopen
      simp [Verified, Scan.closed, hopen.1, hopen.2]

theorem sizeAttribute_closed {kind : AttributeKind} {fam length : UINT16} {s s' : Scan}
    (h : sizeAttribute kind fam length s = .ok s') :
    (s.closed → s'.closed) ∧ (Verified kind → s'.closed) ∧ (kind = .errorCode → ¬ s.closed) := by
  obtain ⟨_, _, h⟩ := bind_ok_iff.mp h
  obtain ⟨s1, horder, h⟩ := bind_ok_iff.mp h
  have hclosed := checkOrder_closed horder
  by_cases hcount : (if kind = .unknown then s1.attributeCount else s1.attributeCount + 1) ≤
      STUN_ATTRIBUTE_MAX_COUNT
  · rw [if_pos hcount] at h
    cases h
    exact hclosed
  · rw [if_neg hcount] at h
    cases h

theorem sizeOffsets_closed {buf : Bytes} : ∀ {os : List Nat} {s s' : Scan},
    sizeOffsets buf os s = .ok s' →
      (s.closed → s'.closed) ∧ ∀ o ∈ os, Verified (kindAt buf o) → s'.closed
  | [], s, s', h => by
    cases h
    simp
  | o :: os, s, s', h => by
    obtain ⟨s1, hone, hrest⟩ := bind_ok_iff.mp h
    obtain ⟨hkeep, hset, _⟩ := sizeAttribute_closed hone
    obtain ⟨hkeep', hset'⟩ := sizeOffsets_closed hrest
    refine ⟨fun hc => hkeep' (hkeep hc), fun o' ho hv => ?_⟩
    rcases List.mem_cons.mp ho with rfl | ho
    · exact hkeep' (hset hv)
    · exact hset' o' ho hv

theorem not_verified_before_errorCode {buf : Bytes} {os rest : List Nat} {o : Nat} {s s' : Scan}
    (h : sizeOffsets buf (os ++ o :: rest) s = .ok s') (hk : kindAt buf o = .errorCode) :
    ∀ o' ∈ os, ¬ Verified (kindAt buf o') := by
  rw [sizeOffsets_append] at h
  obtain ⟨s1, hbefore, h⟩ := bind_ok_iff.mp h
  obtain ⟨s2, hone, _⟩ := bind_ok_iff.mp h
  intro o' ho hv
  exact (sizeAttribute_closed hone).2.2 hk ((sizeOffsets_closed hbefore).2 o' ho hv)

/-! ## Safety -/

theorem accepted_of_sizeOffsets {buf : Bytes} : ∀ {os : List Nat} {s s' : Scan},
    sizeOffsets buf os s = .ok s' → ∀ r ∈ reachedFrom buf os s, ∃ s1, accepted buf r.1 r.2 = .ok s1
  | [], _, _, _ => by simp [reachedFrom]
  | o :: os, s, s', h => by
    obtain ⟨s1, hacc, hrest⟩ := bind_ok_iff.mp h
    have hacc' : accepted buf o s = .ok s1 := hacc
    intro r hr
    simp only [reachedFrom, hacc'] at hr
    rcases List.mem_cons.mp hr with rfl | hr
    · exact ⟨s1, hacc'⟩
    · exact accepted_of_sizeOffsets hrest r hr

/-- What parsing a datagram has to guarantee. -/
structure Safe (hmac : Bytes → Bytes → Bytes) (crc32 : Bytes → UINT32) (buf : Bytes)
    (password : Option Bytes) : Prop where
  terminates : deserializeStunPacket hmac crc32 buf password ≠ .error .notTerminated
  in_bounds : deserializeStunPacket hmac crc32 buf password ≠ .error .outOfBounds
  rejects : ∀ r ∈ reached buf, stopOf buf < r.1 + STUN_ATTRIBUTE_HEADER_LEN ∨
    stopOf buf < endAt buf r.1 →
    ∃ st, scanLoop buf (stopOf buf) (messageLengthOf buf).toNat STUN_HEADER_LEN initialScan =
      .error (.status st)
  rounds : ∀ r ∈ reached buf,
    (lengthAt buf r.1).toNat ≤ (paddedLengthOf (lengthAt buf r.1)).toNat

/-- The messages on which the missing checks do not matter. -/
structure Tame (buf : Bytes) : Prop where
  header : ∀ r ∈ reached buf, HeaderInside buf r.1
  length_le : ∀ r ∈ reached buf, (lengthAt buf r.1).toNat ≤ 65532
  ends : ∀ r ∈ reached buf, (∃ s, accepted buf r.1 r.2 = .ok s) → endAt buf r.1 ≤ stopOf buf
  errorCode : HeaderOk buf → (∃ s, sizeOffsets buf (attributeOffsets buf) initialScan = .ok s) →
    ∀ o ∈ (attributeOffsets buf).take (knownCount buf), kindAt buf o = .errorCode →
      (lengthAt buf o).toNat ≠ 0

theorem reached_of_headerOk {buf : Bytes} (h : HeaderOk buf) :
    reached buf = reachedFrom buf (attributeOffsets buf) initialScan := if_pos h

theorem headerOk_of_mem_reached {buf : Bytes} {r : Nat × Scan} (h : r ∈ reached buf) :
    HeaderOk buf := by
  by_contra hno
  rw [reached, if_neg hno] at h
  cases h

theorem firstPass_eq (buf : Bytes) :
    scanLoop buf (stopOf buf) (messageLengthOf buf).toNat STUN_HEADER_LEN initialScan =
      scanOffsets buf (attributeOffsets buf) initialScan := by
  apply scanLoop_eq
  rw [stopOf]
  omega

section

variable (hmac : Bytes → Bytes → Bytes) (crc32 : Bytes → UINT32) {buf : Bytes}
  (password : Option Bytes)

theorem Tame.readable (h : Tame buf) (hheader : HeaderOk buf) {s : Scan}
    (hs : sizeOffsets buf (attributeOffsets buf) initialScan = .ok s) :
    ∀ o ∈ (attributeOffsets buf).take (knownCount buf), Readable buf o := by
  intro o ho
  have hmem : o ∈ attributeOffsets buf := List.mem_of_mem_take ho
  obtain ⟨r, hr, rfl, hacc⟩ := reachedFrom_of_sizeOffsets hs o hmem
  rw [← reached_of_headerOk hheader] at hr
  have hstop := hheader.2.1
  have hend := h.ends r hr hacc
  exact ⟨by omega, h.length_le r hr, (sizeOffsets_ok hs).2.2 r.1 hmem,
    h.errorCode hheader ⟨s, hs⟩ r.1 ho⟩

theorem Tame.clean (h : Tame buf) : Clean (deserializeStunPacket hmac crc32 buf password) := by
  by_cases hheader : HeaderOk buf
  · rw [deserializeStunPacket_passes hmac crc32 password hheader]
    have hheaders := h.header
    rw [reached_of_headerOk hheader] at hheaders
    rw [scanOffsets_of_headers _ _ hheaders]
    refine (clean_ofStatus _).bind fun s hs => ?_
    rw [ofStatus_ok_iff] at hs
    obtain ⟨hcount, halloc, hlens⟩ := sizeOffsets_ok hs
    have hk : s.attributeCount = knownCount buf := by simpa [initialScan, knownCount] using hcount
    rw [hk]
    refine (fillOffsets_clean hmac crc32 password _ _ _ (h.readable hheader hs) ?_).bind
      fun es _ => clean_ok _
    apply destFits_take _ _ _ _ _ hlens (le_refl _)
    rw [halloc]
    simp only [initialScan]
    omega
  · obtain ⟨st, hst⟩ := deserializeStunPacket_header hmac crc32 password hheader
    rw [hst]
    exact clean_status st

theorem Tame.safe (h : Tame buf) : Safe hmac crc32 buf password := by
  refine ⟨(h.clean hmac crc32 password).ne_notTerminated,
    (h.clean hmac crc32 password).ne_outOfBounds, fun r hr hover => ?_,
    fun r hr => (paddedLengthOf_ge_iff _).mpr (h.length_le r hr)⟩
  have hheader := headerOk_of_mem_reached hr
  have hheaders := h.header
  rw [reached_of_headerOk hheader] at hheaders
  rw [firstPass_eq, scanOffsets_of_headers _ _ hheaders]
  cases hs : sizeOffsets buf (attributeOffsets buf) initialScan with
  | error st => exact ⟨st, rfl⟩
  | ok s =>
    -- an accepted attribute ends with the message
    rw [reached_of_headerOk hheader] at hr
    have hacc := accepted_of_sizeOffsets hs r hr
    rw [← reached_of_headerOk hheader] at hr
    have hend := h.ends r hr hacc
    rw [STUN_ATTRIBUTE_HEADER_LEN] at hover
    have hfour : r.1 + 4 ≤ endAt buf r.1 := Nat.le_add_right _ _
    omega

theorem Safe.header (h : Safe hmac crc32 buf password) :
    ∀ r ∈ reached buf, HeaderInside buf r.1 := by
  intro r hr
  have hheader := headerOk_of_mem_reached hr
  rw [reached_of_headerOk hheader] at hr
  refine headers_of_scanOffsets _ _ (fun hscan => ?_) r hr
  apply h.in_bounds
  rw [deserializeStunPacket_passes hmac crc32 password hheader, hscan]
  rfl

theorem Safe.ends (h : Safe hmac crc32 buf password) :
    ∀ r ∈ reached buf, (∃ s, accepted buf r.1 r.2 = .ok s) → endAt buf r.1 ≤ stopOf buf := by
  intro r hr hacc
  by_contra hover
  have hheader := headerOk_of_mem_reached hr
  have hlen := (paddedLengthOf_ge_iff _).mp (h.rounds r hr)
  have hnext := nextAt_eq_endAt hlen
  obtain ⟨st, hst⟩ := h.rejects r hr (Or.inr (by omega))
  have hheaders := h.header
  rw [reached_of_headerOk hheader] at hr hheaders
  -- the attribute is accepted and the last one, so the first pass succeeds
  obtain ⟨s, hs⟩ := sizeOffsets_of_last _ _ _ r hr hacc (by omega)
  rw [firstPass_eq, scanOffsets_of_headers _ _ hheaders, attributeOffsets, hs] at hst
  cases hst

theorem Safe.errorCode (h : Safe hmac crc32 buf password) (hheader : HeaderOk buf) {s : Scan}
    (hs : sizeOffsets buf (attributeOffsets buf) initialScan = .ok s) :
    ∀ o ∈ (attributeOffsets buf).take (knownCount buf), kindAt buf o = .errorCode →
      (lengthAt buf o).toNat ≠ 0 := by
  intro o ho hk hlen
  have hheaders := h.header
  rw [reached_of_headerOk hheader] at hheaders
  have hcount : s.attributeCount = knownCount buf := by
    simpa [initialScan, knownCount] using (sizeOffsets_ok hs).1
  obtain ⟨before, after, hsplit⟩ := List.append_of_mem ho
  have hall : sizeOffsets buf (before ++ o :: (after ++ (attributeOffsets buf).drop (knownCount buf)))
      initialScan = .ok s := by
    rw [← List.cons_append, ← List.append_assoc, ← hsplit, List.take_append_drop]
    exact hs
  have hbefore := not_verified_before_errorCode hall hk
  apply h.in_bounds
  rw [deserializeStunPacket_passes hmac crc32 password hheader, scanOffsets_of_headers _ _ hheaders,
    hs]
  simp only [ofStatus, bind, Except.bind]
  rw [hcount, hsplit, fillOffsets_empty_errorCode hmac crc32 password _ _ hk hlen _ _ _ hbefore]

/-- **Safety of parsing.**  Both passes end, read only the datagram, write only the allocation,
refuse an attribute that leaves the message and never round a length down, exactly if the datagram
is tame. -/
theorem stun_parsing_safe_iff : Safe hmac crc32 buf password ↔ Tame buf := by
  constructor
  · intro h
    refine ⟨h.header, fun r hr => (paddedLengthOf_ge_iff _).mp (h.rounds r hr), h.ends, ?_⟩
    rintro hheader ⟨s, hs⟩
    exact h.errorCode hmac crc32 password hheader hs
  · exact Tame.safe hmac crc32 password

end

/-- A message of six bytes: a flag, and two bytes of the header of another attribute. -/
def truncatedMessage : Bytes :=
  [0x00, 0x01, 0x00, 0x06, 0x21, 0x12, 0xa4, 0x42, 0x01, 0x02, 0x03, 0x04, 0x05, 0x06, 0x07, 0x08,
    0x09, 0x0a, 0x0b, 0x0c, 0x00, 0x25, 0x00, 0x00, 0x00, 0x24]

/-- The length of the second attribute is read behind the datagram. -/
theorem truncatedMessage_unsafe :
    ¬ Safe (fun _ _ => []) (fun _ => 0) truncatedMessage none := by
  intro h
  exact h.in_bounds (by decide +kernel)

end KvsWebrtc.Stun
