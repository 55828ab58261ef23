import KvsWebrtc.Stun.Walk
import Mathlib.Data.List.Pairwise
import Mathlib.Data.List.Perm.Subperm

/-!
# What a parsed STUN message vouches for

The first pass counts the known attributes, the second one stops after so many attributes of any
type.  So a message in which an unknown attribute comes before a known one loses its last known
attributes, and with them the verification of MESSAGE-INTEGRITY.  The length of the bytes under a
FINGERPRINT is cut to 16 bits, which matters only for a FINGERPRINT that starts at offset 65536 or
later.

Principal results:

* `take_knownCount` — the second pass visits the known attributes if no unknown one precedes them,
  and only then;
* `stun_authenticated_iff` — when everything that is returned was verified.
-/

namespace KvsWebrtc.Stun

/-! ## The known attributes come first -/

/-- No unknown attribute comes before a known one. -/
def KnownFirst (buf : Bytes) : Prop :=
  (attributeOffsets buf).Pairwise fun o o' => known buf o' → known buf o

theorem filter_eq_take_of_pairwise {α : Type} {p : α → Bool} : ∀ {l : List α},
    l.Pairwise (fun a b => p b → p a) → l.take (l.countP p) = l.filter p
  | [], _ => rfl
  | a :: l, h => by
    obtain ⟨hhead, htail⟩ := List.pairwise_cons.mp h
    by_cases ha : p a
    · rw [List.countP_cons_of_pos ha, List.take_succ_cons, List.filter_cons_of_pos ha,
        filter_eq_take_of_pairwise htail]
    · have hnone : ∀ b ∈ l, ¬ p b := fun b hb hpb => ha (hhead b hb hpb)
      rw [List.countP_cons_of_neg ha, List.countP_eq_zero.mpr hnone,
        List.filter_cons_of_neg ha, List.filter_eq_nil_iff.mpr hnone, List.take_zero]

/-- If all elements with the property are among as many first ones, then these are all of them. -/
theorem pairwise_of_filter_subset_take {α : Type} {p : α → Bool} : ∀ {l : List α}, l.Nodup →
    (∀ a ∈ l.filter p, a ∈ l.take (l.countP p)) → l.Pairwise (fun a b => p b → p a)
  | [], _, _ => List.Pairwise.nil
  | a :: l, hnodup, hsub => by
    obtain ⟨hnotin, htail⟩ := List.nodup_cons.mp hnodup
    by_cases ha : p a
    · rw [List.countP_cons_of_pos ha, List.take_succ_cons, List.filter_cons_of_pos ha] at hsub
      refine List.pairwise_cons.mpr ⟨fun _ _ _ => ha, pairwise_of_filter_subset_take htail ?_⟩
      intro b hb
      rcases List.mem_cons.mp (hsub b (List.mem_cons_of_mem a hb)) with rfl | hmem
      · exact absurd (List.mem_of_mem_filter hb) hnotin
      · exact hmem
    · -- the first element takes a place, so one with the property would be left out
      rw [List.countP_cons_of_neg ha, List.filter_cons_of_neg ha] at hsub
      have hzero : l.countP p = 0 := by
        by_contra hne
        obtain ⟨k, hk⟩ := Nat.exists_eq_succ_of_ne_zero hne
        rw [hk, List.take_succ_cons] at hsub
        have hsubset : l.filter p ⊆ l.take k := by
          intro b hb
          rcases List.mem_cons.mp (hsub b hb) with rfl | hmem
          · exact absurd (List.of_mem_filter hb) ha
          · exact hmem
        have hle := (List.subperm_of_subset (htail.filter p) hsubset).length_le
        rw [← List.countP_eq_length_filter, hk, List.length_take] at hle
        omega
      have hnone := List.countP_eq_zero.mp hzero
      refine List.pairwise_cons.mpr ⟨fun b hb hpb => absurd hpb (hnone b hb), ?_⟩
      exact List.pairwise_of_forall_mem_list fun _ _ b hb hpb => absurd hpb (hnone b hb)

/-- The known attributes in wire order. -/
def knownOffsets (buf : Bytes) : List Nat := (attributeOffsets buf).filter (known buf)

theorem attributeOffsets_nodup (buf : Bytes) : (attributeOffsets buf).Nodup :=
  (offsetsFrom_pairwise _ _).imp fun h => Nat.ne_of_lt h

theorem take_knownCount (buf : Bytes) :
    (∀ o ∈ knownOffsets buf, o ∈ (attributeOffsets buf).take (knownCount buf)) ↔ KnownFirst buf := by
  constructor
  · exact pairwise_of_filter_subset_take (attributeOffsets_nodup buf)
  · intro h o ho
    rw [knownCount, filter_eq_take_of_pairwise h]
    exact ho

/-! ## The entries -/

theorem settleEntries_of_known : ∀ {es : List (Nat × StunAttribute)},
    (∀ e ∈ es, kindOf e.2.type ≠ .unknown) → settleEntries es = es
  | [], _ => rfl
  | e :: es, h => by
    have ih := settleEntries_of_known fun e' he => h e' (List.mem_cons_of_mem e he)
    rw [settleEntries, ih]
    cases es with
    | nil => rfl
    | cons e' es => simp [h e (by simp)]

theorem mem_settleEntries : ∀ {es : List (Nat × StunAttribute)} {e : Nat × StunAttribute},
    e ∈ settleEntries es → e ∈ es
  | [], e, h => by simp [settleEntries] at h
  | e' :: es, e, h => by
    rw [settleEntries] at h
    split at h
    case h_1 =>
      rw [List.mem_singleton.mp h]
      exact List.mem_cons_self
    case h_2 first rest heq =>
      have hsub : ∀ x ∈ first :: rest, x ∈ es := fun x hx =>
        mem_settleEntries (by rw [heq]; exact hx)
      rcases List.mem_cons.mp h with rfl | h
      · split
        · exact List.mem_cons_of_mem _ (hsub _ List.mem_cons_self)
        · exact List.mem_cons_self
      · exact List.mem_cons_of_mem _ (hsub e h)

section

variable (hmac : Bytes → Bytes → Bytes) (crc32 : Bytes → UINT32) (buf : Bytes)
  (password : Option Bytes)

theorem map_fst_of_entries {transactionId : Bytes} {os : List Nat}
    {es : List (Nat × StunAttribute)}
    (h : List.Forall₂ (Entry hmac crc32 buf password transactionId) os es) :
    es.map Prod.fst = os := by
  induction h with
  | nil => rfl
  | cons hentry _ ih => rw [List.map_cons, ih, hentry.2.1]

/-! ## Authentication -/

/-- The bytes before the attribute at `o`, in a message that ends with a value of `valueLength`
bytes there. -/
def bytesBefore (o valueLength : Nat) : Bytes :=
  (putMessageLength buf (BitVec.ofNat 16 (o + 4 + valueLength - 20))).take o

/-- The attributes exactly fill the length that the header gives: none runs past the end, where the
walk ends. -/
def WellFormedMessage : Prop :=
  stopOf buf ≤ buf.length ∧ ∀ o ∈ attributeOffsets buf, endAt buf o ≤ stopOf buf

/-- The returned packet has the known attributes of the message in wire order, every
MESSAGE-INTEGRITY on the wire is the HMAC of the bytes before it, and every FINGERPRINT their CRC. -/
structure Authenticated (p : ParsedPacket) : Prop where
  listed : p.origins = knownOffsets buf
  filled : List.Forall₂ (fun o a => a.type = typeAt buf o ∧ a.length = lengthAt buf o ∧
    readValue hmac crc32 buf password (transactionIdOf buf) o a.type a.length = .ok a.value)
    (knownOffsets buf) p.attributeList
  integrity : ∀ o ∈ attributeOffsets buf, kindAt buf o = .messageIntegrity →
    ∃ pw, password = some pw ∧
      (buf.drop (o + 4)).take STUN_HMAC_VALUE_LEN = hmac pw (bytesBefore buf o STUN_HMAC_VALUE_LEN)
  fingerprint : ∀ o ∈ attributeOffsets buf, kindAt buf o = .fingerprint →
    getUnalignedInt32BigEndian buf (o + 4) =
      crc32 (bytesBefore buf o 4) ^^^ STUN_FINGERPRINT_ATTRIBUTE_XOR_VALUE

/-- Every FINGERPRINT starts before offset 65536, or the CRC of the bytes up to the truncated length
is that of all bytes. -/
def FingerprintsCovered : Prop :=
  ∀ o ∈ attributeOffsets buf, kindAt buf o = .fingerprint →
    o < 65536 ∨ crc32 (coveredBytes buf o 4) = crc32 (bytesBefore buf o 4)

theorem coveredBytes_eq {o n : Nat} (h : o < 65536) : coveredBytes buf o n = bytesBefore buf o n := by
  rw [coveredBytes, bytesBefore, BitVec.toNat_ofNat, Nat.mod_eq_of_lt h]

variable {hmac crc32 buf password}

theorem readValue_messageIntegrity {transactionId : Bytes} {o : Nat} {type length : UINT16}
    {v : AttributeValue} (hk : kindOf type = .messageIntegrity)
    (h : readValue hmac crc32 buf password transactionId o type length = .ok v) :
    ∃ pw, password = some pw ∧ (buf.drop (o + 4)).take STUN_HMAC_VALUE_LEN =
      hmac pw (coveredBytes buf o STUN_HMAC_VALUE_LEN) := by
  simp only [readValue, hk] at h
  split at h
  case h_1 => cases h
  case h_2 => cases h
  case h_3 pw _ =>
    refine ⟨pw, rfl, ?_⟩
    obtain ⟨b, hb, h⟩ := bind_ok_iff.mp h
    rw [readBytes] at hb
    split at hb
    case isTrue =>
      obtain rfl := Except.ok.inj hb
      split at h
      case isTrue heq => exact heq.symm
      case isFalse => cases h
    case isFalse => cases hb

theorem readValue_fingerprint {transactionId : Bytes} {o : Nat} {type length : UINT16}
    {v : AttributeValue} (hk : kindOf type = .fingerprint)
    (h : readValue hmac crc32 buf password transactionId o type length = .ok v) :
    getUnalignedInt32BigEndian buf (o + 4) =
      crc32 (coveredBytes buf o 4) ^^^ STUN_FINGERPRINT_ATTRIBUTE_XOR_VALUE := by
  simp only [readValue, hk] at h
  obtain ⟨b, hb, h⟩ := bind_ok_iff.mp h
  rw [read32] at hb
  split at hb
  case isTrue =>
    obtain rfl := Except.ok.inj hb
    split at h
    case isTrue heq => exact heq.symm
    case isFalse => cases h
  case isFalse => cases hb

theorem exists_entry {transactionId : Bytes} {os : List Nat} {es : List (Nat × StunAttribute)}
    (h : List.Forall₂ (Entry hmac crc32 buf password transactionId) os es) {o : Nat} (ho : o ∈ os) :
    ∃ v, readValue hmac crc32 buf password transactionId o (typeAt buf o) (lengthAt buf o) = .ok v := by
  induction h with
  | nil => simp at ho
  | cons hentry _ ih =>
    rcases List.mem_cons.mp ho with rfl | ho
    · obtain ⟨_, _, htype, hlength, hvalue⟩ := hentry
      rw [htype, hlength] at hvalue
      exact ⟨_, hvalue⟩
    · exact ih ho

theorem entries_known {transactionId : Bytes} {os : List Nat} {es : List (Nat × StunAttribute)}
    (h : List.Forall₂ (Entry hmac crc32 buf password transactionId) os es)
    (hos : ∀ o ∈ os, known buf o) : ∀ e ∈ es, kindOf e.2.type ≠ .unknown := by
  induction h with
  | nil => simp
  | cons hentry _ ih =>
    intro e he
    rcases List.mem_cons.mp he with rfl | he
    · have hk := hos _ List.mem_cons_self
      simp only [known, decide_eq_true_eq] at hk
      rw [hentry.2.2.1]
      exact hk
    · exact ih (fun o ho => hos o (List.mem_cons_of_mem _ ho)) e he

theorem messageIntegrity_lt {s s' : Scan} (hwf : WellFormedMessage buf)
    (hs : sizeOffsets buf (attributeOffsets buf) s = .ok s') {o : Nat}
    (ho : o ∈ attributeOffsets buf) (hk : kindAt buf o = .messageIntegrity) : o < 65536 := by
  have hlen := (sizeOffsets_ok hs).2.2 o ho
  have hend := hwf.2 o ho
  have hml := (messageLengthOf buf).isLt
  rw [hk] at hlen
  have h20 : (lengthAt buf o).toNat = 20 := by
    simp only [checkLength] at hlen
    split at hlen
    case isTrue h => exact h
    case isFalse => cases hlen
  rw [endAt, stopOf, h20, ROUND_UP] at hend
  simp only [STUN_HEADER_LEN] at hend
  omega

/-- **Authentication.**  For a well-formed message that is parsed successfully, the packet has
exactly the known attributes and everything that can be verified was verified, if and only if no
unknown attribute precedes a known one and the CRC of a FINGERPRINT was taken over all bytes before
it. -/
theorem stun_authenticated_iff (hmac : Bytes → Bytes → Bytes) (crc32 : Bytes → UINT32)
    (buf : Bytes) (hwf : WellFormedMessage buf) (password : Option Bytes) (p : ParsedPacket)
    (hok : deserializeStunPacket hmac crc32 buf password = .ok p) :
    Authenticated hmac crc32 buf password p ↔ KnownFirst buf ∧ FingerprintsCovered crc32 buf := by
  obtain ⟨_, _, s, hs, es, hes, rfl⟩ :=
    (deserializeStunPacket_ok_iff hmac crc32 buf password p).mp hok
  have hfst := map_fst_of_entries hmac crc32 buf password hes
  -- a known attribute was visited if the known attributes come first
  have hvisit : KnownFirst buf → ∀ o ∈ attributeOffsets buf, known buf o →
      ∃ v, readValue hmac crc32 buf password (transactionIdOf buf) o (typeAt buf o)
        (lengthAt buf o) = .ok v := by
    intro hfirst o ho hk
    exact exists_entry hes ((take_knownCount buf).mpr hfirst o (List.mem_filter.mpr ⟨ho, hk⟩))
  constructor
  · intro hauth
    have hfirst : KnownFirst buf := by
      apply (take_knownCount buf).mp
      intro o ho
      rw [← hauth.listed] at ho
      obtain ⟨e, he, rfl⟩ := List.mem_map.mp ho
      rw [← hfst]
      exact List.mem_map.mpr ⟨e, mem_settleEntries he, rfl⟩
    refine ⟨hfirst, fun o ho hk => Or.inr ?_⟩
    obtain ⟨v, hv⟩ := hvisit hfirst o ho (by simp [known, hk])
    have hcrc := readValue_fingerprint hk hv
    rw [hauth.fingerprint o ho hk] at hcrc
    exact ((BitVec.xor_left_inj _).mp hcrc).symm
  · rintro ⟨hfirst, hcover⟩
    rw [knownCount, filter_eq_take_of_pairwise hfirst] at hes hfst
    have hsettle := settleEntries_of_known
      (entries_known hes fun o ho => List.of_mem_filter ho)
    refine ⟨?_, ?_, ?_, ?_⟩
    · rw [packetOf, hsettle]
      exact hfst
    · rw [packetOf, hsettle]
      exact List.forall₂_map_right_iff.mpr (hes.imp fun _ _ hentry => hentry.2.2)
    · intro o ho hk
      obtain ⟨v, hv⟩ := hvisit hfirst o ho (by simp [known, hk])
      obtain ⟨pw, hpw, heq⟩ := readValue_messageIntegrity hk hv
      rw [coveredBytes_eq buf (messageIntegrity_lt hwf hs ho hk)] at heq
      exact ⟨pw, hpw, heq⟩
    · intro o ho hk
      obtain ⟨v, hv⟩ := hvisit hfirst o ho (by simp [known, hk])
      rw [readValue_fingerprint hk hv]
      rcases hcover o ho hk with hlt | heq
      · rw [coveredBytes_eq buf hlt]
      · rw [heq]

end

/-! ## Two messages

The password of both is `pw`; the HMAC and the CRC are the values of SHA1-HMAC and CRC-32 on the
bytes they are taken of. -/

instance (buf : Bytes) : Decidable (WellFormedMessage buf) :=
  inferInstanceAs (Decidable (_ ∧ _))

instance (buf : Bytes) : Decidable (KnownFirst buf) :=
  inferInstanceAs (Decidable (List.Pairwise _ _))

instance (crc32 : Bytes → UINT32) (buf : Bytes) : Decidable (FingerprintsCovered crc32 buf) :=
  List.decidableBAll _ _

def samplePassword : Bytes := [0x70, 0x77]

/-- USERNAME, MESSAGE-INTEGRITY, FINGERPRINT and an unknown attribute. -/
def signedMessage : Bytes :=
  [0x00, 0x01, 0x00, 0x2c, 0x21, 0x12, 0xa4, 0x42, 0x01, 0x02, 0x03, 0x04, 0x05, 0x06, 0x07, 0x08,
    0x09, 0x0a, 0x0b, 0x0c, 0x00, 0x06, 0x00, 0x03, 0x61, 0x3a, 0x62, 0x00, 0x00, 0x08, 0x00, 0x14,
    0xf4, 0x32, 0x56, 0x66, 0xea, 0xe0, 0x5d, 0xac, 0xa6, 0xa2, 0x79, 0x9a, 0xbe, 0x3c, 0xa9, 0x36,
    0xbb, 0x0b, 0xf1, 0xbc, 0x80, 0x28, 0x00, 0x04, 0x6d, 0x43, 0xd0, 0x7d, 0x77, 0x77, 0x00, 0x00]

def signedHmac : Bytes :=
  [0xf4, 0x32, 0x56, 0x66, 0xea, 0xe0, 0x5d, 0xac, 0xa6, 0xa2, 0x79, 0x9a, 0xbe, 0x3c, 0xa9, 0x36,
    0xbb, 0x0b, 0xf1, 0xbc]

def sampleTransactionId : Bytes :=
  [0x01, 0x02, 0x03, 0x04, 0x05, 0x06, 0x07, 0x08, 0x09, 0x0a, 0x0b, 0x0c]

def signedPacket : ParsedPacket where
  header := ⟨1, 44, STUN_HEADER_MAGIC_COOKIE, sampleTransactionId⟩
  allocationSize := 116
  attributeList := [⟨6, 3, .padded [0x61, 0x3a, 0x62, 0x00]⟩, ⟨8, 20, .bytes signedHmac⟩,
    ⟨0x8028, 4, .word 0x6d43d07d⟩]
  origins := [20, 28, 52]

theorem signedMessage_authenticated :
    Authenticated (fun _ _ => signedHmac) (fun _ => 0x3e178533) signedMessage (some samplePassword)
      signedPacket :=
  (stun_authenticated_iff _ _ signedMessage (by decide +kernel) (some samplePassword) signedPacket
    (by decide +kernel)).mpr (by decide +kernel)

/-- An unknown attribute, and a MESSAGE-INTEGRITY of twenty zeros. -/
def forgedMessage : Bytes :=
  [0x00, 0x01, 0x00, 0x1c, 0x21, 0x12, 0xa4, 0x42, 0x01, 0x02, 0x03, 0x04, 0x05, 0x06, 0x07, 0x08,
    0x09, 0x0a, 0x0b, 0x0c, 0x77, 0x77, 0x00, 0x00, 0x00, 0x08, 0x00, 0x14] ++ List.replicate 20 0

def forgedHmac : Bytes :=
  [0x9c, 0x49, 0x01, 0x82, 0x46, 0xd8, 0x3c, 0xf2, 0x7a, 0x17, 0x87, 0xf3, 0xa3, 0x72, 0xa0, 0x31,
    0xf4, 0x13, 0xa8, 0x38]

def forgedPacket : ParsedPacket where
  header := ⟨1, 28, STUN_HEADER_MAGIC_COOKIE, sampleTransactionId⟩
  allocationSize := 72
  attributeList := [⟨0x7777, 0, .none⟩]
  origins := [20]

/-- The forged message is accepted, with an entry for the unknown attribute. -/
theorem forged_integrity_accepted :
    WellFormedMessage forgedMessage ∧
      deserializeStunPacket (fun _ _ => forgedHmac) (fun _ => 0) forgedMessage (some samplePassword) =
        .ok forgedPacket ∧
      ¬ Authenticated (fun _ _ => forgedHmac) (fun _ => 0) forgedMessage (some samplePassword)
        forgedPacket := by
  refine ⟨by decide +kernel, by decide +kernel, fun h => ?_⟩
  obtain ⟨pw, _, heq⟩ := h.integrity 24 (by decide +kernel) (by decide +kernel)
  revert heq
  decide +kernel

end KvsWebrtc.Stun
