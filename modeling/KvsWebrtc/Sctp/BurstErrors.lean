import KvsWebrtc.Lib.Crc
import KvsWebrtc.Sctp.Packet

/-!
# What the checksum of a packet detects

`sctpCrc32c` reads a byte at a time from `sCrc32cTable`.  It is the reflected CRC of the Castagnoli
polynomial, and the generator has a constant term, so a sealed packet of which only bits within 32
consecutive ones have changed, none of them in the checksum field, does not pass
`sctpValidatePacket`.  Consecutive is meant in the order in which the checksum reads the bits, least
significant first in each byte.

Principal results:

* `sctpCrc32c_bitwise` — the table-driven checksum is the bit-by-bit one;
* `crc32c_correct` — with it, a burst of at most 32 bits is rejected.
-/

namespace KvsWebrtc.Sctp

/-- The Castagnoli polynomial, reflected. -/
abbrev CRC32C_POLYNOMIAL : UINT32 := 0x82F63B78

/-- The reflected CRC, bit by bit. -/
def bitwiseCrc32c (pData : Bytes) : UINT32 :=
  Crc.crc CRC32C_POLYNOMIAL 0xFFFFFFFF 0xFFFFFFFF pData

/-! ## The table -/

theorem sCrc32cTable_entry :
    ∀ i < 256, sCrc32cTable.getD i 0 = (Crc.shift CRC32C_POLYNOMIAL)^[8] (BitVec.ofNat 32 i) := by
  decide +kernel

theorem word_byteBits (b : UINT8) : Crc.word 32 (Crc.byteBits b) = b.setWidth 32 := by
  apply BitVec.eq_of_getLsbD_eq
  intro i hi
  rw [Crc.getLsbD_word, BitVec.getLsbD_setWidth]
  by_cases h8 : i < 8
  · simp [Crc.byteBits, h8]
  · simp [Crc.byteBits, h8, BitVec.getLsbD_of_ge b i (by omega)]

theorem setWidth_shift (b : UINT8) : (b.setWidth 32 : UINT32) >>> 8 = 0#32 := by
  apply BitVec.eq_of_getLsbD_eq
  intro i _
  rw [BitVec.getLsbD_ushiftRight, BitVec.getLsbD_setWidth, BitVec.getLsbD_of_ge b _ (by omega),
    Bool.and_false, BitVec.getLsbD_zero]

theorem sctpCrc32cByte_eq (crc : UINT32) (b : UINT8) :
    sctpCrc32cByte crc b = Crc.feedBits CRC32C_POLYNOMIAL crc (Crc.byteBits b) := by
  have hindex : (Crc.lowByte (crc ^^^ b.setWidth 32)).toNat < 256 := by
    rw [Crc.lowByte, BitVec.toNat_and]
    exact Nat.lt_succ_of_le Nat.and_le_right
  have hentry := sCrc32cTable_entry _ hindex
  rw [BitVec.ofNat_toNat, BitVec.setWidth_eq] at hentry
  rw [Crc.feedBits_eq _ _ _ (by rw [Crc.length_byteBits]; decide), Crc.length_byteBits,
    word_byteBits, Crc.shift_iterate_byte, ← hentry, BitVec.ushiftRight_xor_distrib,
    setWidth_shift, BitVec.xor_zero]
  rfl

theorem foldl_sctpCrc32cByte (pData : Bytes) (crc : UINT32) :
    pData.foldl sctpCrc32cByte crc =
      Crc.feedBits CRC32C_POLYNOMIAL crc (Crc.messageBits pData) := by
  induction pData generalizing crc with
  | nil => rfl
  | cons b rest ih =>
    rw [List.foldl_cons, ih, sctpCrc32cByte_eq, ← Crc.feedBits_append]
    rfl

/-- **The table-driven checksum is the bit-by-bit one.** -/
theorem sctpCrc32c_bitwise (pData : Bytes) : sctpCrc32c pData = bitwiseCrc32c pData := by
  rw [sctpCrc32c, foldl_sctpCrc32cByte]
  rfl

/-! ## Bursts -/

/-- `q` is `p` with a non-empty set of bits changed, all within 32 consecutive ones and none in the
checksum field. -/
structure Burst (p q : Bytes) : Prop where
  length_eq : q.length = p.length
  changed : q ≠ p
  window : ∃ s, ∀ i, (Crc.messageBits q)[i]? ≠ (Crc.messageBits p)[i]? → s ≤ i ∧ i < s + 32
  field : ∀ i : Nat, 8 ≤ i → i < 12 → q[i]? = p[i]?

theorem getElem?_zeroChecksum {p : Bytes} (h : 12 ≤ p.length) (i : Nat) :
    (zeroChecksum p)[i]? = if 8 ≤ i ∧ i < 12 then some 0 else p[i]? := by
  have h8 : (p.take 8).length = 8 := by rw [List.length_take]; omega
  rw [zeroChecksum, List.append_assoc]
  by_cases hlo : i < 8
  · rw [List.getElem?_append_left (by omega), List.getElem?_take_of_lt hlo, if_neg (by omega)]
  · rw [List.getElem?_append_right (by omega), h8]
    by_cases hhi : i < 12
    · rw [if_pos ⟨by omega, hhi⟩, List.getElem?_append_left (by simp; omega)]
      obtain rfl | rfl | rfl | rfl : i = 8 ∨ i = 9 ∨ i = 10 ∨ i = 11 := by omega
      all_goals rfl
    · rw [if_neg (by omega), List.getElem?_append_right (by simp; omega), List.getElem?_drop]
      congr 1
      simp
      omega

namespace Burst

variable {p q : Bytes}

theorem zeroed (h : Burst p q) (hp : 12 ≤ p.length) : Burst (zeroChecksum p) (zeroChecksum q) := by
  have hq : 12 ≤ q.length := h.length_eq ▸ hp
  have hdiff : ∀ i : Nat, (zeroChecksum q)[i]? ≠ (zeroChecksum p)[i]? ↔ q[i]? ≠ p[i]? := by
    intro i
    rw [getElem?_zeroChecksum hp, getElem?_zeroChecksum hq]
    split
    · rename_i hin
      exact iff_of_false (fun hne => hne rfl) fun hne => hne (h.field i hin.1 hin.2)
    · rfl
  refine ⟨?_, ?_, ?_, ?_⟩
  · rw [length_zeroChecksum hq, length_zeroChecksum hp, h.length_eq]
  · intro heq
    apply h.changed
    refine List.ext_getElem? fun i => ?_
    by_contra hne
    exact (hdiff i).mpr hne (congrArg (·[i]?) heq)
  · obtain ⟨s, hs⟩ := h.window
    refine ⟨s, fun i hne => hs i fun heq => hne ?_⟩
    rw [Crc.getElem?_messageBits, Crc.getElem?_messageBits] at heq ⊢
    rw [getElem?_zeroChecksum hp, getElem?_zeroChecksum hq]
    split
    · rfl
    · exact heq
  · intro i hlo hhi
    rw [getElem?_zeroChecksum hp, getElem?_zeroChecksum hq, if_pos ⟨hlo, hhi⟩, if_pos ⟨hlo, hhi⟩]

theorem crc_ne (h : Burst p q) : sctpCrc32c q ≠ sctpCrc32c p := by
  obtain ⟨s, hs⟩ := h.window
  have hlen : (Crc.messageBits q).length = (Crc.messageBits p).length := by
    rw [Crc.length_messageBits, Crc.length_messageBits, h.length_eq]
  have hne : Crc.messageBits q ≠ Crc.messageBits p := fun heq =>
    h.changed (Crc.messageBits_injective heq)
  rw [sctpCrc32c_bitwise, sctpCrc32c_bitwise]
  intro heq
  have hregister := Crc.xor_right_injective _ heq
  exact Crc.feedBits_ne_of_burst (by decide) hlen hne hs 0xFFFFFFFF hregister

theorem storedChecksum_eq (h : Burst p q) : storedChecksum q = storedChecksum p := by
  have hfield : (q.drop 8).take 4 = (p.drop 8).take 4 := by
    apply List.ext_getElem?
    intro i
    rw [List.getElem?_take, List.getElem?_take]
    split
    · rw [List.getElem?_drop, List.getElem?_drop]
      exact h.field _ (by omega) (by omega)
    · rfl
  rw [storedChecksum, storedChecksum, ByteOrder.readLE, ByteOrder.readLE, hfield]

/-- **A burst in a sealed packet is rejected.** -/
theorem rejected (h : Burst p q) (hp : 12 ≤ p.length)
    (hsealed : storedChecksum p = sctpCrc32c (zeroChecksum p)) (expectedVtag : UINT32) :
    (sctpValidatePacket q expectedVtag).1 = .SCTP_INVALID_DCEP_PACKET := by
  have hmismatch : storedChecksum q ≠ sctpCrc32c (zeroChecksum q) := by
    rw [h.storedChecksum_eq, hsealed]
    exact ((h.zeroed hp).crc_ne).symm
  unfold sctpValidatePacket
  split
  · rfl
  · exact congrArg Prod.fst (if_pos hmismatch)

theorem of_set {i : Nat} {b : UINT8} (hi : i < p.length) (hb : b ≠ p[i])
    (hfield : i < 8 ∨ 12 ≤ i) : Burst p (p.set i b) := by
  refine ⟨List.length_set, ?_, ⟨8 * i, fun j hne => ?_⟩, fun j hlo hhi => ?_⟩
  · intro heq
    have hat := congrArg (·[i]?) heq
    simp only [List.getElem?_set_self hi, List.getElem?_eq_getElem hi] at hat
    exact hb (Option.some.inj hat)
  · have hbyte : j / 8 = i := by
      by_contra hother
      rw [Crc.getElem?_messageBits, Crc.getElem?_messageBits,
        List.getElem?_set_ne (Ne.symm hother)] at hne
      exact hne rfl
    omega
  · exact List.getElem?_set_ne (by omega)

end Burst

/-- **CRC32c correctness**: the checksum is the bit-by-bit one, and a burst in a packet that
`sctpFinalizePacket` has sealed is rejected. -/
theorem crc32c_correct :
    (∀ pData : Bytes, sctpCrc32c pData = bitwiseCrc32c pData) ∧
    ∀ (pBuf : Bytes) (len : Nat) (q : Bytes) (expectedVtag : UINT32), 12 ≤ len →
      len ≤ pBuf.length → Burst ((sctpFinalizePacket pBuf len).take len) q →
      (sctpValidatePacket q expectedVtag).1 = .SCTP_INVALID_DCEP_PACKET := by
  refine ⟨sctpCrc32c_bitwise, fun pBuf len q expectedVtag hlen hbuf h => ?_⟩
  have hprefix : 12 ≤ (pBuf.take len).length := by rw [List.length_take]; omega
  rw [take_sctpFinalizePacket hlen (by omega)] at h
  obtain ⟨-, -, hstored⟩ := storeChecksum_parts (sctpCrc32c (zeroChecksum (pBuf.take len))) hprefix
  refine h.rejected ?_ ?_ expectedVtag
  · rw [sealPacket, length_storeChecksum _ hprefix]
    exact hprefix
  · rw [sealPacket, hstored, zeroChecksum_storeChecksum _ hprefix]

theorem changed_byte_rejected :
    sctpCrc32c [0x31] = bitwiseCrc32c [0x31] ∧
    (sctpValidatePacket (((sctpFinalizePacket (List.replicate 16 0) 16).take 16).set 12 1) 0).1 =
      .SCTP_INVALID_DCEP_PACKET :=
  ⟨crc32c_correct.1 _, crc32c_correct.2 _ 16 _ 0 (by decide) (by decide)
    (Burst.of_set (by decide) (by decide) (by decide))⟩

end KvsWebrtc.Sctp
