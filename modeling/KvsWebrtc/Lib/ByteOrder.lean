import Mathlib.Tactic.Ring

/-!
# Integers in byte strings

Fixed-width big- and little-endian fields of a byte string, read at an offset.  The two facts
every codec needs are `readBE_skip` (bytes before the field do not matter) and
`readBE_encodeBE` (a field that was written is read back), with their little-endian twins; the
other way round, `encodeBE_decodeBE` writes back the bytes that were read.
-/

set_option autoImplicit false

namespace ByteOrder

/-- One byte. -/
abbrev Byte := BitVec 8

/-- The `n` low-order bytes of `v`, most significant first. -/
def encodeBE : Nat → Nat → List Byte
  | 0, _ => []
  | n + 1, v => BitVec.ofNat 8 (v / 256 ^ n) :: encodeBE n v

def decodeBE (bs : List Byte) : Nat := bs.foldl (fun acc b => acc * 256 + b.toNat) 0

/-- The `n` low-order bytes of `v`, least significant first. -/
def encodeLE (n v : Nat) : List Byte := (encodeBE n v).reverse

def decodeLE (bs : List Byte) : Nat := decodeBE bs.reverse

/-- The `n`-byte field at offset `off`. -/
def readBE (bs : List Byte) (off n : Nat) : Nat := decodeBE ((bs.drop off).take n)

def readLE (bs : List Byte) (off n : Nat) : Nat := decodeLE ((bs.drop off).take n)

@[simp] theorem length_encodeBE : ∀ n v : Nat, (encodeBE n v).length = n
  | 0, _ => rfl
  | n + 1, v => by simp [encodeBE, length_encodeBE n v]

@[simp] theorem length_encodeLE (n v : Nat) : (encodeLE n v).length = n := by
  simp [encodeLE]

theorem foldl_encodeBE : ∀ n v acc : Nat,
    (encodeBE n v).foldl (fun a b => a * 256 + b.toNat) acc = acc * 256 ^ n + v % 256 ^ n
  | 0, v, acc => by simp [encodeBE, Nat.mod_one]
  | n + 1, v, acc => by
    have hbyte : (BitVec.ofNat 8 (v / 256 ^ n)).toNat = v / 256 ^ n % 256 := by simp
    have hsplit : v % 256 ^ (n + 1) = v % 256 ^ n + 256 ^ n * (v / 256 ^ n % 256) := by
      rw [Nat.pow_succ, Nat.mod_mul]
    simp only [encodeBE, List.foldl_cons, foldl_encodeBE n v, hbyte, hsplit]
    ring

theorem decodeBE_encodeBE (n v : Nat) : decodeBE (encodeBE n v) = v % 256 ^ n := by
  simp [decodeBE, foldl_encodeBE]

theorem decodeLE_encodeLE (n v : Nat) : decodeLE (encodeLE n v) = v % 256 ^ n := by
  simp [decodeLE, encodeLE, decodeBE_encodeBE]

theorem drop_skip {pre : List Byte} {off : Nat} (rest : List Byte) (h : pre.length ≤ off) :
    (pre ++ rest).drop off = rest.drop (off - pre.length) := by
  rw [List.drop_append, List.drop_of_length_le h, List.nil_append]

theorem readBE_skip {pre : List Byte} {off : Nat} (rest : List Byte) (n : Nat)
    (h : pre.length ≤ off) : readBE (pre ++ rest) off n = readBE rest (off - pre.length) n := by
  rw [readBE, drop_skip rest h, readBE]

theorem readLE_skip {pre : List Byte} {off : Nat} (rest : List Byte) (n : Nat)
    (h : pre.length ≤ off) : readLE (pre ++ rest) off n = readLE rest (off - pre.length) n := by
  rw [readLE, drop_skip rest h, readLE]

theorem readBE_encodeBE (n v : Nat) (rest : List Byte) :
    readBE (encodeBE n v ++ rest) 0 n = v % 256 ^ n := by
  rw [readBE, List.drop_zero, List.take_append_of_le_length (by simp), List.take_of_length_le
    (by simp), decodeBE_encodeBE]

theorem readLE_encodeLE (n v : Nat) (rest : List Byte) :
    readLE (encodeLE n v ++ rest) 0 n = v % 256 ^ n := by
  rw [readLE, List.drop_zero, List.take_append_of_le_length (by simp), List.take_of_length_le
    (by simp), decodeLE_encodeLE]

/-! ## Every byte string is the encoding of the integer it decodes to -/

theorem foldl_decodeBE : ∀ (bs : List Byte) (acc : Nat),
    bs.foldl (fun a b => a * 256 + b.toNat) acc = acc * 256 ^ bs.length + decodeBE bs
  | [], acc => by simp [decodeBE]
  | b :: bs, acc => by
    have hcons : decodeBE (b :: bs) = (0 * 256 + b.toNat) * 256 ^ bs.length + decodeBE bs := by
      rw [← foldl_decodeBE bs]
      rfl
    rw [List.foldl_cons, foldl_decodeBE bs, hcons, List.length_cons, Nat.pow_succ]
    ring

theorem decodeBE_cons (b : Byte) (bs : List Byte) :
    decodeBE (b :: bs) = b.toNat * 256 ^ bs.length + decodeBE bs := by
  rw [decodeBE, List.foldl_cons, foldl_decodeBE]
  simp

theorem decodeBE_lt : ∀ bs : List Byte, decodeBE bs < 256 ^ bs.length
  | [] => by simp [decodeBE]
  | b :: bs => by
    have hb := b.isLt
    have ih := decodeBE_lt bs
    have hmul : b.toNat * 256 ^ bs.length ≤ 255 * 256 ^ bs.length :=
      Nat.mul_le_mul_right _ (by omega)
    rw [decodeBE_cons, List.length_cons, Nat.pow_succ]
    omega

theorem encodeBE_add_mul : ∀ n v a : Nat, encodeBE n (a * 256 ^ n + v) = encodeBE n v
  | 0, _, _ => rfl
  | n + 1, v, a => by
    have hdigit : a * 256 ^ (n + 1) + v = a * 256 * 256 ^ n + v := by rw [Nat.pow_succ]; ring
    have hdiv : (a * 256 * 256 ^ n + v) / 256 ^ n = a * 256 + v / 256 ^ n := by
      rw [Nat.add_comm, Nat.add_mul_div_right _ _ (Nat.pow_pos (by decide)), Nat.add_comm]
    rw [hdigit, encodeBE, encodeBE_add_mul n, hdiv, encodeBE]
    congr 1
    apply BitVec.eq_of_toNat_eq
    simp

theorem encodeBE_decodeBE : ∀ bs : List Byte, encodeBE bs.length (decodeBE bs) = bs
  | [] => rfl
  | b :: bs => by
    have hlt := decodeBE_lt bs
    rw [List.length_cons, encodeBE, decodeBE_cons, encodeBE_add_mul, encodeBE_decodeBE bs,
      Nat.add_comm, Nat.add_mul_div_right _ _ (Nat.pow_pos (by decide)), Nat.div_eq_of_lt hlt]
    simp

theorem encodeBE_of_length {bs : List Byte} {n : Nat} (h : bs.length = n) :
    encodeBE n (decodeBE bs) = bs := by
  subst h
  exact encodeBE_decodeBE bs

theorem encodeBE_readBE {bs : List Byte} {off n : Nat} (h : off + n ≤ bs.length) :
    encodeBE n (readBE bs off n) = (bs.drop off).take n := by
  apply encodeBE_of_length
  rw [List.length_take, List.length_drop]
  omega

theorem readBE_lt (bs : List Byte) (off n : Nat) : readBE bs off n < 256 ^ n :=
  lt_of_lt_of_le (decodeBE_lt _) (Nat.pow_le_pow_right (by decide) (List.length_take_le _ _))

theorem encodeLE_decodeLE (bs : List Byte) : encodeLE bs.length (decodeLE bs) = bs := by
  rw [encodeLE, decodeLE, ← List.length_reverse, encodeBE_decodeBE, List.reverse_reverse]

theorem decodeLE_lt (bs : List Byte) : decodeLE bs < 256 ^ bs.length := by
  rw [decodeLE, ← List.length_reverse]
  exact decodeBE_lt bs.reverse

end ByteOrder
