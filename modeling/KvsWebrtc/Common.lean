import KvsWebrtc.Lib.ByteOrder

/-!
# Integer types and byte order

The machine integers of the SDK keep their width, so every addition and subtraction wraps as in C.
The accessors of `Endianness.h` read and write big-endian fields of a byte string.
-/

namespace KvsWebrtc

open ByteOrder

abbrev UINT8 := BitVec 8
abbrev UINT16 := BitVec 16
abbrev UINT32 := BitVec 32
abbrev UINT64 := BitVec 64
abbrev Bytes := List UINT8

def putUnalignedInt16BigEndian (v : UINT16) : Bytes := encodeBE 2 v.toNat

def putUnalignedInt32BigEndian (v : UINT32) : Bytes := encodeBE 4 v.toNat

def getUnalignedInt16BigEndian (p : Bytes) (off : Nat) : UINT16 := BitVec.ofNat 16 (readBE p off 2)

def getUnalignedInt32BigEndian (p : Bytes) (off : Nat) : UINT32 := BitVec.ofNat 32 (readBE p off 4)

@[simp] theorem length_put16 (v : UINT16) : (putUnalignedInt16BigEndian v).length = 2 := by
  simp [putUnalignedInt16BigEndian]

@[simp] theorem length_put32 (v : UINT32) : (putUnalignedInt32BigEndian v).length = 4 := by
  simp [putUnalignedInt32BigEndian]

@[simp] theorem get16_put16 (v : UINT16) (rest : Bytes) :
    getUnalignedInt16BigEndian (putUnalignedInt16BigEndian v ++ rest) 0 = v := by
  rw [getUnalignedInt16BigEndian, putUnalignedInt16BigEndian, readBE_encodeBE]
  apply BitVec.eq_of_toNat_eq
  have := v.isLt
  simp only [BitVec.toNat_ofNat]
  omega

@[simp] theorem get32_put32 (v : UINT32) (rest : Bytes) :
    getUnalignedInt32BigEndian (putUnalignedInt32BigEndian v ++ rest) 0 = v := by
  rw [getUnalignedInt32BigEndian, putUnalignedInt32BigEndian, readBE_encodeBE]
  apply BitVec.eq_of_toNat_eq
  have := v.isLt
  simp only [BitVec.toNat_ofNat]
  omega

theorem put16_get16 {raw : Bytes} {off : Nat} (h : off + 2 ≤ raw.length) :
    putUnalignedInt16BigEndian (getUnalignedInt16BigEndian raw off) = (raw.drop off).take 2 := by
  have hlt := readBE_lt raw off 2
  rw [putUnalignedInt16BigEndian, getUnalignedInt16BigEndian, BitVec.toNat_ofNat,
    Nat.mod_eq_of_lt (by omega), encodeBE_readBE h]

theorem put32_get32 {raw : Bytes} {off : Nat} (h : off + 4 ≤ raw.length) :
    putUnalignedInt32BigEndian (getUnalignedInt32BigEndian raw off) = (raw.drop off).take 4 := by
  have hlt := readBE_lt raw off 4
  rw [putUnalignedInt32BigEndian, getUnalignedInt32BigEndian, BitVec.toNat_ofNat,
    Nat.mod_eq_of_lt (by omega), encodeBE_readBE h]

theorem get16_skip {pre : Bytes} {off : Nat} (rest : Bytes) (h : pre.length ≤ off) :
    getUnalignedInt16BigEndian (pre ++ rest) off =
      getUnalignedInt16BigEndian rest (off - pre.length) := by
  rw [getUnalignedInt16BigEndian, readBE_skip rest 2 h, getUnalignedInt16BigEndian]

theorem get32_skip {pre : Bytes} {off : Nat} (rest : Bytes) (h : pre.length ≤ off) :
    getUnalignedInt32BigEndian (pre ++ rest) off =
      getUnalignedInt32BigEndian rest (off - pre.length) := by
  rw [getUnalignedInt32BigEndian, readBE_skip rest 4 h, getUnalignedInt32BigEndian]

end KvsWebrtc
