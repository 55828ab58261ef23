import KvsWebrtc.Rtp.Sender

/-!
# Decoding a NACK (`rtcpNackListGet`)

Each (PID, BLP) word names up to seventeen packets.  They are counted in 16 bits, stored while the
count is at most the capacity of the list, and the count of all of them is what the caller gets
back, for the call that only asks for the size as for the one that fills the list.

Principal results:

* `rtcpNackListGet_cells` — the list afterwards is the list before with the writes of the loop;
* `nack_decoded_iff` — the writes stay inside the list, are the numbers of the NACK in order, and are
  as many as the caller is told, exactly when the numbers fit both the list and the 16-bit count.
-/

namespace KvsWebrtc.Rtp

/-- The packets a NACK names: the PID of each word and `PID + j + 1` for each bit `j` of its BLP. -/
def nackExpansion (pPayload : Bytes) : List UINT16 :=
  (nackWords (pPayload.drop RTCP_NACK_LIST_LEN)).flatMap fun w => nackNumbers w.1 w.2

/-- The call without a list, which only counts. -/
def rtcpNackListGetLen (pPayload : Bytes) : Except STATUS UINT16 :=
  if pPayload.length < RTCP_NACK_LIST_LEN ∨ pPayload.length % 4 ≠ 0 then
    .error .RTCP_INPUT_NACK_LIST_INVALID
  else .ok ((nackExpansion pPayload).foldl (fun count _ => count + 1) 0)

/-- The writes of the loop: position and value of each, from one count on. -/
def nackWritesFrom (len : Nat) : UINT16 → List UINT16 → List (Nat × UINT16)
  | _, [] => []
  | count, v :: rest =>
    if count.toNat ≤ len then (count.toNat, v) :: nackWritesFrom len (count + 1) rest
    else nackWritesFrom len (count + 1) rest

def nackWrites (pPayload : Bytes) (len : Nat) : List (Nat × UINT16) :=
  nackWritesFrom len 0 (nackExpansion pPayload)

/-- One write. -/
def storeNumber (cells : Nat → UINT16) (w : Nat × UINT16) : Nat → UINT16 :=
  fun i => if i = w.1 then w.2 else cells i

/-! ## The loop -/

theorem foldl_push (len : Nat) : ∀ (numbers : List UINT16) (cells : Nat → UINT16) (count : UINT16),
    numbers.foldl (NackList.push len) ⟨cells, count⟩ =
      ⟨(nackWritesFrom len count numbers).foldl storeNumber cells,
        numbers.foldl (fun count _ => count + 1) count⟩
  | [], _, _ => rfl
  | v :: rest, cells, count => by
    rw [List.foldl_cons, List.foldl_cons, nackWritesFrom]
    by_cases hroom : count.toNat ≤ len
    · rw [if_pos hroom, List.foldl_cons]
      unfold NackList.push
      rw [if_pos hroom]
      exact foldl_push len rest _ _
    · rw [if_neg hroom]
      unfold NackList.push
      rw [if_neg hroom]
      exact foldl_push len rest _ _

/-- **The list after the call is the list before it with the writes of the loop**, and the count is
that of the call without a list. -/
theorem rtcpNackListGet_cells {pPayload : Bytes} (hlen : RTCP_NACK_LIST_LEN ≤ pPayload.length)
    (hwords : pPayload.length % 4 = 0) (cells : Nat → UINT16) (len : Nat) :
    ∃ count, rtcpNackListGetLen pPayload = .ok count ∧
      rtcpNackListGet pPayload cells len =
        .ok (getUnalignedInt32BigEndian pPayload 0, getUnalignedInt32BigEndian pPayload 4,
          ⟨(nackWrites pPayload len).foldl storeNumber cells, count⟩) := by
  have hok : ¬ (pPayload.length < RTCP_NACK_LIST_LEN ∨ pPayload.length % 4 ≠ 0) := by omega
  refine ⟨_, if_neg hok, ?_⟩
  rw [rtcpNackListGet, if_neg hok]
  dsimp only
  rw [foldl_push]
  rfl

theorem toNat_foldl_count : ∀ (numbers : List UINT16) (count : UINT16),
    (numbers.foldl (fun count _ => count + 1) count).toNat = (count.toNat + numbers.length) % 65536
  | [], count => by
    have := count.isLt
    rw [List.foldl_nil, List.length_nil]
    omega
  | v :: rest, count => by
    rw [List.foldl_cons, toNat_foldl_count rest, BitVec.toNat_add, List.length_cons]
    simp only [BitVec.reduceToNat, Nat.reducePow]
    omega

/-- While the count does not wrap, the numbers go to consecutive positions, the last of them the
position behind the list. -/
theorem nackWritesFrom_eq (len : Nat) : ∀ (numbers : List UINT16) (count : UINT16),
    count.toNat + numbers.length ≤ 65536 →
      nackWritesFrom len count numbers =
        ((numbers.take (len + 1 - count.toNat)).zipIdx count.toNat).map Prod.swap
  | [], _, _ => by simp [nackWritesFrom]
  | v :: rest, count, h => by
    rw [List.length_cons] at h
    rw [nackWritesFrom]
    cases rest with
    | nil =>
      by_cases hroom : count.toNat ≤ len
      · rw [if_pos hroom, show len + 1 - count.toNat = (len - count.toNat) + 1 by omega]
        simp [nackWritesFrom]
      · rw [if_neg hroom, show len + 1 - count.toNat = 0 by omega]
        rfl
    | cons w rest =>
      rw [List.length_cons] at h
      have hsucc : (count + 1).toNat = count.toNat + 1 := by
        rw [BitVec.toNat_add]
        simp only [BitVec.reduceToNat, Nat.reducePow]
        omega
      have ih := nackWritesFrom_eq len (w :: rest) (count + 1) (by
        rw [hsucc, List.length_cons]
        omega)
      rw [hsucc] at ih
      rw [ih]
      by_cases hroom : count.toNat ≤ len
      · rw [if_pos hroom, show len + 1 - count.toNat = (len + 1 - (count.toNat + 1)) + 1 by omega,
          List.take_succ_cons, List.zipIdx_cons, List.map_cons]
        rfl
      · rw [if_neg hroom, show len + 1 - count.toNat = 0 by omega,
          show len + 1 - (count.toNat + 1) = 0 by omega]
        rfl

/-! ## The whole call -/

/-- What decoding a NACK into a list of `len` numbers should do. -/
structure NackDecoded (pPayload : Bytes) (cells : Nat → UINT16) (len : Nat) : Prop where
  /-- Nothing is written behind the list. -/
  inside : ∀ w ∈ nackWrites pPayload len, w.1 < len
  /-- The values written are the front of the expansion, in order. -/
  values : (nackWrites pPayload len).map Prod.snd = (nackExpansion pPayload).take len
  /-- The call without a list counts the expansion. -/
  sizeOnly : ∃ count, rtcpNackListGetLen pPayload = .ok count ∧
    count.toNat = (nackExpansion pPayload).length
  /-- What `resendPacketOnNack` hands on to the lookup was written. -/
  handedOn : ∀ senderSsrc receiverSsrc l,
    rtcpNackListGet pPayload cells len = .ok (senderSsrc, receiverSsrc, l) →
      l.count.toNat ≤ (nackWrites pPayload len).length

theorem nackWrites_eq {pPayload : Bytes} (len : Nat)
    (hcount : (nackExpansion pPayload).length < 65536) :
    nackWrites pPayload len = (((nackExpansion pPayload).take (len + 1)).zipIdx 0).map Prod.swap :=
  nackWritesFrom_eq len (nackExpansion pPayload) 0 (by
    show 0 + _ ≤ 65536
    omega)

theorem nackDecoded_of_fits {pPayload : Bytes} (hlen : RTCP_NACK_LIST_LEN ≤ pPayload.length)
    (hwords : pPayload.length % 4 = 0) (cells : Nat → UINT16) {len : Nat}
    (hfits : (nackExpansion pPayload).length ≤ len)
    (hcount : (nackExpansion pPayload).length < 65536) : NackDecoded pPayload cells len := by
  have hwrites := nackWrites_eq len hcount
  rw [List.take_of_length_le (by omega)] at hwrites
  obtain ⟨count, hsize, hget⟩ := rtcpNackListGet_cells hlen hwords cells len
  have hcountEq : count.toNat = (nackExpansion pPayload).length := by
    rw [rtcpNackListGetLen, if_neg (by omega)] at hsize
    cases hsize
    rw [toNat_foldl_count]
    show (0 + _) % 65536 = _
    omega
  refine ⟨?_, ?_, ⟨count, hsize, hcountEq⟩, ?_⟩
  · intro w hw
    rw [hwrites] at hw
    obtain ⟨p, hp, rfl⟩ := List.mem_map.mp hw
    have := List.snd_lt_of_mem_zipIdx hp
    rw [Prod.fst_swap]
    omega
  · rw [hwrites, List.map_map, List.take_of_length_le hfits]
    exact List.zipIdx_map_fst 0 _
  · intro senderSsrc receiverSsrc l h
    rw [hget] at h
    cases h
    rw [hwrites, List.length_map, List.length_zipIdx, hcountEq]

/-- **Decoding a NACK stays inside the list, writes the numbers the NACK names in order, and tells
the callers how many there are — exactly when they fit the list and the 16-bit count.** -/
theorem nack_decoded_iff {pPayload : Bytes} (hlen : RTCP_NACK_LIST_LEN ≤ pPayload.length)
    (hwords : pPayload.length % 4 = 0) (cells : Nat → UINT16) (len : Nat) :
    NackDecoded pPayload cells len ↔
      (nackExpansion pPayload).length ≤ len ∧ (nackExpansion pPayload).length < 65536 := by
  constructor
  · intro h
    have hcount : (nackExpansion pPayload).length < 65536 := by
      obtain ⟨count, -, hcount⟩ := h.sizeOnly
      have := count.isLt
      omega
    refine ⟨?_, hcount⟩
    by_contra hlong
    -- the write at position `len` is made while the count equals the capacity
    have hmem : (len, (nackExpansion pPayload).get ⟨len, by omega⟩) ∈ nackWrites pPayload len := by
      rw [nackWrites_eq len hcount]
      refine List.mem_map.mpr ⟨((nackExpansion pPayload).get ⟨len, by omega⟩, len), ?_, rfl⟩
      refine List.mem_zipIdx_iff_getElem?.mpr ?_
      rw [List.getElem?_take_of_lt (Nat.lt_succ_self len)]
      exact List.getElem?_eq_getElem (by omega)
    have := h.inside _ hmem
    omega
  · rintro ⟨hfits, hcount⟩
    exact nackDecoded_of_fits hlen hwords cells hfits hcount

/-- A NACK of `n` words that name seventeen packets each. -/
def wordsNack (n : Nat) : Bytes :=
  [0, 0, 0, 1, 0, 0, 0, 2] ++ (List.replicate n [0, 7, 0xFF, 0xFF]).flatten

theorem nack_decoded_seventeen : NackDecoded (wordsNack 1) (fun _ => 0) 1000 :=
  (nack_decoded_iff (by decide) (by decide) _ _).mpr (by decide +kernel)

/-- Fifty-nine full words name 1003 packets; the retransmitter's list holds 1000 and gets a write at
position 1000. -/
theorem long_nack_writes_behind_list :
    ¬ ∀ w ∈ nackWrites (wordsNack 59) DEFAULT_SEQ_NUM_BUFFER_SIZE,
      w.1 < DEFAULT_SEQ_NUM_BUFFER_SIZE := by
  decide +kernel

end KvsWebrtc.Rtp
