import KvsWebrtc.Common
import KvsWebrtc.Lib.Steps

/-!
# The buffer in front of the TLS record layer (`IOBuffer.c`)

What arrives from the network is written behind what is stored, and the record layer reads it from
the front.  The space of bytes that have been read is only taken back when the reader has caught up
with the writer, so `len` counts everything written since then, and the capacity a write asks for is
computed in 32 bits.

A byte of the block that nobody has written yet is `none`; a copy that would leave the block has no
result.  Allocations succeed.

Principal results:

* `write_refines_iff` — a write keeps the buffer a queue exactly when `len + dataLen` does not wrap;
* `io_buffer_queue_iff` — in a run this must hold of every write;
* `record_layer_in_order` — it does where the record layer asks for more before a packet comes.
-/

namespace KvsWebrtc.Crypto

open Steps

structure IOBuffer where
  off : UINT32
  len : UINT32
  cap : UINT32
  raw : List (Option UINT8)
  deriving DecidableEq

def createIOBuffer (initialCap : UINT32) : IOBuffer where
  off := 0
  len := 0
  cap := initialCap
  raw := List.replicate initialCap.toNat none

def ioBufferReset (b : IOBuffer) : IOBuffer := { b with len := 0, off := 0 }

/-- `MEMREALLOC`: the bytes that both sizes have are kept. -/
def reallocate (b : IOBuffer) (newCap : UINT32) : IOBuffer :=
  { b with
    raw := b.raw.take newCap.toNat ++ List.replicate (newCap.toNat - b.raw.length) none
    cap := newCap }

/-- The copy of `pData` behind what is stored. -/
def appendData (b : IOBuffer) (pData : Bytes) : Option IOBuffer :=
  if b.len.toNat + pData.length ≤ b.raw.length then
    some { b with
      raw := b.raw.take b.len.toNat ++ (pData.map some ++ b.raw.drop (b.len.toNat + pData.length))
      len := b.len + BitVec.ofNat 32 pData.length }
  else none

def ioBufferWrite (b : IOBuffer) (pData : Bytes) : Option IOBuffer :=
  let dataLen : UINT32 := BitVec.ofNat 32 pData.length
  let freeSpace := b.cap - b.len
  appendData (if freeSpace < dataLen then reallocate b (b.len + dataLen) else b) pData

/-- The buffer after the read, and what was read. -/
def ioBufferRead (b : IOBuffer) (bufferLen : UINT32) :
    Option (IOBuffer × List (Option UINT8)) :=
  let dataLen := if bufferLen < b.len - b.off then bufferLen else b.len - b.off
  if b.off.toNat + dataLen.toNat ≤ b.raw.length then
    let data := (b.raw.drop b.off.toNat).take dataLen.toNat
    let b := { b with off := b.off + dataLen }
    some (if b.off = b.len then ioBufferReset b else b, data)
  else none

/-- A status of the record layer's library. -/
def MBEDTLS_ERR_SSL_WANT_READ : UINT32 := BitVec.ofInt 32 (-0x6900)

/-- The bytes that are copied, and the result, an `INT32`; the `ULONG` length is cut to a
`UINT32`. -/
def tlsSessionReceiveCallback (b : IOBuffer) (len : UINT64) :
    Option (IOBuffer × List (Option UINT8) × Int) :=
  if b.off < b.len then
    (ioBufferRead b (len.setWidth 32)).map fun r =>
      (r.1, r.2, (BitVec.ofNat 32 r.2.length : UINT32).toInt)
  else some (b, [], MBEDTLS_ERR_SSL_WANT_READ.toInt)

/-! ## Runs -/

/-- The data of a write: its length is a `UINT32`. -/
abbrev Chunk := { d : Bytes // d.length < 2 ^ 32 }

inductive Op where
  | write (pData : Chunk)
  | read (bufferLen : UINT32)

/-- A buffer with everything written to it and read from it so far. -/
structure Stream where
  buffer : IOBuffer
  written : Bytes
  returned : List (Option UINT8)

def newStream (initialCap : UINT32) : Option Stream := some ⟨createIOBuffer initialCap, [], []⟩

/-- There is nothing to say once a copy has left the block. -/
def step : Option Stream → Op → Option Stream
  | none, _ => none
  | some s, .write pData =>
    (ioBufferWrite s.buffer pData.1).map fun b => ⟨b, s.written ++ pData.1, s.returned⟩
  | some s, .read bufferLen =>
    (ioBufferRead s.buffer bufferLen).map fun r => ⟨r.1, s.written, s.returned ++ r.2⟩

/-- What is stored and has not been read. -/
def stored (b : IOBuffer) : List (Option UINT8) := (b.raw.take b.len.toNat).drop b.off.toNat

/-- The buffer is a queue of bytes: what was written is what was read, then what is stored. -/
structure Stream.Queue (s : Stream) : Prop where
  off_le : s.buffer.off ≤ s.buffer.len
  len_le : s.buffer.len ≤ s.buffer.cap
  allocated : s.buffer.raw.length = s.buffer.cap.toNat
  contents : s.written.map some = s.returned ++ stored s.buffer

/-- No copy has left the block, and the buffer is a queue. -/
def Refines : Option Stream → Prop
  | none => False
  | some s => s.Queue

/-- The capacity a write may ask for is a `UINT32`. -/
def Fits : Option Stream → Op → Prop
  | some s, .write pData => s.buffer.len.toNat + pData.1.length < 2 ^ 32
  | _, _ => True

theorem queue_new (initialCap : UINT32) : Refines (newStream initialCap) := by
  refine ⟨BitVec.le_refl _, Nat.zero_le _, List.length_replicate, ?_⟩
  simp [stored, createIOBuffer]

/-! ## Reads -/

theorem take_stored {b : IOBuffer} {n : Nat} (hn : b.off.toNat + n ≤ b.len.toNat) :
    (b.raw.drop b.off.toNat).take n ++ (b.raw.take b.len.toNat).drop (b.off.toNat + n) =
      stored b := by
  have hfront : (b.raw.drop b.off.toNat).take n = (stored b).take n := by
    rw [stored, List.drop_take, List.take_take, Nat.min_eq_left (by omega)]
  have hrest : (b.raw.take b.len.toNat).drop (b.off.toNat + n) = (stored b).drop n := by
    rw [stored, List.drop_drop]
  rw [hfront, hrest, List.take_append_drop]

theorem stored_reset {b : IOBuffer} (h : b.off = b.len) : stored b = [] := by
  rw [stored, h]
  exact List.drop_eq_nil_of_le (List.length_take_le _ _)

/-- **A read keeps the queue.** -/
theorem read_refines {s : Stream} (h : s.Queue) (bufferLen : UINT32) :
    Refines (step (some s) (.read bufferLen)) := by
  obtain ⟨b, written, returned⟩ := s
  obtain ⟨hoff, hlen, halloc, hcontents⟩ := h
  dsimp only at hoff hlen halloc hcontents
  rw [BitVec.le_def] at hoff hlen
  generalize hn : (if bufferLen < b.len - b.off then bufferLen else b.len - b.off) = n
  have hsub : (b.len - b.off).toNat = b.len.toNat - b.off.toNat := BitVec.toNat_sub_of_le hoff
  have hle : b.off.toNat + n.toNat ≤ b.len.toNat := by
    rw [← hn]
    split
    · rename_i hlt
      rw [BitVec.lt_def] at hlt
      omega
    · omega
  have hoff' : (b.off + n).toNat = b.off.toNat + n.toNat :=
    BitVec.toNat_add_of_lt (lt_of_le_of_lt hle b.len.isLt)
  have hread : ioBufferRead b bufferLen =
      some (if b.off + n = b.len then ioBufferReset { b with off := b.off + n }
        else { b with off := b.off + n }, (b.raw.drop b.off.toNat).take n.toNat) := by
    unfold ioBufferRead
    simp only [hn]
    exact if_pos (by omega)
  have hqueue := take_stored hle
  rw [step, hread]
  split
  · -- the reader has caught up
    rename_i hend
    have hnil : stored { b with off := b.off + n } = [] := stored_reset hend
    rw [stored, hoff'] at hnil
    rw [hnil, List.append_nil] at hqueue
    refine ⟨BitVec.le_refl _, Nat.zero_le _, halloc, ?_⟩
    simp [stored, ioBufferReset, hqueue, hcontents]
  · refine ⟨?_, hlen, halloc, ?_⟩
    · rw [BitVec.le_def, hoff']
      exact hle
    · rw [stored, hoff', List.append_assoc, hqueue]
      exact hcontents

/-! ## Writes -/

theorem append_refines {b b' : IOBuffer} {written pData : Bytes} {returned : List (Option UINT8)}
    (h : (Stream.mk b written returned).Queue) (hoff : b'.off = b.off) (hlen : b'.len = b.len)
    (halloc : b'.raw.length = b'.cap.toNat)
    (hkept : b'.raw.take b.len.toNat = b.raw.take b.len.toNat)
    (hroom : b.len.toNat + pData.length ≤ b'.cap.toNat) :
    Refines ((appendData b' pData).map fun b => ⟨b, written ++ pData, returned⟩) := by
  have hlen' : (b.len + BitVec.ofNat 32 pData.length).toNat = b.len.toNat + pData.length := by
    rw [BitVec.toNat_add, BitVec.toNat_ofNat]
    have := b'.cap.isLt
    omega
  have hoffle : b.off.toNat ≤ b.len.toNat := BitVec.le_def.mp h.off_le
  have hfront : (b.raw.take b.len.toNat).length = b.len.toNat := by
    have hle := h.len_le
    rw [BitVec.le_def, ← h.allocated] at hle
    rw [List.length_take, Nat.min_eq_left hle]
  rw [appendData, if_pos (by rw [hlen, halloc]; exact hroom)]
  refine ⟨?_, ?_, ?_, ?_⟩
  · rw [BitVec.le_def, hoff, hlen, hlen']
    omega
  · rw [BitVec.le_def, hlen, hlen']
    exact hroom
  · rw [hlen, hkept]
    simp only [List.length_append, hfront, List.length_map, List.length_drop]
    omega
  · have hstored : (b'.raw.take b'.len.toNat ++
        (pData.map some ++ b'.raw.drop (b'.len.toNat + pData.length))).take
          (b.len.toNat + pData.length) = b.raw.take b.len.toNat ++ pData.map some := by
      rw [hlen, hkept, ← List.append_assoc]
      exact List.take_left' (by rw [List.length_append, hfront, List.length_map])
    rw [stored]
    simp only [hlen, hlen', hoff] at hstored ⊢
    rw [hstored, List.drop_append_of_le_length (by omega), List.map_append, h.contents,
      List.append_assoc]
    rfl

/-- **A write keeps the queue exactly when the capacity it may ask for does not wrap.** -/
theorem write_refines_iff {s : Stream} (h : s.Queue) (pData : Chunk) :
    Refines (step (some s) (.write pData)) ↔ Fits (some s) (.write pData) := by
  obtain ⟨b, written, returned⟩ := s
  obtain ⟨pData, hdata⟩ := pData
  have hlen := h.len_le
  have halloc := h.allocated
  dsimp only at hlen halloc
  have hfree : (b.cap - b.len).toNat = b.cap.toNat - b.len.toNat := BitVec.toNat_sub_of_le hlen
  have hn : (BitVec.ofNat 32 pData.length).toNat = pData.length := by
    rw [BitVec.toNat_ofNat, Nat.mod_eq_of_lt hdata]
  rw [BitVec.le_def] at hlen
  have hcap := b.cap.isLt
  show Refines ((appendData (if b.cap - b.len < BitVec.ofNat 32 pData.length then
    reallocate b (b.len + BitVec.ofNat 32 pData.length) else b) pData).map _) ↔
      b.len.toNat + pData.length < 2 ^ 32
  by_cases hgrow : b.cap - b.len < BitVec.ofNat 32 pData.length
  · have hgrow' := hgrow
    rw [BitVec.lt_def, hfree, hn] at hgrow'
    rw [if_pos hgrow]
    have hsize : (reallocate b (b.len + BitVec.ofNat 32 pData.length)).raw.length =
        (b.len + BitVec.ofNat 32 pData.length).toNat := by
      simp only [reallocate, List.length_append, List.length_take, List.length_replicate]
      omega
    have hnew : (b.len + BitVec.ofNat 32 pData.length).toNat =
        (b.len.toNat + pData.length) % 2 ^ 32 := by rw [BitVec.toNat_add, hn]
    constructor
    · intro hrefines
      by_contra hwrap
      have hout : appendData (reallocate b (b.len + BitVec.ofNat 32 pData.length)) pData =
          none := by
        refine if_neg ?_
        rw [hsize, hnew]
        show ¬ b.len.toNat + pData.length ≤ _
        have := Nat.mod_lt (b.len.toNat + pData.length) (Nat.two_pow_pos 32)
        omega
      rw [hout] at hrefines
      exact hrefines
    · intro hfits
      rw [Nat.mod_eq_of_lt hfits] at hnew
      refine append_refines h rfl rfl hsize ?_ (le_of_eq hnew.symm)
      have hkept : b.len.toNat ≤ (b.len + BitVec.ofNat 32 pData.length).toNat := by omega
      show (b.raw.take _ ++ _).take b.len.toNat = _
      rw [List.take_append_of_le_length, List.take_take, Nat.min_eq_left hkept]
      rw [List.length_take]
      omega
  · have hroom := hgrow
    rw [BitVec.lt_def, hfree, hn] at hroom
    rw [if_neg hgrow]
    have hfits : b.len.toNat + pData.length ≤ b.cap.toNat := by omega
    exact iff_of_true (append_refines h rfl rfl halloc rfl hfits) (by omega)

theorem step_refines_iff (s : Option Stream) (e : Op) (h : Refines s) :
    Refines (step s e) ↔ Fits s e := by
  cases s with
  | none => exact absurd h id
  | some s =>
    cases e with
    | write pData => exact write_refines_iff h pData
    | read bufferLen => exact iff_of_true (read_refines h bufferLen) trivial

/-- **The buffer refines a byte queue in a run exactly when no write of it wraps the capacity.** -/
theorem io_buffer_queue_iff (initialCap : UINT32) (ops : List Op) :
    Always step Refines (newStream initialCap) ops ↔ Each step Fits (newStream initialCap) ops :=
  always_iff_of_exact (queue_new initialCap) step_refines_iff

/-! ## A reader that never catches up -/

theorem write_len {b b' : IOBuffer} {pData : Bytes} (h : ioBufferWrite b pData = some b') :
    b'.off = b.off ∧ b'.len = b.len + BitVec.ofNat 32 pData.length := by
  unfold ioBufferWrite appendData at h
  dsimp only at h
  split at h <;> split at h
  all_goals first
    | (obtain rfl := Option.some.inj h; exact ⟨rfl, rfl⟩)
    | cases h

theorem read_len {b : IOBuffer} {bufferLen : UINT32} {r : IOBuffer × List (Option UINT8)}
    (h : ioBufferRead b bufferLen = some r) (hbehind : bufferLen < b.len - b.off) :
    r.1.len = b.len := by
  have hne : b.off + bufferLen ≠ b.len := by
    intro heq
    rw [← heq, BitVec.add_comm, BitVec.add_sub_cancel] at hbehind
    exact absurd hbehind (BitVec.lt_irrefl _)
  unfold ioBufferRead at h
  simp only [if_pos hbehind, if_neg hne] at h
  split at h
  · obtain rfl := Option.some.inj h
    rfl
  · cases h

def zeros (n : Nat) (h : n < 2 ^ 32) : Chunk :=
  ⟨List.replicate n 0, by rw [List.length_replicate]; exact h⟩

/-- A reader that stays behind by more than it reads, and more than `2 ^ 32` bytes in all. -/
theorem leaves_block {m n : Nat} (hm : m < 2 ^ 32) (hn : n < 2 ^ 32) (h1 : 1 < m)
    (hsum : 2 ^ 32 ≤ m + n) :
    ¬ Always step Refines (newStream 0) [.write (zeros m hm), .read 1, .write (zeros n hn)] := by
  have htoNat : (BitVec.ofNat 32 m).toNat = m := by rw [BitVec.toNat_ofNat, Nat.mod_eq_of_lt hm]
  have hfirst : Refines (step (newStream 0) (.write (zeros m hm))) :=
    (write_refines_iff (queue_new 0) (zeros m hm)).mpr
      (by simpa [Fits, createIOBuffer, zeros] using hm)
  rw [always_iff_of_exact (queue_new 0) step_refines_iff]
  rintro ⟨-, -, hfits, -⟩
  cases hwrite : ioBufferWrite (createIOBuffer 0) (zeros m hm).1 with
  | none =>
    rw [newStream, step, hwrite] at hfirst
    exact hfirst
  | some b =>
    have hs : step (newStream 0) (.write (zeros m hm)) = some ⟨b, (zeros m hm).1, []⟩ := by
      rw [newStream, step, hwrite]
      rfl
    rw [hs] at hfits hfirst
    obtain ⟨hoff, hlen⟩ := write_len hwrite
    have hlen' : b.len = BitVec.ofNat 32 m := by
      rw [hlen, zeros, List.length_replicate]
      exact BitVec.zero_add _
    have hbehind : (1 : UINT32) < b.len - b.off := by
      rw [hoff, hlen', BitVec.lt_def]
      show 1 < (BitVec.ofNat 32 m - 0#32).toNat
      rw [BitVec.sub_zero, htoNat]
      exact h1
    have hsecond := read_refines hfirst 1
    cases hread : ioBufferRead b 1 with
    | none =>
      rw [step, hread] at hsecond
      exact hsecond
    | some r =>
      rw [step, hread] at hfits
      have hsize : r.1.len.toNat + (List.replicate n (0 : UINT8)).length < 2 ^ 32 := hfits
      rw [read_len hread hbehind, hlen', htoNat, List.length_replicate] at hsize
      omega

/-- `2 ^ 32 - 1` bytes are written, one is read, and two more are written. -/
theorem one_byte_behind_leaves_block :
    ¬ Always step Refines (newStream 0)
      [.write (zeros 4294967295 (by decide)), .read 1, .write (zeros 2 (by decide))] :=
  leaves_block _ _ (by decide) (by decide)

/-! ## The record layer -/

inductive TlsOp where
  | write (pData : Chunk)
  | receive (len : UINT64)

/-- A packet is written, or the record layer reads, which takes a negative result for an error. -/
def tlsStep : Option Stream → TlsOp → Option Stream
  | none, _ => none
  | some s, .write pData => step (some s) (.write pData)
  | some s, .receive len => (tlsSessionReceiveCallback s.buffer len).map fun r =>
    ⟨r.1, s.written, s.returned ++ if r.2.2 < 0 then [] else r.2.1⟩

/-- `MBEDTLS_ERR_SSL_WANT_READ` comes before a packet is written, and what the record layer asks for
can be told in an `INT32`. -/
def Drained : Option Stream → TlsOp → Prop
  | some s, .write _ => ¬ s.buffer.off < s.buffer.len
  | _, .receive len => len.toNat < 2 ^ 31
  | none, .write _ => True

/-- The buffer is a queue, and the record layer is told to wait when it has read everything. -/
def InOrder : Option Stream → Prop
  | none => False
  | some s => s.Queue ∧ (s.buffer.off < s.buffer.len ↔ s.returned ≠ s.written.map some)

/-- The buffer is a queue, and empty when the reader has caught up. -/
def CaughtUp : Option Stream → Prop
  | none => False
  | some s => s.Queue ∧ (¬ s.buffer.off < s.buffer.len → s.buffer.off = 0 ∧ s.buffer.len = 0)

theorem CaughtUp.inOrder {s : Option Stream} (h : CaughtUp s) : InOrder s := by
  cases s with
  | none => exact h
  | some s =>
    obtain ⟨hqueue, -⟩ := h
    refine ⟨hqueue, ?_⟩
    have hlen := hqueue.len_le
    have hstored : (stored s.buffer).length = s.buffer.len.toNat - s.buffer.off.toNat := by
      rw [BitVec.le_def] at hlen
      rw [stored, List.length_drop, List.length_take, hqueue.allocated]
      omega
    have hnil : s.returned = s.written.map some ↔ (stored s.buffer).length = 0 := by
      rw [hqueue.contents, List.length_eq_zero_iff]
      exact ⟨fun h => List.append_right_eq_self.mp h.symm, fun h => by rw [h, List.append_nil]⟩
    rw [ne_eq, hnil, hstored, BitVec.lt_def]
    omega

theorem read_reset {b : IOBuffer} {bufferLen : UINT32} {r : IOBuffer × List (Option UINT8)}
    (h : ioBufferRead b bufferLen = some r) (hend : r.1.off = r.1.len) :
    r.1.off = 0 ∧ r.1.len = 0 := by
  unfold ioBufferRead at h
  generalize (if bufferLen < b.len - b.off then bufferLen else b.len - b.off) = n at h
  dsimp only at h
  split at h
  · cases h
    split
    · exact ⟨rfl, rfl⟩
    · rename_i hne
      rw [if_neg hne] at hend
      exact absurd hend hne
  · cases h

theorem length_read_le {b : IOBuffer} {bufferLen : UINT32} {r : IOBuffer × List (Option UINT8)}
    (h : ioBufferRead b bufferLen = some r) : r.2.length ≤ bufferLen.toNat := by
  unfold ioBufferRead at h
  generalize hn : (if bufferLen < b.len - b.off then bufferLen else b.len - b.off) = n at h
  have hle : n.toNat ≤ bufferLen.toNat := by
    rw [← hn]
    split
    · exact Nat.le_refl _
    · rename_i hge
      exact Nat.le_of_not_lt hge
  dsimp only at h
  split at h
  · cases h
    exact Nat.le_trans (List.length_take_le _ _) hle
  · cases h

theorem CaughtUp.receive {s : Stream} (h : CaughtUp (some s)) {len : UINT64}
    (hlen : len.toNat < 2 ^ 31) : CaughtUp (tlsStep (some s) (.receive len)) := by
  have hcut : (len.setWidth 32 : UINT32).toNat < 2 ^ 31 := by
    rw [BitVec.toNat_setWidth]
    omega
  have hread := read_refines h.1 (len.setWidth 32)
  rw [step] at hread
  rw [tlsStep, tlsSessionReceiveCallback]
  split
  · cases hr : ioBufferRead s.buffer (len.setWidth 32) with
    | none =>
      rw [hr] at hread
      exact hread
    | some r =>
      rw [hr] at hread
      have hqueue : Stream.Queue ⟨r.1, s.written, s.returned ++ r.2⟩ := hread
      -- the count is not taken for an error
      have hcount : ¬(BitVec.ofNat 32 r.2.length : UINT32).toInt < 0 := by
        have hle := length_read_le hr
        rw [BitVec.toInt_eq_toNat_cond, BitVec.toNat_ofNat]
        omega
      rw [Option.map_some, Option.map_some]
      rw [if_neg hcount]
      exact ⟨hqueue, fun hcaught => read_reset hr
        (BitVec.le_antisymm hqueue.off_le (BitVec.not_lt.mp hcaught))⟩
  · rw [Option.map_some]
    simpa [CaughtUp] using h

theorem CaughtUp.write {s : Stream} (h : CaughtUp (some s)) (pData : Chunk)
    (hdrained : ¬ s.buffer.off < s.buffer.len) : CaughtUp (tlsStep (some s) (.write pData)) := by
  obtain ⟨hoff, hlen⟩ := h.2 hdrained
  have hfits : Fits (some s) (.write pData) := by
    simpa [Fits, hlen] using pData.2
  have hwrite := (write_refines_iff h.1 pData).mpr hfits
  rw [tlsStep]
  rw [step] at hwrite ⊢
  cases hw : ioBufferWrite s.buffer pData.1 with
  | none =>
    rw [hw] at hwrite
    exact hwrite
  | some b =>
    rw [hw] at hwrite
    have hqueue : Stream.Queue ⟨b, s.written ++ pData.1, s.returned⟩ := hwrite
    refine ⟨hqueue, fun hcaught => ?_⟩
    have hend : b.off = b.len := BitVec.le_antisymm hqueue.off_le (BitVec.not_lt.mp hcaught)
    have hzero : b.off = 0 := (write_len hw).1.trans hoff
    exact ⟨hzero, hend.symm.trans hzero⟩

/-- **The record layer gets the bytes in order**, and is told to wait exactly when it has got all of
them, in every run in which it asks for more before a packet comes, and for less than `2 ^ 31` bytes
at a time. -/
theorem record_layer_in_order (initialCap : UINT32) (ops : List TlsOp)
    (hdrained : Each tlsStep Drained (newStream initialCap) ops) :
    Always tlsStep InOrder (newStream initialCap) ops := by
  refine Always.mono (fun _ h => CaughtUp.inOrder h) (Each.inv ?_ ?_ hdrained)
  · exact ⟨queue_new initialCap, fun _ => ⟨rfl, rfl⟩⟩
  · intro s e h hd
    cases s with
    | none => exact h
    | some s =>
      cases e with
      | write pData => exact CaughtUp.write h pData hd
      | receive len => exact CaughtUp.receive h hd

/-- The second packet comes when the first has been read. -/
theorem record_layer_two_packets :
    Always tlsStep InOrder (newStream 1) [.write ⟨[1, 2, 3], by decide⟩, .receive 2, .receive 9,
      .write ⟨[4], by decide⟩, .receive 9] :=
  record_layer_in_order 1 _ ⟨(by decide : ¬ (0 : UINT32) < 0),
    (by decide : (2 : UINT64).toNat < 2 ^ 31), (by decide : (9 : UINT64).toNat < 2 ^ 31),
    (by decide : ¬ (0 : UINT32) < 0), (by decide : (9 : UINT64).toNat < 2 ^ 31), trivial⟩

end KvsWebrtc.Crypto
