import KvsWebrtc.Lib.SlotTable
import KvsWebrtc.Lib.Steps
import KvsWebrtc.Common

/-!
# The rolling buffer as a sliding window (`RollingBuffer.c`)

The buffer is modelled here with its 64 bit counters, its words and the calls of `freeDataFn`,
beside the partial map it stands for.  A slot holds 0 when it has no item.  `freeDataFn` is the
creator's: it may be absent, and an answer of it is whether it succeeds and what it leaves in the
slot.  `RollingBuffer.lean` has the buffer as its users see it, with a `freeDataFn` that succeeds.

Principal results:

* `append_spec`, `insert_spec`, `extract_spec`, `free_spec` — what an operation does to the map, and
  which items leave the buffer without anyone getting them;
* `rolling_buffer_owned_iff` — the runs in which the buffer is its map and every item goes to the caller
  or to `freeDataFn` once;
* `rolling_buffer_owned` — with a `freeDataFn` that succeeds these are all runs of fewer than `2^64`
  appends.
-/

namespace KvsWebrtc.Rtp.Rolling

open Steps

/-! ## The buffer -/

/-- From how many calls there were before, and the data in the slot. -/
abbrev FreeDataFunc := Nat → UINT64 → Bool × UINT64

structure RollingBuffer (capacity : UINT32) where
  dataBuffer : SlotTable UINT64 capacity.toNat
  headIndex : UINT64
  tailIndex : UINT64
  capacity_pos : 0 < capacity.toNat

inductive Answer where
  | index (i : Nat)
  | stored
  | extracted (data : UINT64)
  | freed
  | notInRange
  /-- The status of `freeDataFn`. -/
  | freeFailed
  | nullArg
  deriving DecidableEq, Repr

variable {capacity : UINT32}

/-- The slot of a number. -/
def RollingBuffer.slot (b : RollingBuffer capacity) (i : Nat) : Fin capacity.toNat :=
  ⟨i % capacity.toNat, Nat.mod_lt _ b.capacity_pos⟩

/-- `ROLLING_BUFFER_MAP_INDEX`. -/
def RollingBuffer.mapIndex (b : RollingBuffer capacity) (index : UINT64) : Fin capacity.toNat :=
  b.slot index.toNat

def RollingBuffer.put (b : RollingBuffer capacity) (i : Fin capacity.toNat) (data : UINT64) :
    RollingBuffer capacity :=
  { b with dataBuffer := b.dataBuffer.set i data }

/-- `createRollingBuffer`; `none` is `STATUS_INVALID_ARG`. -/
def createRollingBuffer (capacity : UINT32) : Option (RollingBuffer capacity) :=
  if h : 0 < capacity.toNat then some ⟨SlotTable.replicate _ 0, 0, 0, h⟩ else none

/-- What an operation leaves: the buffer, the data `freeDataFn` has been called with, its answer. -/
structure Result (capacity : UINT32) where
  buffer : RollingBuffer capacity
  freeCalls : List UINT64
  answer : Answer

section Operations

variable (freeDataFn : Option FreeDataFunc) (b : RollingBuffer capacity) (freeCalls : List UINT64)

/-- `freeDataFn` on a slot, when there is one. -/
def callFree (i : Fin capacity.toNat) : Bool × RollingBuffer capacity × List UINT64 :=
  match freeDataFn with
  | none => (true, b, freeCalls)
  | some f =>
    let r := f freeCalls.length (b.dataBuffer.get i)
    (r.1, b.put i r.2, freeCalls ++ [b.dataBuffer.get i])

/-- The data goes into the slot of the head. -/
def putHead (data : UINT64) : Result capacity :=
  let b := { b.put (b.mapIndex b.headIndex) data with headIndex := b.headIndex + 1 }
  ⟨b, freeCalls, .index (b.headIndex - 1).toNat⟩

def rollingBufferAppendData (data : UINT64) : Result capacity :=
  if b.headIndex = b.tailIndex then
    let b := { b.put (b.mapIndex b.tailIndex) data with headIndex := b.tailIndex + 1 }
    ⟨b, freeCalls, .index (b.headIndex - 1).toNat⟩
  else if b.headIndex = b.tailIndex + capacity.zeroExtend 64 then
    match callFree freeDataFn b freeCalls (b.mapIndex b.tailIndex) with
    | (true, b, freeCalls) => putHead { b with tailIndex := b.tailIndex + 1 } freeCalls data
    | (false, b, freeCalls) => ⟨b, freeCalls, .freeFailed⟩
  else putHead b freeCalls data

def rollingBufferInsertData (index data : UINT64) : Result capacity :=
  if index < b.headIndex ∧ b.tailIndex ≤ index then
    let i := b.mapIndex index
    -- the status of `freeDataFn` is ignored
    let (_, b, freeCalls) :=
      if b.dataBuffer.get i ≠ 0 then callFree freeDataFn b freeCalls i else (true, b, freeCalls)
    ⟨b.put i data, freeCalls, .stored⟩
  else ⟨b, freeCalls, .notInRange⟩

def rollingBufferExtractData (index : UINT64) : Result capacity :=
  if index < b.headIndex ∧ b.tailIndex ≤ index then
    let i := b.mapIndex index
    let data := b.dataBuffer.get i
    ⟨if data ≠ 0 then b.put i 0 else b, freeCalls, .extracted data⟩
  else ⟨b, freeCalls, .extracted 0⟩

/-- `n` rounds of the loop of `freeRollingBuffer`. -/
def freeLoop (f : FreeDataFunc) : Nat → RollingBuffer capacity → List UINT64 → List UINT64
  | 0, _, freeCalls => freeCalls
  | n + 1, b, freeCalls =>
    let i := b.mapIndex b.tailIndex
    let r := callFree (some f) b freeCalls i
    freeLoop f n { r.2.1.put i 0 with tailIndex := b.tailIndex + 1 } r.2.2

/-- The data `freeDataFn` has been called with when the buffer is gone. -/
def freeRollingBuffer : List UINT64 :=
  match freeDataFn with
  | none => freeCalls
  | some f =>
    if b.tailIndex < b.headIndex then
      freeLoop f (b.headIndex - b.tailIndex).toNat b freeCalls
    else freeCalls

end Operations

/-! ## The sliding window -/

/-- Data that is not `NULL` is an item. -/
def item (data : UINT64) : Option UINT64 := if data = 0 then none else some data

/-- How many items have been appended, and the partial map on the last of their indices. -/
structure Window where
  appended : Nat
  content : Nat → Option UINT64

namespace Window

variable (n : Nat) (w : Window)

/-- The oldest index of the window of the last `n`. -/
def tail : Nat := w.appended - n

def Has (i : Nat) : Prop := i < w.appended ∧ w.tail n ≤ i

instance (i : Nat) : Decidable (w.Has n i) := inferInstanceAs (Decidable (_ ∧ _))

/-- The items of the window, the oldest first. -/
def held : List UINT64 := (List.range' (w.tail n) (w.appended - w.tail n)).filterMap w.content

def set (i : Nat) (x : Option UINT64) : Window :=
  { w with content := Function.update w.content i x }

def append (data : UINT64) : Window :=
  { w.set w.appended (item data) with appended := w.appended + 1 }

/-- The item that an append drops. -/
def oldest : Option UINT64 := if n ≤ w.appended then w.content (w.tail n) else none

end Window

/-! ## The map of a buffer -/

structure Represents (b : RollingBuffer capacity) (w : Window) : Prop where
  head : b.headIndex.toNat = w.appended
  tail : b.tailIndex.toNat = w.tail capacity.toNat
  content : ∀ i, w.Has capacity.toNat i → item (b.dataBuffer.get (b.slot i)) = w.content i

/-- The items of an operation that leave the buffer when there is no `freeDataFn` to get them. -/
def lost (freeDataFn : Option FreeDataFunc) (items : List UINT64) : List UINT64 :=
  if freeDataFn.isSome then [] else items

section Spec

variable {freeDataFn : Option FreeDataFunc} {b : RollingBuffer capacity} {w : Window}
  {freeCalls : List UINT64}

theorem slot_ne (b : RollingBuffer capacity) {i j : Nat} (h : i < j)
    (hn : j < i + capacity.toNat) : b.slot i ≠ b.slot j := by
  intro heq
  have hmod : j % capacity.toNat = i % capacity.toNat := (congrArg Fin.val heq).symm
  have hzero := Nat.sub_mod_eq_zero_of_mod_eq hmod
  rw [Nat.mod_eq_of_lt (by omega)] at hzero
  omega

theorem Represents.inRange_iff (h : Represents b w) (index : UINT64) :
    (index < b.headIndex ∧ b.tailIndex ≤ index) ↔ w.Has capacity.toNat index.toNat := by
  rw [BitVec.lt_def, BitVec.le_def, h.head, h.tail]
  rfl

theorem put_self (b : RollingBuffer capacity) (i : Fin capacity.toNat) :
    b.put i (b.dataBuffer.get i) = b := by
  have hself : b.dataBuffer.set i (b.dataBuffer.get i) = b.dataBuffer := by
    funext j
    show (if j = i then b.dataBuffer i else b.dataBuffer j) = _
    split
    · rename_i hj
      rw [hj]
    · rfl
  rw [RollingBuffer.put, hself]

theorem callFree_spec (freeDataFn : Option FreeDataFunc) (b : RollingBuffer capacity)
    (freeCalls : List UINT64) (i : Fin capacity.toNat) :
    (∃ v, (callFree freeDataFn b freeCalls i).2.1 = b.put i v) ∧
    (callFree freeDataFn b freeCalls i).2.2.filterMap item ++
        lost freeDataFn (item (b.dataBuffer.get i)).toList =
      freeCalls.filterMap item ++ (item (b.dataBuffer.get i)).toList := by
  cases freeDataFn with
  | none =>
    exact ⟨⟨_, (put_self b i).symm⟩, rfl⟩
  | some f =>
    refine ⟨⟨_, rfl⟩, ?_⟩
    show (freeCalls ++ [b.dataBuffer.get i]).filterMap item ++ [] = _
    rw [List.append_nil, List.filterMap_append]
    cases hx : item (b.dataBuffer.get i) with
    | none => rw [List.filterMap_cons_none hx]; rfl
    | some x => rw [List.filterMap_cons_some hx]; rfl

theorem Represents.put (h : Represents b w) {i : Nat} (hi : w.Has capacity.toNat i)
    (data : UINT64) : Represents (b.put (b.slot i) data) (w.set i (item data)) := by
  refine ⟨h.head, h.tail, fun j hj => ?_⟩
  have hn : w.appended ≤ w.tail capacity.toNat + capacity.toNat := by rw [Window.tail]; omega
  obtain ⟨hi1, hi2⟩ := hi
  have hj1 : j < w.appended := hj.1
  have hj2 : w.tail capacity.toNat ≤ j := hj.2
  show item ((b.dataBuffer.set (b.slot i) data).get (b.slot j)) =
    Function.update w.content i (item data) j
  by_cases hij : j = i
  · rw [hij, SlotTable.get_set_self, Function.update_self]
  · have hslot : b.slot j ≠ b.slot i := by
      rcases Nat.lt_or_gt_of_ne hij with hlt | hlt
      · exact slot_ne b hlt (by omega)
      · exact (slot_ne b hlt (by omega)).symm
    rw [SlotTable.get_set_ne _ _ hslot, Function.update_of_ne hij]
    exact h.content j hj

theorem Represents.append (h : Represents b w) {b' : RollingBuffer capacity} {data : UINT64}
    (hhead : b'.headIndex.toNat = w.appended + 1)
    (htail : b'.tailIndex.toNat = w.appended + 1 - capacity.toNat)
    (hnew : b'.dataBuffer.get (b.slot w.appended) = data)
    (hold : ∀ j, j ≠ b.slot w.appended → b'.dataBuffer.get j = b.dataBuffer.get j) :
    Represents b' (w.append data) := by
  refine ⟨hhead, htail, fun i hi => ?_⟩
  have hlt : i < w.appended + 1 := hi.1
  have hle : w.appended + 1 - capacity.toNat ≤ i := hi.2
  show item (b'.dataBuffer.get (b.slot i)) = Function.update w.content w.appended (item data) i
  by_cases hia : i = w.appended
  · rw [hia, hnew, Function.update_self]
  · rw [hold _ (slot_ne b (by omega) (by omega)), Function.update_of_ne hia]
    exact h.content i ⟨by omega, by rw [Window.tail]; omega⟩

theorem Represents.full_iff (h : Represents b w) :
    b.headIndex = b.tailIndex + capacity.zeroExtend 64 ↔ capacity.toNat ≤ w.appended := by
  have hcap : (capacity.zeroExtend 64 : UINT64).toNat = capacity.toNat :=
    BitVec.toNat_setWidth_of_le (by decide)
  have hhead := h.head
  have htail := h.tail
  have hlt := b.headIndex.isLt
  have hn := capacity.isLt
  have hpos := b.capacity_pos
  rw [Window.tail] at htail
  rw [← BitVec.toNat_inj, BitVec.toNat_add, hcap, hhead, htail]
  by_cases hfull : capacity.toNat ≤ w.appended
  · rw [Nat.mod_eq_of_lt (by omega)]
    omega
  · rw [Nat.mod_eq_of_lt (by omega)]
    omega

theorem Represents.oldest (h : Represents b w) (hfull : capacity.toNat ≤ w.appended) :
    item (b.dataBuffer.get (b.mapIndex b.tailIndex)) = w.oldest capacity.toNat := by
  have hpos := b.capacity_pos
  rw [RollingBuffer.mapIndex, h.tail, Window.oldest, if_pos hfull]
  exact h.content _ ⟨by rw [Window.tail]; omega, le_refl _⟩

/-! ## What the operations do to the map -/

/-- An append does not wrap the head, and `freeDataFn` takes the oldest item of a full buffer. -/
def AppendOk (freeDataFn : Option FreeDataFunc) (b : RollingBuffer capacity)
    (freeCalls : List UINT64) : Prop :=
  b.headIndex.toNat + 1 < 2 ^ 64 ∧
  (b.headIndex = b.tailIndex + capacity.zeroExtend 64 → ∀ f ∈ freeDataFn,
    (f freeCalls.length (b.dataBuffer.get (b.mapIndex b.tailIndex))).1 = true)

theorem append_of_room (hroom : b.headIndex ≠ b.tailIndex + capacity.zeroExtend 64)
    (data : UINT64) :
    rollingBufferAppendData freeDataFn b freeCalls data = putHead b freeCalls data := by
  unfold rollingBufferAppendData
  split
  · rename_i hempty
    rw [putHead, ← hempty]
  · rfl

theorem append_of_full (hfull : b.headIndex = b.tailIndex + capacity.zeroExtend 64)
    (data : UINT64) :
    rollingBufferAppendData freeDataFn b freeCalls data =
      match callFree freeDataFn b freeCalls (b.mapIndex b.tailIndex) with
      | (true, b, freeCalls) => putHead { b with tailIndex := b.tailIndex + 1 } freeCalls data
      | (false, b, freeCalls) => ⟨b, freeCalls, .freeFailed⟩ := by
  have hne : b.headIndex ≠ b.tailIndex := by
    intro heq
    have hpos := b.capacity_pos
    have hcap : (capacity.zeroExtend 64 : UINT64).toNat = capacity.toNat :=
      BitVec.toNat_setWidth_of_le (by decide)
    have htoNat := congrArg BitVec.toNat (hfull.symm.trans heq)
    rw [BitVec.toNat_add, hcap] at htoNat
    have := capacity.isLt
    have := b.tailIndex.isLt
    omega
  rw [rollingBufferAppendData, if_neg hne, if_pos hfull]

/-- **An append gives the next index and drops only the oldest item of a full buffer.** -/
theorem append_spec (h : Represents b w) (data : UINT64)
    (hok : AppendOk freeDataFn b freeCalls) :
    Represents (rollingBufferAppendData freeDataFn b freeCalls data).buffer (w.append data) ∧
    (rollingBufferAppendData freeDataFn b freeCalls data).answer = .index w.appended ∧
    (rollingBufferAppendData freeDataFn b freeCalls data).freeCalls.filterMap item ++
        lost freeDataFn (w.oldest capacity.toNat).toList =
      freeCalls.filterMap item ++ (w.oldest capacity.toNat).toList := by
  obtain ⟨hwrap, hfree⟩ := hok
  have hhead := h.head
  have htail := h.tail
  rw [Window.tail] at htail
  have hnext : (b.headIndex + 1).toNat = w.appended + 1 := by
    rw [BitVec.toNat_add_of_lt hwrap, hhead]
    rfl
  have hindex : (b.headIndex + 1 - 1).toNat = w.appended := by
    rw [BitVec.add_sub_cancel, hhead]
  have hslot : b.mapIndex b.headIndex = b.slot w.appended := by rw [RollingBuffer.mapIndex, hhead]
  by_cases hfull : b.headIndex = b.tailIndex + capacity.zeroExtend 64
  · have hn := h.full_iff.mp hfull
    obtain ⟨⟨v, hv⟩, hcalls⟩ := callFree_spec freeDataFn b freeCalls (b.mapIndex b.tailIndex)
    have hsuccess : (callFree freeDataFn b freeCalls (b.mapIndex b.tailIndex)).1 = true := by
      cases freeDataFn with
      | none => rfl
      | some f => exact hfree hfull f rfl
    have hsame : b.mapIndex b.tailIndex = b.slot w.appended := by
      apply Fin.ext
      show b.tailIndex.toNat % _ = w.appended % _
      rw [htail, ← Nat.add_mod_right, Nat.sub_add_cancel hn]
    rw [h.oldest hn] at hcalls
    rw [append_of_full hfull]
    generalize callFree freeDataFn b freeCalls (b.mapIndex b.tailIndex) = r at hv hcalls hsuccess
    obtain ⟨ok, b', calls⟩ := r
    obtain rfl : ok = true := hsuccess
    obtain rfl : b' = b.put (b.mapIndex b.tailIndex) v := hv
    refine ⟨h.append hnext ?_ ?_ fun j hj => ?_, congrArg Answer.index hindex, hcalls⟩
    · have := hfull
      show (b.tailIndex + 1).toNat = _
      rw [BitVec.toNat_add_of_lt (by show b.tailIndex.toNat + 1 < _; omega), htail]
      show w.appended - capacity.toNat + 1 = _
      omega
    · rw [← hslot]
      exact SlotTable.get_set_self _ _ _
    · show ((b.dataBuffer.set _ v).set (b.mapIndex b.headIndex) data).get j = _
      rw [hslot, SlotTable.get_set_ne _ _ hj, hsame, SlotTable.get_set_ne _ _ hj]
  · have hn : ¬ capacity.toNat ≤ w.appended := fun hn => hfull (h.full_iff.mpr hn)
    have hnone : w.oldest capacity.toNat = none := if_neg hn
    rw [append_of_room hfull, hnone]
    refine ⟨h.append hnext ?_ ?_ fun j hj => ?_, congrArg Answer.index hindex, ?_⟩
    · show b.tailIndex.toNat = _
      omega
    · rw [← hslot]
      exact SlotTable.get_set_self _ _ _
    · show (b.dataBuffer.set (b.mapIndex b.headIndex) data).get j = _
      rw [hslot, SlotTable.get_set_ne _ _ hj]
    · show freeCalls.filterMap item ++ lost freeDataFn [] = _
      rw [lost]
      split <;> rfl

theorem append_broken (h : Represents b w) (data : UINT64)
    (hbad : ¬ AppendOk freeDataFn b freeCalls) :
    ¬ Represents (rollingBufferAppendData freeDataFn b freeCalls data).buffer (w.append data) := by
  intro hr
  have hhead : (rollingBufferAppendData freeDataFn b freeCalls data).buffer.headIndex.toNat =
      b.headIndex.toNat + 1 := hr.head.trans (congrArg (· + 1) h.head.symm)
  have hlt := (rollingBufferAppendData freeDataFn b freeCalls data).buffer.headIndex.isLt
  refine hbad ⟨by omega, fun hfull f hf => ?_⟩
  by_contra hfail
  obtain rfl : freeDataFn = some f := hf
  have hstay : (rollingBufferAppendData (some f) b freeCalls data).buffer.headIndex =
      b.headIndex := by
    rw [append_of_full hfull, callFree, Bool.eq_false_iff.mpr hfail]
    rfl
  rw [hstay] at hhead
  omega

/-- **An insert touches its own index, and only inside the window.** -/
theorem insert_spec (h : Represents b w) (index data : UINT64)
    (hi : w.Has capacity.toNat index.toNat) :
    Represents (rollingBufferInsertData freeDataFn b freeCalls index data).buffer
        (w.set index.toNat (item data)) ∧
    (rollingBufferInsertData freeDataFn b freeCalls index data).answer = .stored ∧
    (rollingBufferInsertData freeDataFn b freeCalls index data).freeCalls.filterMap item ++
        lost freeDataFn (w.content index.toNat).toList =
      freeCalls.filterMap item ++ (w.content index.toNat).toList := by
  have hcontent : item (b.dataBuffer.get (b.mapIndex index)) = w.content index.toNat :=
    h.content _ hi
  obtain ⟨⟨v, hv⟩, hcalls⟩ := callFree_spec freeDataFn b freeCalls (b.mapIndex index)
  rw [hcontent] at hcalls
  have hput := h.put hi data
  rw [rollingBufferInsertData, if_pos ((h.inRange_iff index).mpr hi)]
  dsimp only
  by_cases hx : b.dataBuffer.get (b.mapIndex index) = 0
  · have hnone : w.content index.toNat = none := by rw [← hcontent, hx]; rfl
    rw [if_neg (not_not.mpr hx), hnone]
    refine ⟨hput, rfl, ?_⟩
    rw [lost]
    split <;> rfl
  · rw [if_pos hx]
    refine ⟨?_, rfl, hcalls⟩
    rw [hv, RollingBuffer.put, RollingBuffer.put, SlotTable.set_set]
    exact hput

theorem insert_outside (h : Represents b w) (index data : UINT64)
    (hi : ¬ w.Has capacity.toNat index.toNat) :
    rollingBufferInsertData freeDataFn b freeCalls index data = ⟨b, freeCalls, .notInRange⟩ :=
  if_neg fun hin => hi ((h.inRange_iff index).mp hin)

/-- **An extract takes the item of its own index out of the window.** -/
theorem extract_spec (h : Represents b w) (index : UINT64)
    (hi : w.Has capacity.toNat index.toNat) :
    Represents (rollingBufferExtractData b freeCalls index).buffer (w.set index.toNat none) ∧
    (rollingBufferExtractData b freeCalls index).answer =
      .extracted ((w.content index.toNat).getD 0) ∧
    (rollingBufferExtractData b freeCalls index).freeCalls = freeCalls := by
  have hcontent : item (b.dataBuffer.get (b.mapIndex index)) = w.content index.toNat :=
    h.content _ hi
  have hput : Represents (b.put (b.mapIndex index) 0) (w.set index.toNat none) := h.put hi 0
  rw [rollingBufferExtractData, if_pos ((h.inRange_iff index).mpr hi), ← hcontent]
  by_cases hx : b.dataBuffer.get (b.mapIndex index) = 0
  · rw [← hx, put_self] at hput
    refine ⟨?_, ?_, rfl⟩
    · dsimp only
      rw [if_neg (not_not.mpr hx)]
      exact hput
    · rw [item, if_pos hx]
      exact congrArg Answer.extracted hx
  · refine ⟨?_, ?_, rfl⟩
    · dsimp only
      rw [if_pos hx]
      exact hput
    · rw [item, if_neg hx]
      rfl

theorem extract_outside (h : Represents b w) (index : UINT64)
    (hi : ¬ w.Has capacity.toNat index.toNat) :
    rollingBufferExtractData b freeCalls index = ⟨b, freeCalls, .extracted 0⟩ :=
  if_neg fun hin => hi ((h.inRange_iff index).mp hin)

theorem freeLoop_items (f : FreeDataFunc) (c : Nat → Option UINT64) :
    ∀ (m t : Nat) (b : RollingBuffer capacity) (freeCalls : List UINT64),
      b.tailIndex.toNat = t → t + m < 2 ^ 64 → m ≤ capacity.toNat →
      (∀ i, t ≤ i → i < t + m → item (b.dataBuffer.get (b.slot i)) = c i) →
      (freeLoop f m b freeCalls).filterMap item =
        freeCalls.filterMap item ++ (List.range' t m).filterMap c
  | 0, _, _, _, _, _, _, _ => (List.append_nil _).symm
  | m + 1, t, b, freeCalls, htail, hwrap, hm, hc => by
    have hslot : b.mapIndex b.tailIndex = b.slot t := by rw [RollingBuffer.mapIndex, htail]
    obtain ⟨⟨v, hv⟩, hcalls⟩ := callFree_spec (some f) b freeCalls (b.mapIndex b.tailIndex)
    have hnext : (b.tailIndex + 1).toNat = t + 1 := by
      rw [BitVec.toNat_add_of_lt (by show b.tailIndex.toNat + 1 < _; omega), htail]
      rfl
    rw [hslot, hc t (le_refl t) (by omega)] at hcalls
    rw [freeLoop, freeLoop_items f c m (t + 1) _ _ hnext (by omega) (by omega) ?_]
    · rw [hslot]
      have hfreed : lost (some f) (c t).toList = [] := rfl
      rw [hfreed, List.append_nil] at hcalls
      rw [hcalls, List.range'_succ, List.append_assoc]
      congr 1
      cases hct : c t with
      | none => rw [List.filterMap_cons_none hct]; rfl
      | some x => rw [List.filterMap_cons_some hct]; rfl
    · intro i hi1 hi2
      have hne : b.slot i ≠ b.slot t := (slot_ne b (by omega) (by omega)).symm
      rw [← hc i (by omega) (by omega), hv, hslot]
      show item (((b.dataBuffer.set (b.slot t) v).set (b.slot t) 0).get (b.slot i)) = _
      rw [SlotTable.get_set_ne _ _ hne, SlotTable.get_set_ne _ _ hne]

/-- **Freeing the buffer passes on what is left in the window.** -/
theorem free_spec (h : Represents b w) :
    (freeRollingBuffer freeDataFn b freeCalls).filterMap item ++
        lost freeDataFn (w.held capacity.toNat) =
      freeCalls.filterMap item ++ w.held capacity.toNat := by
  have hhead := h.head
  have htail := h.tail
  have hlt := b.headIndex.isLt
  have hle : w.tail capacity.toNat ≤ w.appended := Nat.sub_le _ _
  cases freeDataFn with
  | none => rfl
  | some f =>
    have hnone : lost (some f) (w.held capacity.toNat) = [] := rfl
    rw [hnone, List.append_nil, freeRollingBuffer]
    split
    · rename_i hopen
      have hcount : (b.headIndex - b.tailIndex).toNat = w.appended - w.tail capacity.toNat := by
        rw [BitVec.toNat_sub_of_le (BitVec.le_of_lt hopen), hhead, htail]
      rw [hcount]
      refine freeLoop_items f w.content _ _ b freeCalls htail (by omega) ?_ fun i hi1 hi2 =>
        h.content i ⟨by omega, hi1⟩
      rw [Window.tail]
      omega
    · rename_i hempty
      rw [BitVec.lt_def, hhead, htail] at hempty
      have hzero : w.appended - w.tail capacity.toNat = 0 := by omega
      rw [Window.held, hzero]
      exact (List.append_nil _).symm

end Spec

/-! ## The items of the window -/

theorem Window.held_set {n : Nat} {w : Window} {i : Nat} (hi : w.Has n i) (x : Option UINT64) :
    ((w.content i).toList ++ (w.set i x).held n).Perm (x.toList ++ w.held n) := by
  refine SlotTable.filterMap_update List.nodup_range' ?_ w.content x
  have hlt : i < w.appended := hi.1
  have hle : w.tail n ≤ i := hi.2
  refine List.mem_range'_1.mpr ⟨hle, ?_⟩
  show i < w.tail n + (w.appended - w.tail n)
  omega

theorem Window.held_append {n : Nat} (hn : 0 < n) (w : Window) (data : UINT64) :
    ((w.oldest n).toList ++ (w.append data).held n).Perm ((item data).toList ++ w.held n) := by
  have hsame : ∀ t m, t + m = w.appended →
      (List.range' t (m + 1)).filterMap (w.append data).content =
        (List.range' t m).filterMap w.content ++ (item data).toList := by
    intro t m htm
    rw [List.range'_concat, List.filterMap_append, Nat.one_mul, htm]
    congr 1
    · refine List.filterMap_congr fun i hi => Function.update_of_ne ?_ _ _
      have := (List.mem_range'_1.mp hi).2
      omega
    · have hnew : (w.append data).content w.appended = item data := Function.update_self _ _ _
      cases hx : item data with
      | none => rw [List.filterMap_cons_none (hnew.trans hx)]; rfl
      | some x => rw [List.filterMap_cons_some (hnew.trans hx)]; rfl
  by_cases hfull : n ≤ w.appended
  · -- the oldest index leaves the window
    obtain ⟨m, rfl⟩ : ∃ m, n = m + 1 := ⟨n - 1, by omega⟩
    have hcount : w.appended - w.tail (m + 1) = m + 1 := by rw [Window.tail]; omega
    have hheld : w.held (m + 1) = (w.oldest (m + 1)).toList ++
        (List.range' (w.tail (m + 1) + 1) m).filterMap w.content := by
      rw [Window.held, hcount, List.range'_succ, Window.oldest, if_pos hfull]
      cases hx : w.content (w.tail (m + 1)) with
      | none => rw [List.filterMap_cons_none hx]; rfl
      | some x => rw [List.filterMap_cons_some hx]; rfl
    have hheld' : (w.append data).held (m + 1) =
        (List.range' (w.tail (m + 1) + 1) m).filterMap w.content ++ (item data).toList := by
      have htail : (w.append data).tail (m + 1) = w.tail (m + 1) + 1 := by
        show w.appended + 1 - (m + 1) = w.appended - (m + 1) + 1
        omega
      have hlen : (w.append data).appended - (w.tail (m + 1) + 1) = m + 1 := by
        show w.appended + 1 - _ = _
        omega
      rw [Window.held, htail, hlen]
      exact hsame _ _ (by omega)
    rw [hheld, hheld', ← List.append_assoc]
    exact List.perm_append_comm
  · have htail : w.tail n = 0 := by rw [Window.tail]; omega
    have htail' : (w.append data).tail n = 0 := by
      show w.appended + 1 - n = 0
      omega
    rw [Window.oldest, if_neg hfull, Window.held, Window.held, htail, htail', Nat.sub_zero,
      Nat.sub_zero]
    have hgrown := hsame 0 w.appended (Nat.zero_add _)
    exact (List.Perm.of_eq hgrown).trans List.perm_append_comm

/-! ## Runs -/

inductive Op where
  | append (data : UINT64)
  | insert (index data : UINT64)
  | extract (index : UINT64)
  | free

/-- The buffer and the map it stands for, what both have answered, and where the items went. -/
structure State (capacity : UINT32) where
  /-- `none` behind `freeRollingBuffer`. -/
  buffer : Option (RollingBuffer capacity)
  freeCalls : List UINT64
  answers : List Answer
  window : Option Window
  expected : List Answer
  /-- The items the buffer has taken. -/
  received : List UINT64
  /-- The items handed to the caller. -/
  extracted : List UINT64

def newState (capacity : UINT32) (h : 0 < capacity.toNat) : State capacity :=
  ⟨some ⟨SlotTable.replicate _ 0, 0, 0, h⟩, [], [], some ⟨0, fun _ => none⟩, [], [], []⟩

/-- What an operation asks of the map: the map behind it and the answer. -/
def Window.step (n : Nat) : Option Window → Op → Option Window × Answer
  | none, .free => (none, .freed)
  | none, _ => (none, .nullArg)
  | some _, .free => (none, .freed)
  | some w, .append data => (some (w.append data), .index w.appended)
  | some w, .insert index data =>
    if w.Has n index.toNat then (some (w.set index.toNat (item data)), .stored)
    else (some w, .notInRange)
  | some w, .extract index =>
    if w.Has n index.toNat then
      (some (w.set index.toNat none), .extracted ((w.content index.toNat).getD 0))
    else (some w, .extracted 0)

/-- The item that an operation gives to the buffer. -/
def given (n : Nat) : Option Window → Op → List UINT64
  | some _, .append data => (item data).toList
  | some w, .insert index data => if w.Has n index.toNat then (item data).toList else []
  | _, _ => []

/-- The item that an answer hands to the caller. -/
def taken : Answer → List UINT64
  | .extracted data => (item data).toList
  | _ => []

def operate (freeDataFn : Option FreeDataFunc) :
    Option (RollingBuffer capacity) → List UINT64 → Op →
      Option (RollingBuffer capacity) × List UINT64 × Answer
  | none, freeCalls, .free => (none, freeCalls, .freed)
  | none, freeCalls, _ => (none, freeCalls, .nullArg)
  | some b, freeCalls, .append data =>
    let r := rollingBufferAppendData freeDataFn b freeCalls data
    (some r.buffer, r.freeCalls, r.answer)
  | some b, freeCalls, .insert index data =>
    let r := rollingBufferInsertData freeDataFn b freeCalls index data
    (some r.buffer, r.freeCalls, r.answer)
  | some b, freeCalls, .extract index =>
    let r := rollingBufferExtractData b freeCalls index
    (some r.buffer, r.freeCalls, r.answer)
  | some b, freeCalls, .free => (none, freeRollingBuffer freeDataFn b freeCalls, .freed)

def step (freeDataFn : Option FreeDataFunc) (s : State capacity) (op : Op) : State capacity :=
  let r := operate freeDataFn s.buffer s.freeCalls op
  let a := Window.step capacity.toNat s.window op
  { buffer := r.1
    freeCalls := r.2.1
    answers := s.answers ++ [r.2.2]
    window := a.1
    expected := s.expected ++ [a.2]
    received := s.received ++ given capacity.toNat s.window op
    extracted := s.extracted ++ taken r.2.2 }

/-- A buffer stands for its map as long as it is there. -/
def Same : Option (RollingBuffer capacity) → Option Window → Prop
  | some b, some w => Represents b w
  | none, none => True
  | _, _ => False

def heldItems (n : Nat) : Option Window → List UINT64
  | some w => w.held n
  | none => []

/-- The buffer is its map, it answers as the map does, and each item it has taken is with the
caller, with `freeDataFn` or still held. -/
structure Refines (s : State capacity) : Prop where
  same : Same s.buffer s.window
  answers : s.answers = s.expected
  once : s.received.Perm
    (s.extracted ++ s.freeCalls.filterMap item ++ heldItems capacity.toNat s.window)

/-- The head does not wrap, `freeDataFn` takes what an append drops from a full buffer, and without
it nothing is dropped. -/
def Smooth (freeDataFn : Option FreeDataFunc) (s : State capacity) (op : Op) : Prop :=
  match s.buffer, s.window, op with
  | some b, some w, .append _ =>
    AppendOk freeDataFn b s.freeCalls ∧ lost freeDataFn (w.oldest capacity.toNat).toList = []
  | some _, some w, .insert index _ =>
    w.Has capacity.toNat index.toNat → lost freeDataFn (w.content index.toNat).toList = []
  | some _, some w, .free => lost freeDataFn (w.held capacity.toNat) = []
  | _, _, _ => True

/-- Items given, handed out (`T`), dropped (`O`), passed to `freeDataFn` and lost (`L`). -/
theorem once_iff {R E F H G T F' H' L O : List UINT64} (hbefore : R.Perm (E ++ F ++ H))
    (hfreed : F' ++ L = F ++ O) (hheld : (T ++ O ++ H').Perm (G ++ H)) :
    (R ++ G).Perm (E ++ T ++ F' ++ H') ↔ L = [] := by
  have hledger : (R ++ G).Perm (E ++ T ++ F' ++ H' ++ L) := by
    rw [List.perm_iff_count] at hbefore hheld ⊢
    intro x
    have hb := hbefore x
    have hh := hheld x
    have hf := congrArg (List.count x) hfreed
    simp only [List.count_append] at hb hh hf ⊢
    omega
  constructor
  · intro h
    have hlen := (h.symm.trans hledger).length_eq
    simp only [List.length_append] at hlen
    exact List.length_eq_zero_iff.mp (by omega)
  · rintro rfl
    rwa [List.append_nil] at hledger

theorem refines_new (h : 0 < capacity.toNat) : Refines (newState capacity h) := by
  refine ⟨⟨rfl, (Nat.zero_sub _).symm, fun i hi => ?_⟩, rfl, ?_⟩
  · exact absurd hi.1 (Nat.not_lt_zero i)
  · show List.Perm [] (List.filterMap _ (List.range' _ (0 - _)))
    rw [Nat.zero_sub]
    exact List.Perm.refl _

section Steps

variable {freeDataFn : Option FreeDataFunc} {s : State capacity}

theorem refines_step_of_spec {op : Op} {b' : Option (RollingBuffer capacity)}
    {freeCalls L O : List UINT64} {x : Answer} {w' : Option Window} (h : Refines s)
    (hop : operate freeDataFn s.buffer s.freeCalls op = (b', freeCalls, x))
    (hspec : Window.step capacity.toNat s.window op = (w', x)) (hsame : Same b' w')
    (hfreed : freeCalls.filterMap item ++ L = s.freeCalls.filterMap item ++ O)
    (hheld : (taken x ++ O ++ heldItems capacity.toNat w').Perm
      (given capacity.toNat s.window op ++ heldItems capacity.toNat s.window)) :
    Refines (step freeDataFn s op) ↔ L = [] := by
  have hanswers : s.answers ++ [x] = s.expected ++ [x] := by rw [h.answers]
  rw [← once_iff h.once hfreed hheld, step, hop, hspec]
  exact ⟨fun h => h.once, fun honce => ⟨hsame, hanswers, honce⟩⟩

theorem refines_step_append {b : RollingBuffer capacity} {w : Window} (hb : s.buffer = some b)
    (hw : s.window = some w) (h : Refines s) (hrep : Represents b w) (data : UINT64) :
    Refines (step freeDataFn s (.append data)) ↔ Smooth freeDataFn s (.append data) := by
  simp only [Smooth, hb, hw]
  by_cases hok : AppendOk freeDataFn b s.freeCalls
  · obtain ⟨hrep', hanswer, hfreed⟩ := append_spec hrep data hok
    have hsame : Same (some _) (some _) := hrep'
    rw [and_iff_right hok]
    refine refines_step_of_spec h (by rw [hb, operate, hanswer]) (by rw [hw, Window.step])
      hsame hfreed ?_
    rw [hw]
    exact Window.held_append b.capacity_pos w data
  · refine iff_of_false (fun hr => append_broken hrep data hok ?_) fun h => hok h.1
    have hsame := hr.same
    rw [step, hb, hw] at hsame
    exact hsame

theorem refines_step_insert {b : RollingBuffer capacity} {w : Window} (hb : s.buffer = some b)
    (hw : s.window = some w) (h : Refines s) (hrep : Represents b w) (index data : UINT64) :
    Refines (step freeDataFn s (.insert index data)) ↔
      Smooth freeDataFn s (.insert index data) := by
  simp only [Smooth, hb, hw]
  by_cases hi : w.Has capacity.toNat index.toNat
  · obtain ⟨hrep', hanswer, hfreed⟩ := insert_spec hrep index data hi
    have hsame : Same (some _) (some _) := hrep'
    rw [imp_iff_right hi]
    refine refines_step_of_spec h (by rw [hb, operate, hanswer])
      (by rw [hw, Window.step, if_pos hi]) hsame hfreed ?_
    rw [hw, given, if_pos hi]
    exact Window.held_set hi _
  · have hsame : Same (some _) (some _) := hrep
    refine (refines_step_of_spec (L := []) (O := []) h
      (by rw [hb, operate, insert_outside hrep index data hi])
      (by rw [hw, Window.step, if_neg hi]) hsame rfl ?_).trans
        (iff_of_true rfl fun hin => absurd hin hi)
    rw [hw, given, if_neg hi]
    exact List.Perm.refl _

theorem refines_step_extract {b : RollingBuffer capacity} {w : Window} (hb : s.buffer = some b)
    (hw : s.window = some w) (h : Refines s) (hrep : Represents b w) (index : UINT64) :
    Refines (step freeDataFn s (.extract index)) := by
  by_cases hi : w.Has capacity.toNat index.toNat
  · obtain ⟨hrep', hanswer, hcalls⟩ :
        Represents (rollingBufferExtractData b s.freeCalls index).buffer _ ∧ _ :=
      extract_spec hrep index hi
    have hsame : Same (some _) (some _) := hrep'
    have hcontent : item (b.dataBuffer.get (b.slot index.toNat)) = w.content index.toNat :=
      hrep.content _ hi
    have htaken : taken (.extracted ((w.content index.toNat).getD 0)) =
        (w.content index.toNat).toList := by
      rw [← hcontent]
      by_cases hx : b.dataBuffer.get (b.slot index.toNat) = 0
      · rw [hx]
        rfl
      · have hsome : item (b.dataBuffer.get (b.slot index.toNat)) =
            some (b.dataBuffer.get (b.slot index.toNat)) := if_neg hx
        rw [hsome, Option.getD_some, taken, hsome]
    refine (refines_step_of_spec (L := []) (O := []) h (by rw [hb, operate, hanswer, hcalls])
      (by rw [hw, Window.step, if_pos hi]) hsame rfl ?_).mpr rfl
    rw [htaken, hw, List.append_nil]
    exact Window.held_set hi none
  · have hsame : Same (some _) (some _) := hrep
    refine (refines_step_of_spec (L := []) (O := []) h
      (by rw [hb, operate, extract_outside hrep index hi])
      (by rw [hw, Window.step, if_neg hi]) hsame rfl ?_).mpr rfl
    rw [hw]
    exact List.Perm.refl _

theorem same_none : Same (none : Option (RollingBuffer capacity)) none := trivial

theorem refines_step_free {b : RollingBuffer capacity} {w : Window} (hb : s.buffer = some b)
    (hw : s.window = some w) (h : Refines s) (hrep : Represents b w) :
    Refines (step freeDataFn s .free) ↔ Smooth freeDataFn s .free := by
  simp only [Smooth, hb, hw]
  refine refines_step_of_spec h (by rw [hb, operate]) (by rw [hw, Window.step]) same_none
    (free_spec hrep) ?_
  rw [hw]
  exact List.Perm.of_eq (List.append_nil _)

/-- **What a step needs, exactly.** -/
theorem refines_step_iff (s : State capacity) (op : Op) (h : Refines s) :
    Refines (step freeDataFn s op) ↔ Smooth freeDataFn s op := by
  have hsame := h.same
  cases hb : s.buffer with
  | none =>
    cases hw : s.window with
    | some w => rw [hb, hw] at hsame; exact hsame.elim
    | none =>
      have hsmooth : Smooth freeDataFn s op := by simp only [Smooth, hb]
      refine (iff_of_true ?_ hsmooth)
      have hgiven : given capacity.toNat s.window op = [] := by rw [hw]; cases op <;> rfl
      cases op with
      | free =>
        exact (refines_step_of_spec (L := []) (O := []) h (by rw [hb, operate])
          (by rw [hw, Window.step]) same_none rfl (by rw [hgiven, hw]; rfl)).mpr rfl
      | _ =>
        exact (refines_step_of_spec (L := []) (O := []) h (by rw [hb, operate]; nofun)
          (by rw [hw, Window.step]; nofun) same_none rfl (by rw [hgiven, hw]; rfl)).mpr rfl
  | some b =>
    cases hw : s.window with
    | none => rw [hb, hw] at hsame; exact hsame.elim
    | some w =>
      rw [hb, hw] at hsame
      cases op with
      | append data => exact refines_step_append hb hw h hsame data
      | insert index data => exact refines_step_insert hb hw h hsame index data
      | extract index =>
        refine iff_of_true (refines_step_extract hb hw h hsame index) ?_
        simp only [Smooth, hb, hw]
      | free => exact refines_step_free hb hw h hsame

end Steps

/-- **The rolling buffer is a sliding window**, and every item goes to the caller or to `freeDataFn`
once, in exactly the runs whose steps are smooth. -/
theorem rolling_buffer_owned_iff (freeDataFn : Option FreeDataFunc) (h : 0 < capacity.toNat)
    (ops : List Op) :
    Always (step freeDataFn) Refines (newState capacity h) ops ↔
      Each (step freeDataFn) (Smooth freeDataFn) (newState capacity h) ops :=
  always_iff_of_exact (refines_new h) refines_step_iff

/-! ## A `freeDataFn` that succeeds -/

def Op.appends : Op → Nat
  | .append _ => 1
  | _ => 0

theorem Window.step_appended (n : Nat) (w : Window) (op : Op) :
    ∀ w' ∈ (Window.step n (some w) op).1, w'.appended ≤ w.appended + op.appends := by
  intro w' hw'
  cases op with
  | append data =>
    cases hw'
    exact Nat.le_refl _
  | insert index data =>
    unfold Window.step at hw'
    dsimp only at hw'
    split at hw' <;> cases hw' <;> exact Nat.le_refl _
  | extract index =>
    unfold Window.step at hw'
    dsimp only at hw'
    split at hw' <;> cases hw' <;> exact Nat.le_refl _
  | free => cases hw'

section Succeeding

variable {f : FreeDataFunc} (hf : ∀ calls data, (f calls data).1 = true)

include hf

theorem smooth_of_succeeds {s : State capacity} (h : Refines s) (op : Op)
    (hroom : ∀ w ∈ s.window, w.appended + op.appends < 2 ^ 64) : Smooth (some f) s op := by
  have hsame := h.same
  unfold Smooth
  split
  · rename_i b w data hb hw
    rw [hb, hw] at hsame
    have hrep : Represents b w := hsame
    refine ⟨⟨?_, fun _ g hg => ?_⟩, rfl⟩
    · rw [hrep.head]
      exact hroom w hw
    · cases hg
      exact hf _ _
  · exact fun _ => rfl
  · rfl
  · trivial

/-- The appends to come still have their indices, whatever has been appended before. -/
theorem each_smooth_of_succeeds (ops : List Op) {s : State capacity} (h : Refines s)
    (hroom : ∀ w ∈ s.window, w.appended + (ops.map Op.appends).sum < 2 ^ 64) :
    Each (step (some f)) (Smooth (some f)) s ops := by
  induction ops generalizing s with
  | nil => trivial
  | cons op ops ih =>
    simp only [List.map_cons, List.sum_cons] at hroom
    have hsmooth := smooth_of_succeeds hf h op (fun w hw => by have := hroom w hw; omega)
    refine ⟨hsmooth, ih ((refines_step_iff s op h).mpr hsmooth) (fun w' hw' => ?_)⟩
    have hstep : w' ∈ (Window.step capacity.toNat s.window op).1 := hw'
    cases hw : s.window with
    | none =>
      rw [hw] at hstep
      cases op <;> cases hstep
    | some w =>
      rw [hw] at hstep
      have hgrown := Window.step_appended capacity.toNat w op w' hstep
      have hbefore := hroom w hw
      omega

end Succeeding

/-- **The rolling buffer is a sliding window**, and every item goes to the caller or to `freeDataFn`
once, with a `freeDataFn` that succeeds and in every run of fewer than `2^64` appends. -/
theorem rolling_buffer_owned {f : FreeDataFunc} (hf : ∀ calls data, (f calls data).1 = true)
    (h : 0 < capacity.toNat) (ops : List Op) (hops : (ops.map Op.appends).sum < 2 ^ 64) :
    Always (step (some f)) Refines (newState capacity h) ops := by
  refine (rolling_buffer_owned_iff (some f) h ops).mpr
    (each_smooth_of_succeeds hf ops (refines_new h) (fun w hw => ?_))
  cases hw
  rw [Nat.zero_add]
  exact hops

/-- A `freeDataFn` that frees the data and clears the slot. -/
def frees : FreeDataFunc := fun _ _ => (true, 0)

theorem rolling_window_evicting :
    Always (step (some frees)) Refines (newState 1 (by decide))
      [.append 5, .append 6, .insert 1 7, .extract 1, .append 8, .free] :=
  rolling_buffer_owned (fun _ _ => rfl) (by decide) _ (by decide)

/-- Without a `freeDataFn` nobody gets the item that the second append drops. -/
theorem evicted_item_lost :
    ¬ Always (step none) Refines (newState 1 (by decide)) [.append 5, .append 6] := by
  rintro ⟨-, -, h⟩
  exact absurd h.once.length_eq (by decide)

end KvsWebrtc.Rtp.Rolling
