import KvsWebrtc.Ice.Agent
import Mathlib.Data.List.Induction

/-!
# What a transaction id store remembers

The store is a ring of slots.  An id is looked for in all of them, removing one zeroes a slot, and
clearing the store only sets its indices back.

* `Remembered` — the id is among the last `n` that were inserted since the store was last cleared,
  and was not removed after its last insertion.
* `store_remembers_iff` — the store says so after every operation of a run exactly when the id is
  not that of an unused slot, the store is cleared only without the id, and the id is removed only
  from a single slot.
-/

namespace KvsWebrtc.Ice

open Stun

/-! ## Runs -/

inductive StoreOp where
  | insert (transactionId : Bytes)
  | remove (transactionId : Bytes)
  | clear
  deriving DecidableEq, Repr

def StoreOp.apply (s : TransactionIdStore) : StoreOp → TransactionIdStore
  | .insert transactionId => transactionIdStoreInsert s transactionId
  | .remove transactionId => transactionIdStoreRemove s transactionId
  | .clear => transactionIdStoreClear s

/-- The store after the operations. -/
def runStore (n : Nat) (ops : List StoreOp) : TransactionIdStore :=
  ops.foldl StoreOp.apply (createTransactionIdStore n)

def StoreOp.isInsert : StoreOp → Bool
  | .insert _ => true
  | _ => false

/-- The id is among the last `n` ids inserted since the last clear, and was not removed after its
last insertion. -/
def Remembered (n : Nat) (ops : List StoreOp) (id : Bytes) : Prop :=
  ∃ before after, ops = before ++ .insert id :: after ∧ .insert id ∉ after ∧ .remove id ∉ after ∧
    .clear ∉ after ∧ after.countP StoreOp.isInsert < n

/-! ## The insertions since the last clear -/

/-- For each insertion since the last clear, the newest first, whether it was one of the id that was
not removed since. -/
def track (id : Bytes) (marks : List Bool) : StoreOp → List Bool
  | .insert x => (x = id) :: marks
  | .remove x => if x = id then marks.map fun _ => false else marks
  | .clear => []

def marksOf (id : Bytes) (ops : List StoreOp) : List Bool := ops.foldl (track id) []

@[simp] theorem marksOf_concat (id : Bytes) (ops : List StoreOp) (op : StoreOp) :
    marksOf id (ops ++ [op]) = track id (marksOf id ops) op := by
  simp [marksOf]

theorem exists_split_concat {ops : List StoreOp} {op x : StoreOp} {P : List StoreOp → Prop} :
    (∃ before after, ops ++ [op] = before ++ x :: after ∧ P after) ↔
      (op = x ∧ P []) ∨ ∃ before after, ops = before ++ x :: after ∧ P (after ++ [op]) := by
  constructor
  · rintro ⟨before, after, hsplit, hP⟩
    rcases List.eq_nil_or_concat after with rfl | ⟨after, last, rfl⟩
    · obtain ⟨-, hlast⟩ := List.append_inj' hsplit rfl
      exact .inl ⟨(List.cons.inj hlast).1, hP⟩
    · rw [List.concat_eq_append] at hsplit hP
      rw [← List.cons_append, ← List.append_assoc] at hsplit
      obtain ⟨hops, hlast⟩ := List.append_inj' hsplit rfl
      cases hlast
      exact .inr ⟨before, after, hops, hP⟩
  · rintro (⟨rfl, hP⟩ | ⟨before, after, rfl, hP⟩)
    · exact ⟨ops, [], rfl, hP⟩
    · exact ⟨before, after ++ [op], by simp, hP⟩

theorem mark_iff (id : Bytes) (ops : List StoreOp) (j : Nat) :
    (marksOf id ops)[j]? = some true ↔
      ∃ before after, ops = before ++ .insert id :: after ∧ .remove id ∉ after ∧
        .clear ∉ after ∧ after.countP StoreOp.isInsert = j := by
  induction ops using List.reverseRecOn generalizing j with
  | nil => simp [marksOf]
  | append_singleton ops op ih =>
    rw [marksOf_concat, exists_split_concat]
    cases op with
    | insert x =>
      simp only [track, List.countP_append, List.mem_append, List.mem_singleton, reduceCtorEq,
        or_false, StoreOp.insert.injEq, List.not_mem_nil, not_false_eq_true, true_and,
        List.countP_nil, List.countP_singleton, StoreOp.isInsert, if_true]
      cases j with
      | zero => simp
      | succ j =>
        simp only [List.getElem?_cons_succ, ih, Nat.add_right_cancel_iff]
        simp
    | remove x =>
      by_cases hx : x = id
      · refine iff_of_false ?_ (by simp [hx])
        rw [track, if_pos hx, List.getElem?_map]
        cases (marksOf id ops)[j]? <;> simp
      · simp only [track, if_neg hx, ih, List.countP_append, List.mem_append, List.mem_singleton,
          reduceCtorEq, or_false, false_and, false_or, StoreOp.remove.injEq, Ne.symm hx,
          List.countP_singleton, StoreOp.isInsert, Bool.false_eq_true, if_false, Nat.add_zero]
    | clear => simp [track]

theorem remembered_of_insertion {n : Nat} {id : Bytes} {before after : List StoreOp}
    (hremove : .remove id ∉ after) (hclear : .clear ∉ after)
    (hcount : after.countP StoreOp.isInsert < n) :
    Remembered n (before ++ .insert id :: after) id := by
  induction hlen : after.length using Nat.strongRecOn generalizing before after with
  | _ k ih =>
    by_cases hagain : .insert id ∈ after
    · obtain ⟨early, late, rfl⟩ := List.append_of_mem hagain
      rw [List.countP_append, List.countP_cons_of_pos rfl] at hcount
      rw [List.length_append, List.length_cons] at hlen
      have hsplit : before ++ .insert id :: (early ++ .insert id :: late) =
          (before ++ .insert id :: early) ++ .insert id :: late := by simp
      rw [hsplit]
      exact ih late.length (by omega) (fun h => hremove (by simp [h]))
        (fun h => hclear (by simp [h])) (by omega) rfl
    · exact ⟨before, after, rfl, hagain, hremove, hclear, hcount⟩

/-- **The marks tell what is remembered.** -/
theorem remembered_iff (n : Nat) (id : Bytes) (ops : List StoreOp) :
    Remembered n ops id ↔ ∃ j < n, (marksOf id ops)[j]? = some true := by
  constructor
  · rintro ⟨before, after, rfl, -, hremove, hclear, hcount⟩
    exact ⟨_, hcount, (mark_iff id _ _).mpr ⟨before, after, rfl, hremove, hclear, rfl⟩⟩
  · rintro ⟨j, hj, hmark⟩
    obtain ⟨before, after, rfl, hremove, hclear, hcount⟩ := (mark_iff id _ _).mp hmark
    exact remembered_of_insertion hremove hclear (by omega)

/-! ## The ring -/

/-- How many insertions ago slot `i` was written, with `next` the slot to write next. -/
def age (n next i : Nat) : Nat := if i < next then next - 1 - i else next + n - 1 - i

theorem age_lt {n next i : Nat} (hnext : next < n) (hi : i < n) : age n next i < n := by
  unfold age
  split <;> omega

theorem age_age {n next i : Nat} (hnext : next < n) (hi : i < n) :
    age n next (age n next i) = i := by
  unfold age
  split <;> split <;> omega

theorem age_advance {n next i : Nat} (hnext : next < n) (hi : i < n) :
    age n ((next + 1) % n) i = if i = next then 0 else age n next i + 1 := by
  have hmod : (next + 1) % n = if next + 1 = n then 0 else next + 1 := by
    split
    · rename_i h
      rw [h, Nat.mod_self]
    · exact Nat.mod_eq_of_lt (by omega)
  rw [hmod]
  unfold age
  split <;> split <;> split <;> first | omega | split <;> omega

/-- A store with `n` slots. -/
structure Shaped (n : Nat) (s : TransactionIdStore) : Prop where
  capacity : s.maxTransactionIdsCount = n
  slots : s.transactionIds.length = n
  next : s.nextTransactionIdIndex < n
  earliest : s.earliestTransactionIdIndex < n

theorem shaped_create {n : Nat} (hn : 0 < n) : Shaped n (createTransactionIdStore n) :=
  ⟨rfl, List.length_replicate, hn, hn⟩

theorem Shaped.apply {n : Nat} {s : TransactionIdStore} (h : Shaped n s) (op : StoreOp) :
    Shaped n (op.apply s) := by
  have hn : 0 < n := Nat.lt_of_le_of_lt (Nat.zero_le _) h.next
  cases op with
  | insert x =>
    unfold StoreOp.apply transactionIdStoreInsert
    dsimp only
    split
    · exact ⟨h.capacity, by simp [h.slots], by simp [h.capacity, Nat.mod_lt _ hn],
        by simp [h.capacity, Nat.mod_lt _ hn]⟩
    · exact ⟨h.capacity, by simp [h.slots], by simp [h.capacity, Nat.mod_lt _ hn], h.earliest⟩
  | remove x =>
    unfold StoreOp.apply transactionIdStoreRemove
    dsimp only
    split
    · exact ⟨h.capacity, by simp [h.slots], h.next, h.earliest⟩
    · exact h
  | clear => exact ⟨h.capacity, h.slots, hn, hn⟩

theorem shaped_run {n : Nat} (hn : 0 < n) (ops : List StoreOp) : Shaped n (runStore n ops) := by
  unfold runStore
  induction ops using List.reverseRecOn with
  | nil => exact shaped_create hn
  | append_singleton ops op ih =>
    rw [List.foldl_append]
    exact ih.apply op

theorem hasId_iff_mem (s : TransactionIdStore) (id : Bytes) :
    transactionIdStoreHasId s id ↔ id ∈ s.transactionIds := by
  unfold transactionIdStoreHasId TransactionIdStore.slots
  rw [List.contains_iff_mem, List.mem_append, or_comm, ← List.mem_append, List.take_append_drop]

theorem Shaped.getElem_slots {n : Nat} {s : TransactionIdStore} (h : Shaped n s) {k : Nat}
    (hk : k < n) :
    s.slots[k]? =
      s.transactionIds[(s.earliestTransactionIdIndex + k) % s.maxTransactionIdsCount]? := by
  have he := h.earliest
  have hlen := h.slots
  rw [h.capacity]
  unfold TransactionIdStore.slots
  by_cases hwrap : s.earliestTransactionIdIndex + k < n
  · rw [Nat.mod_eq_of_lt hwrap, List.getElem?_append_left (by rw [List.length_drop]; omega),
      List.getElem?_drop]
  · rw [List.getElem?_append_right (by rw [List.length_drop]; omega), List.length_drop, hlen,
      List.getElem?_take_of_lt (by omega), Nat.mod_eq_sub_mod (by omega),
      Nat.mod_eq_of_lt (by omega)]
    congr 1
    omega

/-- The id of a slot that was not used or was removed. -/
def unusedId : Bytes := List.replicate STUN_TRANSACTION_ID_LEN 0

theorem Shaped.remove {n : Nat} {s : TransactionIdStore} (h : Shaped n s) {x : Bytes}
    (hx : x ∈ s.transactionIds) :
    ∃ i, s.transactionIds[i]? = some x ∧
      (transactionIdStoreRemove s x).transactionIds = s.transactionIds.set i unusedId := by
  have hmem : x ∈ s.slots := by
    simpa [transactionIdStoreHasId] using (hasId_iff_mem s x).mpr hx
  have hlen : s.slots.length = n := by
    unfold TransactionIdStore.slots
    rw [List.length_append, List.length_drop, List.length_take, h.slots]
    have := h.earliest
    omega
  have hk := List.idxOf_lt_length_iff.mpr hmem
  refine ⟨(s.earliestTransactionIdIndex + s.slots.idxOf x) % s.maxTransactionIdsCount, ?_, ?_⟩
  · rw [← h.getElem_slots (by omega), List.getElem?_eq_getElem hk, List.getElem_idxOf]
  · unfold transactionIdStoreRemove
    rw [if_pos (List.contains_iff_mem.mpr hmem)]
    rfl

theorem remove_absent {s : TransactionIdStore} {x : Bytes} (hx : x ∉ s.transactionIds) :
    transactionIdStoreRemove s x = s := by
  unfold transactionIdStoreRemove
  rw [if_neg]
  intro hmem
  exact hx ((hasId_iff_mem s x).mp hmem)

theorem next_remove (s : TransactionIdStore) (x : Bytes) :
    (transactionIdStoreRemove s x).nextTransactionIdIndex = s.nextTransactionIdIndex := by
  unfold transactionIdStoreRemove
  split <;> rfl

theorem transactionIds_insert (s : TransactionIdStore) (x : Bytes) :
    (transactionIdStoreInsert s x).transactionIds =
      s.transactionIds.set (s.nextTransactionIdIndex % s.maxTransactionIdsCount) x ∧
    (transactionIdStoreInsert s x).nextTransactionIdIndex =
      (s.nextTransactionIdIndex + 1) % s.maxTransactionIdsCount := by
  unfold transactionIdStoreInsert
  dsimp only
  split <;> exact ⟨rfl, rfl⟩

/-! ## Runs that remember an id -/

/-- The id is in one slot at most. -/
def SingleSlot (s : TransactionIdStore) (id : Bytes) : Prop :=
  ∀ i j : Nat, s.transactionIds[i]? = some id → s.transactionIds[j]? = some id → i = j

/-- What an operation may do to a store without an id being mistaken: the id is not in a store that
is cleared, and in one slot at most of a store from which it is removed. -/
def OpFits (id : Bytes) (s : TransactionIdStore) : StoreOp → Prop
  | .insert _ => True
  | .remove x => x = id → SingleSlot s id
  | .clear => ¬transactionIdStoreHasId s id

/-- The slots with the id are those of its insertions. -/
def Faithful (n : Nat) (id : Bytes) (s : TransactionIdStore) (marks : List Bool) : Prop :=
  ∀ i < n, s.transactionIds[i]? = some id ↔ marks[age n s.nextTransactionIdIndex i]? = some true

section

variable {n : Nat} {id : Bytes} {s : TransactionIdStore} {marks : List Bool}

theorem Faithful.insert (hs : Shaped n s) (h : Faithful n id s marks) (x : Bytes) :
    Faithful n id (transactionIdStoreInsert s x) (track id marks (.insert x)) := by
  obtain ⟨hids, hnext⟩ := transactionIds_insert s x
  intro i hi
  rw [hids, hnext, hs.capacity, Nat.mod_eq_of_lt hs.next, age_advance hs.next hi]
  by_cases hslot : i = s.nextTransactionIdIndex
  · subst hslot
    rw [List.getElem?_set_self (by rw [hs.slots]; exact hi), if_pos rfl]
    simp [track]
  · rw [List.getElem?_set_ne (Ne.symm hslot), if_neg hslot, h i hi]
    rfl

theorem Faithful.remove (hs : Shaped n s) (hid : id ≠ unusedId) (h : Faithful n id s marks)
    {x : Bytes} (hfits : x = id → SingleSlot s id) :
    Faithful n id (transactionIdStoreRemove s x) (track id marks (.remove x)) := by
  have hmarks : ∀ k : Nat, (marks.map fun _ => false)[k]? ≠ some true := by
    intro k
    rw [List.getElem?_map]
    cases marks[k]? <;> simp
  intro i hi
  rw [next_remove]
  by_cases hx : x ∈ s.transactionIds
  · obtain ⟨k, hk, hids⟩ := hs.remove hx
    have hklt : k < s.transactionIds.length := (List.getElem?_eq_some_iff.mp hk).1
    rw [hids]
    by_cases hxid : x = id
    · -- the only slot with the id is zeroed
      have hgone : (s.transactionIds.set k unusedId)[i]? ≠ some id := by
        by_cases hik : k = i
        · subst hik
          rw [List.getElem?_set_self hklt]
          simpa using Ne.symm hid
        · rw [List.getElem?_set_ne hik]
          intro hi'
          exact hik (hfits hxid k i (hxid ▸ hk) hi')
      simp only [track, if_pos hxid, hmarks, hgone]
    · simp only [track, if_neg hxid]
      by_cases hik : k = i
      · subst hik
        rw [List.getElem?_set_self hklt, ← h k hi, hk]
        simp [hxid, Ne.symm hid]
      · rw [List.getElem?_set_ne hik, h i hi]
  · rw [remove_absent hx]
    by_cases hxid : x = id
    · have habsent : s.transactionIds[i]? ≠ some id := by
        intro hi'
        exact hx (hxid ▸ List.mem_of_getElem? hi')
      simp only [track, if_pos hxid, hmarks, habsent]
    · simp only [track, if_neg hxid, h i hi]

theorem Faithful.apply (hs : Shaped n s) (hid : id ≠ unusedId) (h : Faithful n id s marks)
    {op : StoreOp} (hfits : OpFits id s op) : Faithful n id (op.apply s) (track id marks op) := by
  cases op with
  | insert x => exact h.insert hs x
  | remove x => exact h.remove hs hid hfits
  | clear =>
    intro i hi
    have habsent : s.transactionIds[i]? ≠ some id := by
      intro hi'
      exact hfits ((hasId_iff_mem s id).mpr (List.mem_of_getElem? hi'))
    change s.transactionIds[i]? = some id ↔ _
    simp [track, habsent]

theorem Faithful.hasId_iff (hs : Shaped n s) (h : Faithful n id s marks) :
    transactionIdStoreHasId s id ↔ ∃ j < n, marks[j]? = some true := by
  rw [hasId_iff_mem, List.mem_iff_getElem?]
  constructor
  · rintro ⟨i, hi⟩
    have hlt : i < n := hs.slots ▸ (List.getElem?_eq_some_iff.mp hi).1
    exact ⟨_, age_lt hs.next hlt, (h i hlt).mp hi⟩
  · rintro ⟨j, hj, hmark⟩
    refine ⟨age n s.nextTransactionIdIndex j, (h _ (age_lt hs.next hj)).mpr ?_⟩
    rw [age_age hs.next hj]
    exact hmark

end

/-- Every operation of the run fits the store it is applied to. -/
def RunFits (n : Nat) (id : Bytes) (ops : List StoreOp) : Prop :=
  ∀ before op after, ops = before ++ op :: after → OpFits id (runStore n before) op

theorem runStore_concat (n : Nat) (ops : List StoreOp) (op : StoreOp) :
    runStore n (ops ++ [op]) = op.apply (runStore n ops) := by
  simp [runStore]

/-- **A run whose operations fit keeps the slots faithful.** -/
theorem faithful_run {n : Nat} (hn : 0 < n) {id : Bytes} (hid : id ≠ unusedId) (ops : List StoreOp)
    (hfits : RunFits n id ops) : Faithful n id (runStore n ops) (marksOf id ops) := by
  induction ops using List.reverseRecOn with
  | nil =>
    intro i hi
    have hslot : (runStore n []).transactionIds[i]? = some unusedId :=
      List.getElem?_replicate_of_lt hi
    rw [hslot]
    simp [marksOf, Ne.symm hid]
  | append_singleton ops op ih =>
    rw [runStore_concat, marksOf_concat]
    refine (ih ?_).apply (shaped_run hn ops) hid (hfits ops op [] rfl)
    rintro before op' after rfl
    exact hfits before op' (after ++ [op]) (by simp)

theorem not_remembered_nil (n : Nat) (id : Bytes) : ¬Remembered n [] id := by
  rintro ⟨before, after, hsplit, -⟩
  simp at hsplit

theorem not_remembered_concat {n : Nat} {ops : List StoreOp} {op : StoreOp} {id : Bytes}
    (hop : op = .clear ∨ op = .remove id) : ¬Remembered n (ops ++ [op]) id := by
  rintro ⟨before, after, hsplit, -, hremove, hclear, -⟩
  rcases List.eq_nil_or_concat after with rfl | ⟨after, last, rfl⟩
  · obtain ⟨-, hlast⟩ := List.append_inj' hsplit rfl
    rcases hop with rfl | rfl <;> simp at hlast
  · rw [List.concat_eq_append] at hsplit hremove hclear
    rw [← List.cons_append, ← List.append_assoc] at hsplit
    obtain ⟨-, hlast⟩ := List.append_inj' hsplit rfl
    cases hlast
    rcases hop with rfl | rfl
    · exact hclear (by simp)
    · exact hremove (by simp)

theorem hasId_of_not_fits {n : Nat} {s : TransactionIdStore} (hs : Shaped n s) {id : Bytes}
    {op : StoreOp} (h : ¬OpFits id s op) :
    (op = .clear ∨ op = .remove id) ∧ transactionIdStoreHasId (op.apply s) id := by
  cases op with
  | insert x => exact absurd trivial h
  | clear =>
    refine ⟨.inl rfl, (hasId_iff_mem _ id).mpr ?_⟩
    exact (hasId_iff_mem s id).mp (not_not.mp h)
  | remove x =>
    unfold OpFits SingleSlot at h
    push Not at h
    obtain ⟨rfl, i, j, hi, hj, hij⟩ := h
    refine ⟨.inr rfl, (hasId_iff_mem _ x).mpr ?_⟩
    obtain ⟨k, -, hids⟩ := hs.remove (List.mem_of_getElem? hi)
    change x ∈ (transactionIdStoreRemove s x).transactionIds
    rw [hids]
    -- one of the two slots is another one than that which was zeroed
    by_cases hk : k = i
    · exact List.mem_of_getElem? (by rw [List.getElem?_set_ne (hk ▸ hij)]; exact hj)
    · exact List.mem_of_getElem? (by rw [List.getElem?_set_ne hk]; exact hi)

/-- **The store remembers an id** after every operation of a run exactly when it is not the unused
one and every operation fits. -/
theorem store_remembers_iff (n : Nat) (hn : 0 < n) (id : Bytes) (ops : List StoreOp) :
    (∀ done later, ops = done ++ later →
      (transactionIdStoreHasId (runStore n done) id ↔ Remembered n done id)) ↔
    id ≠ unusedId ∧ RunFits n id ops := by
  constructor
  · intro h
    refine ⟨?_, ?_⟩
    · rintro rfl
      have hunused : transactionIdStoreHasId (runStore n []) unusedId := by
        rw [hasId_iff_mem]
        exact List.mem_replicate.mpr ⟨by omega, rfl⟩
      exact not_remembered_nil n _ ((h [] ops rfl).mp hunused)
    · rintro before op after rfl
      by_contra hfits
      obtain ⟨hop, hstill⟩ := hasId_of_not_fits (shaped_run hn before) hfits
      rw [← runStore_concat] at hstill
      exact not_remembered_concat hop ((h (before ++ [op]) after (by simp)).mp hstill)
  · rintro ⟨hid, hfits⟩ done later rfl
    have hdone : RunFits n id done := by
      rintro before op after rfl
      exact hfits before op (after ++ later) (by simp)
    rw [remembered_iff]
    exact (faithful_run hn hid done hdone).hasId_iff (shaped_run hn done)

/-- In a store of two, the second of three ids is there, also when the third is removed. -/
theorem second_of_three_remembered :
    transactionIdStoreHasId (runStore 2 [.insert (List.replicate 12 1),
        .insert (List.replicate 12 2), .insert (List.replicate 12 3),
        .remove (List.replicate 12 3)]) (List.replicate 12 2) ↔
      Remembered 2 [.insert (List.replicate 12 1), .insert (List.replicate 12 2),
        .insert (List.replicate 12 3), .remove (List.replicate 12 3)] (List.replicate 12 2) := by
  refine (store_remembers_iff 2 (by decide) _ _).mpr ⟨by decide, ?_⟩ _ []
    (List.append_nil _).symm
  intro before op after hsplit
  have hop : op ∈ before ++ op :: after := by simp
  rw [← hsplit] at hop
  simp only [List.mem_cons, List.not_mem_nil, or_false] at hop
  rcases hop with rfl | rfl | rfl | rfl
  · trivial
  · trivial
  · trivial
  · intro hsame
    exact absurd hsame (by decide)

/-- An id that was cleared or was inserted twice and removed is still found, and so is the id of a
slot that was never used. -/
theorem forgotten_ids_found :
    let a := List.replicate 12 1
    (transactionIdStoreHasId (runStore 2 [.insert a, .clear]) a ∧
      ¬Remembered 2 [.insert a, .clear] a) ∧
    (transactionIdStoreHasId (runStore 2 [.insert a, .insert a, .remove a]) a ∧
      ¬Remembered 2 [.insert a, .insert a, .remove a] a) ∧
    (transactionIdStoreHasId (runStore 2 []) unusedId ∧ ¬Remembered 2 [] unusedId) :=
  ⟨⟨by decide, @not_remembered_concat 2 [.insert _] .clear _ (.inl rfl)⟩,
    ⟨by decide, @not_remembered_concat 2 [.insert _, .insert _] (.remove _) _ (.inr rfl)⟩,
    by decide, not_remembered_nil 2 _⟩

end KvsWebrtc.Ice
