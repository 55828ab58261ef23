import Mathlib.Algebra.BigOperators.Fin
import Mathlib.Algebra.Order.BigOperators.Group.Finset
import Mathlib.Data.List.FinRange

/-!
# Tables of slots

A fixed-capacity array whose slots are scanned by index: `firstFree` is the scan for the first
slot that is not taken, `forSlots` the loop that visits every slot in order and may change the
table while it runs, `forSlotsBreak` the same loop with an early exit.

Principal results: `Weighs.fill` and `Weighs.empty` (a machine counter kept in step with a sum over
the slots), `entries_fill` and `entries_empty` (the contents in slot order as a queue),
`firstFree_eq_none` (a failed scan means the table is full) and the loop rules `forSlots_rec`,
`forSlots_invariant`, `forSlotsBreak_invariant` and `forSlots_eq_upTo` (the iterations that change
nothing can be dropped).
-/

set_option autoImplicit false

/-- A table of `n` slots. -/
def SlotTable (α : Type) (n : Nat) : Type := Fin n → α

namespace SlotTable

variable {α σ : Type} {n : Nat}

def replicate (n : Nat) (a : α) : SlotTable α n := fun _ => a

def get (t : SlotTable α n) (i : Fin n) : α := t i

def set (t : SlotTable α n) (i : Fin n) (a : α) : SlotTable α n :=
  fun j => if j = i then a else t j

@[simp] theorem get_replicate (a : α) (i : Fin n) : (replicate n a).get i = a := rfl

@[simp] theorem get_set_self (t : SlotTable α n) (i : Fin n) (a : α) : (t.set i a).get i = a := by
  simp [get, set]

theorem get_set_ne (t : SlotTable α n) {i j : Fin n} (a : α) (h : j ≠ i) :
    (t.set i a).get j = t.get j := by
  simp [get, set, h]

theorem get_set (t : SlotTable α n) (i j : Fin n) (a : α) :
    (t.set i a).get j = if j = i then a else t.get j := rfl

theorem set_set (t : SlotTable α n) (i : Fin n) (a b : α) : (t.set i a).set i b = t.set i b := by
  funext j
  simp only [set]
  split <;> rfl

/-! ## What a write takes out -/

theorem filterMap_update_none {α β : Type} [DecidableEq α] {l : List α} {r : α → Option β} {a : α}
    {x : β} (hl : l.Nodup) (ha : a ∈ l) (h : r a = some x) :
    (x :: l.filterMap (Function.update r a none)).Perm (l.filterMap r) := by
  induction l with
  | nil => cases ha
  | cons c l ih =>
    obtain ⟨hc, hl⟩ := List.nodup_cons.mp hl
    by_cases hca : c = a
    · subst hca
      have hrest : l.filterMap (Function.update r c none) = l.filterMap r :=
        List.filterMap_congr fun d hd =>
          Function.update_of_ne (ne_of_mem_of_not_mem hd hc) _ _
      rw [List.filterMap_cons_none (Function.update_self _ _ _), hrest,
        List.filterMap_cons_some h]
    · have hal : a ∈ l := (List.mem_cons.mp ha).resolve_left fun hac => hca hac.symm
      have hupd : Function.update r a none c = r c := Function.update_of_ne hca _ _
      cases hrc : r c with
      | none =>
        rw [List.filterMap_cons_none (hupd.trans hrc), List.filterMap_cons_none hrc]
        exact ih hl hal
      | some y =>
        rw [List.filterMap_cons_some (hupd.trans hrc), List.filterMap_cons_some hrc]
        exact (List.Perm.swap y x _).trans ((ih hl hal).cons y)

theorem filterMap_update {α β : Type} [DecidableEq α] {l : List α} (hl : l.Nodup) {a : α}
    (ha : a ∈ l) (r : α → Option β) (o : Option β) :
    ((r a).toList ++ l.filterMap (Function.update r a o)).Perm (o.toList ++ l.filterMap r) := by
  have hcleared : ∀ r : α → Option β,
      ((r a).toList ++ l.filterMap (Function.update r a none)).Perm (l.filterMap r) := by
    intro r
    cases hr : r a with
    | none => rw [← hr, Function.update_eq_self, hr, Option.toList_none, List.nil_append]
    | some x => exact filterMap_update_none hl ha hr
  have hafter := hcleared (Function.update r a o)
  rw [Function.update_self, Function.update_idem] at hafter
  refine (hafter.symm.append_left _).trans ?_
  rw [← List.append_assoc]
  exact ((List.perm_append_comm.append_right _).trans
    (List.Perm.of_eq (List.append_assoc _ _ _))).trans ((hcleared r).append_left _)

/-! ## The first slots -/

/-- The contents of the first `k` slots. -/
def firsts (t : SlotTable α n) (k : Nat) : List α := ((List.finRange n).take k).map t.get

/-! ## Sums over the slots -/

/-- The sum of `f` over all slots. -/
def total (f : α → Nat) (t : SlotTable α n) : Nat := ∑ i, f (t.get i)

@[simp] theorem total_replicate (f : α → Nat) (a : α) : (replicate n a).total f = n * f a := by
  simp [total]

theorem total_set (f : α → Nat) (t : SlotTable α n) (i : Fin n) (a : α) :
    (t.set i a).total f + f (t.get i) = t.total f + f a := by
  have hupd : (fun j => f ((t.set i a).get j)) = Function.update (fun j => f (t.get j)) i (f a) := by
    funext j
    by_cases h : j = i
    · subst h
      simp
    · simp [get_set_ne t a h, h]
  have hsplit := Finset.sum_update_of_mem (Finset.mem_univ i) (fun j => f (t.get j)) (f a)
  have hrest := Finset.sum_erase_add Finset.univ (fun j => f (t.get j)) (Finset.mem_univ i)
  rw [Finset.sdiff_singleton_eq_erase] at hsplit
  simp only [total, hupd, hsplit]
  omega

theorem le_total (f : α → Nat) (t : SlotTable α n) (i : Fin n) : f (t.get i) ≤ t.total f :=
  Finset.single_le_sum (f := fun j => f (t.get j)) (fun _ _ => Nat.zero_le _) (Finset.mem_univ i)

theorem total_le {f : α → Nat} {t : SlotTable α n} {b : Nat} (h : ∀ i, f (t.get i) ≤ b) :
    t.total f ≤ n * b := by
  have := Finset.sum_le_card_nsmul Finset.univ (fun i => f (t.get i)) b (fun i _ => h i)
  simpa [total] using this

/-! ## Machine counters of a table -/

/-- The `w`-bit counter `c` is the sum of `f` over the slots. -/
def Weighs {w : Nat} (f : α → Nat) (t : SlotTable α n) (c : BitVec w) : Prop :=
  c.toNat = t.total f

theorem Weighs.replicate {w : Nat} {f : α → Nat} {a : α} (h : f a = 0) :
    Weighs f (SlotTable.replicate n a) (0 : BitVec w) := by
  simp [Weighs, h]

/-- Filling a slot that weighed nothing adds its weight; the counter cannot wrap while all slots
together stay below `2 ^ w`. -/
theorem Weighs.fill {w b : Nat} {f : α → Nat} {t : SlotTable α n} {c v : BitVec w}
    (h : Weighs f t c) {i : Fin n} {a : α} (h0 : f (t.get i) = 0) (hv : v.toNat = f a)
    (hb : ∀ j, f (t.get j) ≤ b) (ha : f a ≤ b) (hn : (n + 1) * b < 2 ^ w) :
    Weighs f (t.set i a) (c + v) := by
  have hset := total_set f t i a
  have hmax := total_le hb
  have hn' : n * b + b < 2 ^ w := by rwa [Nat.succ_mul] at hn
  unfold Weighs at h ⊢
  rw [BitVec.toNat_add_of_lt (by omega)]
  omega

/-- Emptying a slot subtracts its weight, which the counter holds. -/
theorem Weighs.empty {w : Nat} {f : α → Nat} {t : SlotTable α n} {c v : BitVec w}
    (h : Weighs f t c) {i : Fin n} {a : α} (hv : v.toNat = f (t.get i)) (ha : f a = 0) :
    Weighs f (t.set i a) (c - v) ∧ v ≤ c := by
  have hset := total_set f t i a
  have hle := le_total f t i
  unfold Weighs at h ⊢
  have hvc : v ≤ c := by
    rw [BitVec.le_def]
    omega
  refine ⟨?_, hvc⟩
  rw [BitVec.toNat_sub_of_le hvc]
  omega

theorem Weighs.rewrite {w : Nat} {f : α → Nat} {t : SlotTable α n} {c : BitVec w}
    (h : Weighs f t c) {i : Fin n} {a : α} (ha : f a = f (t.get i)) : Weighs f (t.set i a) c := by
  have hset := total_set f t i a
  unfold Weighs at h ⊢
  omega

/-! ## The contents in slot order -/

/-- What `f` finds in the slots, in slot order. -/
def entries {β : Type} (f : α → Option β) (t : SlotTable α n) : List β :=
  (List.finRange n).filterMap fun i => f (t.get i)

section

variable {β : Type} {f : α → Option β} {t : SlotTable α n} {i : Fin n} {a : α} {b : β}

theorem finRange_split (i : Fin n) : ∃ l r : List (Fin n), List.finRange n = l ++ i :: r ∧
    (∀ j ∈ l, j < i) ∧ ∀ j ∈ r, i < j := by
  obtain ⟨l, r, hsplit⟩ := List.append_of_mem (List.mem_finRange i)
  have hsorted : (l ++ i :: r).Pairwise (· < ·) := hsplit ▸ List.pairwise_lt_finRange n
  rw [List.pairwise_append, List.pairwise_cons] at hsorted
  exact ⟨l, r, hsplit, fun j hj => hsorted.2.2 j hj i List.mem_cons_self, hsorted.2.1.1⟩

theorem filterMap_set {l : List (Fin n)} (hl : ∀ j ∈ l, j ≠ i) :
    l.filterMap (fun j => f ((t.set i a).get j)) = l.filterMap fun j => f (t.get j) :=
  List.filterMap_congr fun j hj => by rw [get_set_ne t a (hl j hj)]

theorem entries_set_of_eq (h : f a = f (t.get i)) : (t.set i a).entries f = t.entries f := by
  refine List.filterMap_congr fun j _ => ?_
  rw [get_set]
  split
  · rename_i hj
    rw [h, hj]
  · rfl

theorem entries_fill (h0 : f (t.get i) = none) (ha : f a = some b)
    (hlast : ∀ j, i < j → f (t.get j) = none) : (t.set i a).entries f = t.entries f ++ [b] := by
  obtain ⟨l, r, hsplit, hl, hr⟩ := finRange_split i
  have hnone : r.filterMap (fun j => f (t.get j)) = [] :=
    List.filterMap_eq_nil_iff.mpr fun j hj => hlast j (hr j hj)
  unfold entries
  rw [hsplit, List.filterMap_append, List.filterMap_append, List.filterMap_cons_some (b := b)
    (by rw [get_set_self]; exact ha), List.filterMap_cons_none (f := fun j => f (t.get j)) h0,
    filterMap_set (fun j hj => (hl j hj).ne), filterMap_set (fun j hj => (hr j hj).ne'), hnone,
    List.append_nil]

theorem entries_empty (h0 : f (t.get i) = some b) (ha : f a = none)
    (hfirst : ∀ j, j < i → f (t.get j) = none) : t.entries f = b :: (t.set i a).entries f := by
  obtain ⟨l, r, hsplit, hl, hr⟩ := finRange_split i
  have hnone : l.filterMap (fun j => f (t.get j)) = [] :=
    List.filterMap_eq_nil_iff.mpr fun j hj => hfirst j (hl j hj)
  unfold entries
  rw [hsplit, List.filterMap_append, List.filterMap_append, List.filterMap_cons_some (f := fun j => f (t.get j)) h0,
    List.filterMap_cons_none (by rw [get_set_self]; exact ha),
    filterMap_set (fun j hj => (hl j hj).ne), filterMap_set (fun j hj => (hr j hj).ne'), hnone]
  rfl

theorem entries_eq_nil : t.entries f = [] ↔ ∀ j, f (t.get j) = none := by
  unfold entries
  rw [List.filterMap_eq_nil_iff]
  exact ⟨fun h j => h j (List.mem_finRange j), fun h j _ => h j⟩

end

/-! ## The scan for a free slot -/

/-- The scan from slot `i`, looking at `fuel` slots at most. -/
def scanFrom (p : α → Bool) (t : SlotTable α n) : Nat → Nat → Option (Fin n)
  | _, 0 => none
  | i, fuel + 1 =>
    if h : i < n then
      if p (t.get ⟨i, h⟩) then some ⟨i, h⟩ else scanFrom p t (i + 1) fuel
    else none

/-- The first slot that `used` does not hold of. -/
def firstFree (used : α → Bool) (t : SlotTable α n) : Option (Fin n) :=
  scanFrom (fun a => !used a) t 0 n

theorem scanFrom_some {p : α → Bool} {t : SlotTable α n} :
    ∀ {fuel i : Nat} {j : Fin n}, scanFrom p t i fuel = some j →
      p (t.get j) = true ∧ i ≤ j.val ∧ ∀ k : Fin n, i ≤ k.val → k < j → p (t.get k) = false
  | 0, _, _, h => by simp [scanFrom] at h
  | fuel + 1, i, j, h => by
    unfold scanFrom at h
    split at h
    · rename_i hi
      split at h
      · rename_i hp
        cases h
        refine ⟨hp, Nat.le_refl _, fun k hik hkj => ?_⟩
        have : k.val < i := hkj
        omega
      · rename_i hp
        obtain ⟨h1, h2, h3⟩ := scanFrom_some h
        refine ⟨h1, by omega, fun k hik hkj => ?_⟩
        by_cases hk : k.val = i
        · subst hk
          simpa using hp
        · exact h3 k (by omega) hkj
    · cases h

theorem scanFrom_none {p : α → Bool} {t : SlotTable α n} :
    ∀ {fuel i : Nat}, scanFrom p t i fuel = none → n ≤ i + fuel →
      ∀ k : Fin n, i ≤ k.val → p (t.get k) = false
  | 0, i, _, hf, k, hik => by
    have := k.isLt
    omega
  | fuel + 1, i, h, hf, k, hik => by
    have hk := k.isLt
    unfold scanFrom at h
    rw [dif_pos (by omega : i < n)] at h
    split at h
    · cases h
    · rename_i hp
      by_cases hki : k.val = i
      · subst hki
        simpa using hp
      · exact scanFrom_none h (by omega) k (by omega)

theorem firstFree_eq_some {used : α → Bool} {t : SlotTable α n} {i : Fin n}
    (h : t.firstFree used = some i) :
    used (t.get i) = false ∧ ∀ k < i, used (t.get k) = true := by
  obtain ⟨h1, _, h3⟩ := scanFrom_some h
  refine ⟨by simpa using h1, fun k hk => ?_⟩
  have := h3 k (Nat.zero_le _) hk
  simpa using this

theorem firstFree_eq_none {used : α → Bool} {t : SlotTable α n} (h : t.firstFree used = none)
    (i : Fin n) : used (t.get i) = true := by
  have := scanFrom_none h (by omega) i (Nat.zero_le _)
  simpa using this

/-! ## Loops over the slots -/

/-- The first `k` iterations of the loop. -/
def forSlotsUpTo (f : σ → Fin n → σ) (s : σ) : (k : Nat) → k ≤ n → σ
  | 0, _ => s
  | k + 1, h => f (forSlotsUpTo f s k (Nat.le_of_succ_le h)) ⟨k, h⟩

/-- `for (i = 0; i < n; i++)` over a state that the body may change. -/
@[irreducible] def forSlots (f : σ → Fin n → σ) (s : σ) : σ := forSlotsUpTo f s n (Nat.le_refl n)

theorem forSlotsUpTo_rec {P : Nat → σ → Prop} {f : σ → Fin n → σ} {s : σ} (h0 : P 0 s)
    (hstep : ∀ (i : Fin n) s, P i.val s → P (i.val + 1) (f s i)) :
    ∀ k (hk : k ≤ n), P k (forSlotsUpTo f s k hk)
  | 0, _ => h0
  | k + 1, hk => hstep ⟨k, hk⟩ _ (forSlotsUpTo_rec h0 hstep k (Nat.le_of_succ_le hk))

theorem forSlots_rec {P : Nat → σ → Prop} {f : σ → Fin n → σ} {s : σ} (h0 : P 0 s)
    (hstep : ∀ (i : Fin n) s, P i.val s → P (i.val + 1) (f s i)) : P n (forSlots f s) := by
  unfold forSlots
  exact forSlotsUpTo_rec h0 hstep n (Nat.le_refl n)

theorem forSlots_invariant {P : σ → Prop} {f : σ → Fin n → σ} {s : σ} (h0 : P s)
    (hstep : ∀ i s, P s → P (f s i)) : P (forSlots f s) :=
  forSlots_rec (P := fun _ => P) h0 (fun i s => hstep i s)

theorem forSlots_map {τ : Type} {f : σ → Fin n → σ} {g : τ → Fin n → τ} {φ : σ → τ}
    (h : ∀ s i, φ (f s i) = g (φ s) i) (s : σ) : φ (forSlots f s) = forSlots g (φ s) := by
  suffices ∀ k (hk : k ≤ n), φ (forSlotsUpTo f s k hk) = forSlotsUpTo g (φ s) k hk by
    unfold forSlots
    exact this n (Nat.le_refl n)
  intro k
  induction k with
  | zero => intro _; rfl
  | succ k ih =>
    intro hk
    show φ (f _ _) = g _ _
    rw [h, ih]

theorem forSlots_eq_upTo {f : σ → Fin n → σ} {s : σ} {k : Nat} (hk : k ≤ n)
    (hskip : ∀ i : Fin n, k ≤ i.val → f (forSlotsUpTo f s k hk) i = forSlotsUpTo f s k hk) :
    forSlots f s = forSlotsUpTo f s k hk := by
  suffices ∀ d (hd : k + d ≤ n), forSlotsUpTo f s (k + d) hd = forSlotsUpTo f s k hk by
    have h := this (n - k) (by omega)
    have hn : k + (n - k) = n := by omega
    unfold forSlots
    convert h using 2
    exact hn.symm
  intro d
  induction d with
  | zero => intro _; rfl
  | succ d ih =>
    intro hd
    show f (forSlotsUpTo f s (k + d) (Nat.le_of_succ_le hd)) ⟨k + d, hd⟩ = _
    rw [ih (Nat.le_of_succ_le hd)]
    exact hskip ⟨k + d, hd⟩ (Nat.le_add_right _ _)

/-- A body that touches no slot but its own, and nothing at a `free` slot, need not be run past the
last slot that is not free. -/
theorem forSlots_eq_upTo_of_free (tbl : σ → SlotTable α n) (free : α → Prop) {f : σ → Fin n → σ}
    {s : σ} {k : Nat} (hk : k ≤ n)
    (hframe : ∀ s (i j : Fin n), i ≠ j → (tbl (f s j)).get i = (tbl s).get i)
    (hskip : ∀ s i, free ((tbl s).get i) → f s i = s)
    (hfree : ∀ i : Fin n, k ≤ i.val → free ((tbl s).get i)) :
    forSlots f s = forSlotsUpTo f s k hk := by
  refine forSlots_eq_upTo hk (fun i hi => hskip _ i ?_)
  have hsame := forSlotsUpTo_rec (f := f) (s := s)
    (P := fun m s' => ∀ j : Fin n, m ≤ j.val → (tbl s').get j = (tbl s).get j) (fun _ _ => rfl)
    (fun a s' hp j hj => (hframe s' j a (by rintro rfl; omega)).trans (hp j (by omega))) k hk i hi
  rw [hsame]
  exact hfree i hi

/-- The loop with a `break`: the body also says whether the loop is left. -/
def forSlotsBreak (f : σ → Fin n → σ × Bool) (s : σ) : σ :=
  (forSlots (fun p i => if p.2 then p else f p.1 i) (s, false)).1

theorem forSlotsBreak_invariant {P : σ → Prop} {f : σ → Fin n → σ × Bool} {s : σ} (h0 : P s)
    (hstep : ∀ i s, P s → P (f s i).1) : P (forSlotsBreak f s) := by
  refine forSlots_invariant (P := fun p : σ × Bool => P p.1) h0 (fun i p hp => ?_)
  split
  · exact hp
  · exact hstep i p.1 hp

theorem forSlotsBreak_map {τ : Type} {f : σ → Fin n → σ × Bool} {g : τ → Fin n → τ × Bool}
    {φ : σ → τ} (h : ∀ s i, g (φ s) i = (φ (f s i).1, (f s i).2)) (s : σ) :
    φ (forSlotsBreak f s) = forSlotsBreak g (φ s) := by
  unfold forSlotsBreak
  rw [← forSlots_map (f := fun p i => if p.2 then p else f p.1 i) (s := (s, false))
    (g := fun p i => if p.2 then p else g p.1 i) (φ := fun p : σ × Bool => (φ p.1, p.2))]
  intro p i
  split
  · rfl
  · rw [h]

end SlotTable
