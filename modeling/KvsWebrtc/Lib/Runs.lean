import Mathlib.Data.List.Basic
import Mathlib.Data.List.Induction

/-!
# Runs of consecutive numbers

`blocks` turns an ascending list of numbers into its maximal runs `(first, last)`, by one pass that
either lengthens the newest block or opens another; the newest block stands first.  `capped` is the
same pass that stops as soon as it has opened a given number of blocks, so that the last of them
keeps its first number only.

Principal results: `blocks_spec` (the blocks cover the list and are apart), `length_blocks` (there
is one for each number whose predecessor is missing) and `capped_covers_iff` (what the cap cuts off).
-/

set_option autoImplicit false

namespace Runs

/-- One number more. -/
def step (bs : List (Nat × Nat)) (n : Nat) : List (Nat × Nat) :=
  match bs with
  | [] => [(n, n)]
  | b :: rest => if n = b.2 + 1 then (b.1, n) :: rest else (n, n) :: b :: rest

def blocks (ns : List Nat) : List (Nat × Nat) := ns.foldl step []

/-- One number more, unless there are `cap` blocks already. -/
def capStep (cap : Nat) (bs : List (Nat × Nat)) (n : Nat) : List (Nat × Nat) :=
  if bs.length ≥ cap then bs else step bs n

def capped (cap : Nat) (ns : List Nat) : List (Nat × Nat) := ns.foldl (capStep cap) []

/-- `n` lies in one of the blocks. -/
def Covers (bs : List (Nat × Nat)) (n : Nat) : Prop := ∃ b ∈ bs, b.1 ≤ n ∧ n ≤ b.2

/-- What the blocks of an ascending list are. -/
structure Spec (ns : List Nat) (bs : List (Nat × Nat)) : Prop where
  ordered : ∀ b ∈ bs, b.1 ≤ b.2
  separate : bs.Pairwise fun a b => b.2 + 1 < a.1
  covers_iff : ∀ n, Covers bs n ↔ n ∈ ns
  last : ∀ b ∈ bs.head?, ∀ n ∈ ns, n ≤ b.2

section

variable {ns : List Nat} {bs : List (Nat × Nat)} {n : Nat}

@[simp] theorem blocks_concat (ns : List Nat) (n : Nat) :
    blocks (ns ++ [n]) = step (blocks ns) n := List.foldl_concat ..

@[simp] theorem capped_concat (cap : Nat) (ns : List Nat) (n : Nat) :
    capped cap (ns ++ [n]) = capStep cap (capped cap ns) n := List.foldl_concat ..

theorem covers_cons {b : Nat × Nat} : Covers (b :: bs) n ↔ (b.1 ≤ n ∧ n ≤ b.2) ∨ Covers bs n := by
  simp [Covers]

theorem Spec.step (h : Spec ns bs) (hn : ∀ m ∈ ns, m < n) : Spec (ns ++ [n]) (step bs n) := by
  have hmem : ∀ m, m ∈ ns ++ [n] ↔ m = n ∨ m ∈ ns := by
    intro m
    rw [List.mem_append, List.mem_singleton, or_comm]
  have hle : ∀ m ∈ ns ++ [n], m ≤ n := fun m hm =>
    ((hmem m).mp hm).elim Nat.le_of_eq fun hm => Nat.le_of_lt (hn m hm)
  cases bs with
  | nil =>
    have hempty : ∀ m, m ∉ ns := fun m hm => by simpa [Covers] using (h.covers_iff m).mpr hm
    refine ⟨?_, List.pairwise_singleton _ _, fun m => ?_, ?_⟩
    · simp [Runs.step]
    · rw [hmem]
      simp only [Runs.step, Covers, List.mem_singleton, exists_eq_left]
      constructor
      · intro hm
        exact .inl (by omega)
      · rintro (rfl | hm)
        · omega
        · exact absurd hm (hempty m)
    · simp [Runs.step, hempty]
  | cons b rest =>
    have hb := h.ordered b List.mem_cons_self
    have hlast : b.2 ∈ ns := (h.covers_iff b.2).mp ⟨b, List.mem_cons_self, hb, Nat.le_refl _⟩
    have hlt : b.2 < n := hn b.2 hlast
    obtain ⟨hsep, hrest⟩ := List.pairwise_cons.mp h.separate
    unfold Runs.step
    simp only
    split
    · rename_i hnext
      refine ⟨?_, List.pairwise_cons.mpr ⟨hsep, hrest⟩, fun m => ?_, ?_⟩
      · refine List.forall_mem_cons.mpr ⟨?_, fun a ha => h.ordered a (List.mem_cons_of_mem _ ha)⟩
        show b.1 ≤ n
        omega
      · rw [hmem, ← h.covers_iff, covers_cons, covers_cons]
        constructor
        · rintro (hm | hm)
          · by_cases heq : m = n
            · exact .inl heq
            · exact .inr (.inl (by have : m ≤ n := hm.2; have : b.1 ≤ m := hm.1; omega))
          · exact .inr (.inr hm)
        · rintro (rfl | hm | hm)
          · exact .inl (show b.1 ≤ m ∧ m ≤ m by omega)
          · exact .inl (show b.1 ≤ m ∧ m ≤ n by omega)
          · exact .inr hm
      · simp only [List.head?_cons, Option.mem_def, Option.some.injEq]
        rintro a rfl
        exact hle
    · rename_i hnext
      refine ⟨?_, List.pairwise_cons.mpr ⟨?_, h.separate⟩, fun m => ?_, ?_⟩
      · exact List.forall_mem_cons.mpr ⟨Nat.le_refl _, h.ordered⟩
      · refine List.forall_mem_cons.mpr ⟨?_, fun a ha => ?_⟩
        · show b.2 + 1 < n
          omega
        · have := hsep a ha
          show a.2 + 1 < n
          omega
      · rw [hmem, ← h.covers_iff, covers_cons]
        constructor
        · rintro (hm | hm)
          · exact .inl (show m = n by have : n ≤ m := hm.1; have : m ≤ n := hm.2; omega)
          · exact .inr hm
        · rintro (rfl | hm)
          · exact .inl ⟨Nat.le_refl _, Nat.le_refl _⟩
          · exact .inr hm
      · simp only [List.head?_cons, Option.mem_def, Option.some.injEq]
        rintro a rfl
        exact hle

theorem pairwise_concat_lt (h : (ns ++ [n]).Pairwise (· < ·)) :
    ns.Pairwise (· < ·) ∧ ∀ m ∈ ns, m < n := by
  obtain ⟨hns, -, hlt⟩ := List.pairwise_append.mp h
  exact ⟨hns, fun m hm => hlt m hm n (List.mem_singleton.mpr rfl)⟩

/-- **The blocks of an ascending list cover it and are apart.** -/
theorem blocks_spec (hasc : ns.Pairwise (· < ·)) : Spec ns (blocks ns) := by
  induction ns using List.reverseRecOn with
  | nil => exact ⟨by simp [blocks], List.Pairwise.nil, by simp [blocks, Covers], by simp [blocks]⟩
  | append_singleton ns n ih =>
    obtain ⟨hns, hlt⟩ := pairwise_concat_lt hasc
    rw [blocks_concat]
    exact (ih hns).step hlt

theorem Spec.step_eq (h : Spec ns bs) (hn : ∀ m ∈ ns, m < n) (h0 : 0 < n) :
    (n - 1 ∈ ns → (Runs.step bs n).length = bs.length) ∧
      (n - 1 ∉ ns → Runs.step bs n = (n, n) :: bs) := by
  cases bs with
  | nil =>
    refine ⟨fun hm => ?_, fun _ => rfl⟩
    simpa [Covers] using (h.covers_iff (n - 1)).mpr hm
  | cons b rest =>
    have hb := h.ordered b List.mem_cons_self
    have hlast : b.2 ∈ ns := (h.covers_iff b.2).mp ⟨b, List.mem_cons_self, hb, Nat.le_refl _⟩
    have hlt : b.2 < n := hn b.2 hlast
    unfold Runs.step
    simp only
    constructor
    · intro hm
      have hle := h.last b rfl (n - 1) hm
      rw [if_pos (by omega)]
      rfl
    · intro hm
      rw [if_neg]
      intro heq
      exact hm ((show n - 1 = b.2 by omega) ▸ hlast)

/-- **There is one block for each number whose predecessor is missing.** -/
theorem length_blocks (hasc : ns.Pairwise (· < ·)) (hpos : ∀ m ∈ ns, 0 < m) :
    (blocks ns).length = (ns.filter fun m => m - 1 ∉ ns).length := by
  induction ns using List.reverseRecOn with
  | nil => rfl
  | append_singleton ns n ih =>
    obtain ⟨hns, hlt⟩ := pairwise_concat_lt hasc
    have hpos' : ∀ m ∈ ns, 0 < m := fun m hm => hpos m (List.mem_append_left _ hm)
    have h0 : 0 < n := hpos n (by simp)
    have hold : (ns.filter fun m => m - 1 ∉ ns ++ [n]) = ns.filter fun m => m - 1 ∉ ns := by
      apply List.filter_congr
      intro m hm
      have := hlt m hm
      simp only [List.mem_append, List.mem_singleton, decide_eq_decide, not_or]
      exact and_iff_left (by omega)
    have hself : n - 1 ∈ ns ++ [n] ↔ n - 1 ∈ ns := by
      rw [List.mem_append, List.mem_singleton]
      exact or_iff_left (by omega)
    obtain ⟨hlong, hopen⟩ := (blocks_spec hns).step_eq hlt h0
    rw [blocks_concat, List.filter_append, List.length_append, hold, ← ih hns hpos']
    by_cases hm : n - 1 ∈ ns
    · rw [hlong hm, List.filter_singleton]
      simp [hself, hm]
    · rw [hopen hm, List.filter_singleton]
      simp [hself, hm]

/-- The capped pass is the pass over the numbers up to the first of its last block. -/
structure Cut (cap : Nat) (ns front back : List Nat) : Prop where
  append : ns = front ++ back
  capped : capped cap ns = blocks front
  length_le : (blocks front).length ≤ cap
  full : back ≠ [] → (blocks front).length = cap
  opened : (blocks front).length = cap → ∃ n, front.getLast? = some n ∧ n - 1 ∉ front

theorem exists_cut {cap : Nat} (hcap : 0 < cap) (hasc : ns.Pairwise (· < ·))
    (hpos : ∀ m ∈ ns, 0 < m) : ∃ front back, Cut cap ns front back := by
  induction ns using List.reverseRecOn with
  | nil =>
    refine ⟨[], [], rfl, rfl, Nat.zero_le _, fun h => absurd rfl h, fun h => ?_⟩
    exact absurd h (Nat.ne_of_lt hcap)
  | append_singleton ns n ih =>
    obtain ⟨hns, hlt⟩ := pairwise_concat_lt hasc
    obtain ⟨front, back, hc⟩ := ih hns fun m hm => hpos m (List.mem_append_left _ hm)
    by_cases hfull : (blocks front).length = cap
    · refine ⟨front, back ++ [n], ?_, ?_, hc.length_le, fun _ => hfull, hc.opened⟩
      · rw [hc.append, List.append_assoc]
      · rw [capped_concat, hc.capped, capStep, if_pos (Nat.le_of_eq hfull.symm)]
    · have hback : back = [] := by
        by_contra hne
        exact hfull (hc.full hne)
      have hfront : ns = front := by
        rw [hc.append, hback, List.append_nil]
      subst hfront
      have hroom : (blocks ns).length < cap := Nat.lt_of_le_of_ne hc.length_le hfull
      obtain ⟨hlong, hopen⟩ := (blocks_spec hns).step_eq hlt (hpos n (by simp))
      refine ⟨ns ++ [n], [], by simp, ?_, ?_, fun h => absurd rfl h, fun hlen => ?_⟩
      · rw [capped_concat, hc.capped, capStep, if_neg (by omega), blocks_concat]
      · rw [blocks_concat]
        by_cases hm : n - 1 ∈ ns
        · rw [hlong hm]
          omega
        · rw [hopen hm]
          exact hroom
      · refine ⟨n, List.getLast?_concat, ?_⟩
        rw [blocks_concat] at hlen
        have hn := hpos n (by simp)
        rw [List.mem_append, List.mem_singleton]
        rintro (hm | hm)
        · rw [hlong hm] at hlen
          omega
        · omega

theorem Cut.spec {cap : Nat} {front back : List Nat} (hc : Cut cap ns front back)
    (hasc : ns.Pairwise (· < ·)) : Spec front (Runs.capped cap ns) := by
  rw [hc.capped]
  exact blocks_spec (List.pairwise_append.mp (hc.append ▸ hasc)).1

theorem Cut.mem_of_covers {cap : Nat} {front back : List Nat} (hc : Cut cap ns front back)
    (hasc : ns.Pairwise (· < ·)) (h : Covers (Runs.capped cap ns) n) : n ∈ ns := by
  rw [hc.append]
  exact List.mem_append_left _ (((hc.spec hasc).covers_iff n).mp h)

theorem Cut.not_covers {cap : Nat} {front back : List Nat} (hc : Cut cap ns front back)
    (hasc : ns.Pairwise (· < ·)) (hn : n ∈ back) : ¬ Covers (Runs.capped cap ns) n := by
  intro h
  have hfront := ((hc.spec hasc).covers_iff n).mp h
  have hlt := (List.pairwise_append.mp (hc.append ▸ hasc)).2.2 n hfront n hn
  omega

/-- The numbers behind the cut open as many further blocks as there are numbers without their
predecessor among them. -/
theorem Cut.length_blocks {cap : Nat} {front back : List Nat} (hc : Cut cap ns front back)
    (hasc : ns.Pairwise (· < ·)) (hpos : ∀ m ∈ ns, 0 < m) :
    (blocks ns).length = (blocks front).length + (back.filter fun m => m - 1 ∉ ns).length := by
  obtain ⟨hfront, -, hlt⟩ := List.pairwise_append.mp (hc.append ▸ hasc)
  have hpos' : ∀ m ∈ front, 0 < m := fun m hm => hpos m (hc.append ▸ List.mem_append_left _ hm)
  have hold : (front.filter fun m => m - 1 ∉ ns) = front.filter fun m => m - 1 ∉ front := by
    apply List.filter_congr
    intro m hm
    have hback : m - 1 ∉ back := by
      intro hin
      have := hlt m hm _ hin
      omega
    rw [hc.append]
    simp [hback]
  rw [Runs.length_blocks hasc hpos, Runs.length_blocks hfront hpos', ← hold, ← List.length_append,
    ← List.filter_append, ← hc.append]

/-- **With no more runs than the cap, the capped pass covers the list unless there are as many runs
as the cap and the last one is longer than one number.** -/
theorem capped_covers_iff {cap : Nat} (hcap : 0 < cap) (hasc : ns.Pairwise (· < ·))
    (hpos : ∀ m ∈ ns, 0 < m) (hfew : (blocks ns).length ≤ cap) :
    (∀ m ∈ ns, Covers (capped cap ns) m) ↔
      ¬ ((blocks ns).length = cap ∧ ∃ m ∈ ns, (∀ k ∈ ns, k ≤ m) ∧ m - 1 ∈ ns) := by
  obtain ⟨front, back, hc⟩ := exists_cut hcap hasc hpos
  by_cases hback : back = []
  · have hns : ns = front := by
      rw [hc.append, hback, List.append_nil]
    subst hns
    refine iff_of_true (fun m hm => ((hc.spec hasc).covers_iff m).mpr hm) ?_
    -- the last number has opened the last block, so its predecessor is missing
    rintro ⟨hlen, m, hm, hmax, hpred⟩
    obtain ⟨k, hlast, hk⟩ := hc.opened hlen
    obtain ⟨init, rfl⟩ := List.getLast?_eq_some_iff.mp hlast
    have hle : m ≤ k := by
      rcases List.mem_append.mp hm with hin | hin
      · exact Nat.le_of_lt ((pairwise_concat_lt hasc).2 m hin)
      · exact Nat.le_of_eq (List.mem_singleton.mp hin)
    have hge : k ≤ m := hmax k (by simp)
    exact hk (Nat.le_antisymm hle hge ▸ hpred)
  · obtain ⟨init, k, rfl⟩ := List.eq_nil_or_concat' back |>.resolve_left hback
    have hk : k ∈ init ++ [k] := by simp
    have hkns : k ∈ ns := hc.append ▸ List.mem_append_right _ hk
    refine iff_of_false (fun hall => hc.not_covers hasc hk (hall k hkns)) (not_not.mpr ?_)
    have hfull := hc.full hback
    have hcount := hc.length_blocks hasc hpos
    have hnone : ((init ++ [k]).filter fun m => m - 1 ∉ ns) = [] :=
      List.length_eq_zero_iff.mp (by omega)
    refine ⟨by omega, k, hkns, fun m hm => ?_, ?_⟩
    · have hsplit : ns = (front ++ init) ++ [k] := by
        rw [hc.append, List.append_assoc]
      rw [hsplit] at hm hasc
      rcases List.mem_append.mp hm with hin | hin
      · exact Nat.le_of_lt ((pairwise_concat_lt hasc).2 m hin)
      · exact Nat.le_of_eq (List.mem_singleton.mp hin)
    · simpa using List.filter_eq_nil_iff.mp hnone k hk

end

end Runs
