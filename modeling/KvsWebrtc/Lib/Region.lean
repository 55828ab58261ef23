import Mathlib.Data.List.Basic

/-!
# Regions of one memory

Byte ranges by start and size, and what a bump allocator builds: regions in order, each behind the
end of the one before it.

Principal results:

* `Stacked.pairwise_apart` — stacked regions do not overlap;
* `Stacked.concat` — a region behind the last one is stacked on them.
-/

set_option autoImplicit false

namespace Regions

/-- The bytes from `start` to before `start + size`. -/
structure Region where
  start : Nat
  size : Nat
  deriving DecidableEq, Repr

def Region.stop (r : Region) : Nat := r.start + r.size

def Region.Apart (r s : Region) : Prop := r.stop ≤ s.start ∨ s.stop ≤ r.start

instance (r s : Region) : Decidable (r.Apart s) := inferInstanceAs (Decidable (_ ∨ _))

/-- Each region ends before the next one starts. -/
def Stacked (rs : List Region) : Prop := rs.Pairwise fun r s => r.stop ≤ s.start

theorem Stacked.pairwise_apart {rs : List Region} (h : Stacked rs) : rs.Pairwise Region.Apart :=
  h.imp .inl

/-- All regions of a stack end where the last one does, or before. -/
theorem Stacked.stop_le {rs : List Region} {r : Region} (h : Stacked (rs ++ [r])) :
    ∀ s ∈ rs ++ [r], s.stop ≤ r.stop := by
  intro s hs
  rcases List.mem_append.mp hs with hs | hs
  · have hbefore := (List.pairwise_append.mp h).2.2 s hs r (List.mem_singleton_self r)
    exact Nat.le_trans hbefore (Nat.le_add_right r.start r.size)
  · obtain rfl := List.mem_singleton.mp hs
    exact Nat.le_refl s.stop

/-- **A region behind the end of a stack** is stacked on it. -/
theorem Stacked.concat {rs : List Region} {s : Region} (h : Stacked rs)
    (hbehind : ∀ r ∈ rs, r.stop ≤ s.start) : Stacked (rs ++ [s]) := by
  refine List.pairwise_append.mpr ⟨h, List.pairwise_singleton _ s, ?_⟩
  intro r hr t ht
  rw [List.mem_singleton.mp ht]
  exact hbehind r hr

end Regions
