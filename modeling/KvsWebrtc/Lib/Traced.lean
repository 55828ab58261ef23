import Mathlib.Tactic.Common

/-!
# Computations that keep the addresses they read

`Traced μ α` reads a memory of type `μ` and answers with a value and the addresses of the cells it
read, in order.  `Within n` says that all of them are below `n`, whatever the memory holds; its
rules follow the structure of the computation.
-/

set_option autoImplicit false

universe u

/-- A computation over a memory and the addresses it reads. -/
structure Traced (μ : Type) (α : Type u) where
  run : μ → α × List Nat

namespace Traced

variable {μ : Type} {α β : Type u} {n : Nat}

instance : Monad (Traced μ) where
  pure a := ⟨fun _ => (a, [])⟩
  bind c f := ⟨fun m => (((f (c.run m).1).run m).1, (c.run m).2 ++ ((f (c.run m).1).run m).2)⟩

/-- The `len` cells from `off` on, as `get` decodes them. -/
def read (get : μ → Nat → α) (off len : Nat) : Traced μ α :=
  ⟨fun m => (get m off, List.range' off len)⟩

@[simp] theorem run_pure (a : α) (m : μ) : (pure a : Traced μ α).run m = (a, []) := rfl

@[simp] theorem run_bind (c : Traced μ α) (f : α → Traced μ β) (m : μ) :
    (c >>= f).run m =
      (((f (c.run m).1).run m).1, (c.run m).2 ++ ((f (c.run m).1).run m).2) := rfl

@[simp] theorem run_read (get : μ → Nat → α) (off len : Nat) (m : μ) :
    (read get off len).run m = (get m off, List.range' off len) := rfl

/-- Every address read is below `n`. -/
def Within (n : Nat) (c : Traced μ α) : Prop := ∀ m, ∀ r ∈ (c.run m).2, r < n

theorem Within.pure (a : α) : Within n (Pure.pure a : Traced μ α) := by
  intro m r hr
  cases hr

theorem Within.read {get : μ → Nat → α} {off len : Nat} (h : off + len ≤ n) :
    Within n (read get off len) := by
  intro m r hr
  have := (List.mem_range'_1.mp hr).2
  omega

theorem Within.bind {c : Traced μ α} {f : α → Traced μ β} (hc : Within n c)
    (hf : ∀ a, Within n (f a)) : Within n (c >>= f) := by
  intro m r hr
  rcases List.mem_append.mp hr with hr | hr
  · exact hc m r hr
  · exact hf _ m r hr

/-- The second part may rely on what every answer of the first part satisfies. -/
theorem Within.bind_ensures {c : Traced μ α} {f : α → Traced μ β} {P : α → Prop}
    (hc : Within n c) (hP : ∀ m, P (c.run m).1) (hf : ∀ a, P a → Within n (f a)) :
    Within n (c >>= f) := by
  intro m r hr
  rcases List.mem_append.mp hr with hr | hr
  · exact hc m r hr
  · exact hf _ (hP m) m r hr

theorem Within.ite {p : Prop} [Decidable p] {c d : Traced μ α} (hc : p → Within n c)
    (hd : ¬ p → Within n d) : Within n (if p then c else d) := by
  split
  · rename_i h
    exact hc h
  · rename_i h
    exact hd h

end Traced
