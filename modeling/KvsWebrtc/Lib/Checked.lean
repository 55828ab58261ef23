import Mathlib.Tactic.Common

/-!
# Computations that keep the state when they fail

A `Checked ε σ α` reads and writes a state of type `σ` and ends with a result or an error; the
writes before an error stay.  `Keeps R x` says that the state before and the state after `x` are
related by `R`, however it ends.  For a reflexive and transitive `R` that is a matter of the single
writes.
-/

set_option autoImplicit false

/-- A computation with a state that its errors do not undo. -/
abbrev Checked (ε σ α : Type) : Type := ExceptT ε (StateM σ) α

namespace Checked

variable {ε σ α β ι : Type}

/-- The result or error, and the state afterwards. -/
def exec (x : Checked ε σ α) (s : σ) : Except ε α × σ := x s

/-- A check: an error when there is one. -/
def check : Option ε → Checked ε σ Unit
  | none => pure ()
  | some e => throw e

/-- `x` relates the state before it to the state after it. -/
def Keeps (R : σ → σ → Prop) (x : Checked ε σ α) : Prop := ∀ s, R s (x.exec s).2

@[simp] theorem exec_pure (a : α) (s : σ) : (pure a : Checked ε σ α).exec s = (.ok a, s) := rfl

@[simp] theorem exec_throw (e : ε) (s : σ) : (throw e : Checked ε σ α).exec s = (.error e, s) := rfl

@[simp] theorem exec_get (s : σ) : (get : Checked ε σ σ).exec s = (.ok s, s) := rfl

@[simp] theorem exec_modify (f : σ → σ) (s : σ) :
    (modify f : Checked ε σ PUnit).exec s = (.ok ⟨⟩, f s) := rfl

theorem exec_bind (x : Checked ε σ α) (f : α → Checked ε σ β) (s : σ) :
    (x >>= f).exec s = match x.exec s with
      | (.ok a, s) => (f a).exec s
      | (.error e, s) => (.error e, s) := by
  change (match (x s).1 with
    | .ok a => f a
    | .error e => fun s => (.error e, s)) (x s).2 = _
  unfold exec
  rcases x s with ⟨_ | _, s⟩ <;> rfl

@[simp] theorem exec_get_bind (f : σ → Checked ε σ β) (s : σ) :
    (get >>= f).exec s = (f s).exec s := rfl

@[simp] theorem exec_modify_bind (g : σ → σ) (f : PUnit → Checked ε σ β) (s : σ) :
    (modify g >>= f).exec s = (f ⟨⟩).exec (g s) := rfl

section

variable {R : σ → σ → Prop}

theorem keeps_modify {f : σ → σ} (h : ∀ s, R s (f s)) : Keeps R (modify f : Checked ε σ PUnit) := h

theorem Keeps.ite {c : Prop} [Decidable c] {x y : Checked ε σ α} (hx : c → Keeps R x)
    (hy : ¬c → Keeps R y) : Keeps R (if c then x else y) := by
  split
  · exact hx ‹_›
  · exact hy ‹_›

variable [Std.Refl R]

theorem keeps_pure (a : α) : Keeps R (pure a : Checked ε σ α) := fun s => Std.Refl.refl s

theorem keeps_throw (e : ε) : Keeps R (throw e : Checked ε σ α) := fun s => Std.Refl.refl s

theorem keeps_get : Keeps R (get : Checked ε σ σ) := fun s => Std.Refl.refl s

theorem Keeps.exec_bind {f : α → Checked ε σ β} (hf : ∀ a, Keeps R (f a)) (x : Checked ε σ α)
    (s : σ) : R (x.exec s).2 ((x >>= f).exec s).2 := by
  rw [Checked.exec_bind]
  generalize x.exec s = r
  rcases r with ⟨e | a, s'⟩
  · exact Std.Refl.refl s'
  · exact hf a s'

theorem keeps_check (e : Option ε) : Keeps R (check e : Checked ε σ Unit) := by
  cases e with
  | none => exact keeps_pure ()
  | some e => exact keeps_throw e

variable [IsTrans σ R]

theorem Keeps.bind {x : Checked ε σ α} {f : α → Checked ε σ β} (hx : Keeps R x)
    (hf : ∀ a, Keeps R (f a)) : Keeps R (x >>= f) :=
  fun s => IsTrans.trans _ _ _ (hx s) (Keeps.exec_bind hf x s)

theorem Keeps.get_bind {f : σ → Checked ε σ β} (hf : ∀ s, Keeps R (f s)) :
    Keeps R (get >>= f) :=
  keeps_get.bind hf

theorem Keeps.check_bind {e : Option ε} {f : Unit → Checked ε σ β} (hf : ∀ u, Keeps R (f u)) :
    Keeps R (check e >>= f) :=
  (keeps_check e).bind hf

theorem Keeps.modify_bind {g : σ → σ} {f : PUnit → Checked ε σ β} (hg : ∀ s, R s (g s))
    (hf : ∀ u, Keeps R (f u)) : Keeps R (modify g >>= f) :=
  (keeps_modify hg).bind hf

theorem Keeps.forM {xs : List ι} {f : ι → Checked ε σ PUnit} (hf : ∀ i ∈ xs, Keeps R (f i)) :
    Keeps R (xs.forM f) := by
  induction xs with
  | nil => exact keeps_pure PUnit.unit
  | cons i xs ih =>
    exact (hf i List.mem_cons_self).bind fun _ =>
      ih fun j hj => hf j (List.mem_cons_of_mem _ hj)

end

end Checked
