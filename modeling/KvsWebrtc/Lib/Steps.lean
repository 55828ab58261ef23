import Mathlib.Tactic.Common

/-!
# Runs of a step function

`Each P s es` says that `P` holds of every state a run from `s` passes through and the event taken
there, `Always Q s es` that `Q` holds of every state.  An invariant is carried along a run whose
events all meet a condition (`Each.inv`); where the condition is exact at every single step, it is
exact for the run (`Each.iff_of_inv`).
-/

set_option autoImplicit false

namespace Steps

variable {σ ε : Type} (step : σ → ε → σ)

def Each (P : σ → ε → Prop) : σ → List ε → Prop
  | _, [] => True
  | s, e :: es => P s e ∧ Each P (step s e) es

def Always (Q : σ → Prop) : σ → List ε → Prop
  | s, [] => Q s
  | s, e :: es => Q s ∧ Always Q (step s e) es

variable {step} {P P' Dom : σ → ε → Prop} {Q Inv : σ → Prop} {s : σ} {es : List ε}

theorem each_iff : Each step P s es ↔
    ∀ pre e post, es = pre ++ e :: post → P (pre.foldl step s) e := by
  induction es generalizing s with
  | nil => simp [Each]
  | cons e es ih =>
    rw [Each, ih]
    constructor
    · rintro ⟨he, hes⟩ pre e' post h
      rcases pre with _ | ⟨d, pre⟩
      · cases h
        exact he
      · cases h
        exact hes pre e' post rfl
    · intro h
      exact ⟨h [] e es rfl, fun pre e' post heq => h (e :: pre) e' post (by rw [heq]; rfl)⟩

theorem always_iff : Always step Q s es ↔
    ∀ pre post, es = pre ++ post → Q (pre.foldl step s) := by
  induction es generalizing s with
  | nil => simp [Always]
  | cons e es ih =>
    rw [Always, ih]
    constructor
    · rintro ⟨hs, hes⟩ pre post h
      rcases pre with _ | ⟨d, pre⟩
      · exact hs
      · cases h
        exact hes pre post rfl
    · intro h
      exact ⟨h [] _ rfl, fun pre post heq => h (e :: pre) post (by rw [heq]; rfl)⟩

theorem each_and : Each step (fun s e => P s e ∧ P' s e) s es ↔
    Each step P s es ∧ Each step P' s es := by
  induction es generalizing s with
  | nil => simp [Each]
  | cons e es ih =>
    rw [Each, ih, Each, Each]
    tauto

theorem Each.and (h : Each step P s es) (h' : Each step P' s es) :
    Each step (fun s e => P s e ∧ P' s e) s es :=
  each_and.mpr ⟨h, h'⟩

/-- A property holds always if it does at first and after each step. -/
theorem always_iff_each :
    Always step Q s es ↔ Q s ∧ Each step (fun s e => Q (step s e)) s es := by
  induction es generalizing s with
  | nil => simp [Always, Each]
  | cons e es ih => rw [Always, ih, Each]

theorem Each.mono (hP : ∀ s e, P s e → P' s e) (h : Each step P s es) : Each step P' s es := by
  induction es generalizing s with
  | nil => trivial
  | cons e es ih => exact ⟨hP s e h.1, ih h.2⟩

/-- **An invariant is carried along a run whose steps meet the condition it is kept under.** -/
theorem Each.inv (hinv : Inv s) (hstep : ∀ s e, Inv s → P s e → Inv (step s e))
    (h : Each step P s es) : Always step Inv s es := by
  induction es generalizing s with
  | nil => exact hinv
  | cons e es ih => exact ⟨hinv, ih (hstep s e hinv h.1) h.2⟩

theorem Each.of_inv (hinv : Inv s) (hstep : ∀ s e, Inv s → P s e → Inv (step s e))
    (hP : ∀ s e, Inv s → P s e → P' s e) (h : Each step P s es) : Each step P' s es := by
  induction es generalizing s with
  | nil => trivial
  | cons e es ih => exact ⟨hP s e hinv h.1, ih (hstep s e hinv h.1) h.2⟩

theorem Always.mono (hQ : ∀ s, Inv s → Q s) (h : Always step Inv s es) : Always step Q s es := by
  induction es generalizing s with
  | nil => exact hQ s h
  | cons e es ih => exact ⟨hQ s h.1, ih h.2⟩

/-- **A condition that is exact at every step of a run in the domain is exact for the run.** -/
theorem Each.iff_of_inv (hinv : Inv s)
    (hstep : ∀ s e, Inv s → Dom s e → P s e → Inv (step s e))
    (hP : ∀ s e, Inv s → Dom s e → (P' s e ↔ P s e)) (hdom : Each step Dom s es) :
    Each step P' s es ↔ Each step P s es := by
  induction es generalizing s with
  | nil => rfl
  | cons e es ih =>
    constructor
    · intro h
      have he := (hP s e hinv hdom.1).mp h.1
      exact ⟨he, (ih (hstep s e hinv hdom.1 he) hdom.2).mp h.2⟩
    · intro h
      exact ⟨(hP s e hinv hdom.1).mpr h.1, (ih (hstep s e hinv hdom.1 h.1) hdom.2).mpr h.2⟩

/-- A property that a step keeps exactly under a condition holds always exactly when each step meets
the condition. -/
theorem always_iff_of_exact (hs : Q s) (hstep : ∀ s e, Q s → (Q (step s e) ↔ P s e)) :
    Always step Q s es ↔ Each step P s es := by
  induction es generalizing s with
  | nil => exact iff_of_true hs trivial
  | cons e es ih =>
    constructor
    · rintro ⟨-, hes⟩
      have hnext : Q (step s e) := by
        cases es with
        | nil => exact hes
        | cons => exact hes.1
      exact ⟨(hstep s e hs).mp hnext, (ih hnext).mp hes⟩
    · rintro ⟨he, hes⟩
      have hnext := (hstep s e hs).mpr he
      exact ⟨hs, (ih hnext).mpr hes⟩

end Steps
