import Mathlib.Algebra.Group.Nat.Defs
import Mathlib.Tactic.Common

/-!
# Serial number arithmetic on bit vectors

Sequence numbers of `w` bits are compared by the sign of their wrapping difference, so the
comparison is meaningful only between numbers less than half the circle apart.  `ahead c t` is
the distance from `c` forward to `t`; every comparison is a statement about such a distance
(`gt_iff_ahead`), and between numbers of one window `[c, c + 2^(w-1))` the serial order is the
order of the distances from `c` (`gt_iff_of_window`).
-/

set_option autoImplicit false

namespace Serial

variable {w : Nat}

/-- The distance from `c` forward to `t`. -/
def ahead (c t : BitVec w) : Nat := (t - c).toNat

/-- `a` lies behind `b`: the wrapping difference is negative. -/
def lt (a b : BitVec w) : Prop := (a - b).toInt < 0

def le (a b : BitVec w) : Prop := (a - b).toInt ≤ 0

def gt (a b : BitVec w) : Prop := 0 < (a - b).toInt

def ge (a b : BitVec w) : Prop := 0 ≤ (a - b).toInt

instance (a b : BitVec w) : Decidable (lt a b) := inferInstanceAs (Decidable (_ < _))
instance (a b : BitVec w) : Decidable (le a b) := inferInstanceAs (Decidable (_ ≤ _))
instance (a b : BitVec w) : Decidable (gt a b) := inferInstanceAs (Decidable (_ < _))
instance (a b : BitVec w) : Decidable (ge a b) := inferInstanceAs (Decidable (_ ≤ _))

/-! ## Distances -/

theorem ahead_eq (c t : BitVec w) :
    ahead c t = if c.toNat ≤ t.toNat then t.toNat - c.toNat else t.toNat + 2 ^ w - c.toNat := by
  have hc := c.isLt
  have ht := t.isLt
  unfold ahead
  rw [BitVec.toNat_sub]
  split
  · rename_i h
    rw [show 2 ^ w - c.toNat + t.toNat = t.toNat - c.toNat + 2 ^ w by omega, Nat.add_mod_right]
    exact Nat.mod_eq_of_lt (by omega)
  · rename_i h
    rw [show 2 ^ w - c.toNat + t.toNat = t.toNat + 2 ^ w - c.toNat by omega]
    exact Nat.mod_eq_of_lt (by omega)

theorem ahead_lt (c t : BitVec w) : ahead c t < 2 ^ w := (t - c).isLt

@[simp] theorem ahead_self (c : BitVec w) : ahead c c = 0 := by simp [ahead]

theorem ahead_eq_zero {c t : BitVec w} : ahead c t = 0 ↔ t = c := by
  constructor
  · intro h
    have hc := c.isLt
    have ht := t.isLt
    rw [ahead_eq] at h
    apply BitVec.eq_of_toNat_eq
    split at h <;> omega
  · rintro rfl
    exact ahead_self t

theorem ahead_inj {c t u : BitVec w} (h : ahead c t = ahead c u) : t = u := by
  have hc := c.isLt
  have ht := t.isLt
  have hu := u.isLt
  rw [ahead_eq, ahead_eq] at h
  apply BitVec.eq_of_toNat_eq
  split at h <;> split at h <;> omega

theorem ahead_of_le {c t u : BitVec w} (h : ahead c t ≤ ahead c u) :
    ahead t u = ahead c u - ahead c t := by
  have hc := c.isLt
  have ht := t.isLt
  have hu := u.isLt
  rw [ahead_eq c t, ahead_eq c u] at *
  rw [ahead_eq t u]
  split at h <;> split at h <;> split <;> omega

theorem ahead_of_lt {c t u : BitVec w} (h : ahead c u < ahead c t) :
    ahead t u = 2 ^ w - (ahead c t - ahead c u) := by
  have hc := c.isLt
  have ht := t.isLt
  have hu := u.isLt
  rw [ahead_eq c t, ahead_eq c u] at *
  rw [ahead_eq t u]
  split at h <;> split at h <;> split <;> omega

theorem ahead_add {c t : BitVec w} {n : Nat} (h : ahead c t + n < 2 ^ w) :
    ahead c (t + BitVec.ofNat w n) = ahead c t + n := by
  unfold ahead at h ⊢
  rw [show t + BitVec.ofNat w n - c = (t - c) + BitVec.ofNat w n by
    rw [BitVec.sub_eq_add_neg, BitVec.sub_eq_add_neg, BitVec.add_assoc, BitVec.add_assoc,
      BitVec.add_comm (BitVec.ofNat w n)]]
  have hn : n % 2 ^ w = n := Nat.mod_eq_of_lt (by omega)
  rw [BitVec.toNat_add, BitVec.toNat_ofNat, hn]
  exact Nat.mod_eq_of_lt h

theorem ahead_add_ofNat (c : BitVec w) (n : Nat) : ahead c (c + BitVec.ofNat w n) = n % 2 ^ w := by
  unfold ahead
  rw [BitVec.add_comm, BitVec.add_sub_cancel, BitVec.toNat_ofNat]

theorem ahead_succ (hw : 1 < 2 ^ w) {c t : BitVec w} (h : t ≠ c) :
    ahead c t = ahead (c + BitVec.ofNat w 1) t + 1 := by
  have h0 : ahead c t ≠ 0 := fun h0 => h (ahead_eq_zero.mp h0)
  have h1 : ahead c (c + BitVec.ofNat w 1) = 1 := by
    rw [ahead_add_ofNat]
    exact Nat.mod_eq_of_lt hw
  have h2 : ahead (c + BitVec.ofNat w 1) t = ahead c t - ahead c (c + BitVec.ofNat w 1) :=
    ahead_of_le (by omega)
  omega

theorem eq_add_ahead (c t : BitVec w) : t = c + BitVec.ofNat w (ahead c t) := by
  unfold ahead
  rw [BitVec.ofNat_toNat, BitVec.setWidth_eq, BitVec.add_comm, BitVec.sub_add_cancel]

theorem ahead_trans {a b c : BitVec w} (h : ahead a b + ahead b c < 2 ^ w) :
    ahead a c = ahead a b + ahead b c := by
  conv_lhs => rw [eq_add_ahead b c]
  exact ahead_add h

/-! ## Consecutive numbers -/

/-- `n` numbers from `c` on. -/
def numbers (c : BitVec w) : Nat → List (BitVec w)
  | 0 => []
  | n + 1 => c :: numbers (c + BitVec.ofNat w 1) n

theorem mem_numbers (hw : 1 < 2 ^ w) {c x : BitVec w} {n : Nat} (hn : n ≤ 2 ^ w) :
    x ∈ numbers c n ↔ ahead c x < n := by
  induction n generalizing c with
  | zero => simp [numbers]
  | succ n ih =>
    rw [numbers, List.mem_cons, ih (by omega)]
    by_cases hx : x = c
    · rw [hx, ahead_self]
      simp
    · rw [ahead_succ hw hx]
      simp [hx]

theorem nodup_numbers (hw : 1 < 2 ^ w) {c : BitVec w} {n : Nat} (hn : n ≤ 2 ^ w) :
    (numbers c n).Nodup := by
  induction n generalizing c with
  | zero => exact List.nodup_nil
  | succ n ih =>
    refine List.nodup_cons.mpr ⟨?_, ih (by omega)⟩
    rw [mem_numbers hw (by omega)]
    have hstep : ahead c (c + BitVec.ofNat w 1) = 1 := by
      rw [ahead_add_ofNat]
      exact Nat.mod_eq_of_lt hw
    have hback := ahead_of_lt (c := c) (t := c + BitVec.ofNat w 1) (u := c) (by
      rw [ahead_self, hstep]
      omega)
    rw [ahead_self, hstep] at hback
    omega

theorem numbers_add (c : BitVec w) (m n : Nat) :
    numbers c (m + n) = numbers c m ++ numbers (c + BitVec.ofNat w m) n := by
  induction m generalizing c with
  | zero => simp [numbers]
  | succ m ih =>
    rw [Nat.succ_add, numbers, numbers, ih, List.cons_append, BitVec.ofNat_add, BitVec.add_assoc,
      BitVec.add_comm (BitVec.ofNat w 1)]

/-! ## Comparisons -/

theorem gt_iff_ahead {a b : BitVec w} : gt a b ↔ 0 < ahead b a ∧ 2 * ahead b a < 2 ^ w := by
  have h := (a - b).isLt
  unfold gt ahead
  rw [BitVec.toInt_eq_toNat_cond]
  split <;> omega

theorem lt_iff_ahead {a b : BitVec w} : lt a b ↔ 2 ^ w ≤ 2 * ahead b a := by
  exact BitVec.toInt_neg_iff

theorem le_iff_not_gt {a b : BitVec w} : le a b ↔ ¬ gt a b := by
  unfold le gt
  omega

theorem ge_iff_not_lt {a b : BitVec w} : ge a b ↔ ¬ lt a b := by
  unfold ge lt
  omega

theorem not_gt_self (a : BitVec w) : ¬ gt a a := by
  rw [gt_iff_ahead, ahead_self]
  omega

theorem le_self (a : BitVec w) : le a a := le_iff_not_gt.mpr (not_gt_self a)

theorem gt_iff_of_window {c t u : BitVec w} (ht : 2 * ahead c t < 2 ^ w)
    (hu : 2 * ahead c u < 2 ^ w) : gt t u ↔ ahead c u < ahead c t := by
  rw [gt_iff_ahead]
  by_cases h : ahead c u ≤ ahead c t
  · rw [ahead_of_le h]
    omega
  · rw [ahead_of_lt (c := c) (by omega)]
    omega

theorem lt_iff_of_window {c t u : BitVec w} (ht : 2 * ahead c t < 2 ^ w)
    (hu : 2 * ahead c u < 2 ^ w) : lt t u ↔ ahead c t < ahead c u := by
  rw [lt_iff_ahead]
  by_cases h : ahead c u ≤ ahead c t
  · rw [ahead_of_le h]
    omega
  · rw [ahead_of_lt (c := c) (by omega)]
    omega

theorem le_iff_of_window {c t u : BitVec w} (ht : 2 * ahead c t < 2 ^ w)
    (hu : 2 * ahead c u < 2 ^ w) : le t u ↔ ahead c t ≤ ahead c u := by
  rw [le_iff_not_gt, gt_iff_of_window ht hu]
  omega

end Serial
