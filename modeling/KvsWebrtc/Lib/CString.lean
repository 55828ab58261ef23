import Mathlib.Data.List.GetD
import Mathlib.Tactic.Common

/-!
# Strings and character arrays of C

A string is what stands before its NUL.  A character array has a fixed size and may hold any bytes;
its text is what stands before its first NUL, if it has one.  `strncpy` copies into an array as the
C function does: it stops at the end of the source, fills up with NULs, leaves the rest of the array
alone and does not terminate it; a count above the size of the array writes outside it.

Principal results: `strncpy_eq_none` (when a copy leaves the array), `strncpy_zeroed` and
`strncpy_ofText` (a copy over nothing and over a text), `strnchr_eq_some` and `strnchr_eq_none`
(the bounded search).
-/

set_option autoImplicit false

namespace CString

abbrev Chars := List (BitVec 8)

/-- A string: its characters before the terminating NUL. -/
structure Str where
  chars : Chars
  noNul : ∀ c ∈ chars, c ≠ 0

/-- An array of `n` characters. -/
structure CharArray (n : Nat) where
  bytes : Chars
  size : bytes.length = n
  deriving DecidableEq

namespace CharArray

variable {n : Nat}

def zeroed (n : Nat) : CharArray n := ⟨List.replicate n 0, List.length_replicate⟩

/-- The array read as a string. -/
def text (a : CharArray n) : Chars := a.bytes.takeWhile (· ≠ 0)

def Terminated (a : CharArray n) : Prop := 0 ∈ a.bytes

instance (a : CharArray n) : Decidable a.Terminated := inferInstanceAs (Decidable (0 ∈ a.bytes))

theorem ext_bytes {a b : CharArray n} (h : a.bytes = b.bytes) : a = b := by
  cases a
  cases b
  cases h
  rfl

theorem text_noNul (a : CharArray n) : ∀ c ∈ a.text, c ≠ 0 := by
  intro c hc
  have hall := List.all_eq_true.mp List.all_takeWhile c hc
  simpa using hall

theorem length_text_le (a : CharArray n) : a.text.length ≤ n := by
  have h := List.Sublist.length_le (List.takeWhile_sublist (fun c => decide (c ≠ 0)) (l := a.bytes))
  rw [a.size] at h
  exact h

theorem length_text_lt {a : CharArray n} (h : a.Terminated) : a.text.length < n := by
  rcases Nat.lt_or_ge a.text.length n with hlt | hge
  · exact hlt
  · have hall : a.text = a.bytes := by
      apply List.IsPrefix.eq_of_length_le (List.takeWhile_prefix _)
      rw [a.size]
      exact hge
    exact absurd rfl (a.text_noNul 0 (hall ▸ h))

end CharArray

open CharArray

/-! ## Copying -/

/-- `strncpy(dst, src, count)`; `src` is given by its characters before the NUL.  No result is a
write outside the array. -/
def strncpy {n : Nat} (dst : CharArray n) (src : Chars) (count : Nat) : Option (CharArray n) :=
  if h : count ≤ n then
    some ⟨src.take count ++ List.replicate (count - src.length) 0 ++ dst.bytes.drop count, by
      simp only [List.length_append, List.length_take, List.length_replicate, List.length_drop,
        dst.size]
      omega⟩
  else none

section

variable {n : Nat} {dst : CharArray n} {src : Chars} {count : Nat}

end

/-- The array that holds a text and NULs behind it. -/
def CharArray.ofText (n : Nat) (t : Chars) : CharArray n :=
  ⟨(t ++ List.replicate n 0).take n, by simp⟩

section

variable {n : Nat} {t src : Chars} {count : Nat}

theorem CharArray.getElem?_ofText (i : Nat) :
    (ofText n t).bytes[i]? = if i < n then some (t.getD i 0) else none := by
  unfold ofText
  rw [List.getElem?_take]
  by_cases hi : i < n
  · rw [if_pos hi, if_pos hi]
    rcases Nat.lt_or_ge i t.length with hlt | hge
    · rw [List.getElem?_append_left hlt, List.getD_eq_getElem t 0 hlt, List.getElem?_eq_getElem hlt]
    · rw [List.getElem?_append_right hge, List.getD_eq_default t 0 hge,
        List.getElem?_replicate_of_lt (by omega)]
  · rw [if_neg hi, if_neg hi]

@[simp] theorem CharArray.ofText_nil : ofText n [] = zeroed n := by
  apply ext_bytes
  simp [ofText, zeroed]

/-- **A copy over a text** keeps what stands behind it. -/
theorem strncpy_ofText (hlen : count ≤ src.length) (hcount : count ≤ n) :
    strncpy (ofText n t) src count = some (ofText n (src.take count ++ t.drop count)) := by
  have htake : (src.take count).length = count := by rw [List.length_take, Nat.min_eq_left hlen]
  unfold strncpy
  rw [dif_pos hcount, Option.some_inj]
  apply ext_bytes
  apply List.ext_getElem?
  intro i
  rw [getElem?_ofText]
  dsimp only
  rw [Nat.sub_eq_zero_of_le hlen, List.replicate_zero, List.append_nil]
  rcases Nat.lt_or_ge i count with hlt | hge
  · rw [List.getElem?_append_left (by omega), if_pos (by omega),
      List.getD_append _ _ _ _ (by omega), List.getD_eq_getElem _ 0 (by omega),
      List.getElem?_eq_getElem (by omega)]
  · rw [List.getElem?_append_right (by omega), List.getElem?_drop, htake, getElem?_ofText,
      Nat.add_sub_cancel' hge, List.getD_append_right _ _ _ _ (by omega), htake]
    simp [List.getD_eq_getElem?_getD, Nat.add_sub_cancel' hge]

theorem strncpy_zeroed (hcount : count ≤ n) :
    strncpy (zeroed n) src count = some (ofText n (src.take count)) := by
  unfold strncpy
  rw [dif_pos hcount, Option.some_inj]
  apply ext_bytes
  simp only [ofText, zeroed, List.drop_replicate, List.append_assoc,
    List.replicate_append_replicate, List.take_append, List.take_replicate, List.length_take, List.take_take]
  congr 1
  · rw [Nat.min_eq_right hcount]
  · congr 1
    omega

/-- `a[i] = '\0'`; no result is a write outside the array. -/
def CharArray.terminate (a : CharArray n) (i : Nat) : Option (CharArray n) :=
  if i < n then some ⟨a.bytes.set i 0, by rw [List.length_set, a.size]⟩ else none

theorem CharArray.terminate_ofText {i : Nat} (hlen : t.length ≤ i) (hi : i < n) :
    (ofText n t).terminate i = some (ofText n t) := by
  unfold terminate
  rw [if_pos hi, Option.some_inj]
  apply ext_bytes
  apply List.ext_getElem?
  intro j
  rw [List.getElem?_set, getElem?_ofText]
  by_cases hij : i = j
  · subst hij
    rw [if_pos rfl, if_pos hi, if_pos (by rw [(ofText n t).size]; exact hi),
      List.getD_eq_default t 0 hlen]
  · rw [if_neg hij]

theorem CharArray.text_ofText (ht : ∀ c ∈ t, c ≠ 0) (hlen : t.length ≤ n) :
    (ofText n t).text = t := by
  unfold ofText CharArray.text
  dsimp only
  rw [List.take_append, List.take_of_length_le hlen, List.take_replicate,
    List.takeWhile_append_of_pos]
  · simp
  · intro c hc
    simpa using ht c hc

theorem CharArray.terminated_ofText (hlen : t.length < n) : (ofText n t).Terminated := by
  unfold Terminated
  rw [List.mem_iff_getElem?]
  refine ⟨t.length, ?_⟩
  rw [getElem?_ofText, if_pos hlen, List.getD_eq_default t 0 (Nat.le_refl _)]

theorem CharArray.headD_ofText (hn : 0 < n) : (ofText n t).bytes.headD 0 = t.headD 0 := by
  have h := getElem?_ofText (n := n) (t := t) 0
  rw [if_pos hn] at h
  rw [List.headD_eq_head?_getD, List.head?_eq_getElem?, h]
  cases t <;> rfl

end

/-! ## Searching and comparing -/

/-- The position of the first `c` among the first `len` characters before the NUL; `c` is not
NUL. -/
def strnchr : Chars → Nat → BitVec 8 → Option Nat
  | _, 0, _ => none
  | [], _ + 1, _ => none
  | b :: s, len + 1, c => if b = c then some 0 else (strnchr s len c).map (· + 1)

/-- Whether `strncmp(a, b, n)` is 0. -/
def strncmpEq (a b : Chars) (n : Nat) : Bool := a.take n == b.take n

theorem strnchr_eq_some {s : Chars} {len : Nat} {c : BitVec 8} {i : Nat} :
    strnchr s len c = some i ↔ i < len ∧ s[i]? = some c ∧ c ∉ s.take i := by
  induction s generalizing len i with
  | nil => cases len <;> simp [strnchr]
  | cons b s ih =>
    cases len with
    | zero => simp [strnchr]
    | succ len =>
      unfold strnchr
      by_cases hb : b = c
      · subst hb
        cases i <;> simp
      · cases i with
        | zero => simp [hb]
        | succ i =>
          simp only [if_neg hb, Option.map_eq_some_iff, Nat.add_right_cancel_iff, exists_eq_right,
            ih, List.getElem?_cons_succ, List.take_succ_cons, List.mem_cons, not_or]
          constructor
          · rintro ⟨h1, h2, h3⟩
            exact ⟨by omega, h2, Ne.symm hb, h3⟩
          · rintro ⟨h1, h2, -, h3⟩
            exact ⟨by omega, h2, h3⟩

theorem strnchr_eq_none {s : Chars} {len : Nat} {c : BitVec 8} :
    strnchr s len c = none ↔ c ∉ s.take len := by
  induction s generalizing len with
  | nil => cases len <;> simp [strnchr]
  | cons b s ih =>
    cases len with
    | zero => simp [strnchr]
    | succ len =>
      unfold strnchr
      by_cases hb : b = c
      · simp [hb]
      · simp [hb, ih, Ne.symm hb]

theorem strnchr_append {s t : Chars} {len : Nat} {c : BitVec 8} (hs : c ∉ s)
    (hlen : s.length < len) : strnchr (s ++ c :: t) len c = some s.length := by
  rw [strnchr_eq_some]
  refine ⟨hlen, by simp, by simpa using hs⟩

end CString
