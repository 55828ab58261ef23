import Mathlib.Tactic.Common

/-!
# Printing into memory

`snprintf` writes at most as many characters as fit before a terminating NUL, and returns how many
there were to write.  A text that is printed piece by piece, each piece over the NUL of the one
before, stands in memory with one NUL behind it.

Principal results:

* `store_apply_of_lt` — a store leaves what is before it alone;
* `Starts.snprintf` — a piece that fits with its NUL is printed behind the text.
-/

set_option autoImplicit false

namespace Printing

abbrev Chars := List (BitVec 8)

/-- The bytes by their distance from the start of a buffer. -/
abbrev Memory := Nat → BitVec 8

def store (m : Memory) (off : Nat) (b : Chars) : Memory :=
  fun i => if off ≤ i then (b[i - off]?).getD (m i) else m i

/-- What `snprintf` writes of a text: its first `size - 1` characters and a NUL. -/
def snprintf (size : Nat) (text : Chars) : Chars :=
  if size = 0 then [] else text.take (size - 1) ++ [0]

variable {m : Memory} {off i size : Nat} {b text piece : Chars}

theorem store_apply_of_lt (h : i < off) : store m off b i = m i := by
  rw [store, if_neg (by omega)]

theorem store_apply_add (h : i < b.length) : store m off b (off + i) = b[i] := by
  rw [store, if_pos (by omega), Nat.add_sub_cancel_left, List.getElem?_eq_getElem h]
  rfl

theorem length_snprintf_le : (snprintf size text).length ≤ size := by
  unfold snprintf
  split
  · simp
  · rw [List.length_append, List.length_singleton, List.length_take]
    omega

theorem snprintf_fits (h : text.length < size) : snprintf size text = text ++ [0] := by
  rw [snprintf, if_neg (by omega), List.take_of_length_le (by omega)]

/-- The memory starts with the text. -/
def Starts (m : Memory) (text : Chars) : Prop := ∀ i, ∀ h : i < text.length, m i = text[i]

/-- The memory starts with the text and its NUL. -/
def Printed (m : Memory) (text : Chars) : Prop := Starts m (text ++ [0])

theorem starts_nil (m : Memory) : Starts m [] := fun _ h => absurd h (Nat.not_lt_zero _)

theorem Starts.append (hm : Starts m text) (b : Chars) :
    Starts (store m text.length b) (text ++ b) := by
  intro i hi
  rcases Nat.lt_or_ge i text.length with hlt | hge
  · rw [store_apply_of_lt hlt, List.getElem_append_left hlt]
    exact hm i hlt
  · obtain ⟨k, rfl⟩ := Nat.exists_eq_add_of_le hge
    have hk : k < b.length := by
      rw [List.length_append] at hi
      omega
    rw [store_apply_add hk, List.getElem_append_right (by omega)]
    simp

theorem Printed.starts (h : Printed m text) : Starts m text := by
  intro i hi
  have hnul := h i (by rw [List.length_append]; omega)
  rw [hnul, List.getElem_append_left hi]

/-- **A piece that fits with its NUL** is printed behind the text. -/
theorem Starts.snprintf (h : Starts m text) (hfits : piece.length < size) :
    Printed (store m text.length (snprintf size piece)) (text ++ piece) := by
  rw [snprintf_fits hfits, Printed, List.append_assoc]
  exact h.append (piece ++ [0])

end Printing
