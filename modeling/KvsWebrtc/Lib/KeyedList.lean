import Mathlib.Data.Finset.Card
import Mathlib.Data.List.Dedup

/-!
# A list as a keyed store

`put` replaces the first element with the key of the new one, in its place, or adds the new one at
the end.  Putting the elements of a history one after the other leaves a store in which a lookup
finds what was put last under the key, and which has as many elements as the history has keys.

Principal results:

* `find_put`, `find_puts` — what a lookup finds;
* `nodup_puts`, `length_puts` — one element for each key.
-/

set_option autoImplicit false

namespace KeyedList

variable {α κ : Type} [DecidableEq κ] (key : α → κ)

def put (store : List α) (a : α) : List α :=
  let i := store.findIdx fun b => key b = key a
  if i < store.length then store.set i a else store ++ [a]

def puts (history : List α) : List α := history.foldl (put key) []

variable {key} {store history : List α} {a : α} {k : κ}

theorem put_nil : put key [] a = [a] := rfl

theorem put_cons_same {b : α} (h : key b = key a) : put key (b :: store) a = a :: store := by
  simp [put, List.findIdx_cons, h]

theorem put_cons_other {b : α} (h : key b ≠ key a) :
    put key (b :: store) a = b :: put key store a := by
  unfold put
  rw [List.findIdx_cons]
  simp only [h, decide_false, cond_false, List.length_cons, Nat.add_lt_add_iff_right,
    List.set_cons_succ]
  split <;> rfl

/-- **What a lookup finds after one element was put.** -/
theorem find_put : (put key store a).find? (fun b => key b = k) =
    if key a = k then some a else store.find? fun b => key b = k := by
  induction store with
  | nil => by_cases h : key a = k <;> simp [put_nil, h]
  | cons b store ih =>
    by_cases hb : key b = key a
    · rw [put_cons_same hb]
      by_cases h : key a = k <;> simp [h, hb]
    · rw [put_cons_other hb, List.find?_cons, List.find?_cons, ih]
      by_cases hk : key b = k
      · have hne : key a ≠ k := fun h => hb (hk.trans h.symm)
        simp [hk, hne]
      · simp [hk]

theorem mem_put {b : α} (h : b ∈ put key store a) : b = a ∨ b ∈ store := by
  unfold put at h
  dsimp only at h
  split at h
  · rcases List.mem_or_eq_of_mem_set h with h | h
    · exact .inr h
    · exact .inl h
  · rcases List.mem_append.mp h with h | h
    · exact .inr h
    · exact .inl (List.mem_singleton.mp h)

theorem keys_put : (put key store a).map key =
    if key a ∈ store.map key then store.map key else store.map key ++ [key a] := by
  induction store with
  | nil => simp [put_nil]
  | cons b store ih =>
    by_cases hb : key b = key a
    · rw [put_cons_same hb]
      simp [hb]
    · rw [put_cons_other hb, List.map_cons, ih, List.map_cons]
      have hne : key a ≠ key b := fun h => hb h.symm
      by_cases hmem : key a ∈ store.map key
      · rw [if_pos hmem, if_pos (List.mem_cons_of_mem _ hmem)]
      · rw [if_neg hmem, if_neg (List.not_mem_cons_of_ne_of_not_mem hne hmem), List.cons_append]

theorem puts_concat : puts key (history ++ [a]) = put key (puts key history) a := by
  rw [puts, List.foldl_append]
  rfl

/-- **A lookup finds what was put last under the key.** -/
theorem find_puts : (puts key history).find? (fun b => key b = k) =
    history.reverse.find? fun b => key b = k := by
  induction history using List.reverseRecOn with
  | nil => rfl
  | append_singleton history a ih =>
    rw [puts_concat, find_put, ih, List.reverse_append, List.reverse_singleton,
      List.singleton_append, List.find?_cons]
    by_cases h : key a = k <;> simp [h]

theorem mem_of_mem_puts {b : α} (h : b ∈ puts key history) : b ∈ history := by
  induction history using List.reverseRecOn with
  | nil => exact h
  | append_singleton history a ih =>
    rw [puts_concat] at h
    rcases mem_put h with rfl | h
    · exact List.mem_append_right _ (List.mem_singleton_self b)
    · exact List.mem_append_left _ (ih h)

theorem nodup_puts : ((puts key history).map key).Nodup := by
  induction history using List.reverseRecOn with
  | nil => exact List.nodup_nil
  | append_singleton history a ih =>
    rw [puts_concat, keys_put]
    split
    · exact ih
    · exact List.nodup_append.mpr ⟨ih, List.nodup_singleton _, fun x hx y hy hxy =>
        ‹key a ∉ _› (List.mem_singleton.mp hy ▸ hxy ▸ hx)⟩

theorem mem_keys_puts : k ∈ (puts key history).map key ↔ k ∈ history.map key := by
  induction history using List.reverseRecOn with
  | nil => rfl
  | append_singleton history a ih =>
    rw [puts_concat, keys_put, List.map_append, List.mem_append, ← ih, List.map_singleton,
      List.mem_singleton]
    split
    · rename_i hmem
      exact ⟨.inl, fun h => h.elim id fun heq => heq ▸ hmem⟩
    · rw [List.mem_append, List.mem_singleton]

/-- **The store has one element for each key.** -/
theorem length_puts : (puts key history).length = (history.map key).dedup.length := by
  have hperm : List.Perm ((puts key history).map key) (history.map key).dedup := by
    refine (List.perm_ext_iff_of_nodup nodup_puts (List.nodup_dedup _)).mpr fun k => ?_
    rw [mem_keys_puts, List.mem_dedup]
  rw [← List.length_map (f := key), hperm.length_eq]

end KeyedList
