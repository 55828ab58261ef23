import Mathlib.Logic.Function.Iterate
import Mathlib.Data.List.Basic

/-!
# Reflected cyclic redundancy checks

The register of a reflected CRC is shifted towards its low end, and the generator, written without
its leading coefficient and in reverse order, is added when a one leaves it.  The bits of a message
are read least significant first in each byte; positions of bits are meant in that order.

Principal results:

* `shift_iterate_byte` — eight shifts of a register from a table of the eight shifts of a byte;
* `feedBits_ne_of_burst` — two messages that differ within as many consecutive bits as the register
  is wide leave different registers.
-/

set_option autoImplicit false

namespace Crc

variable {w : Nat} (poly : BitVec w)

/-- One step of the register. -/
def shift (r : BitVec w) : BitVec w := if r.getLsbD 0 then (r >>> 1) ^^^ poly else r >>> 1

/-- A register that holds one bit. -/
def lowBit (w : Nat) (d : Bool) : BitVec w := if d then 1#w else 0#w

/-- The register reads a bit. -/
def feed (r : BitVec w) (d : Bool) : BitVec w := shift poly (r ^^^ lowBit w d)

def feedBits (r : BitVec w) (bits : List Bool) : BitVec w := bits.foldl (feed poly) r

/-- The bits of a byte, least significant first. -/
def byteBits (b : BitVec 8) : List Bool := (List.range 8).map b.getLsbD

def messageBits (bytes : List (BitVec 8)) : List Bool := bytes.flatMap byteBits

/-- The check value of a message, bit by bit. -/
def crc (initial final : BitVec w) (bytes : List (BitVec 8)) : BitVec w :=
  feedBits poly initial (messageBits bytes) ^^^ final

theorem feedBits_append (r : BitVec w) (a b : List Bool) :
    feedBits poly r (a ++ b) = feedBits poly (feedBits poly r a) b := List.foldl_append

theorem length_byteBits (b : BitVec 8) : (byteBits b).length = 8 := by simp [byteBits]

theorem getElem?_messageBits (bytes : List (BitVec 8)) (i : Nat) :
    (messageBits bytes)[i]? = bytes[i / 8]?.map fun b => b.getLsbD (i % 8) := by
  induction bytes generalizing i with
  | nil => rfl
  | cons b bs ih =>
    have hcons : messageBits (b :: bs) = byteBits b ++ messageBits bs := List.flatMap_cons
    rw [hcons]
    by_cases h : i < 8
    · rw [List.getElem?_append_left (by rw [length_byteBits]; exact h), Nat.div_eq_of_lt h,
        Nat.mod_eq_of_lt h]
      simp [byteBits, h]
    · obtain ⟨j, rfl⟩ : ∃ j, i = j + 8 := ⟨i - 8, by omega⟩
      rw [List.getElem?_append_right (by rw [length_byteBits]; omega), length_byteBits,
        Nat.add_sub_cancel, ih, Nat.add_div_right _ (by decide), Nat.add_mod_right]
      rfl

theorem length_messageBits (bytes : List (BitVec 8)) :
    (messageBits bytes).length = 8 * bytes.length := by
  induction bytes with
  | nil => rfl
  | cons b bs ih =>
    rw [messageBits, List.flatMap_cons, List.length_append, length_byteBits, ← messageBits, ih,
      List.length_cons]
    omega

theorem messageBits_injective : Function.Injective messageBits := by
  intro a b h
  apply List.ext_getElem?
  intro i
  have hbit : ∀ j < 8, (a[i]?.map fun x => x.getLsbD j) = b[i]?.map fun x => x.getLsbD j := by
    intro j hj
    have hat := congrArg (·[8 * i + j]?) h
    simp only [getElem?_messageBits] at hat
    rwa [show (8 * i + j) / 8 = i by omega, show (8 * i + j) % 8 = j by omega] at hat
  cases ha : a[i]? <;> cases hb : b[i]?
  · rfl
  · exact absurd (hbit 0 (by decide)) (by rw [ha, hb]; exact nofun)
  · exact absurd (hbit 0 (by decide)) (by rw [ha, hb]; exact nofun)
  · congr 1
    apply BitVec.eq_of_getLsbD_eq
    intro j hj
    have hj' := hbit j hj
    rw [ha, hb] at hj'
    exact Option.some.inj hj'

/-! ## The shift is linear -/

theorem xor_cancel (a b p : BitVec w) : a ^^^ p ^^^ (b ^^^ p) = a ^^^ b := by
  rw [BitVec.xor_comm b p, BitVec.xor_assoc, ← BitVec.xor_assoc p, BitVec.xor_self,
    BitVec.zero_xor]

theorem xor_right_injective (c : BitVec w) : Function.Injective (· ^^^ c) := by
  intro a b h
  have hadd : a ^^^ c ^^^ c = b ^^^ c ^^^ c := congrArg (· ^^^ c) h
  rwa [BitVec.xor_assoc, BitVec.xor_assoc, BitVec.xor_self, BitVec.xor_zero,
    BitVec.xor_zero] at hadd

theorem shift_xor (a b : BitVec w) : shift poly (a ^^^ b) = shift poly a ^^^ shift poly b := by
  unfold shift
  rw [BitVec.getLsbD_xor, BitVec.ushiftRight_xor_distrib]
  cases a.getLsbD 0 <;> cases b.getLsbD 0
  · rfl
  · exact BitVec.xor_assoc _ _ _
  · show a >>> 1 ^^^ b >>> 1 ^^^ poly = a >>> 1 ^^^ poly ^^^ b >>> 1
    rw [BitVec.xor_assoc, BitVec.xor_assoc, BitVec.xor_comm poly]
  · exact (xor_cancel _ _ poly).symm

theorem iterate_shift_xor (n : Nat) (a b : BitVec w) :
    (shift poly)^[n] (a ^^^ b) = (shift poly)^[n] a ^^^ (shift poly)^[n] b := by
  induction n generalizing a b with
  | zero => rfl
  | succ n ih => rw [Function.iterate_succ_apply, shift_xor, ih, Function.iterate_succ_apply,
      Function.iterate_succ_apply]

theorem iterate_shift_clear {r : BitVec w} {n : Nat} (h : ∀ i < n, r.getLsbD i = false) :
    (shift poly)^[n] r = r >>> n := by
  induction n with
  | zero => rw [BitVec.ushiftRight_zero]; rfl
  | succ n ih =>
    have hlow : (r >>> n).getLsbD 0 = false := by
      rw [BitVec.getLsbD_ushiftRight]
      exact h n (Nat.lt_succ_self n)
    rw [Function.iterate_succ_apply', ih fun i hi => h i (by omega), shift, hlow,
      if_neg Bool.false_ne_true, BitVec.shiftRight_add]

/-! ## A byte at a time -/

/-- The low byte of a register. -/
def lowByte (r : BitVec w) : BitVec w := r &&& 255#w

theorem getLsbD_lowByte (r : BitVec w) (i : Nat) :
    (lowByte r).getLsbD i = (r.getLsbD i && decide (i < 8)) := by
  have hmask : (255 : Nat).testBit i = decide (i < 8) := Nat.testBit_two_pow_sub_one 8 i
  rw [lowByte, BitVec.getLsbD_and, BitVec.getLsbD_ofNat, hmask]
  by_cases hw : i < w
  · rw [decide_eq_true hw, Bool.true_and]
  · rw [BitVec.getLsbD_of_ge r i (by omega), Bool.false_and, Bool.false_and]

/-- **Eight shifts**: those of the low byte, and the rest of the register moved down. -/
theorem shift_iterate_byte (r : BitVec w) :
    (shift poly)^[8] r = (shift poly)^[8] (lowByte r) ^^^ (r >>> 8) := by
  have hsplit : r = lowByte r ^^^ (r ^^^ lowByte r) := by
    rw [BitVec.xor_comm r, ← BitVec.xor_assoc, BitVec.xor_self, BitVec.zero_xor]
  have hclear : ∀ i < 8, (r ^^^ lowByte r).getLsbD i = false := by
    intro i hi
    rw [BitVec.getLsbD_xor, getLsbD_lowByte, decide_eq_true hi, Bool.and_true, Bool.xor_self]
  have hhigh : lowByte r >>> 8 = 0#w := by
    apply BitVec.eq_of_getLsbD_eq
    intro i _
    rw [BitVec.getLsbD_ushiftRight, getLsbD_lowByte, decide_eq_false (by omega), Bool.and_false,
      BitVec.getLsbD_zero]
  conv_lhs => rw [hsplit]
  rw [iterate_shift_xor, iterate_shift_clear poly hclear, BitVec.ushiftRight_xor_distrib, hhigh,
    BitVec.xor_zero]

/-! ## Bits as a word -/

/-- The register that holds the bits, the first one lowest. -/
def word (w : Nat) : List Bool → BitVec w
  | [] => 0#w
  | d :: ds => lowBit w d ^^^ (word w ds <<< 1)

theorem getLsbD_lowBit (d : Bool) (i : Nat) :
    (lowBit w d).getLsbD i = (decide (i < w) && decide (i = 0) && d) := by
  cases d
  · rw [lowBit, if_neg Bool.false_ne_true, BitVec.getLsbD_zero, Bool.and_false]
  · rw [lowBit, if_pos rfl, Bool.and_true, BitVec.getLsbD_ofNat]
    cases i with
    | zero => rfl
    | succ i => rw [Nat.testBit_succ, decide_eq_false (Nat.succ_ne_zero i)]; simp

theorem getLsbD_word (bits : List Bool) (i : Nat) :
    (word w bits).getLsbD i = (decide (i < w) && bits.getD i false) := by
  induction bits generalizing i with
  | nil => simp [word]
  | cons d ds ih =>
    rw [word, BitVec.getLsbD_xor, getLsbD_lowBit, BitVec.getLsbD_shiftLeft, ih]
    cases i with
    | zero => simp
    | succ i => by_cases h : i + 1 < w <;> simp [h]; omega

theorem word_injective {a b : List Bool} (hlen : a.length = b.length) (ha : a.length ≤ w)
    (h : word w a = word w b) : a = b := by
  refine List.ext_getElem hlen fun i hi hi' => ?_
  have hw : i < w := by omega
  have hbit : (word w a).getLsbD i = (word w b).getLsbD i := by rw [h]
  rw [getLsbD_word, getLsbD_word, decide_eq_true hw] at hbit
  simpa [hi, hi'] using hbit

theorem feedBits_eq (r : BitVec w) (bits : List Bool) (h : bits.length ≤ w) :
    feedBits poly r bits = (shift poly)^[bits.length] (r ^^^ word w bits) := by
  induction bits generalizing r with
  | nil => exact (BitVec.xor_zero).symm
  | cons d ds ih =>
    rw [List.length_cons] at h
    have hmove : shift poly (word w ds <<< 1) = word w ds := by
      rw [shift, BitVec.getLsbD_shiftLeft, decide_eq_true Nat.zero_lt_one, Bool.not_true,
        Bool.and_false, Bool.false_and, if_neg Bool.false_ne_true]
      apply BitVec.eq_of_getLsbD_eq
      intro i hi
      rw [BitVec.getLsbD_ushiftRight, BitVec.getLsbD_shiftLeft, Nat.add_sub_cancel_left]
      by_cases hw : 1 + i < w
      · simp [hw]
      · -- the bit that the move loses is not one of the word
        have hout : ds[i]? = none := List.getElem?_eq_none (by omega)
        simp [hw, getLsbD_word, hout]
    have hfeed : feedBits poly r (d :: ds) = feedBits poly (feed poly r d) ds := rfl
    rw [hfeed, ih _ (by omega), List.length_cons, Function.iterate_succ_apply, feed, word,
      ← BitVec.xor_assoc, shift_xor poly (r ^^^ lowBit w d), hmove]

/-! ## Bursts -/

section Burst

variable {poly} (hpoly : poly.getLsbD (w - 1) = true)
include hpoly

/-- The shift loses nothing when the generator has a constant term. -/
theorem eq_zero_of_shift {r : BitVec w} (h : shift poly r = 0#w) : r = 0#w := by
  have hlow : r.getLsbD 0 = false := by
    by_contra hne
    rw [shift, if_pos (Bool.eq_false_or_eq_true _ |>.resolve_right hne)] at h
    have htop := congrArg (·.getLsbD (w - 1)) h
    have hpos : 0 < w := Nat.pos_of_ne_zero fun h0 => by
      rw [BitVec.getLsbD_of_ge poly _ (by omega)] at hpoly
      cases hpoly
    simp only [BitVec.getLsbD_xor, BitVec.getLsbD_ushiftRight, hpoly, BitVec.getLsbD_zero] at htop
    rw [BitVec.getLsbD_of_ge r _ (by omega)] at htop
    cases htop
  rw [shift, if_neg (by rw [hlow]; exact Bool.false_ne_true)] at h
  apply BitVec.eq_of_getLsbD_eq
  intro i _
  cases i with
  | zero => rw [hlow, BitVec.getLsbD_zero]
  | succ i =>
    have hbit := congrArg (·.getLsbD i) h
    simpa only [BitVec.getLsbD_ushiftRight, Nat.add_comm 1 i, BitVec.getLsbD_zero] using hbit

theorem shift_injective : Function.Injective (shift poly) := by
  intro a b h
  have hzero : shift poly (a ^^^ b) = 0#w := by rw [shift_xor, h, BitVec.xor_self]
  apply xor_right_injective b
  show a ^^^ b = b ^^^ b
  rw [BitVec.xor_self]
  exact eq_zero_of_shift hpoly hzero

theorem feedBits_injective (bits : List Bool) :
    Function.Injective fun r => feedBits poly r bits := by
  induction bits with
  | nil => exact Function.injective_id
  | cons d ds ih =>
    intro a b h
    have hfeed : feed poly a d = feed poly b d := ih h
    exact xor_right_injective _ (shift_injective hpoly hfeed)

/-- Different bits, no more of them than the register holds, leave different registers. -/
theorem feedBits_ne {u v : List Bool} (hlen : u.length = v.length) (hu : u.length ≤ w) (hne : u ≠ v)
    (r : BitVec w) : feedBits poly r u ≠ feedBits poly r v := by
  intro h
  rw [feedBits_eq poly r u hu, feedBits_eq poly r v (hlen ▸ hu), ← hlen] at h
  have hxor := (shift_injective hpoly).iterate _ h
  rw [BitVec.xor_comm r, BitVec.xor_comm r] at hxor
  exact hne (word_injective hlen hu (xor_right_injective r hxor))

/-- **A burst is seen**: messages of one length that differ, and only within `w` consecutive bits,
leave different registers. -/
theorem feedBits_ne_of_burst {a b : List Bool} (hlen : a.length = b.length) (hne : a ≠ b) {s : Nat}
    (hwindow : ∀ i, a[i]? ≠ b[i]? → s ≤ i ∧ i < s + w) (r : BitVec w) :
    feedBits poly r a ≠ feedBits poly r b := by
  have hsame : ∀ i, (i < s ∨ s + w ≤ i) → a[i]? = b[i]? := by
    intro i hi
    by_contra hdiff
    have := hwindow i hdiff
    omega
  have hbefore : a.take s = b.take s := by
    apply List.ext_getElem?
    intro i
    rw [List.getElem?_take, List.getElem?_take]
    split
    · exact hsame i (.inl ‹_›)
    · rfl
  have hbehind : (a.drop s).drop w = (b.drop s).drop w := by
    apply List.ext_getElem?
    intro i
    rw [List.drop_drop, List.drop_drop, List.getElem?_drop, List.getElem?_drop]
    exact hsame _ (.inr (by omega))
  have hinside : (a.drop s).take w ≠ (b.drop s).take w := by
    intro h
    apply hne
    rw [← List.take_append_drop s a, ← List.take_append_drop w (a.drop s), hbefore, h, hbehind,
      List.take_append_drop, List.take_append_drop]
  have ha : a = b.take s ++ ((a.drop s).take w ++ (b.drop s).drop w) := by
    rw [← hbefore, ← hbehind, List.take_append_drop, List.take_append_drop]
  have hb : b = b.take s ++ ((b.drop s).take w ++ (b.drop s).drop w) := by
    rw [List.take_append_drop, List.take_append_drop]
  have hread : ∀ p u q : List Bool,
      feedBits poly r (p ++ (u ++ q)) = feedBits poly (feedBits poly (feedBits poly r p) u) q :=
    fun p u q => by rw [feedBits_append, feedBits_append]
  have hregister := feedBits_ne hpoly (by simp [hlen]) (List.length_take_le _ _) hinside
    (feedBits poly r (b.take s))
  intro h
  apply hregister
  apply feedBits_injective hpoly ((b.drop s).drop w)
  show feedBits poly (feedBits poly (feedBits poly r (b.take s)) ((a.drop s).take w)) _ =
    feedBits poly (feedBits poly (feedBits poly r (b.take s)) ((b.drop s).take w)) _
  rw [← hread, ← hread, ← ha, ← hb, h]

end Burst

end Crc
