import KvsWebrtc.Common
import Mathlib.Tactic.IntervalCases

/-!
# Numbers in text (`String.c`)

`strtoui64` reads a number between two pointers: an optional sign, then digits up to the end, with
the overflow check of `unsignedSafeMultiplyAdd` at each digit.  `printU64` is what `%" PRIu64 "`
prints.

Principal results: `unsignedSafeMultiplyAdd_spec` (the overflow check is exact),
`strtoui64_printU64` (a printed number is read back), `strtoui32_digitText` (what is read of any
digits).
-/

namespace KvsWebrtc.Sdp

/-! ## The overflow check -/

/-- `multiplicand * multiplier + addend`, unless it overflows. -/
def unsignedSafeMultiplyAdd (multiplicand multiplier addend : UINT64) : Option UINT64 :=
  if multiplicand = 0 ∨ multiplier = 0 then some addend
  else
    let multiplicandLo := multiplicand &&& 0x00000000ffffffff
    let multiplicandHi := (multiplicand &&& 0xffffffff00000000) >>> 32
    let multiplierLo := multiplier &&& 0x00000000ffffffff
    let multiplierHi := (multiplier &&& 0xffffffff00000000) >>> 32
    if multiplicandHi ≠ 0 ∧ multiplierHi ≠ 0 then none
    else
      let intermediate := multiplicandHi * multiplierLo + multiplicandLo * multiplierHi
      if 0x00000000ffffffff < intermediate then none
      else
        let shifted := intermediate <<< 32
        let product := shifted + multiplicandLo * multiplierLo
        if product < shifted then none
        else
          let result := product + addend
          if result < product then none else some result

theorem toNat_lowHalf (x : UINT64) : (x &&& 0x00000000ffffffff).toNat = x.toNat % 2 ^ 32 := by
  rw [BitVec.toNat_and]
  exact Nat.and_two_pow_sub_one_eq_mod x.toNat 32

theorem toNat_highHalf (x : UINT64) :
    ((x &&& 0xffffffff00000000) >>> 32).toNat = x.toNat / 2 ^ 32 := by
  have hx := x.isLt
  have hmask : (0xffffffff00000000 : UINT64) >>> 32 = 0x00000000ffffffff := by decide
  rw [BitVec.ushiftRight_and_distrib, hmask, BitVec.toNat_and, BitVec.toNat_ushiftRight,
    Nat.shiftRight_eq_div_pow]
  rw [show (0x00000000ffffffff : UINT64).toNat = 2 ^ 32 - 1 from rfl,
    Nat.and_two_pow_sub_one_eq_mod]
  omega

/-- **The overflow check is exact** for a multiplier of at most 32 bits. -/
theorem unsignedSafeMultiplyAdd_spec {a b c : UINT64} (hb : b.toNat < 2 ^ 32) :
    unsignedSafeMultiplyAdd a b c =
      if a.toNat * b.toNat + c.toNat < 2 ^ 64 then
        some (BitVec.ofNat 64 (a.toNat * b.toNat + c.toNat))
      else none := by
  have hc := c.isLt
  unfold unsignedSafeMultiplyAdd
  by_cases hz : a = 0 ∨ b = 0
  · rw [if_pos hz]
    have hzero : a.toNat * b.toNat = 0 := by
      rcases hz with rfl | rfl <;> simp
    rw [hzero, Nat.zero_add, BitVec.ofNat_toNat, BitVec.setWidth_eq, if_pos hc]
  · rw [if_neg hz]
    have hbhi : (b &&& 0xffffffff00000000) >>> 32 = 0 := by
      apply BitVec.eq_of_toNat_eq
      rw [toNat_highHalf]
      exact Nat.div_eq_of_lt hb
    have hblo : b &&& 0x00000000ffffffff = b := by
      apply BitVec.eq_of_toNat_eq
      rw [toNat_lowHalf]
      exact Nat.mod_eq_of_lt hb
    have hsplit : a.toNat = 2 ^ 32 * (a.toNat / 2 ^ 32) + a.toNat % 2 ^ 32 :=
      (Nat.div_add_mod _ _).symm
    -- The two halves of the product, as numbers.
    have hexpand : a.toNat * b.toNat =
        2 ^ 32 * (a.toNat / 2 ^ 32 * b.toNat) + a.toNat % 2 ^ 32 * b.toNat := by
      conv_lhs => rw [hsplit]
      rw [Nat.add_mul, Nat.mul_assoc]
    have hhalf {x : Nat} (hx : x < 2 ^ 32) : x * b.toNat < 2 ^ 64 := by
      have hmul := Nat.mul_lt_mul'' hx hb
      omega
    have ha := a.isLt
    have hhi := hhalf (show a.toNat / 2 ^ 32 < 2 ^ 32 by omega)
    have hlo := hhalf (show a.toNat % 2 ^ 32 < 2 ^ 32 by omega)
    have hcross (x y : UINT64) : x + y * 0 = x := by simp
    simp only [hbhi, hblo, ne_eq, not_true_eq_false, and_false, if_false, hcross]
    have hI : ((a &&& 0xffffffff00000000) >>> 32 * b).toNat = a.toNat / 2 ^ 32 * b.toNat := by
      rw [BitVec.toNat_mul, toNat_highHalf, Nat.mod_eq_of_lt hhi]
    have hL : ((a &&& 0x00000000ffffffff) * b).toNat = a.toNat % 2 ^ 32 * b.toNat := by
      rw [BitVec.toNat_mul, toNat_lowHalf, Nat.mod_eq_of_lt hlo]
    have hcheck : (0x00000000ffffffff : UINT64) < (a &&& 0xffffffff00000000) >>> 32 * b ↔
        2 ^ 32 ≤ a.toNat / 2 ^ 32 * b.toNat := by
      rw [BitVec.lt_def, hI, show (0x00000000ffffffff : UINT64).toNat = 2 ^ 32 - 1 from rfl]
      omega
    by_cases hhigh : a.toNat / 2 ^ 32 * b.toNat < 2 ^ 32
    · rw [if_neg (by rw [hcheck]; omega)]
      have hS : (((a &&& 0xffffffff00000000) >>> 32 * b) <<< 32).toNat =
          2 ^ 32 * (a.toNat / 2 ^ 32 * b.toNat) := by
        rw [BitVec.toNat_shiftLeft, hI, Nat.shiftLeft_eq]
        omega
      have hP : (((a &&& 0xffffffff00000000) >>> 32 * b) <<< 32 +
          (a &&& 0x00000000ffffffff) * b).toNat = a.toNat * b.toNat % 2 ^ 64 := by
        rw [BitVec.toNat_add, hS, hL, hexpand]
      have hR : (((a &&& 0xffffffff00000000) >>> 32 * b) <<< 32 +
          (a &&& 0x00000000ffffffff) * b + c).toNat =
          (a.toNat * b.toNat % 2 ^ 64 + c.toNat) % 2 ^ 64 := by
        rw [BitVec.toNat_add, hP]
      -- a sum that wraps is less than what was added last
      by_cases hfit : a.toNat * b.toNat + c.toNat < 2 ^ 64
      · rw [if_neg (by rw [BitVec.lt_def, hP, hS]; omega),
          if_neg (by rw [BitVec.lt_def, hP, hR]; omega), if_pos hfit]
        refine congrArg some (BitVec.eq_of_toNat_eq ?_)
        rw [hR, BitVec.toNat_ofNat]
        omega
      · rw [if_neg hfit]
        by_cases hproduct : a.toNat * b.toNat < 2 ^ 64
        · rw [if_neg (by rw [BitVec.lt_def, hP, hS]; omega),
            if_pos (by rw [BitVec.lt_def, hP, hR]; omega)]
        · rw [if_pos (by rw [BitVec.lt_def, hP, hS]; omega)]
    · rw [if_pos (hcheck.mpr (by omega)), if_neg (by omega)]

/-! ## Reading -/

/-- The digit of a character, before the check against the base. -/
def digitOf (c : UINT8) : Option UINT64 :=
  if 48 ≤ c.toNat ∧ c.toNat ≤ 57 then some (BitVec.ofNat 64 (c.toNat - 48))
  else if 97 ≤ c.toNat ∧ c.toNat ≤ 122 then some (BitVec.ofNat 64 (c.toNat - 97 + 10))
  else if 65 ≤ c.toNat ∧ c.toNat ≤ 90 then some (BitVec.ofNat 64 (c.toNat - 65 + 10))
  else none

/-- The loop of `strtoint`. -/
def strtointLoop (base : UINT64) : Bytes → UINT64 → Option UINT64
  | [], result => some result
  | c :: s, result =>
    match digitOf c with
    | none => none
    | some digit =>
      if digit < base then
        match unsignedSafeMultiplyAdd result base digit with
        | none => none
        | some result => strtointLoop base s result
      else none

/-- `strtoint` from the start of `s` to `stop` characters behind it; the second part of the result
is the sign. -/
def strtoint (s : Bytes) (stop : Nat) (base : UINT64) : Option (UINT64 × Bool) :=
  let positive := s.head? ≠ some 45
  let pos := if s.head? = some 45 ∨ s.head? = some 43 then 1 else 0
  -- a sign at the very end carries the cursor past it, and then only the NUL stops the loop
  let digits := if pos ≤ stop then (s.take stop).drop pos else s.drop pos
  if digits = [] then none
  else
    match strtointLoop base digits 0 with
    | none => none
    | some result => some (if positive then result else -result, positive)

def strtoui64 (s : Bytes) (stop : Nat) (base : UINT64) : Option UINT64 :=
  match strtoint s stop base with
  | some (result, true) => some result
  | _ => none

def strtoui32 (s : Bytes) (stop : Nat) (base : UINT64) : Option UINT32 :=
  match strtoui64 s stop base with
  | some result => if result ≤ 0xffffffff then some (result.truncate 32) else none
  | none => none

/-! ## Printing -/

/-- A number in decimal, as `%" PRIu64 "` prints it. -/
def printU64 (v : UINT64) : Bytes :=
  (Nat.toDigits 10 v.toNat).map fun c => BitVec.ofNat 8 c.toNat

theorem length_printU64_le (v : UINT64) : (printU64 v).length ≤ 20 := by
  rw [printU64, List.length_map, Nat.length_toDigits_le_iff (by omega) (by omega)]
  have := v.isLt
  omega

theorem printU64_ne_nil (v : UINT64) : printU64 v ≠ [] := by
  simp [printU64, Nat.toDigits_ne_nil]

theorem digitOf_digitChar {d : Nat} (h : d < 10) :
    digitOf (BitVec.ofNat 8 (Nat.digitChar d).toNat) = some (BitVec.ofNat 64 d) := by
  interval_cases d <;> rfl

theorem mem_printU64 {v : UINT64} {c : UINT8} (h : c ∈ printU64 v) :
    48 ≤ c.toNat ∧ c.toNat ≤ 57 := by
  obtain ⟨x, hx, rfl⟩ := List.mem_map.mp h
  have hdigit := Nat.isDigit_of_mem_toDigits (by omega) (by omega) hx
  simp only [Char.isDigit, Bool.and_eq_true, decide_eq_true_eq] at hdigit
  have h1 : 48 ≤ x.toNat := hdigit.1
  have h2 : x.toNat ≤ 57 := hdigit.2
  rw [BitVec.toNat_ofNat]
  omega

theorem strtointLoop_append (base : UINT64) (s t : Bytes) (acc : UINT64) :
    strtointLoop base (s ++ t) acc = (strtointLoop base s acc).bind (strtointLoop base t) := by
  induction s generalizing acc with
  | nil => rfl
  | cons c s ih =>
    simp only [List.cons_append, strtointLoop]
    cases digitOf c with
    | none => rfl
    | some digit =>
      dsimp only
      split
      · cases unsignedSafeMultiplyAdd acc base digit with
        | none => rfl
        | some result => exact ih result
      · rfl

theorem strtointLoop_digit (acc : UINT64) {d : Nat} (hd : d < 10)
    (h : acc.toNat * 10 + d < 2 ^ 64) :
    strtointLoop 10 [BitVec.ofNat 8 (Nat.digitChar d).toNat] acc =
      some (BitVec.ofNat 64 (acc.toNat * 10 + d)) := by
  have hnum : (BitVec.ofNat 64 d).toNat = d := by
    rw [BitVec.toNat_ofNat]
    omega
  have hlt : BitVec.ofNat 64 d < 10 := by
    rw [BitVec.lt_def, hnum]
    exact hd
  have hstep := unsignedSafeMultiplyAdd_spec (a := acc) (b := 10) (c := BitVec.ofNat 64 d)
    (by decide)
  rw [hnum, show (10 : UINT64).toNat = 10 from rfl, if_pos h] at hstep
  simp only [strtointLoop, digitOf_digitChar hd, if_pos hlt, hstep]

theorem strtointLoop_toDigits (n : Nat) (h : n < 2 ^ 64) :
    strtointLoop 10 ((Nat.toDigits 10 n).map fun c => BitVec.ofNat 8 c.toNat) 0 =
      some (BitVec.ofNat 64 n) := by
  induction n using Nat.strongRecOn with
  | _ n ih =>
    rcases Nat.lt_or_ge n 10 with hlt | hge
    · rw [Nat.toDigits_of_lt_base hlt]
      simpa using strtointLoop_digit 0 hlt (by simpa using h)
    · have hn : (BitVec.ofNat 64 (n / 10)).toNat = n / 10 := by
        rw [BitVec.toNat_ofNat]
        omega
      rw [Nat.toDigits_of_base_le (by omega) hge, List.map_append, strtointLoop_append,
        ih (n / 10) (by omega) (by omega)]
      simp only [Option.bind_some, List.map_cons, List.map_nil]
      rw [strtointLoop_digit _ (Nat.mod_lt n (by omega)) (by rw [hn]; omega), hn,
        Nat.div_add_mod']

theorem strtoui64_unsigned {c : UINT8} {s rest : Bytes} (hc : 48 ≤ c.toNat) (base : UINT64) :
    strtoui64 (c :: s ++ rest) (c :: s).length base = strtointLoop base (c :: s) 0 := by
  have hminus : c ≠ 45 := by
    rintro rfl
    simp at hc
  have hplus : c ≠ 43 := by
    rintro rfl
    simp at hc
  have hpos : (if some c = some (45 : UINT8) ∨ some c = some 43 then 1 else 0) = 0 := by
    rw [if_neg]
    rintro (h | h)
    · exact hminus (Option.some.inj h)
    · exact hplus (Option.some.inj h)
  have hsign : (some c ≠ some (45 : UINT8)) = True :=
    eq_true fun h => hminus (Option.some.inj h)
  have hhead : (c :: s ++ rest).head? = some c := rfl
  unfold strtoui64 strtoint
  simp only [hhead, hpos, hsign, Nat.zero_le, if_true, List.drop_zero, List.take_left',
    if_neg (List.cons_ne_nil c s)]
  cases strtointLoop base (c :: s) 0 <;> rfl

/-- **A printed number is read back**, whatever follows it. -/
theorem strtoui64_printU64 (v : UINT64) (rest : Bytes) :
    strtoui64 (printU64 v ++ rest) (printU64 v).length 10 = some v := by
  obtain ⟨c, s, hs⟩ := List.exists_cons_of_ne_nil (printU64_ne_nil v)
  have hc := mem_printU64 (v := v) (c := c) (by rw [hs]; exact List.mem_cons_self)
  rw [hs, strtoui64_unsigned hc.1, ← hs]
  have hloop := strtointLoop_toDigits v.toNat v.isLt
  simpa [printU64] using hloop

/-! ## Digits -/

/-- A number in decimal, with any digits in front. -/
def digitText (ds : List (Fin 10)) : Bytes := ds.map fun d : Fin 10 => BitVec.ofNat 8 (48 + d.val)

/-- The number that the digits continue. -/
def decimalFrom (n : Nat) (ds : List (Fin 10)) : Nat :=
  ds.foldl (fun v (d : Fin 10) => v * 10 + d.val) n

def decimal (ds : List (Fin 10)) : Nat := decimalFrom 0 ds

theorem le_decimalFrom (n : Nat) (ds : List (Fin 10)) : n ≤ decimalFrom n ds := by
  induction ds generalizing n with
  | nil => exact Nat.le_refl n
  | cons d ds ih =>
    have hstep := ih (n * 10 + d)
    rw [decimalFrom, List.foldl_cons, ← decimalFrom]
    omega

theorem digitOf_digit :
    ∀ d : Fin 10, digitOf (BitVec.ofNat 8 (48 + d.val)) = some (BitVec.ofNat 64 d.val) := by
  decide

theorem strtointLoop_digitText (ds : List (Fin 10)) (acc : UINT64) :
    strtointLoop 10 (digitText ds) acc =
      if decimalFrom acc.toNat ds < 2 ^ 64 then some (BitVec.ofNat 64 (decimalFrom acc.toNat ds))
      else none := by
  induction ds generalizing acc with
  | nil => simp [digitText, strtointLoop, decimalFrom, acc.isLt]
  | cons d ds ih =>
    have hdigit := digitOf_digit d
    have hnum : (BitVec.ofNat 64 (d : Nat)).toNat = d := by
      rw [BitVec.toNat_ofNat]
      omega
    have hlt : BitVec.ofNat 64 (d : Nat) < 10 := by
      rw [BitVec.lt_def, hnum]
      exact d.isLt
    have hstep := unsignedSafeMultiplyAdd_spec (a := acc) (b := 10) (c := BitVec.ofNat 64 d)
      (by decide)
    rw [hnum, show (10 : UINT64).toNat = 10 from rfl] at hstep
    have hcons : decimalFrom acc.toNat (d :: ds) = decimalFrom (acc.toNat * 10 + d) ds := rfl
    have hle := le_decimalFrom (acc.toNat * 10 + d) ds
    rw [digitText, List.map_cons, ← digitText]
    simp only [strtointLoop, hdigit, if_pos hlt, hstep, hcons]
    by_cases hfit : acc.toNat * 10 + d < 2 ^ 64
    · rw [if_pos hfit]
      dsimp only
      rw [ih, BitVec.toNat_ofNat, Nat.mod_eq_of_lt hfit]
    · rw [if_neg hfit, if_neg (by omega)]

/-- **A decimal number of any length is read**, or is refused if it has more than 32 bits. -/
theorem strtoui32_digitText {ds : List (Fin 10)} (hne : ds ≠ []) (rest : Bytes) :
    strtoui32 (digitText ds ++ rest) ds.length 10 =
      if decimal ds < 2 ^ 32 then some (BitVec.ofNat 32 (decimal ds)) else none := by
  obtain ⟨d, ds, rfl⟩ := List.exists_cons_of_ne_nil hne
  have hc : 48 ≤ (BitVec.ofNat 8 (48 + (d : Nat))).toNat := by
    rw [BitVec.toNat_ofNat]
    omega
  have hread := @strtoui64_unsigned _ (digitText ds) rest hc 10
  have hcons : digitText (d :: ds) = BitVec.ofNat 8 (48 + (d : Nat)) :: digitText ds := rfl
  have hlen : (BitVec.ofNat 8 (48 + (d : Nat)) :: digitText ds).length = (d :: ds).length := by
    simp [digitText]
  rw [hlen, ← hcons, strtointLoop_digitText] at hread
  have hzero : decimalFrom (0 : UINT64).toNat (d :: ds) = decimal (d :: ds) := rfl
  rw [strtoui32, hread, hzero]
  by_cases h64 : decimal (d :: ds) < 2 ^ 64
  · rw [if_pos h64]
    have hle : BitVec.ofNat 64 (decimal (d :: ds)) ≤ 0xffffffff ↔ decimal (d :: ds) < 2 ^ 32 := by
      rw [BitVec.le_def, BitVec.toNat_ofNat, Nat.mod_eq_of_lt h64,
        show (0xffffffff : UINT64).toNat = 2 ^ 32 - 1 from rfl]
      omega
    simp only [hle]
    split
    · refine congrArg some (BitVec.eq_of_toNat_eq ?_)
      simp
    · rfl
  · rw [if_neg h64, if_neg (by omega)]

end KvsWebrtc.Sdp
