import Mathlib.Tactic.IntervalCases
import Mathlib.Data.Nat.Digits.Defs

/-!
# Internet addresses in text

`inet_pton4` and `inet_pton6` read an address as the C library does: four decimal numbers up to 255
without leading zeros, and groups of up to four hexadecimal digits, of which one run of zeros may be
left out as `::` and the last two may be written as an IPv4 address.  `printIpv4` and `printIpv6`
write every number of an address, `printIpv6` with capital letters and leading zeros.

Principal results: `inet_pton4_printIpv4`, `inet_pton6_printIpv6` (a printed address is read back),
`inet_pton4_eq_none` (a text with another character is no IPv4 address) and `length_of_inet_pton4`,
`length_of_inet_pton6` (how long an address can be).
-/

set_option autoImplicit false

namespace InternetAddress

abbrev Chars := List (BitVec 8)

/-! ## Reading -/

/-- The numbers before the last point, and the one behind it. -/
structure Ipv4Scan where
  octets : List Nat
  current : Option Nat
  deriving DecidableEq, Repr

/-- One character more. -/
def Ipv4Scan.next (s : Ipv4Scan) (c : BitVec 8) : Option Ipv4Scan :=
  if 48 ≤ c.toNat ∧ c.toNat ≤ 57 then
    let digit := c.toNat - 48
    match s.current with
    | none => if 4 ≤ s.octets.length then none else some { s with current := some digit }
    | some n =>
      if n = 0 ∨ 255 < 10 * n + digit then none
      else some { s with current := some (10 * n + digit) }
  else if c = 46 then
    match s.current with
    | none => none
    | some n => if 3 ≤ s.octets.length then none else some ⟨s.octets ++ [n], none⟩
  else none

def inet_pton4 (s : Chars) : Option (List (BitVec 8)) :=
  match s.foldlM Ipv4Scan.next ⟨[], none⟩ with
  | some ⟨octets, some n⟩ =>
    if octets.length = 3 then some ((octets ++ [n]).map (BitVec.ofNat 8)) else none
  | _ => none

def hexValue (c : BitVec 8) : Option Nat :=
  if 48 ≤ c.toNat ∧ c.toNat ≤ 57 then some (c.toNat - 48)
  else if 65 ≤ c.toNat ∧ c.toNat ≤ 70 then some (c.toNat - 55)
  else if 97 ≤ c.toNat ∧ c.toNat ≤ 102 then some (c.toNat - 87)
  else none

/-- The bytes that were read, where `::` stood, and the value and the number of the digits of the
group that is being read. -/
structure Ipv6Scan where
  out : List (BitVec 8)
  colon : Option Nat
  val : Nat
  seen : Nat
  deriving DecidableEq, Repr

/-- The two bytes of a group. -/
def groupBytes (val : Nat) : List (BitVec 8) := [BitVec.ofNat 8 (val / 256), BitVec.ofNat 8 val]

/-- `curtok` is the text from the beginning of the group on. -/
def inet_pton6Loop (curtok : Chars) : Chars → Ipv6Scan → Option Ipv6Scan
  | [], s => some s
  | ch :: src, s =>
    match hexValue ch with
    | some digit =>
      if s.seen = 4 then none
      else inet_pton6Loop curtok src { s with val := 16 * s.val + digit, seen := s.seen + 1 }
    | none =>
      if ch = 58 then
        if s.seen = 0 then
          if s.colon.isSome then none
          else inet_pton6Loop src src { s with colon := some s.out.length }
        else if src = [] ∨ 16 < s.out.length + 2 then none
        else inet_pton6Loop src src
          { s with out := s.out ++ groupBytes s.val, val := 0, seen := 0 }
      else if ch = 46 ∧ s.out.length + 4 ≤ 16 then
        match inet_pton4 curtok with
        | none => none
        | some b => some { s with out := s.out ++ b, seen := 0 }
      else none

/-- The last group, and the zeros for `::`. -/
def finishIpv6 (s : Ipv6Scan) : Option (List (BitVec 8)) :=
  if 0 < s.seen ∧ 16 < s.out.length + 2 then none
  else
    let out := if 0 < s.seen then s.out ++ groupBytes s.val else s.out
    match s.colon with
    | none => if out.length = 16 then some out else none
    | some k =>
      if out.length = 16 then none
      else some (out.take k ++ List.replicate (16 - out.length) 0 ++ out.drop k)

/-- A colon at the beginning is the first of two. -/
def inet_pton6 (s : Chars) : Option (List (BitVec 8)) :=
  if s.head? = some 58 then
    if s.tail.head? = some 58 then
      (inet_pton6Loop s.tail s.tail ⟨[], none, 0, 0⟩).bind finishIpv6
    else none
  else (inet_pton6Loop s s ⟨[], none, 0, 0⟩).bind finishIpv6

/-! ## Printing -/

def printDecimal (n : Nat) : Chars := (Nat.toDigits 10 n).map fun c => BitVec.ofNat 8 c.toNat

/-- `%d.%d.%d.%d`. -/
def printIpv4 (a b c d : BitVec 8) : Chars :=
  printDecimal a.toNat ++ 46 :: (printDecimal b.toNat ++ 46 :: (printDecimal c.toNat ++
    46 :: printDecimal d.toNat))

def hexDigit (n : Nat) : BitVec 8 := BitVec.ofNat 8 (if n < 10 then 48 + n else 55 + n)

/-- `%02X`. -/
def printHexByte (b : BitVec 8) : Chars := [hexDigit (b.toNat / 16), hexDigit (b.toNat % 16)]

/-- The groups with colons between them. -/
def printIpv6 : List (BitVec 8) → Chars
  | [] => []
  | [_] => []
  | [a, b] => printHexByte a ++ printHexByte b
  | a :: b :: c :: rest => printHexByte a ++ printHexByte b ++ 58 :: printIpv6 (c :: rest)

/-! ## IPv4 -/

theorem mem_of_scan {text : Chars} {s s' : Ipv4Scan} (h : text.foldlM Ipv4Scan.next s = some s') :
    ∀ c ∈ text, (48 ≤ c.toNat ∧ c.toNat ≤ 57) ∨ c = 46 := by
  induction text generalizing s with
  | nil => simp
  | cons c text ih =>
    rw [List.foldlM_cons] at h
    obtain ⟨s₁, hc, hrest⟩ := Option.bind_eq_some_iff.mp h
    intro d hd
    rcases List.mem_cons.mp hd with rfl | hd
    · by_cases hdigit : 48 ≤ d.toNat ∧ d.toNat ≤ 57
      · exact .inl hdigit
      · unfold Ipv4Scan.next at hc
        rw [if_neg hdigit] at hc
        by_cases hpoint : d = 46
        · exact .inr hpoint
        · rw [if_neg hpoint] at hc
          cases hc
    · exact ih hrest d hd

/-- **Only digits and points make an IPv4 address.** -/
theorem inet_pton4_eq_none {text : Chars} {c : BitVec 8} (hc : c ∈ text)
    (hdigit : ¬(48 ≤ c.toNat ∧ c.toNat ≤ 57)) (hpoint : c ≠ 46) : inet_pton4 text = none := by
  unfold inet_pton4
  cases h : text.foldlM Ipv4Scan.next ⟨[], none⟩ with
  | none => rfl
  | some s =>
    rcases mem_of_scan h c hc with h | h
    · exact absurd h hdigit
    · exact absurd h hpoint

theorem next_digit {octets : List Nat} {current : Option Nat} {d : Nat} (hd : d < 10) :
    Ipv4Scan.next ⟨octets, current⟩ (BitVec.ofNat 8 (Nat.digitChar d).toNat) =
      match current with
      | none => if 4 ≤ octets.length then none else some ⟨octets, some d⟩
      | some n =>
        if n = 0 ∨ 255 < 10 * n + d then none else some ⟨octets, some (10 * n + d)⟩ := by
  interval_cases d <;> rfl

theorem scan_printDecimal {octets : List Nat} (hroom : octets.length < 4) {n : Nat} (hn : n < 256) :
    (printDecimal n).foldlM Ipv4Scan.next ⟨octets, none⟩ = some ⟨octets, some n⟩ := by
  unfold printDecimal
  induction n using Nat.strongRecOn with
  | _ n ih =>
    rcases Nat.lt_or_ge n 10 with hlt | hge
    · rw [Nat.toDigits_of_lt_base hlt, List.map_singleton, List.foldlM_cons, next_digit hlt]
      rw [if_neg (by omega)]
      rfl
    · rw [Nat.toDigits_of_base_le (by omega) hge, List.map_append, List.foldlM_append,
        ih (n / 10) (by omega) (by omega)]
      simp only [List.map_singleton, List.foldlM_cons, List.foldlM_nil, Option.bind_eq_bind,
        Option.bind_some]
      rw [next_digit (Nat.mod_lt n (by omega))]
      dsimp only
      rw [if_neg (by omega), Nat.div_add_mod]
      rfl

theorem scan_octet {octets : List Nat} (hroom : octets.length < 3) (a : BitVec 8) (rest : Chars) :
    (printDecimal a.toNat ++ 46 :: rest).foldlM Ipv4Scan.next ⟨octets, none⟩ =
      rest.foldlM Ipv4Scan.next ⟨octets ++ [a.toNat], none⟩ := by
  have hpoint : Ipv4Scan.next ⟨octets, some a.toNat⟩ 46 = some ⟨octets ++ [a.toNat], none⟩ := by
    unfold Ipv4Scan.next
    rw [if_neg (by decide), if_pos rfl]
    dsimp only
    rw [if_neg (by omega)]
  rw [List.foldlM_append, scan_printDecimal (by omega) a.isLt]
  simp only [Option.bind_eq_bind, Option.bind_some, List.foldlM_cons, hpoint]

/-- **A printed IPv4 address is read back.** -/
theorem inet_pton4_printIpv4 (a b c d : BitVec 8) :
    inet_pton4 (printIpv4 a b c d) = some [a, b, c, d] := by
  unfold inet_pton4 printIpv4
  rw [scan_octet (by simp), scan_octet (by simp), scan_octet (by simp),
    scan_printDecimal (by simp) d.isLt]
  simp [BitVec.ofNat_toNat]

/-- The characters of a number up to 255 without leading zeros, at least. -/
def digitsOf (n : Nat) : Nat := if n < 10 then 1 else if n < 100 then 2 else 3

/-- At most this many characters lead to a state. -/
def Ipv4Scan.characters (s : Ipv4Scan) : Nat :=
  4 * s.octets.length + (s.current.map digitsOf).getD 0

theorem digitsOf_push {n d : Nat} (hzero : n ≠ 0) (h : 10 * n + d ≤ 255) :
    digitsOf n + 1 ≤ digitsOf (10 * n + d) := by
  unfold digitsOf
  by_cases hn : n < 10
  · rw [if_pos hn, if_neg (by omega)]
    split <;> omega
  · rw [if_neg hn, if_pos (by omega), if_neg (by omega), if_neg (by omega)]

theorem characters_next {s s' : Ipv4Scan} {c : BitVec 8} (h : s.next c = some s') :
    s.characters + 1 ≤ s'.characters ∨ (s.characters ≤ 4 * s.octets.length + 3 ∧
      s'.characters = 4 * s.octets.length + 4) := by
  obtain ⟨octets, current⟩ := s
  unfold Ipv4Scan.next at h
  split at h
  · cases current with
    | none =>
      dsimp only at h
      split at h
      · cases h
      · cases h
        left
        simp only [Ipv4Scan.characters, Option.map_none, Option.map_some, Option.getD_none,
          Option.getD_some]
        have : 1 ≤ digitsOf (c.toNat - 48) := by
          unfold digitsOf
          split <;> (try split) <;> omega
        omega
    | some n =>
      dsimp only at h
      split at h
      · cases h
      · next hok =>
        cases h
        left
        simp only [Ipv4Scan.characters, Option.map_some, Option.getD_some]
        have := digitsOf_push (n := n) (d := c.toNat - 48) (by omega) (by omega)
        omega
  · split at h
    · cases current with
      | none => cases h
      | some n =>
        dsimp only at h
        split at h
        · cases h
        · cases h
          right
          have : digitsOf n ≤ 3 := by
            unfold digitsOf
            split <;> (try split) <;> omega
          simp only [Ipv4Scan.characters, Option.map_some, Option.map_none, Option.getD_some,
            Option.getD_none, List.length_append, List.length_cons, List.length_nil]
          omega
    · cases h

theorem length_le_of_scan {text : Chars} {s s' : Ipv4Scan}
    (h : text.foldlM Ipv4Scan.next s = some s') :
    s.characters + text.length ≤ s'.characters := by
  induction text generalizing s with
  | nil =>
    cases h
    simp
  | cons c text ih =>
    rw [List.foldlM_cons] at h
    obtain ⟨s₁, hc, hrest⟩ := Option.bind_eq_some_iff.mp h
    have hstep := characters_next hc
    have := ih hrest
    rw [List.length_cons]
    omega

/-- **An IPv4 address has at most 15 characters**, and 4 bytes. -/
theorem length_of_inet_pton4 {text : Chars} {bytes : List (BitVec 8)}
    (h : inet_pton4 text = some bytes) : text.length ≤ 15 ∧ bytes.length = 4 := by
  unfold inet_pton4 at h
  split at h
  · next octets n hscan =>
    split at h
    · next hthree =>
      cases h
      have hle := length_le_of_scan hscan
      have : digitsOf n ≤ 3 := by
        unfold digitsOf
        split <;> (try split) <;> omega
      simp only [Ipv4Scan.characters, List.length_nil, Option.map_none, Option.map_some,
        Option.getD_none, Option.getD_some] at hle
      simp only [List.length_map, List.length_append, List.length_cons, List.length_nil]
      omega
    · cases h
  · cases h

/-! ## IPv6 -/

/-- Groups have at most four digits and a colon, and one colon more stands in `::`; `k` counts the
characters before the group that is being read. -/
theorem length_le_of_loop {src curtok : Chars} {s : Ipv6Scan} {k : Nat} {bytes : List (BitVec 8)}
    (hbefore : k ≤ 5 * (s.out.length / 2) + if s.colon.isSome then 2 else 0)
    (heven : s.out.length % 2 = 0) (hout : s.out.length ≤ 16) (hseen : s.seen ≤ 4)
    (hcurtok : curtok.length = s.seen + src.length)
    (h : (inet_pton6Loop curtok src s).bind finishIpv6 = some bytes) :
    k + curtok.length ≤ 45 := by
  induction src generalizing curtok s k with
  | nil =>
    have hcolon : (if s.colon.isSome then 2 else 0) ≤ 2 := by split <;> omega
    rw [inet_pton6Loop, Option.bind_some, finishIpv6] at h
    split at h
    · cases h
    · simp only [List.length_nil] at hcurtok
      omega
  | cons ch src ih =>
    rw [List.length_cons] at hcurtok
    rw [inet_pton6Loop] at h
    split at h
    · next digit hdigit =>
      split at h
      · cases h
      · next hfour =>
        refine ih (s := { s with val := 16 * s.val + digit, seen := s.seen + 1 }) hbefore heven hout
          ?_ ?_ h
        · change s.seen + 1 ≤ 4
          omega
        · change curtok.length = s.seen + 1 + src.length
          omega
    · split at h
      · split at h
        · next hzero =>
          split at h
          · cases h
          · next hnone =>
            rw [if_neg hnone] at hbefore
            have hk : k + 1 ≤ 5 * (s.out.length / 2) + 2 := by omega
            have hle := ih (s := { s with colon := some s.out.length }) hk heven hout hseen
              (by rw [hzero, Nat.zero_add]) h
            omega
        · split at h
          · cases h
          · next hroom =>
            have hlen : (s.out ++ groupBytes s.val).length = s.out.length + 2 := by
              simp [groupBytes]
            have hk : k + s.seen + 1 ≤ 5 * ((s.out ++ groupBytes s.val).length / 2) +
                if s.colon.isSome then 2 else 0 := by
              rw [hlen]
              omega
            have hle := ih (s := { s with out := s.out ++ groupBytes s.val, val := 0, seen := 0 })
              hk (by rw [hlen]; omega) (by rw [hlen]; omega) (Nat.zero_le 4)
              (Nat.zero_add _).symm h
            omega
      · split at h
        · next hdot =>
          split at h
          · cases h
          · next b hb =>
            obtain ⟨hshort, hfour⟩ := length_of_inet_pton4 hb
            cases hcolon : s.colon with
            | none =>
              rw [hcolon] at hbefore
              simp only [Option.isSome_none, Bool.false_eq_true, if_false] at hbefore
              omega
            | some n =>
              -- the zeros of `::` need room, so two groups fewer can stand before the point
              have hlen : (s.out ++ b).length = s.out.length + 4 := by simp [hfour]
              have hfree : (s.out ++ b).length ≠ 16 := by
                intro hfull
                rw [Option.bind_some, finishIpv6, hcolon] at h
                simp [hfull] at h
              rw [hcolon] at hbefore
              simp only [Option.isSome_some, if_true] at hbefore
              omega
        · cases h

/-- **An IPv6 address has at most 45 characters.** -/
theorem length_of_inet_pton6 {text : Chars} {bytes : List (BitVec 8)}
    (h : inet_pton6 text = some bytes) : text.length ≤ 45 := by
  unfold inet_pton6 at h
  split at h
  · split at h
    · next hhead htail =>
      rcases text with _ | ⟨c, _ | ⟨d, rest⟩⟩
      · simp at hhead
      · simp at htail
      · obtain rfl : d = 58 := by simpa using htail
        rw [List.tail_cons, inet_pton6Loop] at h
        simp only [show hexValue 58 = none from rfl, if_true, Option.isSome_none,
          Bool.false_eq_true, if_false, List.length_nil] at h
        have := length_le_of_loop (k := 2) (by simp) (by simp) (by simp) (by simp) (by simp) h
        simp only [List.length_cons]
        omega
    · cases h
  · have := length_le_of_loop (k := 0) (by simp) (by simp) (by simp) (by simp) (by simp) h
    omega

theorem hexValue_hexDigit {n : Nat} (h : n < 16) : hexValue (hexDigit n) = some n := by
  interval_cases n <;> rfl

theorem hexDigit_ne_colon {n : Nat} (h : n < 16) : hexDigit n ≠ 58 := by
  interval_cases n <;> decide

theorem loop_digit {curtok rest : Chars} {s : Ipv6Scan} {n : Nat} (h : n < 16) (hseen : s.seen < 4) :
    inet_pton6Loop curtok (hexDigit n :: rest) s =
      inet_pton6Loop curtok rest { s with val := 16 * s.val + n, seen := s.seen + 1 } := by
  rw [inet_pton6Loop, hexValue_hexDigit h]
  dsimp only
  rw [if_neg (by omega)]

theorem loop_group {curtok rest : Chars} {out : List (BitVec 8)} (a b : BitVec 8) :
    inet_pton6Loop curtok (printHexByte a ++ printHexByte b ++ rest) ⟨out, none, 0, 0⟩ =
      inet_pton6Loop curtok rest ⟨out, none, 256 * a.toNat + b.toNat, 4⟩ := by
  have ha := a.isLt
  have hb := b.isLt
  simp only [printHexByte, List.cons_append, List.nil_append]
  rw [loop_digit (by omega) (by simp), loop_digit (by omega) (by simp),
    loop_digit (by omega) (by simp), loop_digit (by omega) (by simp)]
  dsimp only
  congr 2
  omega

theorem groupBytes_eq (a b : BitVec 8) : groupBytes (256 * a.toNat + b.toNat) = [a, b] := by
  have ha := a.isLt
  have hb := b.isLt
  unfold groupBytes
  congr 1
  · apply BitVec.eq_of_toNat_eq
    rw [BitVec.toNat_ofNat]
    omega
  · congr 1
    apply BitVec.eq_of_toNat_eq
    rw [BitVec.toNat_ofNat]
    omega

theorem loop_printIpv6 (bytes : List (BitVec 8)) (curtok : Chars) {out : List (BitVec 8)}
    (hlen : out.length + bytes.length = 16) (heven : bytes.length % 2 = 0) (hne : bytes ≠ []) :
    ∃ front val, front.length = 14 ∧ front ++ groupBytes val = out ++ bytes ∧
      inet_pton6Loop curtok (printIpv6 bytes) ⟨out, none, 0, 0⟩ = some ⟨front, none, val, 4⟩ := by
  induction bytes using printIpv6.induct generalizing curtok out with
  | case1 => exact absurd rfl hne
  | case2 a => simp at heven
  | case3 a b =>
    refine ⟨out, 256 * a.toNat + b.toNat, by simpa using hlen, by rw [groupBytes_eq], ?_⟩
    have hgroup : inet_pton6Loop curtok (printHexByte a ++ printHexByte b ++ []) ⟨out, none, 0, 0⟩ =
        inet_pton6Loop curtok [] ⟨out, none, 256 * a.toNat + b.toNat, 4⟩ := loop_group a b
    rw [List.append_nil] at hgroup
    rw [printIpv6, hgroup]
    rfl
  | case4 a b c rest ih =>
    simp only [List.length_cons] at hlen heven
    have hrestLen : (out ++ [a, b]).length + (c :: rest).length = 16 := by
      simp only [List.length_append, List.length_cons, List.length_nil]
      omega
    have hrestEven : (c :: rest).length % 2 = 0 := by
      simp only [List.length_cons]
      omega
    obtain ⟨front, val, hfront, heq, hloop⟩ := ih (printIpv6 (c :: rest)) hrestLen hrestEven
      (by simp)
    refine ⟨front, val, hfront, by rw [heq]; simp, ?_⟩
    have hrest : printIpv6 (c :: rest) ≠ [] := by
      intro hnil
      rcases rest with _ | ⟨d, rest⟩
      · simp at heven
      · cases rest <;> simp [printIpv6, printHexByte] at hnil
    rw [printIpv6, loop_group, inet_pton6Loop]
    simp only [show hexValue 58 = none from rfl, if_true, hrest, false_or]
    rw [if_neg (by simp), if_neg (by omega), groupBytes_eq]
    exact hloop

/-- **A printed IPv6 address is read back.** -/
theorem inet_pton6_printIpv6 {bytes : List (BitVec 8)} (h : bytes.length = 16) :
    inet_pton6 (printIpv6 bytes) = some bytes := by
  have hne : bytes ≠ [] := by
    rintro rfl
    simp at h
  have hlen : ([] : List (BitVec 8)).length + bytes.length = 16 := by simpa using h
  obtain ⟨front, val, hfront, heq, hloop⟩ :=
    loop_printIpv6 bytes (printIpv6 bytes) hlen (by omega) hne
  have hhead : (printIpv6 bytes).head? ≠ some 58 := by
    rcases bytes with _ | ⟨a, _ | ⟨b, rest⟩⟩
    · simp at h
    · simp at h
    · have ha := a.isLt
      rcases rest with _ | ⟨c, rest⟩
      · exact fun hcolon => hexDigit_ne_colon (by omega) (Option.some.inj hcolon)
      · exact fun hcolon => hexDigit_ne_colon (by omega) (Option.some.inj hcolon)
  unfold inet_pton6
  rw [if_neg hhead, hloop, Option.bind_some, finishIpv6]
  dsimp only
  rw [if_neg (by omega), if_pos (show 0 < 4 by omega), heq, List.nil_append, if_pos h]

theorem colon_mem_printIpv6 {bytes : List (BitVec 8)} (h : 2 < bytes.length) :
    58 ∈ printIpv6 bytes := by
  rcases bytes with _ | ⟨a, _ | ⟨b, _ | ⟨c, rest⟩⟩⟩
  · simp at h
  · simp at h
  · simp at h
  · simp [printIpv6]

end InternetAddress
