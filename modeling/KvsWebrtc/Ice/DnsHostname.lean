import KvsWebrtc.Common
import Mathlib.Data.List.TakeWhile

/-!
# Addresses in host names (`Network.c`)

The host name of a TURN server begins with its address: `35-90-63-38` before the first point, or in
the dual-stack form the IPv4 address before an underscore and the IPv6 address between it and the
point.  Two loops copy these characters into buffers; one of them lets the index reach the size of
the buffer before it stops, and both put the NUL behind what they copied without another check.  A
dual-stack name without an underscore takes the remaining length below zero.

A write is the byte and its offset in the buffer.

Principal results:

* `copyPart_spec` — what one of the dual-stack loops does with a part of the name;
* `single_good_iff`, `dual_good_iff` — the names whose address is extracted safely and exactly.
-/

namespace KvsWebrtc.Ice.Dns

inductive STATUS where
  | INVALID_ARG
  | INVALID_ADDRESS_LENGTH
  deriving DecidableEq, Repr

abbrev MAX_ICE_CONFIG_URI_LEN : Nat := 127

/-- A host name of `lengthSrc` characters, and the memory behind its NUL. -/
structure Hostname where
  chars : Bytes
  behind : Nat → UINT8
  noNul : ∀ c ∈ chars, c ≠ 0
  nonempty : chars ≠ []
  short : chars.length < MAX_ICE_CONFIG_URI_LEN

/-- `hostname[i]`. -/
def Hostname.read (h : Hostname) (i : Nat) : UINT8 :=
  match h.chars[i]? with
  | some c => c
  | none => if i = h.chars.length then 0 else h.behind (i - h.chars.length - 1)

/-- The size of a buffer. -/
structure Size where
  size : UINT16
  pos : 0 < size.toNat

abbrev Write := UINT8 × Nat

def isDigit (c : UINT8) : Bool := 48 ≤ c.toNat && c.toNat ≤ 57

def isHexDigit (c : UINT8) : Bool :=
  isDigit c || (97 ≤ c.toNat && c.toNat ≤ 102) || (65 ≤ c.toNat && c.toNat ≤ 70)

/-! ## IPv4 only -/

/-- What a loop read and wrote, where it left off and with which status. -/
structure Copied where
  reads : List Nat
  writes : List Write
  i : UINT8
  j : UINT8
  left : Nat
  status : Option STATUS
  deriving DecidableEq, Repr

/-- A round that reads at `i` and writes `c` at `j` before the rest. -/
def Copied.after (i j c : UINT8) (rest : Copied) : Copied :=
  { rest with reads := i.toNat :: rest.reads, writes := (c, j.toNat) :: rest.writes }

/-- The loop of `getIpAddrFromDnsHostname`; the first argument is `hostNameLen`.  An unexpected
character ends it without an error. -/
def copyAddress (h : Hostname) (maxLenDst : UINT16) : Nat → UINT8 → UINT8 → Copied
  | 0, i, j => ⟨[], [], i, j, 0, none⟩
  | n + 1, i, j =>
    let c := h.read i.toNat
    if c = 46 then ⟨[i.toNat], [], i, j, n + 1, none⟩
    else if isDigit c then
      if maxLenDst.toNat < j.toNat then
        ⟨[i.toNat], [], i, j, n + 1, some .INVALID_ADDRESS_LENGTH⟩
      else (copyAddress h maxLenDst n (i + 1) (j + 1)).after i j c
    else if c = 45 then
      if maxLenDst.toNat < j.toNat then
        ⟨[i.toNat], [], i, j, n + 1, some .INVALID_ADDRESS_LENGTH⟩
      else (copyAddress h maxLenDst n (i + 1) (j + 1)).after i j 46
    else ⟨[i.toNat], [], i, j, n + 1, none⟩

/-- The offsets read, the writes to the buffer and the status. -/
structure Extracted where
  reads : List Nat
  writes : List Write
  status : Option STATUS
  deriving DecidableEq, Repr

def getIpAddrFromDnsHostname (h : Hostname) (maxLenDst : Size) : Extracted :=
  let r := copyAddress h maxLenDst.size h.chars.length 0 0
  ⟨r.reads, r.writes ++ [(0, r.j.toNat)], r.status⟩

/-! ## Dual stack -/

/-- A loop of `getDualStackIpAddrFromDnsHostname`; the fourth argument is `hostNameLen`. -/
def copyPart (h : Hostname) (stop replacement : UINT8) (accepts : UINT8 → Bool) (maxLenDst : UINT16) :
    Nat → UINT8 → UINT8 → Copied
  | 0, i, j => ⟨[], [], i, j, 0, none⟩
  | n + 1, i, j =>
    let c := h.read i.toNat
    if c = stop then ⟨[i.toNat], [], i, j, n + 1, none⟩
    else if maxLenDst.toNat ≤ j.toNat then
      ⟨[i.toNat], [], i, j, n + 1, some .INVALID_ADDRESS_LENGTH⟩
    else if accepts c then
      (copyPart h stop replacement accepts maxLenDst n (i + 1) (j + 1)).after i j c
    else if c = 45 then
      (copyPart h stop replacement accepts maxLenDst n (i + 1) (j + 1)).after i j replacement
    else ⟨[i.toNat], [], i, j, n + 1, some .INVALID_ARG⟩

/-- The two parts. -/
def copyIpv4 (h : Hostname) (maxLenV4Dst : UINT16) : Nat → UINT8 → UINT8 → Copied :=
  copyPart h 95 46 isDigit maxLenV4Dst

def copyIpv6 (h : Hostname) (maxLenV6Dst : UINT16) : Nat → UINT8 → UINT8 → Copied :=
  copyPart h 46 58 isHexDigit maxLenV6Dst

structure DualExtracted where
  reads : List Nat
  ipv4Writes : List Write
  ipv6Writes : List Write
  status : Option STATUS
  deriving DecidableEq, Repr

/-- On an error both buffers become empty. -/
def getDualStackIpAddrFromDnsHostname (h : Hostname) (maxLenV4Dst maxLenV6Dst : Size) :
    DualExtracted :=
  let v4 := copyIpv4 h maxLenV4Dst.size h.chars.length 0 0
  match v4.status with
  | some e => ⟨v4.reads, v4.writes ++ [(0, 0)], [(0, 0)], some e⟩
  | none =>
    -- `hostNameLen` has 16 bits
    let left := ((BitVec.ofNat 16 v4.left : UINT16) - 1).toNat
    let v6 := copyIpv6 h maxLenV6Dst.size left (v4.i + 1) 0
    let ipv4Writes := v4.writes ++ [(0, v4.j.toNat)]
    match v6.status with
    | some e =>
      ⟨v4.reads ++ v6.reads, ipv4Writes ++ [(0, 0)], v6.writes ++ [(0, 0)], some e⟩
    | none => ⟨v4.reads ++ v6.reads, ipv4Writes, v6.writes ++ [(0, v6.j.toNat)], none⟩

/-! ## One part of a name -/

/-- A character of an address. -/
def Accepted (accepts : UINT8 → Bool) (c : UINT8) : Prop := accepts c = true ∨ c = 45

/-- What is written of it. -/
def translate (replacement c : UINT8) : UINT8 := if c = 45 then replacement else c

/-- The characters before `stop`. -/
def partBefore (stop : UINT8) (s : Bytes) : Bytes := s.takeWhile (· ≠ stop)

/-- A text and its NUL, from the beginning of the buffer on. -/
def stringWrites (text : Bytes) : List Write := (text ++ [0]).zipIdx

section

variable {h : Hostname} {maxLenDst : UINT16} {i j : UINT8}

theorem toNat_succ {x : UINT8} (hx : x.toNat + 1 < 256) : (x + 1).toNat = x.toNat + 1 := by
  rw [BitVec.toNat_add]
  exact Nat.mod_eq_of_lt hx

theorem read_tail {c : UINT8} {s : Bytes} (hi : i.toNat + (c :: s).length < 256)
    (hread : ∀ k d, (c :: s)[k]? = some d → h.read (i.toNat + k) = d) :
    ∀ k d, s[k]? = some d → h.read ((i + 1).toNat + k) = d := by
  intro k d hd
  rw [toNat_succ (by rw [List.length_cons] at hi; omega), Nat.add_assoc, Nat.add_comm 1 k]
  exact hread (k + 1) d hd

theorem partBefore_cons {stop c : UINT8} {s : Bytes} (hc : c ≠ stop) :
    partBefore stop (c :: s) = c :: partBefore stop s := by
  unfold partBefore
  rw [List.takeWhile_cons, if_pos (by simpa using hc)]

theorem partBefore_stop {stop : UINT8} {s : Bytes} : partBefore stop (stop :: s) = [] := by
  simp [partBefore]

/-- What a loop does with a part of the name that fits. -/
structure CopiedWhole (r : Copied) (part text : Bytes) (i j : UINT8) (n : Nat) : Prop where
  status : r.status = none
  writes : r.writes = text.zipIdx j.toNat
  index : r.i.toNat = i.toNat + part.length
  offset : r.j.toNat = j.toNat + part.length
  left : r.left = n - part.length

theorem CopiedWhole.after {r : Copied} {part text : Bytes} {n : Nat} {c d : UINT8}
    (hr : CopiedWhole r part text (i + 1) (j + 1) n) (hi : i.toNat + 1 < 256)
    (hj : j.toNat + 1 < 256) : CopiedWhole (r.after i j d) (c :: part) (d :: text) i j (n + 1) where
  status := hr.status
  writes := by
    rw [Copied.after, hr.writes, toNat_succ hj, List.zipIdx_cons]
  index := by
    have := hr.index
    rw [toNat_succ hi] at this
    rw [Copied.after, List.length_cons]
    dsimp only
    omega
  offset := by
    have := hr.offset
    rw [toNat_succ hj] at this
    rw [Copied.after, List.length_cons]
    dsimp only
    omega
  left := by
    have := hr.left
    rw [Copied.after, List.length_cons]
    dsimp only
    omega

variable {stop replacement : UINT8} {accepts : UINT8 → Bool}

/-- What a loop of the dual-stack form does with the rest `s` of the name. -/
structure PartSpec (r : Copied) (s : Bytes) (stop replacement : UINT8) (accepts : UINT8 → Bool)
    (maxLenDst : UINT16) (i j : UINT8) : Prop where
  reads : ∀ x ∈ r.reads, x < i.toNat + s.length
  writes : ∀ w ∈ r.writes, w.2 < maxLenDst.toNat
  status : r.status = none ↔ (∀ c ∈ partBefore stop s, Accepted accepts c) ∧
    j.toNat + (partBefore stop s).length ≤ maxLenDst.toNat
  whole : r.status = none →
    CopiedWhole r (partBefore stop s) ((partBefore stop s).map (translate replacement)) i j s.length

/-- **A loop of the dual-stack form copies a part that fits, and reports any other.** -/
theorem copyPart_spec (haccepts : accepts 45 = false) (s : Bytes)
    (hread : ∀ k c, s[k]? = some c → h.read (i.toNat + k) = c) (hi : i.toNat + s.length < 256)
    (hj : j.toNat + s.length < 256) (hmax : j.toNat ≤ maxLenDst.toNat) :
    PartSpec (copyPart h stop replacement accepts maxLenDst s.length i j) s stop replacement accepts
      maxLenDst i j := by
  induction s generalizing i j with
  | nil =>
    refine ⟨by simp [copyPart], by simp [copyPart], ?_, fun _ => ⟨rfl, rfl, rfl, rfl, rfl⟩⟩
    simp [copyPart, partBefore, hmax]
  | cons c s ih =>
    have hc : h.read i.toNat = c := hread 0 c rfl
    have hi' : i.toNat + s.length + 1 < 256 := by simpa [Nat.add_assoc] using hi
    have hj' : j.toNat + s.length + 1 < 256 := by simpa [Nat.add_assoc] using hj
    have hnext := toNat_succ (x := i) (by omega)
    have hnextj := toNat_succ (x := j) (by omega)
    rw [List.length_cons, copyPart, hc]
    by_cases hstop : c = stop
    · rw [if_pos hstop]
      subst hstop
      refine ⟨by simp, by simp, ?_, fun _ => ?_⟩
      · rw [partBefore_stop]
        simp [hmax]
      · rw [partBefore_stop]
        exact ⟨rfl, rfl, rfl, rfl, rfl⟩
    · rw [if_neg hstop]
      have hpart := partBefore_cons (s := s) hstop
      by_cases hfull : maxLenDst.toNat ≤ j.toNat
      · rw [if_pos hfull]
        refine ⟨by simp, by simp, ?_, fun hnone => by cases hnone⟩
        rw [hpart]
        simp only [reduceCtorEq, List.length_cons, false_iff, not_and]
        intro _
        omega
      · rw [if_neg hfull]
        have hrest := ih (i := i + 1) (j := j + 1) (read_tail hi hread) (by omega) (by omega)
          (by omega)
        -- a round that goes on, with `d` written for the character
        have hround (d : UINT8) (hok : Accepted accepts c) (hd : translate replacement c = d) :
            PartSpec ((copyPart h stop replacement accepts maxLenDst s.length (i + 1) (j + 1)).after
              i j d) (c :: s) stop replacement accepts maxLenDst i j := by
          refine ⟨?_, ?_, ?_, fun hnone => ?_⟩
          · refine List.forall_mem_cons.mpr ⟨by simp, fun x hx => ?_⟩
            have := hrest.reads x hx
            rw [List.length_cons]
            omega
          · refine List.forall_mem_cons.mpr ⟨by simpa using hfull, hrest.writes⟩
          · refine hrest.status.trans ?_
            rw [hpart, List.forall_mem_cons, List.length_cons]
            constructor
            · rintro ⟨hall, hlen⟩
              exact ⟨⟨hok, hall⟩, by omega⟩
            · rintro ⟨⟨-, hall⟩, hlen⟩
              exact ⟨hall, by omega⟩
          · rw [hpart, List.map_cons, hd, List.length_cons]
            exact (hrest.whole hnone).after (by omega) (by omega)
        by_cases hok : accepts c = true
        · rw [if_pos hok]
          refine hround c (.inl hok) ?_
          unfold translate
          rw [if_neg]
          rintro rfl
          rw [haccepts] at hok
          cases hok
        · rw [if_neg hok]
          by_cases hdash : c = 45
          · rw [if_pos hdash]
            exact hround replacement (.inr hdash) (if_pos hdash)
          · rw [if_neg hdash]
            have hnot : ¬Accepted accepts c := fun h => h.elim hok hdash
            refine ⟨by simp, by simp, ?_, fun hnone => by cases hnone⟩
            rw [hpart, List.forall_mem_cons]
            simp [hnot]

/-! ## The loop for IPv4 only -/

theorem copyAddress_error (n : Nat) (hstatus : (copyAddress h maxLenDst n i j).status ≠ none) :
    maxLenDst.toNat < (copyAddress h maxLenDst n i j).j.toNat := by
  induction n generalizing i j with
  | zero => exact absurd rfl hstatus
  | succ n ih =>
    unfold copyAddress at hstatus ⊢
    dsimp only at hstatus ⊢
    split at hstatus
    · exact absurd rfl hstatus
    · next hstop =>
      rw [if_neg hstop]
      split at hstatus
      · next hdigit =>
        rw [if_pos hdigit]
        split at hstatus
        · next hfull =>
          rw [if_pos hfull]
          exact hfull
        · next hfull =>
          rw [if_neg hfull]
          exact ih hstatus
      · next hdigit =>
        rw [if_neg hdigit]
        split at hstatus
        · next hdash =>
          rw [if_pos hdash]
          split at hstatus
          · next hfull =>
            rw [if_pos hfull]
            exact hfull
          · next hfull =>
            rw [if_neg hfull]
            exact ih hstatus
        · exact absurd rfl hstatus

/-- **An address that fits is copied.** -/
theorem copyAddress_whole (maxLenDst : UINT16) (s : Bytes)
    (hread : ∀ k c, s[k]? = some c → h.read (i.toNat + k) = c) (hi : i.toNat + s.length < 256)
    (hj : j.toNat + s.length < 256) (haccepted : ∀ c ∈ partBefore 46 s, Accepted isDigit c)
    (hfit : j.toNat + (partBefore 46 s).length < maxLenDst.toNat) :
    (∀ x ∈ (copyAddress h maxLenDst s.length i j).reads, x < i.toNat + s.length) ∧
      CopiedWhole (copyAddress h maxLenDst s.length i j) (partBefore 46 s)
        ((partBefore 46 s).map (translate 46)) i j s.length := by
  induction s generalizing i j with
  | nil => exact ⟨by simp [copyAddress], rfl, rfl, rfl, rfl, rfl⟩
  | cons c s ih =>
    have hc : h.read i.toNat = c := hread 0 c rfl
    have hi' : i.toNat + s.length + 1 < 256 := by simpa [Nat.add_assoc] using hi
    have hj' : j.toNat + s.length + 1 < 256 := by simpa [Nat.add_assoc] using hj
    have hnext := toNat_succ (x := i) (by omega)
    have hnextj := toNat_succ (x := j) (by omega)
    rw [List.length_cons, copyAddress, hc]
    by_cases hstop : c = 46
    · rw [if_pos hstop]
      subst hstop
      rw [partBefore_stop]
      exact ⟨by simp, rfl, rfl, rfl, rfl, rfl⟩
    · rw [if_neg hstop]
      rw [partBefore_cons hstop, List.length_cons] at hfit
      rw [partBefore_cons hstop, List.forall_mem_cons] at haccepted
      obtain ⟨hreads, hwhole⟩ := ih (i := i + 1) (j := j + 1) (read_tail hi hread) (by omega)
        (by omega) haccepted.2 (by omega)
      have hround (d : UINT8) (hd : translate 46 c = d) :
          (∀ x ∈ ((copyAddress h maxLenDst s.length (i + 1) (j + 1)).after i j d).reads,
              x < i.toNat + (s.length + 1)) ∧
            CopiedWhole ((copyAddress h maxLenDst s.length (i + 1) (j + 1)).after i j d)
              (partBefore 46 (c :: s)) ((partBefore 46 (c :: s)).map (translate 46)) i j
              (s.length + 1) := by
        refine ⟨List.forall_mem_cons.mpr ⟨by omega, fun x hx => ?_⟩, ?_⟩
        · have := hreads x hx
          omega
        · rw [partBefore_cons hstop, List.map_cons, hd]
          exact hwhole.after (by omega) (by omega)
      rw [if_neg (show ¬maxLenDst.toNat < j.toNat by omega),
        if_neg (show ¬maxLenDst.toNat < j.toNat by omega)]
      by_cases hdigit : isDigit c = true
      · rw [if_pos hdigit]
        refine hround c ?_
        unfold translate
        rw [if_neg]
        rintro rfl
        exact absurd hdigit (by decide)
      · rw [if_neg hdigit]
        have hdash : c = 45 := haccepted.1.resolve_left hdigit
        rw [if_pos hdash]
        exact hround 46 (if_pos hdash)

end

/-! ## The whole name -/

def Hostname.label (h : Hostname) : Bytes := partBefore 46 h.chars

/-- The characters before the underscore. -/
def Hostname.ipv4Part (h : Hostname) : Bytes := partBefore 95 h.chars

/-- The characters between the underscore and the next point. -/
def Hostname.ipv6Part (h : Hostname) : Bytes :=
  partBefore 46 (h.chars.drop (h.ipv4Part.length + 1))

/-- The label is an address that fits with its NUL. -/
def SingleForm (h : Hostname) (maxLenDst : Size) : Prop :=
  (∀ c ∈ h.label, Accepted isDigit c) ∧ h.label.length < maxLenDst.size.toNat

/-- The label is two addresses that fit with their NULs. -/
def DualForm (h : Hostname) (maxLenV4Dst maxLenV6Dst : Size) : Prop :=
  95 ∈ h.chars ∧ (∀ c ∈ h.ipv4Part, Accepted isDigit c) ∧
    (∀ c ∈ h.ipv6Part, Accepted isHexDigit c) ∧
    h.ipv4Part.length < maxLenV4Dst.size.toNat ∧ h.ipv6Part.length < maxLenV6Dst.size.toNat

/-- The name is read up to its NUL, the writes stay in the buffer, and exactly a name of the required
form succeeds, with its address. -/
structure SingleGood (h : Hostname) (maxLenDst : Size) : Prop where
  reads : ∀ x ∈ (getIpAddrFromDnsHostname h maxLenDst).reads, x ≤ h.chars.length
  writes : ∀ w ∈ (getIpAddrFromDnsHostname h maxLenDst).writes, w.2 < maxLenDst.size.toNat
  status : (getIpAddrFromDnsHostname h maxLenDst).status = none ↔ SingleForm h maxLenDst
  exact : (getIpAddrFromDnsHostname h maxLenDst).status = none →
    (getIpAddrFromDnsHostname h maxLenDst).writes = stringWrites (h.label.map (translate 46))

/-- The same for both addresses. -/
structure DualGood (h : Hostname) (v4 v6 : Size) : Prop where
  reads : ∀ x ∈ (getDualStackIpAddrFromDnsHostname h v4 v6).reads, x ≤ h.chars.length
  ipv4Writes : ∀ w ∈ (getDualStackIpAddrFromDnsHostname h v4 v6).ipv4Writes, w.2 < v4.size.toNat
  ipv6Writes : ∀ w ∈ (getDualStackIpAddrFromDnsHostname h v4 v6).ipv6Writes, w.2 < v6.size.toNat
  status : (getDualStackIpAddrFromDnsHostname h v4 v6).status = none ↔ DualForm h v4 v6
  exact : (getDualStackIpAddrFromDnsHostname h v4 v6).status = none →
    (getDualStackIpAddrFromDnsHostname h v4 v6).ipv4Writes =
        stringWrites (h.ipv4Part.map (translate 46)) ∧
      (getDualStackIpAddrFromDnsHostname h v4 v6).ipv6Writes =
        stringWrites (h.ipv6Part.map (translate 58))

/-- No part that is an address fills its buffer exactly, and an IPv4 address that fits ends with an
underscore. -/
def DualFits (h : Hostname) (v4 v6 : Size) : Prop :=
  (∀ c ∈ h.ipv4Part, Accepted isDigit c) →
    h.ipv4Part.length ≠ v4.size.toNat ∧ (h.ipv4Part.length < v4.size.toNat →
      95 ∈ h.chars ∧ ((∀ c ∈ h.ipv6Part, Accepted isHexDigit c) →
        h.ipv6Part.length ≠ v6.size.toNat))

theorem Hostname.length_lt (h : Hostname) : h.chars.length < 127 := h.short

theorem Hostname.read_chars (h : Hostname) {k : Nat} {c : UINT8} (hk : h.chars[k]? = some c) :
    h.read k = c := by
  unfold Hostname.read
  rw [hk]

theorem length_partBefore_le (stop : UINT8) (s : Bytes) : (partBefore stop s).length ≤ s.length :=
  (List.takeWhile_sublist _).length_le

/-- **The names whose address is extracted safely and exactly**: those of the required form. -/
theorem single_good_iff (h : Hostname) (maxLenDst : Size) :
    SingleGood h maxLenDst ↔ SingleForm h maxLenDst := by
  have hlen := h.length_lt
  constructor
  · intro hgood
    by_contra hform
    have hfailed := mt hgood.status.mp hform
    -- the NUL stands behind the buffer then
    have hj := copyAddress_error h.chars.length hfailed
    have hw := hgood.writes (0, (copyAddress h maxLenDst.size h.chars.length 0 0).j.toNat)
      (List.mem_append_right _ (List.mem_singleton.mpr rfl))
    omega
  · rintro ⟨haccepted, hfit⟩
    have hread (k : Nat) (c : UINT8) (hk : h.chars[k]? = some c) :
        h.read ((0 : UINT8).toNat + k) = c := by
      rw [show (0 : UINT8).toNat = 0 from rfl, Nat.zero_add]
      exact h.read_chars hk
    have hzero : (0 : UINT8).toNat = 0 := rfl
    obtain ⟨hreads, hwhole⟩ := copyAddress_whole maxLenDst.size h.chars hread
      (i := 0) (j := 0) (by omega) (by omega) haccepted (by rw [hzero, Nat.zero_add]; exact hfit)
    have hwrites : (getIpAddrFromDnsHostname h maxLenDst).writes =
        stringWrites (h.label.map (translate 46)) := by
      unfold getIpAddrFromDnsHostname stringWrites
      dsimp only
      rw [hwhole.writes, hwhole.offset, hzero, Nat.zero_add, List.zipIdx_append, List.length_map,
        Nat.zero_add]
      rfl
    refine ⟨fun x hx => ?_, fun w hw => ?_, iff_of_true hwhole.status ⟨haccepted, hfit⟩,
      fun _ => hwrites⟩
    · have := hreads x hx
      omega
    · rw [hwrites, stringWrites] at hw
      obtain ⟨-, hlt, -⟩ := List.mem_zipIdx hw
      rw [List.length_append, List.length_map, List.length_singleton, Nat.zero_add] at hlt
      omega

theorem mem_of_length_partBefore {stop : UINT8} {s : Bytes}
    (hlt : (partBefore stop s).length < s.length) : stop ∈ s := by
  by_contra hnot
  have hall : partBefore stop s = s := by
    unfold partBefore
    rw [List.takeWhile_eq_self_iff]
    intro c hc
    simpa using fun heq : c = stop => hnot (heq ▸ hc)
  rw [hall] at hlt
  omega

theorem length_partBefore_lt {stop : UINT8} {s : Bytes} (h : stop ∈ s) :
    (partBefore stop s).length < s.length := by
  refine Nat.lt_of_le_of_ne (length_partBefore_le stop s) fun heq => ?_
  have hall := (List.takeWhile_prefix (fun c => decide (c ≠ stop)) (l := s)).eq_of_length heq
  rw [List.takeWhile_eq_self_iff] at hall
  exact absurd (hall stop h) (by simp)

theorem stringWrites_eq (text : Bytes) :
    text.zipIdx (0 : UINT8).toNat ++ [(0, text.length)] = stringWrites text := by
  unfold stringWrites
  rw [List.zipIdx_append, Nat.zero_add]
  rfl

section

variable (h : Hostname) (v4 v6 : Size)

theorem copyIpv4_spec : PartSpec (copyIpv4 h v4.size h.chars.length 0 0) h.chars 95 46 isDigit v4.size
    0 0 := by
  have hlen := h.length_lt
  have hzero : (0 : UINT8).toNat = 0 := rfl
  refine copyPart_spec (by decide) h.chars (fun k c hk => ?_) (by omega) (by omega) (Nat.zero_le _)
  rw [hzero, Nat.zero_add]
  exact h.read_chars hk

theorem copyIpv6_spec {i : UINT8} (hi : i.toNat = h.ipv4Part.length)
    (hunderscore : h.ipv4Part.length < h.chars.length) :
    PartSpec (copyIpv6 h v6.size (h.chars.drop (h.ipv4Part.length + 1)).length (i + 1) 0)
      (h.chars.drop (h.ipv4Part.length + 1)) 46 58 isHexDigit v6.size (i + 1) 0 := by
  have hlen := h.length_lt
  have hzero : (0 : UINT8).toNat = 0 := rfl
  have hnext : (i + 1).toNat = h.ipv4Part.length + 1 := by
    rw [toNat_succ (by omega), hi]
  refine copyPart_spec (by decide) _ (fun k c hk => ?_) ?_ ?_ (Nat.zero_le _)
  · rw [hnext]
    rw [List.getElem?_drop] at hk
    exact h.read_chars hk
  · rw [hnext, List.length_drop]
    omega
  · rw [hzero, List.length_drop]
    omega

theorem left_behind {left : Nat} (hleft : left = h.chars.length - h.ipv4Part.length)
    (hunderscore : h.ipv4Part.length < h.chars.length) :
    ((BitVec.ofNat 16 left : UINT16) - 1).toNat =
      (h.chars.drop (h.ipv4Part.length + 1)).length := by
  have hlen := h.length_lt
  rw [List.length_drop, BitVec.toNat_sub, BitVec.toNat_ofNat]
  change (2 ^ 16 - 1 + left % 2 ^ 16) % 2 ^ 16 = _
  omega

variable {h v4 v6}

theorem ipv4_status_iff : (copyIpv4 h v4.size h.chars.length 0 0).status = none ↔
    (∀ c ∈ h.ipv4Part, Accepted isDigit c) ∧ h.ipv4Part.length ≤ v4.size.toNat := by
  have hstatus := (copyIpv4_spec h v4).status
  rw [show (0 : UINT8).toNat = 0 from rfl, Nat.zero_add] at hstatus
  exact hstatus

theorem lt_of_mem_stringWrites {text : Bytes} {n : Nat} (hn : text.length < n) :
    ∀ w ∈ stringWrites text, w.2 < n := by
  intro w hw
  obtain ⟨-, hlt, -⟩ := List.mem_zipIdx hw
  rw [List.length_append, List.length_singleton, Nat.zero_add] at hlt
  omega

theorem nul_mem_stringWrites (text : Bytes) : ((0 : UINT8), text.length) ∈ stringWrites text := by
  rw [← stringWrites_eq]
  exact List.mem_append_right _ (List.mem_singleton.mpr rfl)

/-- The IPv4 part is an address that fits, perhaps without its NUL. -/
def Ipv4Copied (h : Hostname) (v4 : Size) : Prop :=
  (∀ c ∈ h.ipv4Part, Accepted isDigit c) ∧ h.ipv4Part.length ≤ v4.size.toNat

def Ipv6Copied (h : Hostname) (v6 : Size) : Prop :=
  (∀ c ∈ h.ipv6Part, Accepted isHexDigit c) ∧ h.ipv6Part.length ≤ v6.size.toNat

theorem ipv4_index (hcopied : Ipv4Copied h v4) :
    (copyIpv4 h v4.size h.chars.length 0 0).i.toNat = h.ipv4Part.length ∧
      (copyIpv4 h v4.size h.chars.length 0 0).left = h.chars.length - h.ipv4Part.length := by
  have hwhole := (copyIpv4_spec h v4).whole (ipv4_status_iff.mpr hcopied)
  have hindex := hwhole.index
  rw [show (0 : UINT8).toNat = 0 from rfl, Nat.zero_add] at hindex
  exact ⟨hindex, hwhole.left⟩

theorem ipv4_writes (hcopied : Ipv4Copied h v4) :
    (copyIpv4 h v4.size h.chars.length 0 0).writes ++
        [(0, (copyIpv4 h v4.size h.chars.length 0 0).j.toNat)] =
      stringWrites (h.ipv4Part.map (translate 46)) := by
  have hwhole := (copyIpv4_spec h v4).whole (ipv4_status_iff.mpr hcopied)
  have hoffset := hwhole.offset
  rw [show (0 : UINT8).toNat = 0 from rfl, Nat.zero_add] at hoffset
  rw [hwhole.writes, hoffset, ← stringWrites_eq, List.length_map]
  rfl

theorem dual_ipv4_reported (hnot : ¬Ipv4Copied h v4) : DualGood h v4 v6 := by
  have hlen := h.length_lt
  have hspec := copyIpv4_spec h v4
  have hzero : (0 : UINT8).toNat = 0 := rfl
  obtain ⟨e, hstatus⟩ := Option.ne_none_iff_exists'.mp (mt ipv4_status_iff.mp hnot)
  have hresult : getDualStackIpAddrFromDnsHostname h v4 v6 =
      ⟨(copyIpv4 h v4.size h.chars.length 0 0).reads,
        (copyIpv4 h v4.size h.chars.length 0 0).writes ++ [(0, 0)], [(0, 0)], some e⟩ := by
    unfold getDualStackIpAddrFromDnsHostname
    dsimp only
    rw [hstatus]
  have hform : ¬DualForm h v4 v6 := fun hform => hnot ⟨hform.2.1, Nat.le_of_lt hform.2.2.2.1⟩
  refine ⟨fun x hx => ?_, fun w hw => ?_, fun w hw => ?_, ?_, fun hnone => ?_⟩
  · rw [hresult] at hx
    have := hspec.reads x hx
    omega
  · rw [hresult] at hw
    rcases List.mem_append.mp hw with hw | hw
    · exact hspec.writes w hw
    · obtain rfl := List.mem_singleton.mp hw
      exact v4.pos
  · rw [hresult] at hw
    obtain rfl := List.mem_singleton.mp hw
    exact v6.pos
  · rw [hresult]
    simp [hform]
  · rw [hresult] at hnone
    cases hnone

theorem reads_first (h : Hostname) (v6 : Size) (n : Nat) (i j : UINT8) : i.toNat ∈ (copyIpv6 h v6.size (n + 1) i j).reads := by
  unfold copyIpv6
  rw [copyPart]
  split
  · exact List.mem_singleton.mpr rfl
  · split
    · exact List.mem_singleton.mpr rfl
    · split
      · exact List.mem_cons_self
      · split
        · exact List.mem_cons_self
        · exact List.mem_singleton.mpr rfl

/-- **Without an underscore the remaining length wraps, and the loop reads behind the NUL.** -/
theorem dual_without_underscore (hcopied : Ipv4Copied h v4) (hno : 95 ∉ h.chars) :
    ¬DualGood h v4 v6 := by
  have hlen := h.length_lt
  obtain ⟨hindex, hleft⟩ := ipv4_index hcopied
  have hpart : h.ipv4Part.length = h.chars.length := by
    refine Nat.le_antisymm (length_partBefore_le 95 h.chars) ?_
    by_contra hlt
    exact hno (mem_of_length_partBefore (Nat.lt_of_not_le hlt))
  have hwrapped : ((BitVec.ofNat 16 (copyIpv4 h v4.size h.chars.length 0 0).left : UINT16) -
      1).toNat = 65534 + 1 := by
    rw [hleft, hpart, Nat.sub_self]
    rfl
  have hnext : ((copyIpv4 h v4.size h.chars.length 0 0).i + 1).toNat = h.chars.length + 1 := by
    rw [toNat_succ (by omega), hindex, hpart]
  have hfirst := reads_first h v6 65534
    ((copyIpv4 h v4.size h.chars.length 0 0).i + 1) 0
  rw [hnext] at hfirst
  have hread : h.chars.length + 1 ∈ (getDualStackIpAddrFromDnsHostname h v4 v6).reads := by
    unfold getDualStackIpAddrFromDnsHostname
    dsimp only
    rw [ipv4_status_iff.mpr hcopied]
    dsimp only
    rw [hwrapped]
    split <;> exact List.mem_append_right _ hfirst
  intro hgood
  have := hgood.reads _ hread
  omega

/-- The loop for the IPv6 part of a name with an underscore. -/
def ipv6Loop (h : Hostname) (v4 v6 : Size) : Copied :=
  copyIpv6 h v6.size (h.chars.drop (h.ipv4Part.length + 1)).length
    ((copyIpv4 h v4.size h.chars.length 0 0).i + 1) 0

section

variable (hcopied : Ipv4Copied h v4) (hunderscore : 95 ∈ h.chars)

include hcopied hunderscore

theorem ipv6Loop_spec (v6 : Size) : PartSpec (ipv6Loop h v4 v6) (h.chars.drop (h.ipv4Part.length + 1)) 46 58
    isHexDigit v6.size ((copyIpv4 h v4.size h.chars.length 0 0).i + 1) 0 :=
  copyIpv6_spec h v6 (ipv4_index hcopied).1 (length_partBefore_lt hunderscore)

theorem ipv6_status_iff (v6 : Size) : (ipv6Loop h v4 v6).status = none ↔ Ipv6Copied h v6 := by
  have hstatus := (ipv6Loop_spec hcopied hunderscore v6).status
  rw [show (0 : UINT8).toNat = 0 from rfl, Nat.zero_add] at hstatus
  exact hstatus

theorem dual_result (v6 : Size) : getDualStackIpAddrFromDnsHostname h v4 v6 =
    match (ipv6Loop h v4 v6).status with
    | some e => ⟨(copyIpv4 h v4.size h.chars.length 0 0).reads ++ (ipv6Loop h v4 v6).reads,
        stringWrites (h.ipv4Part.map (translate 46)) ++ [(0, 0)],
        (ipv6Loop h v4 v6).writes ++ [(0, 0)], some e⟩
    | none => ⟨(copyIpv4 h v4.size h.chars.length 0 0).reads ++ (ipv6Loop h v4 v6).reads,
        stringWrites (h.ipv4Part.map (translate 46)),
        (ipv6Loop h v4 v6).writes ++ [(0, (ipv6Loop h v4 v6).j.toNat)], none⟩ := by
  have hleft := left_behind h (ipv4_index hcopied).2 (length_partBefore_lt hunderscore)
  unfold getDualStackIpAddrFromDnsHostname
  dsimp only
  rw [ipv4_status_iff.mpr hcopied]
  rw [hleft, ipv4_writes hcopied]
  rfl

theorem dual_reads : ∀ x ∈ (getDualStackIpAddrFromDnsHostname h v4 v6).reads,
    x ≤ h.chars.length := by
  have hlen := h.length_lt
  have hbefore := length_partBefore_lt hunderscore
  change h.ipv4Part.length < h.chars.length at hbefore
  have hzero : (0 : UINT8).toNat = 0 := rfl
  have hindex := (ipv4_index hcopied).1
  have hnext : ((copyIpv4 h v4.size h.chars.length 0 0).i + 1).toNat = h.ipv4Part.length + 1 := by
    rw [toNat_succ (by omega), hindex]
  have hreads : (getDualStackIpAddrFromDnsHostname h v4 v6).reads =
      (copyIpv4 h v4.size h.chars.length 0 0).reads ++ (ipv6Loop h v4 v6).reads := by
    rw [dual_result hcopied hunderscore v6]
    split <;> rfl
  intro x hx
  rw [hreads] at hx
  rcases List.mem_append.mp hx with hx | hx
  · have := (copyIpv4_spec h v4).reads x hx
    omega
  · have := (ipv6Loop_spec hcopied hunderscore v6).reads x hx
    rw [hnext, List.length_drop] at this
    omega

theorem dual_ipv6_reported (hnot : ¬Ipv6Copied h v6) :
    DualGood h v4 v6 ↔ h.ipv4Part.length < v4.size.toNat := by
  obtain ⟨e, hstatus⟩ := Option.ne_none_iff_exists'.mp
    (mt (ipv6_status_iff hcopied hunderscore v6).mp hnot)
  have hresult := dual_result hcopied hunderscore v6
  rw [hstatus] at hresult
  have hform : ¬DualForm h v4 v6 := fun hform => hnot ⟨hform.2.2.1, Nat.le_of_lt hform.2.2.2.2⟩
  constructor
  · intro hgood
    have hw := hgood.ipv4Writes (0, (h.ipv4Part.map (translate 46)).length) (by
      rw [hresult]
      exact List.mem_append_left _ (nul_mem_stringWrites _))
    rwa [List.length_map] at hw
  · intro hlt
    refine ⟨dual_reads hcopied hunderscore, fun w hw => ?_, fun w hw => ?_, ?_, fun hnone => ?_⟩
    · rw [hresult] at hw
      rcases List.mem_append.mp hw with hw | hw
      · exact lt_of_mem_stringWrites (by rw [List.length_map]; exact hlt) w hw
      · obtain rfl := List.mem_singleton.mp hw
        exact v4.pos
    · rw [hresult] at hw
      rcases List.mem_append.mp hw with hw | hw
      · exact (ipv6Loop_spec hcopied hunderscore v6).writes w hw
      · obtain rfl := List.mem_singleton.mp hw
        exact v6.pos
    · rw [hresult]
      simp [hform]
    · rw [hresult] at hnone
      cases hnone

theorem dual_copied (hcopied6 : Ipv6Copied h v6) : DualGood h v4 v6 ↔
    h.ipv4Part.length < v4.size.toNat ∧ h.ipv6Part.length < v6.size.toNat := by
  have hstatus := (ipv6_status_iff hcopied hunderscore v6).mpr hcopied6
  have hwhole := (ipv6Loop_spec hcopied hunderscore v6).whole hstatus
  have hoffset := hwhole.offset
  rw [show (0 : UINT8).toNat = 0 from rfl, Nat.zero_add] at hoffset
  have hnul : (ipv6Loop h v4 v6).writes ++ [(0, (ipv6Loop h v4 v6).j.toNat)] =
      stringWrites (h.ipv6Part.map (translate 58)) := by
    rw [hwhole.writes, hoffset, ← stringWrites_eq, List.length_map]
    rfl
  have hresult := dual_result hcopied hunderscore v6
  rw [hstatus] at hresult
  rw [hnul] at hresult
  constructor
  · intro hgood
    obtain ⟨-, -, -, hlt, hlt6⟩ := hgood.status.mp (by rw [hresult])
    exact ⟨hlt, hlt6⟩
  · rintro ⟨hlt, hlt6⟩
    refine ⟨dual_reads hcopied hunderscore, fun w hw => ?_, fun w hw => ?_, ?_, fun _ => ?_⟩
    · rw [hresult] at hw
      exact lt_of_mem_stringWrites (by rw [List.length_map]; exact hlt) w hw
    · rw [hresult] at hw
      exact lt_of_mem_stringWrites (by rw [List.length_map]; exact hlt6) w hw
    · rw [hresult]
      exact iff_of_true rfl ⟨hunderscore, hcopied.1, hcopied6.1, hlt, hlt6⟩
    · rw [hresult]
      exact ⟨rfl, rfl⟩

end

/-- **The dual-stack names whose addresses are extracted safely and exactly, or reported.** -/
theorem dual_good_iff (h : Hostname) (v4 v6 : Size) : DualGood h v4 v6 ↔ DualFits h v4 v6 := by
  by_cases hcopied : Ipv4Copied h v4
  · have hfits : DualFits h v4 v6 ↔ h.ipv4Part.length < v4.size.toNat ∧ 95 ∈ h.chars ∧
        (Ipv6Copied h v6 → h.ipv6Part.length < v6.size.toNat) := by
      constructor
      · intro hfits
        obtain ⟨hne, hrest⟩ := hfits hcopied.1
        have hlt := Nat.lt_of_le_of_ne hcopied.2 hne
        exact ⟨hlt, (hrest hlt).1, fun hcopied6 =>
          Nat.lt_of_le_of_ne hcopied6.2 ((hrest hlt).2 hcopied6.1)⟩
      · rintro ⟨hlt, hunderscore, hrest⟩ -
        refine ⟨Nat.ne_of_lt hlt, fun _ => ⟨hunderscore, fun hall heq => ?_⟩⟩
        have := hrest ⟨hall, Nat.le_of_eq heq⟩
        omega
    rw [hfits]
    by_cases hunderscore : 95 ∈ h.chars
    · by_cases hcopied6 : Ipv6Copied h v6
      · rw [dual_copied hcopied hunderscore hcopied6]
        exact ⟨fun h => ⟨h.1, hunderscore, fun _ => h.2⟩, fun h => ⟨h.1, h.2.2 hcopied6⟩⟩
      · rw [dual_ipv6_reported hcopied hunderscore hcopied6]
        exact ⟨fun h => ⟨h, hunderscore, fun h6 => absurd h6 hcopied6⟩, fun h => h.1⟩
    · refine iff_of_false (dual_without_underscore hcopied hunderscore) fun hfit => ?_
      exact hunderscore hfit.2.1
  · refine iff_of_true (dual_ipv4_reported hcopied) fun hall => ?_
    have hlong : v4.size.toNat < h.ipv4Part.length := by
      by_contra hle
      exact hcopied ⟨hall, Nat.le_of_not_lt hle⟩
    exact ⟨Nat.ne_of_gt hlong, fun hlt => absurd hlt (Nat.lt_asymm hlong)⟩

end

/-- **Addresses in host names are extracted safely and exactly, and other names reported, for the
IPv4 form exactly if the name is of the required form; for the dual-stack form exactly if no part
that is an address fills its buffer exactly, and an IPv4 part that fits ends with an underscore.** -/
theorem hostname_addresses (h : Hostname) (maxLenDst v4 v6 : Size) :
    (SingleGood h maxLenDst ↔ SingleForm h maxLenDst) ∧ (DualGood h v4 v6 ↔ DualFits h v4 v6) :=
  ⟨single_good_iff h maxLenDst, dual_good_iff h v4 v6⟩

/-- `1-2-3-45` does not fit into eight characters with its NUL. -/
theorem exact_fit_overflows :
    ¬∀ (h : Hostname) (maxLenDst v4 v6 : Size), SingleGood h maxLenDst ∧ DualGood h v4 v6 := by
  intro hall
  have hgood := (hall ⟨[49, 45, 50, 45, 51, 45, 52, 53], fun _ => 0, by decide, by decide, by decide⟩
    ⟨8, by decide⟩ ⟨1, by decide⟩ ⟨1, by decide⟩).1
  exact absurd (hgood.writes (0, 8) (by decide)) (by decide)

end KvsWebrtc.Ice.Dns
