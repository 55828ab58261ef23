import KvsWebrtc.Codecs.AnnexB
import Mathlib.Algebra.Order.BigOperators.Group.List

/-!
# Payload arrays and fragments

What the H.264 and the H.265 payloader share.  A call without a buffer adds up the payloads in 32
bits, a call with one writes them if they fit; a unit that is longer than the mtu is cut into
fragments with a header before each.

Principal results:

* `fragmentLoop_size`, `fragmentLoop_write` — the loop over the fragments in its two modes;
* `length_fragmentsOf` — how long the fragments are together.
-/

namespace KvsWebrtc.H264

/-! ## Sizes -/

theorem cutPayloads_flatten : ∀ ps : List Bytes,
    cutPayloads (ps.map List.length) ps.flatten = ps
  | [] => rfl
  | p :: ps => by simp [cutPayloads, cutPayloads_flatten ps]

/-- The array after so many more payloads. -/
def PayloadArray.grow (a : PayloadArray) (ps : List Bytes) : PayloadArray :=
  { a with
    payloadLength := wrap32 (a.payloadLength + ps.flatten.length)
    payloadSubLenSize := wrap32 (a.payloadSubLenSize + ps.length) }

/-- The counters are 32 bits wide. -/
def PayloadArray.Sizing (a : PayloadArray) : Prop :=
  a.room = none ∧ a.payloadLength < 2 ^ 32 ∧ a.payloadSubLenSize < 2 ^ 32

theorem wrap32_add_wrap32 (m n : Nat) : wrap32 (m + wrap32 n) = wrap32 (m + n) := by
  simp [wrap32]

theorem wrap32_wrap32_add (m n : Nat) : wrap32 (wrap32 m + n) = wrap32 (m + n) := by
  simp [wrap32]

theorem PayloadArray.Sizing.grow {a : PayloadArray} (h : a.Sizing) (ps : List Bytes) :
    (a.grow ps).Sizing :=
  ⟨h.1, wrap32_lt _, wrap32_lt _⟩

theorem PayloadArray.Sizing.grow_nil {a : PayloadArray} (h : a.Sizing) : a.grow [] = a := by
  simp [PayloadArray.grow, wrap32_of_lt h.2.1, wrap32_of_lt h.2.2]

theorem PayloadArray.grow_grow (a : PayloadArray) (ps qs : List Bytes) :
    (a.grow ps).grow qs = a.grow (ps ++ qs) := by
  simp [PayloadArray.grow, wrap32_wrap32_add, Nat.add_assoc]

/-- What a call without a buffer answers for these payloads. -/
def sizesOf (ps : List Bytes) : Filled := ⟨wrap32 ps.flatten.length, wrap32 ps.length, [], []⟩

theorem PayloadArray.Sizing.add_sizesOf {a : PayloadArray} (h : a.Sizing) (ps : List Bytes) :
    a.add (sizesOf ps) = a.grow ps := by
  simp [PayloadArray.add, h.1, PayloadArray.grow, sizesOf, wrap32_add_wrap32]

/-! ## Contents -/

def Room.Fits (r : Room) (ps : List Bytes) : Prop :=
  ps.flatten.length ≤ r.maxPayloadLength ∧ ps.length ≤ r.maxPayloadSubLenSize

/-- The room is given by 32-bit numbers. -/
def Room.Bounded (r : Room) : Prop :=
  r.maxPayloadLength < 2 ^ 32 ∧ r.maxPayloadSubLenSize < 2 ^ 32

/-- The room that so many payloads leave. -/
def Room.after (r : Room) (ps : List Bytes) : Room :=
  ⟨r.maxPayloadLength - ps.flatten.length, r.maxPayloadSubLenSize - ps.length⟩

theorem Room.fits_append (r : Room) (ps qs : List Bytes) :
    r.Fits (ps ++ qs) ↔ r.Fits ps ∧ (r.after ps).Fits qs := by
  simp only [Room.Fits, Room.after, List.flatten_append, List.length_append]
  omega

theorem Room.Bounded.after {r : Room} (h : r.Bounded) (ps : List Bytes) : (r.after ps).Bounded :=
  ⟨lt_of_le_of_lt (Nat.sub_le _ _) h.1, lt_of_le_of_lt (Nat.sub_le _ _) h.2⟩

/-- What a call with a buffer answers for these payloads. -/
def writesOf (ps : List Bytes) : Filled :=
  ⟨ps.flatten.length, ps.length, ps.flatten, ps.map List.length⟩

/-- The array after these payloads were written. -/
def PayloadArray.write (a : PayloadArray) (r : Room) (ps : List Bytes) : PayloadArray :=
  { a with
    payloadBuffer := a.payloadBuffer ++ ps.flatten
    payloadSubLength := a.payloadSubLength ++ ps.map List.length
    room := some (r.after ps) }

theorem PayloadArray.add_writesOf {a : PayloadArray} {r : Room} (h : a.room = some r)
    (ps : List Bytes) : a.add (writesOf ps) = a.write r ps := by
  simp [PayloadArray.add, h, PayloadArray.write, writesOf, Room.after]

theorem PayloadArray.write_write (a : PayloadArray) (r : Room) (ps qs : List Bytes) :
    (a.write r ps).write (r.after ps) qs = a.write r (ps ++ qs) := by
  simp [PayloadArray.write, Room.after, Nat.sub_sub]

theorem PayloadArray.write_nil {a : PayloadArray} {r : Room} (h : a.room = some r) :
    a.write r [] = a := by
  simp [PayloadArray.write, Room.after, ← h]

theorem single_write {r : Room} {nalu : Bytes} {g : Filled} :
    (if 1 ≤ r.maxPayloadSubLenSize ∧ nalu.length ≤ r.maxPayloadLength then
      .ok ⟨nalu.length, 1, nalu, [nalu.length]⟩ else .error (.status .BUFFER_TOO_SMALL)) =
        (.ok g : Except Failure Filled) ↔ r.Fits [nalu] ∧ g = writesOf [nalu] := by
  unfold Room.Fits
  rw [List.flatten_singleton, List.length_singleton, and_comm (a := nalu.length ≤ _)]
  split
  · rename_i hfit
    simp [hfit, writesOf, eq_comm]
  · rename_i hfit
    simp only [reduceCtorEq, false_iff]
    exact fun h => hfit h.1

theorem map_add_eq_ok {x : Except Failure Filled} {a b : PayloadArray} :
    x.map a.add = .ok b ↔ ∃ f, x = .ok f ∧ b = a.add f := by
  cases x <;> simp [Except.map, eq_comm]

/-! ## Fragments -/

/-- The loop over the fragments of a unit, with at most `maxPayloadSize` bytes of it in each.
`rest` is what remains of the unit, and `header` the bytes before a fragment. -/
def fragmentLoop (headerSize maxPayloadSize : Nat) (header : Bytes → Nat → Bytes)
    (room : Option Room) : Nat → Bytes → Filled → Except Failure Filled
  | 0, _, f => .ok f
  | n + 1, rest, f =>
    if rest.length = 0 then .ok f
    else
      let curPayloadSize := min maxPayloadSize rest.length
      let payloadSubLenSize := wrap32 (f.filledSubLenSize + 1)
      let payloadLength := wrap32 (f.filledLength + headerSize + curPayloadSize)
      match room with
      | none => fragmentLoop headerSize maxPayloadSize header room n (rest.drop curPayloadSize)
          { f with filledLength := payloadLength, filledSubLenSize := payloadSubLenSize }
      | some r =>
        if payloadSubLenSize ≤ r.maxPayloadSubLenSize ∧ payloadLength ≤ r.maxPayloadLength then
          if f.payloadBuffer.length + headerSize + curPayloadSize ≤ r.maxPayloadLength then
            fragmentLoop headerSize maxPayloadSize header room n (rest.drop curPayloadSize) {
              filledLength := payloadLength
              filledSubLenSize := payloadSubLenSize
              payloadBuffer := f.payloadBuffer ++
                (header rest curPayloadSize ++ rest.take curPayloadSize)
              payloadSubLength := f.payloadSubLength ++ [headerSize + curPayloadSize] }
          else .error .outOfBounds
        else .error (.status .BUFFER_TOO_SMALL)

/-- The fragments of what remains of a unit. -/
def fragmentsOf (maxPayloadSize : Nat) (header : Bytes → Nat → Bytes) : Nat → Bytes → List Bytes
  | 0, _ => []
  | n + 1, rest =>
    if rest.length = 0 then []
    else
      let curPayloadSize := min maxPayloadSize rest.length
      (header rest curPayloadSize ++ rest.take curPayloadSize) ::
        fragmentsOf maxPayloadSize header n (rest.drop curPayloadSize)

section

variable {headerSize maxPayloadSize : Nat} {header : Bytes → Nat → Bytes}
  (hheader : ∀ rest cur, (header rest cur).length = headerSize)

include hheader in
theorem fragmentLoop_size : ∀ (n : Nat) (rest : Bytes) (f : Filled),
    f.filledLength < 2 ^ 32 → f.filledSubLenSize < 2 ^ 32 →
    fragmentLoop headerSize maxPayloadSize header none n rest f = .ok { f with
      filledLength := wrap32 (f.filledLength +
        (fragmentsOf maxPayloadSize header n rest).flatten.length)
      filledSubLenSize := wrap32 (f.filledSubLenSize +
        (fragmentsOf maxPayloadSize header n rest).length) }
  | 0, rest, f, hl, hs => by
    simp [fragmentLoop, fragmentsOf, wrap32_of_lt hl, wrap32_of_lt hs]
  | n + 1, rest, f, hl, hs => by
    by_cases hrest : rest.length = 0
    · simp [fragmentLoop, fragmentsOf, hrest, wrap32_of_lt hl, wrap32_of_lt hs]
    · simp only [fragmentLoop, fragmentsOf, if_neg hrest]
      rw [fragmentLoop_size n _ _ (wrap32_lt _) (wrap32_lt _)]
      simp only [wrap32_wrap32_add, List.flatten_cons, List.length_append, List.length_cons,
        List.length_take, hheader]
      congr 3
      · omega
      · omega

include hheader in
theorem fragmentLoop_write (hpos : 0 < headerSize) {r : Room} (hr : r.Bounded) :
    ∀ (n : Nat) (rest : Bytes) (done : List Bytes) (g : Filled), r.Fits done →
      done.length ≤ done.flatten.length →
      (fragmentLoop headerSize maxPayloadSize header (some r) n rest (writesOf done) = .ok g ↔
        r.Fits (done ++ fragmentsOf maxPayloadSize header n rest) ∧
          g = writesOf (done ++ fragmentsOf maxPayloadSize header n rest))
  | 0, rest, done, g, hfit, _ => by
    simp [fragmentLoop, fragmentsOf, hfit, eq_comm]
  | n + 1, rest, done, g, hfit, hcount => by
    by_cases hrest : rest.length = 0
    · simp [fragmentLoop, fragmentsOf, hrest, hfit, eq_comm]
    · simp only [fragmentLoop, fragmentsOf, if_neg hrest]
      obtain ⟨cur, hcur⟩ : ∃ c, c = min maxPayloadSize rest.length := ⟨_, rfl⟩
      rw [← hcur]
      have hle : cur ≤ rest.length := by omega
      obtain ⟨p, hp⟩ : ∃ p, p = header rest cur ++ rest.take cur := ⟨_, rfl⟩
      have hlen : p.length = headerSize + cur := by
        rw [hp, List.length_append, hheader, List.length_take, Nat.min_eq_left hle]
      have htotal : (done ++ [p]).flatten.length = done.flatten.length + headerSize + cur := by
        simp [hlen, Nat.add_assoc]
      have hnum : (done ++ [p]).length = done.length + 1 := by simp
      have hbuffer : (writesOf done).payloadBuffer = done.flatten := rfl
      rw [← hp, hbuffer, List.append_cons done p]
      by_cases hnext : r.Fits (done ++ [p])
      · -- nothing wraps, and the loop goes on with one more payload
        have hroom := hnext
        rw [Room.Fits, htotal, hnum] at hroom
        have hw1 : wrap32 ((writesOf done).filledSubLenSize + 1) = done.length + 1 :=
          wrap32_of_lt (lt_of_le_of_lt hroom.2 hr.2)
        have hw2 : wrap32 ((writesOf done).filledLength + headerSize + cur) =
            done.flatten.length + headerSize + cur := wrap32_of_lt (lt_of_le_of_lt hroom.1 hr.1)
        have hgo : (⟨done.flatten.length + headerSize + cur, done.length + 1, done.flatten ++ p,
            done.map List.length ++ [headerSize + cur]⟩ : Filled) =
            writesOf (done ++ [p]) := by
          simp [writesOf, hlen, Nat.add_assoc]
        rw [hw1, hw2, if_pos ⟨hroom.2, hroom.1⟩, if_pos hroom.1]
        refine Iff.trans (Eq.to_iff ?_) (fragmentLoop_write hpos hr n (rest.drop cur) (done ++ [p])
          g hnext ?_)
        · rw [← hgo]
          rfl
        · rw [htotal, hnum]
          omega
      · have hstop : ¬ r.Fits (done ++ [p] ++ fragmentsOf maxPayloadSize header n
            (rest.drop cur)) := by
          intro h
          exact hnext ((r.fits_append _ _).mp h).1
        simp only [hstop, false_and, iff_false]
        rw [Room.Fits, htotal, hnum] at hnext
        by_cases hbytes : done.flatten.length + headerSize + cur ≤ r.maxPayloadLength
        · have hw1 : wrap32 ((writesOf done).filledSubLenSize + 1) = done.length + 1 := by
            apply wrap32_of_lt
            have := hr.1
            show done.length + 1 < 2 ^ 32
            omega
          rw [hw1, if_neg (by omega)]
          simp
        · rw [if_neg hbytes]
          split <;> simp

theorem fragmentsOf_forall {P : Bytes → Prop}
    (hp : ∀ rest, rest.length ≠ 0 → P (header rest (min maxPayloadSize rest.length) ++
      rest.take (min maxPayloadSize rest.length))) :
    ∀ (n : Nat) (rest : Bytes), ∀ p ∈ fragmentsOf maxPayloadSize header n rest, P p
  | 0, _, p, h => by simp [fragmentsOf] at h
  | n + 1, rest, p, h => by
    by_cases hrest : rest.length = 0
    · simp [fragmentsOf, hrest] at h
    · simp only [fragmentsOf, if_neg hrest, List.mem_cons] at h
      rcases h with rfl | h
      · exact hp rest hrest
      · exact fragmentsOf_forall hp n _ p h

include hheader in
theorem fragmentsOf_le (n : Nat) (rest : Bytes) :
    ∀ p ∈ fragmentsOf maxPayloadSize header n rest, p.length ≤ headerSize + maxPayloadSize := by
  apply fragmentsOf_forall
  intro rest _
  rw [List.length_append, hheader, List.length_take]
  omega

include hheader in
theorem fragmentsOf_pos (hpos : 0 < headerSize) (n : Nat) (rest : Bytes) :
    ∀ p ∈ fragmentsOf maxPayloadSize header n rest, 1 ≤ p.length := by
  apply fragmentsOf_forall
  intro rest _
  rw [List.length_append, hheader]
  omega

include hheader in
theorem length_fragmentsOf (hmax : 0 < maxPayloadSize) : ∀ (n : Nat) (rest : Bytes),
    rest.length ≤ n → (fragmentsOf maxPayloadSize header n rest).flatten.length =
      rest.length + headerSize * ((rest.length + (maxPayloadSize - 1)) / maxPayloadSize)
  | 0, rest, hn => by
    have hzero : (rest.length + (maxPayloadSize - 1)) / maxPayloadSize = 0 :=
      Nat.div_eq_of_lt (by omega)
    rw [hzero]
    simp [fragmentsOf]
    omega
  | n + 1, rest, hn => by
    by_cases hrest : rest.length = 0
    · have hzero : (rest.length + (maxPayloadSize - 1)) / maxPayloadSize = 0 :=
        Nat.div_eq_of_lt (by omega)
      rw [hzero]
      simp [fragmentsOf, hrest]
    · have ih := length_fragmentsOf hmax n (rest.drop (min maxPayloadSize rest.length)) (by
        rw [List.length_drop]
        omega)
      simp only [fragmentsOf, if_neg hrest, List.flatten_cons, List.length_append, ih, hheader,
        List.length_take, List.length_drop]
      by_cases hlast : rest.length ≤ maxPayloadSize
      · have hone : (rest.length + (maxPayloadSize - 1)) / maxPayloadSize = 1 :=
          Nat.div_eq_of_lt_le (by omega) (by omega)
        have hnone : (rest.length - min maxPayloadSize rest.length + (maxPayloadSize - 1)) /
            maxPayloadSize = 0 := Nat.div_eq_of_lt (by omega)
        rw [hone, hnone]
        omega
      · have hstep : (rest.length + (maxPayloadSize - 1)) / maxPayloadSize =
            (rest.length - min maxPayloadSize rest.length + (maxPayloadSize - 1)) /
              maxPayloadSize + 1 := by
          rw [← Nat.add_div_right _ hmax]
          congr 1
          omega
        rw [hstep, Nat.mul_succ]
        omega

end

end KvsWebrtc.H264
