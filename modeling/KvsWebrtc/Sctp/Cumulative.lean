import Mathlib.Data.Set.Card
import KvsWebrtc.Sctp.DataRun

/-!
# The cumulative TSN of a receiver

DATA and FORWARD-TSN chunks arrive in any order, repeated or not.  What they account for is a set of
TSNs: a DATA chunk its own, a FORWARD-TSN all TSNs up to the one it names.  The receiver keeps of it
the end of the part without gaps, `peerCumulativeTsn`, and an unordered list of the TSNs received
beyond it.

Principal result: `cumulative_tsn_exact`, over every sequence of such chunks within half the circle.
-/

namespace KvsWebrtc.Sctp

/-! ## What a chunk accounts for -/

/-- What a chunk says about TSNs. -/
inductive TsnEvent where
  /-- The TSN of a DATA chunk. -/
  | data (tsn : UINT32)
  /-- All TSNs up to the one of a FORWARD-TSN. -/
  | forward (newCumTsn : UINT32)

/-- The TSN an event names. -/
def TsnEvent.tsn : TsnEvent → UINT32
  | data tsn => tsn
  | forward newCumTsn => newCumTsn

/-- The event of a chunk.  A chunk too short for its TSN is ignored by the receiver. -/
def SctpChunk.tsnEvent (x : SctpChunk) : Option TsnEvent :=
  if x.type = SCTP_CHUNK_DATA ∧ 12 ≤ x.value.length then some (.data x.tsn)
  else if x.type = SCTP_CHUNK_FORWARD_TSN ∧ 4 ≤ x.value.length then some (.forward x.tsn)
  else none

def tsnEvents (xs : List SctpChunk) : List TsnEvent := xs.filterMap SctpChunk.tsnEvent

/-- `t` was received in a DATA chunk or covered by a FORWARD-TSN, counting from `c`. -/
def Accounted (c : UINT32) (evs : List TsnEvent) (t : UINT32) : Prop :=
  .data t ∈ evs ∨ ∃ n, .forward n ∈ evs ∧ Serial.ahead c t ≤ Serial.ahead c n

/-- Every TSN in `(c, t]` is accounted for. -/
def Contiguous (c : UINT32) (evs : List TsnEvent) (t : UINT32) : Prop :=
  ∀ x, 0 < Serial.ahead c x → Serial.ahead c x ≤ Serial.ahead c t → Accounted c evs x

/-- The TSNs received after a gap. -/
def outOfOrder (c : UINT32) (evs : List TsnEvent) : Set UINT32 :=
  { t | .data t ∈ evs ∧ ¬ Contiguous c evs t }

/-- `cum` is the largest TSN up to which all are accounted for, and `l` lists the received TSNs
beyond it, each once. -/
structure CumulativeExact (c : UINT32) (evs : List TsnEvent) (cum : UINT32) (l : List UINT32) :
    Prop where
  contiguous : Contiguous c evs cum
  greatest : ∀ t, Contiguous c evs t → Serial.ahead c t ≤ Serial.ahead c cum
  nodup : l.Nodup
  mem_iff : ∀ t, t ∈ l ↔ .data t ∈ evs ∧ Serial.ahead c cum < Serial.ahead c t

section

variable {c cum m : UINT32} {evs : List TsnEvent} {l : List UINT32}

theorem Accounted.append (h : Accounted c evs m) (evs' : List TsnEvent) :
    Accounted c (evs ++ evs') m := by
  rcases h with h | ⟨n, h, hle⟩
  · exact .inl (List.mem_append_left _ h)
  · exact .inr ⟨n, List.mem_append_left _ h, hle⟩

/-! ## The invariant -/

/-- All is accounted for up to `m`, and `l` lists the received TSNs beyond it. -/
structure Reaches (c : UINT32) (evs : List TsnEvent) (m : UINT32) (l : List UINT32) : Prop where
  window : Serial.ahead c m < 2 ^ 31
  contiguous : Contiguous c evs m
  skips : ∀ n, .forward n ∈ evs → Serial.ahead c n ≤ Serial.ahead c m
  nodup : l.Nodup
  mem_iff : ∀ t, t ∈ l ↔ .data t ∈ evs ∧ Serial.ahead c m < Serial.ahead c t

/-- The events name TSNs within half the circle from `c`. -/
def Near (c : UINT32) (evs : List TsnEvent) : Prop :=
  ∀ ev ∈ evs, Serial.ahead c ev.tsn < 2 ^ 31

theorem Reaches.tracked (h : Reaches c evs m l) (hnear : Near c evs) : Tracked m l := by
  refine ⟨h.nodup, fun t ht => ?_⟩
  obtain ⟨hdata, hlt⟩ := (h.mem_iff t).mp ht
  have hin : Serial.ahead c t < 2 ^ 31 := hnear _ hdata
  have hdist := Serial.ahead_of_le (c := c) (t := m) (u := t) (by omega)
  omega

theorem Reaches.advance (h : Reaches c evs m l) (hnear : Near c evs) :
    Reaches c evs (advanceCumTsn (l.length + 1) m l).1 (advanceCumTsn (l.length + 1) m l).2 ∧
      (advanceCumTsn (l.length + 1) m l).1 + 1 ∉ (advanceCumTsn (l.length + 1) m l).2 := by
  have hadv := advanceCumTsn_spec (l.length + 1) (Nat.lt_succ_self _) (h.tracked hnear)
  generalize advanceCumTsn (l.length + 1) m l = r at hadv
  have hmove : Serial.ahead c r.1 = Serial.ahead c m + Serial.ahead m r.1 :=
    Serial.ahead_trans (by have := h.window; have := hadv.ahead_lt; omega)
  -- a TSN beyond `m` is passed by the loop or kept
  have hdist : ∀ {t}, Serial.ahead c m < Serial.ahead c t →
      Serial.ahead m t = Serial.ahead c t - Serial.ahead c m := by
    intro t hlt
    have := Serial.ahead_of_le (c := c) (t := m) (u := t) (by omega)
    omega
  have hwindow : Serial.ahead c r.1 < 2 ^ 31 := by
    by_cases h0 : Serial.ahead m r.1 = 0
    · have := h.window
      omega
    · have hin := (hadv.mem_iff r.1).mpr (.inr ⟨by omega, Nat.le_refl _⟩)
      exact hnear _ ((h.mem_iff r.1).mp hin).1
  refine ⟨⟨hwindow, ?_, ?_, hadv.tracked.nodup, ?_⟩, hadv.stuck⟩
  · intro x hx0 hxle
    by_cases hxm : Serial.ahead c x ≤ Serial.ahead c m
    · exact h.contiguous x hx0 hxm
    · have hd := hdist (t := x) (by omega)
      exact .inl ((h.mem_iff x).mp ((hadv.mem_iff x).mpr (.inr (by omega)))).1
  · intro n hn
    have := h.skips n hn
    omega
  · intro t
    constructor
    · intro ht
      obtain ⟨hdata, hlt⟩ := (h.mem_iff t).mp ((hadv.mem_iff t).mpr (.inl ht))
      obtain ⟨h0, h1⟩ := hadv.tracked.ahead t ht
      have htrans : Serial.ahead c t = Serial.ahead c r.1 + Serial.ahead r.1 t :=
        Serial.ahead_trans (by omega)
      exact ⟨hdata, by omega⟩
    · rintro ⟨hdata, hlt⟩
      have hd := hdist (t := t) (by omega)
      rcases (hadv.mem_iff t).mp ((h.mem_iff t).mpr ⟨hdata, by omega⟩) with ht | ht
      · exact ht
      · omega

theorem Reaches.exact (h : Reaches c evs cum l) (hstuck : cum + 1 ∉ l) :
    CumulativeExact c evs cum l := by
  refine ⟨h.contiguous, fun t ht => ?_, h.nodup, h.mem_iff⟩
  by_contra hlt
  have hnext := ahead_succ_window h.window
  rcases ht (cum + 1) (by omega) (by omega) with hdata | ⟨n, hn, hle⟩
  · exact hstuck ((h.mem_iff _).mpr ⟨hdata, by omega⟩)
  · have := h.skips n hn
    omega

theorem finite_tsns (s : Set UINT32) : s.Finite :=
  have : Finite UINT32 := Finite.of_injective BitVec.toFin fun _ _ h => BitVec.eq_of_toFin_eq h
  Set.toFinite s

theorem CumulativeExact.length_le (h : CumulativeExact c evs cum l) :
    l.length ≤ (outOfOrder c evs).ncard := by
  classical
  have hsub : (l.toFinset : Set UINT32) ⊆ outOfOrder c evs := by
    intro t ht
    obtain ⟨hdata, hlt⟩ := (h.mem_iff t).mp (List.mem_toFinset.mp ht)
    refine ⟨hdata, fun hcont => ?_⟩
    have := h.greatest t hcont
    omega
  have hcard := Set.ncard_le_ncard hsub (finite_tsns _)
  rw [Set.ncard_coe_finset, List.toFinset_card_of_nodup h.nodup] at hcard
  exact hcard

/-! ## What an event does -/

/-- The tracking state after an event. -/
def TsnEvent.track (cum : UINT32) (l : List UINT32) : TsnEvent → UINT32 × List UINT32
  | data tsn =>
    if tsn = cum + 1 ∨ TSN_GT tsn (cum + 1) then trackedAfter cum l tsn else (cum, l)
  | forward newCumTsn => if TSN_GT newCumTsn cum then forwardedTo l newCumTsn else (cum, l)

@[simp] theorem TsnEvent.track_data (cum : UINT32) (l : List UINT32) (tsn : UINT32) :
    (TsnEvent.data tsn).track cum l =
      if tsn = cum + 1 ∨ TSN_GT tsn (cum + 1) then trackedAfter cum l tsn else (cum, l) := rfl

@[simp] theorem TsnEvent.track_forward (cum : UINT32) (l : List UINT32) (newCumTsn : UINT32) :
    (TsnEvent.forward newCumTsn).track cum l =
      if TSN_GT newCumTsn cum then forwardedTo l newCumTsn else (cum, l) := rfl

theorem Reaches.inOrder (h : Reaches c evs cum l) (hstuck : cum + 1 ∉ l)
    (hnear : Near c (evs ++ [.data (cum + 1)])) :
    Reaches c (evs ++ [.data (cum + 1)]) (cum + 1) l := by
  have hnext := ahead_succ_window h.window
  refine ⟨hnear (.data (cum + 1)) (by simp), fun x hx0 hxle => ?_, fun n hn => ?_, h.nodup,
    fun t => ?_⟩
  · by_cases hx : Serial.ahead c x ≤ Serial.ahead c cum
    · exact (h.contiguous x hx0 hx).append _
    · have heq : Serial.ahead c x = Serial.ahead c (cum + 1) := by omega
      rw [Serial.ahead_inj heq]
      exact .inl (by simp)
  · have := h.skips n (by simpa using hn)
    omega
  · rw [h.mem_iff]
    constructor
    · rintro ⟨hdata, hlt⟩
      refine ⟨List.mem_append_left _ hdata, ?_⟩
      have hne : t ≠ cum + 1 := by
        rintro rfl
        exact hstuck ((h.mem_iff _).mpr ⟨hdata, hlt⟩)
      have : Serial.ahead c t ≠ Serial.ahead c (cum + 1) := fun heq => hne (Serial.ahead_inj heq)
      omega
    · rintro ⟨hdata, hlt⟩
      rcases List.mem_append.mp hdata with hdata | hdata
      · exact ⟨hdata, by omega⟩
      · obtain rfl : t = cum + 1 := by simpa using hdata
        omega

theorem Reaches.listed (h : Reaches c evs cum l) {tsn : UINT32}
    (hlt : Serial.ahead c cum < Serial.ahead c tsn) (hnew : tsn ∉ l) :
    Reaches c (evs ++ [.data tsn]) cum (l ++ [tsn]) := by
  refine ⟨h.window, fun x hx0 hxle => (h.contiguous x hx0 hxle).append _, fun n hn => ?_, ?_,
    fun t => ?_⟩
  · exact h.skips n (by simpa using hn)
  · rw [List.nodup_append]
    refine ⟨h.nodup, List.nodup_singleton _, ?_⟩
    rintro a ha b hb rfl
    exact hnew (List.mem_singleton.mp hb ▸ ha)
  · rw [List.mem_append, h.mem_iff, List.mem_append, List.mem_singleton, List.mem_singleton]
    constructor
    · rintro (⟨hdata, hgt⟩ | rfl)
      · exact ⟨.inl hdata, hgt⟩
      · exact ⟨.inr rfl, hlt⟩
    · rintro ⟨hdata | hdata, hgt⟩
      · exact .inl ⟨hdata, hgt⟩
      · cases hdata
        exact .inr rfl

theorem Reaches.repeated (h : Reaches c evs cum l) {ev : TsnEvent}
    (hdata : ∀ t, ev = .data t → t ∈ l ∨ Serial.ahead c t ≤ Serial.ahead c cum)
    (hforward : ∀ n, ev = .forward n → Serial.ahead c n ≤ Serial.ahead c cum) :
    Reaches c (evs ++ [ev]) cum l := by
  refine ⟨h.window, fun x hx0 hxle => (h.contiguous x hx0 hxle).append _, fun n hn => ?_, h.nodup,
    fun t => ?_⟩
  · rcases List.mem_append.mp hn with hn | hn
    · exact h.skips n hn
    · exact hforward n (List.mem_singleton.mp hn).symm
  · constructor
    · intro ht
      obtain ⟨hin, hgt⟩ := (h.mem_iff t).mp ht
      exact ⟨List.mem_append_left _ hin, hgt⟩
    · rintro ⟨hin, hgt⟩
      rcases List.mem_append.mp hin with hin | hin
      · exact (h.mem_iff t).mpr ⟨hin, hgt⟩
      · rcases hdata t (List.mem_singleton.mp hin).symm with ht | ht
        · exact ht
        · omega

/-- A FORWARD-TSN beyond the cumulative TSN skips up to its TSN and drops what is not beyond it. -/
theorem Reaches.skipped (h : Reaches c evs cum l) {newCumTsn : UINT32}
    (hnear : Near c (evs ++ [.forward newCumTsn]))
    (hlt : Serial.ahead c cum < Serial.ahead c newCumTsn) :
    Reaches c (evs ++ [.forward newCumTsn]) newCumTsn (dropReceived newCumTsn l.length 0 l) := by
  have hperm := dropReceived_perm newCumTsn l.length 0 l (by omega)
    (fun j t hj _ => absurd hj (Nat.not_lt_zero _))
  have hwin : Serial.ahead c newCumTsn < 2 ^ 31 := hnear (.forward newCumTsn) (by simp)
  refine ⟨hwin, fun x hx0 hxle => .inr ⟨newCumTsn, by simp, hxle⟩, fun n hn => ?_,
    hperm.nodup_iff.mpr (h.nodup.filter _), fun t => ?_⟩
  · rcases List.mem_append.mp hn with hn | hn
    · have := h.skips n hn
      omega
    · obtain rfl : n = newCumTsn := by simpa using hn
      exact Nat.le_refl _
  · rw [hperm.mem_iff, List.mem_filter, h.mem_iff, decide_eq_true_iff]
    have hgt : .data t ∈ evs →
        (TSN_GT t newCumTsn ↔ Serial.ahead c newCumTsn < Serial.ahead c t) := by
      intro hdata
      have ht : Serial.ahead c t < 2 ^ 31 := hnear (.data t) (List.mem_append_left _ hdata)
      exact Serial.gt_iff_of_window (c := c) (by omega) (by omega)
    constructor
    · rintro ⟨⟨hdata, -⟩, hg⟩
      exact ⟨List.mem_append_left _ hdata, (hgt hdata).mp hg⟩
    · rintro ⟨hdata, hg⟩
      have hin : .data t ∈ evs := by simpa using hdata
      exact ⟨⟨hin, by omega⟩, (hgt hin).mpr hg⟩

theorem Reaches.track (h : Reaches c evs cum l) (hstuck : cum + 1 ∉ l) (ev : TsnEvent)
    (hnear : Near c (evs ++ [ev]))
    (hfew : (outOfOrder c (evs ++ [ev])).ncard ≤ SCTP_MAX_RECEIVED) :
    Reaches c (evs ++ [ev]) (ev.track cum l).1 (ev.track cum l).2 ∧
      (ev.track cum l).1 + 1 ∉ (ev.track cum l).2 := by
  have hev : Serial.ahead c ev.tsn < 2 ^ 31 := hnear ev (by simp)
  have hcum := h.window
  cases ev with
  | data tsn =>
    have hev : Serial.ahead c tsn < 2 ^ 31 := hev
    rw [TsnEvent.track_data]
    split
    · rename_i hnew
      have hlt : Serial.ahead c cum < Serial.ahead c tsn := (beyond_iff hcum hev).mp hnew
      unfold trackedAfter
      split
      · rename_i heq
        subst heq
        exact (h.inOrder hstuck hnear).advance hnear
      · rename_i hne
        by_cases hmem : tsn ∈ l
        · rw [if_neg (fun hroom => hroom.1 hmem)]
          refine ⟨h.repeated (fun t ht => ?_) (fun n hn => by cases hn), hstuck⟩
          cases ht
          exact .inl hmem
        · -- the list with `tsn` is exact, so its length is a number of TSNs out of order
          have hlisted := h.listed hlt hmem
          have hstuck' : cum + 1 ∉ l ++ [tsn] := by
            rw [List.mem_append, List.mem_singleton]
            rintro (hin | heq)
            · exact hstuck hin
            · exact hne heq.symm
          have hlen := (hlisted.exact hstuck').length_le
          rw [List.length_append, List.length_singleton] at hlen
          rw [if_pos ⟨hmem, by omega⟩]
          exact ⟨hlisted, hstuck'⟩
    · rename_i hold
      refine ⟨h.repeated (fun t ht => ?_) (fun n hn => by cases hn), hstuck⟩
      cases ht
      exact .inr (Nat.le_of_not_lt fun hlt => hold ((beyond_iff hcum hev).mpr hlt))
  | forward newCumTsn =>
    have hev : Serial.ahead c newCumTsn < 2 ^ 31 := hev
    have hgt : TSN_GT newCumTsn cum ↔ Serial.ahead c cum < Serial.ahead c newCumTsn :=
      Serial.gt_iff_of_window (c := c) (by omega) (by omega)
    rw [TsnEvent.track_forward]
    split
    · rename_i hnew
      exact (h.skipped hnear (hgt.mp hnew)).advance hnear
    · rename_i hold
      refine ⟨h.repeated (fun t ht => by cases ht) (fun n hn => ?_), hstuck⟩
      cases hn
      exact Nat.le_of_not_lt fun hlt => hold (hgt.mpr hlt)

end

/-! ## What a chunk does -/

section

variable {h : Host} {messageFn : Bool} {x : SctpChunk}

/-- A chunk of data transfer from the peer. -/
def SctpChunk.Transfers (x : SctpChunk) : Prop :=
  x.type = SCTP_CHUNK_DATA ∨ x.type = SCTP_CHUNK_FORWARD_TSN

instance (x : SctpChunk) : Decidable x.Transfers := inferInstanceAs (Decidable (_ ∨ _))

theorem sctpHandleForwardTsn_track {pValue : Bytes} (hlen : 4 ≤ pValue.length) :
    (sctpHandleForwardTsn h pValue).trackSide = { h.trackSide with
      peerCumulativeTsn := ((TsnEvent.forward (getUnalignedInt32BigEndian pValue 0)).track
        h.assoc.peerCumulativeTsn h.assoc.receivedTsns).1
      receivedTsns := ((TsnEvent.forward (getUnalignedInt32BigEndian pValue 0)).track
        h.assoc.peerCumulativeTsn h.assoc.receivedTsns).2 } := by
  rw [TsnEvent.track_forward]
  split
  · rename_i hgt
    exact sctpHandleForwardTsn_trackSide hlen hgt
  · rename_i hgt
    unfold sctpHandleForwardTsn
    rw [if_neg (by omega)]
    simp only
    rw [if_neg hgt, sctpSendSack_trackSide]
    rfl

theorem Listens.handleData_track (hl : Listens h) {flags : UINT8} {pValue : Bytes}
    (hlen : 12 ≤ pValue.length) :
    (sctpHandleData h messageFn flags pValue).trackSide = { h.trackSide with
      peerCumulativeTsn := ((TsnEvent.data (getUnalignedInt32BigEndian pValue 0)).track
        h.assoc.peerCumulativeTsn h.assoc.receivedTsns).1
      receivedTsns := ((TsnEvent.data (getUnalignedInt32BigEndian pValue 0)).track
        h.assoc.peerCumulativeTsn h.assoc.receivedTsns).2 } := by
  rw [TsnEvent.track_data]
  split
  · rename_i hnew
    exact sctpHandleData_trackSide messageFn flags hlen hl.state hl.valid hnew
  · rename_i hold
    exact congrArg RecvSide.trackSide
      (sctpHandleData_old messageFn flags hlen hl.state hl.valid hold)

theorem Listens.dispatch_some (hl : Listens h) {ev : TsnEvent} (hev : x.tsnEvent = some ev) :
    (sctpChunkDispatch messageFn h x).trackSide = { h.trackSide with
      peerCumulativeTsn := (ev.track h.assoc.peerCumulativeTsn h.assoc.receivedTsns).1
      receivedTsns := (ev.track h.assoc.peerCumulativeTsn h.assoc.receivedTsns).2 } := by
  unfold SctpChunk.tsnEvent at hev
  split at hev
  · rename_i hx
    cases hev
    rw [sctpChunkDispatch_data hx.1]
    exact hl.handleData_track hx.2
  · split at hev
    · rename_i hx
      cases hev
      rw [sctpChunkDispatch_forwardTsn hx.1]
      exact sctpHandleForwardTsn_track hx.2
    · cases hev

theorem dispatch_none (hx : x.Transfers) (hev : x.tsnEvent = none) :
    sctpChunkDispatch messageFn h x = h := by
  unfold SctpChunk.tsnEvent at hev
  split at hev
  · cases hev
  · rename_i hdata
    split at hev
    · cases hev
    · rename_i hforward
      rcases hx with hx | hx
      · rw [sctpChunkDispatch_data hx]
        exact sctpHandleData_ignored (.inl (Nat.lt_of_not_le fun hlen => hdata ⟨hx, hlen⟩))
      · rw [sctpChunkDispatch_forwardTsn hx]
        unfold sctpHandleForwardTsn
        rw [if_pos (Nat.lt_of_not_le fun hlen => hforward ⟨hx, hlen⟩)]

theorem Listens.dispatch (hl : Listens h) (hx : x.Transfers) :
    Listens (sctpChunkDispatch messageFn h x) := by
  cases hev : x.tsnEvent with
  | none =>
    rw [dispatch_none hx hev]
    exact hl
  | some ev =>
    have hside : (sctpChunkDispatch messageFn h x).trackSide = _ := hl.dispatch_some hev
    exact ⟨(congrArg TrackSide.state hside).trans hl.state,
      (congrArg TrackSide.peerCumulativeTsnValid hside).trans hl.valid⟩

end

/-! ## Sequences of chunks -/

/-- The receiver after a sequence of chunks. -/
def Host.receive (messageFn : Bool) (h : Host) (xs : List SctpChunk) : Host :=
  xs.foldl (sctpChunkDispatch messageFn) h

theorem Host.receive_concat (messageFn : Bool) (h : Host) (xs : List SctpChunk) (x : SctpChunk) :
    h.receive messageFn (xs ++ [x]) = sctpChunkDispatch messageFn (h.receive messageFn xs) x :=
  List.foldl_concat ..

theorem tsnEvents_concat (xs : List SctpChunk) (x : SctpChunk) :
    tsnEvents (xs ++ [x]) = tsnEvents xs ++ x.tsnEvent.toList := by
  unfold tsnEvents
  rw [List.filterMap_append]
  cases hev : x.tsnEvent with
  | none => simp [hev]
  | some ev => simp [hev]

/-- The receiver's state after `xs` is exact. -/
structure KeepsUp (c : UINT32) (h : Host) (xs : List SctpChunk) : Prop extends Listens h where
  reaches : Reaches c (tsnEvents xs) h.assoc.peerCumulativeTsn h.assoc.receivedTsns
  stuck : h.assoc.peerCumulativeTsn + 1 ∉ h.assoc.receivedTsns

theorem KeepsUp.nil {h : Host} (hl : Listens h) (hempty : h.assoc.receivedTsns = []) :
    KeepsUp h.assoc.peerCumulativeTsn h [] := by
  refine ⟨hl, ⟨?_, fun x h0 hle => ?_, fun n hn => ?_, ?_, fun t => ?_⟩, ?_⟩
  · rw [Serial.ahead_self]
    decide
  · rw [Serial.ahead_self] at hle
    omega
  · cases hn
  · rw [hempty]
    exact List.nodup_nil
  · rw [hempty]
    simp [tsnEvents]
  · rw [hempty]
    exact List.not_mem_nil

theorem KeepsUp.concat {c : UINT32} {h : Host} {xs : List SctpChunk} (hf : KeepsUp c h xs)
    (messageFn : Bool) {x : SctpChunk} (hx : x.Transfers) (hnear : Near c (tsnEvents (xs ++ [x])))
    (hfew : (outOfOrder c (tsnEvents (xs ++ [x]))).ncard ≤ SCTP_MAX_RECEIVED) :
    KeepsUp c (sctpChunkDispatch messageFn h x) (xs ++ [x]) := by
  have hevs := tsnEvents_concat xs x
  cases hev : x.tsnEvent with
  | none =>
    rw [hev, Option.toList_none, List.append_nil] at hevs
    rw [dispatch_none hx hev]
    exact ⟨hf.toListens, hevs ▸ hf.reaches, hf.stuck⟩
  | some ev =>
    rw [hev, Option.toList_some] at hevs
    rw [hevs] at hnear hfew
    obtain ⟨hreaches, hstuck⟩ := hf.reaches.track hf.stuck ev hnear hfew
    have hside : (sctpChunkDispatch messageFn h x).trackSide = _ := hf.toListens.dispatch_some hev
    have hcum : (sctpChunkDispatch messageFn h x).assoc.peerCumulativeTsn = _ :=
      congrArg TrackSide.peerCumulativeTsn hside
    have hlist : (sctpChunkDispatch messageFn h x).assoc.receivedTsns = _ :=
      congrArg TrackSide.receivedTsns hside
    refine ⟨hf.toListens.dispatch hx, ?_, ?_⟩
    · rw [hevs, hcum, hlist]
      exact hreaches
    · rw [hcum, hlist]
      exact hstuck

theorem KeepsUp.receive {h : Host} (hl : Listens h) (hempty : h.assoc.receivedTsns = [])
    (messageFn : Bool) (xs : List SctpChunk) (hxs : ∀ x ∈ xs, x.Transfers)
    (hnear : Near h.assoc.peerCumulativeTsn (tsnEvents xs))
    (hfew : ∀ pre, pre <+: xs →
      (outOfOrder h.assoc.peerCumulativeTsn (tsnEvents pre)).ncard ≤ SCTP_MAX_RECEIVED) :
    KeepsUp h.assoc.peerCumulativeTsn (h.receive messageFn xs) xs := by
  induction xs using List.reverseRecOn with
  | nil => exact KeepsUp.nil hl hempty
  | append_singleton xs x ih =>
    have hsub : Near h.assoc.peerCumulativeTsn (tsnEvents xs) := by
      intro ev hev
      refine hnear ev ?_
      rw [tsnEvents_concat]
      exact List.mem_append_left _ hev
    have hf := ih (fun y hy => hxs y (List.mem_append_left _ hy)) hsub
      (fun pre hpre => hfew pre (hpre.trans (List.prefix_append _ _)))
    rw [Host.receive_concat]
    exact hf.concat messageFn (hxs x (by simp)) hnear (hfew _ (List.prefix_refl _))

/-- **Over every sequence of DATA and FORWARD-TSN chunks within half the circle, with room for what
is out of order, `peerCumulativeTsn` is the largest TSN up to which all are accounted for and
`receivedTsns` lists the received TSNs beyond it, each once.** -/
theorem cumulative_tsn_exact (clock : Nat → UINT64) (localPort remotePort mtu : UINT16)
    (ops : List Op) (h : Host) (hreach : h = (sctpAssocInit clock localPort remotePort mtu).run ops)
    (hst : h.assoc.state = .ESTABLISHED) (hempty : h.assoc.receivedTsns = []) (messageFn : Bool)
    (xs : List SctpChunk) (hxs : ∀ x ∈ xs, x.Transfers)
    (hnear : ∀ ev ∈ tsnEvents xs, Serial.ahead h.assoc.peerCumulativeTsn ev.tsn < 2 ^ 31)
    (hfew : ∀ pre, pre <+: xs →
      (outOfOrder h.assoc.peerCumulativeTsn (tsnEvents pre)).ncard ≤ SCTP_MAX_RECEIVED) :
    CumulativeExact h.assoc.peerCumulativeTsn (tsnEvents xs)
      (h.receive messageFn xs).assoc.peerCumulativeTsn
      (h.receive messageFn xs).assoc.receivedTsns := by
  have hl : Listens h :=
    ⟨hst, (hreach ▸ run_knowsPeer clock localPort remotePort mtu ops : KnowsPeer h).valid (.inr hst)⟩
  have hf := KeepsUp.receive hl hempty messageFn xs hxs hnear hfew
  exact hf.reaches.exact hf.stuck

theorem ncard_outOfOrder_le (c : UINT32) (evs : List TsnEvent) :
    (outOfOrder c evs).ncard ≤ evs.length := by
  classical
  have hsub : outOfOrder c evs ⊆ ((evs.map TsnEvent.tsn).toFinset : Set UINT32) := by
    intro t ht
    exact List.mem_toFinset.mpr (List.mem_map.mpr ⟨.data t, ht.1, rfl⟩)
  have hcard := Set.ncard_le_ncard hsub (Finset.finite_toSet _)
  rw [Set.ncard_coe_finset] at hcard
  exact hcard.trans ((List.toFinset_card_le _).trans_eq (List.length_map _))

/-- TSN 102 before TSN 100, on the association of the sample peer: TSN 100 is reached and TSN 102
listed. -/
theorem cumulative_tsn_exact_gap :
    ∃ h : Host, h = (sctpAssocInit (fun _ => 7) 5000 5000 1150).run
        [.handlePacket true sampleCookieEcho] ∧
      (h.receive true [sampleAhead, sampleData]).assoc.receivedTsns = [102] ∧
      CumulativeExact 99 [.data 102, .data 100]
        (h.receive true [sampleAhead, sampleData]).assoc.peerCumulativeTsn [102] := by
  refine ⟨_, rfl, by decide +kernel, ?_⟩
  have hevs : tsnEvents [sampleAhead, sampleData] = [.data 102, .data 100] := rfl
  have hcum : ((sctpAssocInit (fun _ => 7) 5000 5000 1150).run
      [.handlePacket true sampleCookieEcho]).assoc.peerCumulativeTsn = 99 := by decide +kernel
  have hlist : (((sctpAssocInit (fun _ => 7) 5000 5000 1150).run
      [.handlePacket true sampleCookieEcho]).receive true
        [sampleAhead, sampleData]).assoc.receivedTsns = [102] := by decide +kernel
  have hexact := cumulative_tsn_exact (fun _ => 7) 5000 5000 1150
    [.handlePacket true sampleCookieEcho] _ rfl (by decide +kernel) (by decide +kernel) true
    [sampleAhead, sampleData] (by decide) (fun ev hev => ?_) (fun pre hpre => ?_)
  · rw [hcum, hevs, hlist] at hexact
    exact hexact
  · rw [hcum]
    rw [hevs] at hev
    rcases List.mem_pair.mp hev with rfl | rfl <;> decide
  · have hlen : (tsnEvents pre).length ≤ 2 :=
      (List.length_filterMap_le _ _).trans hpre.length_le
    exact (ncard_outOfOrder_le _ _).trans (hlen.trans (by decide))

end KvsWebrtc.Sctp
