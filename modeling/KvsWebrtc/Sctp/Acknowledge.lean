import KvsWebrtc.Sctp.Delivery

/-!
# What the receiver acknowledges

A TSN is recorded for the SACK before the delivery block decides what becomes of the chunk.
`AckOk` says that the tracking state names only TSNs that were accepted, `gapBlocks_sound` that a
SACK covers no others.

Principal result: `acknowledged_delivered` — a message whose last TSN is covered by the SACKs has
been delivered, as long as every accepted fragment can be used for the reassembly when it arrives.
-/

namespace KvsWebrtc.Sctp

/-! ## The TSNs that a SACK covers -/

/-- The TSNs that both loops of `sctpHandleSack` take as acknowledged by the SACK `pValue`. -/
def SackCovers (pValue : Bytes) (tsn : UINT32) : Prop :=
  let cumTsn := getUnalignedInt32BigEndian pValue 0
  let numGaps := (getUnalignedInt16BigEndian pValue 8).toNat
  12 ≤ pValue.length ∧ (TSN_LTE tsn cumTsn ∨ (12 + numGaps * 4 ≤ pValue.length ∧ ∃ i < numGaps,
    TSN_GTE tsn (cumTsn + (getUnalignedInt16BigEndian pValue (12 + 4 * i)).setWidth 32) ∧
    TSN_LTE tsn (cumTsn + (getUnalignedInt16BigEndian pValue (12 + 4 * i + 2)).setWidth 32)))

/-- A SACK among the packets covers the TSN. -/
def Acknowledged (out : List OutPacket) (tsn : UINT32) : Prop :=
  ∃ p ∈ out, ∃ vtag v, Carries p.bytes vtag ⟨SCTP_CHUNK_SACK, 0, v⟩ ∧ SackCovers v tsn

@[simp] theorem length_sackValue (cum arwnd : UINT32) (gaps : List (UINT16 × UINT16)) :
    (sackValue cum arwnd gaps).length = 12 + gaps.length * 4 := by
  simp [sackValue, List.length_flatMap]
  omega

theorem sackValue_fields (cum arwnd : UINT32) {gaps : List (UINT16 × UINT16)}
    (hlen : gaps.length < 65536) :
    getUnalignedInt32BigEndian (sackValue cum arwnd gaps) 0 = cum ∧
      (getUnalignedInt16BigEndian (sackValue cum arwnd gaps) 8).toNat = gaps.length ∧
      ∀ {i : Nat} (hi : i < gaps.length),
        getUnalignedInt16BigEndian (sackValue cum arwnd gaps) (12 + 4 * i) = gaps[i].1 ∧
          getUnalignedInt16BigEndian (sackValue cum arwnd gaps) (12 + 4 * i + 2) = gaps[i].2 := by
  have hgap : ∀ off, getUnalignedInt16BigEndian (sackValue cum arwnd gaps) (12 + off) =
      getUnalignedInt16BigEndian (gaps.flatMap (fun g => putUnalignedInt16BigEndian g.1 ++
        putUnalignedInt16BigEndian g.2)) off := by
    intro off
    unfold sackValue
    rw [get16_skip _ (by simp only [List.length_append, length_put32, length_put16]; omega)]
    simp only [List.length_append, length_put32, length_put16, Nat.reduceAdd, Nat.add_sub_cancel_left]
  refine ⟨?_, ?_, fun {i} hi => ?_⟩
  · simp only [sackValue, List.append_assoc]
    exact get32_put32 _ _
  · simp only [sackValue, List.append_assoc]
    rw [get16_skip _ (by simp), get16_skip _ (by simp)]
    simp only [length_put32, Nat.sub_self, Nat.reduceSub, get16_put16, BitVec.toNat_ofNat]
    exact Nat.mod_eq_of_lt hlen
  · obtain ⟨h1, h2⟩ := get16_gaps hi
    rw [Nat.add_assoc, hgap, hgap]
    exact ⟨h1, h2⟩

theorem sackCovers_sackValue_iff {cum arwnd tsn : UINT32} {gaps : List (UINT16 × UINT16)}
    (hlen : gaps.length < 65536) :
    SackCovers (sackValue cum arwnd gaps) tsn ↔
      TSN_LTE tsn cum ∨ ∃ g ∈ gaps, TSN_GTE tsn (cum + g.1.setWidth 32) ∧
        TSN_LTE tsn (cum + g.2.setWidth 32) := by
  obtain ⟨hcum, hnum, hgap⟩ := sackValue_fields cum arwnd hlen
  unfold SackCovers
  simp only [hcum, hnum]
  constructor
  · rintro ⟨-, hle | ⟨-, i, hi, hge, hle⟩⟩
    · exact .inl hle
    · obtain ⟨h1, h2⟩ := hgap hi
      rw [h1] at hge
      rw [h2] at hle
      exact .inr ⟨gaps[i], List.getElem_mem hi, hge, hle⟩
  · intro hc
    refine ⟨by rw [length_sackValue]; omega, ?_⟩
    rcases hc with hle | ⟨g, hg, hge, hle⟩
    · exact .inl hle
    · obtain ⟨i, hi, rfl⟩ := List.getElem_of_mem hg
      obtain ⟨h1, h2⟩ := hgap hi
      exact .inr ⟨by rw [length_sackValue], i, hi, by rw [h1]; exact hge, by rw [h2]; exact hle⟩

/-! ## The tracking state names accepted TSNs only -/

/-- The TSNs that the tracking state names were `seen`, and lie close to the cumulative TSN. -/
structure AckOk (b : UINT32) (seen : UINT32 → Prop) (cum : UINT32) (l : List UINT32) : Prop where
  window : InWindow b cum l
  upTo : ∀ t, 0 < Serial.ahead b t → Serial.ahead b t ≤ Serial.ahead b cum → seen t
  received : ∀ t ∈ l, seen t
  near : ∀ t ∈ l, Serial.ahead b t < Serial.ahead b cum + 65536

section

variable {b cum tsn : UINT32} {l : List UINT32} {seen : UINT32 → Prop}

theorem AckOk.imp (seen' : UINT32 → Prop) (ha : AckOk b seen cum l) (himp : ∀ t, seen t → seen' t) :
    AckOk b seen' cum l :=
  ⟨ha.window, fun t h0 hle => himp t (ha.upTo t h0 hle), fun t ht => himp t (ha.received t ht), ha.near⟩

theorem AckOk.succ (ha : AckOk b seen cum l) (hin : Serial.ahead b (cum + 1) < 2 ^ 31)
    (hseen : seen (cum + 1)) : AckOk b seen (cum + 1) l := by
  have hnext := ahead_succ_window ha.window.cum
  refine ⟨⟨hin, ha.window.received⟩, fun t h0 hle => ?_, ha.received, fun t ht => ?_⟩
  · by_cases heq : Serial.ahead b t = Serial.ahead b (cum + 1)
    · rw [Serial.ahead_inj heq]
      exact hseen
    · exact ha.upTo t h0 (by omega)
  · have := ha.near t ht
    omega

theorem AckOk.advance :
    ∀ (fuel : Nat) (cum : UINT32) (l : List UINT32), AckOk b seen cum l →
      AckOk b seen (advanceCumTsn fuel cum l).1 (advanceCumTsn fuel cum l).2
  | 0, _, _, ha => ha
  | fuel + 1, cum, l, ha => by
    unfold advanceCumTsn
    split
    · rename_i k hk
      obtain ⟨hlt, heq, _⟩ := List.findIdx?_eq_some_iff_getElem.mp hk
      have hcum : l[k] = cum + 1 := by simpa using heq
      have hmem : cum + 1 ∈ l := hcum ▸ List.getElem_mem hlt
      have ha1 := ha.succ (ha.window.received _ hmem) (ha.received _ hmem)
      have hsub : ∀ t ∈ swapRemove l k, t ∈ l := fun t ht => swapRemove_subset hlt ht
      exact AckOk.advance fuel (cum + 1) (swapRemove l k)
        ⟨⟨ha1.window.cum, fun t ht => ha1.window.received t (hsub t ht)⟩, ha1.upTo,
          fun t ht => ha1.received t (hsub t ht), fun t ht => ha1.near t (hsub t ht)⟩
    · exact ha

theorem AckOk.after (ha : AckOk b seen cum l) (hin : Serial.ahead b tsn < 2 ^ 31) (hseen : seen tsn)
    (hnear : Serial.ahead b tsn < Serial.ahead b cum + 65536) :
    AckOk b seen (trackedAfter cum l tsn).1 (trackedAfter cum l tsn).2 := by
  unfold trackedAfter
  split
  · rename_i heq
    subst heq
    exact AckOk.advance _ _ _ (ha.succ hin hseen)
  · split
    · refine ⟨⟨ha.window.cum, fun t ht => ?_⟩, ha.upTo, fun t ht => ?_, fun t ht => ?_⟩
      · rcases List.mem_append.mp ht with ht | ht
        · exact ha.window.received t ht
        · rw [List.mem_singleton.mp ht]
          exact hin
      · rcases List.mem_append.mp ht with ht | ht
        · exact ha.received t ht
        · rw [List.mem_singleton.mp ht]
          exact hseen
      · rcases List.mem_append.mp ht with ht | ht
        · exact ha.near t ht
        · rw [List.mem_singleton.mp ht]
          exact hnear
    · exact ha

/-! ## Gap blocks -/

theorem insertTsn_perm (x : UINT32) (l : List UINT32) : (insertTsn x l).Perm (x :: l) := by
  induction l with
  | nil => exact List.Perm.refl _
  | cons y l ih =>
    unfold insertTsn
    split
    · exact (ih.cons y).trans (List.Perm.swap x y l)
    · exact List.Perm.refl _

theorem foldl_insertTsn_perm (l acc : List UINT32) :
    (l.foldl (fun sorted x => insertTsn x sorted) acc).Perm (l ++ acc) := by
  induction l generalizing acc with
  | nil => exact List.Perm.refl _
  | cons x l ih => exact (ih _).trans ((insertTsn_perm x acc).append_left l |>.trans List.perm_middle)

theorem sortTsns_perm (l : List UINT32) : (sortTsns l).Perm l := by
  have hfold := foldl_insertTsn_perm l []
  rw [List.append_nil] at hfold
  exact (List.reverse_perm _).trans hfold

/-- A block names only TSNs that were seen, and stays in the window. -/
structure BlockOk (b cum : UINT32) (seen : UINT32 → Prop) (g : UINT16 × UINT16) : Prop where
  ordered : g.1.toNat ≤ g.2.toNat
  window : Serial.ahead b cum + g.2.toNat < 2 ^ 31
  seen : ∀ n, g.1.toNat ≤ n → n ≤ g.2.toNat → seen (cum + BitVec.ofNat 32 n)

theorem gapStep_ok (ha : AckOk b seen cum l) {gaps : List (UINT16 × UINT16)}
    (hg : ∀ g ∈ gaps, BlockOk b cum seen g) (ht : tsn ∈ l) :
    ∀ g ∈ gapStep cum gaps tsn, BlockOk b cum seen g := by
  unfold gapStep
  split
  · exact hg
  · split
    · exact hg
    · rename_i hgt
      have hin := ha.window.received tsn ht
      have hcum := ha.window.cum
      have hnear := ha.near tsn ht
      have hbeyond : Serial.ahead b cum < Serial.ahead b tsn := by
        have hle := Serial.le_iff_of_window (c := b) (t := tsn) (u := cum) (by omega) (by omega)
        have hnot : ¬ Serial.ahead b tsn ≤ Serial.ahead b cum := fun h => hgt (hle.mpr h)
        omega
      have hdist : Serial.ahead cum tsn = Serial.ahead b tsn - Serial.ahead b cum :=
        Serial.ahead_of_le (by omega)
      -- the distance fits the 16-bit offset
      have hoff : ((tsn - cum).setWidth 16 : UINT16).toNat = Serial.ahead cum tsn := by
        rw [BitVec.toNat_setWidth]
        exact Nat.mod_eq_of_lt (by show Serial.ahead cum tsn < _; omega)
      have hback : cum + BitVec.ofNat 32 (Serial.ahead cum tsn) = tsn :=
        (Serial.eq_add_ahead cum tsn).symm
      have hnew : BlockOk b cum seen ((tsn - cum).setWidth 16, (tsn - cum).setWidth 16) := by
        refine ⟨Nat.le_refl _, by rw [hoff]; omega, fun n h1 h2 => ?_⟩
        rw [hoff] at h1 h2
        obtain rfl : n = Serial.ahead cum tsn := by omega
        rw [hback]
        exact ha.received tsn ht
      cases gaps with
      | nil => exact fun g hmem => List.mem_singleton.mp hmem ▸ hnew
      | cons g rest =>
        obtain ⟨s, e⟩ := g
        simp only
        split
        · rename_i hadj
          rw [hoff] at hadj
          have hfirst := hg (s, e) List.mem_cons_self
          have hgrown : BlockOk b cum seen (s, (tsn - cum).setWidth 16) := by
            have hse : s.toNat ≤ e.toNat := hfirst.ordered
            refine ⟨by rw [hoff, hadj]; exact Nat.le_succ_of_le hse, hnew.window, fun n h1 h2 => ?_⟩
            rw [hoff] at h2
            by_cases heq : n = Serial.ahead cum tsn
            · rw [heq, hback]
              exact ha.received tsn ht
            · exact hfirst.seen n h1 (show n ≤ e.toNat by omega)
          exact List.forall_mem_cons.mpr ⟨hgrown, (List.forall_mem_cons.mp hg).2⟩
        · exact List.forall_mem_cons.mpr ⟨hnew, hg⟩

/-- **The gap blocks name only TSNs that were seen.** -/
theorem gapBlocks_sound (ha : AckOk b seen cum l) :
    ∀ g ∈ gapBlocks cum l, BlockOk b cum seen g := by
  have hfold : ∀ (ts : List UINT32) (gaps : List (UINT16 × UINT16)), (∀ t ∈ ts, t ∈ l) →
      (∀ g ∈ gaps, BlockOk b cum seen g) → ∀ g ∈ ts.foldl (gapStep cum) gaps, BlockOk b cum seen g := by
    intro ts
    induction ts with
    | nil => exact fun _ _ hg => hg
    | cons t ts ih =>
      intro gaps hts hg
      exact ih _ (fun u hu => hts u (List.mem_cons_of_mem _ hu))
        (gapStep_ok ha hg (hts t List.mem_cons_self))
  intro g hmem
  exact hfold _ [] (fun t ht => List.mem_of_mem_take ((sortTsns_perm _).mem_iff.mp ht)) (fun _ h => by cases h) g
    (List.mem_reverse.mp hmem)

theorem length_gapBlocks (cum : UINT32) (l : List UINT32) :
    (gapBlocks cum l).length ≤ SCTP_MAX_GAP_BLOCKS := by
  have hstep : ∀ (gaps : List (UINT16 × UINT16)) (t : UINT32), gaps.length ≤ SCTP_MAX_GAP_BLOCKS →
      (gapStep cum gaps t).length ≤ SCTP_MAX_GAP_BLOCKS := by
    intro gaps t hlen
    unfold gapStep
    split
    · exact hlen
    · rename_i hroom
      split
      · exact hlen
      · cases gaps with
        | nil => exact Nat.le_of_ble_eq_true rfl
        | cons g rest =>
          simp only
          split
          · exact hlen
          · exact Nat.lt_of_not_le hroom
  have hfold : ∀ (ts : List UINT32) (gaps : List (UINT16 × UINT16)),
      gaps.length ≤ SCTP_MAX_GAP_BLOCKS →
        (ts.foldl (gapStep cum) gaps).length ≤ SCTP_MAX_GAP_BLOCKS := by
    intro ts
    induction ts with
    | nil => exact fun _ h => h
    | cons t ts ih => exact fun gaps h => ih _ (hstep gaps t h)
  unfold gapBlocks
  rw [List.length_reverse]
  exact hfold _ [] (Nat.zero_le _)

/-- **A SACK covers only TSNs that were seen.** -/
theorem sack_sound (ha : AckOk b seen cum l) {arwnd t : UINT32} (h0 : 0 < Serial.ahead b t)
    (ht : Serial.ahead b t < 2 ^ 31) (hc : SackCovers (sackValue cum arwnd (gapBlocks cum l)) t) :
    seen t := by
  have hcum := ha.window.cum
  have hlen : (gapBlocks cum l).length < 65536 :=
    Nat.lt_of_le_of_lt (length_gapBlocks cum l) (by decide)
  rcases (sackCovers_sackValue_iff hlen).mp hc with hle | ⟨g, hg, hge, hle⟩
  · exact ha.upTo t h0 ((Serial.le_iff_of_window (by omega) (by omega)).mp hle)
  · obtain ⟨horder, hin, hall⟩ := gapBlocks_sound ha g hg
    have hbound : ∀ v : UINT16, Serial.ahead b (cum + v.setWidth 32) = Serial.ahead b cum + v.toNat := by
      intro v
      have hv := v.isLt
      rw [show (v.setWidth 32 : UINT32) = BitVec.ofNat 32 v.toNat from
        BitVec.eq_of_toNat_eq (by simp)]
      exact Serial.ahead_add (by omega)
    have hhigh : Serial.ahead b t ≤ Serial.ahead b cum + g.2.toNat := by
      have hle' := (Serial.le_iff_of_window (c := b) (by omega) (by rw [hbound]; omega)).mp hle
      rwa [hbound] at hle'
    have hlow : Serial.ahead b cum + g.1.toNat ≤ Serial.ahead b t := by
      rw [tsn_gte_iff] at hge
      by_contra hlt
      have hg1 := g.1.isLt
      rw [Serial.ahead_of_lt (c := b) (by rw [hbound]; omega), hbound] at hge
      omega
    have hdist : Serial.ahead cum t = Serial.ahead b t - Serial.ahead b cum :=
      Serial.ahead_of_le (by omega)
    have hseen := hall (Serial.ahead cum t) (by omega) (by omega)
    rwa [← Serial.eq_add_ahead cum t] at hseen

end

/-! ## The SACKs of a run -/

theorem Carries.unique {p : Bytes} {vtag vtag' : UINT32} {c c' : SctpChunk} (h : Carries p vtag c)
    (h' : Carries p vtag' c') : c = c' := by
  have heq := h.chunks.symm.trans h'.chunks
  cases heq
  rfl

/-- A SACK reports the tracking state. -/
def Reports (p : OutPacket) (cum : UINT32) (l : List UINT32) : Prop :=
  ∃ vtag, Carries p.bytes vtag
    ⟨SCTP_CHUNK_SACK, 0, sackValue cum SCTP_DEFAULT_ARWND (gapBlocks cum l)⟩

theorem sctpSendSack_reports {h : Host} (hvalid : h.assoc.peerCumulativeTsnValid = true) :
    ∃ p, (sctpSendSack h).outbound = h.outbound ++ [p] ∧
      Reports p h.assoc.peerCumulativeTsn h.assoc.receivedTsns := by
  have hfit : 16 + (gapBlocks h.assoc.peerCumulativeTsn h.assoc.receivedTsns).length * 4 < 65536 := by
    have hmax : SCTP_MAX_GAP_BLOCKS = 128 := rfl
    have hle := length_gapBlocks h.assoc.peerCumulativeTsn h.assoc.receivedTsns
    omega
  unfold sctpSendSack
  rw [if_neg (not_not.mpr hvalid)]
  obtain ⟨bytes, hside, hp⟩ := sendChunk_emits h h.assoc.peerVerificationTag
    (sctpWriteSackChunk h.assoc.peerCumulativeTsn SCTP_DEFAULT_ARWND
      (gapBlocks h.assoc.peerCumulativeTsn h.assoc.receivedTsns)) .control
  exact ⟨⟨bytes, .control⟩, congrArg SendSide.outbound hside, _,
    hp _ (sctpWriteSackChunk_is _ _ hfit)⟩

/-- **Every DATA chunk is answered** by a SACK that reports the tracking state after it. -/
theorem Listens.answers {h : Host} {c : SctpChunk} (hl : Listens h) (hlen : 12 ≤ c.value.length) :
    ∃ p, (h.handleData c).outbound = h.outbound ++ [p] ∧ Reports p
      (h.handleData c).assoc.peerCumulativeTsn (h.handleData c).assoc.receivedTsns := by
  have hsame : ∀ h' : Host,
      (sctpSendSack h').assoc.peerCumulativeTsn = h'.assoc.peerCumulativeTsn ∧
        (sctpSendSack h').assoc.receivedTsns = h'.assoc.receivedTsns := fun h' =>
    ⟨congrArg RecvSide.peerCumulativeTsn (sctpSendSack_recvSide h'),
      congrArg RecvSide.receivedTsns (sctpSendSack_recvSide h')⟩
  have hsack : ∃ h' : Host, h.handleData c = sctpSendSack h' ∧ h'.outbound = h.outbound ∧
      h'.assoc.peerCumulativeTsnValid = true := by
    unfold Host.handleData
    rw [sctpHandleData_eq hlen hl.state hl.valid]
    split
    · rw [if_pos rfl]
      refine ⟨_, rfl, ?_, ?_⟩
      · have hkeeps : TrackKeeps fun h' => h'.outbound = h.outbound :=
          ⟨fun _ _ _ _ _ => id, fun _ _ _ _ _ _ => id⟩
        exact hkeeps.deliverData _ _ _ _ _ (hkeeps.trackTsn _ rfl)
      · refine (congrArg TrackSide.peerCumulativeTsnValid (deliverData_trackSide _ _ _ _ _ _)).trans ?_
        rw [trackTsn_eq]
        exact hl.valid
    · exact ⟨_, rfl, rfl, hl.valid⟩
  obtain ⟨h', heq, hout, hvalid⟩ := hsack
  obtain ⟨p, hp, hrep⟩ := sctpSendSack_reports hvalid
  rw [heq, (hsame h').1, (hsame h').2, ← hout]
  exact ⟨p, hp, hrep⟩

theorem Listens.acknowledged {h : Host} {c : SctpChunk} (hl : Listens h)
    (hlen : 12 ≤ c.value.length) {n : Nat} {t : UINT32} (hn : n ≤ h.outbound.length)
    (hc : SackCovers (sackValue (h.handleData c).assoc.peerCumulativeTsn SCTP_DEFAULT_ARWND
      (gapBlocks (h.handleData c).assoc.peerCumulativeTsn (h.handleData c).assoc.receivedTsns)) t) :
    Acknowledged ((h.handleData c).outbound.drop n) t := by
  obtain ⟨p, hout, vtag, hp⟩ := hl.answers hlen
  refine ⟨p, ?_, vtag, _, hp, hc⟩
  rw [hout, List.drop_append_of_le_length hn]
  exact List.mem_append_right _ (List.mem_singleton_self p)

/-- A receiver that has acknowledged only what was `seen`, since its log had length `n`. -/
structure Acks (b : UINT32) (seen : UINT32 → Prop) (n : Nat) (h : Host) : Prop where
  listens : Listens h
  tracked : AckOk b seen h.assoc.peerCumulativeTsn h.assoc.receivedTsns
  log : n ≤ h.outbound.length
  sacks : ∀ t, 0 < Serial.ahead b t → Serial.ahead b t < 2 ^ 31 →
    Acknowledged (h.outbound.drop n) t → seen t

section

variable {b tsn0 : UINT32} {seen : UINT32 → Prop} {n : Nat} {h : Host} {x : Arrival}

theorem Acks.handleData (ha : Acks b seen n h) {c : SctpChunk} (hlen : 12 ≤ c.value.length)
    (hin : Serial.ahead b c.tsn < 2 ^ 31)
    (hnear : NewTsn h c.tsn → Serial.ahead h.assoc.peerCumulativeTsn c.tsn < 65536) :
    Acks b (fun t => seen t ∨ (NewTsn h c.tsn ∧ c.tsn = t)) n (h.handleData c) := by
  have hok : AckOk b (fun t => seen t ∨ (NewTsn h c.tsn ∧ c.tsn = t))
      (h.handleData c).assoc.peerCumulativeTsn (h.handleData c).assoc.receivedTsns := by
    have htrack := ha.listens.tracked hlen
    have hweak := ha.tracked.imp (fun t => seen t ∨ (NewTsn h c.tsn ∧ c.tsn = t))
      (fun _ hs => .inl hs)
    split at htrack
    · rename_i hnew
      have hcum := ha.tracked.window.cum
      have hbeyond := (newTsn_iff hcum hin).mp hnew
      have hdist := Serial.ahead_of_le (c := b) (t := h.assoc.peerCumulativeTsn) (u := c.tsn)
        (by omega)
      have hafter := hweak.after hin (.inr ⟨hnew, rfl⟩) (by have := hnear hnew; omega)
      rwa [← htrack] at hafter
    · obtain ⟨hcum, hrecv⟩ := Prod.mk.inj htrack
      rw [hcum, hrecv]
      exact hweak
  obtain ⟨p, hout, vtag, hp⟩ := ha.listens.answers hlen
  refine ⟨ha.listens.handleData hlen, hok, ?_, fun t h0 ht hack => ?_⟩
  · rw [hout, List.length_append]
    have := ha.log
    omega
  · rw [hout, List.drop_append_of_le_length ha.log] at hack
    obtain ⟨q, hq, vtag', v, hc, hcov⟩ := hack
    rcases List.mem_append.mp hq with hq | hq
    · exact .inl (ha.sacks t h0 ht ⟨q, hq, vtag', v, hc, hcov⟩)
    · rw [List.mem_singleton] at hq
      subst hq
      have hv := congrArg SctpChunk.value (hc.unique hp)
      simp only at hv
      rw [hv] at hcov
      exact sack_sound hok h0 ht hcov

theorem Acks.imp (seen' : UINT32 → Prop) (ha : Acks b seen n h) (himp : ∀ t, seen t → seen' t) :
    Acks b seen' n h :=
  ⟨ha.listens, ha.tracked.imp seen' himp, ha.log,
    fun t h0 ht hack => himp t (ha.sacks t h0 ht hack)⟩

end

/-! ## Acknowledged and delivered -/

/-- `x` can be used at once: it fits the reassembly, a fragment that does not start a message finds
its message in progress, and the TSN is close enough for a gap block. -/
structure Usable (tsn0 : UINT32) (h : Host) (last : Option Slice) (x : Arrival) : Prop extends
    Fits h last x where
  inProgress : x.begins = false → h.assoc.reassemblyInProgress = true
  near : Serial.ahead h.assoc.peerCumulativeTsn (x.chunk tsn0).tsn < 65536

/-- Every chunk that is accepted can be used at its arrival. -/
def UsableInSequence (tsn0 : UINT32) : Host → Option Slice → List Arrival → Prop
  | _, _, [] => True
  | h, last, x :: xs => (NewTsn h (x.chunk tsn0).tsn → Usable tsn0 h last x) ∧
      UsableInSequence tsn0 (h.handleData (x.chunk tsn0)) (h.took tsn0 last x) xs

section

variable {b tsn0 : UINT32} {seen : UINT32 → Prop} {n : Nat} {h : Host} {last : Option Slice}
  {xs : List Arrival}

theorem UsableInSequence.inSequence (hseq : UsableInSequence tsn0 h last xs) :
    InSequence tsn0 h last xs := by
  induction xs generalizing h last with
  | nil => trivial
  | cons x xs ih => exact ⟨fun hnew => (hseq.1 hnew).toFits, ih hseq.2⟩

theorem UsableInSequence.completes (hseq : UsableInSequence tsn0 h last xs) {x : Arrival}
    (hx : x ∈ h.accepted tsn0 xs) (hends : x.ends = true) : x.slice ∈ h.completed tsn0 xs := by
  induction xs generalizing h last with
  | nil => cases hx
  | cons y xs ih =>
    rw [Host.completed, List.mem_append]
    rcases List.mem_append.mp hx with hx | hx
    · split at hx
      · rename_i hnew
        rw [List.mem_singleton] at hx
        subst hx
        have hopen : x.begins = true ∨ h.assoc.reassemblyInProgress = true := by
          by_cases hb : x.begins = true
          · exact .inl hb
          · exact .inr ((hseq.1 hnew).inProgress (by simpa using hb))
        rw [if_pos (show h.completes tsn0 x = true from decide_eq_true ⟨hnew, hends, hopen⟩)]
        exact .inl (List.mem_singleton_self _)
      · cases hx
    · exact .inr (ih hseq.2 hx)

/-- **A run of chunks** acknowledges only what it accepts. -/
theorem UsableInSequence.acks (hseq : UsableInSequence tsn0 h last xs) (ha : Acks b seen n h)
    (hin : ∀ x ∈ xs, Serial.ahead b (x.chunk tsn0).tsn < 2 ^ 31) :
    Acks b (fun t => seen t ∨ ∃ x ∈ h.accepted tsn0 xs, (x.chunk tsn0).tsn = t) n
      (h.handleDatas (xs.map (Arrival.chunk tsn0))) := by
  induction xs generalizing h last seen with
  | nil => exact ha.imp _ fun _ hs => .inl hs
  | cons x xs ih =>
    have hone := ha.handleData (x.chunk_length tsn0) (hin x List.mem_cons_self)
      (fun hnew => (hseq.1 hnew).near)
    refine (ih hseq.2 hone fun y hy => hin y (List.mem_cons_of_mem _ hy)).imp _ fun t hs => ?_
    rw [Host.accepted]
    rcases hs with (hs | ⟨hnew, heq⟩) | ⟨y, hy, heq⟩
    · exact .inl hs
    · refine .inr ⟨x, List.mem_append_left _ ?_, heq⟩
      rw [if_pos hnew]
      exact List.mem_singleton_self x
    · exact .inr ⟨y, List.mem_append_right _ hy, heq⟩

theorem accepted_mem {x : Arrival} (hx : x ∈ h.accepted tsn0 xs) : x ∈ xs := by
  induction xs generalizing h with
  | nil => cases hx
  | cons y xs ih =>
    rcases List.mem_append.mp hx with hx | hx
    · split at hx
      · exact List.mem_singleton.mp hx ▸ List.mem_cons_self
      · cases hx
    · exact List.mem_cons_of_mem _ (ih hx)

end

/-- Once the SACKs sent since `b` cover the TSN that ends a message of `a`, that message has been
delivered; the messages delivered since `b` are those of the slices `ds`. -/
def AckedDelivered (tsn0 : UINT32) (a b b' : Host) : Prop :=
  ∃ ds : List Slice, b'.delivered = b.delivered ++ ds.map (·.msg.call) ∧
    ∀ sl, Sent a.outbound sl → sl.offset + sl.len = sl.msg.payload.length →
      Acknowledged (b'.outbound.drop b.outbound.length) (tsn0 + BitVec.ofNat 32 sl.tsnNo) → sl ∈ ds

/-- **Acknowledged means delivered.**  A sender `a` has used fewer than 2³¹ - 1 TSNs, for messages
that fit the reassembly buffer; an established receiver `b`, which has not received anything from
`a` yet, is handed the DATA packets of `a` in any order, each any number of times.  When every chunk
that `b` accepts can be used at its arrival, every message whose TSNs are covered by the SACKs of
`b` has been delivered. -/
theorem acknowledged_delivered (clock : Nat → UINT64) (localPort remotePort mtu : UINT16)
    (hm : 29 ≤ mtu.toNat) (ops : List Op)
    (hsize : ∀ m, Op.send m ∈ ops → m.payload.length ≤ SCTP_MAX_REASSEMBLY_SIZE)
    (clock' : Nat → UINT64) (localPort' remotePort' mtu' : UINT16) (ops' : List Op) (ks : List Nat)
    {a b : Host} (ha : (sctpAssocInit clock localPort remotePort mtu).run ops = a)
    (hb : (sctpAssocInit clock' localPort' remotePort' mtu').run ops' = b)
    (hst : b.assoc.state = .ESTABLISHED)
    (hpeer : b.assoc.peerCumulativeTsn + 1 = sctpGenerateTag clock)
    (hfresh : b.assoc.receivedTsns = []) (hfew : a.tsnsUsed < 2 ^ 31 - 1)
    (hseq : UsableInSequence (sctpGenerateTag clock) b none (b.arrivals a.outbound ks)) :
    AckedDelivered (sctpGenerateTag clock) a b (b.hears a.outbound ks) := by
  have hsent := run_sentLog (S := fun m => Op.send m ∈ ops) hm clock localPort remotePort ops
    (fun _ hm => hm)
  rw [ha] at hsent
  have hk := run_knowsPeer clock' localPort' remotePort' mtu' ops'
  rw [hb] at hk
  have hl : Listens b := ⟨hst, hk.valid (.inr hst)⟩
  -- TSN number `k` lies `k + 1` beyond the cumulative TSN of `b`
  have hno : ∀ k : Nat, k < 2 ^ 31 - 1 → Serial.ahead b.assoc.peerCumulativeTsn
      (sctpGenerateTag clock + BitVec.ofNat 32 k) = k + 1 := by
    intro k hk
    have h1 : Serial.ahead b.assoc.peerCumulativeTsn (sctpGenerateTag clock) = 1 := by
      rw [← hpeer]
      exact (Serial.ahead_add_ofNat b.assoc.peerCumulativeTsn 1).trans (by decide)
    rw [Serial.ahead_add (by omega), h1]
    omega
  have hused : ∀ sl, Sent a.outbound sl → sl.tsnNo < 2 ^ 31 - 1 := by
    rintro sl ⟨j, p, hj⟩
    have hlt : sl.tsnNo < a.tsnsUsed := hsent.bounded j p sl hj
    omega
  have hstart : Acks b.assoc.peerCumulativeTsn (fun _ => False) b.outbound.length b := by
    refine ⟨hl, ⟨⟨?_, ?_⟩, ?_, ?_, ?_⟩, Nat.le_refl _, ?_⟩
    · rw [Serial.ahead_self]
      decide
    · rw [hfresh]
      exact fun _ h => (by cases h)
    · rw [Serial.ahead_self]
      exact fun t h0 hle => (by omega)
    · rw [hfresh]
      exact fun _ h => (by cases h)
    · rw [hfresh]
      exact fun _ h => (by cases h)
    · rintro t - - ⟨p, hp, -⟩
      rw [List.drop_length] at hp
      cases hp
  have hacks := hseq.acks hstart fun x hx => by
    rw [x.chunk_tsn, hno _ (hused _ (arrivals_sent hsent hx))]
    have := hused _ (arrivals_sent hsent hx)
    omega
  refine ⟨b.completed (sctpGenerateTag clock) (b.arrivals a.outbound ks),
    hears_delivered hsent hsize hl hseq.inSequence, fun sl hsl hlast hack => ?_⟩
  have hnum := hno _ (hused sl hsl)
  have hlt := hused sl hsl
  rw [show b.hears a.outbound ks = _ from hears_eq hsent hl ks] at hack
  obtain ⟨x, hx, heq⟩ := (hacks.sacks _ (by omega) (by omega) hack).resolve_left id
  have hxs := arrivals_sent hsent (accepted_mem hx)
  have hsame : x.slice = sl := by
    refine hsent.unique hxs hsl ?_
    have hboth := congrArg (Serial.ahead b.assoc.peerCumulativeTsn) heq
    rw [x.chunk_tsn, hno _ (hused _ hxs), hnum] at hboth
    omega
  subst hsame
  refine hseq.completes hx ?_
  rw [Arrival.ends, Bool.or_eq_true, decide_eq_true_eq]
  exact .inr hlast

/-- Both fragments of a message arrive in order. -/
theorem acknowledged_delivered_inOrder :
    AckedDelivered (sctpGenerateTag (fun _ => 7)) (sampleSends sampleLong sampleLongOther) samplePeer
      (samplePeer.hears (sampleSends sampleLong sampleLongOther).outbound [1, 2]) := by
  have harr : samplePeer.arrivals (sampleSends sampleLong sampleLongOther).outbound [1, 2] =
      [⟨⟨sampleLong, 0, 0, 0, 1122⟩, false⟩, ⟨⟨sampleLong, 1, 0, 1122, 1⟩, false⟩] :=
    arrivals_eq (sampleSends_sentLog sampleLong sampleLongOther)
      [(1, ⟨sampleLong, 0, 0, 0, 1122⟩), (2, ⟨sampleLong, 1, 0, 1122, 1⟩)] (by decide +kernel)
  refine acknowledged_delivered (fun _ => 7) 5000 5000 1150 (by decide) _ ?_ (fun _ => 9) 5000 5000
    1150 [.handlePacket true samplePeerEcho] [1, 2] (run_sampleSends _ _) run_samplePeerEcho
    (by decide +kernel) (by decide +kernel) (by decide +kernel) (by decide +kernel) ?_
  · rintro m hm
    simp only [List.mem_cons, Op.send.injEq, List.not_mem_nil, or_false, false_or, reduceCtorEq] at hm
    rcases hm with rfl | rfl <;> decide +kernel
  · rw [harr]
    refine ⟨fun _ => ⟨⟨fun h => (by cases h), fun h => (by cases h)⟩, fun h => (by cases h), ?_⟩,
      fun _ => ⟨⟨fun h => (by cases h), fun _ _ => ⟨⟨sampleLong, 0, 0, 0, 1122⟩, ?_, ?_⟩⟩, fun _ => ?_,
        ?_⟩, trivial⟩
    · decide +kernel
    · decide +kernel
    · exact ⟨rfl, rfl, rfl, rfl⟩
    · decide +kernel
    · decide +kernel

/-- The last fragment arrives before the first: both TSNs are acknowledged, nothing is delivered. -/
theorem early_fragment_lost :
    (sctpAssocInit (fun _ => 7) 5000 5000 1150).run
        [.handlePacket true sampleCookieEcho, .send sampleLong, .send sampleLongOther] =
        sampleSends sampleLong sampleLongOther ∧
      (sctpAssocInit (fun _ => 9) 5000 5000 1150).run [.handlePacket true samplePeerEcho] =
        samplePeer ∧
      samplePeer.assoc.state = .ESTABLISHED ∧
      samplePeer.assoc.peerCumulativeTsn + 1 = sctpGenerateTag (fun _ => 7) ∧
      samplePeer.assoc.receivedTsns = [] ∧
      (samplePeer.hears (sampleSends sampleLong sampleLongOther).outbound [2, 1]).delivered = [] ∧
      ¬ AckedDelivered (sctpGenerateTag (fun _ => 7)) (sampleSends sampleLong sampleLongOther)
        samplePeer (samplePeer.hears (sampleSends sampleLong sampleLongOther).outbound [2, 1]) := by
  have harr : samplePeer.arrivals (sampleSends sampleLong sampleLongOther).outbound [2, 1] =
      [⟨⟨sampleLong, 1, 0, 1122, 1⟩, false⟩, ⟨⟨sampleLong, 0, 0, 0, 1122⟩, false⟩] :=
    arrivals_eq (sampleSends_sentLog sampleLong sampleLongOther)
      [(2, ⟨sampleLong, 1, 0, 1122, 1⟩), (1, ⟨sampleLong, 0, 0, 0, 1122⟩)] (by decide +kernel)
  rw [hears_arrivals (sampleSends_sentLog sampleLong sampleLongOther) samplePeer_listens harr]
  have hnone : (samplePeer.handleDatas (([⟨⟨sampleLong, 1, 0, 1122, 1⟩, false⟩,
      ⟨⟨sampleLong, 0, 0, 0, 1122⟩, false⟩] : List Arrival).map
        (Arrival.chunk (sctpGenerateTag (fun _ => 7))))).delivered = [] := by decide +kernel
  refine ⟨run_sampleSends _ _, run_samplePeerEcho, by decide +kernel, by decide +kernel,
    by decide +kernel, hnone, ?_⟩
  rintro ⟨ds, hdel, hall⟩
  rw [hnone] at hdel
  have hds : ds = [] := List.map_eq_nil_iff.mp (List.append_eq_nil_iff.mp hdel.symm).2
  have hsl := hall ⟨sampleLong, 1, 0, 1122, 1⟩ ?_ (by decide +kernel) ?_
  · rw [hds] at hsl
    cases hsl
  · have horigin : (sampleSends sampleLong sampleLongOther).outbound[2]?.map (·.origin) =
        some (.transmission ⟨sampleLong, 1, 0, 1122, 1⟩) := by decide +kernel
    obtain ⟨⟨p, o⟩, hp, ho⟩ := Option.map_eq_some_iff.mp horigin
    cases ho
    exact ⟨2, p, hp⟩
  · have hpair : ∀ c c' : SctpChunk, samplePeer.handleDatas [c, c'] =
        (samplePeer.handleData c).handleData c' := fun _ _ => rfl
    rw [List.map_cons, List.map_cons, List.map_nil, hpair]
    refine Listens.acknowledged (samplePeer_listens.handleData (Arrival.chunk_length _ _))
      (Arrival.chunk_length _ _) (by decide +kernel) ⟨by decide +kernel, .inl ?_⟩
    decide +kernel

end KvsWebrtc.Sctp
