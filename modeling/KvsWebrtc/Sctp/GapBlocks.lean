import KvsWebrtc.Lib.Runs
import KvsWebrtc.Sctp.Acknowledge
import KvsWebrtc.Sctp.Cumulative

/-!
# What a SACK says

`sctpSendSack` sorts the TSNs received out of order, turns them into gap blocks of 16-bit offsets
from the cumulative TSN, and stops when it has opened `SCTP_MAX_GAP_BLOCKS` of them.  As long as the
offsets fit, the blocks are the runs of the TSNs up to that point; what the peer reads back is then
true, and complete unless the last block allowed belongs to a run of more than one TSN.

Principal result: `sack_truthful_iff`, over every sequence of DATA and FORWARD-TSN chunks.
-/

namespace KvsWebrtc.Sctp

/-! ## The gap blocks as runs -/

/-- The listed TSNs are distinct, beyond the cumulative TSN, and near enough for a 16-bit offset. -/
structure Close (cum : UINT32) (l : List UINT32) : Prop where
  nodup : l.Nodup
  beyond : ∀ t ∈ l, 0 < Serial.ahead cum t
  near : ∀ t ∈ l, Serial.ahead cum t < 2 ^ 16

/-- The offsets of the listed TSNs, ascending. -/
def offsets (cum : UINT32) (l : List UINT32) : List Nat := (sortTsns l).map (Serial.ahead cum)

section

variable {cum t : UINT32} {l : List UINT32}

theorem tsn_lte_iff :
    TSN_LTE t cum ↔ ¬ (0 < Serial.ahead cum t ∧ Serial.ahead cum t < 2 ^ 31) :=
  Serial.le_iff_not_gt.trans (not_congr tsn_gt_iff)

theorem insertTsn_descending {x : UINT32} (hx : Serial.ahead cum x < 2 ^ 16)
    (hl : ∀ y ∈ l, Serial.ahead cum y < 2 ^ 16) (hnew : x ∉ l)
    (hdesc : l.Pairwise fun a b => Serial.ahead cum b < Serial.ahead cum a) :
    (insertTsn x l).Pairwise fun a b => Serial.ahead cum b < Serial.ahead cum a := by
  induction l with
  | nil => exact List.pairwise_singleton _ _
  | cons y l ih =>
    obtain ⟨hy, hrest⟩ := List.pairwise_cons.mp hdesc
    obtain ⟨hynear, hlnear⟩ := List.forall_mem_cons.mp hl
    have hgt : TSN_GT y x ↔ Serial.ahead cum x < Serial.ahead cum y :=
      Serial.gt_iff_of_window (c := cum) (by omega) (by omega)
    unfold insertTsn
    split
    · rename_i hyx
      refine List.pairwise_cons.mpr ⟨fun z hz => ?_, ih hlnear (fun h => hnew (.tail _ h)) hrest⟩
      rcases List.mem_cons.mp ((insertTsn_perm x l).mem_iff.mp hz) with rfl | hz
      · exact hgt.mp hyx
      · exact hy z hz
    · rename_i hyx
      have hne : Serial.ahead cum y ≠ Serial.ahead cum x := fun heq =>
        hnew (Serial.ahead_inj heq ▸ List.mem_cons_self)
      have hle : ¬ Serial.ahead cum x < Serial.ahead cum y := fun h => hyx (hgt.mpr h)
      refine List.pairwise_cons.mpr ⟨List.forall_mem_cons.mpr ⟨by omega, fun z hz => ?_⟩, hdesc⟩
      have := hy z hz
      omega

theorem sortTsns_ascending (h : Close cum l) :
    (sortTsns l).Pairwise fun a b => Serial.ahead cum a < Serial.ahead cum b := by
  have hfold : ∀ (xs acc : List UINT32), (xs ++ acc).Nodup →
      (∀ y ∈ xs ++ acc, Serial.ahead cum y < 2 ^ 16) →
      acc.Pairwise (fun a b => Serial.ahead cum b < Serial.ahead cum a) →
      (xs.foldl (fun sorted x => insertTsn x sorted) acc).Pairwise
        fun a b => Serial.ahead cum b < Serial.ahead cum a := by
    intro xs
    induction xs with
    | nil => exact fun _ _ _ hacc => hacc
    | cons x xs ih =>
      intro acc hnd hnear hacc
      have hperm : (xs ++ insertTsn x acc).Perm (x :: xs ++ acc) :=
        ((insertTsn_perm x acc).append_left xs).trans List.perm_middle
      have hx : x ∉ acc := fun hin =>
        (List.nodup_cons.mp hnd).1 (List.mem_append_right _ hin)
      refine ih _ (hperm.nodup_iff.mpr hnd) (fun y hy => hnear y (hperm.mem_iff.mp hy)) ?_
      exact insertTsn_descending (hnear x List.mem_cons_self)
        (fun y hy => hnear y (List.mem_cons_of_mem _ (List.mem_append_right _ hy))) hx hacc
  have hdesc := hfold l [] (by rw [List.append_nil]; exact h.nodup)
    (by rw [List.append_nil]; exact h.near) List.Pairwise.nil
  exact List.pairwise_reverse.mpr hdesc

theorem offsets_ascending (h : Close cum l) : (offsets cum l).Pairwise (· < ·) :=
  List.pairwise_map.mpr (sortTsns_ascending h)

theorem mem_offsets : ∀ n, n ∈ offsets cum l ↔ ∃ t ∈ l, Serial.ahead cum t = n := by
  intro n
  simp only [offsets, List.mem_map, (sortTsns_perm l).mem_iff]

theorem ahead_mem_offsets : Serial.ahead cum t ∈ offsets cum l ↔ t ∈ l := by
  rw [mem_offsets]
  constructor
  · rintro ⟨u, hu, heq⟩
    exact Serial.ahead_inj heq ▸ hu
  · exact fun ht => ⟨t, ht, rfl⟩

theorem offsets_pos (h : Close cum l) : ∀ n ∈ offsets cum l, 0 < n := by
  intro n hn
  obtain ⟨u, hu, rfl⟩ := (mem_offsets n).mp hn
  exact h.beyond u hu

/-- The two ends of a block as numbers. -/
def blockOf (g : UINT16 × UINT16) : Nat × Nat := (g.1.toNat, g.2.toNat)

theorem offset_toNat (hnear : Serial.ahead cum t < 2 ^ 16) :
    ((t - cum).setWidth 16 : UINT16).toNat = Serial.ahead cum t := by
  rw [BitVec.toNat_setWidth]
  exact Nat.mod_eq_of_lt hnear

theorem map_gapStep (gaps : List (UINT16 × UINT16)) (h0 : 0 < Serial.ahead cum t)
    (hnear : Serial.ahead cum t < 2 ^ 16) :
    (gapStep cum gaps t).map blockOf =
      Runs.capStep SCTP_MAX_GAP_BLOCKS (gaps.map blockOf) (Serial.ahead cum t) := by
  have hoff := offset_toNat hnear
  have hbeyond : ¬ TSN_LTE t cum := by
    rw [tsn_lte_iff]
    omega
  unfold gapStep Runs.capStep
  rw [List.length_map]
  by_cases hfull : gaps.length ≥ SCTP_MAX_GAP_BLOCKS
  · rw [if_pos hfull, if_pos hfull]
  · rw [if_neg hfull, if_neg hfull, if_neg hbeyond]
    cases gaps with
    | nil => simp [Runs.step, blockOf, hoff]
    | cons g rest =>
      obtain ⟨s, e⟩ := g
      simp only [List.map_cons, Runs.step, blockOf, hoff]
      split
      · simp [blockOf, hoff]
      · simp [blockOf, hoff]

/-- **The gap blocks are the runs of the offsets**, cut where the blocks are used up. -/
theorem map_gapBlocks (h : Close cum l) (hlen : l.length ≤ SCTP_MAX_RECEIVED) :
    ((gapBlocks cum l).reverse).map blockOf =
      Runs.capped SCTP_MAX_GAP_BLOCKS (offsets cum l) := by
  have hfold : ∀ (ts : List UINT32) (gaps : List (UINT16 × UINT16)), (∀ t ∈ ts, t ∈ l) →
      (ts.foldl (gapStep cum) gaps).map blockOf =
        (ts.map (Serial.ahead cum)).foldl (Runs.capStep SCTP_MAX_GAP_BLOCKS) (gaps.map blockOf) := by
    intro ts
    induction ts with
    | nil => exact fun _ _ => rfl
    | cons t ts ih =>
      intro gaps hts
      have ht := hts t List.mem_cons_self
      rw [List.foldl_cons, ih _ (fun u hu => hts u (List.mem_cons_of_mem _ hu)),
        map_gapStep gaps (h.beyond t ht) (h.near t ht)]
      rfl
  unfold gapBlocks
  rw [List.reverse_reverse, List.take_of_length_le hlen]
  exact hfold _ [] fun t ht => (sortTsns_perm l).mem_iff.mp ht

theorem gap_covers_iff {g : UINT16 × UINT16} (hg : g.1.toNat ≤ g.2.toNat) :
    TSN_GTE t (cum + g.1.setWidth 32) ∧ TSN_LTE t (cum + g.2.setWidth 32) ↔
      g.1.toNat ≤ Serial.ahead cum t ∧ Serial.ahead cum t ≤ g.2.toNat := by
  have hend : ∀ v : UINT16, Serial.ahead cum (cum + v.setWidth 32) = v.toNat := by
    intro v
    have hv := v.isLt
    rw [show (v.setWidth 32 : UINT32) = BitVec.ofNat 32 v.toNat from
      BitVec.eq_of_toNat_eq (by simp), Serial.ahead_add_ofNat]
    exact Nat.mod_eq_of_lt (by omega)
  have h1 := hend g.1
  have h2 := hend g.2
  have hlt1 := g.1.isLt
  have hlt2 := g.2.isLt
  rw [tsn_gte_iff, tsn_lte_iff]
  constructor
  · rintro ⟨hlow, hhigh⟩
    have hge : g.1.toNat ≤ Serial.ahead cum t := by
      by_contra hlt
      rw [Serial.ahead_of_lt (c := cum) (by omega)] at hlow
      omega
    refine ⟨hge, ?_⟩
    by_contra hgt
    rw [Serial.ahead_of_le (c := cum) (by omega)] at hlow hhigh
    omega
  · rintro ⟨hge, hle⟩
    refine ⟨?_, ?_⟩
    · rw [Serial.ahead_of_le (c := cum) (by omega)]
      omega
    · by_cases heq : Serial.ahead cum t = g.2.toNat
      · rw [Serial.ahead_of_le (c := cum) (by omega)]
        omega
      · rw [Serial.ahead_of_lt (c := cum) (by omega)]
        omega

theorem cut_gapBlocks (h : Close cum l) :
    ∃ front back, Runs.Cut SCTP_MAX_GAP_BLOCKS (offsets cum l) front back :=
  Runs.exists_cut (by decide) (offsets_ascending h) (offsets_pos h)

theorem gapBlocks_spec (h : Close cum l) (hlen : l.length ≤ SCTP_MAX_RECEIVED) :
    (∀ g ∈ gapBlocks cum l, g.1.toNat ≤ g.2.toNat) ∧
      (gapBlocks cum l).Pairwise fun a b => a.2.toNat + 1 < b.1.toNat := by
  obtain ⟨front, back, hc⟩ := cut_gapBlocks h
  have hspec := hc.spec (offsets_ascending h)
  rw [← map_gapBlocks h hlen] at hspec
  constructor
  · intro g hg
    exact hspec.ordered (blockOf g) (List.mem_map.mpr ⟨g, List.mem_reverse.mpr hg, rfl⟩)
  · exact List.pairwise_reverse.mp (List.pairwise_map.mp hspec.separate)

theorem sackCovers_iff (h : Close cum l) (hlen : l.length ≤ SCTP_MAX_RECEIVED) (arwnd : UINT32) :
    SackCovers (sackValue cum arwnd (gapBlocks cum l)) t ↔
      TSN_LTE t cum ∨ Runs.Covers (Runs.capped SCTP_MAX_GAP_BLOCKS (offsets cum l))
        (Serial.ahead cum t) := by
  have hfew : (gapBlocks cum l).length < 65536 :=
    Nat.lt_of_le_of_lt (length_gapBlocks cum l) (by decide)
  rw [sackCovers_sackValue_iff hfew, ← map_gapBlocks h hlen]
  apply or_congr_right
  constructor
  · rintro ⟨g, hg, hin⟩
    exact ⟨blockOf g, List.mem_map.mpr ⟨g, List.mem_reverse.mpr hg, rfl⟩,
      (gap_covers_iff ((gapBlocks_spec h hlen).1 g hg)).mp hin⟩
  · rintro ⟨b, hb, hin⟩
    obtain ⟨g, hg, rfl⟩ := List.mem_map.mp hb
    have hg := List.mem_reverse.mp hg
    exact ⟨g, hg, (gap_covers_iff ((gapBlocks_spec h hlen).1 g hg)).mpr hin⟩

/-! ## The number of runs -/

/-- The first TSN of each run. -/
def runStarts (s : Set UINT32) : Set UINT32 := { t | t ∈ s ∧ t - 1 ∉ s }

theorem ahead_pred (h0 : 0 < Serial.ahead cum t) :
    Serial.ahead cum (t - 1) = Serial.ahead cum t - 1 := by
  unfold Serial.ahead at *
  rw [show t - 1 - cum = t - cum - 1 by grind, BitVec.toNat_sub_of_le]
  · rfl
  · exact h0

theorem pred_mem_offsets (h : Close cum l) (ht : t ∈ l) :
    Serial.ahead cum t - 1 ∈ offsets cum l ↔ t - 1 ∈ l := by
  rw [← ahead_pred (h.beyond t ht)]
  exact ahead_mem_offsets

theorem ncard_runStarts (h : Close cum l) :
    (runStarts { t | t ∈ l }).ncard = (Runs.blocks (offsets cum l)).length := by
  classical
  have hperm := sortTsns_perm l
  have hset : runStarts { t | t ∈ l } =
      (((sortTsns l).filter fun t => t - 1 ∉ l).toFinset : Set UINT32) := by
    ext t
    simp [runStarts, hperm.mem_iff]
  have hfilter : (sortTsns l).filter (fun t => t - 1 ∉ l) =
      (sortTsns l).filter ((fun n => decide (n - 1 ∉ offsets cum l)) ∘ Serial.ahead cum) := by
    apply List.filter_congr
    intro t ht
    simp only [Function.comp, decide_eq_decide]
    exact not_congr (pred_mem_offsets h (hperm.mem_iff.mp ht)).symm
  rw [hset, Set.ncard_coe_finset,
    List.toFinset_card_of_nodup ((hperm.nodup_iff.mpr h.nodup).filter _),
    Runs.length_blocks (offsets_ascending h) (offsets_pos h), hfilter]
  unfold offsets
  rw [List.filter_map, List.length_map]

/-! ## Truth and completeness -/

/-- The gap blocks of a SACK as `sctpHandleSack` reads them. -/
def sackGaps (pValue : Bytes) : List (UINT16 × UINT16) :=
  (List.range (getUnalignedInt16BigEndian pValue 8).toNat).map fun i =>
    (getUnalignedInt16BigEndian pValue (12 + 4 * i),
      getUnalignedInt16BigEndian pValue (12 + 4 * i + 2))

theorem sackGaps_sackValue (cum arwnd : UINT32) {gaps : List (UINT16 × UINT16)}
    (hlen : gaps.length < 65536) : sackGaps (sackValue cum arwnd gaps) = gaps := by
  obtain ⟨-, hnum, hgap⟩ := sackValue_fields cum arwnd hlen
  unfold sackGaps
  rw [hnum]
  apply List.ext_getElem
  · simp
  · intro i hi hi'
    obtain ⟨h1, h2⟩ := hgap hi'
    simp only [List.getElem_map, List.getElem_range, h1, h2]

/-- A SACK acknowledges only what is `covered`, in gap blocks that ascend and do not touch, and all
of what is `early` when that has no more runs than a SACK has blocks. -/
structure TruthfulSack (covered early : Set UINT32) (pValue : Bytes) : Prop where
  sound : ∀ t, SackCovers pValue t → t ∈ covered
  ordered : ∀ g ∈ sackGaps pValue, g.1.toNat ≤ g.2.toNat
  separate : (sackGaps pValue).Pairwise fun a b => a.2.toNat + 1 < b.1.toNat
  complete : (runStarts early).ncard ≤ SCTP_MAX_GAP_BLOCKS → ∀ t ∈ early, SackCovers pValue t

/-- The runs use up all gap blocks, and the last of them is longer than one TSN. -/
def CutShort (cum : UINT32) (early : Set UINT32) : Prop :=
  (runStarts early).ncard = SCTP_MAX_GAP_BLOCKS ∧
    ∃ t ∈ early, (∀ u ∈ early, Serial.ahead cum u ≤ Serial.ahead cum t) ∧ t - 1 ∈ early

theorem truthfulSack_iff (h : Close cum l) (hlen : l.length ≤ SCTP_MAX_RECEIVED) (arwnd : UINT32)
    {covered : Set UINT32} (hpast : ∀ t, TSN_LTE t cum → t ∈ covered)
    (hlisted : ∀ t ∈ l, t ∈ covered) :
    TruthfulSack covered { t | t ∈ l } (sackValue cum arwnd (gapBlocks cum l)) ↔
      ¬ CutShort cum { t | t ∈ l } := by
  have hasc := offsets_ascending h
  have hcount := ncard_runStarts h
  -- a listed TSN is beyond the cumulative TSN, so only a gap block acknowledges it
  have hcovers : ∀ t ∈ l, SackCovers (sackValue cum arwnd (gapBlocks cum l)) t ↔
      Runs.Covers (Runs.capped SCTP_MAX_GAP_BLOCKS (offsets cum l)) (Serial.ahead cum t) := by
    intro t ht
    have h0 := h.beyond t ht
    have hnear := h.near t ht
    rw [sackCovers_iff h hlen, tsn_lte_iff]
    exact or_iff_right (by omega)
  have hall : (∀ t ∈ l, SackCovers (sackValue cum arwnd (gapBlocks cum l)) t) ↔
      ∀ n ∈ offsets cum l, Runs.Covers (Runs.capped SCTP_MAX_GAP_BLOCKS (offsets cum l)) n := by
    constructor
    · intro hc n hn
      obtain ⟨t, ht, rfl⟩ := (mem_offsets n).mp hn
      exact (hcovers t ht).mp (hc t ht)
    · intro hc t ht
      exact (hcovers t ht).mpr (hc _ (ahead_mem_offsets.mpr ht))
  have hlast : (∃ n ∈ offsets cum l, (∀ k ∈ offsets cum l, k ≤ n) ∧ n - 1 ∈ offsets cum l) ↔
      ∃ t ∈ l, (∀ u ∈ l, Serial.ahead cum u ≤ Serial.ahead cum t) ∧ t - 1 ∈ l := by
    constructor
    · rintro ⟨n, hn, hmax, hpred⟩
      obtain ⟨t, ht, rfl⟩ := (mem_offsets n).mp hn
      exact ⟨t, ht, fun u hu => hmax _ (ahead_mem_offsets.mpr hu), (pred_mem_offsets h ht).mp hpred⟩
    · rintro ⟨t, ht, hmax, hpred⟩
      refine ⟨_, ahead_mem_offsets.mpr ht, fun k hk => ?_, (pred_mem_offsets h ht).mpr hpred⟩
      obtain ⟨u, hu, rfl⟩ := (mem_offsets k).mp hk
      exact hmax u hu
  have hblocks : sackGaps (sackValue cum arwnd (gapBlocks cum l)) = gapBlocks cum l :=
    sackGaps_sackValue cum arwnd (Nat.lt_of_le_of_lt (length_gapBlocks cum l) (by decide))
  obtain ⟨hordered, hseparate⟩ := gapBlocks_spec h hlen
  constructor
  · rintro hs ⟨hfull, hlong⟩
    have hfew : (Runs.blocks (offsets cum l)).length ≤ SCTP_MAX_GAP_BLOCKS := by
      rw [← hcount]
      exact Nat.le_of_eq hfull
    refine (Runs.capped_covers_iff (by decide) hasc (offsets_pos h) hfew).mp ?_
      ⟨hcount.symm.trans hfull, hlast.mpr hlong⟩
    exact hall.mp (hs.complete (Nat.le_of_eq hfull))
  · intro hcut
    refine ⟨fun t hc => ?_, hblocks.symm ▸ hordered, hblocks.symm ▸ hseparate, fun hfew => ?_⟩
    · rcases (sackCovers_iff h hlen arwnd).mp hc with hle | hin
      · exact hpast t hle
      · obtain ⟨front, back, hc⟩ := cut_gapBlocks h
        exact hlisted t (ahead_mem_offsets.mp (hc.mem_of_covers hasc hin))
    · rw [hcount] at hfew
      refine hall.mpr ((Runs.capped_covers_iff (by decide) hasc (offsets_pos h) hfew).mpr ?_)
      rintro ⟨hfull, hlong⟩
      exact hcut ⟨hcount.trans hfull, hlast.mp hlong⟩

end

/-! ## Receivers and what they have heard -/

/-- A receiver together with what its peer may be told: the TSNs received, skipped by a FORWARD-TSN
or past from the start, and the TSNs received beyond the cumulative TSN. -/
structure Receipt where
  host : Host
  covered : Set UINT32
  early : Set UINT32

def Receipt.start (h : Host) : Receipt :=
  ⟨h, { t | TSN_LTE t h.assoc.peerCumulativeTsn }, ∅⟩

/-- A DATA chunk covers its TSN; a FORWARD-TSN covers the TSNs after the cumulative TSN up to the one
it names.  Whatever the cumulative TSN reaches is no longer early. -/
def Receipt.chunk (messageFn : Bool) (r : Receipt) (x : SctpChunk) : Receipt :=
  let h := sctpChunkDispatch messageFn r.host x
  let cum := r.host.assoc.peerCumulativeTsn
  match x.tsnEvent with
  | none => { r with host := h }
  | some (.data tsn) =>
    { host := h
      covered := insert tsn r.covered
      early := { t | t ∈ insert tsn r.early ∧ TSN_GT t h.assoc.peerCumulativeTsn } }
  | some (.forward newCumTsn) =>
    { host := h
      covered := r.covered ∪ { t | TSN_GT newCumTsn cum ∧ 0 < Serial.ahead cum t ∧
        Serial.ahead cum t ≤ Serial.ahead cum newCumTsn }
      early := { t | t ∈ r.early ∧ TSN_GT t h.assoc.peerCumulativeTsn } }

def Receipt.run (messageFn : Bool) (h : Host) (xs : List SctpChunk) : Receipt :=
  xs.foldl (Receipt.chunk messageFn) (Receipt.start h)

/-- The SACK that `sctpSendSack` sends in this state is truthful. -/
def Receipt.SacksTruthfully (r : Receipt) : Prop :=
  ∃ p vtag v, (sctpSendSack r.host).outbound = r.host.outbound ++ [p] ∧
    Carries p.bytes vtag ⟨SCTP_CHUNK_SACK, 0, v⟩ ∧ TruthfulSack r.covered r.early v

/-- A new TSN is near enough for a 16-bit offset and, when it has to be listed, finds room. -/
def Receipt.Fits (r : Receipt) (x : SctpChunk) : Prop :=
  ∀ tsn, x.tsnEvent = some (.data tsn) → NewTsn r.host tsn →
    Serial.ahead r.host.assoc.peerCumulativeTsn tsn < 2 ^ 16 ∧
      (tsn = r.host.assoc.peerCumulativeTsn + 1 ∨ tsn ∈ r.host.assoc.receivedTsns ∨
        r.host.assoc.receivedTsns.length < SCTP_MAX_RECEIVED)

/-! ## The invariant -/

/-- What the tracking state `(cum, l)` knows is covered, and what is early is listed. -/
structure Knows (covered early : Set UINT32) (cum : UINT32) (l : List UINT32) : Prop where
  close : Close cum l
  stuck : cum + 1 ∉ l
  length_le : l.length ≤ SCTP_MAX_RECEIVED
  past : ∀ t, TSN_LTE t cum → t ∈ covered
  listed : ∀ t ∈ l, t ∈ covered
  early_eq : early = { t | t ∈ l }

section

variable {cum m t : UINT32} {l k : List UINT32} {covered early : Set UINT32}

theorem lte_cases (hm : Serial.ahead cum m < 2 ^ 31) (ht : TSN_LTE t m) :
    TSN_LTE t cum ∨ (0 < Serial.ahead cum t ∧ Serial.ahead cum t ≤ Serial.ahead cum m) := by
  rw [tsn_lte_iff] at ht ⊢
  by_cases hle : Serial.ahead cum t ≤ Serial.ahead cum m
  · by_cases h0 : Serial.ahead cum t = 0
    · exact .inl (by omega)
    · exact .inr ⟨by omega, hle⟩
  · rw [Serial.ahead_of_le (c := cum) (by omega)] at ht
    exact .inl (by omega)

theorem knows_advance (hk : Close m k) (hlen : k.length ≤ SCTP_MAX_RECEIVED)
    (hpast : ∀ t, TSN_LTE t m → t ∈ covered) (hlisted : ∀ t ∈ k, t ∈ covered) :
    Knows covered { t | t ∈ k ∧ TSN_GT t (advanceCumTsn (k.length + 1) m k).1 }
        (advanceCumTsn (k.length + 1) m k).1 (advanceCumTsn (k.length + 1) m k).2 ∧
      Serial.ahead m (advanceCumTsn (k.length + 1) m k).1 ≤ k.length := by
  have htracked : Tracked m k :=
    ⟨hk.nodup, fun t ht => ⟨hk.beyond t ht, by have := hk.near t ht; omega⟩⟩
  have hadv := advanceCumTsn_spec (k.length + 1) (Nat.lt_succ_self _) htracked
  generalize advanceCumTsn (k.length + 1) m k = r at hadv
  have hmove := hadv.ahead_le
  have hmax : SCTP_MAX_RECEIVED = 2048 := rfl
  have hmem : ∀ t, t ∈ r.2 → t ∈ k := fun t ht => (hadv.mem_iff t).mpr (.inl ht)
  -- what is kept lies beyond, and is nearer than before
  have hdist : ∀ t ∈ r.2, Serial.ahead m t = Serial.ahead m r.1 + Serial.ahead r.1 t := by
    intro t ht
    exact Serial.ahead_trans (by have := (hadv.tracked.ahead t ht).2; omega)
  refine ⟨⟨⟨hadv.tracked.nodup, fun t ht => (hadv.tracked.ahead t ht).1, fun t ht => ?_⟩, hadv.stuck,
    Nat.le_trans hadv.length_le hlen, fun t ht => ?_, fun t ht => hlisted t (hmem t ht), ?_⟩, hmove⟩
  · have := hdist t ht
    have := hk.near t (hmem t ht)
    omega
  · have hcases : TSN_LTE t m ∨ (0 < Serial.ahead m t ∧ Serial.ahead m t ≤ Serial.ahead m r.1) :=
      lte_cases (by omega) ht
    rcases hcases with hle | hbetween
    · exact hpast t hle
    · exact hlisted t ((hadv.mem_iff t).mpr (.inr hbetween))
  · ext t
    constructor
    · rintro ⟨hin, hgt⟩
      rcases (hadv.mem_iff t).mp hin with ht | hbetween
      · exact ht
      · rw [tsn_gt_iff] at hgt
        by_cases heq : Serial.ahead m t = Serial.ahead m r.1
        · rw [Serial.ahead_inj heq, Serial.ahead_self] at hgt
          omega
        · rw [Serial.ahead_of_lt (c := m) (by omega)] at hgt
          omega
    · intro ht
      exact ⟨hmem t ht, tsn_gt_iff.mpr (hadv.tracked.ahead t ht)⟩

theorem Knows.inOrder (h : Knows covered early cum l) :
    let r := advanceCumTsn (l.length + 1) (cum + 1) l
    Knows (insert (cum + 1) covered) { t | t ∈ insert (cum + 1) early ∧ TSN_GT t r.1 } r.1 r.2 := by
  intro r
  have hnext : ∀ t ∈ l, Serial.ahead cum t = Serial.ahead (cum + 1) t + 1 ∧ t ≠ cum + 1 := by
    intro t ht
    have hne : t ≠ cum := by
      rintro rfl
      have := h.close.beyond t ht
      rw [Serial.ahead_self] at this
      omega
    exact ⟨ahead_next hne, fun heq => h.stuck (heq ▸ ht)⟩
  have hclose : Close (cum + 1) l := by
    refine ⟨h.close.nodup, fun t ht => ?_, fun t ht => ?_⟩
    · have hne : Serial.ahead (cum + 1) t ≠ 0 := fun h0 => (hnext t ht).2 (Serial.ahead_eq_zero.mp h0)
      omega
    · have := h.close.near t ht
      have := (hnext t ht).1
      omega
  have hpast : ∀ t, TSN_LTE t (cum + 1) → t ∈ insert (cum + 1) covered := by
    intro t ht
    have hcases : TSN_LTE t cum ∨
        (0 < Serial.ahead cum t ∧ Serial.ahead cum t ≤ Serial.ahead cum (cum + 1)) :=
      lte_cases (by rw [ahead_cum_succ]; decide) ht
    rw [ahead_cum_succ] at hcases
    rcases hcases with hle | hone
    · exact .inr (h.past t hle)
    · exact .inl (ahead_eq_one.mp (by omega))
  obtain ⟨hk, hmove⟩ := knows_advance hclose h.length_le hpast fun t ht => .inr (h.listed t ht)
  -- the TSN itself is not beyond the TSN reached
  have hself : ¬ TSN_GT (cum + 1) r.1 := by
    have hmove' : Serial.ahead (cum + 1) r.1 ≤ l.length := hmove
    have hlen : l.length ≤ 2048 := h.length_le
    rw [tsn_gt_iff]
    by_cases h0 : Serial.ahead (cum + 1) r.1 = 0
    · rw [Serial.ahead_eq_zero.mp h0, Serial.ahead_self]
      omega
    · rw [Serial.ahead_of_lt (c := cum + 1) (by rw [Serial.ahead_self]; exact Nat.pos_of_ne_zero h0),
        Serial.ahead_self]
      omega
  refine { hk with early_eq := hk.early_eq ▸ ?_ }
  ext t
  rw [h.early_eq]
  constructor
  · rintro ⟨rfl | hin, hgt⟩
    · exact absurd hgt hself
    · exact ⟨hin, hgt⟩
  · rintro ⟨hin, hgt⟩
    exact ⟨.inr hin, hgt⟩

theorem Knows.gt_of_mem (h : Knows covered early cum l) (ht : t ∈ l) : TSN_GT t cum := by
  have h0 := h.close.beyond t ht
  have hnear := h.close.near t ht
  exact tsn_gt_iff.mpr ⟨h0, by omega⟩

theorem Knows.repeated (h : Knows covered early cum l) {covered' early' : Set UINT32}
    (hcov : covered ⊆ covered') (hearly : ∀ t, TSN_GT t cum → (t ∈ early' ↔ t ∈ l)) :
    Knows covered' { t | t ∈ early' ∧ TSN_GT t cum } cum l := by
  refine ⟨h.close, h.stuck, h.length_le, fun t ht => hcov (h.past t ht),
    fun t ht => hcov (h.listed t ht), ?_⟩
  ext t
  constructor
  · rintro ⟨hin, hgt⟩
    exact (hearly t hgt).mp hin
  · intro ht
    exact ⟨(hearly t (h.gt_of_mem ht)).mpr ht, h.gt_of_mem ht⟩

theorem Knows.listed_more (h : Knows covered early cum l) {tsn : UINT32} (hne : tsn ≠ cum + 1)
    (h0 : 0 < Serial.ahead cum tsn) (hnear : Serial.ahead cum tsn < 2 ^ 16) (hnew : tsn ∉ l)
    (hroom : l.length < SCTP_MAX_RECEIVED) :
    Knows (insert tsn covered) { t | t ∈ insert tsn early ∧ TSN_GT t cum } cum (l ++ [tsn]) := by
  have hmem : ∀ t, t ∈ l ++ [tsn] ↔ t = tsn ∨ t ∈ l := by
    intro t
    rw [List.mem_append, List.mem_singleton, or_comm]
  refine ⟨⟨?_, fun t ht => ?_, fun t ht => ?_⟩, fun hin => ?_, ?_, fun t ht => .inr (h.past t ht),
    fun t ht => ?_, ?_⟩
  · rw [List.nodup_append]
    refine ⟨h.close.nodup, List.nodup_singleton _, ?_⟩
    rintro a ha b hb rfl
    exact hnew (List.mem_singleton.mp hb ▸ ha)
  · rcases (hmem t).mp ht with rfl | ht
    · exact h0
    · exact h.close.beyond t ht
  · rcases (hmem t).mp ht with rfl | ht
    · exact hnear
    · exact h.close.near t ht
  · rcases (hmem _).mp hin with heq | hin
    · exact hne heq.symm
    · exact h.stuck hin
  · rw [List.length_append, List.length_singleton]
    exact hroom
  · rcases (hmem t).mp ht with rfl | ht
    · exact .inl rfl
    · exact .inr (h.listed t ht)
  · ext t
    rw [h.early_eq]
    show (t = tsn ∨ t ∈ l) ∧ TSN_GT t cum ↔ t ∈ l ++ [tsn]
    rw [hmem]
    refine and_iff_left_of_imp ?_
    rintro (rfl | ht)
    · exact tsn_gt_iff.mpr ⟨h0, by omega⟩
    · exact h.gt_of_mem ht

theorem Knows.skipped (h : Knows covered early cum l) {n : UINT32} (hn : TSN_GT n cum) :
    Knows (covered ∪ { t | TSN_GT n cum ∧ 0 < Serial.ahead cum t ∧
        Serial.ahead cum t ≤ Serial.ahead cum n })
      { t | t ∈ early ∧ TSN_GT t (forwardedTo l n).1 } (forwardedTo l n).1 (forwardedTo l n).2 := by
  have hahead := tsn_gt_iff.mp hn
  have hperm := dropReceived_perm n l.length 0 l (by omega)
    (fun j t hj _ => absurd hj (Nat.not_lt_zero _))
  -- seen from `cum`, the listed TSNs and `n` lie in one window
  have hgt : ∀ t ∈ l, (TSN_GT t n ↔ Serial.ahead cum n < Serial.ahead cum t) := by
    intro t ht
    have := h.close.near t ht
    exact Serial.gt_iff_of_window (c := cum) (by omega) (by omega)
  unfold forwardedTo
  generalize dropReceived n l.length 0 l = kept at hperm
  have hkept : ∀ t, t ∈ kept ↔ t ∈ l ∧ Serial.ahead cum n < Serial.ahead cum t := by
    intro t
    rw [hperm.mem_iff, List.mem_filter, decide_eq_true_iff]
    exact and_congr_right (hgt t)
  have hclose : Close n kept := by
    refine ⟨hperm.nodup_iff.mpr (h.close.nodup.filter _), fun t ht => ?_, fun t ht => ?_⟩
    · obtain ⟨-, hlt⟩ := (hkept t).mp ht
      rw [Serial.ahead_of_le (c := cum) (by omega)]
      omega
    · obtain ⟨hin, hlt⟩ := (hkept t).mp ht
      have := h.close.near t hin
      rw [Serial.ahead_of_le (c := cum) (by omega)]
      omega
  have hlen : kept.length ≤ SCTP_MAX_RECEIVED := by
    rw [hperm.length_eq]
    exact Nat.le_trans (List.length_filter_le _ _) h.length_le
  have hpast : ∀ t, TSN_LTE t n → t ∈ covered ∪ { t | TSN_GT n cum ∧ 0 < Serial.ahead cum t ∧
      Serial.ahead cum t ≤ Serial.ahead cum n } := by
    intro t ht
    have hcases : TSN_LTE t cum ∨
        (0 < Serial.ahead cum t ∧ Serial.ahead cum t ≤ Serial.ahead cum n) :=
      lte_cases hahead.2 ht
    rcases hcases with hle | hbetween
    · exact .inl (h.past t hle)
    · exact .inr ⟨hn, hbetween⟩
  obtain ⟨hk, hmove⟩ := knows_advance hclose hlen hpast
    fun t ht => .inl (h.listed t ((hkept t).mp ht).1)
  generalize advanceCumTsn (kept.length + 1) n kept = r at hk hmove
  have hlen' : kept.length ≤ 2048 := hlen
  have hreach : Serial.ahead cum r.1 = Serial.ahead cum n + Serial.ahead n r.1 :=
    Serial.ahead_trans (by omega)
  have hwindow : Serial.ahead cum r.1 < 2 ^ 31 := by
    cases kept with
    | nil =>
      have hmove' : Serial.ahead n r.1 ≤ 0 := hmove
      omega
    | cons u us =>
      obtain ⟨hin, hlt⟩ := (hkept u).mp List.mem_cons_self
      have := h.close.near u hin
      omega
  refine { hk with early_eq := hk.early_eq ▸ ?_ }
  ext t
  rw [h.early_eq]
  constructor
  · rintro ⟨hin, hbeyond⟩
    refine ⟨(hkept t).mpr ⟨hin, ?_⟩, hbeyond⟩
    -- what is beyond the TSN reached is beyond `n`
    have hnear := h.close.near t hin
    have hb := tsn_gt_iff.mp hbeyond
    by_contra hle
    by_cases heq : Serial.ahead cum t = Serial.ahead cum r.1
    · rw [Serial.ahead_inj heq, Serial.ahead_self] at hb
      omega
    · rw [Serial.ahead_of_lt (c := cum) (by omega)] at hb
      omega
  · rintro ⟨hin, hbeyond⟩
    exact ⟨((hkept t).mp hin).1, hbeyond⟩

end

/-! ## Runs of a receiver -/

/-- The receiver's tracking state tells what it has heard. -/
structure Receipt.Honest (r : Receipt) : Prop extends Listens r.host where
  knows : Knows r.covered r.early r.host.assoc.peerCumulativeTsn r.host.assoc.receivedTsns

theorem Receipt.start_honest {h : Host} (hl : Listens h) (hempty : h.assoc.receivedTsns = []) :
    (Receipt.start h).Honest := by
  refine ⟨hl, ?_⟩
  show Knows _ ∅ h.assoc.peerCumulativeTsn h.assoc.receivedTsns
  rw [hempty]
  exact ⟨⟨List.nodup_nil, by simp, by simp⟩, List.not_mem_nil, Nat.zero_le _, fun t ht => ht,
    by simp, by simp⟩

section

variable {r : Receipt} {x : SctpChunk} {tsn : UINT32}

theorem newTsn_of_gt {h : Host} (hgt : TSN_GT tsn h.assoc.peerCumulativeTsn) : NewTsn h tsn := by
  rw [tsn_gt_iff] at hgt
  exact (newTsn_iff (b := h.assoc.peerCumulativeTsn) (by rw [Serial.ahead_self]; decide) hgt.2).mpr
    (by rw [Serial.ahead_self]; exact hgt.1)

theorem Receipt.Honest.data (hr : r.Honest) (messageFn : Bool) (hx : x.Transfers)
    (hfit : r.Fits x) (hev : x.tsnEvent = some (.data tsn)) : (r.chunk messageFn x).Honest := by
  have hchunk : r.chunk messageFn x =
      { host := sctpChunkDispatch messageFn r.host x
        covered := insert tsn r.covered
        early := { t | t ∈ insert tsn r.early ∧
          TSN_GT t (sctpChunkDispatch messageFn r.host x).assoc.peerCumulativeTsn } } := by
    unfold Receipt.chunk
    rw [hev]
  have hside : (sctpChunkDispatch messageFn r.host x).trackSide = _ :=
    hr.toListens.dispatch_some hev
  have hcum : (sctpChunkDispatch messageFn r.host x).assoc.peerCumulativeTsn = _ :=
    congrArg TrackSide.peerCumulativeTsn hside
  have hlist : (sctpChunkDispatch messageFn r.host x).assoc.receivedTsns = _ :=
    congrArg TrackSide.receivedTsns hside
  rw [hchunk]
  refine ⟨hr.toListens.dispatch hx, ?_⟩
  simp only [hcum, hlist, TsnEvent.track_data]
  by_cases hnew : NewTsn r.host tsn
  · obtain ⟨hnear, hroom⟩ := hfit tsn hev hnew
    rw [if_pos (show _ ∨ _ from hnew)]
    unfold trackedAfter
    by_cases heq : tsn = r.host.assoc.peerCumulativeTsn + 1
    · subst heq
      rw [if_pos rfl]
      exact hr.knows.inOrder
    · rw [if_neg heq]
      by_cases hmem : tsn ∈ r.host.assoc.receivedTsns
      · rw [if_neg (fun hc => hc.1 hmem)]
        refine hr.knows.repeated (Set.subset_insert _ _) fun t _ => ?_
        rw [Set.mem_insert_iff, hr.knows.early_eq]
        exact or_iff_right_of_imp fun ht => ht ▸ hmem
      · have hlen := (hroom.resolve_left heq).resolve_left hmem
        have h0 : Serial.ahead r.host.assoc.peerCumulativeTsn tsn ≠ 0 := by
          intro h0
          rw [Serial.ahead_eq_zero.mp h0] at hnew
          have hlt := (newTsn_iff (b := r.host.assoc.peerCumulativeTsn)
            (by rw [Serial.ahead_self]; decide) (by rw [Serial.ahead_self]; decide)).mp hnew
          omega
        rw [if_pos ⟨hmem, hlen⟩]
        exact hr.knows.listed_more heq (Nat.pos_of_ne_zero h0) hnear hmem hlen
  · rw [if_neg (show ¬ (_ ∨ _) from hnew)]
    refine hr.knows.repeated (Set.subset_insert _ _) fun t hgt => ?_
    rw [Set.mem_insert_iff, hr.knows.early_eq]
    exact or_iff_right fun ht => hnew (newTsn_of_gt (ht ▸ hgt))

theorem Receipt.Honest.forward (hr : r.Honest) (messageFn : Bool) (hx : x.Transfers)
    (hev : x.tsnEvent = some (.forward tsn)) : (r.chunk messageFn x).Honest := by
  have hchunk : r.chunk messageFn x =
      { host := sctpChunkDispatch messageFn r.host x
        covered := r.covered ∪ { t | TSN_GT tsn r.host.assoc.peerCumulativeTsn ∧
          0 < Serial.ahead r.host.assoc.peerCumulativeTsn t ∧
          Serial.ahead r.host.assoc.peerCumulativeTsn t ≤
            Serial.ahead r.host.assoc.peerCumulativeTsn tsn }
        early := { t | t ∈ r.early ∧
          TSN_GT t (sctpChunkDispatch messageFn r.host x).assoc.peerCumulativeTsn } } := by
    unfold Receipt.chunk
    rw [hev]
  have hside : (sctpChunkDispatch messageFn r.host x).trackSide = _ :=
    hr.toListens.dispatch_some hev
  have hcum : (sctpChunkDispatch messageFn r.host x).assoc.peerCumulativeTsn = _ :=
    congrArg TrackSide.peerCumulativeTsn hside
  have hlist : (sctpChunkDispatch messageFn r.host x).assoc.receivedTsns = _ :=
    congrArg TrackSide.receivedTsns hside
  rw [hchunk]
  refine ⟨hr.toListens.dispatch hx, ?_⟩
  simp only [hcum, hlist, TsnEvent.track_forward]
  by_cases hgt : TSN_GT tsn r.host.assoc.peerCumulativeTsn
  · rw [if_pos hgt]
    exact hr.knows.skipped hgt
  · rw [if_neg hgt]
    refine hr.knows.repeated Set.subset_union_left fun t _ => ?_
    rw [hr.knows.early_eq]
    rfl

theorem Receipt.Honest.chunk (hr : r.Honest) (messageFn : Bool) (hx : x.Transfers)
    (hfit : r.Fits x) : (r.chunk messageFn x).Honest := by
  cases hev : x.tsnEvent with
  | none =>
    have hchunk : r.chunk messageFn x = r := by
      unfold Receipt.chunk
      rw [hev, dispatch_none hx hev]
    rw [hchunk]
    exact hr
  | some ev =>
    cases ev with
    | data tsn => exact hr.data messageFn hx hfit hev
    | forward newCumTsn => exact hr.forward messageFn hx hev

end

theorem Receipt.run_concat (messageFn : Bool) (h : Host) (xs : List SctpChunk) (x : SctpChunk) :
    Receipt.run messageFn h (xs ++ [x]) = (Receipt.run messageFn h xs).chunk messageFn x :=
  List.foldl_concat ..

theorem Receipt.run_honest {h : Host} (hl : Listens h) (hempty : h.assoc.receivedTsns = [])
    (messageFn : Bool) (xs : List SctpChunk) (hxs : ∀ x ∈ xs, x.Transfers)
    (hfits : ∀ pre x post, xs = pre ++ x :: post → (Receipt.run messageFn h pre).Fits x) :
    (Receipt.run messageFn h xs).Honest := by
  induction xs using List.reverseRecOn with
  | nil => exact Receipt.start_honest hl hempty
  | append_singleton xs x ih =>
    rw [Receipt.run_concat]
    refine (ih (fun y hy => hxs y (List.mem_append_left _ hy)) fun pre y post heq => ?_).chunk
      messageFn (hxs x (by simp)) (hfits xs x [] rfl)
    exact hfits pre y (post ++ [x]) (by rw [heq]; simp)

theorem Receipt.Honest.sacksTruthfully_iff {r : Receipt} (hr : r.Honest) :
    r.SacksTruthfully ↔ ¬ CutShort r.host.assoc.peerCumulativeTsn r.early := by
  have hiff := truthfulSack_iff hr.knows.close hr.knows.length_le SCTP_DEFAULT_ARWND hr.knows.past
    hr.knows.listed
  rw [← hr.knows.early_eq] at hiff
  obtain ⟨p, hout, vtag, hp⟩ := sctpSendSack_reports hr.valid
  constructor
  · rintro ⟨p', vtag', v, hout', hp', hs⟩
    obtain rfl : p' = p := by
      rw [hout'] at hout
      simpa using hout
    obtain rfl : v = _ := congrArg SctpChunk.value (hp'.unique hp)
    exact hiff.mp hs
  · intro hcut
    exact ⟨p, vtag, _, hout, hp, hiff.mpr hcut⟩

/-- **Over every sequence of DATA and FORWARD-TSN chunks whose new TSNs are near enough and find
room, the SACK of the state reached is truthful exactly when it is not cut short.** -/
theorem sack_truthful_iff (clock : Nat → UINT64) (localPort remotePort mtu : UINT16)
    (ops : List Op) (h : Host) (hreach : h = (sctpAssocInit clock localPort remotePort mtu).run ops)
    (hst : h.assoc.state = .ESTABLISHED) (hempty : h.assoc.receivedTsns = []) (messageFn : Bool)
    (xs : List SctpChunk) (hxs : ∀ x ∈ xs, x.Transfers)
    (hfits : ∀ pre x post, xs = pre ++ x :: post → (Receipt.run messageFn h pre).Fits x) :
    (Receipt.run messageFn h xs).SacksTruthfully ↔
      ¬ CutShort (Receipt.run messageFn h xs).host.assoc.peerCumulativeTsn
        (Receipt.run messageFn h xs).early := by
  have hk : KnowsPeer h := hreach ▸ run_knowsPeer clock localPort remotePort mtu ops
  exact (Receipt.run_honest ⟨hst, hk.valid (.inr hst)⟩ hempty messageFn xs hxs
    hfits).sacksTruthfully_iff

theorem sampleOpened :
    let h := (sctpAssocInit (fun _ => 7) 5000 5000 1150).run [.handlePacket true sampleCookieEcho]
    h.assoc.state = .ESTABLISHED ∧ h.assoc.receivedTsns = [] ∧ h.assoc.peerCumulativeTsn = 99 ∧
      h.assoc.peerCumulativeTsnValid = true := by
  decide +kernel

/-- TSN 102 while TSN 100 is missing: the SACK says so. -/
theorem sack_truthful_gap :
    (Receipt.run true ((sctpAssocInit (fun _ => 7) 5000 5000 1150).run
      [.handlePacket true sampleCookieEcho]) [sampleAhead]).SacksTruthfully := by
  obtain ⟨hst, hempty, hcum, -⟩ := sampleOpened
  have hev : sampleAhead.tsnEvent = some (.data 102) := rfl
  have hnil : ∀ h : Host, (Receipt.run true h []).host = h := fun _ => rfl
  refine (sack_truthful_iff (fun _ => 7) 5000 5000 1150 [.handlePacket true sampleCookieEcho] _ rfl
    hst hempty true [sampleAhead] (by decide) fun pre x post heq => ?_).mpr ?_
  · have hlen := congrArg List.length heq
    simp only [List.length_cons, List.length_append, List.length_nil] at hlen
    obtain rfl : pre = [] := List.length_eq_zero_iff.mp (by omega)
    obtain rfl : sampleAhead = x := (List.cons.inj heq).1
    intro tsn htsn _
    obtain rfl : 102 = tsn := by simpa [hev] using htsn
    refine ⟨?_, .inr (.inr ?_)⟩
    · rw [hnil, hcum]
      decide
    · rw [hnil, hempty]
      decide
  · rintro ⟨-, t, ht, -, hpred⟩
    -- 102 is the only early TSN
    have hearly : ∀ u ∈ (Receipt.run true ((sctpAssocInit (fun _ => 7) 5000 5000 1150).run
        [.handlePacket true sampleCookieEcho]) [sampleAhead]).early, u = 102 := by
      rintro u ⟨hu | hu, -⟩
      · exact hu
      · exact absurd hu (Set.notMem_empty u)
    rw [hearly t ht] at hpred
    exact absurd (hearly _ hpred) (by decide)

/-- A chunk 65537 TSNs beyond the cumulative TSN 99. -/
def sampleFar : SctpChunk :=
  ⟨SCTP_CHUNK_DATA, wholeFlags false, dataValue 65636 0 2 51 [9, 9, 9, 9]⟩

/-- After the chunk with TSN 65636 the SACK acknowledges TSN 100, which was never received. -/
theorem sack_acknowledges_unreceived :
    ¬ (Receipt.run true ((sctpAssocInit (fun _ => 7) 5000 5000 1150).run
      [.handlePacket true sampleCookieEcho]) [sampleFar]).SacksTruthfully := by
  obtain ⟨hst, hempty, hcum, hvalid⟩ := sampleOpened
  generalize hh : (sctpAssocInit (fun _ => 7) 5000 5000 1150).run
    [.handlePacket true sampleCookieEcho] = h at hst hempty hcum hvalid
  have hl : Listens h := ⟨hst, hvalid⟩
  have hev : sampleFar.tsnEvent = some (.data 65636) := rfl
  have hside : (sctpChunkDispatch true h sampleFar).trackSide = _ := hl.dispatch_some hev
  have hcum' : (sctpChunkDispatch true h sampleFar).assoc.peerCumulativeTsn = 99 := by
    refine (congrArg TrackSide.peerCumulativeTsn hside).trans ?_
    rw [hcum, hempty]
    exact (show ((TsnEvent.data 65636).track 99 []).1 = 99 by decide)
  have hlist : (sctpChunkDispatch true h sampleFar).assoc.receivedTsns = [65636] := by
    refine (congrArg TrackSide.receivedTsns hside).trans ?_
    rw [hcum, hempty]
    exact (show ((TsnEvent.data 65636).track 99 []).2 = [65636] by decide)
  have hvalid' : (sctpChunkDispatch true h sampleFar).assoc.peerCumulativeTsnValid = true :=
    (hl.dispatch (by decide)).valid
  rintro ⟨p', vtag', v, hout', hp', hs⟩
  obtain ⟨p, hout, vtag, hp⟩ := sctpSendSack_reports hvalid'
  obtain rfl : p' = p := List.singleton_inj.mp (List.append_cancel_left (hout'.symm.trans hout))
  obtain rfl : v = _ := congrArg SctpChunk.value (hp'.unique hp)
  rw [hcum', hlist] at hs
  have hcovers : SackCovers (sackValue 99 SCTP_DEFAULT_ARWND (gapBlocks 99 [65636])) 100 := by
    rw [show gapBlocks 99 [65636] = [(1, 1)] by decide]
    exact (sackCovers_sackValue_iff (by decide)).mpr
      (.inr ⟨(1, 1), List.mem_singleton.mpr rfl, by decide, by decide⟩)
  have h100 : (100 : UINT32) ∈ insert (65636 : UINT32)
      { t | TSN_LTE t h.assoc.peerCumulativeTsn } := hs.sound 100 hcovers
  rw [hcum] at h100
  rcases h100 with heq | hle
  · exact absurd heq (by decide)
  · exact absurd hle (show ¬ TSN_LTE 100 99 by decide)

end KvsWebrtc.Sctp
