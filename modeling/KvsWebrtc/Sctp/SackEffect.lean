import KvsWebrtc.Sctp.Acknowledge
import KvsWebrtc.Sctp.Control

/-!
# What a SACK releases

The two acknowledgement loops of `sctpHandleSack` together: a slot is released exactly when its chunk
is in use, not yet acknowledged and covered by the SACK.

Principal results: `get_sackLoops_covered` and `get_sackLoops_kept`.
-/

namespace KvsWebrtc.Sctp

/-- The chunk that a SACK leaves in a slot it releases. -/
def SctpOutstandingData.released (d : SctpOutstandingData) : SctpOutstandingData :=
  { d with acked := true, payload := none, inUse := false }

/-- The chunk waits for an acknowledgement. -/
def SctpOutstandingData.Waits (d : SctpOutstandingData) : Prop := d.inUse = true ∧ d.acked = false

instance (d : SctpOutstandingData) : Decidable d.Waits := inferInstanceAs (Decidable (_ ∧ _))

section

variable {covered : UINT32 → Bool}

theorem sackSlot_of_waits {r : Host × UINT32} {i : Fin SCTP_MAX_OUTSTANDING}
    (hw : (r.1.assoc.outstanding.get i).Waits)
    (hc : covered (r.1.assoc.outstanding.get i).tsn = true) :
    sackSlot covered r i =
      (releaseSlot r.1 i { r.1.assoc.outstanding.get i with acked := true },
        r.2 + (r.1.assoc.outstanding.get i).payloadLen) := by
  have hno : ¬ (¬ (r.1.assoc.outstanding.get i).inUse = true ∨
      (r.1.assoc.outstanding.get i).acked = true) := by
    rw [hw.1, hw.2]
    decide
  unfold sackSlot
  rw [if_neg hno, if_pos hc]

theorem sackSlot_of_not {r : Host × UINT32} {i : Fin SCTP_MAX_OUTSTANDING}
    (hn : ¬ ((r.1.assoc.outstanding.get i).Waits ∧
      covered (r.1.assoc.outstanding.get i).tsn = true)) : sackSlot covered r i = r := by
  unfold sackSlot
  simp only
  split
  · rfl
  · rename_i hw
    rw [not_or] at hw
    have hwaits : (r.1.assoc.outstanding.get i).Waits := ⟨by simpa using hw.1, by simpa using hw.2⟩
    rw [if_neg (fun hc => hn ⟨hwaits, hc⟩)]

theorem get_sackSlot (r : Host × UINT32) (i j : Fin SCTP_MAX_OUTSTANDING) :
    (sackSlot covered r i).1.assoc.outstanding.get j =
      if j = i ∧ (r.1.assoc.outstanding.get j).Waits ∧
          covered (r.1.assoc.outstanding.get j).tsn = true then
        (r.1.assoc.outstanding.get j).released
      else r.1.assoc.outstanding.get j := by
  by_cases hrel : (r.1.assoc.outstanding.get i).Waits ∧
      covered (r.1.assoc.outstanding.get i).tsn = true
  · rw [sackSlot_of_waits hrel.1 hrel.2]
    show (r.1.assoc.outstanding.set i _).get j = _
    rw [SlotTable.get_set]
    by_cases hij : j = i
    · subst hij
      rw [if_pos rfl, if_pos ⟨rfl, hrel⟩]
      rfl
    · rw [if_neg hij, if_neg (fun h => hij h.1)]
  · rw [sackSlot_of_not hrel]
    rw [if_neg]
    rintro ⟨rfl, h⟩
    exact hrel h

theorem get_forSlots_sackSlot (covered : UINT32 → Bool) (r : Host × UINT32) (j : Fin SCTP_MAX_OUTSTANDING) :
    (SlotTable.forSlots (sackSlot covered) r).1.assoc.outstanding.get j =
      if (r.1.assoc.outstanding.get j).Waits ∧ covered (r.1.assoc.outstanding.get j).tsn = true then
        (r.1.assoc.outstanding.get j).released
      else r.1.assoc.outstanding.get j := by
  have hloop := SlotTable.forSlots_rec (f := sackSlot covered) (s := r)
    (P := fun m r' => ∀ j : Fin SCTP_MAX_OUTSTANDING, r'.1.assoc.outstanding.get j =
      if j.val < m ∧ (r.1.assoc.outstanding.get j).Waits ∧
          covered (r.1.assoc.outstanding.get j).tsn = true then
        (r.1.assoc.outstanding.get j).released
      else r.1.assoc.outstanding.get j) ?_ ?_ j
  · rw [hloop]
    simp only [j.isLt, true_and]
  · intro j
    rw [if_neg (fun h => Nat.not_lt_zero _ h.1)]
  · intro i r' hr j
    rw [get_sackSlot]
    by_cases hij : j = i
    · subst hij
      have hold : r'.1.assoc.outstanding.get j = r.1.assoc.outstanding.get j := by
        rw [hr j, if_neg (fun h => Nat.lt_irrefl _ h.1)]
      rw [hold]
      simp only [true_and, Nat.lt_succ_self]
    · have hlt : j.val < i.val + 1 ↔ j.val < i.val := by
        have hne : j.val ≠ i.val := fun h => hij (Fin.ext h)
        omega
      rw [if_neg (fun h => hij h.1), hr j]
      simp only [hlt]

end

theorem get_sackGaps (pValue : Bytes) (cumTsn : UINT32) (l : List Nat) (r : Host × UINT32)
    (j : Fin SCTP_MAX_OUTSTANDING) :
    (l.foldl (sackGap pValue cumTsn) r).1.assoc.outstanding.get j =
      if (r.1.assoc.outstanding.get j).Waits ∧ ∃ k ∈ l,
          TSN_GTE (r.1.assoc.outstanding.get j).tsn
            (cumTsn + (getUnalignedInt16BigEndian pValue (12 + 4 * k)).setWidth 32) ∧
          TSN_LTE (r.1.assoc.outstanding.get j).tsn
            (cumTsn + (getUnalignedInt16BigEndian pValue (12 + 4 * k + 2)).setWidth 32) then
        (r.1.assoc.outstanding.get j).released
      else r.1.assoc.outstanding.get j := by
  induction l generalizing r with
  | nil => rw [if_neg (by rintro ⟨-, k, hk, -⟩; cases hk)]; rfl
  | cons a l ih =>
    have hpass := get_forSlots_sackSlot (fun tsn => TSN_GTE tsn
          (cumTsn + (getUnalignedInt16BigEndian pValue (12 + 4 * a)).setWidth 32) ∧
        TSN_LTE tsn (cumTsn + (getUnalignedInt16BigEndian pValue (12 + 4 * a + 2)).setWidth 32)) r j
    have hstep : sackGap pValue cumTsn r a = SlotTable.forSlots (sackSlot fun tsn => TSN_GTE tsn
          (cumTsn + (getUnalignedInt16BigEndian pValue (12 + 4 * a)).setWidth 32) ∧
        TSN_LTE tsn (cumTsn + (getUnalignedInt16BigEndian pValue (12 + 4 * a + 2)).setWidth 32)) r :=
      rfl
    rw [List.foldl_cons, ih, hstep, hpass]
    generalize r.1.assoc.outstanding.get j = d
    simp only [decide_eq_true_eq]
    by_cases hd : d.Waits ∧ (TSN_GTE d.tsn
          (cumTsn + (getUnalignedInt16BigEndian pValue (12 + 4 * a)).setWidth 32) ∧
        TSN_LTE d.tsn (cumTsn + (getUnalignedInt16BigEndian pValue (12 + 4 * a + 2)).setWidth 32))
    · -- released in this round, so no later round finds it waiting
      rw [if_pos hd, if_neg (fun h => Bool.false_ne_true h.1.1),
        if_pos ⟨hd.1, a, List.mem_cons_self, hd.2⟩]
    · rw [if_neg hd]
      refine if_congr (and_congr_right fun hw => ?_) rfl rfl
      constructor
      · rintro ⟨k, hk, hc⟩
        exact ⟨k, List.mem_cons_of_mem a hk, hc⟩
      · rintro ⟨k, hk, hc⟩
        rcases List.mem_cons.mp hk with rfl | hk
        · exact absurd ⟨hw, hc⟩ hd
        · exact ⟨k, hk, hc⟩

/-- **Both loops** release a slot whose chunk waits and is covered, -/
theorem get_sackLoops_covered {h : Host} {pValue : Bytes} {j : Fin SCTP_MAX_OUTSTANDING}
    (hw : (h.assoc.outstanding.get j).Waits)
    (hc : SackCovers pValue (h.assoc.outstanding.get j).tsn) :
    (sackLoops h pValue).1.assoc.outstanding.get j = (h.assoc.outstanding.get j).released := by
  have hpass := get_forSlots_sackSlot
    (fun tsn => TSN_LTE tsn (getUnalignedInt32BigEndian pValue 0)) (h, 0) j
  simp only [decide_eq_true_eq] at hpass
  obtain ⟨-, hle | ⟨hfits, k, hk, hgap⟩⟩ := hc
  · rw [if_pos ⟨hw, hle⟩] at hpass
    unfold sackLoops
    simp only
    split
    · rw [get_sackGaps, hpass, if_neg (fun h => Bool.false_ne_true h.1.1)]
    · exact hpass
  · have hloop : (getUnalignedInt16BigEndian pValue 8).toNat > 0 ∧
        pValue.length ≥ 12 + (getUnalignedInt16BigEndian pValue 8).toNat * 4 := ⟨by omega, hfits⟩
    unfold sackLoops
    rw [if_pos hloop, get_sackGaps, hpass]
    split
    · rw [if_neg (fun h => Bool.false_ne_true h.1.1)]
    · rw [if_pos ⟨hw, k, List.mem_range.mpr hk, hgap⟩]

/-- and leave every other slot alone. -/
theorem get_sackLoops_kept {h : Host} {pValue : Bytes} (hlen : 12 ≤ pValue.length)
    {j : Fin SCTP_MAX_OUTSTANDING}
    (hn : ¬ ((h.assoc.outstanding.get j).Waits ∧
      SackCovers pValue (h.assoc.outstanding.get j).tsn)) :
    (sackLoops h pValue).1.assoc.outstanding.get j = h.assoc.outstanding.get j := by
  have hpass := get_forSlots_sackSlot
    (fun tsn => TSN_LTE tsn (getUnalignedInt32BigEndian pValue 0)) (h, 0) j
  simp only [decide_eq_true_eq] at hpass
  rw [if_neg (fun hc => hn ⟨hc.1, hlen, .inl hc.2⟩)] at hpass
  unfold sackLoops
  simp only
  split
  · rename_i hloop
    rw [get_sackGaps, hpass, if_neg]
    rintro ⟨hw, k, hk, hgap⟩
    exact hn ⟨hw, hlen, .inr ⟨hloop.2, k, List.mem_range.mp hk, hgap⟩⟩
  · exact hpass

theorem sackLoops_of_uncovered {h : Host} {pValue : Bytes} (hlen : 12 ≤ pValue.length)
    (hn : ∀ j, ¬ ((h.assoc.outstanding.get j).Waits ∧
      SackCovers pValue (h.assoc.outstanding.get j).tsn)) : sackLoops h pValue = (h, 0) := by
  have hpass : ∀ covered : UINT32 → Bool, (∀ tsn, covered tsn = true → SackCovers pValue tsn) →
      SlotTable.forSlots (sackSlot covered) (h, 0) = (h, 0) := by
    intro covered hcov
    refine SlotTable.forSlots_invariant (P := fun r => r = (h, 0)) rfl (fun i r hr => ?_)
    subst hr
    exact sackSlot_of_not fun hc => hn i ⟨hc.1, hcov _ hc.2⟩
  have hfirst := hpass (fun tsn => TSN_LTE tsn (getUnalignedInt32BigEndian pValue 0))
    (fun tsn hc => ⟨hlen, .inl (of_decide_eq_true hc)⟩)
  unfold sackLoops
  simp only
  rw [hfirst]
  split
  · rename_i hloop
    have hgaps : ∀ l : List Nat, (∀ k ∈ l, k < (getUnalignedInt16BigEndian pValue 8).toNat) →
        l.foldl (sackGap pValue (getUnalignedInt32BigEndian pValue 0)) (h, 0) = (h, 0) := by
      intro l
      induction l with
      | nil => exact fun _ => rfl
      | cons a l ih =>
        intro hl
        have hone : sackGap pValue (getUnalignedInt32BigEndian pValue 0) (h, 0) a = (h, 0) :=
          hpass _ fun tsn hc => ⟨hlen, .inr ⟨hloop.2, a, hl a List.mem_cons_self,
            of_decide_eq_true hc⟩⟩
        rw [List.foldl_cons, hone]
        exact ih fun k hk => hl k (List.mem_cons_of_mem a hk)
    exact hgaps _ fun k hk => List.mem_range.mp hk
  · rfl

end KvsWebrtc.Sctp
