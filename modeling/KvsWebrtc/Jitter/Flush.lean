import KvsWebrtc.Jitter.Ownership
import KvsWebrtc.Jitter.ReportOrder

/-!
# Closing the real-time jitter buffer

`rtDestroy` closes the frames that are complete as far as can be known, and then takes the earliest
frame out of the table until it is empty.  Behind the callback it reads the timestamp again from the
slot of the frame, so a callback that drops its range leaves whatever entry has been moved there to be
removed without a report (`moved_frame_not_reported`); and a packet outside the ranges of all frames is
never freed.

Principal results:

* `rtDestroy_terminates` — the flush ends, whatever the callback does;
* `freed_once` — up to then no packet has been freed twice;
* `destroy_sound_iff` — it reports every frame once and in order, and frees every packet, exactly when
  every round takes the oldest frame, no drop moves or removes another entry, and every packet lies in
  the range of a frame.
-/

namespace KvsWebrtc.Jitter

open Rtp

variable {cb : RtCallbacks} {b b' : RealTimeJitterBuffer} {f g : RtFrameEntry} {r : RtReport}

/-- The states a run of pushes can reach. -/
def Reachable (cb : RtCallbacks) (b : RealTimeJitterBuffer) : Prop :=
  ∃ maxLatency clockRate single created, ∃ packets : List InboundRtpPacket,
    createRealTimeJitterBuffer maxLatency clockRate single = some created ∧
      b = packets.foldl (pushStep cb) created

/-- What closing the buffer has to do. -/
def DestroySound (cb : RtCallbacks) (b : RealTimeJitterBuffer) : Prop :=
  ∃ b' new, rtDestroy cb b = some b' ∧ b'.reports = b.reports ++ new ∧
    (new.map (·.frame.timestamp)).Perm (timestamps b) ∧
    (new.map (·.frame.timestamp)).Pairwise (fun x y => Serial.gt y x) ∧
    b'.freed.Perm (b.freed ++ ringPackets b.pktRing)

/-- The other frames have a packet that the drop of this range leaves. -/
def OthersHeld (b : RealTimeJitterBuffer) (f : RtFrameEntry) : Prop :=
  ∀ g ∈ b.frames, g.timestamp ≠ f.timestamp → ∃ slot p, b.pktRing slot = some p ∧
    InRange g.firstSeqNum g.lastSeqNum p.header.sequenceNumber ∧
    ¬ InRange f.firstSeqNum f.lastSeqNum p.header.sequenceNumber

/-- A round of the flush takes the oldest frame, and a callback that drops its range finds it in the
last slot and leaves the other frames a packet. -/
structure RoundClean (cb : RtCallbacks) (b : RealTimeJitterBuffer) (index : Nat)
    (f : RtFrameEntry) : Prop where
  oldest : ∀ g ∈ b.frames, g.timestamp ≠ f.timestamp → Serial.gt g.timestamp f.timestamp
  dropped : rtFrameIsComplete b f = true →
    (cb.onFrameReady b.reports.length).drops.isSome = true →
      index + 1 = b.frames.length ∧ OthersHeld b f

/-- Every round is clean. -/
def FlushClean (cb : RtCallbacks) : Nat → RealTimeJitterBuffer → Prop
  | 0, _ => True
  | n + 1, b =>
    match rtFindEarliestFrame b with
    | none => True
    | some (index, f) => RoundClean cb b index f ∧ FlushClean cb n (flushHead cb b)

/-- Every packet lies in the range of a frame. -/
def Covered (b : RealTimeJitterBuffer) : Prop :=
  ∀ slot p, b.pktRing slot = some p →
    ∃ f ∈ b.frames, InRange f.firstSeqNum f.lastSeqNum p.header.sequenceNumber

theorem Reachable.tableOk (h : Reachable cb b) : TableOk b := by
  obtain ⟨maxLatency, clockRate, single, created, packets, hcreated, rfl⟩ := h
  have hok := (pushOk_created hcreated : PushOk 0 created).table
  clear hcreated
  induction packets generalizing created with
  | nil => exact hok
  | cons p packets ih => exact ih _ (hok.rtPush cb p)

/-! ## Closing -/

theorem closeAt_eq (b : RealTimeJitterBuffer) (i : Nat) :
    ∃ frames, closeAt b i = { b with frames := frames } ∧
      frames.map (·.timestamp) = timestamps b := by
  refine ⟨_, rfl, map_modify_of_eq (fun f => ?_) _ _⟩
  repeat' split
  all_goals first | rfl | exact timestamp_rtTryMarkFrameComplete b _ f

theorem closeFrames_eq (b : RealTimeJitterBuffer) :
    ∃ frames, closeFrames b = { b with frames := frames } ∧
      frames.map (·.timestamp) = timestamps b := by
  rw [closeFrames]
  generalize List.range b.frames.length = indices
  induction indices generalizing b with
  | nil => exact ⟨b.frames, rfl, rfl⟩
  | cons i indices ih =>
    obtain ⟨frames, hclose, hframes⟩ := closeAt_eq b i
    obtain ⟨frames', hrest, hframes'⟩ := ih (closeAt b i)
    refine ⟨frames', ?_, ?_⟩
    · rw [List.foldl_cons, hrest, hclose]
    · rw [hframes', hclose]
      exact hframes

theorem tableOk_closeFrames (h : TableOk b) : TableOk (closeFrames b) := by
  obtain ⟨frames, hclose, hframes⟩ := closeFrames_eq b
  rw [hclose]
  refine ⟨?_, h.placed, ?_⟩
  · change (frames.map (·.timestamp)).Nodup
    rw [hframes]
    exact h.nodup
  · rcases h.started with hnil | hs
    · left
      rw [timestamps, hnil, List.map_nil, List.map_eq_nil_iff] at hframes
      exact hframes
    · exact Or.inr hs

/-! ## A round -/

/-- A frame has been reported in the flush. -/
def logReport (b : RealTimeJitterBuffer) (r : RtReport) : RealTimeJitterBuffer :=
  { b with reports := b.reports ++ [r] }

theorem tableOk_logReport (h : TableOk b) (r : RtReport) : TableOk (logReport b r) :=
  h.congr rfl rfl rfl

/-- The slot that is read again behind the callback. -/
def slotAt (b : RealTimeJitterBuffer) (index : Nat) : Option RtFrameEntry :=
  (b.frames ++ b.stale)[index]?

theorem flushHead_cases (cb : RtCallbacks) {i : Nat} (hfind : rtFindEarliestFrame b = some (i, f)) :
    (rtFrameIsComplete b f = false ∧ flushHead cb b =
        rtRemoveFrame (rtFreePacketsInRange (logReport b (.dropped f)) f.firstSeqNum
          f.lastSeqNum) i) ∨
    (rtFrameIsComplete b f = true ∧ (cb.onFrameReady b.reports.length).drops = none ∧
      ∃ size, flushHead cb b = removeReported (logReport b (.ready f size)) f.timestamp) ∨
    (rtFrameIsComplete b f = true ∧ ∃ next size called,
      (cb.onFrameReady b.reports.length).drops = some next ∧
      called = rtDropBufferData (logReport b (.ready f size)) f.firstSeqNum f.lastSeqNum next ∧
      flushHead cb b = match slotAt called i with
        | none => called
        | some slot => removeReported called slot.timestamp) := by
  have hf := rtFindEarliestFrame_eq_some hfind
  rw [flushHead, hfind]
  dsimp only
  cases hcomplete : rtFrameIsComplete b f with
  | false => exact Or.inl ⟨rfl, rfl⟩
  | true =>
    right
    cases hdrops : (cb.onFrameReady b.reports.length).drops with
    | none =>
      refine Or.inl ⟨rfl, rfl,
        rtCalcFrameSize cb.depayPayload b f.firstSeqNum f.lastSeqNum, ?_⟩
      rw [if_pos rfl, callFrameReady, hdrops]
      rw [List.getElem?_append_left (List.getElem?_eq_some_iff.mp hf.at_index).1, hf.at_index]
      rfl
    | some next =>
      refine Or.inr ⟨rfl, next, rtCalcFrameSize cb.depayPayload b f.firstSeqNum f.lastSeqNum, _,
        rfl, rfl, ?_⟩
      rw [if_pos rfl, callFrameReady, hdrops]
      rfl

/-- **A round reports the earliest frame and takes it out**, whatever else it removes. -/
theorem flushHead_takes (cb : RtCallbacks) {i : Nat} (h : TableOk b) (hfind : rtFindEarliestFrame b = some (i, f)) :
    ∃ r, r.frame = f ∧ Trimmed (logReport b r) (flushHead cb b) ∧
      f.timestamp ∉ timestamps (flushHead cb b) := by
  have hf := rtFindEarliestFrame_eq_some hfind
  rcases flushHead_cases cb hfind with ⟨-, hrun⟩ | ⟨-, -, size, hrun⟩ |
    ⟨-, next, size, called, -, rfl, hrun⟩
  · refine ⟨.dropped f, rfl, ?_⟩
    have hfree := trimmed_rtFreePacketsInRange (logReport b (.dropped f)) f.firstSeqNum f.lastSeqNum
    have hat : (rtFreePacketsInRange (logReport b (.dropped f)) f.firstSeqNum
        f.lastSeqNum).frames[i]? = some f := by
      rw [frames_rtFreePacketsInRange]
      exact hf.at_index
    rw [hrun]
    exact ⟨hfree.trans (trimmed_rtRemoveFrame hat),
      gone_rtRemoveFrame ((tableOk_logReport h _).trimmed hfree).nodup hat⟩
  · refine ⟨.ready f size, rfl, ?_⟩
    rw [hrun]
    exact ⟨trimmed_removeReported _ _, gone_removeReported (tableOk_logReport h _).nodup⟩
  · refine ⟨.ready f size, rfl, ?_⟩
    have hok := tableOk_logReport h (.ready f size)
    have hcall := trimmed_rtDropBufferData (logReport b (.ready f size)) f.firstSeqNum f.lastSeqNum
      next
    have hgone := gone_rtDropBufferData hok.nodup hok.placed hf.mem next
    rw [hrun]
    split
    · exact ⟨hcall, hgone⟩
    · have hremove := trimmed_removeReported (rtDropBufferData (logReport b (.ready f size))
        f.firstSeqNum f.lastSeqNum next) (by assumption : RtFrameEntry).timestamp
      exact ⟨hcall.trans hremove, fun hmem => hgone (hremove.timestamps.subset hmem)⟩

theorem tableOk_flushHead (cb : RtCallbacks) (h : TableOk b) : TableOk (flushHead cb b) := by
  cases hfind : rtFindEarliestFrame b with
  | none =>
    rw [flushHead, hfind]
    exact h
  | some entry =>
    obtain ⟨r, -, htrim, -⟩ := flushHead_takes cb h (i := entry.1) (f := entry.2) hfind
    exact (tableOk_logReport h r).trimmed htrim

theorem length_flushHead (cb : RtCallbacks) {i : Nat} (h : TableOk b) (hfind : rtFindEarliestFrame b = some (i, f)) :
    (flushHead cb b).frames.length < b.frames.length := by
  have hf := rtFindEarliestFrame_eq_some hfind
  obtain ⟨r, -, htrim, hgone⟩ := flushHead_takes cb h hfind
  have hsub : (f.timestamp :: timestamps (flushHead cb b)).Subperm (timestamps b) :=
    List.cons_subperm_of_not_mem_of_mem hgone hf.mem_timestamps htrim.timestamps
  have := hsub.length_le
  rw [List.length_cons, timestamps, timestamps, List.length_map, List.length_map] at this
  omega

theorem flushFrames_ends (cb : RtCallbacks) : ∀ (fuel : Nat) (b : RealTimeJitterBuffer), TableOk b →
    b.frames.length ≤ fuel → ∃ b' new, flushFrames cb fuel b = some b' ∧
      b'.reports = b.reports ++ new ∧
      (new.map (·.frame.timestamp)).Subperm (timestamps b) ∧ (packets b').Perm (packets b) := by
  intro fuel
  induction fuel with
  | zero =>
    intro b _ hlen
    have hnil : b.frames = [] := List.eq_nil_of_length_eq_zero (Nat.le_zero.mp hlen)
    exact ⟨b, [], if_pos hnil, (List.append_nil _).symm, List.nil_subperm, List.Perm.refl _⟩
  | succ fuel ih =>
    intro b h hlen
    rw [flushFrames]
    split
    · exact ⟨b, [], rfl, (List.append_nil _).symm, List.nil_subperm, List.Perm.refl _⟩
    · rename_i hcons
      cases hfind : rtFindEarliestFrame b with
      | none => exact absurd (rtFindEarliestFrame_eq_none.mp hfind) hcons
      | some entry =>
        obtain ⟨i, f⟩ := entry
        have hf := rtFindEarliestFrame_eq_some hfind
        obtain ⟨r, rfl, htrim, hgone⟩ := flushHead_takes cb h hfind
        have hok := tableOk_flushHead cb h
        have hshort := length_flushHead cb h hfind
        obtain ⟨b', new, hrun, hreports, hnew, hpackets⟩ := ih (flushHead cb b) hok (by omega)
        refine ⟨b', r :: new, hrun, ?_, ?_, hpackets.trans htrim.packets⟩
        · rw [hreports, htrim.reports, logReport, List.append_assoc, List.singleton_append]
        · rw [List.map_cons]
          exact ((List.subperm_cons _).mpr hnew).trans
            (List.cons_subperm_of_not_mem_of_mem hgone hf.mem_timestamps htrim.timestamps)

theorem rtDestroy_ends (h : Reachable cb b) : ∃ b' new, rtDestroy cb b = some b' ∧
    b'.reports = b.reports ++ new ∧
    (new.map (·.frame.timestamp)).Subperm (timestamps b) ∧ (packets b').Perm (packets b) := by
  rw [rtDestroy]
  split
  · obtain ⟨frames, hclose, hframes⟩ := closeFrames_eq b
    have hlen : (closeFrames b).frames.length = b.frames.length := by
      rw [hclose]
      simpa [timestamps] using congrArg List.length hframes
    obtain ⟨b', new, hrun, hreports, hnew, hpackets⟩ := flushFrames_ends cb b.frames.length
      (closeFrames b) (tableOk_closeFrames h.tableOk) hlen.le
    refine ⟨b', new, hrun, ?_, ?_, ?_⟩
    · rw [hreports, hclose]
    · rw [hclose] at hnew
      exact hframes ▸ hnew
    · rw [hclose] at hpackets
      exact hpackets
  · exact ⟨b, [], rfl, (List.append_nil _).symm, List.nil_subperm, List.Perm.refl _⟩

/-- **Closing a reachable buffer ends, whatever the callback does.** -/
theorem rtDestroy_terminates (h : Reachable cb b) : (rtDestroy cb b).isSome = true := by
  obtain ⟨b', new, hrun, -⟩ := rtDestroy_ends h
  rw [hrun]
  rfl

theorem packets_pushes (cb : RtCallbacks) (ps : List InboundRtpPacket) (b : RealTimeJitterBuffer) :
    (packets (ps.foldl (pushStep cb) b)).Subperm (ps ++ packets b) := by
  induction ps generalizing b with
  | nil => exact List.Subperm.refl _
  | cons p ps ih =>
    obtain ⟨lost, -, hperm⟩ := packets_rtPush_lost cb b p
    have hpush : (packets (pushStep cb b p)).Subperm (p :: packets b) :=
      (List.sublist_append_right _ _).subperm.trans hperm.subperm
    exact (ih _).trans (((List.subperm_append_left ps).mpr hpush).trans List.perm_middle.subperm)

/-- **No packet is freed twice and no frame is closed twice** in the life of a buffer, whatever the
callback does: by the end the freed packets are among those pushed, and what the flush reports are
frames of the table. -/
theorem freed_once {maxLatency clockRate : UINT32} {single : Bool}
    {created : RealTimeJitterBuffer}
    (hcreated : createRealTimeJitterBuffer maxLatency clockRate single = some created)
    (cb : RtCallbacks) (ps : List InboundRtpPacket) :
    ∃ b' new, rtDestroy cb (ps.foldl (pushStep cb) created) = some b' ∧
      b'.freed.Subperm ps ∧
      b'.reports = (ps.foldl (pushStep cb) created).reports ++ new ∧
      (new.map (·.frame.timestamp)).Subperm (timestamps (ps.foldl (pushStep cb) created)) := by
  have hreach : Reachable cb (ps.foldl (pushStep cb) created) := ⟨_, _, _, _, ps, hcreated, rfl⟩
  obtain ⟨b', new, hrun, hreports, hnew, hpackets⟩ := rtDestroy_ends hreach
  refine ⟨b', new, hrun, ?_, hreports, hnew⟩
  have hnone : packets created = [] := by
    unfold createRealTimeJitterBuffer at hcreated
    split at hcreated
    · cases hcreated
    · cases hcreated
      rw [packets, List.nil_append, ringPackets, List.filterMap_eq_nil_iff]
      exact fun _ _ => rfl
  have hfreed : b'.freed.Subperm (packets b') := (List.sublist_append_left _ _).subperm
  have hpushed := packets_pushes cb ps created
  rw [hnone, List.append_nil] at hpushed
  exact hfreed.trans (hpackets.subperm.trans hpushed)

/-! ## A clean round -/

/-- Exactly this frame, and the packets of its range, are taken out. -/
structure TakenOut (b b' : RealTimeJitterBuffer) (f : RtFrameEntry) : Prop where
  spans : (span f :: spans b').Perm (spans b)
  ring : ∀ slot, b'.pktRing slot = (b.pktRing slot).filter fun p =>
    ¬ InRange f.firstSeqNum f.lastSeqNum p.header.sequenceNumber

theorem TakenOut.of_remove {i : Nat} (hplaced : RingPlaced b.pktRing)
    (hat : b.frames[i]? = some f) :
    TakenOut b (rtRemoveFrame (rtFreePacketsInRange b f.firstSeqNum f.lastSeqNum) i) f where
  spans := by
    have hframes := frames_rtFreePacketsInRange b f.firstSeqNum f.lastSeqNum
    have hperm := (frames_rtRemoveFrame (hframes ▸ hat)).map span
    rw [hframes] at hperm
    exact hperm
  ring := fun slot => by
    have hremove : (rtRemoveFrame (rtFreePacketsInRange b f.firstSeqNum f.lastSeqNum) i).pktRing =
        (rtFreePacketsInRange b f.firstSeqNum f.lastSeqNum).pktRing := by
      unfold rtRemoveFrame
      split <;> rfl
    rw [hremove, rtFreePacketsInRange_ring hplaced]

theorem TakenOut.of_removeReported (h : TableOk b) (hf : f ∈ b.frames) :
    TakenOut b (removeReported b f.timestamp) f := by
  unfold removeReported
  cases hfind : rtFindFrame b f.timestamp with
  | none => exact absurd (List.mem_map_of_mem hf) (rtFindFrame_eq_none.mp hfind)
  | some i =>
    obtain ⟨g, hg, hts⟩ := rtFindFrame_eq_some hfind
    have hgf : g = f := eq_of_timestamp_eq h.nodup (List.mem_of_getElem? hg) hf hts
    subst hgf
    dsimp only
    rw [hg]
    exact .of_remove h.placed hg

theorem removeEmpty_last {front : List RtFrameEntry} (hframes : b.frames = front ++ [f])
    (hheld : ∀ g ∈ front, hasRemaining b g = true) (hf : hasRemaining b f = false) :
    ∀ (fuel i : Nat), i ≤ front.length → front.length < fuel + i →
      removeEmpty fuel i b = { b with frames := front, stale := f :: b.stale } := by
  intro fuel
  induction fuel with
  | zero =>
    intro i hi hlt
    omega
  | succ fuel ih =>
    intro i hi hlt
    rw [removeEmpty]
    rcases Nat.lt_or_eq_of_le hi with hi | rfl
    · have hat : b.frames[i]? = some front[i] := by
        rw [hframes, List.getElem?_append_left hi, List.getElem?_eq_getElem hi]
      rw [hat]
      dsimp only
      rw [if_pos (hheld _ (List.getElem_mem hi))]
      exact ih (i + 1) hi (by omega)
    · have hat : b.frames[front.length]? = some f := by
        rw [hframes, List.getElem?_append_right le_rfl, Nat.sub_self]
        rfl
      rw [hat]
      dsimp only
      rw [if_neg (by rw [hf]; exact Bool.false_ne_true), rtRemoveFrame_last hframes]
      cases fuel with
      | zero => rfl
      | succ fuel =>
        rw [removeEmpty]
        rw [List.getElem?_eq_none le_rfl]

theorem concat_of_last {i : Nat} {l : List RtFrameEntry} (hlen : i + 1 = l.length)
    (hat : l[i]? = some f) : ∃ front, l = front ++ [f] ∧ front.length = i := by
  obtain ⟨hi, rfl⟩ := List.getElem?_eq_some_iff.mp hat
  refine ⟨l.take i, ?_, by rw [List.length_take]; omega⟩
  rw [List.take_append_getElem, hlen, List.take_length]

/-- **A drop of the range of the last frame takes it out**, and its slot still holds it. -/
theorem TakenOut.of_drop {i : Nat} (h : TableOk b) (hat : b.frames[i]? = some f)
    (hlast : i + 1 = b.frames.length) (hothers : OthersHeld b f) (next : UINT32) :
    TakenOut b (rtDropBufferData b f.firstSeqNum f.lastSeqNum next) f ∧
      ∃ slot, slotAt (rtDropBufferData b f.firstSeqNum f.lastSeqNum next) i = some slot ∧
        slot.timestamp = f.timestamp := by
  obtain ⟨front, hframes, hfront⟩ := concat_of_last hlast hat
  obtain ⟨counted, hdrop, hcounted⟩ :=
    dropPackets_eq (rangeLength f.firstSeqNum f.lastSeqNum) f.firstSeqNum b
  rw [Jitter.spans, hframes, List.map_append, List.map_singleton] at hcounted
  obtain ⟨front', tail, rfl, hfront', htail⟩ := List.map_eq_append_iff.mp hcounted
  obtain ⟨f', rfl, hf'⟩ := List.map_eq_singleton_iff.mp htail
  have hlen' : front'.length = i := by
    rw [← hfront, ← List.length_map (f := span), hfront', List.length_map]
  let freed := rtFreePacketsInRange b f.firstSeqNum f.lastSeqNum
  have hheld : ∀ g ∈ front', hasRemaining { freed with frames := front' ++ [f'] } g = true := by
    intro g hg
    obtain ⟨g₀, hg₀, hspan⟩ := List.mem_map.mp (hfront' ▸ List.mem_map_of_mem (f := span) hg)
    have hmem : g₀ ∈ b.frames := by
      rw [hframes]
      exact List.mem_append_left _ hg₀
    have hne : g₀.timestamp ≠ f.timestamp := by
      intro heq
      have hnodup := h.nodup
      rw [timestamps, hframes, List.map_append, List.nodup_append] at hnodup
      exact hnodup.2.2 _ (List.mem_map_of_mem hg₀) _ List.mem_cons_self heq
    change spanHeld freed (span g) = true
    rw [← hspan, spanHeld_freed_iff h.placed]
    exact hothers g₀ hmem hne
  have hgone : hasRemaining { freed with frames := front' ++ [f'] } f' = false := by
    change spanHeld freed (span f') = false
    rw [hf']
    exact not_spanHeld_freed h.placed f
  have hempty := removeEmpty_last rfl hheld hgone (front' ++ [f']).length 0 (Nat.zero_le _) (by simp)
  have hhead : ∀ b : RealTimeJitterBuffer, (rtUpdateHead b).frames = b.frames ∧
      (rtUpdateHead b).stale = b.stale ∧ (rtUpdateHead b).pktRing = b.pktRing := by
    intro b
    unfold rtUpdateHead
    split <;> exact ⟨rfl, rfl, rfl⟩
  have hrun : ∃ b', rtDropBufferData b f.firstSeqNum f.lastSeqNum next = b' ∧
      b'.frames = front' ∧ b'.stale = f' :: freed.stale ∧ b'.pktRing = freed.pktRing := by
    have hdropped : ∀ b₁, b₁ = dropPackets (rangeLength f.firstSeqNum f.lastSeqNum)
        f.firstSeqNum b → removeEmpty b₁.frames.length 0 b₁ =
          { freed with frames := front', stale := f' :: freed.stale } := by
      rintro b₁ rfl
      rw [hdrop]
      exact hempty
    refine ⟨_, rfl, ?_⟩
    rw [rtDropBufferData]
    rw [hdropped _ rfl]
    dsimp only
    split
    · exact ⟨rfl, rfl, rfl⟩
    · exact hhead _
  obtain ⟨b', rfl, hb', hstale, hring⟩ := hrun
  refine ⟨⟨?_, fun slot => ?_⟩, f', ?_, congrArg Prod.fst hf'⟩
  · rw [Jitter.spans, hb', hfront', Jitter.spans, hframes, List.map_append, List.map_singleton]
    exact (List.perm_append_singleton _ _).symm
  · rw [hring, rtFreePacketsInRange_ring h.placed]
  · rw [slotAt, hb', hstale, List.getElem?_append_right hlen'.le, hlen', Nat.sub_self]
    rfl

/-- **A clean round takes out its frame and the packets of its range.** -/
theorem RoundClean.takenOut {i : Nat} (h : TableOk b) (hfind : rtFindEarliestFrame b = some (i, f))
    (hclean : RoundClean cb b i f) : TakenOut b (flushHead cb b) f := by
  have hf := rtFindEarliestFrame_eq_some hfind
  rcases flushHead_cases cb hfind with ⟨-, hrun⟩ | ⟨-, -, size, hrun⟩ |
    ⟨hcomplete, next, size, called, hdrops, rfl, hrun⟩
  · have htaken : TakenOut (logReport b (.dropped f)) _ f := .of_remove h.placed hf.at_index
    rw [hrun]
    exact ⟨htaken.spans, htaken.ring⟩
  · have htaken : TakenOut (logReport b (.ready f size)) _ f :=
      .of_removeReported (tableOk_logReport h _) hf.mem
    rw [hrun]
    exact ⟨htaken.spans, htaken.ring⟩
  · obtain ⟨hlast, hothers⟩ := hclean.dropped hcomplete (by rw [hdrops]; rfl)
    have hok := tableOk_logReport h (.ready f size)
    obtain ⟨htaken, slot, hslot, hts⟩ :=
      TakenOut.of_drop (b := logReport b (.ready f size)) hok hf.at_index hlast hothers next
    have hgone := gone_rtDropBufferData hok.nodup hok.placed hf.mem next
    rw [hrun, hslot]
    dsimp only
    rw [removeReported, hts, rtFindFrame_eq_none.mpr hgone]
    exact ⟨htaken.spans, htaken.ring⟩

/-- **A round that takes out nothing but its frame is clean**, when it is the oldest. -/
theorem dropped_of_exact {i : Nat} (h : TableOk b) (hfind : rtFindEarliestFrame b = some (i, f))
    (hexact : (f.timestamp :: timestamps (flushHead cb b)).Perm (timestamps b))
    (hcomplete : rtFrameIsComplete b f = true)
    (hdrops : (cb.onFrameReady b.reports.length).drops.isSome = true) :
    i + 1 = b.frames.length ∧ OthersHeld b f := by
  have hf := rtFindEarliestFrame_eq_some hfind
  rcases flushHead_cases cb hfind with ⟨hnot, -⟩ | ⟨-, hnone, -⟩ |
    ⟨-, next, size, called, -, rfl, hrun⟩
  · rw [hnot] at hcomplete
    cases hcomplete
  · rw [hnone] at hdrops
    cases hdrops
  · have hok := tableOk_logReport h (.ready f size)
    have hcall := trimmed_rtDropBufferData (logReport b (.ready f size)) f.firstSeqNum f.lastSeqNum
      next
    have hgone := gone_rtDropBufferData hok.nodup hok.placed hf.mem next
    generalize hcalled : rtDropBufferData (logReport b (.ready f size)) f.firstSeqNum f.lastSeqNum
      next = called at hrun hcall hgone
    -- the call behind the drop removes nothing
    have hsub : (timestamps (flushHead cb b)).Subperm (timestamps called) := by
      rw [hrun]
      split
      · exact List.Subperm.refl _
      · exact (trimmed_removeReported called _).timestamps
    have hfew : (f.timestamp :: timestamps called).Subperm (timestamps b) :=
      List.cons_subperm_of_not_mem_of_mem hgone hf.mem_timestamps hcall.timestamps
    have hperm : (timestamps (flushHead cb b)).Perm (timestamps called) := by
      refine hsub.perm_of_length_le ?_
      have := hfew.length_le
      rw [List.length_cons, ← hexact.length_eq, List.length_cons] at this
      omega
    have hlen : called.frames.length + 1 = b.frames.length := by
      have := hexact.length_eq
      rw [List.length_cons, hperm.length_eq] at this
      simpa [timestamps] using this
    constructor
    · by_contra hne
      have hi := (List.getElem?_eq_some_iff.mp hf.at_index).1
      have hlt : i < called.frames.length := by omega
      -- the entry moved to the slot would be removed
      have hslot : slotAt called i = some called.frames[i] := by
        rw [slotAt, List.getElem?_append_left hlt, List.getElem?_eq_getElem hlt]
      rw [hrun, hslot] at hperm
      exact gone_removeReported (hok.trimmed hcall).nodup
        (hperm.mem_iff.mpr (List.mem_map_of_mem (List.getElem_mem hlt)))
    · intro g hg hne
      obtain ⟨frames, stale, hframes, hdrop⟩ := rtDropBufferData_eq (logReport b (.ready f size))
        f.firstSeqNum f.lastSeqNum next
      have hkept : g.timestamp ∈ timestamps called := by
        rw [← hperm.mem_iff]
        have hmem : g.timestamp ∈ f.timestamp :: timestamps (flushHead cb b) :=
          hexact.mem_iff.mpr (List.mem_map_of_mem hg)
        exact (List.mem_cons.mp hmem).resolve_left hne
      have hspans : spans called = frames.map span := by
        rw [← hcalled, hdrop]
        dsimp only
        split
        · rfl
        · rw [spans, frames_rtUpdateHead]
      rw [timestamps_eq_spans, hspans] at hkept
      obtain ⟨s, hs, hts⟩ := List.mem_map.mp hkept
      obtain ⟨hspan, hheld⟩ := List.mem_filter.mp (hframes.mem_iff.mp hs)
      obtain ⟨g', hg', rfl⟩ := List.mem_map.mp hspan
      have hgg : g' = g := eq_of_timestamp_eq h.nodup hg' hg hts
      rw [hgg, spanHeld_freed_iff hok.placed] at hheld
      exact hheld

theorem TakenOut.covered_iff (h : TakenOut b b' f) : Covered b' ↔ Covered b := by
  have hmem : ∀ s, s ∈ Jitter.spans b ↔ s = span f ∨ s ∈ Jitter.spans b' := fun s => by
    rw [← h.spans.mem_iff, List.mem_cons]
  constructor
  · intro hcov slot p hp
    by_cases hin : InRange f.firstSeqNum f.lastSeqNum p.header.sequenceNumber
    · obtain ⟨f₀, hf₀, hspan⟩ := List.mem_map.mp ((hmem (span f)).mpr (Or.inl rfl))
      have hrange : f₀.firstSeqNum = f.firstSeqNum ∧ f₀.lastSeqNum = f.lastSeqNum :=
        Prod.mk.inj (congrArg Prod.snd hspan)
      exact ⟨f₀, hf₀, by rw [hrange.1, hrange.2]; exact hin⟩
    · obtain ⟨g, hg, hing⟩ := hcov slot p (by
        rw [h.ring, hp, Option.filter_some, if_pos (decide_eq_true hin)])
      obtain ⟨g₀, hg₀, hspan⟩ := List.mem_map.mp
        ((hmem (span g)).mpr (Or.inr (List.mem_map_of_mem hg)))
      have hrange : g₀.firstSeqNum = g.firstSeqNum ∧ g₀.lastSeqNum = g.lastSeqNum :=
        Prod.mk.inj (congrArg Prod.snd hspan)
      exact ⟨g₀, hg₀, by rw [hrange.1, hrange.2]; exact hing⟩
  · intro hcov slot p hp
    rw [h.ring, Option.filter_eq_some_iff] at hp
    have hout := of_decide_eq_true hp.2
    obtain ⟨g, hg, hing⟩ := hcov slot p hp.1
    rcases (hmem (span g)).mp (List.mem_map_of_mem hg) with hspan | hg'
    · have hrange : g.firstSeqNum = f.firstSeqNum ∧ g.lastSeqNum = f.lastSeqNum :=
        Prod.mk.inj (congrArg Prod.snd hspan)
      rw [hrange.1, hrange.2] at hing
      exact absurd hing hout
    · obtain ⟨g₀, hg₀, hspan⟩ := List.mem_map.mp hg'
      have hrange : g₀.firstSeqNum = g.firstSeqNum ∧ g₀.lastSeqNum = g.lastSeqNum :=
        Prod.mk.inj (congrArg Prod.snd hspan)
      exact ⟨g₀, hg₀, by rw [hrange.1, hrange.2]; exact hing⟩

/-! ## The flush -/

/-- What the flush has to do from a state on. -/
def FlushSound (cb : RtCallbacks) (fuel : Nat) (b : RealTimeJitterBuffer) : Prop :=
  ∃ b' new, flushFrames cb fuel b = some b' ∧ b'.reports = b.reports ++ new ∧
    (new.map (·.frame.timestamp)).Perm (timestamps b) ∧
    (new.map (·.frame.timestamp)).Pairwise (fun x y => Serial.gt y x) ∧
    b'.freed.Perm (packets b)

theorem freed_perm_iff (hnil : b.frames = []) : b.freed.Perm (packets b) ↔ Covered b := by
  have hring : ringPackets b.pktRing = [] ↔ ∀ slot p, b.pktRing slot ≠ some p := by
    rw [ringPackets, List.filterMap_eq_nil_iff]
    constructor
    · intro h slot p hp
      rw [h slot (List.mem_finRange slot)] at hp
      cases hp
    · intro h slot _
      cases hp : b.pktRing slot with
      | none => rfl
      | some p => exact absurd hp (h slot p)
  have hcov : Covered b ↔ ∀ slot p, b.pktRing slot ≠ some p := by
    constructor
    · intro h slot p hp
      obtain ⟨f, hf, -⟩ := h slot p hp
      rw [hnil] at hf
      cases hf
    · exact fun h slot p hp => absurd hp (h slot p)
  rw [hcov, ← hring, packets]
  constructor
  · intro h
    have := h.length_eq
    rw [List.length_append] at this
    exact List.eq_nil_of_length_eq_zero (by omega)
  · intro h
    rw [h, List.append_nil]

/-- **One round of the flush and the rest of it.** -/
theorem flushSound_succ_iff {i fuel : Nat} (h : TableOk b) (hlen : b.frames.length ≤ fuel + 1)
    (hfind : rtFindEarliestFrame b = some (i, f)) :
    FlushSound cb (fuel + 1) b ↔ RoundClean cb b i f ∧ FlushSound cb fuel (flushHead cb b) := by
  have hf := rtFindEarliestFrame_eq_some hfind
  have hcons : b.frames ≠ [] := fun hnil => by
    rw [rtFindEarliestFrame_eq_none.mpr hnil] at hfind
    cases hfind
  have hstep : flushFrames cb (fuel + 1) b = flushFrames cb fuel (flushHead cb b) := by
    rw [flushFrames, if_neg hcons]
  obtain ⟨r, rfl, htrim, hgone⟩ := flushHead_takes cb h hfind
  have hok := tableOk_flushHead cb h
  have hfew : (r.frame.timestamp :: timestamps (flushHead cb b)).Subperm (timestamps b) :=
    List.cons_subperm_of_not_mem_of_mem hgone hf.mem_timestamps htrim.timestamps
  have hpackets : (packets (flushHead cb b)).Perm (packets b) := htrim.packets
  constructor
  · rintro ⟨b', new, hrun, hreports, hnew, hsorted, hfreed⟩
    rw [hstep] at hrun
    have hshort := length_flushHead cb h hfind
    obtain ⟨b'', rest, hrun', hreports', hrest, -⟩ :=
      flushFrames_ends cb fuel (flushHead cb b) hok (by omega)
    rw [hrun] at hrun'
    cases hrun'
    rw [hreports, htrim.reports, logReport, List.append_assoc, List.singleton_append] at hreports'
    obtain rfl := List.append_cancel_left hreports'
    rw [List.map_cons] at hnew hsorted
    -- the later rounds report what is left
    have hperm : (rest.map (·.frame.timestamp)).Perm (timestamps (flushHead cb b)) := by
      refine hrest.perm_of_length_le ?_
      have := hfew.length_le
      rw [← hnew.length_eq, List.length_cons, List.length_cons] at this
      omega
    have hexact : (r.frame.timestamp :: timestamps (flushHead cb b)).Perm (timestamps b) :=
      (hperm.symm.cons _).trans hnew
    obtain ⟨holdest, hrestsorted⟩ := List.pairwise_cons.mp hsorted
    refine ⟨⟨fun g hg hne => holdest _ ?_, fun hcomplete hdrops =>
      dropped_of_exact h hfind hexact hcomplete hdrops⟩, b', rest, hrun, ?_, hperm, hrestsorted,
      hfreed.trans hpackets.symm⟩
    · have hmem : g.timestamp ∈ r.frame.timestamp :: rest.map (·.frame.timestamp) :=
        hnew.mem_iff.mpr (List.mem_map_of_mem hg)
      exact (List.mem_cons.mp hmem).resolve_left hne
    · rw [hreports, htrim.reports, logReport, List.append_assoc, List.singleton_append]
  · rintro ⟨hclean, b', rest, hrun, hreports, hrest, hsorted, hfreed⟩
    have htaken := hclean.takenOut h hfind
    have hexact : (r.frame.timestamp :: timestamps (flushHead cb b)).Perm (timestamps b) := by
      rw [timestamps_eq_spans, timestamps_eq_spans]
      exact htaken.spans.map Prod.fst
    refine ⟨b', r :: rest, hstep.trans hrun, ?_, ?_, ?_, hfreed.trans hpackets⟩
    · rw [hreports, htrim.reports, logReport, List.append_assoc, List.singleton_append]
    · rw [List.map_cons]
      exact (hrest.cons _).trans hexact
    · rw [List.map_cons, List.pairwise_cons]
      refine ⟨fun ts hts => ?_, hsorted⟩
      have hleft := hrest.mem_iff.mp hts
      obtain ⟨g, hg, rfl⟩ := List.mem_map.mp (htrim.timestamps.subset hleft)
      exact hclean.oldest g hg fun heq => hgone (heq ▸ hleft)

/-- **The flush does what it has to exactly when every round is clean and every packet is covered.** -/
theorem flushSound_iff : ∀ (fuel : Nat) (b : RealTimeJitterBuffer), TableOk b →
    b.frames.length ≤ fuel → (FlushSound cb fuel b ↔ FlushClean cb fuel b ∧ Covered b) := by
  have hempty : ∀ (fuel : Nat) (b : RealTimeJitterBuffer), b.frames = [] →
      (FlushSound cb fuel b ↔ Covered b) := by
    intro fuel b hnil
    have hrun : flushFrames cb fuel b = some b := by
      cases fuel <;> exact if_pos hnil
    rw [← freed_perm_iff hnil]
    constructor
    · rintro ⟨b', new, hrun', -, -, -, hfreed⟩
      rw [hrun] at hrun'
      cases hrun'
      exact hfreed
    · intro hfreed
      refine ⟨b, [], hrun, (List.append_nil _).symm, ?_, List.Pairwise.nil, hfreed⟩
      rw [timestamps, hnil, List.map_nil, List.map_nil]
  intro fuel
  induction fuel with
  | zero =>
    intro b _ hlen
    rw [hempty 0 b (List.eq_nil_of_length_eq_zero (Nat.le_zero.mp hlen)), FlushClean]
    simp
  | succ fuel ih =>
    intro b h hlen
    cases hfind : rtFindEarliestFrame b with
    | none =>
      rw [hempty _ b (rtFindEarliestFrame_eq_none.mp hfind), FlushClean, hfind]
      simp
    | some entry =>
      obtain ⟨i, f⟩ := entry
      have hshort := length_flushHead cb h hfind
      rw [flushSound_succ_iff h hlen hfind, ih _ (tableOk_flushHead cb h) (by omega), FlushClean,
        hfind]
      constructor
      · rintro ⟨hclean, hrest, hcov⟩
        exact ⟨⟨hclean, hrest⟩, (hclean.takenOut h hfind).covered_iff.mp hcov⟩
      · rintro ⟨⟨hclean, hrest⟩, hcov⟩
        exact ⟨hclean, hrest, (hclean.takenOut h hfind).covered_iff.mpr hcov⟩

/-- **Closing a reachable buffer reports every frame once and in order and frees every packet exactly
when** every round is clean and every packet lies in the range of a frame, as they are closed. -/
theorem destroy_sound_iff (h : Reachable cb b) :
    DestroySound cb b ↔
      FlushClean cb b.frames.length (closeFrames b) ∧ Covered (closeFrames b) := by
  obtain ⟨frames, hclose, hframes⟩ := closeFrames_eq b
  have hok := tableOk_closeFrames h.tableOk
  have hlen : (closeFrames b).frames.length = b.frames.length := by
    rw [hclose]
    simpa [timestamps] using congrArg List.length hframes
  rw [← flushSound_iff _ _ hok hlen.le]
  have hsound : FlushSound cb b.frames.length (closeFrames b) ↔ ∃ b' new,
      flushFrames cb b.frames.length (closeFrames b) = some b' ∧ b'.reports = b.reports ++ new ∧
      (new.map (·.frame.timestamp)).Perm (timestamps b) ∧
      (new.map (·.frame.timestamp)).Pairwise (fun x y => Serial.gt y x) ∧
      b'.freed.Perm (b.freed ++ ringPackets b.pktRing) := by
    have hreports : (closeFrames b).reports = b.reports := by rw [hclose]
    have hts : timestamps (closeFrames b) = timestamps b := by
      rw [hclose]
      exact hframes
    have hpackets : packets (closeFrames b) = b.freed ++ ringPackets b.pktRing := by
      rw [hclose]
      rfl
    rw [FlushSound, hreports, hts, hpackets]
  rw [hsound, DestroySound, rtDestroy]
  split
  · rfl
  · rename_i hskip
    -- nothing is flushed, because there is no frame
    have hnil : b.frames = [] := by
      rcases h.tableOk.started with hnil | hs
      · exact hnil
      · simpa [hs] using hskip
    have hsame : closeFrames b = b := by rw [closeFrames, hnil]; rfl
    rw [hnil, hsame]
    have hrun : flushFrames cb ([] : List RtFrameEntry).length b = some b := if_pos hnil
    rw [hrun]

/-! ## Sample runs -/

/-- A callback that drops every range it is given. -/
def droppingCallbacks : RtCallbacks where
  depayPayload payload _ := (BitVec.ofNat 32 payload.length, payload == [1])
  onFrameReady _ := ⟨some 0, true⟩

/-- Behind a frame that lacks packet 11 three complete ones wait. -/
def waitingFrames : List InboundRtpPacket :=
  [samplePacket 10 1000 false true, samplePacket 12 2000 true true, samplePacket 13 3000 true true,
    samplePacket 14 4000 true true]

theorem reachable_waiting (cb : RtCallbacks) :
    Reachable cb (waitingFrames.foldl (pushStep cb) plainBuffer) :=
  ⟨0, 90000, false, plainBuffer, waitingFrames, createRealTimeJitterBuffer_plain, rfl⟩

/-- With a callback that drops nothing the four frames are reported and their packets freed. -/
theorem destroy_sound_waiting :
    FlushClean plainCallbacks 4 (closeFrames (waitingFrames.foldl (pushStep plainCallbacks)
        plainBuffer)) ∧
      Covered (closeFrames (waitingFrames.foldl (pushStep plainCallbacks) plainBuffer)) := by
  have hruns : (rtDestroy plainCallbacks (waitingFrames.foldl (pushStep plainCallbacks)
      plainBuffer)).map (fun b => (reportedTimestamps b, b.freed)) =
        some ([1000, 2000, 3000, 4000], waitingFrames) := by decide +kernel
  have hbefore : (waitingFrames.foldl (pushStep plainCallbacks) plainBuffer).reports = [] ∧
      (waitingFrames.foldl (pushStep plainCallbacks) plainBuffer).freed = [] ∧
      timestamps (waitingFrames.foldl (pushStep plainCallbacks) plainBuffer) =
        [1000, 2000, 3000, 4000] := by decide +kernel
  have hring : ringPackets (waitingFrames.foldl (pushStep plainCallbacks) plainBuffer).pktRing =
      waitingFrames := by decide +kernel
  obtain ⟨b', hb', hresult⟩ := Option.map_eq_some_iff.mp hruns
  obtain ⟨hreported, hfreed⟩ := Prod.mk.inj hresult
  refine (destroy_sound_iff (reachable_waiting plainCallbacks)).mp
    ⟨b', b'.reports, hb', ?_, ?_, ?_, ?_⟩
  · rw [hbefore.1, List.nil_append]
  · rw [hbefore.2.2]
    exact List.Perm.of_eq hreported
  · change (reportedTimestamps b').Pairwise _
    rw [hreported]
    decide
  · rw [hbefore.2.1, hring, hfreed, List.nil_append]

/-- The frame that moves into the slot of a dropped one is not reported. -/
theorem moved_frame_not_reported :
    Reachable droppingCallbacks (waitingFrames.foldl (pushStep droppingCallbacks) plainBuffer) ∧
    timestamps (waitingFrames.foldl (pushStep droppingCallbacks) plainBuffer) =
      [1000, 2000, 3000, 4000] ∧
    (rtDestroy droppingCallbacks (waitingFrames.foldl (pushStep droppingCallbacks)
      plainBuffer)).map reportedTimestamps = some [1000, 2000, 4000] ∧
    ¬ DestroySound droppingCallbacks (waitingFrames.foldl (pushStep droppingCallbacks)
      plainBuffer) := by
  have hframes : timestamps (waitingFrames.foldl (pushStep droppingCallbacks) plainBuffer) =
      [1000, 2000, 3000, 4000] := by decide +kernel
  have hdestroyed : (rtDestroy droppingCallbacks (waitingFrames.foldl (pushStep droppingCallbacks)
      plainBuffer)).map reportedTimestamps = some [1000, 2000, 4000] := by decide +kernel
  refine ⟨reachable_waiting _, hframes, hdestroyed, ?_⟩
  rintro ⟨b', new, hrun, hreports, hnew, -⟩
  rw [hrun, Option.map_some, Option.some.injEq, reportedTimestamps, hreports] at hdestroyed
  have hlen := congrArg List.length hdestroyed
  rw [hframes] at hnew
  rw [List.map_append, List.length_append, hnew.length_eq] at hlen
  simp at hlen

theorem freed_once_waiting : ∃ b' new,
    rtDestroy droppingCallbacks (waitingFrames.foldl (pushStep droppingCallbacks) plainBuffer) =
        some b' ∧
      b'.freed.Subperm waitingFrames ∧
      b'.reports =
        (waitingFrames.foldl (pushStep droppingCallbacks) plainBuffer).reports ++ new ∧
      (new.map (·.frame.timestamp)).Subperm
        (timestamps (waitingFrames.foldl (pushStep droppingCallbacks) plainBuffer)) :=
  freed_once createRealTimeJitterBuffer_plain droppingCallbacks waitingFrames

end KvsWebrtc.Jitter
