import KvsWebrtc.Sctp.SackEffect

/-!
# FORWARD-TSNs are repeated

A FORWARD-TSN is sent when T3-rtx expires and the advanced ack point lies beyond the cumulative ack.
It may be lost, so T3 has to run until the peer has acknowledged the abandoned chunks.  But the
timer is stopped by looking at the outstanding table alone, and abandoned chunks are no longer in
it: an expiry that abandons everything stops T3 at once, and so does a SACK for all that is still
outstanding.

Principal results: `forwardTsn_repeated` — T3 runs in every run whose expiries and SACKs leave
something outstanding or nothing to skip — and `forwardTsn_sent_once`, the run in which the first
FORWARD-TSN is the last.
-/

namespace KvsWebrtc.Sctp

/-- The peer has not yet acknowledged what was abandoned. -/
def Behind (h : Host) : Prop := TSN_GT h.assoc.advancedPeerAckPoint h.assoc.cumulativeAckTsn

/-- T3-rtx runs while the peer is behind. -/
structure Repeating (h : Host) : Prop where
  ready : Ready (fun _ => True) h.sendSide
  accounting : Accounting h.sendSide
  rto : 0 < h.assoc.rtoMs.toNat ∧ h.assoc.rtoMs ≤ SCTP_RTO_MAX_MS
  armed : Behind h → h.assoc.t3RtxExpiry ≠ 0

/-! ## What the steps have to leave -/

/-- A SACK that acknowledges all that is outstanding also acknowledges what was abandoned, and no
SACK moves the cumulative ack half the circle past the advanced ack point. -/
structure SackRepeats (h : Host) (pValue : Bytes) : Prop where
  last : Busy h →
    (∀ i, (h.assoc.outstanding.get i).inUse = true →
      (h.assoc.outstanding.get i).Waits ∧ SackCovers pValue (h.assoc.outstanding.get i).tsn) →
    ¬ TSN_GT h.assoc.advancedPeerAckPoint (ackedUpTo h pValue)
  forward : TSN_GT h.assoc.advancedPeerAckPoint (ackedUpTo h pValue) → Behind h

/-- An expiry keeps some chunk, or has nothing to skip. -/
def ExpiryRepeats (h : Host) (nowMs : UINT64) : Prop :=
  (∃ i, Keeps nowMs (h.assoc.outstanding.get i)) ∨
    (¬ Behind h ∧ ∀ i, Abandons nowMs (h.assoc.outstanding.get i) →
      ¬ TSN_GT (h.assoc.outstanding.get i).tsn h.assoc.cumulativeAckTsn)

/-- The condition on a step, read in the state before it. -/
def StepRepeats (h : Host) : Step → Prop
  | .chunk _ c => c.type = SCTP_CHUNK_SACK → 12 ≤ c.value.length → SackRepeats h c.value
  | .checkTimers nowMs => nowMs.toNat < 2 ^ 63 ∧ (T3Expires h nowMs → ExpiryRepeats h nowMs)
  | _ => True

section

variable {h h' : Host}

/-! ## The steps -/

theorem move_acts (hr : Ready (fun _ => True) h.sendSide) (st : Step) :
    SendActs (fun _ => True) (fun _ => True) h.sendSide (h.move st).sendSide := by
  cases st with
  | connect => exact sendChunk_control h _ _ rfl
  | send m => exact sctpAssocSend_acts trivial hr.mtu
  | chunk messageFn c => exact sctpChunkDispatch_acts hr messageFn c
  | checkTimers nowMs => exact sctpAssocCheckTimers_acts h nowMs fun _ => trivial
  | shutdown => exact step_acts .shutdown hr (fun _ heq => nomatch heq) (fun _ heq => nomatch heq)

theorem Repeating.passive (hr : Repeating h) {st : Step} (hp : Passive h (h.move st)) :
    Repeating (h.move st) := by
  have hacts := move_acts hr.ready st
  obtain ⟨-, -, -, hrto, hcum, hadv⟩ := control_eq hp.control
  refine ⟨hacts.ready hr.ready, hacts.accounting hr.accounting, ?_, fun hb => ?_⟩
  · rw [hrto]
    exact hr.rto
  · unfold Behind at hb
    rw [hcum, hadv] at hb
    have hrun := hr.armed hb
    rw [hp.t3 hrun]
    exact hrun

theorem all_covered_of_idle {pValue : Bytes} (hlen : 12 ≤ pValue.length)
    (hidle : ¬ Busy (sackMarked h pValue)) (i : Fin SCTP_MAX_OUTSTANDING)
    (hi : (h.assoc.outstanding.get i).inUse = true) :
    (h.assoc.outstanding.get i).Waits ∧ SackCovers pValue (h.assoc.outstanding.get i).tsn := by
  by_contra hn
  have hkept := get_sackLoops_kept
    (h := { h with assoc.peerArwnd := getUnalignedInt32BigEndian pValue 4 }) hlen (j := i) hn
  refine hidle ⟨i, ?_⟩
  have hmarked : (sackMarked h pValue).assoc.outstanding = (sackLoops
      { h with assoc.peerArwnd := getUnalignedInt32BigEndian pValue 4 }
      pValue).1.assoc.outstanding := by
    unfold sackMarked
    simp only
    split <;> rfl
  rw [hmarked, hkept]
  exact hi

/-- **A SACK.** -/
theorem sack_armed (hr : Repeating h) {pValue : Bytes} (hlen : 12 ≤ pValue.length)
    (hs : SackRepeats h pValue) (hb : Behind (sctpHandleSack h pValue)) :
    (sctpHandleSack h pValue).assoc.t3RtxExpiry ≠ 0 := by
  obtain ⟨-, -, -, -, hcum, hadv⟩ := control_eq (sctpHandleSack_control (h := h) hlen)
  have hb' : TSN_GT h.assoc.advancedPeerAckPoint (ackedUpTo h pValue) := by
    unfold Behind at hb
    rw [hcum, hadv] at hb
    exact hb
  obtain ⟨hmark, ht3⟩ := sackMarked_control h pValue
  rw [sctpHandleSack_eq hlen]
  by_cases hn : bytesNewlyAcked h pValue > 0
  · -- something was acknowledged, so T3 is restarted unless nothing is left
    have hside : (sackMarked h pValue).sendSide = (sackLoops
        { h with assoc.peerArwnd := getUnalignedInt32BigEndian pValue 4 } pValue).1.sendSide := by
      unfold sackMarked
      simp only
      split <;> rfl
    have hacc : Accounting (sackMarked h pValue).sendSide := by
      rw [hside]
      exact (sackLoops_acts (S := fun _ => True) (A := fun _ => True) _ pValue).accounting
        hr.accounting
    have hrto : 0 < (sackMarked h pValue).assoc.rtoMs.toNat := by
      rw [(control_eq hmark).2.2.2.1]
      exact hr.rto.1
    have hbusy : Busy (sackMarked h pValue) := by
      by_contra hidle
      exact hs.last (busy_of_bytesNewlyAcked hn) (all_covered_of_idle hlen hidle) hb'
    have harmed := sackGrow_armed (n := bytesNewlyAcked h pValue) hacc hrto hbusy
    rw [if_pos hn]
    split
    · rw [(Passive.drain _).t3 harmed]
      exact harmed
    · exact harmed
  · rw [if_neg hn, ht3]
    exact hr.armed (hs.forward hb')

theorem control_ackPoint {c : Control} {point : UINT32}
    (hc : h.control = { c with advancedPeerAckPoint := point }) :
    h.assoc.rtoMs = c.rtoMs ∧ h.assoc.cumulativeAckTsn = c.cumulativeAckTsn ∧
      h.assoc.advancedPeerAckPoint = point := by
  obtain ⟨-, -, -, hrto, hcum, hadv⟩ := control_eq hc
  exact ⟨hrto, hcum, hadv⟩

/-- The ack point after an expiry, and what else decides whether the peer is behind. -/
theorem t3Leave_ackPoint (h : Host) (nowMs : UINT64) :
    (t3Leave h nowMs).assoc.cumulativeAckTsn = h.assoc.cumulativeAckTsn ∧
      (t3Leave h nowMs).assoc.rtoMs = (backOff h).assoc.rtoMs ∧
      ((t3Leave h nowMs).assoc.advancedPeerAckPoint = h.assoc.advancedPeerAckPoint ∨
        ∃ j, Abandons nowMs (h.assoc.outstanding.get j) ∧
          (t3Leave h nowMs).assoc.advancedPeerAckPoint = (h.assoc.outstanding.get j).tsn) := by
  obtain ⟨hrto, hcum, hadv⟩ := control_ackPoint (t3Leave_control h nowMs)
  refine ⟨hcum, hrto, ?_⟩
  rw [hadv]
  exact (t3Loop_effect nowMs (t3Enter h)).ackPoint

/-- **An expiry of T3.** -/
theorem t3Leave_armed (hr : Repeating h) {nowMs : UINT64} (hnow : nowMs.toNat < 2 ^ 63)
    (hacc : Accounting (t3Leave h nowMs).sendSide) (he : ExpiryRepeats h nowMs)
    (hb : Behind (t3Leave h nowMs)) : (t3Leave h nowMs).assoc.t3RtxExpiry ≠ 0 := by
  obtain ⟨hcum, hrto, hpoint⟩ := t3Leave_ackPoint h nowMs
  rcases he with ⟨i, hi⟩ | ⟨hno, hnone⟩
  · have hbusy : Busy (t3Leave h nowMs) :=
      (t3Loop_keeps (h := t3Enter h) hi).of_outstanding (t3Leave_frame h nowMs).2.2
    have hrto' : 0 < (t3Leave h nowMs).assoc.rtoMs.toNat := by
      rw [hrto]
      exact (backOff_rto hr.rto).1
    exact restartT3_armed hnow hrto' (hbusy.count hacc)
  · -- the ack point was not beyond, and none of the abandoned chunks is
    exfalso
    unfold Behind at hb
    rw [hcum] at hb
    rcases hpoint with hsame | ⟨j, hj, hsame⟩
    · rw [hsame] at hb
      exact hno hb
    · rw [hsame] at hb
      exact hnone j hj hb

theorem Repeating.checkTimers (hr : Repeating h) {nowMs : UINT64}
    (hs : StepRepeats h (.checkTimers nowMs)) : Repeating (sctpAssocCheckTimers h nowMs) := by
  obtain ⟨hnow, hexpiry⟩ := hs
  have hacts := move_acts hr.ready (.checkTimers nowMs)
  obtain ⟨hcontrol, ht3⟩ := checkT1_control h nowMs
  obtain ⟨-, -, -, -, hcum, hadv⟩ := control_eq hcontrol
  obtain ⟨hout, -⟩ := checkT1_frame h nowMs
  have hrto := (checkT1_windows hr.rto nowMs).2.2.2
  have hacts1 := checkT1_acts (S := fun _ => True) (A := fun _ => True) h nowMs
  have hr1 : Repeating (checkT1 h nowMs).1 := by
    refine ⟨hacts1.ready hr.ready, hacts1.accounting hr.accounting, hrto, fun hb => ?_⟩
    unfold Behind at hb
    rw [hcum, hadv] at hb
    rw [ht3]
    exact hr.armed hb
  have hmove : h.move (.checkTimers nowMs) = sctpAssocCheckTimers h nowMs := rfl
  rw [hmove] at hacts
  have hcases := sctpAssocCheckTimers_cases h nowMs
  by_cases hexp : T3Expires h nowMs
  · rw [if_pos hexp] at hcases
    have hacc := hacts.accounting hr.accounting
    have hready := hacts.ready hr.ready
    rw [hcases] at hacc hready ⊢
    -- T1 leaves the table and the ack points alone, so the condition is about the same chunks
    have hexpiry1 : ExpiryRepeats (checkT1 h nowMs).1 nowMs := by
      unfold ExpiryRepeats Behind
      rw [hout, hcum, hadv]
      exact hexpiry hexp
    refine ⟨hready, hacc, ?_, t3Leave_armed hr1 hnow hacc hexpiry1⟩
    rw [(t3Leave_ackPoint _ nowMs).2.1]
    exact backOff_rto hrto
  · rw [if_neg hexp] at hcases
    rw [hcases]
    exact hr1

/-- **One step.** -/
theorem Repeating.move (hr : Repeating h) {st : Step} (hs : StepRepeats h st) :
    Repeating (h.move st) := by
  cases st with
  | connect => exact hr.passive ⟨rfl, fun _ => rfl⟩
  | send m => exact hr.passive (Passive.send h m)
  | shutdown => exact hr.passive (Passive.shutdown h)
  | checkTimers nowMs => exact hr.checkTimers hs
  | chunk messageFn c =>
    by_cases hc : c.type = SCTP_CHUNK_SACK
    · have hmove : h.move (.chunk messageFn c) = sctpHandleSack h c.value :=
        sctpChunkDispatch_sack hc
      by_cases hlen : 12 ≤ c.value.length
      · have hacts := move_acts hr.ready (.chunk messageFn c)
        have hrto := (control_eq (sctpHandleSack_control (h := h) hlen)).2.2.2.1
        rw [hmove] at hacts ⊢
        refine ⟨hacts.ready hr.ready, hacts.accounting hr.accounting, ?_,
          sack_armed hr hlen (hs hc hlen)⟩
        rw [hrto]
        exact hr.rto
      · rw [hmove, sctpHandleSack_short hlen]
        exact hr
    · exact hr.passive (Passive.chunk h messageFn hc)

/-- Every step of the run meets its condition. -/
def AllRepeat (h : Host) (steps : List Step) : Prop :=
  ∀ pre st post, steps = pre ++ st :: post → StepRepeats (h.moves pre) st

theorem Repeating.moves (hr : Repeating h) {steps : List Step} (hs : AllRepeat h steps) :
    Repeating (h.moves steps) := by
  induction steps generalizing h with
  | nil => exact hr
  | cons st steps ih =>
    rw [Host.moves_cons]
    refine ih (hr.move (hs [] st steps rfl)) fun pre st' post heq => ?_
    exact hs (st :: pre) st' post (by rw [heq]; rfl)

theorem AllRepeat.take {pre post : List Step} (hs : AllRepeat h (pre ++ post)) :
    AllRepeat h pre := by
  intro pre' st post' heq
  exact hs pre' st (post' ++ post) (by rw [heq, List.append_assoc]; rfl)

end

theorem sctpAssocInit_repeating {mtu : UINT16} (hm : 29 ≤ mtu.toNat) (clock : Nat → UINT64)
    (localPort remotePort : UINT16) :
    Repeating (sctpAssocInit clock localPort remotePort mtu) where
  ready := sctpAssocInit_ready hm clock localPort remotePort
  accounting := sctpAssocInit_accounting hm clock localPort remotePort
  rto := by
    show 0 < SCTP_RTO_INITIAL_MS.toNat ∧ SCTP_RTO_INITIAL_MS ≤ SCTP_RTO_MAX_MS
    decide
  armed := fun hb => absurd hb (Serial.not_gt_self _)

/-- **T3-rtx runs in every established state in which the peer has not acknowledged what was
abandoned**, over every run whose expiries and SACKs meet the condition. -/
theorem forwardTsn_repeated (clock : Nat → UINT64) (localPort remotePort mtu : UINT16)
    (hm : 29 ≤ mtu.toNat) (ops : List Op)
    (hs : AllRepeat (sctpAssocInit clock localPort remotePort mtu)
      ((sctpAssocInit clock localPort remotePort mtu).expand ops)) :
    ∀ pre post, (sctpAssocInit clock localPort remotePort mtu).expand ops = pre ++ post →
      ((sctpAssocInit clock localPort remotePort mtu).moves pre).assoc.state = .ESTABLISHED →
      Behind ((sctpAssocInit clock localPort remotePort mtu).moves pre) →
      ((sctpAssocInit clock localPort remotePort mtu).moves pre).assoc.t3RtxExpiry ≠ 0 := by
  intro pre post heq _ hb
  rw [heq] at hs
  exact ((sctpAssocInit_repeating hm clock localPort remotePort).moves hs.take).armed hb

/-! ## One abandoned message, alone and before a reliable one -/

theorem samplePartial_free (i : Fin SCTP_MAX_OUTSTANDING) (hi : 1 ≤ i.val) :
    ((sctpAssocSend sampleHost samplePartial).assoc.outstanding.get i).inUse = false := by
  rw [sctpAssocSend_outstanding (i := 0) (by decide +kernel) (by decide +kernel) (by decide +kernel)
    (by decide +kernel), SlotTable.get_set_ne _ _ (by rintro rfl; exact absurd hi (by decide))]
  rfl

/-- The only outstanding chunk is abandoned: one FORWARD-TSN goes out, and T3 is stopped while the
peer is still behind. -/
theorem forwardTsn_sent_once :
    ((sctpAssocInit (fun _ => 7) 5000 5000 1150).run [.handlePacket true sampleCookieEcho,
        .send samplePartial, .checkTimers 5000]).assoc.state = .ESTABLISHED ∧
      Behind ((sctpAssocInit (fun _ => 7) 5000 5000 1150).run [.handlePacket true sampleCookieEcho,
        .send samplePartial, .checkTimers 5000]) ∧
      ((sctpAssocInit (fun _ => 7) 5000 5000 1150).run [.handlePacket true sampleCookieEcho,
        .send samplePartial, .checkTimers 5000]).assoc.t3RtxExpiry = 0 := by
  have hrun : sctpAssocCheckTimers (sctpAssocSend sampleHost samplePartial) 5000 =
      expireOne (sctpAssocSend sampleHost samplePartial) 5000 :=
    expireOne_eq (by decide +kernel) (by decide +kernel) (by decide +kernel) samplePartial_free
  rw [run_sampleCookieEcho]
  simp only [Host.run_cons, Host.run_nil, Host.step_send, Host.step_checkTimers, hrun]
  unfold Behind
  decide +kernel

theorem carries_sampleCookieEcho :
    Carries sampleCookieEcho 0 ⟨SCTP_CHUNK_COOKIE_ECHO, 0, sampleCookie.toBytes⟩ :=
  carries_onePacket _ _ _ (by
    rw [SctpCookie.length_toBytes]
    decide)

theorem move_sampleCookieEcho : (sctpAssocInit (fun _ => 7) 5000 5000 1150).move
    (.chunk true ⟨SCTP_CHUNK_COOKIE_ECHO, 0, sampleCookie.toBytes⟩) = sampleHost := by
  have hrun := Host.run_eq_moves (sctpAssocInit (fun _ => 7) 5000 5000 1150)
    [.handlePacket true sampleCookieEcho]
  rw [expand_carries carries_sampleCookieEcho, run_sampleCookieEcho] at hrun
  exact hrun.symm

/-- A message that is abandoned, a reliable one, and a tick. -/
def partialFirst : List Op :=
  [.handlePacket true sampleCookieEcho, .send samplePartial, .send sampleReliable,
    .checkTimers 5000]

theorem expand_partialFirst (h : Host) : h.expand partialFirst =
    [.chunk true ⟨SCTP_CHUNK_COOKIE_ECHO, 0, sampleCookie.toBytes⟩, .send samplePartial,
      .send sampleReliable, .checkTimers 5000] :=
  expand_carries carries_sampleCookieEcho _

theorem partialFirst_repeats : AllRepeat (sctpAssocInit (fun _ => 7) 5000 5000 1150)
    ((sctpAssocInit (fun _ => 7) 5000 5000 1150).expand partialFirst) := by
  rw [expand_partialFirst]
  intro pre st post heq
  rcases pre with _ | ⟨a, _ | ⟨b, _ | ⟨c, _ | ⟨d, pre⟩⟩⟩⟩
  · cases heq
    exact fun hc => absurd hc (by decide)
  · cases heq
    exact trivial
  · cases heq
    exact trivial
  · cases heq
    -- the reliable chunk in slot 1 is kept
    rw [Host.moves_cons, move_sampleCookieEcho]
    refine ⟨by decide, fun _ => .inl ⟨1, ?_⟩⟩
    unfold Keeps Live
    decide +kernel
  · exact absurd (congrArg List.length heq) (by simp)

theorem moves_partialFirst : (sctpAssocInit (fun _ => 7) 5000 5000 1150).moves
    ((sctpAssocInit (fun _ => 7) 5000 5000 1150).expand partialFirst) =
      expireTwo (sampleTwo samplePartial sampleReliable) 5000 := by
  have hexpire : sctpAssocCheckTimers (sctpAssocSend (sctpAssocSend sampleHost samplePartial)
      sampleReliable) 5000 = expireTwo (sampleTwo samplePartial sampleReliable) 5000 :=
    expireTwo_eq (by decide +kernel) (by decide +kernel) (by decide +kernel)
      (sampleTwo_free (Or.inr rfl))
  rw [← Host.run_eq_moves]
  unfold partialFirst
  rw [run_sampleCookieEcho]
  simp only [Host.run_cons, Host.run_nil, Host.step_send, Host.step_checkTimers, hexpire]

theorem partialFirst_established : ((sctpAssocInit (fun _ => 7) 5000 5000 1150).moves
    ((sctpAssocInit (fun _ => 7) 5000 5000 1150).expand partialFirst)).assoc.state =
      .ESTABLISHED := by
  rw [moves_partialFirst]
  decide +kernel

theorem partialFirst_behind : Behind ((sctpAssocInit (fun _ => 7) 5000 5000 1150).moves
    ((sctpAssocInit (fun _ => 7) 5000 5000 1150).expand partialFirst)) := by
  rw [moves_partialFirst]
  unfold Behind
  decide +kernel

/-- With a reliable message in flight, T3 still runs after the FORWARD-TSN. -/
theorem forwardTsn_repeated_partialFirst :
    ((sctpAssocInit (fun _ => 7) 5000 5000 1150).moves
      ((sctpAssocInit (fun _ => 7) 5000 5000 1150).expand partialFirst)).assoc.t3RtxExpiry ≠ 0 :=
  forwardTsn_repeated (fun _ => 7) 5000 5000 1150 (by decide) partialFirst partialFirst_repeats
    _ [] (List.append_nil _).symm partialFirst_established partialFirst_behind

end KvsWebrtc.Sctp
