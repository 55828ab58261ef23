import KvsWebrtc.Lib.Steps
import KvsWebrtc.Rtcp.Twcc

/-!
# What the receiver remembers between two feedbacks (`Rtcp.c`)

The table of received packets, the first and the last number and the flag are kept by two
operations.  A feedback reports a window of at most `TWCC_MAX_PACKET_STATUS_COUNT` numbers but
resets the window as a whole, so what lies behind the truncation stays in the table.

Principal results:

* `arrival_tracks` — an arrival keeps the window around the numbers of the burst;
* `feedback_covers_iff` — a feedback covers every recorded packet, and empties the table, exactly
  when the window is not truncated;
* `twcc_receiver_sound_iff` — so it is in whole runs.
-/

namespace KvsWebrtc.Rtcp

inductive TwccReceiverEvent where
  | arrival (p : TwccArrival)
  | feedback (trailer : Nat) (senderSsrc : UINT32) (hasSrtpSession : Bool)

/-- The manager and the numbers that have arrived since the last feedback was sent. -/
structure TwccReceiverRun where
  manager : TwccReceiverManager
  burst : List UINT16

def TwccReceiverRun.step (r : TwccReceiverRun) : TwccReceiverEvent → TwccReceiverRun
  | .arrival p => ⟨twccReceiverOnPacketReceived r.manager p, r.burst ++ [p.twccSeqNum]⟩
  | .feedback trailer senderSsrc hasSrtpSession =>
    let out := sendRtcpTwccFeedback trailer senderSsrc hasSrtpSession r.manager
    ⟨out.1, if out.2.isSome then [] else r.burst⟩

/-- A manager that was just created. -/
def startedTwccReceiver : TwccReceiverRun where
  manager := ⟨fun _ => none, 0, 0, false, 0, 0, 0⟩
  burst := []

/-- Numbers that span less than half of the circle. -/
def Bounded (burst : List UINT16) : Prop := ∃ b : UINT16, ∀ x ∈ burst, Serial.ahead b x < 2 ^ 15

/-! ## Properties -/

/-- What is to hold of the table at any time.  A number that has not arrived since the last feedback
is not in it, so it does not look like a duplicate. -/
structure ReceiverSound (r : TwccReceiverRun) : Prop where
  flag : (∃ s, (r.manager.pReceivedPktsHashTable s).isSome) → r.manager.firstPacketReceived = true
  inWindow : ∀ s, (r.manager.pReceivedPktsHashTable s).isSome →
    Serial.ahead r.manager.firstSeqNum s ≤ Serial.ahead r.manager.firstSeqNum r.manager.lastSeqNum
  fresh : ∀ s, (r.manager.pReceivedPktsHashTable s).isSome ↔ s ∈ r.burst

/-- What is to hold of a feedback: it covers every recorded packet, and leaves none behind. -/
def CoversAll (m : TwccReceiverManager) (out : TwccReceiverManager × Option TwccFeedback) : Prop :=
  out.2.isSome →
    (∀ s, (m.pReceivedPktsHashTable s).isSome →
      Serial.ahead m.firstSeqNum s < packetStatusCount m) ∧
    ∀ s, out.1.pReceivedPktsHashTable s = none

def FeedbackSound (r : TwccReceiverRun) : TwccReceiverEvent → Prop
  | .arrival _ => True
  | .feedback trailer senderSsrc hasSrtpSession =>
    CoversAll r.manager (sendRtcpTwccFeedback trailer senderSsrc hasSrtpSession r.manager)

/-- A feedback that is sent has a window of at most `TWCC_MAX_PACKET_STATUS_COUNT` numbers. -/
def WindowFits (r : TwccReceiverRun) : TwccReceiverEvent → Prop
  | .arrival _ => True
  | .feedback _ _ hasSrtpSession =>
    hasSrtpSession = true → r.manager.firstPacketReceived = true →
      Serial.ahead r.manager.firstSeqNum r.manager.lastSeqNum < TWCC_MAX_PACKET_STATUS_COUNT

/-- The numbers of the burst span less than half of the circle after the event. -/
def BurstBounded (r : TwccReceiverRun) (e : TwccReceiverEvent) : Prop := Bounded (r.step e).burst

/-! ## The window of a burst -/

/-- The invariant: the table holds the numbers of the burst, and the window runs from the first of
them to the last. -/
structure Tracks (r : TwccReceiverRun) : Prop where
  bounded : Bounded r.burst
  fresh : ∀ s, (r.manager.pReceivedPktsHashTable s).isSome ↔ s ∈ r.burst
  flag : r.manager.firstPacketReceived = true ↔ r.burst ≠ []
  first : r.burst ≠ [] → r.manager.firstSeqNum ∈ r.burst
  last : r.burst ≠ [] → r.manager.lastSeqNum ∈ r.burst
  least : ∀ x ∈ r.burst, ¬ Serial.lt x r.manager.firstSeqNum
  greatest : ∀ x ∈ r.burst, ¬ Serial.gt x r.manager.lastSeqNum

variable {r : TwccReceiverRun} {burst : List UINT16} {b s t u : UINT16}

theorem tracks_start : Tracks startedTwccReceiver := by
  constructor <;> simp [startedTwccReceiver, Bounded]

theorem lt_iff_of_bounded (hb : ∀ x ∈ burst, Serial.ahead b x < 2 ^ 15) (hs : s ∈ burst)
    (ht : t ∈ burst) : Serial.lt s t ↔ Serial.ahead b s < Serial.ahead b t := by
  have hs' := hb s hs
  have ht' := hb t ht
  exact Serial.lt_iff_of_window (by omega) (by omega)

theorem gt_iff_of_bounded (hb : ∀ x ∈ burst, Serial.ahead b x < 2 ^ 15) (hs : s ∈ burst)
    (ht : t ∈ burst) : Serial.gt s t ↔ Serial.ahead b t < Serial.ahead b s := by
  have hs' := hb s hs
  have ht' := hb t ht
  exact Serial.gt_iff_of_window (by omega) (by omega)

theorem Tracks.inWindow (hr : Tracks r) (hs : s ∈ r.burst) :
    Serial.ahead r.manager.firstSeqNum s ≤
      Serial.ahead r.manager.firstSeqNum r.manager.lastSeqNum := by
  obtain ⟨b, hb⟩ := hr.bounded
  have hne : r.burst ≠ [] := List.ne_nil_of_mem hs
  have hfirst := hr.first hne
  have hlast := hr.last hne
  have hleast := hr.least s hs
  have hgreatest := hr.greatest s hs
  rw [lt_iff_of_bounded hb hs hfirst] at hleast
  rw [gt_iff_of_bounded hb hs hlast] at hgreatest
  rw [Serial.ahead_of_le (show Serial.ahead b r.manager.firstSeqNum ≤ Serial.ahead b s by omega),
    Serial.ahead_of_le (show Serial.ahead b r.manager.firstSeqNum ≤
      Serial.ahead b r.manager.lastSeqNum by omega)]
  omega

theorem Tracks.sound (hr : Tracks r) : ReceiverSound r where
  flag := fun ⟨s, hs⟩ => hr.flag.mpr (List.ne_nil_of_mem ((hr.fresh s).mp hs))
  inWindow := fun s hs => hr.inWindow ((hr.fresh s).mp hs)
  fresh := hr.fresh

theorem Bounded.of_append {xs ys : List UINT16} (h : Bounded (xs ++ ys)) : Bounded xs := by
  obtain ⟨b, hb⟩ := h
  exact ⟨b, fun x hx => hb x (List.mem_append_left _ hx)⟩

/-! ## An arrival -/

theorem arrival_duplicate (hr : Tracks r) {p : TwccArrival} (hp : p.twccSeqNum ∈ r.burst)
    (hbounded : Bounded (r.burst ++ [p.twccSeqNum])) : Tracks (r.step (.arrival p)) := by
  have hsame : twccReceiverOnPacketReceived r.manager p = r.manager := by
    unfold twccReceiverOnPacketReceived
    obtain ⟨v, hv⟩ := Option.isSome_iff_exists.mp ((hr.fresh p.twccSeqNum).mpr hp)
    rw [hv]
  have hmem : ∀ x, x ∈ r.burst ++ [p.twccSeqNum] ↔ x ∈ r.burst := by
    intro x
    rw [List.mem_append, List.mem_singleton]
    exact ⟨fun h => h.elim id fun h => h ▸ hp, Or.inl⟩
  have hne : r.burst ≠ [] := List.ne_nil_of_mem hp
  unfold TwccReceiverRun.step
  dsimp only
  rw [hsame]
  refine ⟨hbounded, fun s => ?_, ?_, fun _ => ?_, fun _ => ?_, fun x hx => ?_, fun x hx => ?_⟩
  · rw [hmem]
    exact hr.fresh s
  · rw [hr.flag]
    simp [hne]
  · exact (hmem _).mpr (hr.first hne)
  · exact (hmem _).mpr (hr.last hne)
  · exact hr.least x ((hmem x).mp hx)
  · exact hr.greatest x ((hmem x).mp hx)

theorem arrival_new {m : TwccReceiverManager} {p : TwccArrival}
    (hp : m.pReceivedPktsHashTable p.twccSeqNum = none) :
    (∀ s, ((twccReceiverOnPacketReceived m p).pReceivedPktsHashTable s).isSome ↔
        s = p.twccSeqNum ∨ (m.pReceivedPktsHashTable s).isSome) ∧
      (twccReceiverOnPacketReceived m p).firstPacketReceived = true ∧
      (twccReceiverOnPacketReceived m p).firstSeqNum = (trackWindow m p.twccSeqNum).1 ∧
      (twccReceiverOnPacketReceived m p).lastSeqNum = (trackWindow m p.twccSeqNum).2 := by
  unfold twccReceiverOnPacketReceived
  rw [hp]
  refine ⟨fun s => ?_, rfl, rfl, rfl⟩
  dsimp only
  split
  · rename_i h
    simp [h]
  · rename_i h
    simp [h]

theorem least_append (hb : ∀ x ∈ burst ++ [s], Serial.ahead b x < 2 ^ 15) (ht : t ∈ burst)
    (hleast : ∀ x ∈ burst, ¬ Serial.lt x t) :
    (if Serial.lt s t then s else t) ∈ burst ++ [s] ∧
      ∀ x ∈ burst ++ [s], ¬ Serial.lt x (if Serial.lt s t then s else t) := by
  have hs : s ∈ burst ++ [s] := by simp
  have ht' : t ∈ burst ++ [s] := List.mem_append_left _ ht
  split
  · rename_i hlt
    refine ⟨hs, fun x hx hxs => ?_⟩
    rw [lt_iff_of_bounded hb hs ht'] at hlt
    rw [lt_iff_of_bounded hb hx hs] at hxs
    rcases List.mem_append.mp hx with hx' | hx'
    · have := hleast x hx'
      rw [lt_iff_of_bounded hb hx ht'] at this
      omega
    · rw [List.mem_singleton.mp hx'] at hxs
      omega
  · rename_i hlt
    refine ⟨ht', fun x hx => ?_⟩
    rcases List.mem_append.mp hx with hx' | hx'
    · exact hleast x hx'
    · rw [List.mem_singleton.mp hx']
      exact hlt

theorem greatest_append (hb : ∀ x ∈ burst ++ [s], Serial.ahead b x < 2 ^ 15) (ht : t ∈ burst)
    (hgreatest : ∀ x ∈ burst, ¬ Serial.gt x t) :
    (if Serial.gt s t then s else t) ∈ burst ++ [s] ∧
      ∀ x ∈ burst ++ [s], ¬ Serial.gt x (if Serial.gt s t then s else t) := by
  have hs : s ∈ burst ++ [s] := by simp
  have ht' : t ∈ burst ++ [s] := List.mem_append_left _ ht
  split
  · rename_i hgt
    refine ⟨hs, fun x hx hxs => ?_⟩
    rw [gt_iff_of_bounded hb hs ht'] at hgt
    rw [gt_iff_of_bounded hb hx hs] at hxs
    rcases List.mem_append.mp hx with hx' | hx'
    · have := hgreatest x hx'
      rw [gt_iff_of_bounded hb hx ht'] at this
      omega
    · rw [List.mem_singleton.mp hx'] at hxs
      omega
  · rename_i hgt
    refine ⟨ht', fun x hx => ?_⟩
    rcases List.mem_append.mp hx with hx' | hx'
    · exact hgreatest x hx'
    · rw [List.mem_singleton.mp hx']
      exact hgt

/-- **An arrival keeps the window around the numbers of the burst.** -/
theorem arrival_tracks (hr : Tracks r) {p : TwccArrival}
    (hbounded : Bounded (r.burst ++ [p.twccSeqNum])) : Tracks (r.step (.arrival p)) := by
  by_cases hp : p.twccSeqNum ∈ r.burst
  · exact arrival_duplicate hr hp hbounded
  have hnone : r.manager.pReceivedPktsHashTable p.twccSeqNum = none := by
    rw [← Option.not_isSome_iff_eq_none, hr.fresh]
    exact hp
  obtain ⟨htable, hflag, hfirst, hlast⟩ := arrival_new hnone
  have hb := hbounded
  obtain ⟨b, hb⟩ := hb
  have hnew : p.twccSeqNum ∈ r.burst ++ [p.twccSeqNum] := by simp
  by_cases hempty : r.burst = []
  · -- the first number of a burst is its whole window
    have hreceived : r.manager.firstPacketReceived = false := by
      rw [← Bool.not_eq_true, hr.flag, not_not]
      exact hempty
    have hwindow : trackWindow r.manager p.twccSeqNum = (p.twccSeqNum, p.twccSeqNum) := by
      rw [trackWindow, hreceived]
      rfl
    rw [hwindow] at hfirst hlast
    have hone : ∀ x, x ∈ r.burst ++ [p.twccSeqNum] ↔ x = p.twccSeqNum := by simp [hempty]
    refine ⟨hbounded, fun s => ?_, ?_, fun _ => ?_, fun _ => ?_, fun x hx => ?_, fun x hx => ?_⟩
    · show _ ↔ s ∈ r.burst ++ [p.twccSeqNum]
      rw [hone]
      refine (htable s).trans ⟨fun h => h.elim id fun h => ?_, Or.inl⟩
      rw [hr.fresh, hempty] at h
      cases h
    · exact ⟨fun _ => List.ne_nil_of_mem hnew, fun _ => hflag⟩
    · exact (hone _).mpr hfirst
    · exact (hone _).mpr hlast
    · rw [(hone x).mp hx]
      show ¬ Serial.lt p.twccSeqNum (twccReceiverOnPacketReceived r.manager p).firstSeqNum
      rw [hfirst, ← Serial.ge_iff_not_lt, Serial.ge, BitVec.sub_self]
      decide
    · rw [(hone x).mp hx]
      show ¬ Serial.gt p.twccSeqNum (twccReceiverOnPacketReceived r.manager p).lastSeqNum
      rw [hlast]
      exact Serial.not_gt_self _
  · have hwindow : trackWindow r.manager p.twccSeqNum =
        (if Serial.lt p.twccSeqNum r.manager.firstSeqNum then p.twccSeqNum
          else r.manager.firstSeqNum,
        if Serial.gt p.twccSeqNum r.manager.lastSeqNum then p.twccSeqNum
          else r.manager.lastSeqNum) := by
      rw [trackWindow, hr.flag.mpr hempty]
      rfl
    rw [hwindow] at hfirst hlast
    dsimp only at hfirst hlast
    obtain ⟨hfirst', hleast⟩ := least_append hb (hr.first hempty) hr.least
    obtain ⟨hlast', hgreatest⟩ := greatest_append hb (hr.last hempty) hr.greatest
    rw [← hfirst] at hfirst' hleast
    rw [← hlast] at hlast' hgreatest
    refine ⟨hbounded, fun s => ?_, ?_, fun _ => hfirst', fun _ => hlast', hleast, hgreatest⟩
    · refine (htable s).trans ?_
      rw [hr.fresh, or_comm]
      exact List.mem_append.trans (or_congr_right List.mem_singleton) |>.symm
    · exact ⟨fun _ => List.ne_nil_of_mem hnew, fun _ => hflag⟩

/-! ## A feedback -/

theorem firstArrival_isSome {table : UINT16 → Option UINT64} : ∀ {n : Nat} {seqNum : UINT16},
    0 < n → (table seqNum).isSome → (firstArrival table n seqNum).isSome
  | n + 1, seqNum, _, h => by
    obtain ⟨v, hv⟩ := Option.isSome_iff_exists.mp h
    rw [firstArrival, hv]
    rfl

theorem packetStatusCount_eq {m : TwccReceiverManager}
    (h : Serial.ahead m.firstSeqNum m.lastSeqNum < 2 ^ 15) : packetStatusCount m =
      min (Serial.ahead m.firstSeqNum m.lastSeqNum + 1) TWCC_MAX_PACKET_STATUS_COUNT := by
  unfold packetStatusCount
  rw [BitVec.toNat_add]
  unfold Serial.ahead at h ⊢
  congr 1
  exact Nat.mod_eq_of_lt (show (m.lastSeqNum - m.firstSeqNum).toNat + 1 < 2 ^ 16 by omega)

theorem Tracks.span (hr : Tracks r) (hne : r.burst ≠ []) :
    Serial.ahead r.manager.firstSeqNum r.manager.lastSeqNum < 2 ^ 15 := by
  obtain ⟨b, hb⟩ := hr.bounded
  have hlast := hb _ (hr.last hne)
  have hleast := hr.least _ (hr.last hne)
  rw [lt_iff_of_bounded hb (hr.last hne) (hr.first hne)] at hleast
  rw [Serial.ahead_of_le (Nat.not_lt.mp hleast)]
  omega

/-- A feedback is sent when there is a session and a packet has arrived. -/
theorem feedback_sent_iff (hr : Tracks r) (trailer : Nat) (senderSsrc : UINT32) (srtp : Bool) :
    (sendRtcpTwccFeedback trailer senderSsrc srtp r.manager).2.isSome ↔
      srtp = true ∧ r.manager.firstPacketReceived = true := by
  unfold sendRtcpTwccFeedback twccReport
  cases srtp with
  | false => simp
  | true =>
    by_cases hreceived : r.manager.firstPacketReceived = true
    · have hne := hr.flag.mp hreceived
      have hcount := packetStatusCount_eq (hr.span hne)
      have hfirst : (firstArrival r.manager.pReceivedPktsHashTable (packetStatusCount r.manager)
          r.manager.firstSeqNum).isSome := by
        refine firstArrival_isSome ?_ ((hr.fresh _).mpr (hr.first hne))
        unfold TWCC_MAX_PACKET_STATUS_COUNT at hcount
        omega
      obtain ⟨v, hv⟩ := Option.isSome_iff_exists.mp hfirst
      rw [if_pos hreceived, hv]
      simp [hreceived]
    · rw [if_neg hreceived]
      simp [hreceived]

theorem feedback_manager {trailer : Nat} {senderSsrc : UINT32} {srtp : Bool}
    {m : TwccReceiverManager}
    (h : (sendRtcpTwccFeedback trailer senderSsrc srtp m).2.isSome) :
    (sendRtcpTwccFeedback trailer senderSsrc srtp m).1.pReceivedPktsHashTable =
        clearReported m.pReceivedPktsHashTable (packetStatusCount m) m.firstSeqNum ∧
      (sendRtcpTwccFeedback trailer senderSsrc srtp m).1.firstPacketReceived = false := by
  unfold sendRtcpTwccFeedback at h ⊢
  split at h
  · exact ⟨rfl, rfl⟩
  · cases h

theorem feedback_not_sent {trailer : Nat} {senderSsrc : UINT32} {srtp : Bool}
    {m : TwccReceiverManager}
    (h : ¬ (sendRtcpTwccFeedback trailer senderSsrc srtp m).2.isSome) :
    (sendRtcpTwccFeedback trailer senderSsrc srtp m).1 = m := by
  unfold sendRtcpTwccFeedback at h ⊢
  split at h
  · exact absurd rfl h
  · rfl

/-- **A feedback covers every recorded packet exactly when its window is not truncated.** -/
theorem feedback_covers_iff (hr : Tracks r) (trailer : Nat) (senderSsrc : UINT32) (srtp : Bool) :
    CoversAll r.manager (sendRtcpTwccFeedback trailer senderSsrc srtp r.manager) ↔
      (srtp = true → r.manager.firstPacketReceived = true →
        Serial.ahead r.manager.firstSeqNum r.manager.lastSeqNum <
          TWCC_MAX_PACKET_STATUS_COUNT) := by
  constructor
  · intro h hsrtp hreceived
    have hne := hr.flag.mp hreceived
    have hlast := (h ((feedback_sent_iff hr _ _ _).mpr ⟨hsrtp, hreceived⟩)).1
      r.manager.lastSeqNum ((hr.fresh _).mpr (hr.last hne))
    exact Nat.lt_of_lt_of_le hlast (packetStatusCount_le _)
  · intro h hsent
    obtain ⟨hsrtp, hreceived⟩ := (feedback_sent_iff hr _ _ _).mp hsent
    have hne := hr.flag.mp hreceived
    have hfits := h hsrtp hreceived
    have hcount := packetStatusCount_eq (hr.span hne)
    have hcovers : ∀ s, (r.manager.pReceivedPktsHashTable s).isSome →
        Serial.ahead r.manager.firstSeqNum s < packetStatusCount r.manager := by
      intro s hs
      have := hr.inWindow ((hr.fresh s).mp hs)
      omega
    refine ⟨hcovers, fun s => ?_⟩
    rw [(feedback_manager hsent).1, clearReported]
    split
    · rfl
    · rename_i hs
      rw [← Option.not_isSome_iff_eq_none]
      exact fun h => hs (hcovers s h)

theorem feedback_tracks (hr : Tracks r) {trailer : Nat} {senderSsrc : UINT32} {srtp : Bool}
    (hfits : WindowFits r (.feedback trailer senderSsrc srtp)) :
    Tracks (r.step (.feedback trailer senderSsrc srtp)) := by
  unfold TwccReceiverRun.step
  dsimp only
  by_cases hsent : (sendRtcpTwccFeedback trailer senderSsrc srtp r.manager).2.isSome = true
  · have hempty := ((feedback_covers_iff hr trailer senderSsrc srtp).mpr hfits hsent).2
    rw [if_pos hsent]
    constructor
    · exact ⟨0, fun x hx => by cases hx⟩
    · simp [hempty]
    · simp [(feedback_manager hsent).2]
    all_goals simp
  · rw [if_neg hsent, feedback_not_sent hsent]
    exact hr

/-! ## Runs -/

/-- **In every run whose bursts span less than half of the circle, each packet is covered by one
feedback and nothing stays behind exactly when no feedback has its window truncated.** -/
theorem twcc_receiver_sound_iff (events : List TwccReceiverEvent)
    (hbounded : Steps.Each TwccReceiverRun.step BurstBounded startedTwccReceiver events) :
    (Steps.Always TwccReceiverRun.step ReceiverSound startedTwccReceiver events ∧
        Steps.Each TwccReceiverRun.step FeedbackSound startedTwccReceiver events) ↔
      Steps.Each TwccReceiverRun.step WindowFits startedTwccReceiver events := by
  have hstep : ∀ r e, Tracks r → BurstBounded r e → WindowFits r e → Tracks (r.step e) := by
    intro r e hr hdom hfits
    cases e with
    | arrival p => exact arrival_tracks hr hdom
    | feedback trailer senderSsrc srtp => exact feedback_tracks hr hfits
  have hexact : ∀ r e, Tracks r → BurstBounded r e → (FeedbackSound r e ↔ WindowFits r e) := by
    intro r e hr _
    cases e with
    | arrival p => exact Iff.rfl
    | feedback trailer senderSsrc srtp => exact feedback_covers_iff hr trailer senderSsrc srtp
  have hiff := Steps.Each.iff_of_inv tracks_start hstep hexact hbounded
  rw [← hiff]
  refine ⟨fun h => h.2, fun h => ⟨?_, h⟩⟩
  refine Steps.Always.mono (fun r hr => Tracks.sound hr) (Steps.Each.inv tracks_start ?_
    (Steps.Each.and hbounded (hiff.mp h)))
  exact fun r e hr h => hstep r e hr h.1 h.2

/-- Two packets with numbers some way apart, and a feedback. -/
def sampleBurst (distance : UINT16) : List TwccReceiverEvent :=
  [.arrival ⟨0, 1, 7⟩, .arrival ⟨distance, 2, 7⟩, .feedback 0 1 true]

theorem bounded_feedback {trailer : Nat} {senderSsrc : UINT32} {srtp : Bool}
    (h : Bounded r.burst) : BurstBounded r (.feedback trailer senderSsrc srtp) := by
  unfold BurstBounded TwccReceiverRun.step
  dsimp only
  split
  · exact ⟨0, fun x hx => by cases hx⟩
  · exact h

theorem bounded_sampleBurst {distance : UINT16} (h : distance.toNat < 2 ^ 15) :
    Steps.Each TwccReceiverRun.step BurstBounded startedTwccReceiver (sampleBurst distance) := by
  have hzero : ∀ x : UINT16, Serial.ahead 0 x = x.toNat := fun x => by simp [Serial.ahead]
  have htwo : Bounded [0, distance] := by
    refine ⟨0, fun x hx => ?_⟩
    rw [hzero]
    simp only [List.mem_cons, List.not_mem_nil, or_false] at hx
    rcases hx with rfl | rfl
    · decide
    · exact h
  have hone : Bounded [0] := Bounded.of_append (show Bounded ([0] ++ [distance]) from htwo)
  exact ⟨hone, htwo, bounded_feedback htwo, trivial⟩

theorem twcc_receiver_sound_six :
    Steps.Always TwccReceiverRun.step ReceiverSound startedTwccReceiver (sampleBurst 5) ∧
      Steps.Each TwccReceiverRun.step FeedbackSound startedTwccReceiver (sampleBurst 5) :=
  (twcc_receiver_sound_iff (sampleBurst 5) (bounded_sampleBurst (by decide))).mpr
    ⟨trivial, trivial, fun _ _ => by decide, trivial⟩

/-- The last of `8192` numbers stays in the table, with the flag reset. -/
theorem truncated_feedback_leaves_packet :
    Steps.Each TwccReceiverRun.step BurstBounded startedTwccReceiver (sampleBurst 8191) ∧
      ¬ (Steps.Always TwccReceiverRun.step ReceiverSound startedTwccReceiver (sampleBurst 8191) ∧
        Steps.Each TwccReceiverRun.step FeedbackSound startedTwccReceiver (sampleBurst 8191)) := by
  have hbounded := bounded_sampleBurst (show (8191 : UINT16).toNat < 2 ^ 15 by decide)
  refine ⟨hbounded, ?_⟩
  rintro ⟨⟨-, -, -, hsound⟩, -⟩
  have hr := arrival_tracks (arrival_tracks tracks_start (p := ⟨0, 1, 7⟩) hbounded.1)
    (p := ⟨8191, 2, 7⟩) hbounded.2.1
  have hsent := (feedback_sent_iff hr 0 1 true).mpr ⟨rfl, rfl⟩
  obtain ⟨htable, hflag⟩ := feedback_manager hsent
  have hleft := hsound.flag ⟨8191, by
    refine (congrArg (fun t => (t 8191).isSome) htable).trans ?_
    decide⟩
  exact Bool.false_ne_true (hflag.symm.trans hleft)

end KvsWebrtc.Rtcp
