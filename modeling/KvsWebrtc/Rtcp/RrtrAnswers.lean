import KvsWebrtc.Lib.Steps
import KvsWebrtc.Rtcp.ExtendedReport

/-!
# Reference times are answered once

Next to the table of received RRTRs a run keeps a record of every reporter: its most recent RRTR,
whether a packet has answered it, and the timestamp answered last.  The slots of the table are the
reporters with an SSRC, in the order of their first RRTR, followed by free slots.

Principal results:

* `tracks_receive`, `tracks_build` — the table agrees with the records after every step;
* `rrtrs_answered` — every packet answers the reporters that wait for an answer, and no others.
-/

namespace KvsWebrtc.Rtcp.Compound

open ByteOrder Rtp

/-! ## The records -/

/-- A reporter; `answeredMid` is 0 before the first answer. -/
structure RrtrReporter where
  ssrc : UINT32
  ntpMid : UINT32
  arrivalTimeHns : UINT64
  answered : Bool
  answeredMid : UINT32

def RrtrReporter.entry (r : RrtrReporter) : ReceivedRrtrEntry :=
  ⟨r.ssrc, r.ntpMid, r.arrivalTimeHns, r.answeredMid⟩

/-- An RRTR of a reporter takes the place of the one before. -/
def noteRrtr (ssrc : UINT32) (now : UINT64) (ntpMid : UINT32) :
    List RrtrReporter → List RrtrReporter
  | [] => [⟨ssrc, ntpMid, now, false, 0⟩]
  | r :: rs =>
    if r.ssrc = ssrc then
      { r with ntpMid := ntpMid, arrivalTimeHns := now, answered := false } :: rs
    else r :: noteRrtr ssrc now ntpMid rs

/-- The reporters an answer with their timestamp was sent to. -/
def noteAnswers (subs : List DlrrSubBlock) (rs : List RrtrReporter) : List RrtrReporter :=
  rs.map fun r =>
    if (r.ssrc, r.ntpMid) ∈ subs.map fun sub => (sub.ssrc, sub.lrr) then
      { r with answered := true, answeredMid := r.ntpMid }
    else r

def unanswered (rs : List RrtrReporter) : List RrtrReporter := rs.filter fun r => !r.answered

/-! ## Runs -/

inductive XrEvent where
  | receive (env : RtcpEnv) (payload : Bytes) (payloadLength : Nat)
  | build (t : XrSender) (currentTime : UINT64) (packetLen : Nat)

structure XrRun where
  conn : KvsPeerConnection
  reporters : List RrtrReporter

def XrBlock.ntpMid? : XrBlock → Option UINT32
  | .rrtr ntp => some (MID_NTP ntp)
  | _ => none

def XrBlock.subBlocks : XrBlock → List DlrrSubBlock
  | .dlrr subs => subs
  | _ => []

/-- The timestamps of the RRTR blocks of a payload. -/
def receivedMids (payload : Bytes) (payloadLength : Nat) : List UINT32 :=
  if payloadLength < 4 then [] else (visitedBlocks payload payloadLength).filterMap XrBlock.ntpMid?

/-- The answers in a packet, as its receiver finds them. -/
def sentAnswers : BuildResult → List DlrrSubBlock
  | .packet bytes => (visitedBlocks (bytes.drop 4) (bytes.length - 4)).flatMap XrBlock.subBlocks
  | _ => []

def xrStep (s : XrRun) : XrEvent → XrRun
  | .receive env payload payloadLength =>
    { conn := ((onRtcpExtendedReport env payloadLength s.conn).run payload).1.1
      reporters := (receivedMids payload payloadLength).foldl (fun rs ntpMid =>
        noteRrtr (getUnalignedInt32BigEndian payload 0) env.now ntpMid rs) s.reporters }
  | .build t currentTime packetLen =>
    let built := rtcpBuildExtendedReport s.conn.receivedRrtrs t currentTime packetLen
    { conn := { s.conn with receivedRrtrs := built.receivedRrtrs }
      reporters := noteAnswers (sentAnswers built.result) s.reporters }

def xrStart (conn : KvsPeerConnection) : XrRun := ⟨conn, []⟩

/-- An answer to a reporter at that time. -/
structure Answers (currentTime : UINT64) (r : RrtrReporter) (sub : DlrrSubBlock) : Prop where
  ssrc : sub.ssrc = r.ssrc
  lrr : sub.lrr = r.ntpMid
  elapsed : r.arrivalTimeHns.toNat ≤ currentTime.toNat
  dlrr : sub.dlrr.toNat =
    (currentTime.toNat - r.arrivalTimeHns.toNat) * DLSR_TIMESCALE / 10000000

/-- The blocks of a packet with those answers. -/
def answerBlocks (t : XrSender) (currentTime : UINT64) (subs : List DlrrSubBlock) : List XrBlock :=
  (if sendsRrtr t currentTime then [.rrtr (convertTimestampToNTP currentTime)] else []) ++
    if subs = [] then [] else [.dlrr subs]

/-- The packet has one answer for each reporter that waits for one, and is read back as written. -/
structure AnsweredBy (rs : List RrtrReporter) (t : XrSender) (currentTime : UINT64)
    (bytes : Bytes) : Prop where
  distinct : ((unanswered rs).map RrtrReporter.ssrc).Nodup
  answers : ∃ subs p, List.Forall₂ (Answers currentTime) (unanswered rs) subs ∧
    setRtcpPacketFromBytes bytes = .ok p ∧ p.packetType = RTCP_PACKET_TYPE_EXTENDED_REPORT ∧
    bytes = extendedReportBytes t.ssrc (answerBlocks t currentTime subs) bytes.length ∧
    visitedBlocks p.payload p.payloadLength = answerBlocks t currentTime subs ∧
    ∀ env conn, ((onRtcpExtendedReport env p.payloadLength conn).run p.payload).1 =
      ((answerBlocks t currentTime subs).foldl (applyBlock env t.ssrc) conn, .SUCCESS)

/-- What a build is to do; receiving is unconstrained. -/
def AnsweredExactly (s : XrRun) : XrEvent → Prop
  | .receive .. => True
  | .build t currentTime packetLen =>
    let built := rtcpBuildExtendedReport s.conn.receivedRrtrs t currentTime packetLen
    match built.result with
    | .packet bytes => AnsweredBy s.reporters t currentTime bytes
    | .nothingToSend => built.receivedRrtrs = s.conn.receivedRrtrs ∧ unanswered s.reporters = []
    | .BUFFER_TOO_SMALL => built.receivedRrtrs = s.conn.receivedRrtrs

/-- The table can tell that a reporter waits, and the field can hold how long. -/
def Waiting (currentTime : UINT64) (rs : List RrtrReporter) : Prop :=
  ∀ r ∈ rs, r.answered = false →
    r.ssrc ≠ 0 ∧ r.ntpMid ≠ r.answeredMid ∧ r.arrivalTimeHns.toNat ≤ currentTime.toNat ∧
      currentTime.toNat - r.arrivalTimeHns.toNat < 65536 * 10000000

def Answerable (s : XrRun) : XrEvent → Prop
  | .receive .. => True
  | .build _ currentTime _ => Waiting currentTime s.reporters

/-! ## The table and the records -/

structure Tracks (entries : List ReceivedRrtrEntry) (rs : List RrtrReporter) : Prop where
  slots : entries.length = MAX_RECEIVED_RRTR
  table : ∃ free, entries =
      (rs.filter fun r => r.ssrc ≠ 0).map RrtrReporter.entry ++ free ∧
    ∀ e ∈ free, e.ssrc = 0 ∧ e.lastRepliedNtpMid = 0
  distinct : (rs.map RrtrReporter.ssrc).Nodup
  answered : ∀ r ∈ rs, r.answered = true → r.answeredMid = r.ntpMid

section Receiving

variable {ssrc ntpMid : UINT32} {now : UINT64} {rs : List RrtrReporter}

theorem noteRrtr_of_notMem (h : ∀ r ∈ rs, r.ssrc ≠ ssrc) :
    noteRrtr ssrc now ntpMid rs = rs ++ [⟨ssrc, ntpMid, now, false, 0⟩] := by
  induction rs with
  | nil => rfl
  | cons r rs ih =>
    rw [noteRrtr, if_neg (h r List.mem_cons_self),
      ih fun r' hr' => h r' (List.mem_cons_of_mem r hr')]
    rfl

theorem noteRrtr_of_mem {before after : List RrtrReporter} {r : RrtrReporter}
    (hbefore : ∀ r' ∈ before, r'.ssrc ≠ ssrc) (hr : r.ssrc = ssrc) :
    noteRrtr ssrc now ntpMid (before ++ r :: after) = before ++
      { r with ntpMid := ntpMid, arrivalTimeHns := now, answered := false } :: after := by
  induction before with
  | nil => exact if_pos hr
  | cons b before ih =>
    rw [List.cons_append, noteRrtr, if_neg (hbefore b List.mem_cons_self),
      ih fun r' hr' => hbefore r' (List.mem_cons_of_mem b hr')]
    rfl

theorem length_le_noteRrtr : rs.length ≤ (noteRrtr ssrc now ntpMid rs).length := by
  induction rs with
  | nil => exact Nat.zero_le _
  | cons r rs ih =>
    unfold noteRrtr
    split
    · exact Nat.le_refl _
    · exact Nat.succ_le_succ ih

theorem reporter_cases (ssrc : UINT32) (rs : List RrtrReporter) :
    (∀ r ∈ rs, r.ssrc ≠ ssrc) ∨ ∃ before r after, rs = before ++ r :: after ∧
      (∀ r' ∈ before, r'.ssrc ≠ ssrc) ∧ r.ssrc = ssrc := by
  induction rs with
  | nil => exact .inl fun r hr => absurd hr List.not_mem_nil
  | cons r rs ih =>
    by_cases hr : r.ssrc = ssrc
    · exact .inr ⟨[], r, rs, rfl, fun r' hr' => absurd hr' List.not_mem_nil, hr⟩
    · rcases ih with hnone | ⟨before, r', after, rfl, hbefore, hr'⟩
      · exact .inl (List.forall_mem_cons.mpr ⟨hr, hnone⟩)
      · exact .inr ⟨r :: before, r', after, rfl, List.forall_mem_cons.mpr ⟨hr, hbefore⟩, hr'⟩

theorem findIdx?_at {p : ReceivedRrtrEntry → Bool} {before after : List ReceivedRrtrEntry}
    {e : ReceivedRrtrEntry} (hbefore : ∀ e' ∈ before, p e' = false) (he : p e = true) :
    (before ++ e :: after).findIdx? p = some before.length := by
  induction before with
  | nil => simp [List.findIdx?_cons, he]
  | cons b before ih =>
    rw [List.cons_append, List.findIdx?_cons, hbefore b List.mem_cons_self,
      ih fun e' he' => hbefore e' (List.mem_cons_of_mem b he')]
    rfl

theorem modify_at {α : Type} (before after : List α) (a : α) (f : α → α) :
    (before ++ a :: after).modify before.length f = before ++ f a :: after := by
  induction before with
  | nil => rfl
  | cons b before ih => exact congrArg (b :: ·) ih

theorem storeRrtr_known {before after : List ReceivedRrtrEntry} {e : ReceivedRrtrEntry}
    (hbefore : ∀ e' ∈ before, e'.ssrc ≠ ssrc) (he : e.ssrc = ssrc) :
    storeRrtr (before ++ e :: after) ssrc ntpMid now = before ++
      { e with ssrc := ssrc, ntpMid := ntpMid, arrivalTimeHns := now } :: after := by
  have hfind : (before ++ e :: after).findIdx? (fun e => e.ssrc = ssrc) = some before.length :=
    findIdx?_at (fun e' he' => decide_eq_false (hbefore e' he')) (decide_eq_true he)
  rw [storeRrtr, hfind]
  exact modify_at _ _ _ _

theorem storeRrtr_new {before after : List ReceivedRrtrEntry} {e : ReceivedRrtrEntry}
    (hnone : ∀ e' ∈ before ++ e :: after, e'.ssrc ≠ ssrc) (hbefore : ∀ e' ∈ before, e'.ssrc ≠ 0)
    (he : e.ssrc = 0) :
    storeRrtr (before ++ e :: after) ssrc ntpMid now = before ++
      { e with ssrc := ssrc, ntpMid := ntpMid, arrivalTimeHns := now } :: after := by
  have hknown : (before ++ e :: after).findIdx? (fun e => e.ssrc = ssrc) = none :=
    List.findIdx?_eq_none_iff.mpr fun e' he' => decide_eq_false (hnone e' he')
  have hfree : (before ++ e :: after).findIdx? (fun e => e.ssrc = 0) = some before.length :=
    findIdx?_at (fun e' he' => decide_eq_false (hbefore e' he')) (decide_eq_true he)
  rw [storeRrtr, hknown, hfree]
  exact modify_at _ _ _ _

theorem length_storeRrtr (entries : List ReceivedRrtrEntry) :
    (storeRrtr entries ssrc ntpMid now).length = entries.length := by
  unfold storeRrtr
  split
  · rfl
  · exact List.length_modify _ _ _

theorem storeRrtr_zero {taken free : List ReceivedRrtrEntry} (htaken : ∀ e ∈ taken, e.ssrc ≠ 0)
    (hfree : ∀ e ∈ free, e.ssrc = 0 ∧ e.lastRepliedNtpMid = 0) :
    ∃ free', storeRrtr (taken ++ free) 0 ntpMid now = taken ++ free' ∧
      ∀ e ∈ free', e.ssrc = 0 ∧ e.lastRepliedNtpMid = 0 := by
  cases free with
  | nil =>
    have hnone : (taken ++ []).findIdx? (fun e : ReceivedRrtrEntry => e.ssrc = 0) = none := by
      rw [List.append_nil]
      exact List.findIdx?_eq_none_iff.mpr fun e he => decide_eq_false (htaken e he)
    refine ⟨[], ?_, hfree⟩
    rw [storeRrtr, hnone]
    rfl
  | cons e free =>
    obtain ⟨he, hrest⟩ := List.forall_mem_cons.mp hfree
    exact ⟨_, storeRrtr_known htaken he.1, List.forall_mem_cons.mpr ⟨⟨rfl, he.2⟩, hrest⟩⟩

theorem mem_taken {e : ReceivedRrtrEntry}
    (h : e ∈ (rs.filter fun r => r.ssrc ≠ 0).map RrtrReporter.entry) :
    ∃ r ∈ rs, r.ssrc ≠ 0 ∧ r.entry = e := by
  obtain ⟨r, hr, rfl⟩ := List.mem_map.mp h
  obtain ⟨hr, hne⟩ := List.mem_filter.mp hr
  exact ⟨r, hr, of_decide_eq_true hne, rfl⟩

theorem taken_noteRrtr_zero : (noteRrtr 0 now ntpMid rs).filter (fun r => r.ssrc ≠ 0) =
    rs.filter fun r => r.ssrc ≠ 0 := by
  rcases reporter_cases 0 rs with hnone | ⟨before, r, after, rfl, hbefore, hr⟩
  · rw [noteRrtr_of_notMem hnone, List.filter_append]
    exact List.append_nil _
  · rw [noteRrtr_of_mem hbefore hr]
    simp [List.filter_append, hr]

theorem ssrcs_noteRrtr : (noteRrtr ssrc now ntpMid rs).map RrtrReporter.ssrc =
    if ssrc ∈ rs.map RrtrReporter.ssrc then rs.map RrtrReporter.ssrc
    else rs.map RrtrReporter.ssrc ++ [ssrc] := by
  rcases reporter_cases ssrc rs with hnone | ⟨before, r, after, rfl, hbefore, hr⟩
  · rw [noteRrtr_of_notMem hnone, if_neg, List.map_append]
    · rfl
    · intro hmem
      obtain ⟨r, hr, hssrc⟩ := List.mem_map.mp hmem
      exact hnone r hr hssrc
  · rw [noteRrtr_of_mem hbefore hr, if_pos]
    · simp
    · simp [hr]

theorem Tracks.receive {entries : List ReceivedRrtrEntry} (h : Tracks entries rs)
    (hmax : (noteRrtr ssrc now ntpMid rs).length ≤ MAX_RECEIVED_RRTR) :
    Tracks (storeRrtr entries ssrc ntpMid now) (noteRrtr ssrc now ntpMid rs) := by
  obtain ⟨free, htable, hfree⟩ := h.table
  refine ⟨(length_storeRrtr entries).trans h.slots, ?_, ?_, ?_⟩
  · by_cases hzero : ssrc = 0
    · subst hzero
      rw [taken_noteRrtr_zero, htable]
      refine storeRrtr_zero (fun e he => ?_) hfree
      obtain ⟨r, -, hne, rfl⟩ := mem_taken he
      exact hne
    · rcases reporter_cases ssrc rs with hnone | ⟨before, r, after, rfl, hbefore, hr⟩
      · -- the records do not fill the table, so a slot is free
        rw [noteRrtr_of_notMem hnone] at hmax ⊢
        have hslots := h.slots
        rw [htable, List.length_append, List.length_map] at hslots
        have hfilter := List.length_filter_le (fun r : RrtrReporter => r.ssrc ≠ 0) rs
        rw [List.length_append, List.length_singleton] at hmax
        obtain ⟨e, rest, rfl⟩ : ∃ e rest, free = e :: rest := by
          cases free with
          | nil =>
            rw [List.length_nil] at hslots
            omega
          | cons e rest => exact ⟨e, rest, rfl⟩
        obtain ⟨he, hrest⟩ := List.forall_mem_cons.mp hfree
        refine ⟨rest, ?_, hrest⟩
        rw [htable, storeRrtr_new _ _ he.1, List.filter_append, List.map_append, List.append_assoc]
        · rw [List.filter_cons, if_pos (decide_eq_true hzero), he.2]
          rfl
        · intro e' he'
          rcases List.mem_append.mp he' with htaken | hmem
          · obtain ⟨r, hr, -, rfl⟩ := mem_taken htaken
            exact hnone r hr
          · rw [(hfree e' hmem).1]
            exact Ne.symm hzero
        · intro e' he'
          obtain ⟨r, -, hne, rfl⟩ := mem_taken he'
          exact hne
      · refine ⟨free, ?_, hfree⟩
        rw [noteRrtr_of_mem hbefore hr, htable]
        have hne : r.ssrc ≠ 0 := hr ▸ hzero
        simp only [List.filter_append, List.filter_cons, decide_eq_true hne, if_pos,
          List.map_append, List.map_cons, List.append_assoc, List.cons_append]
        rw [storeRrtr_known _ hr]
        · simp [RrtrReporter.entry, hr]
        · intro e' he'
          obtain ⟨r', hr', -, rfl⟩ := mem_taken he'
          exact hbefore r' hr'
  · rw [ssrcs_noteRrtr]
    split
    · exact h.distinct
    · rename_i hnew
      exact List.nodup_append.mpr ⟨h.distinct, List.nodup_singleton _, fun a ha b hb hab =>
        hnew (List.mem_singleton.mp hb ▸ hab ▸ ha)⟩
  · rcases reporter_cases ssrc rs with hnone | ⟨before, r, after, rfl, hbefore, hr⟩
    · rw [noteRrtr_of_notMem hnone]
      intro r' hr' hanswered
      rcases List.mem_append.mp hr' with hmem | hmem
      · exact h.answered r' hmem hanswered
      · cases List.mem_singleton.mp hmem
        exact absurd hanswered Bool.false_ne_true
    · rw [noteRrtr_of_mem hbefore hr]
      intro r' hr' hanswered
      rcases List.mem_append.mp hr' with hmem | hmem
      · exact h.answered r' (List.mem_append_left _ hmem) hanswered
      · rcases List.mem_cons.mp hmem with rfl | hmem
        · exact absurd hanswered Bool.false_ne_true
        · exact h.answered r' (List.mem_append_right _ (List.mem_cons_of_mem r hmem)) hanswered

theorem receivedRrtrs_foldl (env : RtcpEnv) (blocks : List XrBlock) (conn : KvsPeerConnection) :
    (blocks.foldl (applyBlock env ssrc) conn).receivedRrtrs =
      (blocks.filterMap XrBlock.ntpMid?).foldl
        (fun entries ntpMid => storeRrtr entries ssrc ntpMid env.now) conn.receivedRrtrs := by
  have hsubs : ∀ (subs : List DlrrSubBlock) (conn : KvsPeerConnection),
      (subs.foldl (applySubBlock env) conn).receivedRrtrs = conn.receivedRrtrs := by
    intro subs
    induction subs with
    | nil => exact fun conn => rfl
    | cons sub subs ih =>
      intro conn
      rw [List.foldl_cons, ih]
      unfold applySubBlock
      split
      · rfl
      · split <;> rfl
  induction blocks generalizing conn with
  | nil => rfl
  | cons b blocks ih =>
    rw [List.foldl_cons, ih]
    cases b with
    | rrtr ntp => rfl
    | dlrr subs =>
      change List.foldl _ (subs.foldl (applySubBlock env) conn).receivedRrtrs _ = _
      rw [hsubs]
      rfl
    | skipped => rfl

theorem Tracks.receiveAll {entries : List ReceivedRrtrEntry} (mids : List UINT32)
    (h : Tracks entries rs)
    (hmax : (mids.foldl (fun rs ntpMid => noteRrtr ssrc now ntpMid rs) rs).length ≤
      MAX_RECEIVED_RRTR) :
    Tracks (mids.foldl (fun entries ntpMid => storeRrtr entries ssrc ntpMid now) entries)
      (mids.foldl (fun rs ntpMid => noteRrtr ssrc now ntpMid rs) rs) := by
  have hgrows : ∀ (mids : List UINT32) (rs : List RrtrReporter), rs.length ≤
      (mids.foldl (fun rs ntpMid => noteRrtr ssrc now ntpMid rs) rs).length := by
    intro mids
    induction mids with
    | nil => exact fun rs => Nat.le_refl _
    | cons ntpMid mids ih => exact fun rs => length_le_noteRrtr.trans (ih _)
  induction mids generalizing entries rs with
  | nil => exact h
  | cons ntpMid mids ih => exact ih (h.receive ((hgrows mids _).trans hmax)) hmax

theorem receivedRrtrs_receive (s : XrRun) (env : RtcpEnv) (payload : Bytes)
    (payloadLength : Nat) : (xrStep s (.receive env payload payloadLength)).conn.receivedRrtrs =
      (receivedMids payload payloadLength).foldl (fun entries ntpMid =>
        storeRrtr entries (getUnalignedInt32BigEndian payload 0) ntpMid env.now)
        s.conn.receivedRrtrs := by
  by_cases hlen : payloadLength < 4
  · simp only [xrStep, receivedMids, onRtcpExtendedReport, if_pos hlen, List.foldl_nil]
    rfl
  · have heq := @onRtcpExtendedReport_eq env payload payloadLength s.conn (Nat.not_lt.mp hlen)
    simp only [xrStep, receivedMids, if_neg hlen, heq, receivedRrtrs_foldl]

theorem tracks_receive {s : XrRun} (env : RtcpEnv) (payload : Bytes) (payloadLength : Nat)
    (h : Tracks s.conn.receivedRrtrs s.reporters)
    (hmax : (xrStep s (.receive env payload payloadLength)).reporters.length ≤ MAX_RECEIVED_RRTR) :
    Tracks (xrStep s (.receive env payload payloadLength)).conn.receivedRrtrs
      (xrStep s (.receive env payload payloadLength)).reporters := by
  rw [receivedRrtrs_receive]
  exact h.receiveAll _ hmax

end Receiving

section Building

variable {rs : List RrtrReporter} {entries : List ReceivedRrtrEntry} {currentTime : UINT64}

/-- A slot after the answer. -/
def ReceivedRrtrEntry.replied (e : ReceivedRrtrEntry) : ReceivedRrtrEntry :=
  if e.isPending then { e with lastRepliedNtpMid := e.ntpMid } else e

theorem markReplied_at {before after : List ReceivedRrtrEntry} {e : ReceivedRrtrEntry}
    (hbefore : ∀ e' ∈ before, e'.ssrc ≠ e.ssrc) : markReplied e (before ++ e :: after) =
      before ++ { e with lastRepliedNtpMid := e.ntpMid } :: after := by
  induction before with
  | nil => exact if_pos ⟨rfl, rfl⟩
  | cons b before ih =>
    rw [List.cons_append, markReplied, if_neg fun hb => hbefore b List.mem_cons_self hb.1,
      ih fun e' he' => hbefore e' (List.mem_cons_of_mem b he')]
    rfl

/-- Marking by value reaches the slot the answer was taken from: no two reporters share one. -/
theorem markReplied_foldl (before after : List ReceivedRrtrEntry)
    (hapart : (before ++ after).Pairwise fun a b => a.ssrc = b.ssrc → b.ssrc = 0) :
    (after.filter ReceivedRrtrEntry.isPending).foldl (fun entries e => markReplied e entries)
      (before ++ after) = before ++ after.map ReceivedRrtrEntry.replied := by
  induction after generalizing before with
  | nil => rfl
  | cons e after ih =>
    have hnext : ∀ e' : ReceivedRrtrEntry, e'.ssrc = e.ssrc →
        ((before ++ [e']) ++ after).Pairwise fun a b => a.ssrc = b.ssrc → b.ssrc = 0 := by
      intro e' he'
      rw [List.append_assoc, List.singleton_append]
      simpa only [List.pairwise_append, List.pairwise_cons, List.mem_cons, forall_eq_or_imp,
        he'] using hapart
    by_cases he : e.isPending = true
    · have hne : e.ssrc ≠ 0 := by
        simp only [ReceivedRrtrEntry.isPending, Bool.and_eq_true, decide_eq_true_eq] at he
        exact he.1
      have hbefore : ∀ e' ∈ before, e'.ssrc ≠ e.ssrc := fun e' he' hssrc =>
        hne ((List.pairwise_append.mp hapart).2.2 e' he' e List.mem_cons_self hssrc)
      have hrest := ih (before ++ [{ e with lastRepliedNtpMid := e.ntpMid }]) (hnext _ rfl)
      rw [List.append_assoc, List.singleton_append] at hrest
      rw [List.filter_cons, if_pos he, List.foldl_cons, markReplied_at hbefore, hrest,
        List.map_cons, ReceivedRrtrEntry.replied, if_pos he, List.append_assoc,
        List.singleton_append]
    · have hrest := ih (before ++ [e]) (hnext e rfl)
      rw [List.append_assoc, List.singleton_append] at hrest
      rw [List.filter_cons, if_neg he, hrest, List.map_cons, ReceivedRrtrEntry.replied, if_neg he,
        List.append_assoc, List.singleton_append]

theorem Tracks.apart (h : Tracks entries rs) :
    entries.Pairwise fun a b => a.ssrc = b.ssrc → b.ssrc = 0 := by
  obtain ⟨free, rfl, hfree⟩ := h.table
  refine List.pairwise_append.mpr ⟨?_, ?_, fun a _ b hb _ => (hfree b hb).1⟩
  · have hdistinct := (List.pairwise_map.mp h.distinct).filter fun r => r.ssrc ≠ 0
    exact List.pairwise_map.mpr (hdistinct.imp fun hne heq => absurd heq hne)
  · exact List.pairwise_of_forall_mem_list fun a _ b hb _ => (hfree b hb).1

theorem Tracks.isPending_entry (h : Tracks entries rs) (hwait : Waiting currentTime rs)
    {r : RrtrReporter} (hr : r ∈ rs) : r.entry.isPending = !r.answered := by
  cases hanswered : r.answered with
  | true => simp [ReceivedRrtrEntry.isPending, RrtrReporter.entry, h.answered r hr hanswered]
  | false =>
    obtain ⟨hne, hmid, -⟩ := hwait r hr hanswered
    exact Bool.and_eq_true_iff.mpr ⟨decide_eq_true hne, decide_eq_true hmid⟩

theorem Tracks.pending (h : Tracks entries rs) (hwait : Waiting currentTime rs) :
    entries.filter ReceivedRrtrEntry.isPending = (unanswered rs).map RrtrReporter.entry := by
  obtain ⟨free, htable, hfree⟩ := h.table
  have hnone : free.filter ReceivedRrtrEntry.isPending = [] :=
    List.filter_eq_nil_iff.mpr fun e he => by simp [ReceivedRrtrEntry.isPending, (hfree e he).1]
  rw [htable, List.filter_append, hnone, List.append_nil, List.filter_map, List.filter_filter]
  refine congrArg _ (List.filter_congr fun r hr => ?_)
  rw [Function.comp_apply, h.isPending_entry hwait hr]
  cases hanswered : r.answered with
  | true => rfl
  | false => exact decide_eq_true (hwait r hr hanswered).1

theorem answers_entry {r : RrtrReporter}
    (harrival : r.arrivalTimeHns.toNat ≤ currentTime.toNat)
    (hshort : currentTime.toNat - r.arrivalTimeHns.toNat < 65536 * 10000000) :
    Answers currentTime r (r.entry.answer currentTime) := by
  refine ⟨rfl, rfl, harrival, ?_⟩
  have hdiff : (currentTime - r.arrivalTimeHns).toNat =
      currentTime.toNat - r.arrivalTimeHns.toNat := BitVec.toNat_sub_of_le harrival
  change (((currentTime - r.arrivalTimeHns) * BitVec.ofNat 64 DLSR_TIMESCALE /
    HUNDREDS_OF_NANOS_IN_A_SECOND).truncate 32).toNat = _
  rw [BitVec.toNat_setWidth, BitVec.toNat_udiv, BitVec.toNat_mul, hdiff]
  change ((currentTime.toNat - r.arrivalTimeHns.toNat) * 65536 % 2 ^ 64 / 10000000) % 2 ^ 32 =
    (currentTime.toNat - r.arrivalTimeHns.toNat) * 65536 / 10000000
  generalize currentTime.toNat - r.arrivalTimeHns.toNat = delay at hshort
  have hproduct : delay * 65536 % 2 ^ 64 = delay * 65536 := Nat.mod_eq_of_lt (by omega)
  rw [hproduct]
  exact Nat.mod_eq_of_lt (by omega)

theorem Tracks.noteAnswers_eq (h : Tracks entries rs) :
    noteAnswers ((unanswered rs).map fun r => r.entry.answer currentTime) rs =
      rs.map fun r => if r.answered then r else
        { r with answered := true, answeredMid := r.ntpMid } := by
  refine List.map_congr_left fun r hr => ?_
  have hmem : (r.ssrc, r.ntpMid) ∈ ((unanswered rs).map fun r => r.entry.answer currentTime).map
      (fun sub => (sub.ssrc, sub.lrr)) ↔ r.answered = false := by
    simp only [List.map_map, List.mem_map, unanswered, List.mem_filter, Bool.not_eq_true',
      Function.comp_apply]
    constructor
    · rintro ⟨r', ⟨hr', hwaits⟩, heq⟩
      have hssrc : r'.ssrc = r.ssrc := congrArg Prod.fst heq
      exact List.inj_on_of_nodup_map h.distinct hr' hr hssrc ▸ hwaits
    · intro hwaits
      exact ⟨r, ⟨hr, hwaits⟩, rfl⟩
  cases hanswered : r.answered with
  | true =>
    have hnot := mt hmem.mp (by rw [hanswered]; exact Bool.noConfusion)
    rw [if_neg hnot, if_pos rfl]
  | false => rw [if_pos (hmem.mpr hanswered), if_neg Bool.false_ne_true]

theorem Tracks.answer (h : Tracks entries rs) (hwait : Waiting currentTime rs) :
    Tracks ((entries.filter ReceivedRrtrEntry.isPending).foldl
        (fun entries e => markReplied e entries) entries)
      (noteAnswers ((unanswered rs).map fun r => r.entry.answer currentTime) rs) := by
  have hmarked := markReplied_foldl [] entries h.apart
  rw [List.nil_append, List.nil_append] at hmarked
  rw [hmarked, h.noteAnswers_eq]
  refine ⟨(List.length_map _).trans h.slots, ?_, ?_, ?_⟩
  · obtain ⟨free, htable, hfree⟩ := h.table
    refine ⟨free, ?_, hfree⟩
    have hsame : free.map ReceivedRrtrEntry.replied = free := by
      refine (List.map_congr_left fun e he => ?_).trans (List.map_id free)
      simp [ReceivedRrtrEntry.replied, ReceivedRrtrEntry.isPending, (hfree e he).1]
    rw [htable, List.map_append, hsame, List.filter_map, List.map_map, List.map_map]
    refine congrArg (· ++ free) ?_
    have hkept : rs.filter ((fun r : RrtrReporter => decide (r.ssrc ≠ 0)) ∘ fun r =>
        if r.answered then r else { r with answered := true, answeredMid := r.ntpMid }) =
        rs.filter fun r => r.ssrc ≠ 0 := by
      refine List.filter_congr fun r _ => ?_
      rw [Function.comp_apply]
      split <;> rfl
    rw [hkept]
    refine List.map_congr_left fun r hr => ?_
    have hpending := h.isPending_entry hwait (List.mem_of_mem_filter hr)
    rw [Function.comp_apply, Function.comp_apply, ReceivedRrtrEntry.replied, hpending]
    cases r.answered <;> rfl
  · rw [List.map_map]
    refine (List.map_congr_left fun r _ => ?_) ▸ h.distinct
    rw [Function.comp_apply]
    split <;> rfl
  · intro r hr _
    obtain ⟨r', hr', rfl⟩ := List.mem_map.mp hr
    split
    · rename_i hanswered
      exact h.answered r' hr' hanswered
    · rfl

theorem subBlocks_answerBlocks (t : XrSender) (subs : List DlrrSubBlock) :
    (answerBlocks t currentTime subs).flatMap XrBlock.subBlocks = subs := by
  have hfirst : (if sendsRrtr t currentTime then [XrBlock.rrtr (convertTimestampToNTP currentTime)]
      else []).flatMap XrBlock.subBlocks = [] := by
    split <;> rfl
  rw [answerBlocks, List.flatMap_append, hfirst, List.nil_append]
  split
  · rename_i hempty
    exact hempty.symm
  · rw [List.flatMap_singleton]
    rfl

theorem Tracks.packet (h : Tracks entries rs) (hwait : Waiting currentTime rs) (t : XrSender) :
    let pending := entries.filter ReceivedRrtrEntry.isPending
    let bytes := extendedReportBytes t.ssrc
      (writtenBlocks (sendsRrtr t currentTime) currentTime pending)
      (extendedReportLen (sendsRrtr t currentTime) pending.length)
    AnsweredBy rs t currentTime bytes ∧
      sentAnswers (.packet bytes) = (unanswered rs).map fun r => r.entry.answer currentTime := by
  intro pending bytes
  let subs := (unanswered rs).map fun r => r.entry.answer currentTime
  have hpending : pending = (unanswered rs).map RrtrReporter.entry := h.pending hwait
  have hblocks : writtenBlocks (sendsRrtr t currentTime) currentTime pending =
      answerBlocks t currentTime subs := by
    rw [hpending, writtenBlocks, answerBlocks, List.map_map]
    simp only [subs, List.map_eq_nil_iff]
    rfl
  have hanswers : List.Forall₂ (Answers currentTime) (unanswered rs) subs := by
    refine List.forall₂_map_right_iff.mpr (List.forall₂_same.mpr fun r hr => ?_)
    obtain ⟨hr, hanswered⟩ := List.mem_filter.mp hr
    obtain ⟨-, -, harrival, hshort⟩ := hwait r hr (by simpa using hanswered)
    exact answers_entry harrival hshort
  obtain ⟨p, hparsed, htype, hpayload, hrest, hlen, hvisited, hhandled⟩ :=
    built_packet h.slots t currentTime
  refine ⟨⟨h.distinct.sublist (List.filter_sublist.map _), subs, p, hanswers, hparsed, htype, ?_,
    hvisited.trans hblocks, fun env conn => ?_⟩, ?_⟩
  · rw [← hblocks]
    exact congrArg (extendedReportBytes t.ssrc _) hlen.symm
  · rw [hhandled, ← hblocks]
  · rw [sentAnswers, ← hpayload, ← hrest, hvisited]
    exact (congrArg (List.flatMap XrBlock.subBlocks) hblocks).trans
      (subBlocks_answerBlocks t subs)

/-- **What a build does** when every reporter that waits can be told and answered. -/
theorem Tracks.build (h : Tracks entries rs) (hwait : Waiting currentTime rs) (t : XrSender)
    (packetLen : Nat) :
    let built := rtcpBuildExtendedReport entries t currentTime packetLen
    Tracks built.receivedRrtrs (noteAnswers (sentAnswers built.result) rs) ∧
      match built.result with
      | .packet bytes => AnsweredBy rs t currentTime bytes
      | .nothingToSend => built.receivedRrtrs = entries ∧ unanswered rs = []
      | .BUFFER_TOO_SMALL => built.receivedRrtrs = entries := by
  have hnone : noteAnswers [] rs = rs :=
    (List.map_congr_left fun r _ => if_neg List.not_mem_nil).trans (List.map_id rs)
  dsimp only
  rcases rtcpBuildExtendedReport_cases entries t currentTime packetLen with
    ⟨hresult, htable, hempty⟩ | ⟨hresult, htable⟩ | ⟨hresult, htable⟩
  · rw [hresult, htable]
    change Tracks entries (noteAnswers [] rs) ∧ _
    rw [hnone]
    exact ⟨h, rfl, List.map_eq_nil_iff.mp ((h.pending hwait).symm.trans hempty)⟩
  · rw [hresult, htable]
    change Tracks entries (noteAnswers [] rs) ∧ _
    rw [hnone]
    exact ⟨h, rfl⟩
  · obtain ⟨hpacket, hsent⟩ := h.packet hwait t
    rw [hresult, htable, hsent]
    exact ⟨h.answer hwait, hpacket⟩

theorem tracks_build {s : XrRun} (t : XrSender) (currentTime : UINT64) (packetLen : Nat)
    (h : Tracks s.conn.receivedRrtrs s.reporters) (hwait : Waiting currentTime s.reporters) :
    Tracks (xrStep s (.build t currentTime packetLen)).conn.receivedRrtrs
      (xrStep s (.build t currentTime packetLen)).reporters :=
  (h.build hwait t packetLen).1

end Building

/-! ## Any run -/

theorem tracks_start {conn : KvsPeerConnection}
    (h : conn.receivedRrtrs = List.replicate MAX_RECEIVED_RRTR ⟨0, 0, 0, 0⟩) :
    Tracks (xrStart conn).conn.receivedRrtrs (xrStart conn).reporters := by
  refine ⟨?_, ⟨_, rfl, ?_⟩, List.nodup_nil, fun r hr => absurd hr List.not_mem_nil⟩
  · exact h ▸ List.length_replicate
  · intro e he
    change e ∈ conn.receivedRrtrs at he
    rw [h] at he
    cases List.eq_of_mem_replicate he
    exact ⟨rfl, rfl⟩

/-- **Every RRTR is answered once** in a run of at most as many reporters as there are slots, in
which at every build the reporters that wait have an SSRC and another timestamp than the one
answered last, and have waited less than 65536 seconds. -/
theorem rrtrs_answered (conn : KvsPeerConnection)
    (hstart : conn.receivedRrtrs = List.replicate MAX_RECEIVED_RRTR ⟨0, 0, 0, 0⟩)
    (es : List XrEvent)
    (hmax : Steps.Each xrStep (fun s e => (xrStep s e).reporters.length ≤ MAX_RECEIVED_RRTR)
      (xrStart conn) es)
    (hwait : Steps.Each xrStep Answerable (xrStart conn) es) :
    Steps.Each xrStep AnsweredExactly (xrStart conn) es := by
  let Inv := fun s : XrRun => Tracks s.conn.receivedRrtrs s.reporters
  have hinit : Inv (xrStart conn) := tracks_start hstart
  refine Steps.Each.of_inv hinit ?_ ?_ (hmax.and hwait)
  · rintro s e hinv ⟨hslots, hanswerable⟩
    cases e with
    | receive env payload payloadLength =>
      exact tracks_receive env payload payloadLength hinv hslots
    | build t currentTime packetLen => exact tracks_build t currentTime packetLen hinv hanswerable
  · rintro s e hinv ⟨-, hanswerable⟩
    cases e with
    | receive env payload payloadLength => trivial
    | build t currentTime packetLen => exact (hinv.build hanswerable t packetLen).2

/-! ## A timestamp that reads as answered -/

def noRrtrs : KvsPeerConnection where
  pTransceivers := []
  pTwccManager := none
  onSenderBandwidthEstimation := false
  onTwccPacketReport := false
  receivedRrtrs := List.replicate MAX_RECEIVED_RRTR ⟨0, 0, 0, 0⟩
  callbacks := []

/-- An RRTR of the reporter 7, one second before the build, with the given middle bits. -/
def oneRrtr (high low : UINT8) : List XrEvent :=
  [.receive ⟨100, fun _ _ => true⟩ [0, 0, 0, 7, 4, 0, 0, 2, 0, 0, high, low, 0, 0, 0, 0] 16,
    .build ⟨9, 0, 0⟩ 10000100 72]

theorem rrtrs_answered_one : Steps.Each xrStep AnsweredExactly (xrStart noRrtrs) (oneRrtr 1 2) := by
  refine rrtrs_answered noRrtrs rfl (oneRrtr 1 2) ⟨by decide +kernel, by decide +kernel, trivial⟩
    ⟨trivial, ?_, trivial⟩
  have hreporters : (xrStep (xrStart noRrtrs) ((oneRrtr 1 2).head (by decide))).reporters =
      [⟨7, 0x01020000, 100, false, 0⟩] := by
    rfl
  intro r hr _
  change r ∈ (xrStep (xrStart noRrtrs) ((oneRrtr 1 2).head (by decide))).reporters at hr
  rw [hreporters] at hr
  cases List.mem_singleton.mp hr
  decide

/-- The slot of a reporter whose middle bits are 0 looks answered: the packet has no answer. -/
theorem not_rrtrs_answered : ¬∀ es : List XrEvent,
    Steps.Each xrStep (fun s e => (xrStep s e).reporters.length ≤ MAX_RECEIVED_RRTR)
      (xrStart noRrtrs) es → Steps.Each xrStep AnsweredExactly (xrStart noRrtrs) es := by
  intro h
  obtain ⟨-, hbuild, -⟩ := h (oneRrtr 0 0) ⟨by decide +kernel, by decide +kernel, trivial⟩
  have hanswered : AnsweredBy [⟨7, 0, 100, false, 0⟩] ⟨9, 0, 0⟩ 10000100
      (extendedReportBytes 9 [.rrtr (convertTimestampToNTP 10000100)] 20) := hbuild
  obtain ⟨-, subs, p, hanswers, -, -, hbytes, -⟩ := hanswered
  obtain ⟨sub, rest, -, hrest, rfl⟩ := List.forall₂_cons_left_iff.mp hanswers
  cases hrest
  have hlen : (20 : Nat) = 36 := congrArg List.length hbytes
  exact absurd hlen (by decide)

end KvsWebrtc.Rtcp.Compound
