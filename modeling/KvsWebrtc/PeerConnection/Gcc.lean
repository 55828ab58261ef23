import KvsWebrtc.Common
import Mathlib.Data.List.SplitBy
import Mathlib.Data.BitVec

/-!
# The delay samples of the congestion controller (`Gcc.c`)

`gccProcessPacket` gathers received packets into groups, with two slots: the group being built and
the one before it.  At the end of every report `gccFinalizeGroup` closes the current group, takes
one delay sample from the two slots and clears the current one.  So a report yields at most one
sample, whatever number of groups it closed, and a group never goes on in the next report once a
first sample was taken.

`groups` is the grouping of an uncut sequence of packets: the longest runs in which every packet
belongs to the group of the one before it.

Principal results:

* `finalizeGroups_eq` — the loop around `gccFinalizeGroup` runs at most once;
* `process_kept` — what the two slots hold after some packets;
* `samples_of_aligned` — in a run of aligned reports the samples are the delays between the groups.
-/

namespace KvsWebrtc.Gcc

def HUNDREDS_OF_NANOS_IN_A_MILLISECOND : UINT64 := 10000

def GCC_BURST_TIME_MS : UINT64 := 5

def GCC_MS_TO_KVS (ms : UINT64) : UINT64 := ms * HUNDREDS_OF_NANOS_IN_A_MILLISECOND

def TWCC_PACKET_LOST_TIME : UINT64 := 0xffffffffffffffff

structure TwccPacketReport where
  seqNum : UINT16
  sendTimeKvs : UINT64
  arrivalTimeKvs : UINT64
  packetSize : UINT32
  received : Bool
  deriving DecidableEq, Repr

/-- The times are those of the last packet in the group. -/
structure GccPacketGroup where
  departureTimeKvs : UINT64
  arrivalTimeKvs : UINT64
  totalBytes : UINT32
  firstSeqNum : UINT16
  packetCount : UINT16
  deriving DecidableEq, Repr

structure GccController where
  currentGroup : GccPacketGroup
  prevGroup : GccPacketGroup
  hasPrevGroup : Bool
  deriving DecidableEq, Repr

def zeroedGroup : GccPacketGroup := ⟨0, 0, 0, 0, 0⟩

/-! ## The source's functions -/

/-- A packet belongs to a group that ends with the given times. -/
def sameGroup (departureTimeKvs arrivalTimeKvs sendTimeKvs packetArrivalKvs : UINT64) : Bool :=
  if sendTimeKvs ≤ departureTimeKvs + GCC_MS_TO_KVS GCC_BURST_TIME_MS then true
  else
    let interArrivalKvs := packetArrivalKvs - arrivalTimeKvs
    if interArrivalKvs < GCC_MS_TO_KVS GCC_BURST_TIME_MS then
      let interDepartureKvs := sendTimeKvs - departureTimeKvs
      decide ((interArrivalKvs - interDepartureKvs).toInt < 0)
    else false

/-- The first packet of a group. -/
def startGroup (sendTimeKvs arrivalTimeKvs : UINT64) (packetSize : UINT32) (seqNum : UINT16) :
    GccPacketGroup :=
  ⟨sendTimeKvs, arrivalTimeKvs, packetSize, seqNum, 1⟩

def gccProcessPacket (c : GccController) (sendTimeKvs arrivalTimeKvs : UINT64)
    (packetSize : UINT32) (seqNum : UINT16) : GccController :=
  if ¬(arrivalTimeKvs ≠ 0 ∧ arrivalTimeKvs ≠ TWCC_PACKET_LOST_TIME) then c
  else if c.currentGroup.packetCount = 0 then
    { c with currentGroup := startGroup sendTimeKvs arrivalTimeKvs packetSize seqNum }
  else if sameGroup c.currentGroup.departureTimeKvs c.currentGroup.arrivalTimeKvs sendTimeKvs
      arrivalTimeKvs then
    { c with currentGroup := { c.currentGroup with
        departureTimeKvs := sendTimeKvs
        arrivalTimeKvs := arrivalTimeKvs
        totalBytes := c.currentGroup.totalBytes + packetSize
        packetCount := c.currentGroup.packetCount + 1 } }
  else
    { currentGroup := startGroup sendTimeKvs arrivalTimeKvs packetSize seqNum
      prevGroup := c.currentGroup
      hasPrevGroup := true }

/-- The delay variation between two groups, in hundreds of nanoseconds. -/
def delay (prev current : GccPacketGroup) : Int :=
  ((current.arrivalTimeKvs - prev.arrivalTimeKvs) -
    (current.departureTimeKvs - prev.departureTimeKvs)).toInt

/-- The sample and the controller after it; `none` when there are no two groups. -/
def gccFinalizeGroup (c : GccController) : Option (Int × GccController) :=
  if c.hasPrevGroup = false ∨ c.currentGroup.packetCount = 0 then none
  else some (delay c.prevGroup c.currentGroup,
    { c with prevGroup := c.currentGroup, currentGroup := zeroedGroup })

theorem packetCount_of_finalize {c c' : GccController} {d : Int}
    (h : gccFinalizeGroup c = some (d, c')) :
    c.currentGroup.packetCount ≠ 0 ∧ c'.currentGroup.packetCount = 0 := by
  unfold gccFinalizeGroup at h
  split at h
  · cases h
  · rename_i hcond
    cases h
    exact ⟨fun hzero => hcond (.inr hzero), rfl⟩

/-- The loop around `gccFinalizeGroup`, with the samples handed to the filter. -/
def finalizeGroups (c : GccController) : GccController × List Int :=
  match _h : gccFinalizeGroup c with
  | none => (c, [])
  | some (d, c') =>
    let rest := finalizeGroups c'
    (rest.1, d :: rest.2)
termination_by if c.currentGroup.packetCount = 0 then 0 else 1
decreasing_by
  obtain ⟨hfull, hempty⟩ := packetCount_of_finalize _h
  rw [if_pos hempty, if_neg hfull]
  exact Nat.zero_lt_one

/-- The grouping of one report; a packet that was not received is only counted. -/
def processReport (c : GccController) (r : TwccPacketReport) : GccController :=
  if r.received then gccProcessPacket c r.sendTimeKvs r.arrivalTimeKvs r.packetSize r.seqNum else c

/-- The controller and the samples; an empty array is refused. -/
def gccOnTwccPacketReports (c : GccController) (pReports : List TwccPacketReport) :
    GccController × List Int :=
  if pReports = [] then (c, [])
  else finalizeGroups (pReports.foldl processReport c)

/-- **The loop runs at most once.** -/
theorem finalizeGroups_eq (c : GccController) :
    finalizeGroups c =
      match gccFinalizeGroup c with
      | none => (c, [])
      | some (d, c') => (c', [d]) := by
  rw [finalizeGroups]
  cases h : gccFinalizeGroup c with
  | none => rfl
  | some r =>
    obtain ⟨d, c'⟩ := r
    have hempty := (packetCount_of_finalize h).2
    have hnone : gccFinalizeGroup c' = none := if_pos (.inr hempty)
    dsimp only
    rw [finalizeGroups]
    split
    · rfl
    · rename_i heq
      rw [hnone] at heq
      cases heq

/-! ## Groups of packets -/

/-- The packets that take part in the grouping. -/
def kept (reports : List TwccPacketReport) : List TwccPacketReport :=
  reports.filter fun r =>
    r.received && decide (r.arrivalTimeKvs ≠ 0 ∧ r.arrivalTimeKvs ≠ TWCC_PACKET_LOST_TIME)

/-- A packet belongs to the group of the packet before it. -/
def adjacent (p q : TwccPacketReport) : Bool :=
  sameGroup p.sendTimeKvs p.arrivalTimeKvs q.sendTimeKvs q.arrivalTimeKvs

/-- The packet groups of an uncut sequence. -/
def groups (reports : List TwccPacketReport) : List (List TwccPacketReport) :=
  (kept reports).splitBy adjacent

/-- What a slot holds for a group. -/
def record (g : List TwccPacketReport) : GccPacketGroup where
  departureTimeKvs := (g.getLast?.map TwccPacketReport.sendTimeKvs).getD 0
  arrivalTimeKvs := (g.getLast?.map TwccPacketReport.arrivalTimeKvs).getD 0
  totalBytes := (g.map TwccPacketReport.packetSize).sum
  firstSeqNum := (g.head?.map TwccPacketReport.seqNum).getD 0
  packetCount := BitVec.ofNat 16 g.length

/-- One delay for every pair of consecutive groups. -/
def delays : List (List TwccPacketReport) → List Int
  | a :: b :: rest => delay (record a) (record b) :: delays (b :: rest)
  | _ => []

theorem delays_of_length_le {gs : List (List TwccPacketReport)} (h : gs.length ≤ 1) :
    delays gs = [] := by
  match gs, h with
  | [], _ => rfl
  | [_], _ => rfl

theorem delays_concat (init : List (List TwccPacketReport)) (a b : List TwccPacketReport) :
    delays (init ++ [a, b]) = delays (init ++ [a]) ++ [delay (record a) (record b)] := by
  induction init with
  | nil => rfl
  | cons g init ih =>
    cases init with
    | nil => rfl
    | cons g' init => exact congrArg (delay (record g) (record g') :: ·) ih

theorem kept_append (a b : List TwccPacketReport) : kept (a ++ b) = kept a ++ kept b :=
  List.filter_append ..

theorem record_singleton (p : TwccPacketReport) :
    record [p] = startGroup p.sendTimeKvs p.arrivalTimeKvs p.packetSize p.seqNum := by
  simp [record, startGroup]

theorem packetCount_record {g : List TwccPacketReport} (hne : g ≠ []) (hlen : g.length < 2 ^ 16) :
    (record g).packetCount ≠ 0 := by
  have hpos := List.length_pos_iff.mpr hne
  intro h
  have hmod : g.length % 2 ^ 16 = 0 := congrArg BitVec.toNat h
  omega

theorem record_concat {g : List TwccPacketReport} (hne : g ≠ []) (p : TwccPacketReport) :
    record (g ++ [p]) = { record g with
      departureTimeKvs := p.sendTimeKvs
      arrivalTimeKvs := p.arrivalTimeKvs
      totalBytes := (record g).totalBytes + p.packetSize
      packetCount := (record g).packetCount + 1 } := by
  obtain ⟨q, g, rfl⟩ := List.exists_cons_of_ne_nil hne
  have hcount : (BitVec.ofNat 16 (g.length + 1 + 1) : UINT16) =
      BitVec.ofNat 16 (g.length + 1) + 1 := by
    rw [BitVec.ofNat_add]
    rfl
  have hlast : (q :: (g ++ [p])).getLast? = some p := by
    rw [← List.cons_append]
    exact List.getLast?_concat
  simp [record, hlast, hcount, BitVec.add_assoc]

theorem sameGroup_record {g : List TwccPacketReport} {q : TwccPacketReport}
    (hlast : g.getLast? = some q) (p : TwccPacketReport) :
    sameGroup (record g).departureTimeKvs (record g).arrivalTimeKvs p.sendTimeKvs
      p.arrivalTimeKvs = adjacent q p := by
  simp [record, hlast, adjacent]

def addPacket (c : GccController) (p : TwccPacketReport) : GccController :=
  gccProcessPacket c p.sendTimeKvs p.arrivalTimeKvs p.packetSize p.seqNum

theorem foldl_processReport (reports : List TwccPacketReport) (c : GccController) :
    reports.foldl processReport c = (kept reports).foldl addPacket c := by
  induction reports generalizing c with
  | nil => rfl
  | cons r reports ih =>
    have hkept : kept (r :: reports) =
        if (r.received && decide
            (r.arrivalTimeKvs ≠ 0 ∧ r.arrivalTimeKvs ≠ TWCC_PACKET_LOST_TIME)) = true then
          r :: kept reports
        else kept reports := List.filter_cons
    rw [List.foldl_cons, ih, hkept, processReport]
    cases hreceived : r.received with
    | false => rfl
    | true =>
      by_cases htime : r.arrivalTimeKvs ≠ 0 ∧ r.arrivalTimeKvs ≠ TWCC_PACKET_LOST_TIME
      · rw [if_pos rfl, if_pos (by rw [decide_eq_true htime]; rfl), List.foldl_cons]
        rfl
      · rw [if_pos rfl, if_neg (by rw [decide_eq_false htime]; decide), gccProcessPacket,
          if_pos htime]

section

variable {c : GccController} {g : List TwccPacketReport} {p : TwccPacketReport}

theorem kept_mem {reports : List TwccPacketReport} (h : p ∈ kept reports) :
    p.arrivalTimeKvs ≠ 0 ∧ p.arrivalTimeKvs ≠ TWCC_PACKET_LOST_TIME := by
  have h := (List.mem_filter.mp h).2
  rw [Bool.and_eq_true, decide_eq_true_iff] at h
  exact h.2

theorem addPacket_first (hp : p.arrivalTimeKvs ≠ 0 ∧ p.arrivalTimeKvs ≠ TWCC_PACKET_LOST_TIME)
    (hcur : c.currentGroup = record []) :
    addPacket c p = { c with currentGroup := record [p] } := by
  have hempty : (record []).packetCount = 0 := rfl
  rw [addPacket, gccProcessPacket, if_neg (not_not_intro hp), hcur, if_pos hempty,
    record_singleton]

theorem addPacket_same {q : TwccPacketReport}
    (hp : p.arrivalTimeKvs ≠ 0 ∧ p.arrivalTimeKvs ≠ TWCC_PACKET_LOST_TIME)
    (hcur : c.currentGroup = record g) (hlast : g.getLast? = some q) (hlen : g.length < 2 ^ 16)
    (hsame : adjacent q p = true) :
    addPacket c p = { c with currentGroup := record (g ++ [p]) } := by
  have hne : g ≠ [] := by
    rintro rfl
    cases hlast
  rw [addPacket, gccProcessPacket, if_neg (not_not_intro hp), hcur,
    if_neg (packetCount_record hne hlen), sameGroup_record hlast, if_pos hsame, record_concat hne]

theorem addPacket_next {q : TwccPacketReport}
    (hp : p.arrivalTimeKvs ≠ 0 ∧ p.arrivalTimeKvs ≠ TWCC_PACKET_LOST_TIME)
    (hcur : c.currentGroup = record g) (hlast : g.getLast? = some q) (hlen : g.length < 2 ^ 16)
    (hnext : adjacent q p = false) :
    addPacket c p =
      { currentGroup := record [p], prevGroup := record g, hasPrevGroup := true } := by
  have hne : g ≠ [] := by
    rintro rfl
    cases hlast
  rw [addPacket, gccProcessPacket, if_neg (not_not_intro hp), hcur,
    if_neg (packetCount_record hne hlen), sameGroup_record hlast, hnext, if_neg (by decide),
    record_singleton]

/-- A group at the front goes on into the first group of the whole. -/
theorem splitBy_start (ps : List TwccPacketReport) (hne : g ≠ [])
    (hchain : g.IsChain fun p q => adjacent p q) :
    ∃ more rest, (g ++ ps).splitBy adjacent = (g ++ more) :: rest := by
  induction ps generalizing g with
  | nil => exact ⟨[], [], by rw [List.append_nil, List.splitBy_of_isChain hne hchain]⟩
  | cons p ps ih =>
    by_cases hadj : ∀ q ∈ g.getLast?, adjacent q p = false
    · rw [List.splitBy_append_cons ps hadj, List.splitBy_of_isChain hne hchain]
      exact ⟨[], (p :: ps).splitBy adjacent, by rw [List.append_nil]; rfl⟩
    · have hchain' : (g ++ [p]).IsChain fun p q => adjacent p q := by
        rw [List.isChain_append]
        refine ⟨hchain, List.isChain_singleton p, fun x hx y hy => ?_⟩
        cases hy
        by_contra hfalse
        refine hadj fun q hq => ?_
        rw [Option.mem_def] at hq hx
        cases hq.symm.trans hx
        exact Bool.eq_false_iff.mpr hfalse
      obtain ⟨more, rest, h⟩ := ih (by simp) hchain'
      exact ⟨p :: more, rest, by simpa using h⟩

/-- What the slots hold for a list of groups, in a controller that was `c` before. -/
structure Holds (c c' : GccController) (gs : List (List TwccPacketReport)) : Prop where
  current : c'.currentGroup = record (gs.getLast?.getD [])
  single : gs.length ≤ 1 → c'.prevGroup = c.prevGroup ∧ c'.hasPrevGroup = c.hasPrevGroup
  pair : ∀ init a b, gs = init ++ [a, b] → c'.prevGroup = record a ∧ c'.hasPrevGroup = true

theorem Holds.cons {c' : GccController} {gs : List (List TwccPacketReport)}
    {current : GccPacketGroup} (h : Holds ⟨current, record g, true⟩ c' gs) (hne : gs ≠ []) :
    Holds c c' (g :: gs) where
  current := by
    obtain ⟨b, gs, rfl⟩ := List.exists_cons_of_ne_nil hne
    rw [List.getLast?_cons_cons]
    exact h.current
  single hlen := by
    have := List.length_pos_iff.mpr hne
    rw [List.length_cons] at hlen
    omega
  pair init a b heq := by
    cases init with
    | nil =>
      obtain ⟨rfl, rfl⟩ := List.cons.inj heq
      exact h.single (Nat.le_refl 1)
    | cons g' init =>
      obtain ⟨-, htail⟩ := List.cons.inj heq
      exact h.pair init a b htail

/-- **After some packets the slots hold the last two groups**, when the current slot held the group
`g` before. -/
theorem process_kept (ps : List TwccPacketReport)
    (hps : ∀ p ∈ ps, p.arrivalTimeKvs ≠ 0 ∧ p.arrivalTimeKvs ≠ TWCC_PACKET_LOST_TIME)
    (hcur : c.currentGroup = record g) (hchain : g.IsChain fun p q => adjacent p q)
    (hsmall : ∀ g' ∈ (g ++ ps).splitBy adjacent, g'.length < 2 ^ 16) :
    Holds c (ps.foldl addPacket c) ((g ++ ps).splitBy adjacent) := by
  induction ps generalizing c g with
  | nil =>
    rw [List.append_nil, List.foldl_nil]
    by_cases hne : g = []
    · subst hne
      exact ⟨hcur, fun _ => ⟨rfl, rfl⟩, fun init a b h => by simp at h⟩
    · rw [List.splitBy_of_isChain hne hchain]
      refine ⟨hcur, fun _ => ⟨rfl, rfl⟩, fun init a b h => ?_⟩
      have := congrArg List.length h
      simp at this
  | cons p ps ih =>
    obtain ⟨hp, hps⟩ := List.forall_mem_cons.mp hps
    rw [List.foldl_cons]
    cases hlast : g.getLast? with
    | none =>
      obtain rfl := List.getLast?_eq_none_iff.mp hlast
      rw [addPacket_first hp hcur]
      have hih := ih (g := [p]) (c := { c with currentGroup := record [p] }) hps rfl
        (List.isChain_singleton p) hsmall
      exact ⟨hih.current, hih.single, hih.pair⟩
    | some q =>
      have hne : g ≠ [] := by
        rintro rfl
        cases hlast
      have hlen : g.length < 2 ^ 16 := by
        obtain ⟨more, rest, hstart⟩ := splitBy_start (p :: ps) hne hchain
        have hfirst := hsmall (g ++ more) (by rw [hstart]; exact List.mem_cons_self)
        rw [List.length_append] at hfirst
        omega
      cases hadj : adjacent q p with
      | true =>
        rw [addPacket_same hp hcur hlast hlen hadj]
        have hchain' : (g ++ [p]).IsChain fun p q => adjacent p q := by
          rw [List.isChain_append]
          refine ⟨hchain, List.isChain_singleton p, fun x hx y hy => ?_⟩
          rw [hlast] at hx
          cases hx
          cases hy
          exact hadj
        have hassoc : g ++ p :: ps = g ++ [p] ++ ps := by simp
        rw [hassoc] at hsmall ⊢
        have hih := ih (c := { c with currentGroup := record (g ++ [p]) }) hps rfl hchain' hsmall
        exact ⟨hih.current, hih.single, hih.pair⟩
      | false =>
        rw [addPacket_next hp hcur hlast hlen hadj]
        have hsplit : (g ++ p :: ps).splitBy adjacent = g :: ([p] ++ ps).splitBy adjacent := by
          rw [List.splitBy_append_cons ps fun x hx => by
            rw [hlast] at hx
            cases hx
            exact hadj, List.splitBy_of_isChain hne hchain]
          rfl
        rw [hsplit] at hsmall ⊢
        have hih := ih (g := [p])
          (c := { currentGroup := record [p], prevGroup := record g, hasPrevGroup := true }) hps rfl
          (List.isChain_singleton p) fun g' hg' => hsmall g' (List.mem_cons_of_mem _ hg')
        exact hih.cons (List.splitBy_ne_nil.mpr (by simp))

end

/-! ## Runs -/

/-- A controller with the samples that it handed to the filter. -/
structure Run where
  controller : GccController
  samples : List Int
  deriving DecidableEq, Repr

def start : Run := ⟨⟨zeroedGroup, zeroedGroup, false⟩, []⟩

def handle (s : Run) (reports : List TwccPacketReport) : Run :=
  let r := gccOnTwccPacketReports s.controller reports
  ⟨r.1, s.samples ++ r.2⟩

def run (feedback : List (List TwccPacketReport)) : Run := feedback.foldl handle start

/-- The report keeps to the groups of the uncut sequence: the second group begins and ends in one
report, and after that every report with packets is one group. -/
structure Aligned (before reports : List TwccPacketReport) : Prop where
  second : kept reports ≠ [] → (groups before).length ≤ 1 →
    (groups (before ++ reports)).length ≤ 2
  later : kept reports ≠ [] → 2 ≤ (groups before).length →
    groups (before ++ reports) = groups before ++ groups reports ∧ (groups reports).length = 1
  /-- `packetCount` does not wrap. -/
  small : ∀ g ∈ groups (before ++ reports), g.length < 2 ^ 16

/-- The state between two reports. -/
structure Between (history : List TwccPacketReport) (s : Run) : Prop where
  samples : s.samples = delays (groups history)
  single : (groups history).length ≤ 1 →
    s.controller.currentGroup = record (kept history) ∧ s.controller.hasPrevGroup = false
  several : ∀ init a b, groups history = init ++ [a, b] →
    s.controller = ⟨zeroedGroup, record b, true⟩

theorem isChain_of_length_le {ps : List TwccPacketReport}
    (h : (ps.splitBy adjacent).length ≤ 1) : ps.IsChain fun p q => adjacent p q := by
  have hflat := List.flatten_splitBy adjacent ps
  match hsplit : ps.splitBy adjacent, h with
  | [], _ =>
    rw [hsplit] at hflat
    rw [← hflat]
    exact List.isChain_nil
  | [g], _ =>
    rw [hsplit] at hflat
    have heq : g = ps := by simpa using hflat
    rw [← heq]
    exact List.isChain_of_mem_splitBy (hsplit ▸ List.mem_singleton_self g)

theorem handle_eq (s : Run) (reports : List TwccPacketReport) (hne : kept reports ≠ []) :
    handle s reports =
      match gccFinalizeGroup ((kept reports).foldl addPacket s.controller) with
      | none => ⟨(kept reports).foldl addPacket s.controller, s.samples⟩
      | some (d, c) => ⟨c, s.samples ++ [d]⟩ := by
  have hreports : reports ≠ [] := by
    rintro rfl
    exact hne rfl
  rw [handle, gccOnTwccPacketReports, if_neg hreports, finalizeGroups_eq, foldl_processReport]
  cases gccFinalizeGroup ((kept reports).foldl addPacket s.controller) with
  | none => simp
  | some r => rfl

section

variable {history reports : List TwccPacketReport} {s : Run}

variable (history) in
theorem groups_append_of_kept_nil (h : kept reports = []) :
    groups (history ++ reports) = groups history := by
  rw [groups, kept_append, h, List.append_nil, groups]

theorem exists_concat_two {gs : List (List TwccPacketReport)} (h : 2 ≤ gs.length) :
    ∃ init a b, gs = init ++ [a, b] := by
  rcases List.eq_nil_or_concat gs with rfl | ⟨gs, b, rfl⟩
  · simp at h
  · rcases List.eq_nil_or_concat gs with rfl | ⟨init, a, rfl⟩
    · simp at h
    · exact ⟨init, a, b, by simp⟩

theorem Between.idle (h : Between history s) (hkept : kept reports = []) :
    Between (history ++ reports) (handle s reports) := by
  have hnone : gccFinalizeGroup s.controller = none := by
    rcases Nat.lt_or_ge (groups history).length 2 with hlen | hlen
    · exact if_pos (.inl (h.single (by omega)).2)
    · obtain ⟨init, a, b, hgroups⟩ := exists_concat_two hlen
      rw [h.several init a b hgroups]
      exact if_pos (.inr rfl)
  have hhandle : handle s reports = s := by
    rw [handle, gccOnTwccPacketReports]
    by_cases hreports : reports = []
    · rw [if_pos hreports]
      simp
    · rw [if_neg hreports, foldl_processReport, hkept, List.foldl_nil, finalizeGroups_eq, hnone]
      simp
  rw [hhandle]
  have hgroups := groups_append_of_kept_nil history hkept
  refine ⟨?_, ?_, ?_⟩
  · rw [hgroups]
    exact h.samples
  · rw [hgroups, kept_append, hkept, List.append_nil]
    exact h.single
  · rw [hgroups]
    exact h.several

theorem delay_finalize {c : GccController} {a b : List TwccPacketReport}
    (hcurrent : c.currentGroup = record b) (hprev : c.prevGroup = record a)
    (hhas : c.hasPrevGroup = true) (hne : b ≠ []) (hlen : b.length < 2 ^ 16) :
    gccFinalizeGroup c =
      some (delay (record a) (record b), ⟨zeroedGroup, record b, true⟩) := by
  have hcount := packetCount_record hne hlen
  rw [gccFinalizeGroup, hcurrent, hprev, hhas, if_neg]
  rintro (hfalse | hzero)
  · cases hfalse
  · exact hcount hzero

theorem Between.first (h : Between history s) (ha : Aligned history reports)
    (hkept : kept reports ≠ []) (hlen : (groups history).length ≤ 1) :
    Between (history ++ reports) (handle s reports) := by
  obtain ⟨hcur, hhas⟩ := h.single hlen
  have hgroups : (kept history ++ kept reports).splitBy adjacent = groups (history ++ reports) := by
    rw [groups, kept_append]
  have hsmall := ha.small
  have hholds := process_kept (kept reports) (fun p => kept_mem) hcur (isChain_of_length_le hlen)
    (by rwa [hgroups])
  rw [hgroups] at hholds
  have hsecond := ha.second hkept hlen
  have hnonempty : groups (history ++ reports) ≠ [] := by
    rw [← hgroups]
    exact List.splitBy_ne_nil.mpr (by simp [hkept])
  have hflat : (groups (history ++ reports)).flatten = kept (history ++ reports) :=
    List.flatten_splitBy ..
  have hsamples : s.samples = [] := h.samples.trans (delays_of_length_le hlen)
  rw [handle_eq s reports hkept]
  match hgs : groups (history ++ reports), hsecond with
  | [], _ => exact absurd hgs hnonempty
  | [g], _ =>
    rw [hgs] at hholds hflat
    have hg : g = kept (history ++ reports) := by simpa using hflat
    have hhas' := (hholds.single (Nat.le_refl 1)).2.trans hhas
    have hnone : gccFinalizeGroup ((kept reports).foldl addPacket s.controller) = none :=
      if_pos (.inl hhas')
    rw [hnone]
    refine ⟨?_, fun _ => ⟨hg ▸ hholds.current, hhas'⟩, fun init a b heq => ?_⟩
    · rw [hgs]
      exact hsamples
    · rw [hgs] at heq
      have := congrArg List.length heq
      simp at this
  | [a, b], _ =>
    rw [hgs] at hholds hsmall
    obtain ⟨hprev, hhas'⟩ := hholds.pair [] a b rfl
    have hb : b ≠ [] := List.ne_nil_of_mem_splitBy (r := adjacent) (l := kept (history ++ reports))
      (by
        change b ∈ groups (history ++ reports)
        rw [hgs]
        simp)
    rw [delay_finalize hholds.current hprev hhas' hb (hsmall b (by simp))]
    refine ⟨?_, fun hle => ?_, fun init a' b' heq => ?_⟩
    · rw [hgs, hsamples]
      rfl
    · rw [hgs] at hle
      simp at hle
    · rw [hgs] at heq
      have hb' : b' = b := by
        have := congrArg List.getLast? heq
        simpa using this.symm
      rw [hb']
      rfl

theorem Between.next (h : Between history s) (ha : Aligned history reports)
    (hkept : kept reports ≠ []) (hlen : 2 ≤ (groups history).length) :
    Between (history ++ reports) (handle s reports) := by
  obtain ⟨init, a, b, hhistory⟩ := exists_concat_two hlen
  obtain ⟨hgroups, hone⟩ := ha.later hkept hlen
  obtain ⟨g, hg⟩ := List.length_eq_one_iff.mp hone
  have hsmall : ∀ g' ∈ groups reports, g'.length < 2 ^ 16 := fun g' hg' =>
    ha.small g' (by rw [hgroups]; exact List.mem_append_right _ hg')
  have hcontroller := h.several init a b hhistory
  have hholds := process_kept (c := s.controller) (g := []) (kept reports) (fun p => kept_mem)
    (by rw [hcontroller]; rfl) List.isChain_nil hsmall
  change Holds s.controller _ (groups reports) at hholds
  rw [hg] at hholds hgroups hsmall
  have hprev := (hholds.single (Nat.le_refl 1)).1.trans
    (congrArg GccController.prevGroup hcontroller)
  have hhas := (hholds.single (Nat.le_refl 1)).2.trans
    (congrArg GccController.hasPrevGroup hcontroller)
  have hne : g ≠ [] := List.ne_nil_of_mem_splitBy (r := adjacent) (l := kept reports) (by
    change g ∈ groups reports
    rw [hg]
    simp)
  rw [hhistory, List.append_assoc] at hgroups
  rw [handle_eq s reports hkept, delay_finalize hholds.current hprev hhas hne (hsmall g (by simp))]
  refine ⟨?_, fun hle => ?_, fun init' a' b' heq => ?_⟩
  · have hconcat : init ++ ([a, b] ++ [g]) = (init ++ [a]) ++ [b, g] := by simp
    have hconcat' : (init ++ [a]) ++ [b] = init ++ [a, b] := by simp
    rw [hgroups, hconcat, delays_concat, hconcat', ← hhistory, ← h.samples]
    rfl
  · rw [hgroups] at hle
    simp at hle
  · rw [hgroups] at heq
    have hb' : b' = g := by
      have := congrArg List.getLast? heq
      simpa using this.symm
    rw [hb']
    rfl

theorem Between.step (h : Between history s) (ha : Aligned history reports) :
    Between (history ++ reports) (handle s reports) := by
  by_cases hkept : kept reports = []
  · exact h.idle hkept
  · rcases Nat.lt_or_ge (groups history).length 2 with hlen | hlen
    · exact h.first ha hkept (by omega)
    · exact h.next ha hkept hlen

theorem between_start : Between [] start where
  samples := rfl
  single _ := ⟨rfl, rfl⟩
  several init a b h := by simp [groups, kept] at h

end

/-- **In a run of aligned reports every pair of consecutive groups gives one sample**, in every
state reached. -/
theorem samples_of_aligned (feedback : List (List TwccPacketReport))
    (h : ∀ before reports after, feedback = before ++ reports :: after →
      Aligned before.flatten reports) :
    ∀ seen after, feedback = seen ++ after →
      (run seen).samples = delays (groups seen.flatten) := by
  intro seen
  suffices hbetween : ∀ after, feedback = seen ++ after → Between seen.flatten (run seen) from
    fun after heq => (hbetween after heq).samples
  induction seen using List.reverseRecOn with
  | nil => exact fun _ _ => between_start
  | append_singleton seen reports ih =>
    intro after heq
    rw [List.append_assoc, List.singleton_append] at heq
    have hstep := (ih (reports :: after) heq).step (h seen reports after heq)
    rw [run, List.foldl_append, List.flatten_append, List.flatten_singleton]
    exact hstep

/-- Packets in groups of their own, 10 ms apart when sent and 11 and 12 ms apart on arrival. -/
def spaced : List TwccPacketReport :=
  [⟨1, 100000, 200000, 1200, true⟩, ⟨2, 200000, 310000, 1200, true⟩,
    ⟨3, 300000, 430000, 1200, true⟩]

theorem samples_spaced :
    (run [spaced.take 1, (spaced.drop 1).take 1, spaced.drop 2]).samples =
      delays (groups spaced) := by
  refine samples_of_aligned [spaced.take 1, (spaced.drop 1).take 1, spaced.drop 2]
    (fun before reports after heq => ?_) _ [] (List.append_nil _).symm
  cases before with
  | nil =>
    obtain ⟨hreports, -⟩ := List.cons.inj heq
    rw [← hreports]
    exact ⟨by decide, by decide, by decide⟩
  | cons first before =>
    obtain ⟨hfirst, heq⟩ := List.cons.inj heq
    cases before with
    | nil =>
      obtain ⟨hreports, -⟩ := List.cons.inj heq
      rw [← hfirst, ← hreports]
      exact ⟨by decide, by decide, by decide⟩
    | cons second before =>
      obtain ⟨hsecond, heq⟩ := List.cons.inj heq
      cases before with
      | nil =>
        -- two groups are there, so the third report must be one new group
        obtain ⟨hreports, -⟩ := List.cons.inj heq
        rw [← hfirst, ← hsecond, ← hreports]
        exact ⟨by decide, by decide, by decide⟩
      | cons third before =>
        have := congrArg List.length heq
        simp at this

/-- Three groups in one report: the first delay is never handed to the filter. -/
theorem three_groups_one_sample :
    ¬((run [spaced]).samples = delays (groups spaced) ∨
      (run [spaced]).samples = (delays (groups spaced)).dropLast) := by
  have hrun : (run [spaced]).samples = [20000] := by
    rw [run, List.foldl_cons, List.foldl_nil, handle_eq _ _ (by decide)]
    decide
  rw [hrun]
  decide

end KvsWebrtc.Gcc
