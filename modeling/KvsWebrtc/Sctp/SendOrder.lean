import KvsWebrtc.Sctp.Accounting
import KvsWebrtc.Sctp.DataRun
import KvsWebrtc.Sctp.Transmission

/-!
# The order in which messages are sent

A message is transmitted at once or waits in `pendingQueue`, which is filled at its first free slot
and drained from slot 0.  For each stream the messages transmitted so far, followed by those pending
in slot order, form a log; `Ordered` says that this log has only grown at its end, and that the SSNs
on it count up.

Principal result: `send_order` — in every run whose sends come in turn (`InTurn`), messages of a
stream are transmitted in the order in which they were submitted.
-/

namespace KvsWebrtc.Sctp

/-! ## What is transmitted and what waits -/

/-- The slice, when the packet is the first one of a message. -/
def Origin.first? : Origin → Option Slice
  | transmission sl => if sl.offset = 0 then some sl else none
  | _ => none

def SctpQueueSlot.on (s : UINT16) (q : SctpQueueSlot) : Option SctpMessage :=
  if q.inUse ∧ q.msg.streamId = s then some q.msg else none

/-- The part of a host that decides about the order of messages. -/
structure OrderSide where
  state : SctpAssocState
  t1InitExpiry : UINT64
  pendingQueue : SlotTable SctpQueueSlot SCTP_MAX_PENDING_SENDS
  nextSsn : SlotTable UINT16 SCTP_MAX_STREAMS
  firsts : List Slice

def Host.orderSide (h : Host) : OrderSide where
  state := h.assoc.state
  t1InitExpiry := h.assoc.t1InitExpiry
  pendingQueue := h.assoc.pendingQueue
  nextSsn := h.assoc.nextSsn
  firsts := h.outbound.filterMap (·.origin.first?)

/-- The messages on stream `s` that were transmitted, each by its first slice. -/
def OrderSide.firstsOn (o : OrderSide) (s : UINT16) : List Slice :=
  o.firsts.filter (·.msg.streamId = s)

/-- The messages on stream `s` that wait, in slot order. -/
def OrderSide.pendingOn (o : OrderSide) (s : UINT16) : List SctpMessage :=
  o.pendingQueue.entries (·.on s)

/-- The SSN of the next ordered message on stream `s`. -/
def OrderSide.ssnOn (o : OrderSide) (s : UINT16) : UINT16 :=
  if hs : s.toNat < SCTP_MAX_STREAMS then o.nextSsn.get ⟨s.toNat, hs⟩ else 0

/-! ## One message -/

/-- The message goes out at once: both windows are open, and a whole message finds a free slot. -/
def SendsAtOnce (h : Host) (m : SctpMessage) : Prop :=
  ¬ (h.assoc.flightSize ≥ h.assoc.cwnd ∨ h.assoc.flightSize ≥ h.assoc.peerArwnd) ∧
    (m.payload.length ≤ (maxDataPayload h).toNat →
      h.assoc.outstanding.firstFree (·.inUse) ≠ none)

/-- Where `sctpAssocSend` leaves a message on an established association. -/
inductive SendsTo (h : Host) (m : SctpMessage) : OrderSide → Prop where
  | queued (i : Fin SCTP_MAX_PENDING_SENDS) (hnot : ¬ SendsAtOnce h m)
      (hfree : h.assoc.pendingQueue.firstFree (·.inUse) = some i) :
    SendsTo h m { h.orderSide with pendingQueue := h.assoc.pendingQueue.set i ⟨m, true⟩ }
  | dropped (hnot : ¬ SendsAtOnce h m) : SendsTo h m h.orderSide
  | sent (sl : Slice) (hat : SendsAtOnce h m) (hmsg : sl.msg = m)
      (hssn : sl.ssn = assignedSsn h m) :
    SendsTo h m { h.orderSide with
      nextSsn := (addNextSsn h m 1).assoc.nextSsn
      firsts := h.orderSide.firsts ++ [sl] }
  | burned (hat : SendsAtOnce h m) (hfull : h.assoc.outstanding.firstFree (·.inUse) = none) :
    SendsTo h m { h.orderSide with nextSsn := (addNextSsn h m 1).assoc.nextSsn }

section

variable {h : Host} {m : SctpMessage}

theorem firsts_concat (out : List OutPacket) (p : OutPacket) :
    (out ++ [p]).filterMap (·.origin.first?) =
      out.filterMap (·.origin.first?) ++ p.origin.first?.toList := by
  rw [List.filterMap_append]
  cases hp : p.origin.first? with
  | none => simp [List.filterMap, hp]
  | some sl => simp [List.filterMap, hp]

theorem startT3_orderSide (h : Host) (nowMs : UINT64) :
    (startT3 h nowMs).orderSide = h.orderSide := by
  unfold startT3
  split <;> rfl

theorem queuePending_sendsTo (hst : ¬ SendsAtOnce h m) {h' : Host}
    (hside : h'.orderSide = h.orderSide) : SendsTo h m (queuePending h' m).orderSide := by
  have hq : h'.assoc.pendingQueue = h.assoc.pendingQueue := congrArg OrderSide.pendingQueue hside
  unfold queuePending
  rw [hq]
  split
  · split
    · rw [hside]
      exact .dropped hst
    · rename_i i hfree
      have heq : ({ h' with
          assoc.pendingQueue := h.assoc.pendingQueue.set i ⟨m, true⟩
          assoc.pendingQueueCount := h'.assoc.pendingQueueCount + 1 } : Host).orderSide =
          { h.orderSide with pendingQueue := h.assoc.pendingQueue.set i ⟨m, true⟩ } := by
        rw [← hside]
        rfl
      rw [heq]
      exact .queued i hst hfree
  · rw [hside]
    exact .dropped hst

theorem sendFragments_orderSide {ssn : UINT16} {nowMs : UINT64} :
    ∀ (fuel : Nat) {h : Host} {offset : Nat} {isFirst : Bool}, 0 < offset →
      (sendFragments fuel h m ssn nowMs offset isFirst).orderSide = h.orderSide
  | 0, _, _, _, _ => rfl
  | fuel + 1, h, offset, isFirst, hpos => by
    unfold sendFragments
    split
    · exact startT3_orderSide h nowMs
    · split
      · rfl
      · rename_i i _
        have hone : (sendFragment h i m ssn nowMs offset isFirst).orderSide = h.orderSide := by
          have hfirsts : (sendFragment h i m ssn nowMs offset isFirst).outbound.filterMap
              (·.origin.first?) = h.outbound.filterMap (·.origin.first?) := by
            refine (firsts_concat h.outbound _).trans ?_
            rw [show Origin.first? (.transmission
              ⟨m, h.tsnsUsed, ssn, offset, fragmentLen h m offset⟩) = none from
                if_neg (show ¬ offset = 0 by omega)]
            exact List.append_nil _
          show OrderSide.mk _ _ _ _ _ = OrderSide.mk _ _ _ _ _
          rw [hfirsts]
          rfl
        rw [sendFragments_orderSide fuel (by omega), hone]

theorem sent_orderSide {h' : Host} {sl : Slice} {p : OutPacket} (hp : p.origin = .transmission sl)
    (h0 : sl.offset = 0) (hout : h'.outbound = h.outbound ++ [p])
    (hrest : { h'.orderSide with firsts := [] } = { h.orderSide with firsts := [] }) :
    h'.orderSide = { h.orderSide with firsts := h.orderSide.firsts ++ [sl] } := by
  have hfirsts : h'.orderSide.firsts = h.orderSide.firsts ++ [sl] := by
    show h'.outbound.filterMap (·.origin.first?) = _
    rw [hout, firsts_concat, hp]
    show h.orderSide.firsts ++ (if sl.offset = 0 then some sl else none).toList = _
    rw [if_pos h0]
    rfl
  rw [← hfirsts]
  exact congrArg (fun o : OrderSide => { o with firsts := h'.orderSide.firsts }) hrest

theorem sendWhole_orderSide (h : Host) (i : Fin SCTP_MAX_OUTSTANDING) (m : SctpMessage)
    (ssn : UINT16) (nowMs : UINT64) : (sendWhole h i m ssn nowMs).orderSide =
      { h.orderSide with
        firsts := h.orderSide.firsts ++ [⟨m, h.tsnsUsed, ssn, 0, m.payload.length⟩] } := by
  unfold sendWhole
  rw [startT3_orderSide]
  exact sent_orderSide (h := h) rfl rfl rfl rfl

theorem sendFragment_orderSide (h : Host) (i : Fin SCTP_MAX_OUTSTANDING) (m : SctpMessage)
    (ssn : UINT16) (nowMs : UINT64) (isFirst : Bool) :
    (sendFragment h i m ssn nowMs 0 isFirst).orderSide = { h.orderSide with
      firsts := h.orderSide.firsts ++ [⟨m, h.tsnsUsed, ssn, 0, fragmentLen h m 0⟩] } :=
  sent_orderSide (h := h) rfl rfl rfl rfl

theorem addNextSsn_frame (h : Host) (m : SctpMessage) (d : UINT16) :
    (addNextSsn h m d).orderSide =
      { h.orderSide with nextSsn := (addNextSsn h m d).assoc.nextSsn } := by
  unfold addNextSsn
  split <;> rfl

theorem addNextSsn_revert (h : Host) (m : SctpMessage) :
    (addNextSsn (addNextSsn h m 1) m (-1)).orderSide = h.orderSide := by
  have hback : (addNextSsn (addNextSsn h m 1) m (-1)).assoc.nextSsn = h.assoc.nextSsn := by
    unfold addNextSsn
    split
    · rename_i hs
      simp only [SlotTable.get_set_self, SlotTable.set_set]
      funext j
      show (SlotTable.set _ _ _).get j = h.assoc.nextSsn.get j
      rw [SlotTable.get_set]
      split
      · rename_i hj
        rw [hj, BitVec.add_assoc, show (1 : UINT16) + -1 = 0 by decide]
        exact BitVec.add_zero _
      · rfl
    · rfl
  rw [addNextSsn_frame, hback, addNextSsn_frame]
  rfl

theorem SendsTo.pendingQueue_of_atOnce {o : OrderSide} (hto : SendsTo h m o)
    (hat : SendsAtOnce h m) : o.pendingQueue = h.assoc.pendingQueue := by
  cases hto with
  | queued _ hnot _ => exact absurd hat hnot
  | dropped hnot => exact absurd hat hnot
  | sent => rfl
  | burned => rfl

/-- **What `sctpAssocSend` does** on an established association. -/
theorem sctpAssocSend_sendsTo (hst : h.assoc.state = .ESTABLISHED) (hmtu : 29 ≤ h.assoc.mtu.toNat) :
    SendsTo h m (sctpAssocSend h m).orderSide := by
  have hone : ∀ t : Host, t.assoc.mtu = h.assoc.mtu →
      (maxDataPayload t).toNat = h.assoc.mtu.toNat - 28 := by
    intro t ht
    rw [maxDataPayload_toNat (by rw [ht]; omega), ht]
  have hside : (addNextSsn h.tick m 1).sendSide = h.sendSide := addNextSsn_sendSide h.tick m 1
  have hmtu1 : (addNextSsn h.tick m 1).assoc.mtu = h.assoc.mtu := congrArg SendSide.mtu hside
  have hout1 : (addNextSsn h.tick m 1).assoc.outstanding = h.assoc.outstanding :=
    congrArg SendSide.outstanding hside
  have hsent1 : (addNextSsn h.tick m 1).outbound = h.outbound := congrArg SendSide.outbound hside
  have hframe := addNextSsn_frame h.tick m 1
  have hnext : (addNextSsn h m 1).assoc.nextSsn = (addNextSsn h.tick m 1).assoc.nextSsn := by
    unfold addNextSsn
    split <;> rfl
  unfold sctpAssocSend
  simp only
  rw [if_neg (fun hne => hne hst)]
  split
  · rename_i hwin
    exact queuePending_sendsTo (h := h) (fun hat => hat.1 hwin) rfl
  · rename_i hwin
    have hwin' : ¬ (h.assoc.flightSize ≥ h.assoc.cwnd ∨ h.assoc.flightSize ≥ h.assoc.peerArwnd) :=
      hwin
    rw [hone _ hmtu1, hout1]
    split
    · rename_i hfit
      split
      · rename_i hfull
        refine queuePending_sendsTo (h := h) (fun hat => ?_) (addNextSsn_revert h.tick m)
        exact hat.2 (by rw [hone h rfl]; exact hfit) hfull
      · rename_i i hfree
        rw [sendWhole_orderSide, hframe, ← hnext]
        exact .sent _ ⟨hwin', fun _ => by rw [hfree]; exact Option.some_ne_none i⟩ rfl rfl
    · rename_i hbig
      have hat : SendsAtOnce h m := ⟨hwin', fun hfit => absurd (hone h rfl ▸ hfit) hbig⟩
      unfold sendFragments
      rw [if_neg (by omega)]
      split
      · rename_i hfull
        rw [show (takeTsn (addNextSsn h.tick m 1)).orderSide = (addNextSsn h.tick m 1).orderSide
          from rfl, hframe, ← hnext]
        exact .burned hat (hout1 ▸ hfull)
      · rename_i i hfree
        have hlen : 0 < 0 + fragmentLen (addNextSsn h.tick m 1) m 0 := by
          rw [fragmentLen_eq (by rw [hmtu1]; exact hmtu), hmtu1]
          omega
        rw [sendFragments_orderSide _ hlen, sendFragment_orderSide, hframe, ← hnext]
        exact .sent _ hat rfl rfl

end

/-! ## The log of a stream -/

def SctpMessage.ordered (m : SctpMessage) : Bool := !m.unordered

/-- `new` were transmitted and `pend` wait, where `pend0` waited before and `sub` were submitted
since: the log of the stream has only grown at its end, by submitted messages in their order. -/
def LogOk (pend0 sub : List SctpMessage) (new : List Slice) (pend : List SctpMessage) : Prop :=
  ∃ acc, acc.Sublist sub ∧ new.map Slice.msg ++ pend = pend0 ++ acc

/-- The SSNs of the ordered messages in `new` count up from `ssn0`: `used` of them were taken, not
more than there were ordered messages. -/
def SsnOk (pend0 : List SctpMessage) (ssn0 : UINT16) (sub : List SctpMessage) (new : List Slice)
    (pend : List SctpMessage) (ssn : UINT16) : Prop :=
  ∃ (used : Nat) (ns : List Nat), ssn = ssn0 + BitVec.ofNat 16 used ∧ ns.Pairwise (· < ·) ∧
    (∀ n ∈ ns, n < used) ∧
    (new.filter (·.msg.ordered)).map Slice.ssn = ns.map (fun n => ssn0 + BitVec.ofNat 16 n) ∧
    used + pend.countP SctpMessage.ordered ≤ (pend0 ++ sub).countP SctpMessage.ordered

section

variable {pend0 sub pend : List SctpMessage} {new : List Slice} {m : SctpMessage} {sl : Slice}
  {ssn0 ssn : UINT16}

theorem LogOk.submit (h : LogOk pend0 sub new pend) (m : SctpMessage) :
    LogOk pend0 (sub ++ [m]) new (pend ++ [m]) := by
  obtain ⟨acc, hsub, heq⟩ := h
  refine ⟨acc ++ [m], hsub.append (List.Sublist.refl _), ?_⟩
  rw [← List.append_assoc, heq, List.append_assoc]

theorem LogOk.skip (h : LogOk pend0 sub new pend) (m : SctpMessage) :
    LogOk pend0 (sub ++ [m]) new pend := by
  obtain ⟨acc, hsub, heq⟩ := h
  exact ⟨acc, hsub.trans (List.sublist_append_left _ _), heq⟩

theorem LogOk.transmit (h : LogOk pend0 sub new (sl.msg :: pend)) :
    LogOk pend0 sub (new ++ [sl]) pend := by
  obtain ⟨acc, hsub, heq⟩ := h
  refine ⟨acc, hsub, ?_⟩
  rw [List.map_append, List.map_singleton, List.append_assoc]
  exact heq

/-- The next SSN after `m` was given one. -/
def ssnAfter (ssn : UINT16) (m : SctpMessage) : UINT16 := if m.ordered then ssn + 1 else ssn

theorem SsnOk.submit (h : SsnOk pend0 ssn0 sub new pend ssn) (m : SctpMessage) :
    SsnOk pend0 ssn0 (sub ++ [m]) new (pend ++ [m]) ssn := by
  obtain ⟨used, ns, hssn, hpair, hlt, hmap, hcount⟩ := h
  refine ⟨used, ns, hssn, hpair, hlt, hmap, ?_⟩
  rw [← List.append_assoc, List.countP_append, List.countP_append]
  omega

theorem SsnOk.skip (h : SsnOk pend0 ssn0 sub new pend ssn) (m : SctpMessage) :
    SsnOk pend0 ssn0 (sub ++ [m]) new pend ssn := by
  obtain ⟨used, ns, hssn, hpair, hlt, hmap, hcount⟩ := h
  refine ⟨used, ns, hssn, hpair, hlt, hmap, ?_⟩
  rw [← List.append_assoc, List.countP_append]
  omega

theorem ssn_succ (ssn0 : UINT16) (used : Nat) :
    ssn0 + BitVec.ofNat 16 used + 1 = ssn0 + BitVec.ofNat 16 (used + 1) := by
  rw [BitVec.add_assoc, BitVec.ofNat_add]
  rfl

theorem SsnOk.burn (h : SsnOk pend0 ssn0 sub new pend ssn) (m : SctpMessage) :
    SsnOk pend0 ssn0 (sub ++ [m]) new pend (ssnAfter ssn m) := by
  unfold ssnAfter
  split
  · rename_i hord
    obtain ⟨used, ns, hssn, hpair, hlt, hmap, hcount⟩ := h
    refine ⟨used + 1, ns, ?_, hpair, fun n hn => Nat.lt_succ_of_lt (hlt n hn), hmap, ?_⟩
    · rw [hssn, ssn_succ]
    · rw [← List.append_assoc, List.countP_append, List.countP_singleton, if_pos hord]
      omega
  · exact h.skip m

theorem SsnOk.transmit (h : SsnOk pend0 ssn0 sub new (sl.msg :: pend) ssn)
    (hssn' : sl.msg.ordered = true → sl.ssn = ssn) :
    SsnOk pend0 ssn0 sub (new ++ [sl]) pend (ssnAfter ssn sl.msg) := by
  obtain ⟨used, ns, hssn, hpair, hlt, hmap, hcount⟩ := h
  unfold ssnAfter
  rw [List.countP_cons] at hcount
  split
  · rename_i hord
    rw [if_pos hord] at hcount
    refine ⟨used + 1, ns ++ [used], ?_, ?_, ?_, ?_, by omega⟩
    · rw [hssn, ssn_succ]
    · rw [List.pairwise_append]
      refine ⟨hpair, List.pairwise_singleton _ _, fun n hn k hk => ?_⟩
      rw [List.mem_singleton.mp hk]
      exact hlt n hn
    · intro n hn
      rcases List.mem_append.mp hn with hn | hn
      · exact Nat.lt_succ_of_lt (hlt n hn)
      · rw [List.mem_singleton.mp hn]
        exact Nat.lt_succ_self used
    · rw [List.filter_append, List.map_append, List.map_append, hmap,
        List.filter_cons_of_pos (p := fun sl : Slice => sl.msg.ordered) hord, List.filter_nil,
        List.map_singleton, List.map_singleton, hssn' hord, hssn]
  · rename_i hord
    rw [if_neg hord] at hcount
    refine ⟨used, ns, hssn, hpair, hlt, ?_, by omega⟩
    rw [List.filter_append, List.filter_cons_of_neg (p := fun sl : Slice => sl.msg.ordered) hord,
      List.filter_nil, List.append_nil, hmap]

end

/-! ## One stream of a host -/

/-- The order on stream `s` since `o0`, after `sub` were submitted on it. -/
def StreamOk (s : UINT16) (o0 : OrderSide) (sub : List SctpMessage) (o : OrderSide) : Prop :=
  ∃ new, o.firstsOn s = o0.firstsOn s ++ new ∧ LogOk (o0.pendingOn s) sub new (o.pendingOn s) ∧
    (s.toNat < SCTP_MAX_STREAMS →
      SsnOk (o0.pendingOn s) (o0.ssnOn s) sub new (o.pendingOn s) (o.ssnOn s))

/-- A send comes in turn: when the message goes out at once, no message of its stream waits; when it
has to wait, it does so behind those of its stream. -/
structure InTurn (h : Host) (m : SctpMessage) : Prop where
  atOnce : SendsAtOnce h m → ∀ j, (h.assoc.pendingQueue.get j).inUse = true →
    (h.assoc.pendingQueue.get j).msg.streamId ≠ m.streamId
  waits : ¬ SendsAtOnce h m → ∀ i, h.assoc.pendingQueue.firstFree (·.inUse) = some i →
    ∀ j, (h.assoc.pendingQueue.get j).inUse = true →
      (h.assoc.pendingQueue.get j).msg.streamId = m.streamId → j < i

/-- What a step submits on stream `s`. -/
def Step.submits (s : UINT16) : Step → List SctpMessage
  | .send m => if m.streamId = s then [m] else []
  | _ => []

section

variable {s : UINT16} {o0 : OrderSide} {sub : List SctpMessage} {h : Host} {m : SctpMessage}
  {sl : Slice}

theorem SctpQueueSlot.on_eq_none {q : SctpQueueSlot} :
    q.on s = none ↔ (q.inUse = true → q.msg.streamId ≠ s) := by
  unfold SctpQueueSlot.on
  split
  · rename_i hon
    simp [hon.1, hon.2]
  · rename_i hoff
    exact ⟨fun _ hu heq => hoff ⟨hu, heq⟩, fun _ => rfl⟩

theorem SctpQueueSlot.on_used (m : SctpMessage) : (SctpQueueSlot.mk m true).on m.streamId = some m :=
  if_pos ⟨rfl, rfl⟩

theorem SctpQueueSlot.on_free (m : SctpMessage) : (SctpQueueSlot.mk m false).on s = none :=
  if_neg (fun hon => Bool.noConfusion hon.1)

theorem ssnOn_addNextSsn (h : Host) (m : SctpMessage) (hs : s.toNat < SCTP_MAX_STREAMS) :
    { h.orderSide with nextSsn := (addNextSsn h m 1).assoc.nextSsn }.ssnOn s =
      if m.streamId = s then ssnAfter (h.orderSide.ssnOn s) m else h.orderSide.ssnOn s := by
  unfold OrderSide.ssnOn
  rw [dif_pos hs, dif_pos hs]
  show (addNextSsn h m 1).assoc.nextSsn.get _ = _
  unfold addNextSsn
  split
  · rename_i hord
    have hord' : m.ordered = true := by simpa [SctpMessage.ordered] using hord.1
    show (SlotTable.set _ _ _).get _ = _
    rw [SlotTable.get_set]
    by_cases heq : m.streamId = s
    · subst heq
      rw [if_pos rfl, if_pos rfl, ssnAfter, if_pos hord']
      rfl
    · rw [if_neg (fun hi => heq (BitVec.eq_of_toNat_eq (Fin.mk.inj hi).symm)), if_neg heq]
      rfl
  · rename_i hord
    by_cases heq : m.streamId = s
    · have hno : ¬ m.ordered = true := by
        intro hyes
        refine hord ⟨?_, heq ▸ hs⟩
        simpa [SctpMessage.ordered] using hyes
      rw [if_pos heq, ssnAfter, if_neg hno]
      rfl
    · rw [if_neg heq]
      rfl

theorem assignedSsn_eq (hord : m.ordered = true) : assignedSsn h m = h.orderSide.ssnOn m.streamId := by
  have hun : ¬ m.unordered = true := by simpa [SctpMessage.ordered] using hord
  unfold assignedSsn OrderSide.ssnOn
  by_cases hs : m.streamId.toNat < SCTP_MAX_STREAMS
  · rw [dif_pos ⟨hun, hs⟩, dif_pos hs]
    rfl
  · rw [dif_neg (fun hc => hs hc.2), dif_neg hs]

theorem StreamOk.other {o : OrderSide} (hok : StreamOk s o0 sub h.orderSide) (hto : SendsTo h m o)
    (hne : m.streamId ≠ s) : StreamOk s o0 sub o := by
  obtain ⟨new, hfirsts, hlog, hssn⟩ := hok
  have hsame : s.toNat < SCTP_MAX_STREAMS → { h.orderSide with
      nextSsn := (addNextSsn h m 1).assoc.nextSsn }.ssnOn s = h.orderSide.ssnOn s := by
    intro hs
    rw [ssnOn_addNextSsn h m hs, if_neg hne]
  cases hto with
  | queued i hnot hfree =>
    have hpend : OrderSide.pendingOn { h.orderSide with
        pendingQueue := h.assoc.pendingQueue.set i ⟨m, true⟩ } s = h.orderSide.pendingOn s := by
      refine SlotTable.entries_set_of_eq ?_
      have hu := (SlotTable.firstFree_eq_some hfree).1
      rw [SctpQueueSlot.on_eq_none.mpr (fun _ => hne), SctpQueueSlot.on_eq_none.mpr]
      intro hu'
      rw [hu'] at hu
      cases hu
    refine ⟨new, hfirsts, ?_, fun hs => ?_⟩
    · rw [hpend]
      exact hlog
    · rw [hpend]
      exact hssn hs
  | dropped hnot => exact ⟨new, hfirsts, hlog, hssn⟩
  | sent sl hat hmsg hssn' =>
    refine ⟨new, ?_, hlog, fun hs => hsame hs ▸ hssn hs⟩
    rw [← hfirsts]
    show (h.orderSide.firsts ++ [sl]).filter _ = _
    rw [List.filter_append, List.filter_cons_of_neg (by simpa [hmsg] using hne), List.filter_nil,
      List.append_nil]
    rfl
  | burned hat hfull => exact ⟨new, hfirsts, hlog, fun hs => hsame hs ▸ hssn hs⟩

theorem StreamOk.transmit {o : OrderSide} (hmsg : sl.msg = m) (hssn' : sl.ssn = assignedSsn h m)
    (hok : ∃ new, o.firstsOn m.streamId = o0.firstsOn m.streamId ++ new ∧
      LogOk (o0.pendingOn m.streamId) sub new (m :: h.orderSide.pendingOn m.streamId) ∧
      (m.streamId.toNat < SCTP_MAX_STREAMS → SsnOk (o0.pendingOn m.streamId) (o0.ssnOn m.streamId)
        sub new (m :: h.orderSide.pendingOn m.streamId) (o.ssnOn m.streamId)))
    (hfirsts : o.firsts = h.orderSide.firsts) (hnext : o.nextSsn = h.orderSide.nextSsn) :
    StreamOk m.streamId o0 sub { h.orderSide with
      nextSsn := (addNextSsn h m 1).assoc.nextSsn
      firsts := h.orderSide.firsts ++ [sl] } := by
  obtain ⟨new, hnew, hlog, hssn⟩ := hok
  have hon : h.orderSide.firstsOn m.streamId = o.firstsOn m.streamId :=
    congrArg (List.filter _) hfirsts.symm
  have hssnOn : h.orderSide.ssnOn m.streamId = o.ssnOn m.streamId := by
    unfold OrderSide.ssnOn
    rw [hnext]
  subst hmsg
  refine ⟨new ++ [sl], ?_, hlog.transmit, fun hs => ?_⟩
  · rw [← List.append_assoc, ← hnew, ← hon]
    show (h.orderSide.firsts ++ [sl]).filter _ = _
    rw [List.filter_append, List.filter_cons_of_pos (by simp), List.filter_nil]
    rfl
  · have hafter := ssnOn_addNextSsn h sl.msg hs
    rw [if_pos rfl] at hafter
    show SsnOk _ _ _ _ _ ({ h.orderSide with
      nextSsn := (addNextSsn h sl.msg 1).assoc.nextSsn }.ssnOn sl.msg.streamId)
    rw [hafter, hssnOn]
    refine (hssn hs).transmit (fun hord => ?_)
    rw [hssn', assignedSsn_eq hord, hssnOn]

theorem StreamOk.send {o : OrderSide} (hok : StreamOk s o0 sub h.orderSide) (hto : SendsTo h m o)
    (hturn : InTurn h m) : StreamOk s o0 (sub ++ Step.submits s (.send m)) o := by
  show StreamOk s o0 (sub ++ if m.streamId = s then [m] else []) o
  by_cases hs : m.streamId = s
  · subst hs
    rw [if_pos rfl]
    obtain ⟨new, hfirsts, hlog, hssn⟩ := hok
    have hnil : SendsAtOnce h m → h.orderSide.pendingOn m.streamId = [] := fun hat =>
      SlotTable.entries_eq_nil.mpr fun j => SctpQueueSlot.on_eq_none.mpr (hturn.atOnce hat j)
    cases hto with
    | queued i hnot hfree =>
      have hpend : OrderSide.pendingOn { h.orderSide with
          pendingQueue := h.assoc.pendingQueue.set i ⟨m, true⟩ } m.streamId =
          h.orderSide.pendingOn m.streamId ++ [m] := by
        refine SlotTable.entries_fill ?_ (SctpQueueSlot.on_used m) (fun j hj => ?_)
        · have hu := (SlotTable.firstFree_eq_some hfree).1
          refine SctpQueueSlot.on_eq_none.mpr fun hu' => ?_
          rw [hu'] at hu
          cases hu
        · refine SctpQueueSlot.on_eq_none.mpr fun hu heq => ?_
          exact absurd (hturn.waits hnot i hfree j hu heq) (not_lt_of_gt hj)
      refine ⟨new, hfirsts, ?_, fun hs => ?_⟩
      · rw [hpend]
        exact hlog.submit m
      · rw [hpend]
        exact (hssn hs).submit m
    | dropped hnot => exact ⟨new, hfirsts, hlog.skip m, fun hs => (hssn hs).skip m⟩
    | sent sl hat hmsg hssn' =>
      have hlog' := hlog.submit m
      have hssn'' := fun hs => (hssn hs).submit m
      rw [hnil hat] at hlog' hssn''
      refine StreamOk.transmit (o := h.orderSide) hmsg hssn' ⟨new, hfirsts, ?_, fun hs => ?_⟩ rfl rfl
      · rw [hnil hat]
        exact hlog'
      · rw [hnil hat]
        exact hssn'' hs
    | burned hat hfull =>
      refine ⟨new, hfirsts, hlog.skip m, fun hs => ?_⟩
      have hafter := ssnOn_addNextSsn h m hs
      rw [if_pos rfl] at hafter
      rw [hafter]
      exact (hssn hs).burn m
  · rw [if_neg hs, List.append_nil]
    exact hok.other hto hs

end

/-! ## The steps -/

/-- An established sender whose streams have kept their order since `o0`. -/
structure KeepsOrder (s : UINT16) (tsn0 : UINT32) (o0 : OrderSide) (sub : List SctpMessage)
    (h : Host) : Prop where
  order : StreamOk s o0 sub h.orderSide
  state : h.assoc.state = .ESTABLISHED
  t1 : h.assoc.t1InitExpiry = 0
  ready : Ready (fun _ => True) h.sendSide
  accounting : Accounting h.sendSide
  sent : SentLog (fun _ => True) tsn0 h.sendSide

section

variable {s : UINT16} {tsn0 : UINT32} {o0 : OrderSide} {sub : List SctpMessage} {h h' : Host}

theorem KeepsOrder.of_orderSide (ho : KeepsOrder s tsn0 o0 sub h) (hside : h'.orderSide = h.orderSide)
    (hacts : SendActs (fun _ => True) (fun _ => True) h.sendSide h'.sendSide) :
    KeepsOrder s tsn0 o0 sub h' :=
  ⟨hside ▸ ho.order, (congrArg OrderSide.state hside).trans ho.state,
    (congrArg OrderSide.t1InitExpiry hside).trans ho.t1, hacts.ready ho.ready,
    hacts.accounting ho.accounting, hacts.sentLog ho.sent⟩

theorem firstFree_of_count
    (hw : h.assoc.outstanding.Weighs SctpOutstandingData.weight h.assoc.outstandingCount)
    (hcount : ¬ h.assoc.outstandingCount.toNat ≥ SCTP_MAX_OUTSTANDING) :
    h.assoc.outstanding.firstFree (·.inUse) ≠ none := by
  intro hnone
  refine hcount ?_
  have hall : ∀ i, (h.assoc.outstanding.get i).inUse = true := fun i =>
    SlotTable.firstFree_eq_none hnone i
  have hslots : h.assoc.outstandingCount.toNat = slotsInUse (·.inUse) h.assoc.outstanding :=
    Weighs.slotsInUse hw
  rw [hslots]
  unfold slotsInUse
  rw [Finset.filter_true_of_mem (fun i _ => hall i), Finset.card_univ, Fintype.card_fin]

theorem sctpAssocSend_frame (hst : h.assoc.state = .ESTABLISHED) {m : SctpMessage} {o : OrderSide}
    (hto : SendsTo h m o) : o.state = .ESTABLISHED ∧ o.t1InitExpiry = h.assoc.t1InitExpiry := by
  cases hto <;> exact ⟨hst, rfl⟩

theorem StreamOk.drain {i : Fin SCTP_MAX_PENDING_SENDS} {sl : Slice}
    (hok : StreamOk s o0 sub h.orderSide) (hused : (h.assoc.pendingQueue.get i).inUse = true)
    (hlow : ∀ j < i, (h.assoc.pendingQueue.get j).inUse = false)
    (hat : SendsAtOnce (evictPending h i) (h.assoc.pendingQueue.get i).msg)
    (hmsg : sl.msg = (h.assoc.pendingQueue.get i).msg)
    (hssn : sl.ssn = assignedSsn (evictPending h i) (h.assoc.pendingQueue.get i).msg) :
    StreamOk s o0 sub { (evictPending h i).orderSide with
      nextSsn := (addNextSsn (evictPending h i) (h.assoc.pendingQueue.get i).msg 1).assoc.nextSsn
      firsts := (evictPending h i).orderSide.firsts ++ [sl] } := by
  have hslot : h.assoc.pendingQueue.get i = ⟨(h.assoc.pendingQueue.get i).msg, true⟩ := by
    rw [← hused]
  obtain ⟨new, hfirsts, hlog, hssns⟩ := hok
  by_cases hs : (h.assoc.pendingQueue.get i).msg.streamId = s
  · subst hs
    have hpend : h.orderSide.pendingOn (h.assoc.pendingQueue.get i).msg.streamId =
        (h.assoc.pendingQueue.get i).msg ::
          (evictPending h i).orderSide.pendingOn (h.assoc.pendingQueue.get i).msg.streamId := by
      refine SlotTable.entries_empty ?_ (SctpQueueSlot.on_free _) (fun j hj => ?_)
      · show (h.assoc.pendingQueue.get i).on _ = _
        conv_lhs => rw [hslot]
        exact SctpQueueSlot.on_used _
      · refine SctpQueueSlot.on_eq_none.mpr fun hu => ?_
        exact absurd (hu.symm.trans (hlow j hj)) (by decide)
    rw [hpend] at hlog hssns
    exact StreamOk.transmit (o := h.orderSide) hmsg hssn ⟨new, hfirsts, hlog, hssns⟩ rfl rfl
  · have hpend : (evictPending h i).orderSide.pendingOn s = h.orderSide.pendingOn s := by
      refine SlotTable.entries_set_of_eq ?_
      exact (SctpQueueSlot.on_free _).trans (SctpQueueSlot.on_eq_none.mpr (fun _ => hs)).symm
    have hok1 : StreamOk s o0 sub (evictPending h i).orderSide := by
      refine ⟨new, hfirsts, ?_, fun hlt => ?_⟩
      · rw [hpend]
        exact hlog
      · rw [hpend]
        exact hssns hlt
    exact hok1.other (.sent sl hat hmsg hssn) hs

theorem KeepsOrder.drainSlot (ho : KeepsOrder s tsn0 o0 sub h) (i : Fin SCTP_MAX_PENDING_SENDS)
    (hlow : ∀ j < i, (h.assoc.pendingQueue.get j).inUse = false) :
    KeepsOrder s tsn0 o0 sub (drainSlot h i).1 ∧ ((drainSlot h i).2 = false →
      ∀ j ≤ i, ((drainSlot h i).1.assoc.pendingQueue.get j).inUse = false) := by
  have hacts := drainSlot_acts (A := fun _ => True) ho.ready i
  unfold Sctp.drainSlot at hacts ⊢
  split
  · rename_i hfree
    refine ⟨ho, fun _ j hj => ?_⟩
    rcases lt_or_eq_of_le hj with hj | rfl
    · exact hlow j hj
    · simpa using hfree
  · rename_i hused
    rw [if_neg hused] at hacts
    rw [not_not] at hused
    split
    · exact ⟨ho, fun hno => by cases hno⟩
    · rename_i hopen
      rw [if_neg hopen] at hacts
      have hfree : (evictPending h i).assoc.outstanding.firstFree (·.inUse) ≠ none :=
        firstFree_of_count (h := h) ho.accounting.outstandingCount (fun hc => hopen (.inr (.inr hc)))
      have hat : SendsAtOnce (evictPending h i) (h.assoc.pendingQueue.get i).msg :=
        ⟨fun hc => hopen (hc.imp_right .inl), fun _ => hfree⟩
      have hto := sctpAssocSend_sendsTo (h := evictPending h i)
        (m := (h.assoc.pendingQueue.get i).msg) ho.state ho.ready.mtu
      generalize hside : (sctpAssocSend (evictPending h i)
        (h.assoc.pendingQueue.get i).msg).orderSide = o at hto
      obtain ⟨host, hot1⟩ := sctpAssocSend_frame (h := evictPending h i) ho.state hto
      have hsent : StreamOk s o0 sub o ∧ o.pendingQueue = (evictPending h i).assoc.pendingQueue := by
        cases hto with
        | queued k hnot _ => exact absurd hat hnot
        | dropped hnot => exact absurd hat hnot
        | sent sl _ hmsg hssn => exact ⟨ho.order.drain hused hlow hat hmsg hssn, rfl⟩
        | burned _ hfull => exact absurd hfull hfree
      refine ⟨⟨hside ▸ hsent.1, (congrArg OrderSide.state hside).trans host,
        (congrArg OrderSide.t1InitExpiry hside).trans (hot1.trans ho.t1), hacts.ready ho.ready,
        hacts.accounting ho.accounting, hacts.sentLog ho.sent⟩, fun _ j hj => ?_⟩
      have hq : (sctpAssocSend (evictPending h i)
          (h.assoc.pendingQueue.get i).msg).assoc.pendingQueue =
          (evictPending h i).assoc.pendingQueue :=
        (congrArg OrderSide.pendingQueue hside).trans hsent.2
      rw [hq]
      show ((h.assoc.pendingQueue.set i ⟨_, false⟩).get j).inUse = false
      rw [SlotTable.get_set]
      rcases lt_or_eq_of_le hj with hj | rfl
      · rw [if_neg hj.ne]
        exact hlow j hj
      · rw [if_pos rfl]

theorem KeepsOrder.drain (ho : KeepsOrder s tsn0 o0 sub h) :
    KeepsOrder s tsn0 o0 sub (sctpDrainPendingQueue h) := by
  have hloop := SlotTable.forSlots_rec (n := SCTP_MAX_PENDING_SENDS)
    (P := fun k (p : Host × Bool) => KeepsOrder s tsn0 o0 sub p.1 ∧
      (p.2 = false → ∀ j : Fin SCTP_MAX_PENDING_SENDS, j.val < k →
        (p.1.assoc.pendingQueue.get j).inUse = false))
    (f := fun p i => if p.2 then p else Sctp.drainSlot p.1 i) (s := (h, false))
    ⟨ho, fun _ j hj => absurd hj (Nat.not_lt_zero _)⟩ (fun i p hp => ?_)
  · exact hloop.1
  · by_cases hbreak : p.2 = true
    · rw [if_pos hbreak]
      exact ⟨hp.1, fun hno => absurd (hno.symm.trans hbreak) (by decide)⟩
    · rw [if_neg hbreak]
      rw [Bool.not_eq_true] at hbreak
      obtain ⟨h1, h2⟩ := hp.1.drainSlot i (fun j hj => hp.2 hbreak j hj)
      exact ⟨h1, fun hno j hj => h2 hno j (Nat.le_of_lt_succ hj)⟩

theorem sackLoops_orderSide (h : Host) (pValue : Bytes) :
    (sackLoops h pValue).1.orderSide = h.orderSide :=
  sackLoops_invariant (P := fun h' => h'.orderSide = h.orderSide) (fun _ _ _ hp => hp) pValue rfl

theorem sackGrow_orderSide (h : Host) (n : UINT32) : (sackGrow h n).orderSide = h.orderSide := by
  unfold sackGrow
  simp only
  split <;> rfl

theorem KeepsOrder.sack (ho : KeepsOrder s tsn0 o0 sub h) (pValue : Bytes) :
    KeepsOrder s tsn0 o0 sub (sctpHandleSack h pValue) := by
  refine sctpHandleSack_keeps
    (fun ho => ho.of_orderSide (sackLoops_orderSide _ pValue) (sackLoops_acts _ pValue))
    (fun _ _ ho => ho.of_orderSide rfl .refl) (fun n ho => ?_) (fun ho => ho.drain) ho
  exact ho.of_orderSide (sackGrow_orderSide _ n) (by rw [sackGrow_sendSide])

theorem t3_orderSide (h : Host) (nowMs : UINT64) : (checkT3 h nowMs).orderSide = h.orderSide := by
  have hpacket : ∀ (h : Host) (vtag : UINT32) (w : Written) (o : Origin), o.first? = none →
      (sendChunk h vtag w o).orderSide = h.orderSide := by
    intro h vtag w o hno
    have hfirsts : (sendChunk h vtag w o).outbound.filterMap (·.origin.first?) =
        h.outbound.filterMap (·.origin.first?) := by
      refine (firsts_concat h.outbound _).trans ?_
      rw [hno]
      exact List.append_nil _
    show OrderSide.mk _ _ _ _ _ = OrderSide.mk _ _ _ _ _
    rw [hfirsts]
    rfl
  exact T3Keeps.checkT3 (P := fun h' => h'.orderSide = h.orderSide)
    ⟨fun _ _ => id, fun _ => id, fun _ _ _ _ _ _ => (hpacket _ _ _ _ rfl).trans,
      fun _ => (hpacket _ _ _ _ rfl).trans, fun _ => id⟩ nowMs rfl rfl

/-- A send, a SACK or a timer tick. -/
def Step.sends : Step → Prop
  | .send _ => True
  | .chunk _ c => c.type = SCTP_CHUNK_SACK
  | .checkTimers _ => True
  | _ => False

/-- **One step.** -/
theorem KeepsOrder.move (ho : KeepsOrder s tsn0 o0 sub h) {st : Step} (hst : st.sends)
    (hturn : ∀ m, st = .send m → InTurn h m) :
    KeepsOrder s tsn0 o0 (sub ++ st.submits s) (h.move st) := by
  cases st with
  | connect => exact hst.elim
  | shutdown => exact hst.elim
  | send m =>
    have hto := sctpAssocSend_sendsTo (m := m) ho.state ho.ready.mtu
    have hacts := sctpAssocSend_acts (S := fun _ => True) (A := fun _ => True) (m := m) trivial
      ho.ready.mtu
    obtain ⟨host, hot1⟩ := sctpAssocSend_frame ho.state hto
    exact ⟨ho.order.send hto (hturn m rfl), host, hot1.trans ho.t1, hacts.ready ho.ready,
      hacts.accounting ho.accounting, hacts.sentLog ho.sent⟩
  | chunk messageFn c =>
    show KeepsOrder s tsn0 o0 (sub ++ []) (sctpChunkDispatch messageFn h c)
    rw [List.append_nil, sctpChunkDispatch_sack hst]
    exact ho.sack c.value
  | checkTimers nowMs =>
    have h1 : checkT1 h nowMs = (h, false) := by
      unfold checkT1
      rw [if_neg (fun hc => hc.1 ho.t1)]
    show KeepsOrder s tsn0 o0 (sub ++ []) (sctpAssocCheckTimers h nowMs)
    have hacts := sctpAssocCheckTimers_acts (S := fun _ => True) (A := fun _ => True) h nowMs
      (fun _ => trivial)
    rw [List.append_nil]
    refine ho.of_orderSide ?_ hacts
    unfold sctpAssocCheckTimers
    rw [h1]
    exact t3_orderSide h nowMs

/-- Every send along the steps comes in turn. -/
def InTurns (h : Host) (steps : List Step) : Prop :=
  ∀ pre m post, steps = pre ++ .send m :: post → InTurn (h.moves pre) m

theorem KeepsOrder.moves {steps : List Step} (ho : KeepsOrder s tsn0 o0 sub h)
    (hkind : ∀ st ∈ steps, st.sends) (hturn : InTurns h steps) :
    KeepsOrder s tsn0 o0 (sub ++ steps.flatMap (Step.submits s)) (h.moves steps) := by
  induction steps generalizing h sub with
  | nil =>
    rw [List.flatMap_nil, List.append_nil]
    exact ho
  | cons st steps ih =>
    have ho1 := ho.move (hkind st List.mem_cons_self) (fun m hm => hturn [] m steps (by rw [hm]; rfl))
    have ho2 := ih ho1 (fun st' hst' => hkind st' (List.mem_cons_of_mem _ hst'))
      (fun pre m post heq => hturn (st :: pre) m post (by rw [heq]; rfl))
    rw [List.flatMap_cons, ← List.append_assoc]
    exact ho2

theorem StreamOk.refl (s : UINT16) (o : OrderSide) : StreamOk s o [] o := by
  have hlog : ∀ pend : List SctpMessage, LogOk pend [] [] pend := fun pend =>
    ⟨[], List.Sublist.refl _, (List.append_nil pend).symm⟩
  have hssn : ∀ (pend : List SctpMessage) (ssn : UINT16), SsnOk pend ssn [] [] pend ssn := by
    intro pend ssn
    refine ⟨0, [], (BitVec.add_zero ssn).symm, List.Pairwise.nil,
      fun n hn => absurd hn List.not_mem_nil, rfl, ?_⟩
    rw [List.append_nil, Nat.zero_add]
  exact ⟨[], (List.append_nil _).symm, hlog _, fun _ => hssn _ _⟩

end

/-- First transmissions carry the TSNs `tsn0`, `tsn0 + 1` and so on in the order of the packets. -/
def TsnsInOrder (tsn0 : UINT32) (out : List OutPacket) : Prop :=
  (∀ (k : Nat) (p : Bytes) (sl : Slice), out[k]? = some ⟨p, .transmission sl⟩ →
    ∃ vtag, Carries p vtag (sl.chunk (tsn0 + BitVec.ofNat 32 sl.tsnNo))) ∧
  ∀ (j k : Nat) (p q : Bytes) (sl sl' : Slice), out[j]? = some ⟨p, .transmission sl⟩ →
    out[k]? = some ⟨q, .transmission sl'⟩ → j < k → sl.tsnNo < sl'.tsnNo

/-- **Send order.**  An established association takes sends, SACKs and timer ticks, and every send
comes in turn.  Then on every stream the messages transmitted since, followed by those that still
wait, are the messages that waited before, followed by submitted ones in the order of submission;
first transmissions take TSNs in the order of the packets, and on the streams the SSN table covers,
the SSNs of the ordered messages count up. -/
theorem send_order (clock : Nat → UINT64) (localPort remotePort mtu : UINT16)
    (hm : 29 ≤ mtu.toNat) (ops : List Op) (steps : List Step)
    (hst : ((sctpAssocInit clock localPort remotePort mtu).run ops).assoc.state = .ESTABLISHED)
    (hkind : ∀ st ∈ steps, st.sends)
    (hturn : InTurns ((sctpAssocInit clock localPort remotePort mtu).run ops) steps) (s : UINT16) :
    StreamOk s ((sctpAssocInit clock localPort remotePort mtu).run ops).orderSide
        (steps.flatMap (Step.submits s))
        (((sctpAssocInit clock localPort remotePort mtu).run ops).moves steps).orderSide ∧
      TsnsInOrder (sctpGenerateTag clock)
        (((sctpAssocInit clock localPort remotePort mtu).run ops).moves steps).outbound := by
  have hready : Ready (fun _ => True)
      ((sctpAssocInit clock localPort remotePort mtu).run ops).sendSide :=
    (run_acts ops (fun _ _ => trivial) (sctpAssocInit_ready hm clock localPort remotePort)).ready
      (sctpAssocInit_ready hm clock localPort remotePort)
  have ht1 := (run_knowsPeer clock localPort remotePort mtu ops).t1 hst
  have hacc := run_accounting hm clock localPort remotePort ops
  have hsent := run_sentLog hm clock localPort remotePort ops (fun _ _ => trivial)
  generalize (sctpAssocInit clock localPort remotePort mtu).run ops = h at *
  have ho : KeepsOrder s (sctpGenerateTag clock) h.orderSide [] h :=
    ⟨.refl s _, hst, ht1, hready, hacc, hsent⟩
  have hend := ho.moves hkind hturn
  exact ⟨hend.order, fun k p sl hout => (hend.sent.transmitted k p sl hout).carries,
    hend.sent.increasing⟩

def sampleEarly : SctpMessage := ⟨0, 51, false, [1, 2, 3, 4], 0xFFFF, 0⟩

def sampleLate : SctpMessage := ⟨0, 51, false, [5, 6, 7, 8], 0xFFFF, 0⟩

theorem InTurn.of_empty {h : Host} (hempty : ∀ j, (h.assoc.pendingQueue.get j).inUse = false)
    (m : SctpMessage) : InTurn h m := by
  have hno : ∀ j, ¬ (h.assoc.pendingQueue.get j).inUse = true := by
    intro j hj
    rw [hempty j] at hj
    cases hj
  exact ⟨fun _ j hj => absurd hj (hno j), fun _ _ _ j hj => absurd hj (hno j)⟩

/-- Two messages of one stream, sent while the windows are open. -/
theorem send_order_sample :
    StreamOk 0 ((sctpAssocInit (fun _ => 7) 5000 5000 1150).run
        [.handlePacket true sampleCookieEcho]).orderSide
      ([.send sampleEarly, .send sampleLate].flatMap (Step.submits 0))
      (((sctpAssocInit (fun _ => 7) 5000 5000 1150).run [.handlePacket true sampleCookieEcho]).moves
        [.send sampleEarly, .send sampleLate]).orderSide ∧
      TsnsInOrder (sctpGenerateTag (fun _ => 7))
        (((sctpAssocInit (fun _ => 7) 5000 5000 1150).run
          [.handlePacket true sampleCookieEcho]).moves
            [.send sampleEarly, .send sampleLate]).outbound := by
  have hrun : (sctpAssocInit (fun _ => 7) 5000 5000 1150).run [.handlePacket true sampleCookieEcho] =
      sampleHost := by
    rw [run_sampleCookieEcho, Host.run_nil]
  have hempty : ∀ j, (sampleHost.assoc.pendingQueue.get j).inUse = false := fun _ => rfl
  have hkeep : (sctpAssocSend sampleHost sampleEarly).assoc.pendingQueue =
      sampleHost.assoc.pendingQueue :=
    (sctpAssocSend_sendsTo (h := sampleHost) (m := sampleEarly) (by decide +kernel)
      (by decide +kernel)).pendingQueue_of_atOnce ⟨by decide +kernel, fun _ => by decide +kernel⟩
  refine send_order (fun _ => 7) 5000 5000 1150 (by decide) [.handlePacket true sampleCookieEcho]
    [.send sampleEarly, .send sampleLate] (by decide +kernel) (by simp [Step.sends]) ?_ 0
  rw [hrun]
  intro pre m post heq
  rcases pre with _ | ⟨st, _ | ⟨st', pre⟩⟩
  · exact .of_empty hempty m
  · rw [List.cons_append, List.cons.injEq] at heq
    rw [← heq.1]
    refine .of_empty (fun j => ?_) m
    show ((sctpAssocSend sampleHost sampleEarly).assoc.pendingQueue.get j).inUse = false
    rw [hkeep]
    exact hempty j
  · have hlen := congrArg List.length heq
    simp at hlen

/-! ## A message that is overtaken -/

section

variable {h : Host} {m : SctpMessage} {pValue : Bytes} {k : Nat}

theorem sackSlot_frame {covered : UINT32 → Bool} (s : Host × UINT32)
    (i j : Fin SCTP_MAX_OUTSTANDING) (hij : i ≠ j) :
    (sackSlot covered s j).1.assoc.outstanding.get i = s.1.assoc.outstanding.get i := by
  unfold sackSlot
  simp only
  split
  · rfl
  · split
    · exact SlotTable.get_set_ne _ _ hij
    · rfl

theorem sackSlot_unused {covered : UINT32 → Bool} (s : Host × UINT32)
    (i : Fin SCTP_MAX_OUTSTANDING) (hu : (s.1.assoc.outstanding.get i).inUse = false) :
    sackSlot covered s i = s := by
  unfold sackSlot
  rw [if_pos (.inl (by rw [hu]; decide))]

theorem sackLoops_eq_upTo (hk : k ≤ SCTP_MAX_OUTSTANDING)
    (hfree : ∀ i : Fin SCTP_MAX_OUTSTANDING, k ≤ i.val → (h.assoc.outstanding.get i).inUse = false)
    (hgaps : getUnalignedInt16BigEndian pValue 8 = 0) :
    sackLoops h pValue = SlotTable.forSlotsUpTo
      (sackSlot (fun tsn => TSN_LTE tsn (getUnalignedInt32BigEndian pValue 0))) (h, 0) k hk := by
  unfold sackLoops
  rw [hgaps, if_neg (fun hc => absurd hc.1 (by decide))]
  exact SlotTable.forSlots_eq_upTo_of_free (fun s : Host × UINT32 => s.1.assoc.outstanding)
    (fun d => d.inUse = false) hk sackSlot_frame sackSlot_unused hfree

theorem sctpDrainPendingQueue_one {i : Fin SCTP_MAX_PENDING_SENDS} (hi : i.val = 0)
    (hst : h.assoc.state = .ESTABLISHED) (hmtu : 29 ≤ h.assoc.mtu.toNat)
    (hfree : ∀ i : Fin SCTP_MAX_PENDING_SENDS, 1 ≤ i.val →
      (h.assoc.pendingQueue.get i).inUse = false)
    (hused : (h.assoc.pendingQueue.get i).inUse = true)
    (hopen : ¬ (h.assoc.flightSize ≥ h.assoc.cwnd ∨ h.assoc.flightSize ≥ h.assoc.peerArwnd ∨
      h.assoc.outstandingCount.toNat ≥ SCTP_MAX_OUTSTANDING))
    (hat : SendsAtOnce (evictPending h i) (h.assoc.pendingQueue.get i).msg) :
    sctpDrainPendingQueue h = sctpAssocSend (evictPending h i) (h.assoc.pendingQueue.get i).msg := by
  have hi0 : (⟨0, by decide⟩ : Fin SCTP_MAX_PENDING_SENDS) = i := Fin.ext hi.symm
  have hone : SlotTable.forSlotsUpTo (n := SCTP_MAX_PENDING_SENDS)
      (fun p i => if p.2 then p else Sctp.drainSlot p.1 i) (h, false) 1 (by decide) =
      (sctpAssocSend (evictPending h i) (h.assoc.pendingQueue.get i).msg, false) := by
    show Sctp.drainSlot h ⟨0, _⟩ = _
    rw [hi0]
    unfold Sctp.drainSlot
    rw [if_neg (not_not.mpr hused), if_neg hopen]
  have hkeep : (sctpAssocSend (evictPending h i)
      (h.assoc.pendingQueue.get i).msg).assoc.pendingQueue = (evictPending h i).assoc.pendingQueue :=
    (sctpAssocSend_sendsTo (h := evictPending h i) hst hmtu).pendingQueue_of_atOnce hat
  unfold sctpDrainPendingQueue SlotTable.forSlotsBreak
  rw [SlotTable.forSlots_eq_upTo (k := 1) (by decide) (fun j hj => ?_), hone]
  rw [hone]
  show Sctp.drainSlot _ j = _
  unfold Sctp.drainSlot
  rw [if_pos]
  rw [hkeep]
  show ¬ ((h.assoc.pendingQueue.set i _).get j).inUse = true
  rw [SlotTable.get_set_ne _ _ (by rintro rfl; omega), hfree j hj]
  decide

/-- A new window of the peer. -/
def Host.withWindow (h : Host) (arwnd : UINT32) : Host := { h with assoc.peerArwnd := arwnd }

theorem sctpHandleSack_none {g : Host} (hlen : 12 ≤ pValue.length)
    (hs : sackLoops (h.withWindow (getUnalignedInt32BigEndian pValue 4)) pValue = (g, 0))
    (hold : ¬ TSN_GT (getUnalignedInt32BigEndian pValue 0) g.assoc.cumulativeAckTsn) :
    sctpHandleSack h pValue = g := by
  unfold sctpHandleSack
  rw [if_neg (by omega)]
  unfold Host.withWindow at hs
  simp only [hs]
  rw [if_neg (by decide), if_neg hold]

theorem sctpHandleSack_drains {g : Host} {n : UINT32} (hlen : 12 ≤ pValue.length)
    (hs : sackLoops (h.withWindow (getUnalignedInt32BigEndian pValue 4)) pValue = (g, n))
    (hn : n > 0) (hnew : TSN_GT (getUnalignedInt32BigEndian pValue 0) g.assoc.cumulativeAckTsn)
    (hwait : g.assoc.pendingQueueCount > 0) :
    sctpHandleSack h pValue = sctpDrainPendingQueue (sackGrow { g with
      assoc.cumulativeAckTsn := getUnalignedInt32BigEndian pValue 0 } n) := by
  have hcount : ∀ h' : Host, (sackGrow h' n).assoc.pendingQueueCount = h'.assoc.pendingQueueCount := by
    intro h'
    unfold sackGrow
    simp only
    split <;> rfl
  unfold sctpHandleSack
  rw [if_neg (by omega)]
  unfold Host.withWindow at hs
  simp only [hs]
  rw [if_pos hn, if_pos hnew, if_pos (by rw [hcount]; exact hwait)]

end

def sampleSack (cumTsn arwnd : UINT32) : Step :=
  .chunk true ⟨SCTP_CHUNK_SACK, 0, sackValue cumTsn arwnd []⟩

/-- The peer's window closes, a message waits, and the window opens again. -/
def sampleReopened : Host :=
  (sctpAssocSend (sampleHost.withWindow 0) sampleEarly).withWindow 1000

/-- The acknowledgement of the message that was sent meanwhile. -/
def sampleAcked : Host × UINT32 :=
  sackSlot (fun tsn => TSN_LTE tsn 7) (sctpAssocSend sampleReopened sampleLate, 0) 0

def sampleDrains : Host :=
  sackGrow { sampleAcked.1 with assoc.cumulativeAckTsn := 7 } sampleAcked.2

theorem sampleReopened_frame :
    (∀ i, (sampleReopened.assoc.outstanding.get i).inUse = false) ∧
      ∀ i : Fin SCTP_MAX_PENDING_SENDS, 1 ≤ i.val →
        (sampleReopened.assoc.pendingQueue.get i).inUse = false := by
  have hwait : sctpAssocSend (sampleHost.withWindow 0) sampleEarly =
      queuePending (sampleHost.withWindow 0).tick sampleEarly := by
    unfold sctpAssocSend
    rw [if_neg (by decide +kernel), if_pos (by decide +kernel)]
  have hslot : (sampleHost.withWindow 0).tick.assoc.pendingQueue.firstFree (·.inUse) = some 0 := by
    decide +kernel
  unfold sampleReopened
  rw [hwait]
  unfold queuePending
  rw [if_pos (by decide +kernel), hslot]
  refine ⟨fun _ => rfl, fun i hi => ?_⟩
  show ((sampleHost.assoc.pendingQueue.set 0 ⟨sampleEarly, true⟩).get i).inUse = false
  rw [SlotTable.get_set_ne _ _ (by rintro rfl; exact absurd hi (by decide))]
  rfl

theorem move_sack (h : Host) (cumTsn arwnd : UINT32) :
    h.move (sampleSack cumTsn arwnd) = sctpHandleSack h (sackValue cumTsn arwnd []) :=
  sctpChunkDispatch_sack rfl

theorem sctpHandleSack_idle {h : Host} {pValue : Bytes} (hlen : 12 ≤ pValue.length)
    (hfree : ∀ i, (h.assoc.outstanding.get i).inUse = false)
    (hgaps : getUnalignedInt16BigEndian pValue 8 = 0)
    (hold : ¬ TSN_GT (getUnalignedInt32BigEndian pValue 0) h.assoc.cumulativeAckTsn) :
    sctpHandleSack h pValue = h.withWindow (getUnalignedInt32BigEndian pValue 4) := by
  refine sctpHandleSack_none hlen ?_ hold
  exact sackLoops_eq_upTo (h := h.withWindow _) (k := 0) (by decide) (fun i _ => hfree i) hgaps

theorem sampleReopened_moves : sampleHost.moves [sampleSack 6 0, .send sampleEarly,
    sampleSack 6 1000] = sampleReopened := by
  have hclose : sampleHost.move (sampleSack 6 0) = sampleHost.withWindow 0 := by
    rw [move_sack]
    exact sctpHandleSack_idle (by decide +kernel) (fun _ => rfl) (by decide +kernel)
      (by decide +kernel)
  have hopen : (sctpAssocSend (sampleHost.withWindow 0) sampleEarly).move (sampleSack 6 1000) =
      sampleReopened := by
    rw [move_sack]
    exact sctpHandleSack_idle (by decide +kernel) sampleReopened_frame.1 (by decide +kernel)
      (by decide +kernel)
  rw [Host.moves_cons, hclose, Host.moves_cons, Host.moves_cons, Host.moves_nil]
  exact hopen

theorem sampleDrains_handleSack :
    (sctpAssocSend sampleReopened sampleLate).move (sampleSack 7 1000) =
      sctpAssocSend (evictPending sampleDrains 0) sampleEarly := by
  have hfree : ∀ i : Fin SCTP_MAX_OUTSTANDING, 1 ≤ i.val →
      ((sctpAssocSend sampleReopened sampleLate).assoc.outstanding.get i).inUse = false := by
    intro i hi
    have hne : i ≠ 0 := by
      intro h0
      rw [h0] at hi
      exact absurd hi (by decide)
    rw [sctpAssocSend_outstanding (i := 0) (by decide +kernel) (by decide +kernel)
      (by decide +kernel) (by decide +kernel), SlotTable.get_set_ne _ _ hne]
    exact sampleReopened_frame.1 i
  have hloops : sackLoops ((sctpAssocSend sampleReopened sampleLate).withWindow 1000)
      (sackValue 7 1000 []) = sampleAcked :=
    sackLoops_eq_upTo (h := (sctpAssocSend sampleReopened sampleLate).withWindow 1000) (k := 1)
      (by decide) hfree (by decide +kernel)
  have hpend : ∀ i : Fin SCTP_MAX_PENDING_SENDS, 1 ≤ i.val →
      (sampleDrains.assoc.pendingQueue.get i).inUse = false := by
    have hacked : sampleAcked.1.orderSide = (sctpAssocSend sampleReopened sampleLate).orderSide := by
      rw [← hloops]
      exact sackLoops_orderSide _ _
    have hdrains : sampleDrains.orderSide = sampleAcked.1.orderSide :=
      sackGrow_orderSide { sampleAcked.1 with assoc.cumulativeAckTsn := 7 } sampleAcked.2
    have hsame : sampleDrains.assoc.pendingQueue = sampleReopened.assoc.pendingQueue :=
      (congrArg OrderSide.pendingQueue (hdrains.trans hacked)).trans
        ((sctpAssocSend_sendsTo (h := sampleReopened) (by decide +kernel)
          (by decide +kernel)).pendingQueue_of_atOnce ⟨by decide +kernel, fun _ => by decide +kernel⟩)
    rw [hsame]
    exact sampleReopened_frame.2
  rw [move_sack, sctpHandleSack_drains (g := sampleAcked.1) (n := sampleAcked.2) (by decide +kernel)
    hloops (by decide +kernel) (by decide +kernel) (by decide +kernel)]
  exact sctpDrainPendingQueue_one (h := sampleDrains) rfl (by decide +kernel) (by decide +kernel) hpend
    (by decide +kernel) (by decide +kernel) ⟨by decide +kernel, fun _ => by decide +kernel⟩

/-- The peer's window closes and opens again around a message, which is drained when the next one
is acknowledged. -/
def sampleReopening : List Step :=
  [sampleSack 6 0, .send sampleEarly, sampleSack 6 1000, .send sampleLate, sampleSack 7 1000]

/-- A message waits for the peer's window; the window opens without an acknowledgement, and the next
message of the stream is sent at once, before it: it gets the lower TSN and the lower SSN. -/
theorem waiting_message_overtaken :
    ((sctpAssocInit (fun _ => 7) 5000 5000 1150).run
        [.handlePacket true sampleCookieEcho]).assoc.state = .ESTABLISHED ∧
      (∀ st ∈ sampleReopening, st.sends) ∧
      sampleReopening.flatMap (Step.submits 0) = [sampleEarly, sampleLate] ∧
      (((sctpAssocInit (fun _ => 7) 5000 5000 1150).run [.handlePacket true sampleCookieEcho]).moves
        sampleReopening).orderSide.firsts =
          [⟨sampleLate, 0, 0, 0, 4⟩, ⟨sampleEarly, 1, 1, 0, 4⟩] ∧
      ¬ StreamOk 0 ((sctpAssocInit (fun _ => 7) 5000 5000 1150).run
          [.handlePacket true sampleCookieEcho]).orderSide (sampleReopening.flatMap (Step.submits 0))
        (((sctpAssocInit (fun _ => 7) 5000 5000 1150).run [.handlePacket true sampleCookieEcho]).moves
          sampleReopening).orderSide := by
  rw [run_sampleCookieEcho, Host.run_nil]
  have hsends : ∀ st ∈ sampleReopening, st.sends := by
    simp [sampleReopening, sampleSack, Step.sends]
  have hsubmits : sampleReopening.flatMap (Step.submits 0) = [sampleEarly, sampleLate] := rfl
  have hfirsts : (sampleHost.moves sampleReopening).orderSide.firsts =
      [⟨sampleLate, 0, 0, 0, 4⟩, ⟨sampleEarly, 1, 1, 0, 4⟩] := by
    have hsplit : sampleReopening = [sampleSack 6 0, .send sampleEarly, sampleSack 6 1000] ++
        [.send sampleLate, sampleSack 7 1000] := rfl
    rw [hsplit, Host.moves_append, sampleReopened_moves, Host.moves_cons, Host.moves_cons,
      Host.moves_nil]
    show ((sctpAssocSend sampleReopened sampleLate).move (sampleSack 7 1000)).orderSide.firsts = _
    rw [sampleDrains_handleSack]
    decide +kernel
  refine ⟨by decide +kernel, hsends, hsubmits, hfirsts, ?_⟩
  rintro ⟨new, hnew, ⟨acc, hacc, hlog⟩, -⟩
  have hnone : sampleHost.orderSide.pendingOn 0 = [] :=
    SlotTable.entries_eq_nil.mpr fun _ => SctpQueueSlot.on_free _
  have hbefore : sampleHost.orderSide.firstsOn 0 = [] := by decide +kernel
  generalize (sampleHost.moves sampleReopening).orderSide = o at *
  have hboth : new = [⟨sampleLate, 0, 0, 0, 4⟩, ⟨sampleEarly, 1, 1, 0, 4⟩] := by
    rw [hbefore, List.nil_append] at hnew
    rw [← hnew]
    unfold OrderSide.firstsOn
    rw [hfirsts]
    decide
  rw [hboth, hnone, List.nil_append] at hlog
  rw [← hlog, hsubmits] at hacc
  have hpend : o.pendingOn 0 = [] := by
    have hlen := hacc.length_le
    rw [List.length_append] at hlen
    exact List.length_eq_zero_iff.mp (Nat.le_zero.mp (Nat.le_of_add_le_add_left hlen))
  rw [hpend] at hacc
  exact absurd hacc (by decide)

end KvsWebrtc.Sctp
