import KvsWebrtc.Sctp.Reassembly
import KvsWebrtc.Sctp.SendOrder
import Mathlib.Data.List.Sort

/-!
# The order of delivery

The receiver delivers a message when its last chunk arrives and never looks at the SSN.  The sender
assigns an SSN when it transmits the first slice of a message, so `OrderSide.firstsOn` lists the
messages of a stream in the order of their SSNs.

Principal result: `ordered_delivery` — the messages of a stream are delivered in the order in which
the sender assigned their SSNs, as long as the chunks that end a message arrive in the order of
their TSNs.
-/

namespace KvsWebrtc.Sctp

/-! ## What the receiver accepts -/

/-- The chunks that are not old when they arrive. -/
def Host.accepted (tsn0 : UINT32) : Host → List Arrival → List Arrival
  | _, [] => []
  | h, x :: xs => (if NewTsn h (x.chunk tsn0).tsn then [x] else []) ++
      (h.handleData (x.chunk tsn0)).accepted tsn0 xs

/-- On each stream, the accepted chunks that end a message come in the order of their TSNs. -/
def EndsInOrder (tsn0 : UINT32) (h : Host) (xs : List Arrival) : Prop :=
  ((h.accepted tsn0 xs).filter (·.ends)).Pairwise fun x y =>
    x.slice.msg.streamId = y.slice.msg.streamId → x.slice.tsnNo < y.slice.tsnNo

section

variable {h : Host} {last : Option Slice} {xs : List Arrival} {tsn0 : UINT32}

theorem completed_sublist (tsn0 : UINT32) (h : Host) (xs : List Arrival) :
    (h.completed tsn0 xs).Sublist (((h.accepted tsn0 xs).filter (·.ends)).map Arrival.slice) := by
  induction xs generalizing h with
  | nil => exact List.Sublist.refl _
  | cons x xs ih =>
    rw [Host.completed, Host.accepted, List.filter_append, List.map_append]
    refine List.Sublist.append ?_ (ih _)
    by_cases hc : h.completes tsn0 x = true
    · have hparts := hc
      simp only [Host.completes, decide_eq_true_eq] at hparts
      rw [if_pos hc, if_pos hparts.1, List.filter_cons_of_pos hparts.2.1]
      exact List.Sublist.refl _
    · rw [if_neg hc]
      exact List.nil_sublist _

theorem EndsInOrder.completed (hord : EndsInOrder tsn0 h xs) :
    (h.completed tsn0 xs).Pairwise fun sl sl' =>
      sl.msg.streamId = sl'.msg.streamId → sl.tsnNo < sl'.tsnNo := by
  exact List.Pairwise.sublist (completed_sublist tsn0 h xs) (List.pairwise_map.mpr hord)

theorem completed_last (hseq : InSequence tsn0 h last xs) {sl : Slice}
    (hsl : sl ∈ h.completed tsn0 xs) : sl.offset + sl.len = sl.msg.payload.length := by
  induction xs generalizing h last with
  | nil => cases hsl
  | cons x xs ih =>
    rcases List.mem_append.mp hsl with hsl | hsl
    · split at hsl
      · rename_i hc
        simp only [Host.completes, decide_eq_true_eq] at hc
        rw [List.mem_singleton] at hsl
        subst hsl
        have hends := hc.2.1
        rw [Arrival.ends, Bool.or_eq_true, decide_eq_true_eq] at hends
        rcases hends with hagain | hlast
        · exact ((hseq.1 hc.1).whole hagain).last
        · exact hlast
      · cases hsl
    · exact ih hseq.2 hsl

end

/-! ## Messages in the sender's log -/

section

variable {S : SctpMessage → Prop} {tsn0 : UINT32} {s : SendSide}

theorem SentLog.unique (hsent : SentLog S tsn0 s) {sl sl' : Slice} (hsl : Sent s.outbound sl)
    (hsl' : Sent s.outbound sl') (heq : sl.tsnNo = sl'.tsnNo) : sl = sl' := by
  obtain ⟨j, p, hj⟩ := hsl
  obtain ⟨k, q, hk⟩ := hsl'
  rcases Nat.lt_trichotomy j k with hlt | rfl | hlt
  · have := hsent.increasing j k p q sl sl' hj hk hlt
    omega
  · rw [hj] at hk
    cases hk
    rfl
  · have := hsent.increasing k j q p sl' sl hk hj hlt
    omega

/-- `f` is the slice that starts the message of `sl`; whatever ends another message before `sl` does
so before `f`. -/
structure StartsAt (out : List OutPacket) (sl f : Slice) : Prop where
  sent : Sent out f
  msg : f.msg = sl.msg
  first : f.offset = 0
  le : f.tsnNo ≤ sl.tsnNo
  apart : ∀ e, Sent out e → e.offset + e.len = e.msg.payload.length → e.tsnNo < sl.tsnNo →
    e.tsnNo < f.tsnNo

theorem SentLog.startsAt (hsent : SentLog S tsn0 s) {sl : Slice} (hsl : Sent s.outbound sl) :
    ∃ f, StartsAt s.outbound sl f := by
  obtain ⟨k, p, hk⟩ := hsl
  induction k using Nat.strong_induction_on generalizing sl p with
  | _ k ih =>
    have ht := hsent.transmitted k p sl hk
    by_cases h0 : sl.offset = 0
    · exact ⟨sl, ⟨k, p, hk⟩, rfl, h0, Nat.le_refl _, fun _ _ _ hlt => hlt⟩
    · obtain ⟨j, q, prev, hj, hout, hnext⟩ := ht.follows.resolve_left h0
      obtain ⟨f, hf⟩ := ih j (by omega) q hout
      have hno := hnext.tsnNo
      refine ⟨f, hf.sent, hf.msg.trans hnext.msg, hf.first, ?_, fun e he hlast hlt => ?_⟩
      · have hle := hf.le
        omega
      · by_cases heq : e.tsnNo = prev.tsnNo
        · -- the slice before `sl` does not end the message that `sl` continues
          have hprev := hsent.unique he ⟨j, q, hout⟩ heq
          subst hprev
          have hin := ht.cut.offset.resolve_left h0
          rw [hnext.offset, hnext.msg] at hlast
          omega
        · exact hf.apart e he hlast (by omega)

theorem Origin.first?_eq_some {o : Origin} {sl : Slice} (h : o.first? = some sl) :
    o = .transmission sl ∧ sl.offset = 0 := by
  cases o with
  | transmission sl' =>
    unfold Origin.first? at h
    simp only at h
    split at h
    · rename_i h0
      cases h
      exact ⟨rfl, h0⟩
    · cases h
  | _ => cases h

theorem SentLog.firsts_pairwise (hsent : SentLog S tsn0 s) :
    (s.outbound.filterMap (·.origin.first?)).Pairwise (fun sl sl' => sl.tsnNo < sl'.tsnNo) := by
  rw [List.pairwise_filterMap, List.pairwise_iff_getElem]
  intro i j hi hj hij sl hsl sl' hsl'
  have hget : ∀ {k : Nat} (hk : k < s.outbound.length) {x : Slice},
      s.outbound[k].origin.first? = some x →
        s.outbound[k]? = some ⟨s.outbound[k].bytes, .transmission x⟩ := by
    intro k hk x hx
    rw [List.getElem?_eq_getElem hk, ← (Origin.first?_eq_some hx).1]
  exact hsent.increasing i j _ _ sl sl' (hget hi hsl) (hget hj hsl') hij

theorem mem_firsts {out : List OutPacket} {f : Slice} (hsent : Sent out f) (h0 : f.offset = 0) :
    f ∈ out.filterMap (·.origin.first?) := by
  obtain ⟨j, p, hj⟩ := hsent
  exact List.mem_filterMap.mpr ⟨_, List.mem_of_getElem? hj, if_pos h0⟩

/-- **Slices that end messages, in the order of their TSNs, stand for their messages in the order in
which these were first transmitted.** -/
theorem SentLog.messages_sublist (hsent : SentLog S tsn0 s) (ds : List Slice)
    (hds : ∀ sl ∈ ds, Sent s.outbound sl ∧ sl.offset + sl.len = sl.msg.payload.length)
    (hpair : ds.Pairwise (fun sl sl' => sl.tsnNo < sl'.tsnNo)) :
    ∃ fs : List Slice, fs.Sublist (s.outbound.filterMap (·.origin.first?)) ∧
      fs.map Slice.msg = ds.map Slice.msg := by
  have hex : ∀ sl : Slice, ∃ f, Sent s.outbound sl → StartsAt s.outbound sl f := by
    intro sl
    by_cases hsl : Sent s.outbound sl
    · obtain ⟨f, hf⟩ := hsent.startsAt hsl
      exact ⟨f, fun _ => hf⟩
    · exact ⟨sl, fun hc => absurd hc hsl⟩
  choose start hstart using hex
  have hmono : (ds.map start).Pairwise (fun sl sl' => sl.tsnNo < sl'.tsnNo) := by
    rw [List.pairwise_map]
    refine hpair.imp_of_mem fun {x y} hx hy hlt => ?_
    have hle := (hstart x (hds x hx).1).le
    have hapart := (hstart y (hds y hy).1).apart x (hds x hx).1 (hds x hx).2 hlt
    omega
  have hsub : ds.map start ⊆ s.outbound.filterMap (·.origin.first?) := by
    intro f hf
    obtain ⟨x, hx, rfl⟩ := List.mem_map.mp hf
    have hs := hstart x (hds x hx).1
    exact mem_firsts hs.sent hs.first
  have : Std.Antisymm (fun sl sl' : Slice => sl.tsnNo < sl'.tsnNo) :=
    ⟨fun _ _ h h' => absurd h (Nat.lt_asymm h')⟩
  have hnodup : (ds.map start).Nodup := hmono.imp fun hlt heq => by
    rw [heq] at hlt
    exact Nat.lt_irrefl _ hlt
  refine ⟨ds.map start, List.sublist_of_subperm_of_pairwise (List.subperm_of_subset hnodup hsub)
    hmono hsent.firsts_pairwise, ?_⟩
  rw [List.map_map]
  exact List.map_congr_left fun x hx => (hstart x (hds x hx).1).msg

end

/-! ## Order -/

/-- On stream `s`, what was delivered since `b` is a part of the messages that `a` transmitted, in
the order in which `a` assigned their SSNs. -/
def DeliversInOrder (s : UINT16) (a b b' : Host) : Prop :=
  ∃ (ms : List SctpMessage) (fs : List Slice), b'.delivered = b.delivered ++ ms.map SctpMessage.call ∧
    fs.Sublist (a.orderSide.firstsOn s) ∧
    ms.filter (fun m => m.streamId = s) = fs.map Slice.msg

/-- **Ordered delivery.**  A sender `a` was given messages that fit the reassembly buffer; an
established receiver `b` is handed the DATA packets of `a` in any order.  When every chunk that `b`
accepts fits its reassembly, and on each stream the accepted chunks that end a message come in the
order of their TSNs, then on every stream the messages are delivered in the order in which `a`
assigned their SSNs. -/
theorem ordered_delivery (clock : Nat → UINT64) (localPort remotePort mtu : UINT16)
    (hm : 29 ≤ mtu.toNat) (ops : List Op)
    (hsize : ∀ m, Op.send m ∈ ops → m.payload.length ≤ SCTP_MAX_REASSEMBLY_SIZE)
    (clock' : Nat → UINT64) (localPort' remotePort' mtu' : UINT16) (ops' : List Op) (ks : List Nat)
    {a b : Host} (ha : (sctpAssocInit clock localPort remotePort mtu).run ops = a)
    (hb : (sctpAssocInit clock' localPort' remotePort' mtu').run ops' = b)
    (hst : b.assoc.state = .ESTABLISHED)
    (hseq : InSequence (sctpGenerateTag clock) b none (b.arrivals a.outbound ks))
    (hord : EndsInOrder (sctpGenerateTag clock) b (b.arrivals a.outbound ks)) (s : UINT16) :
    DeliversInOrder s a b (b.hears a.outbound ks) := by
  have hsent := run_sentLog (S := fun m => Op.send m ∈ ops) hm clock localPort remotePort ops
    (fun _ hm => hm)
  rw [ha] at hsent
  have hk := run_knowsPeer clock' localPort' remotePort' mtu' ops'
  rw [hb] at hk
  have hdel : (b.hears a.outbound ks).delivered = b.delivered ++
      (b.completed (sctpGenerateTag clock) (b.arrivals a.outbound ks)).map (·.msg.call) :=
    hears_delivered hsent hsize ⟨hst, hk.valid (.inr hst)⟩ hseq
  have hlast : ∀ sl ∈ b.completed (sctpGenerateTag clock) (b.arrivals a.outbound ks),
      sl.offset + sl.len = sl.msg.payload.length := fun _ hsl => completed_last hseq hsl
  have hmem : ∀ sl ∈ b.completed (sctpGenerateTag clock) (b.arrivals a.outbound ks),
      Sent a.outbound sl := by
    intro sl hsl
    obtain ⟨x, hx, rfl⟩ := completed_mem hsl
    exact arrivals_sent hsent hx
  have hpair := hord.completed
  generalize b.completed (sctpGenerateTag clock) (b.arrivals a.outbound ks) = cs at *
  have hstream : ∀ sl ∈ cs.filter (fun sl => sl.msg.streamId = s), sl.msg.streamId = s :=
    fun sl hsl => of_decide_eq_true (List.mem_filter.mp hsl).2
  obtain ⟨fs, hfs, hmsg⟩ := hsent.messages_sublist (cs.filter (fun sl => sl.msg.streamId = s))
    (fun sl hsl => ⟨hmem sl (List.mem_of_mem_filter hsl), hlast sl (List.mem_of_mem_filter hsl)⟩)
    ((hpair.filter _).imp_of_mem fun {x y} hx hy hlt => hlt (by rw [hstream x hx, hstream y hy]))
  have hon : ∀ f ∈ fs, decide (f.msg.streamId = s) = true := by
    intro f hf
    have hin := List.mem_map_of_mem (f := Slice.msg) hf
    rw [hmsg] at hin
    obtain ⟨sl, hsl, heq⟩ := List.mem_map.mp hin
    rw [← heq]
    exact decide_eq_true (hstream sl hsl)
  refine ⟨cs.map Slice.msg, fs, ?_, ?_, ?_⟩
  · rw [List.map_map]
    exact hdel
  · have hsub := hfs.filter (fun f => f.msg.streamId = s)
    rw [List.filter_eq_self.mpr hon] at hsub
    exact hsub
  · rw [hmsg, List.filter_map]
    rfl

/-- Two messages of a stream arrive in the order in which they were sent. -/
theorem ordered_delivery_inOrder :
    DeliversInOrder 0 (sampleSends sampleEarly sampleLate) samplePeer
      (samplePeer.hears (sampleSends sampleEarly sampleLate).outbound [1, 2]) := by
  have harr : samplePeer.arrivals (sampleSends sampleEarly sampleLate).outbound [1, 2] =
      [⟨⟨sampleEarly, 0, 0, 0, 4⟩, false⟩, ⟨⟨sampleLate, 1, 1, 0, 4⟩, false⟩] :=
    arrivals_eq (sampleSends_sentLog sampleEarly sampleLate)
      [(1, ⟨sampleEarly, 0, 0, 0, 4⟩), (2, ⟨sampleLate, 1, 1, 0, 4⟩)] (by decide +kernel)
  refine ordered_delivery (fun _ => 7) 5000 5000 1150 (by decide) _ ?_ (fun _ => 9) 5000 5000 1150
    [.handlePacket true samplePeerEcho] [1, 2] (run_sampleSends _ _) run_samplePeerEcho
    (by decide +kernel) ?_ ?_ 0
  · rintro m hm
    simp only [List.mem_cons, Op.send.injEq, List.not_mem_nil, or_false, false_or, reduceCtorEq] at hm
    rcases hm with rfl | rfl <;> decide
  · rw [harr]
    exact ⟨fun _ => ⟨fun h => (by cases h), fun h => (by cases h)⟩,
      fun _ => ⟨fun h => (by cases h), fun h => (by cases h)⟩, trivial⟩
  · rw [harr]
    unfold EndsInOrder
    decide +kernel

/-- The second message overtakes the first and is delivered first. -/
theorem swapped_messages_swapped :
    (sctpAssocInit (fun _ => 7) 5000 5000 1150).run
        [.handlePacket true sampleCookieEcho, .send sampleEarly, .send sampleLate] =
        sampleSends sampleEarly sampleLate ∧
      (sctpAssocInit (fun _ => 9) 5000 5000 1150).run [.handlePacket true samplePeerEcho] =
        samplePeer ∧
      samplePeer.assoc.state = .ESTABLISHED ∧
      ¬ DeliversInOrder 0 (sampleSends sampleEarly sampleLate) samplePeer
        (samplePeer.hears (sampleSends sampleEarly sampleLate).outbound [2, 1]) := by
  have harr : samplePeer.arrivals (sampleSends sampleEarly sampleLate).outbound [2, 1] =
      [⟨⟨sampleLate, 1, 1, 0, 4⟩, false⟩, ⟨⟨sampleEarly, 0, 0, 0, 4⟩, false⟩] :=
    arrivals_eq (sampleSends_sentLog sampleEarly sampleLate)
      [(2, ⟨sampleLate, 1, 1, 0, 4⟩), (1, ⟨sampleEarly, 0, 0, 0, 4⟩)] (by decide +kernel)
  have hdel : (samplePeer.handleDatas (([⟨⟨sampleLate, 1, 1, 0, 4⟩, false⟩,
      ⟨⟨sampleEarly, 0, 0, 0, 4⟩, false⟩] : List Arrival).map
        (Arrival.chunk (sctpGenerateTag (fun _ => 7))))).delivered =
      [sampleLate.call, sampleEarly.call] := by decide +kernel
  have hnone : samplePeer.delivered = [] := by decide +kernel
  have hfirsts : (sampleSends sampleEarly sampleLate).orderSide.firstsOn 0 =
      [⟨sampleEarly, 0, 0, 0, 4⟩, ⟨sampleLate, 1, 1, 0, 4⟩] := by decide +kernel
  refine ⟨run_sampleSends _ _, run_samplePeerEcho, by decide +kernel, ?_⟩
  rintro ⟨ms, fs, heq, hfs, hms⟩
  rw [hears_arrivals (sampleSends_sentLog sampleEarly sampleLate) samplePeer_listens harr, hdel,
    hnone, List.nil_append] at heq
  have hall : ms.filter (fun m => m.streamId = 0) = ms := by
    refine List.filter_eq_self.mpr fun m hm => ?_
    have hin := List.mem_map_of_mem (f := SctpMessage.call) hm
    rw [← heq] at hin
    have hid : ∀ d ∈ [sampleLate.call, sampleEarly.call], d.streamId = 0 := by decide
    exact decide_eq_true (hid m.call hin)
  rw [hall] at hms
  have hsub := (hfs.map Slice.msg).map SctpMessage.call
  rw [hfirsts, ← hms, ← heq] at hsub
  exact absurd hsub (by decide)

end KvsWebrtc.Sctp
