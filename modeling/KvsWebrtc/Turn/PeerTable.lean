import KvsWebrtc.Lib.Steps
import KvsWebrtc.Turn.StateMachine
import Mathlib.Data.List.Forall2
import Mathlib.Data.List.Nodup

/-!
# The peer table of a TURN connection

A step of the state machine leaves the peers as they are, but for the requests that it sends and the
stores that it clears; only the refresh in `READY` sends all of them back to `CREATE_PERMISSION`.
Everything else that happens to a peer is one of three responses.

Principal results:

* `stepStateMachine_peers` — a step of the machine is quiet, or a refresh and then quiet;
* `peer_table_iff` — in every run the peers are distinct, numbered and at most 32, a peer becomes
  ready only by the answer to a request of its own, and a failed peer is left to a refresh, exactly
  when no answer to no request is taken for one: the unused slots of a store hold the zero id.
-/

namespace KvsWebrtc.Turn.Machine

open Stun Ice Checked Steps

variable {w : Host} {s : Surroundings} {c c' : TurnConnection}

/-! ## What the machine does to the peers -/

/-- At most requests are sent for the peer, or its store is cleared. -/
structure TurnPeer.Kept (p p' : TurnPeer) : Prop where
  peer : p'.toTurnPeer = p.toTurnPeer
  connectionState : p'.connectionState = p.connectionState
  ready : p'.ready = p.ready
  requests : p.requests ⊆ p'.requests
  stored : ∀ id ∈ p'.pTransactionIdStore.transactionIds,
    id ∈ p.pTransactionIdStore.transactionIds ∨ id ∈ p'.requests

theorem TurnPeer.Kept.refl (p : TurnPeer) : p.Kept p :=
  ⟨rfl, rfl, rfl, List.Subset.refl _, fun _ h => .inl h⟩

theorem TurnPeer.Kept.trans {p q r : TurnPeer} (h : p.Kept q) (h' : q.Kept r) : p.Kept r where
  peer := h'.peer.trans h.peer
  connectionState := h'.connectionState.trans h.connectionState
  ready := h'.ready.trans h.ready
  requests := List.Subset.trans h.requests h'.requests
  stored id hid := by
    rcases h'.stored id hid with hid | hid
    · exact (h.stored id hid).imp_right fun hid => h'.requests hid
    · exact .inr hid

theorem TurnPeer.kept_request (transactionId : Bytes) (p : TurnPeer) :
    p.Kept (p.request transactionId) where
  peer := rfl
  connectionState := rfl
  ready := rfl
  requests := List.subset_cons_self _ _
  stored id hid := by
    change id ∈ (transactionIdStoreInsert p.pTransactionIdStore transactionId).transactionIds at hid
    rw [(transactionIds_insert _ _).1] at hid
    rcases List.mem_or_eq_of_mem_set hid with hid | rfl
    · exact .inl hid
    · exact .inr List.mem_cons_self

def Quiet (c c' : TurnConnection) : Prop :=
  List.Forall₂ TurnPeer.Kept c.turnPeerList c'.turnPeerList

theorem quiet_of_eq (h : c'.turnPeerList = c.turnPeerList) : Quiet c c' := by
  rw [Quiet, h]
  exact List.forall₂_same.mpr fun p _ => TurnPeer.Kept.refl p

instance : Std.Refl Quiet := ⟨fun _ => quiet_of_eq rfl⟩

theorem Quiet.trans {c₁ c₂ c₃ : TurnConnection} (h : Quiet c₁ c₂) (h' : Quiet c₂ c₃) :
    Quiet c₁ c₃ := by
  unfold Quiet at h h' ⊢
  generalize c₁.turnPeerList = ps at h
  generalize c₂.turnPeerList = qs at h h'
  generalize c₃.turnPeerList = rs at h'
  induction h generalizing rs with
  | nil =>
    cases h'
    exact .nil
  | cons hp _ ih =>
    cases h' with
    | cons hq hqs => exact .cons (hp.trans hq) (ih _ hqs)

instance : IsTrans TurnConnection Quiet := ⟨fun _ _ _ => Quiet.trans⟩

theorem quiet_map {f : TurnPeer → TurnPeer} (hf : ∀ p, TurnPeer.Kept p (f p))
    (h : c'.turnPeerList = c.turnPeerList.map f) : Quiet c c' := by
  rw [Quiet, h, List.forall₂_map_right_iff]
  exact List.forall₂_same.mpr fun p _ => hf p

theorem quiet_modify {f : TurnPeer → TurnPeer} (i : Nat) (hf : ∀ p, TurnPeer.Kept p (f p))
    (h : c'.turnPeerList = c.turnPeerList.modify i f) : Quiet c c' := by
  rw [Quiet, h]
  clear h
  generalize c.turnPeerList = ps
  induction ps generalizing i with
  | nil =>
    rw [List.modify_nil]
    exact .nil
  | cons p ps ih =>
    cases i with
    | zero =>
      rw [List.modify_zero_cons]
      exact .cons (hf p) (List.forall₂_same.mpr fun q _ => TurnPeer.Kept.refl q)
    | succ i =>
      rw [List.modify_succ_cons]
      exact .cons (TurnPeer.Kept.refl p) (ih i)

/-! ## Quiet actions -/

theorem keeps_ofStun {α : Type} (x : Except Failure α) : Keeps Quiet (ofStun x) := by
  cases x with
  | error e => exact keeps_throw _
  | ok a => exact keeps_pure a

theorem keeps_write {f : TurnConnection → TurnConnection}
    (h : ∀ c, (f c).turnPeerList = c.turnPeerList) :
    Keeps Quiet (modify f : Action PUnit) :=
  keeps_modify fun c => quiet_of_eq (h c)

theorem write_bind {α : Type} {g : TurnConnection → TurnConnection} {f : PUnit → Action α}
    (hg : ∀ c, (g c).turnPeerList = c.turnPeerList) (hf : ∀ u, Keeps Quiet (f u)) :
    Keeps Quiet (modify g >>= f) :=
  Keeps.modify_bind (fun c => quiet_of_eq (hg c)) hf

theorem keeps_sendCreatePermission (i : Nat) (p : TurnPeer) :
    Keeps Quiet (sendCreatePermission w i p) :=
  Keeps.get_bind fun _ => Keeps.check_bind fun _ =>
    keeps_modify fun _ => quiet_modify i (TurnPeer.kept_request _) rfl

theorem keeps_sendChannelBind (i : Nat) (p : TurnPeer) : Keeps Quiet (sendChannelBind w i p) :=
  Keeps.get_bind fun _ => Keeps.check_bind fun _ => write_bind (fun _ => rfl) fun _ =>
    Keeps.check_bind fun _ => keeps_modify fun _ => quiet_modify i (TurnPeer.kept_request _) rfl

theorem keeps_checkTurnPeer (i : Nat) : Keeps Quiet (checkTurnPeer w i) := by
  refine Keeps.get_bind fun c => ?_
  cases c.turnPeerList[i]? with
  | none => exact keeps_pure ()
  | some p =>
    cases hstate : p.connectionState with
    | CREATE_PERMISSION =>
      simp only [hstate]
      exact keeps_sendCreatePermission i p
    | BIND_CHANNEL =>
      simp only [hstate]
      exact keeps_sendChannelBind i p
    | READY =>
      simp only [hstate]
      exact keeps_pure ()
    | FAILED =>
      simp only [hstate]
      exact keeps_pure ()

theorem keeps_refreshAllocation : Keeps Quiet (turnConnectionRefreshAllocation s) :=
  Keeps.get_bind fun _ => Keeps.ite
    (fun _ => Keeps.check_bind fun _ => write_bind (fun _ => rfl) fun _ =>
      Keeps.check_bind fun _ => keeps_write fun _ => rfl)
    fun _ => keeps_pure ()

theorem keeps_checkTurnPeerConnections : Keeps Quiet (checkTurnPeerConnections w s) :=
  Keeps.get_bind fun _ => (Keeps.forM fun i _ => keeps_checkTurnPeer i).bind fun _ =>
    keeps_refreshAllocation

theorem keeps_enter {state : TURN_STATE} {setup again : Action Unit} (hsetup : Keeps Quiet setup)
    (hagain : Keeps Quiet again) : Keeps Quiet (enter state setup again) :=
  Keeps.get_bind fun _ => Keeps.ite (fun _ => hsetup) fun _ => hagain

theorem keeps_inTime (late : STATUS) : Keeps Quiet (inTime s late) :=
  Keeps.get_bind fun _ => keeps_check _

theorem keeps_allocationSetup : Keeps Quiet (allocationSetup w) := by
  refine write_bind (fun _ => rfl) fun _ => Keeps.get_bind fun c => ?_
  cases turnConnectionGetLongTermKey w c.username c.turnRealm c.credential with
  | error e => exact keeps_throw e
  | ok key =>
    exact write_bind (fun _ => rfl) fun _ => (keeps_ofStun _).bind fun _ =>
      keeps_write fun _ => rfl

theorem keeps_createPermissionSetup : Keeps Quiet (createPermissionSetup w) := by
  refine Keeps.get_bind fun c => ?_
  rcases buildPacket (createStunPacket STUN_PACKET_TYPE_CREATE_PERMISSION _) _ with ⟨_, _⟩
  refine write_bind (fun _ => rfl) fun _ => Keeps.check_bind fun _ => ?_
  rcases buildPacket (createStunPacket STUN_PACKET_TYPE_CHANNEL_BIND_REQUEST _) _ with ⟨_, _⟩
  refine write_bind (fun _ => rfl) fun _ => Keeps.check_bind fun _ => ?_
  rcases buildPacket (createStunPacket STUN_PACKET_TYPE_REFRESH _) _ with ⟨_, _⟩
  exact write_bind (fun _ => rfl) fun _ => Keeps.check_bind fun _ => keeps_write fun _ => rfl

/-- **Executing a state is quiet.** -/
theorem keeps_executeState (state : TURN_STATE) : Keeps Quiet (executeState w s state) := by
  cases state with
  | NEW => exact keeps_write fun _ => rfl
  | CHECK_SOCKET_CONNECTION =>
    exact keeps_enter (Keeps.get_bind fun _ => write_bind (fun _ => rfl) fun _ =>
      (keeps_ofStun _).bind fun _ => keeps_write fun _ => rfl) (keeps_pure ())
  | GET_CREDENTIALS =>
    refine Keeps.bind (keeps_enter ?_ (keeps_inTime _)) fun _ =>
      Keeps.get_bind fun _ => Keeps.check_bind fun _ => keeps_check _
    exact Keeps.check_bind fun _ => keeps_write fun _ => rfl
  | ALLOCATION =>
    exact (keeps_enter keeps_allocationSetup (keeps_inTime _)).bind fun _ => keeps_check _
  | CREATE_PERMISSION =>
    exact (keeps_enter keeps_createPermissionSetup (keeps_pure ())).bind fun _ =>
      keeps_checkTurnPeerConnections.bind fun _ => Keeps.get_bind fun _ => Keeps.ite
        (fun _ => keeps_write fun _ => rfl) fun _ => keeps_pure ()
  | BIND_CHANNEL => exact write_bind (fun _ => rfl) fun _ => keeps_checkTurnPeerConnections
  | READY => exact write_bind (fun _ => rfl) fun _ => keeps_checkTurnPeerConnections
  | CLEAN_UP =>
    exact write_bind (fun _ => rfl) fun _ => Keeps.get_bind fun _ => Keeps.ite
      (fun _ => Keeps.check_bind fun _ => write_bind (fun _ => rfl) fun _ =>
        Keeps.check_bind fun _ => keeps_write fun _ => rfl)
      fun _ => keeps_pure ()
  | FAILED => exact keeps_write fun _ => rfl

theorem keeps_unlessStopped {next : Action TURN_STATE} (h : Keeps Quiet next) :
    Keeps Quiet (unlessStopped next) :=
  Keeps.get_bind fun _ => Keeps.ite (fun _ => keeps_pure _) fun _ => h

/-! ## The next state -/

theorem keeps_timeout (time : Nat) (state : TURN_STATE) :
    Keeps Quiet (do modify (·.setTimeout time); pure state : Action TURN_STATE) :=
  write_bind (fun _ => rfl) fun _ => keeps_pure state

theorem quiet_release (c : TurnConnection) : Quiet c c.release :=
  quiet_map (f := fun p => { p with
      pTransactionIdStore := transactionIdStoreClear p.pTransactionIdStore })
    (fun _ => ⟨rfl, rfl, rfl, List.Subset.refl _, fun _ h => .inl h⟩) rfl

/-- **The way to the next state is quiet, unless the machine is ready.** -/
theorem keeps_getNextState {state : TURN_STATE} (h : state ≠ .READY) :
    Keeps Quiet (getNextState s state) := by
  cases state with
  | NEW => exact keeps_pure _
  | CHECK_SOCKET_CONNECTION =>
    exact keeps_unlessStopped (Keeps.ite (fun _ => keeps_timeout _ _) fun _ => keeps_pure _)
  | GET_CREDENTIALS =>
    exact keeps_unlessStopped (Keeps.get_bind fun _ =>
      Keeps.ite (fun _ => keeps_timeout _ _) fun _ => keeps_pure _)
  | ALLOCATION =>
    exact keeps_unlessStopped (Keeps.get_bind fun _ =>
      Keeps.ite (fun _ => keeps_timeout _ _) fun _ => keeps_pure _)
  | CREATE_PERMISSION =>
    exact keeps_unlessStopped (Keeps.get_bind fun _ => Keeps.ite (fun _ => keeps_timeout _ _)
      fun _ => Keeps.ite (fun _ => Keeps.check_bind fun _ => keeps_timeout _ _)
        fun _ => keeps_pure _)
  | BIND_CHANNEL =>
    exact keeps_unlessStopped (Keeps.get_bind fun _ =>
      Keeps.ite (fun _ => Keeps.check_bind fun _ => keeps_pure _) fun _ => keeps_pure _)
  | READY => exact absurd rfl h
  | CLEAN_UP =>
    exact Keeps.get_bind fun _ => Keeps.ite (fun _ => keeps_pure _) fun _ =>
      Keeps.ite (fun _ => Keeps.modify_bind quiet_release fun _ => Keeps.check_bind fun _ =>
        write_bind (fun _ => rfl) fun _ => keeps_pure _) fun _ => keeps_pure _
  | FAILED =>
    exact Keeps.get_bind fun _ => Keeps.ite (fun _ => keeps_pure _) fun _ =>
      Keeps.ite (fun _ => keeps_timeout _ _) fun _ => keeps_pure _

/-- The machine is ready, not told to stop, and a permission ends soon. -/
def Refreshes (s : Surroundings) (c : TurnConnection) : Prop :=
  c.currentState = .READY ∧ c.state ≠ .CLEAN_UP ∧ c.state ≠ .FAILED ∧
    turnConnectionRefreshPermission c s.time = true

theorem fromReady_refreshes (h : Refreshes s c) :
    ((fromReadyTurnState s).exec c).2 = refreshPeers s c := by
  obtain ⟨-, hclean, hfailed, hrefresh⟩ := h
  unfold fromReadyTurnState unlessStopped
  rw [exec_get_bind, if_neg (by simp [hclean, hfailed]), exec_get_bind, if_pos hrefresh,
    exec_modify_bind, exec_bind]
  cases s.updateTimerPeriod <;> rfl

theorem fromReady_quiet (hcurrent : c.currentState = .READY) (h : ¬Refreshes s c) :
    Quiet c ((fromReadyTurnState s).exec c).2 := by
  unfold fromReadyTurnState unlessStopped
  rw [exec_get_bind]
  by_cases hstopped : c.state = .CLEAN_UP ∨ c.state = .FAILED
  · rw [if_pos hstopped]
    exact quiet_of_eq rfl
  · obtain ⟨hclean, hfailed⟩ := not_or.mp hstopped
    rw [if_neg hstopped, exec_get_bind,
      if_neg fun hrefresh => h ⟨hcurrent, hclean, hfailed, hrefresh⟩]
    have hperiod : Keeps Quiet (if c.currentTimerCallingPeriod ≠
        DEFAULT_TURN_TIMER_INTERVAL_AFTER_READY then do
          modify fun c => { c with
            currentTimerCallingPeriod := DEFAULT_TURN_TIMER_INTERVAL_AFTER_READY }
          check s.updateTimerPeriod
          pure TURN_STATE.READY
        else pure .READY : Action TURN_STATE) :=
      Keeps.ite (fun _ => write_bind (fun _ => rfl) fun _ => Keeps.check_bind fun _ =>
        keeps_pure _) fun _ => keeps_pure _
    exact hperiod c

/-! ## A step of the machine -/

theorem keeps_enterNext (current next : TURN_STATE) :
    Keeps Quiet (do
      check (if current ∈ acceptStates next then none else some STATUS.INVALID_STREAM_STATE)
      modify fun c => { c with currentState := next }
      executeState w s next : Action Unit) :=
  Keeps.check_bind fun _ => write_bind (fun _ => rfl) fun _ => keeps_executeState next

/-- **A step of the machine is quiet, or a refresh and then quiet.** -/
theorem stepStateMachine_peers (w : Host) (s : Surroundings) (c : TurnConnection) :
    (Refreshes s c → Quiet (refreshPeers s c) ((stepStateMachine w s).exec c).2) ∧
      (¬Refreshes s c → Quiet c ((stepStateMachine w s).exec c).2) := by
  have hnext : Quiet ((getNextState s c.currentState).exec c).2
      ((stepStateMachine w s).exec c).2 := by
    unfold stepStateMachine
    rw [exec_get_bind]
    exact Keeps.exec_bind (keeps_enterNext c.currentState) _ c
  constructor
  · intro h
    have hready : getNextState s c.currentState = fromReadyTurnState s := by rw [h.1]; rfl
    rwa [hready, fromReady_refreshes h] at hnext
  · intro h
    by_cases hcurrent : c.currentState = .READY
    · have hready : getNextState s c.currentState = fromReadyTurnState s := by rw [hcurrent]; rfl
      rw [hready] at hnext
      exact (fromReady_quiet hcurrent h).trans hnext
    · exact Quiet.trans (keeps_getNextState hcurrent c) hnext

theorem not_refreshes_of_stopped (h : c.state = .CLEAN_UP) : ¬Refreshes s c := fun hr => hr.2.1 h

/-- A round: the second step of one that was told to stop is quiet. -/
theorem round_peers (w : Host) (s s' : Surroundings) (c : TurnConnection) :
    (Refreshes s c → Quiet (refreshPeers s c) (stepTurnConnectionStateMachine w s s' c)) ∧
      (¬Refreshes s c → Quiet c (stepTurnConnectionStateMachine w s s' c)) := by
  have hround : Quiet ((stepStateMachine w s).exec c).2
      (stepTurnConnectionStateMachine w s s' c) := by
    unfold stepTurnConnectionStateMachine
    generalize (stepStateMachine w s).exec c = r
    rcases r with ⟨e | _, c'⟩
    · dsimp only
      split
      · exact quiet_of_eq rfl
      · exact quiet_of_eq rfl
    · dsimp only
      split
      · refine Quiet.trans (quiet_of_eq ?_) ((stepStateMachine_peers w s' _).2 ?_)
        · rfl
        · exact not_refreshes_of_stopped rfl
      · exact quiet_of_eq rfl
  obtain ⟨hrefresh, hquiet⟩ := stepStateMachine_peers w s c
  exact ⟨fun h => (hrefresh h).trans hround, fun h => (hquiet h).trans hround⟩

/-! ## The table -/

/-- What channel data is routed by. -/
def TurnConnection.table (c : TurnConnection) : List Turn.TurnPeer :=
  c.turnPeerList.map TurnPeer.toTurnPeer

structure PeerTable (peers : List Turn.TurnPeer) : Prop where
  distinct : peers.Pairwise fun p q => isSameIpAddress p.address q.address = false
  numbered : ∀ i p, peers[i]? = some p →
    p.channelNumber.toNat = TURN_CHANNEL_BIND_CHANNEL_NUMBER_BASE.toNat + i + 1
  bounded : peers.length ≤ DEFAULT_TURN_MAX_PEER_COUNT

theorem peerTable_nil : PeerTable [] := ⟨.nil, fun i p h => by simp at h, Nat.zero_le _⟩

/-- The numbers are distinct, and TURN allows them: they are above the base and below `0x7FFF`. -/
def ChannelNumbers (peers : List Turn.TurnPeer) : Prop :=
  (peers.map Turn.TurnPeer.channelNumber).Nodup ∧
    ∀ p ∈ peers, 0x4000 < p.channelNumber.toNat ∧ p.channelNumber.toNat < 0x7FFF

theorem PeerTable.channelNumbers {peers : List Turn.TurnPeer} (h : PeerTable peers) :
    ChannelNumbers peers := by
  constructor
  · rw [List.nodup_iff_getElem?_ne_getElem?]
    intro i j hij hj
    rw [List.length_map] at hj
    rw [List.getElem?_map, List.getElem?_map, List.getElem?_eq_getElem (by omega),
      List.getElem?_eq_getElem hj]
    intro heq
    have hnumber := congrArg BitVec.toNat (Option.some.inj heq)
    rw [h.numbered i _ (List.getElem?_eq_getElem (by omega)),
      h.numbered j _ (List.getElem?_eq_getElem hj)] at hnumber
    omega
  · intro p hp
    obtain ⟨i, hi⟩ := List.mem_iff_getElem?.mp hp
    obtain ⟨hlt, -⟩ := List.getElem?_eq_some_iff.mp hi
    have hbounded := h.bounded
    rw [h.numbered i p hi]
    change 0x4000 < 0x4000 + i + 1 ∧ 0x4000 + i + 1 < 0x7FFF
    unfold DEFAULT_TURN_MAX_PEER_COUNT at hbounded
    omega

/-- **Adding a peer keeps the table.** -/
theorem PeerTable.add {peers : List Turn.TurnPeer} (h : PeerTable peers) (a : KvsIpAddress) :
    PeerTable (Turn.turnConnectionAddPeer peers a) := by
  unfold Turn.turnConnectionAddPeer
  split
  · exact h
  · rename_i hnew
    split
    · exact h
    · rename_i hroom
      refine ⟨?_, ?_, ?_⟩
      · refine List.pairwise_append.mpr ⟨h.distinct, List.pairwise_singleton _ _, ?_⟩
        intro p hp q hq
        rw [List.mem_singleton.mp hq]
        rw [List.any_eq_true] at hnew
        exact Bool.eq_false_iff.mpr fun hsame => hnew ⟨p, hp, hsame⟩
      · intro i p hp
        rw [List.getElem?_append] at hp
        split at hp
        · exact h.numbered i p hp
        · rename_i hi
          rw [List.getElem?_singleton] at hp
          split at hp
          · rename_i hzero
            rw [← Option.some.inj hp]
            change (BitVec.ofNat 16 (peers.length + 1) + 0x4000).toNat = 0x4000 + i + 1
            rw [BitVec.toNat_add, BitVec.toNat_ofNat]
            change ((peers.length + 1) % 65536 + 16384) % 65536 = 16384 + i + 1
            unfold DEFAULT_TURN_MAX_PEER_COUNT at hroom
            omega
          · cases hp
      · rw [List.length_append, List.length_singleton]
        omega

theorem table_addPeer (c : TurnConnection) (a : KvsIpAddress) :
    (turnConnectionAddPeer c a).1.table =
      if ofOtherFamily c.ipFamilyType a then c.table else Turn.turnConnectionAddPeer c.table a := by
  unfold turnConnectionAddPeer Turn.turnConnectionAddPeer TurnConnection.table
  have hany : (c.turnPeerList.map TurnPeer.toTurnPeer).any
      (fun p => isSameIpAddress p.address a) =
        c.turnPeerList.any fun p => isSameIpAddress p.address a := List.any_map
  rw [hany, List.length_map]
  split
  · rfl
  · split
    · rfl
    · split
      · rfl
      · exact List.map_append

theorem Quiet.table (h : Quiet c c') : c'.table = c.table := by
  unfold TurnConnection.table
  unfold Quiet at h
  generalize c.turnPeerList = ps, c'.turnPeerList = qs at h ⊢
  induction h with
  | nil => rfl
  | cons hp _ ih => rw [List.map_cons, List.map_cons, hp.peer, ih]

/-! ## Responses -/

/-- A response that a channel was bound. -/
def BindSuccess (pBuffer : Bytes) : Prop :=
  IS_STUN_PACKET pBuffer = true ∧
    getUnalignedInt16BigEndian pBuffer 0 = STUN_PACKET_TYPE_CHANNEL_BIND_SUCCESS_RESPONSE

theorem modifyFirst_cases {q : TurnPeer → Bool} {f : TurnPeer → TurnPeer} {peers : List TurnPeer}
    {i : Nat} {p p' : TurnPeer} (hp : peers[i]? = some p)
    (hp' : (modifyFirst q f peers)[i]? = some p') :
    p' = p ∨ p' = f p ∧ peers.find? q = some p := by
  unfold modifyFirst at hp'
  rw [List.getElem?_modify, hp] at hp'
  by_cases hi : peers.findIdx q = i
  · simp only [if_pos hi] at hp'
    refine .inr ⟨(Option.some.inj hp').symm, ?_⟩
    rw [List.find?_eq_getElem?_findIdx, hi, hp]
  · simp only [if_neg hi] at hp'
    exact .inl (Option.some.inj hp').symm

theorem modifyFirst_first {q : TurnPeer → Bool} {f : TurnPeer → TurnPeer} {peers : List TurnPeer}
    {p : TurnPeer} (hp : peers.find? q = some p) :
    ∃ i : Nat, peers[i]? = some p ∧ (modifyFirst q f peers)[i]? = some (f p) := by
  rw [List.find?_eq_getElem?_findIdx] at hp
  refine ⟨peers.findIdx q, hp, ?_⟩
  unfold modifyFirst
  rw [List.getElem?_modify_eq, hp]
  rfl

theorem map_modifyFirst {κ : Type} (q : TurnPeer → Bool) {f : TurnPeer → TurnPeer}
    {key : TurnPeer → κ} (hf : ∀ p, key (f p) = key p) (peers : List TurnPeer) :
    (modifyFirst q f peers).map key = peers.map key := by
  apply List.ext_getElem?
  intro i
  unfold modifyFirst
  rw [List.getElem?_map, List.getElem?_map, List.getElem?_modify]
  cases peers[i]? with
  | none => rfl
  | some p =>
    change some (key (if _ then f p else p)) = some (key p)
    split
    · rw [hf]
    · rfl

/-- What a message of the server may do to the peers. -/
inductive Response (pBuffer : Bytes) (time : Nat) (peers : List TurnPeer) :
    List TurnPeer → Prop where
  | other (h : ¬BindSuccess pBuffer) : Response pBuffer time peers peers
  | permission (h : ¬BindSuccess pBuffer) : Response pBuffer time peers
      (peers.map (permissionGranted (transactionIdOf pBuffer) time))
  | channel (h : BindSuccess pBuffer) :
    Response pBuffer time peers (channelBound (transactionIdOf pBuffer) peers)
  | failed (h : ¬BindSuccess pBuffer) :
    Response pBuffer time peers (peerFailed (transactionIdOf pBuffer) peers)

section

variable (hmac : Bytes → Bytes → Bytes) (crc32 : Bytes → UINT32)

theorem allocateSucceeded_peers (c : TurnConnection) (pBuffer : Bytes) (time : Nat) :
    (allocateSucceeded hmac crc32 c pBuffer time).1.turnPeerList = c.turnPeerList := by
  unfold allocateSucceeded
  repeat' split
  all_goals rfl

theorem refreshSucceeded_peers (c : TurnConnection) (pBuffer : Bytes) (time : Nat) :
    (refreshSucceeded hmac crc32 c pBuffer time).1.turnPeerList = c.turnPeerList := by
  unfold refreshSucceeded
  repeat' split
  all_goals rfl

theorem not_bindSuccess_of_error {pBuffer : Bytes}
    (h : STUN_PACKET_IS_TYPE_ERROR pBuffer = true) : ¬BindSuccess pBuffer := by
  rintro ⟨-, htype⟩
  rw [STUN_PACKET_IS_TYPE_ERROR, htype] at h
  exact absurd h (by decide)

/-- **A message of the server.** -/
theorem handleStunMessage_peers (c : TurnConnection) (pBuffer : Bytes) (time : Nat) :
    Response pBuffer time c.turnPeerList
      (handleStunMessage hmac crc32 c pBuffer time).turnPeerList := by
  unfold handleStunMessage
  split
  · rename_i herror
    have hbind := not_bindSuccess_of_error herror
    change Response pBuffer time c.turnPeerList
      (if (errorCodeRead hmac crc32 c pBuffer).any concernsPeer then
        peerFailed (transactionIdOf pBuffer) c.turnPeerList else c.turnPeerList)
    split
    · exact .failed hbind
    · exact .other hbind
  · rename_i herror
    unfold turnConnectionHandleStun
    by_cases hstun : IS_STUN_PACKET pBuffer = true
    · rw [if_neg (by simp [hstun, herror])]
      dsimp only
      have hother : getUnalignedInt16BigEndian pBuffer 0 ≠
          STUN_PACKET_TYPE_CHANNEL_BIND_SUCCESS_RESPONSE → ¬BindSuccess pBuffer :=
        fun htype h => htype h.2
      split
      · rename_i htype
        rw [allocateSucceeded_peers]
        exact .other (hother (by rw [htype]; decide))
      · split
        · rename_i htype
          rw [refreshSucceeded_peers]
          exact .other (hother (by rw [htype]; decide))
        · split
          · rename_i htype
            exact .permission (hother (by rw [htype]; decide))
          · split
            · rename_i htype
              exact .channel ⟨hstun, htype⟩
            · rename_i htype
              exact .other (hother htype)
    · rw [if_pos (by simp [hstun])]
      exact .other fun h => hstun h.1

end

/-! ## Steps -/

/-- Each id in the store is that of a request for the peer, or stands in an unused slot. -/
def TurnPeer.Own (p : TurnPeer) : Prop :=
  ∀ id ∈ p.pTransactionIdStore.transactionIds, id = unusedId ∨ id ∈ p.requests

structure Formed (c : TurnConnection) : Prop where
  table : PeerTable c.table
  own : ∀ p ∈ c.turnPeerList, p.Own

theorem TurnPeer.Kept.own {p p' : TurnPeer} (hkept : p.Kept p') (h : p.Own) : p'.Own := by
  intro id hid
  rcases hkept.stored id hid with hid | hid
  · exact (h id hid).imp_right fun hid => hkept.requests hid
  · exact .inr hid

theorem Quiet.kept (h : Quiet c c') {i : Nat} {p p' : TurnPeer} (hp : c.turnPeerList[i]? = some p)
    (hp' : c'.turnPeerList[i]? = some p') : p.Kept p' := by
  obtain ⟨hlt, hget⟩ := List.getElem?_eq_some_iff.mp hp
  obtain ⟨hlt', hget'⟩ := List.getElem?_eq_some_iff.mp hp'
  have hkept := List.Forall₂.get h hlt hlt'
  change TurnPeer.Kept (c.turnPeerList[i]) (c'.turnPeerList[i]) at hkept
  rwa [hget, hget'] at hkept

theorem Quiet.before (h : Quiet c c') {i : Nat} {p' : TurnPeer}
    (hp' : c'.turnPeerList[i]? = some p') : ∃ p, c.turnPeerList[i]? = some p ∧ p.Kept p' := by
  obtain ⟨hlt, -⟩ := List.getElem?_eq_some_iff.mp hp'
  have hlen := List.Forall₂.length_eq h
  have hp := List.getElem?_eq_getElem (l := c.turnPeerList) (i := i) (by omega)
  exact ⟨_, hp, h.kept hp hp'⟩

theorem Quiet.formed (hquiet : Quiet c c') (h : Formed c) : Formed c' := by
  refine ⟨by rw [hquiet.table]; exact h.table, fun p' hp' => ?_⟩
  obtain ⟨i, hi⟩ := List.mem_iff_getElem?.mp hp'
  obtain ⟨p, hp, hkept⟩ := hquiet.before hi
  exact hkept.own (h.own p (List.mem_of_getElem? hp))

theorem formed_refreshPeers (h : Formed c) : Formed (refreshPeers s c) := by
  refine ⟨?_, ?_⟩
  · have htable : (refreshPeers s c).table = c.table := by
      change List.map _ (List.map _ _) = List.map _ _
      rw [List.map_map]
      rfl
    rw [htable]
    exact h.table
  · intro p hp
    obtain ⟨q, hq, rfl⟩ := List.mem_map.mp hp
    exact h.own q hq

theorem own_newPeer (a : KvsIpAddress) (n : Nat) : (newPeer a n).Own :=
  fun _ hid => .inl (List.eq_of_mem_replicate hid)

theorem Formed.addPeer (h : Formed c) (a : KvsIpAddress) :
    Formed (turnConnectionAddPeer c a).1 := by
  refine ⟨?_, ?_⟩
  · rw [table_addPeer]
    split
    · exact h.table
    · exact h.table.add a
  · unfold turnConnectionAddPeer
    repeat' split
    · exact h.own
    · exact h.own
    · exact h.own
    · intro p hp
      rcases List.mem_append.mp hp with hp | hp
      · exact h.own p hp
      · rw [List.mem_singleton.mp hp]
        exact own_newPeer a _

/-- What a response leaves alone. -/
def TurnPeer.key (p : TurnPeer) : Turn.TurnPeer × TransactionIdStore × List Bytes :=
  (p.toTurnPeer, p.pTransactionIdStore, p.requests)

theorem Response.keys {pBuffer : Bytes} {time : Nat} {peers peers' : List TurnPeer}
    (h : Response pBuffer time peers peers') :
    peers'.map TurnPeer.key = peers.map TurnPeer.key := by
  cases h with
  | other => rfl
  | permission =>
    rw [List.map_map]
    refine List.map_congr_left fun p _ => ?_
    change TurnPeer.key (permissionGranted _ _ p) = p.key
    unfold permissionGranted
    split <;> rfl
  | channel =>
    refine map_modifyFirst _ (fun p => ?_) _
    rfl
  | failed =>
    refine map_modifyFirst _ (fun p => ?_) _
    rfl

theorem Response.formed {pBuffer : Bytes} {time : Nat}
    (hresponse : Response pBuffer time c.turnPeerList c'.turnPeerList) (h : Formed c) :
    Formed c' := by
  have hkeys := hresponse.keys
  refine ⟨?_, fun p' hp' => ?_⟩
  · have htable := congrArg (List.map Prod.fst) hkeys
    rw [List.map_map, List.map_map] at htable
    change c'.table = c.table at htable
    rw [htable]
    exact h.table
  · have hmem : p'.key ∈ c.turnPeerList.map TurnPeer.key := hkeys ▸ List.mem_map_of_mem hp'
    obtain ⟨p, hp, hkey⟩ := List.mem_map.mp hmem
    obtain ⟨-, hrest⟩ := Prod.mk.inj hkey
    obtain ⟨hstore, hrequests⟩ := Prod.mk.inj hrest
    intro id hid
    rw [← hstore] at hid
    rw [← hrequests]
    exact h.own p hp id hid

/-- **Every step keeps the peers formed.** -/
theorem Formed.step (h : Formed c) (e : Event) : Formed (step w c e) := by
  cases e with
  | addPeer a => exact h.addPeer a
  | receive pBuffer time => exact (handleStunMessage_peers w.hmac w.crc32 c pBuffer time).formed h
  | round s s' =>
    obtain ⟨hrefresh, hquiet⟩ := round_peers w s s' c
    by_cases hr : Refreshes s c
    · exact (hrefresh hr).formed (formed_refreshPeers h)
    · exact (hquiet hr).formed h
  | afterFailure s =>
    obtain ⟨hrefresh, hquiet⟩ := stepStateMachine_peers w s c
    by_cases hr : Refreshes s c
    · exact (hrefresh hr).formed (formed_refreshPeers h)
    · exact (hquiet hr).formed h
  | shutdown => exact ⟨h.table, h.own⟩

/-! ## What may happen to a peer -/

def BecomesReady (p p' : TurnPeer) : Prop :=
  p.ready = false ∧ p'.ready = true ∨ p.connectionState ≠ .READY ∧ p'.connectionState = .READY

/-- The event is a step of the machine that refreshes, and all peers need a permission again. -/
def Refreshed (w : Host) (c : TurnConnection) (e : Event) : Prop :=
  (∃ s, Refreshes s c ∧ ((∃ s', e = .round s s') ∨ e = .afterFailure s)) ∧
    ∀ p ∈ (step w c e).turnPeerList, p.connectionState = .CREATE_PERMISSION

/-- A peer becomes ready when it waits for a channel and the answer to a request of its own comes,
and one that failed is left to a refresh. -/
def Lawful (w : Host) (c : TurnConnection) (e : Event) : Prop :=
  ∀ (i : Nat) (p p' : TurnPeer), c.turnPeerList[i]? = some p →
    (step w c e).turnPeerList[i]? = some p' →
    (BecomesReady p p' → ∃ pBuffer time, e = .receive pBuffer time ∧ BindSuccess pBuffer ∧
      p.connectionState = .BIND_CHANNEL ∧ transactionIdOf pBuffer ∈ p.requests) ∧
    (p.connectionState = .FAILED → p'.connectionState ≠ .FAILED → Refreshed w c e)

/-- A channel that is bound for the zero id is bound for a peer that had it drawn. -/
def Genuine (c : TurnConnection) : Event → Prop
  | .receive pBuffer _ => BindSuccess pBuffer → transactionIdOf pBuffer = unusedId →
    ∀ p, c.turnPeerList.find? (awaitsBind unusedId) = some p → unusedId ∈ p.requests
  | _ => True

theorem not_becomesReady {p p' : TurnPeer} (hready : p'.ready = p.ready)
    (hstate : p'.connectionState = .READY → p.connectionState = .READY) : ¬BecomesReady p p' := by
  rintro (⟨hnot, hnow⟩ | ⟨hnot, hnow⟩)
  · rw [hready, hnot] at hnow
    cases hnow
  · exact hnot (hstate hnow)

theorem lawful_of_same {e : Event} (h : ∀ (i : Nat) (p p' : TurnPeer), c.turnPeerList[i]? = some p →
    (step w c e).turnPeerList[i]? = some p' →
    p'.ready = p.ready ∧ p'.connectionState = p.connectionState) : Lawful w c e := by
  intro i p p' hp hp'
  obtain ⟨hready, hstate⟩ := h i p p' hp hp'
  refine ⟨fun hbecomes => absurd hbecomes (not_becomesReady hready fun h => ?_), fun hfailed hnot =>
    absurd (hstate.trans hfailed) hnot⟩
  rw [← hstate, h]

theorem lawful_of_quiet {e : Event} (h : Quiet c (step w c e)) : Lawful w c e :=
  lawful_of_same fun _ _ _ hp hp' => ⟨(h.kept hp hp').ready, (h.kept hp hp').connectionState⟩

theorem lawful_of_refresh {e : Event} (hrefresh : Refreshes s c)
    (he : (∃ s', e = .round s s') ∨ e = .afterFailure s)
    (h : Quiet (refreshPeers s c) (step w c e)) : Lawful w c e := by
  have hafter : ∀ p ∈ (step w c e).turnPeerList, p.connectionState = .CREATE_PERMISSION := by
    intro p' hp'
    obtain ⟨i, hi⟩ := List.mem_iff_getElem?.mp hp'
    obtain ⟨p, hp, hkept⟩ := h.before hi
    obtain ⟨q, -, rfl⟩ := List.mem_map.mp (List.mem_of_getElem? hp)
    exact hkept.connectionState
  intro i p p' hp hp'
  refine ⟨fun hbecomes => ?_, fun _ _ => ⟨⟨s, hrefresh, he⟩, hafter⟩⟩
  have hreset : (refreshPeers s c).turnPeerList[i]? =
      some { p with connectionState := .CREATE_PERMISSION } := by
    change (List.map _ c.turnPeerList)[i]? = _
    rw [List.getElem?_map, hp]
    rfl
  refine absurd hbecomes (not_becomesReady (h.kept hreset hp').ready fun hready => ?_)
  rw [hafter p' (List.mem_of_getElem? hp')] at hready
  cases hready

theorem lawful_addPeer (a : KvsIpAddress) : Lawful w c (.addPeer a) := by
  have hprefix : c.turnPeerList <+: (turnConnectionAddPeer c a).1.turnPeerList := by
    unfold turnConnectionAddPeer
    repeat' split
    · exact List.prefix_refl _
    · exact List.prefix_refl _
    · exact List.prefix_refl _
    · exact List.prefix_append _ _
  refine lawful_of_same fun i p p' hp hp' => ?_
  obtain ⟨hlt, -⟩ := List.getElem?_eq_some_iff.mp hp
  change (turnConnectionAddPeer c a).1.turnPeerList[i]? = some p' at hp'
  obtain ⟨added, hadded⟩ := hprefix
  rw [← hadded, List.getElem?_append_left hlt, hp] at hp'
  cases hp'
  exact ⟨rfl, rfl⟩

/-- A message that binds no channel makes no peer ready, and leaves a failed one. -/
theorem lawful_of_response {pBuffer : Bytes} {time : Nat} (hbind : ¬BindSuccess pBuffer) :
    Lawful w c (.receive pBuffer time) := by
  intro i p p' hp hp'
  have hresponse := handleStunMessage_peers w.hmac w.crc32 c pBuffer time
  change (handleStunMessage w.hmac w.crc32 c pBuffer time).turnPeerList[i]? = some p' at hp'
  generalize (handleStunMessage w.hmac w.crc32 c pBuffer time).turnPeerList = peers at hresponse hp'
  have hkeeps : p'.ready = p.ready ∧
      (p'.connectionState = .READY → p.connectionState = .READY) ∧
      (p.connectionState = .FAILED → p'.connectionState = .FAILED) := by
    cases hresponse with
    | other =>
      rw [hp] at hp'
      cases hp'
      exact ⟨rfl, id, id⟩
    | permission =>
      rw [List.getElem?_map, hp] at hp'
      cases hp'
      unfold permissionGranted
      split
      · refine ⟨rfl, ?_, ?_⟩
        · intro hready
          split at hready
          · cases hready
          · exact hready
        · intro hfailed
          rw [hfailed, if_neg (by decide)]
      · exact ⟨rfl, id, id⟩
    | channel h => exact absurd h hbind
    | failed =>
      rcases modifyFirst_cases hp hp' with rfl | ⟨rfl, -⟩
      · exact ⟨rfl, id, id⟩
      · exact ⟨rfl, nofun, fun _ => rfl⟩
  obtain ⟨hready, hstate, hfailed⟩ := hkeeps
  exact ⟨fun hbecomes => absurd hbecomes (not_becomesReady hready hstate),
    fun h hnot => absurd (hfailed h) hnot⟩

theorem channelBound_of_bindSuccess {pBuffer : Bytes} (h : BindSuccess pBuffer) (time : Nat) :
    (handleStunMessage w.hmac w.crc32 c pBuffer time).turnPeerList =
      channelBound (transactionIdOf pBuffer) c.turnPeerList := by
  have hresponse := handleStunMessage_peers w.hmac w.crc32 c pBuffer time
  generalize (handleStunMessage w.hmac w.crc32 c pBuffer time).turnPeerList = peers at hresponse ⊢
  cases hresponse with
  | channel => rfl
  | other hnot => exact absurd h hnot
  | permission hnot => exact absurd h hnot
  | failed hnot => exact absurd h hnot

theorem awaitsBind_iff {id : Bytes} {p : TurnPeer} : awaitsBind id p = true ↔
    p.connectionState = .BIND_CHANNEL ∧ id ∈ p.pTransactionIdStore.transactionIds := by
  unfold awaitsBind
  rw [Bool.and_eq_true, decide_eq_true_eq, hasId_iff_mem]

/-- **A channel that is bound.** -/
theorem lawful_bind_iff (h : Formed c) {pBuffer : Bytes} (hbind : BindSuccess pBuffer)
    (time : Nat) : Lawful w c (.receive pBuffer time) ↔ Genuine c (.receive pBuffer time) := by
  constructor
  · intro hlawful _ hunused p hfind
    obtain ⟨i, hp, hp'⟩ := modifyFirst_first (f := fun p : TurnPeer =>
      { p with ready := true, connectionState := .READY }) hfind
    obtain ⟨hwaits, -⟩ := awaitsBind_iff.mp (List.find?_some hfind)
    have hstep : (step w c (.receive pBuffer time)).turnPeerList[i]? =
        some { p with ready := true, connectionState := .READY } := by
      change (handleStunMessage w.hmac w.crc32 c pBuffer time).turnPeerList[i]? = _
      rw [channelBound_of_bindSuccess hbind, hunused]
      exact hp'
    obtain ⟨buffer, time', heq, -, -, hmem⟩ :=
      (hlawful i p _ hp hstep).1 (.inr ⟨by rw [hwaits]; decide, rfl⟩)
    cases heq
    rwa [hunused] at hmem
  · intro hgenuine i p p' hp hp'
    change (handleStunMessage w.hmac w.crc32 c pBuffer time).turnPeerList[i]? = some p' at hp'
    rw [channelBound_of_bindSuccess hbind] at hp'
    rcases modifyFirst_cases hp hp' with rfl | ⟨rfl, hfind⟩
    · exact ⟨fun hbecomes => absurd hbecomes (not_becomesReady rfl id),
        fun hfailed hnot => absurd hfailed hnot⟩
    · obtain ⟨hwaits, hid⟩ := awaitsBind_iff.mp (List.find?_some hfind)
      refine ⟨fun _ => ⟨pBuffer, time, rfl, hbind, hwaits, ?_⟩, fun hfailed => ?_⟩
      · -- an id of the store that was not drawn for the peer is the zero id
        rcases h.own p (List.mem_of_getElem? hp) _ hid with hunused | hmem
        · rw [hunused] at hfind ⊢
          exact hgenuine hbind hunused p hfind
        · exact hmem
      · rw [hwaits] at hfailed
        cases hfailed

/-- **At every step, what may happen to a peer is exactly that no answer is a forged one.** -/
theorem lawful_iff_genuine (h : Formed c) (e : Event) : Lawful w c e ↔ Genuine c e := by
  cases e with
  | addPeer a => exact iff_of_true (lawful_addPeer a) trivial
  | receive pBuffer time =>
    by_cases hbind : BindSuccess pBuffer
    · exact lawful_bind_iff h hbind time
    · exact iff_of_true (lawful_of_response hbind) fun hyes => absurd hyes hbind
  | round s s' =>
    obtain ⟨hrefresh, hquiet⟩ := round_peers w s s' c
    refine iff_of_true ?_ trivial
    by_cases hr : Refreshes s c
    · exact lawful_of_refresh hr (.inl ⟨s', rfl⟩) (hrefresh hr)
    · exact lawful_of_quiet (hquiet hr)
  | afterFailure s =>
    obtain ⟨hrefresh, hquiet⟩ := stepStateMachine_peers w s c
    refine iff_of_true ?_ trivial
    by_cases hr : Refreshes s c
    · exact lawful_of_refresh hr (.inr rfl) (hrefresh hr)
    · exact lawful_of_quiet (hquiet hr)
  | shutdown => exact iff_of_true (lawful_of_quiet (quiet_of_eq rfl)) trivial

/-! ## Runs -/

theorem formed_create (username credential : Bytes) (turnServerIpFamily : UINT16) :
    Formed (createTurnConnection username credential turnServerIpFamily) :=
  ⟨peerTable_nil, fun _ hp => nomatch hp⟩

/-- **The peer table in every run.**  The peers are always distinct, numbered and bounded. -/
theorem always_formed (w : Host) (username credential : Bytes) (turnServerIpFamily : UINT16)
    (events : List Event) :
    Always (step w) Formed (createTurnConnection username credential turnServerIpFamily) events :=
  Each.inv (P := fun _ _ => True) (formed_create username credential turnServerIpFamily)
    (fun _ e hc _ => hc.step e) (each_iff.mpr fun _ _ _ _ => trivial)

/-- **The peers are distinct, numbered and at most 32, and what happens to them is lawful, exactly
when no channel is bound for an answer to no request.** -/
theorem peer_table_iff (w : Host) (username credential : Bytes) (turnServerIpFamily : UINT16)
    (events : List Event) :
    (Always (step w) (fun c => PeerTable c.table ∧ ChannelNumbers c.table)
        (createTurnConnection username credential turnServerIpFamily) events ∧
      Each (step w) (Lawful w) (createTurnConnection username credential turnServerIpFamily)
        events) ↔
    Each (step w) Genuine (createTurnConnection username credential turnServerIpFamily) events := by
  have htable := (always_formed w username credential turnServerIpFamily events).mono
    fun c (h : Formed c) => And.intro h.table h.table.channelNumbers
  have hall : Each (step w) (fun _ _ => True)
      (createTurnConnection username credential turnServerIpFamily) events :=
    each_iff.mpr fun _ _ _ _ => trivial
  have hlawful : Each (step w) (Lawful w) _ events ↔ Each (step w) Genuine _ events :=
    Each.iff_of_inv (formed_create username credential turnServerIpFamily)
      (fun _ e hc _ _ => hc.step e) (fun _ e hc _ => lawful_iff_genuine hc e) hall
  exact ⟨fun h => hlawful.mp h.2, fun h => ⟨htable, hlawful.mpr h⟩⟩

/-- A response of the type without attributes, for the zero id. -/
def zeroIdResponse (stunPacketType : UINT16) : Bytes :=
  putUnalignedInt16BigEndian stunPacketType ++ [0, 0, 0x21, 0x12, 0xA4, 0x42] ++ unusedId

/-- No request was sent, and two responses for the zero id make the peer ready. -/
theorem unused_slot_answered :
    ¬∀ (w : Host) (username credential : Bytes) (turnServerIpFamily : UINT16)
      (events : List Event),
      Always (step w) (fun c => PeerTable c.table ∧ ChannelNumbers c.table)
          (createTurnConnection username credential turnServerIpFamily) events ∧
        Each (step w) (Lawful w) (createTurnConnection username credential turnServerIpFamily)
          events := by
  intro h
  let w : Host :=
    { hmac := fun _ _ => [], crc32 := fun _ => 0, rand := fun _ => 0, stack := fun _ => 0,
      closed := fun _ => false, md5 := fun _ => [], createdId := fun _ => [] }
  have hlawful := (h w [] [] KVS_IP_FAMILY_TYPE_IPV4
    [.addPeer ⟨KVS_IP_FAMILY_TYPE_IPV4, 1, List.replicate 16 0, rfl⟩,
      .receive (zeroIdResponse STUN_PACKET_TYPE_CREATE_PERMISSION_SUCCESS_RESPONSE) 0,
      .receive (zeroIdResponse STUN_PACKET_TYPE_CHANNEL_BIND_SUCCESS_RESPONSE) 0]).2.2.2.1
  obtain ⟨buffer, time, heq, -, -, hmem⟩ := (hlawful 0 _ _ rfl rfl).1 (.inr ⟨by decide, by decide⟩)
  cases hmem

end KvsWebrtc.Turn.Machine
