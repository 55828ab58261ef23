import KvsWebrtc.Lib.Steps
import KvsWebrtc.Sctp.BurstErrors
import KvsWebrtc.Sctp.Net
import KvsWebrtc.Sctp.Format
import KvsWebrtc.Sctp.Sender

/-!
# The four-way handshake

Without user messages all packets of a pair of associations are handshake packets (`HsChunk`), and
what they say about their sender's tag and initial TSN is true.

Principal result: `handshake_agreement` — whenever a side is ESTABLISHED, it holds the other side's
verification tag and initial TSN, and the other side is in COOKIE_ECHOED or ESTABLISHED unless it
was closed by T1 or connected anew in the meantime.  Packets that are damaged on the way are lost and
do nothing else (`damage_is_loss`).
-/

namespace KvsWebrtc.Sctp

open ByteOrder

/-- The verification tag and the initial TSN of an endpoint. -/
structure Ident where
  tag : UINT32
  tsn : UINT32

/-- A well-formed cookie that was minted for `peer`. -/
structure SctpCookie.MintedFor (cookie : SctpCookie) (peer : Ident) : Prop where
  magic1 : cookie.magic1 = SCTP_COOKIE_MAGIC1
  magic2 : cookie.magic2 = SCTP_COOKIE_MAGIC2
  peerTag : cookie.peerTag = peer.tag
  peerInitialTsn : cookie.peerInitialTsn = peer.tsn

/-- The value of an INIT or of the fixed part of an INIT-ACK. -/
def Ident.initValue (own : Ident) : Bytes :=
  Sctp.initValue own.tag SCTP_DEFAULT_ARWND (BitVec.ofNat 16 SCTP_MAX_STREAMS)
    (BitVec.ofNat 16 SCTP_MAX_STREAMS) own.tsn

/-- The chunks that `own` sends to `peer` while they exchange no user messages. -/
inductive HsChunk (own peer : Ident) : SctpChunk → Prop where
  | init (rest : Bytes) : HsChunk own peer ⟨SCTP_CHUNK_INIT, 0, own.initValue ++ rest⟩
  | initAck (cookie : SctpCookie) (inStreams outStreams : UINT16) (rest : Bytes)
      (hc : cookie.MintedFor peer) :
    HsChunk own peer ⟨SCTP_CHUNK_INIT_ACK, 0,
      Sctp.initValue own.tag SCTP_DEFAULT_ARWND outStreams inStreams own.tsn ++
      (putUnalignedInt16BigEndian SCTP_PARAM_STATE_COOKIE ++ (putUnalignedInt16BigEndian 48 ++
        (cookie.toBytes ++ rest)))⟩
  | cookieEcho (cookie : SctpCookie) (hc : cookie.MintedFor own) :
    HsChunk own peer ⟨SCTP_CHUNK_COOKIE_ECHO, 0, cookie.toBytes⟩
  | cookieAck : HsChunk own peer ⟨SCTP_CHUNK_COOKIE_ACK, 0, []⟩

/-! ## Reading the chunks -/

theorem findStateCookie_initAck {pre : Bytes} (hpre : pre.length = 16) (cookie : SctpCookie)
    (rest : Bytes) (fuel : Nat) :
    findStateCookie (pre ++ (putUnalignedInt16BigEndian SCTP_PARAM_STATE_COOKIE ++
      (putUnalignedInt16BigEndian 48 ++ (cookie.toBytes ++ rest)))) (fuel + 1) 16 =
      some cookie.toBytes := by
  have hlen : cookie.toBytes.length = 44 := cookie.length_toBytes
  have hfind := findStateCookie_stateCookie hpre (show 4 + cookie.toBytes.length < 65536 by omega) rest fuel
  rw [if_pos (Nat.le_of_eq hlen)] at hfind
  simp only [stateCookie, hlen, List.append_assoc] at hfind
  exact hfind

/-! ## One endpoint -/

/-- An endpoint `own` that has exchanged no user messages with `peer`. -/
structure Quiet (own peer : Ident) (h : Host) : Prop where
  tag : h.assoc.myVerificationTag = own.tag
  tsn : h.assoc.nextTsn = own.tsn
  queue : ∀ i, (h.assoc.sendQueue.get i).inUse = false
  t3 : h.assoc.t3RtxExpiry = 0
  cookie : h.assoc.cookieEchoValid = true →
    ∃ cookie : SctpCookie, cookie.MintedFor own ∧ h.assoc.cookieEchoData = cookie.toBytes
  peer : InSession h →
    h.assoc.peerVerificationTag = peer.tag ∧ h.assoc.peerCumulativeTsn + 1 = peer.tsn

/-- A chunk that is only sent by an endpoint in session. -/
def CookieChunk (c : SctpChunk) : Prop :=
  c.type = SCTP_CHUNK_COOKIE_ECHO ∨ c.type = SCTP_CHUNK_COOKIE_ACK

/-- The packet carries a handshake chunk, and `session` holds if that is a cookie chunk. -/
def HsPacket (own peer : Ident) (session : Prop) (p : OutPacket) : Prop :=
  ∃ vtag c, Carries p.bytes vtag c ∧ HsChunk own peer c ∧ (CookieChunk c → session)

/-- What a call does to a quiet endpoint: it stays quiet, it emits handshake packets, and only a
cookie chunk (`cookieIn`) makes it ESTABLISHED. -/
structure HsMove (own peer : Ident) (cookieIn : Prop) (h h' : Host) : Prop where
  quiet : Quiet own peer h'
  sent : ∃ ps, h'.outbound = h.outbound ++ ps ∧ ∀ p ∈ ps, HsPacket own peer (InSession h') p
  established : h'.assoc.state = .ESTABLISHED → h.assoc.state = .ESTABLISHED ∨ cookieIn
  state : h'.assoc.state = h.assoc.state ∨ InSession h'

section

variable {own peer : Ident} {cookieIn : Prop} {h : Host}

theorem HsMove.refl (hq : Quiet own peer h) : HsMove own peer cookieIn h h :=
  ⟨hq, ⟨[], by simp, by simp⟩, .inl, .inl rfl⟩

theorem sendChunk_outbound (h : Host) (vtag : UINT32) (w : Written) (o : Origin) :
    ∃ p : OutPacket, (sendChunk h vtag w o).outbound = h.outbound ++ [p] ∧
      ∀ c, w.Is c → Carries p.bytes vtag c := by
  obtain ⟨p, hside, hp⟩ := sendChunk_emits h vtag w o
  exact ⟨⟨p, o⟩, congrArg SendSide.outbound hside, hp⟩

theorem sendInit_packet (hq : Quiet own peer h) :
    ∃ p : OutPacket, (sendInit h).outbound = h.outbound ++ [p] ∧
      ∃ rest, Carries p.bytes 0 ⟨SCTP_CHUNK_INIT, 0, own.initValue ++ rest⟩ := by
  obtain ⟨p, hout, hp⟩ := sendChunk_outbound h 0 (sctpWriteInitChunk h.assoc.myVerificationTag
    SCTP_DEFAULT_ARWND (BitVec.ofNat 16 SCTP_MAX_STREAMS) (BitVec.ofNat 16 SCTP_MAX_STREAMS)
    h.assoc.nextTsn) .control
  have hc := hp _ (sctpWriteInitChunk_is _ _ _ _ _)
  rw [List.append_assoc, hq.tag, hq.tsn] at hc
  exact ⟨p, hout, _, hc⟩

theorem sctpHandleInit_packet (hq : Quiet own peer h) (rest : Bytes) :
    ∃ p : OutPacket, (sctpHandleInit h (peer.initValue ++ rest)).outbound = h.outbound ++ [p] ∧
      ∃ c, Carries p.bytes peer.tag c ∧ c.type = SCTP_CHUNK_INIT_ACK ∧ HsChunk own peer c := by
  have hlen : ¬ (peer.initValue ++ rest).length < 16 := by
    rw [List.length_append]
    have := length_initValue peer.tag SCTP_DEFAULT_ARWND (BitVec.ofNat 16 SCTP_MAX_STREAMS)
      (BitVec.ofNat 16 SCTP_MAX_STREAMS) peer.tsn
    have : peer.initValue.length = 16 := this
    omega
  have htag : getUnalignedInt32BigEndian (peer.initValue ++ rest) 0 = peer.tag :=
    get_initValue_tag _ _ _ _ _ rest
  have htsn : getUnalignedInt32BigEndian (peer.initValue ++ rest) 12 = peer.tsn :=
    get_initValue_tsn _ _ _ _ _ rest
  unfold sctpHandleInit
  rw [if_neg hlen]
  simp only [htag, htsn]
  generalize hcookie : SctpCookie.mk _ _ _ _ _ _ _ _ _ _ _ = cookie
  have hmint : cookie.MintedFor peer := by
    subst hcookie
    exact ⟨rfl, rfl, rfl, rfl⟩
  have hclen : cookie.toBytes.length = 44 := cookie.length_toBytes
  obtain ⟨p, hout, hp⟩ := sendChunk_outbound h peer.tag
    (sctpWriteInitAckChunk h.assoc.myVerificationTag SCTP_DEFAULT_ARWND
      (BitVec.ofNat 16 SCTP_MAX_STREAMS) (BitVec.ofNat 16 SCTP_MAX_STREAMS) h.assoc.nextTsn
      cookie.toBytes) .control
  have hc := hp _ (sctpWriteInitAckChunk_is _ _ _ _ _ (by omega) (by omega))
  rw [hclen, hq.tag, hq.tsn, List.append_assoc, List.append_assoc, List.append_assoc,
    List.append_assoc] at hc
  exact ⟨p, hout, _, hc, rfl, .initAck cookie _ _ _ hmint⟩

theorem sctpHandleInitAck_packet (hq : Quiet own peer h) {c : SctpChunk} (hc : HsChunk peer own c)
    (hty : c.type = SCTP_CHUNK_INIT_ACK)
    (hst : h.assoc.state = .COOKIE_WAIT ∨ h.assoc.state = .CLOSED) :
    ∃ p : OutPacket, (sctpHandleInitAck h c.value).outbound = h.outbound ++ [p] ∧
      (∃ cookie : SctpCookie, cookie.MintedFor own ∧
        Carries p.bytes peer.tag ⟨SCTP_CHUNK_COOKIE_ECHO, 0, cookie.toBytes⟩) ∧
      (sctpHandleInitAck h c.value).assoc.state = .COOKIE_ECHOED ∧
      Quiet own peer (sctpHandleInitAck h c.value) := by
  cases hc with
  | init rest => exact absurd hty (show SCTP_CHUNK_INIT ≠ SCTP_CHUNK_INIT_ACK by decide)
  | cookieEcho cookie hmint =>
    exact absurd hty (show SCTP_CHUNK_COOKIE_ECHO ≠ SCTP_CHUNK_INIT_ACK by decide)
  | cookieAck => exact absurd hty (by decide)
  | initAck cookie inStreams outStreams rest hmint =>
    have hpre := length_initValue peer.tag SCTP_DEFAULT_ARWND outStreams inStreams peer.tsn
    generalize hv : initValue peer.tag SCTP_DEFAULT_ARWND outStreams inStreams peer.tsn ++
      (putUnalignedInt16BigEndian SCTP_PARAM_STATE_COOKIE ++ (putUnalignedInt16BigEndian 48 ++
        (cookie.toBytes ++ rest))) = v
    have hlen : 16 ≤ v.length := by
      rw [← hv, List.length_append]
      omega
    have htag : getUnalignedInt32BigEndian v 0 = peer.tag := by
      rw [← hv]
      exact get_initValue_tag _ _ _ _ _ _
    have htsn : getUnalignedInt32BigEndian v 12 = peer.tsn := by
      rw [← hv]
      exact get_initValue_tsn _ _ _ _ _ _
    have hfind : findStateCookie v v.length 16 = some cookie.toBytes := by
      obtain ⟨fuel, hfuel⟩ : ∃ fuel, v.length = fuel + 1 := ⟨v.length - 1, by omega⟩
      rw [hfuel, ← hv]
      exact findStateCookie_initAck hpre cookie rest fuel
    have hguard : ¬ (h.assoc.state ≠ .COOKIE_WAIT ∧ h.assoc.state ≠ .CLOSED) := by
      rintro ⟨h1, h2⟩
      exact hst.elim h1 h2
    unfold sctpHandleInitAck
    simp only
    rw [if_neg (by omega), if_neg hguard, hfind]
    simp only [htag, htsn]
    have hclen : cookie.toBytes.length = 44 := cookie.length_toBytes
    obtain ⟨p, hout, hp⟩ := sendChunk_outbound { h with
      assoc.peerVerificationTag := peer.tag
      assoc.peerArwnd := getUnalignedInt32BigEndian v 4
      assoc.peerCumulativeTsn := peer.tsn - 1
      assoc.peerCumulativeTsnValid := true
      assoc.cookieEchoData := cookie.toBytes
      assoc.cookieEchoValid := true } peer.tag (sctpWriteCookieEchoChunk cookie.toBytes) .control
    refine ⟨p, hout, ⟨cookie, hmint, hp _ (sctpWriteCookieEchoChunk_is (by omega))⟩, trivial, ?_⟩
    exact ⟨hq.tag, hq.tsn, hq.queue, hq.t3, fun _ => ⟨cookie, hmint, rfl⟩,
      fun _ => ⟨rfl, BitVec.sub_add_cancel _ _⟩⟩

theorem sctpHandleCookieEcho_packet (hq : Quiet own peer h) {cookie : SctpCookie}
    (hc : cookie.MintedFor peer) :
    ∃ p : OutPacket, (sctpHandleCookieEcho h cookie.toBytes).outbound = h.outbound ++ [p] ∧
      Carries p.bytes peer.tag ⟨SCTP_CHUNK_COOKIE_ACK, 0, []⟩ ∧
      (sctpHandleCookieEcho h cookie.toBytes).assoc.state = .ESTABLISHED ∧
      Quiet own peer (sctpHandleCookieEcho h cookie.toBytes) := by
  have heq : sctpHandleCookieEcho h cookie.toBytes = acceptCookie h cookie := by
    unfold sctpHandleCookieEcho
    rw [if_neg (by rw [SctpCookie.length_toBytes]; exact Nat.lt_irrefl _)]
    simp only [SctpCookie.ofBytes_toBytes]
    rw [if_neg (by simp [hc.magic1, hc.magic2]), sctpFlushSendQueue_empty]
    intro i
    exact hq.queue i
  rw [heq]
  obtain ⟨p, hout, hp⟩ := sendChunk_outbound { h with
    assoc.peerVerificationTag := cookie.peerTag
    assoc.peerCumulativeTsn := cookie.peerInitialTsn - 1
    assoc.peerCumulativeTsnValid := true
    assoc.peerArwnd := cookie.peerArwnd } cookie.peerTag sctpWriteCookieAckChunk .control
  refine ⟨p, hout, hc.peerTag ▸ hp _ sctpWriteCookieAckChunk_is, rfl, ?_⟩
  refine ⟨hq.tag, hq.tsn, hq.queue, hq.t3, hq.cookie, fun _ => ⟨hc.peerTag, ?_⟩⟩
  exact (BitVec.sub_add_cancel _ _).trans hc.peerInitialTsn

theorem sctpHandleCookieAck_quiet (hq : Quiet own peer h) (hst : h.assoc.state = .COOKIE_ECHOED) :
    sctpHandleCookieAck h = { h with assoc.state := .ESTABLISHED, assoc.t1InitExpiry := 0 } ∧
      Quiet own peer (sctpHandleCookieAck h) := by
  have heq : sctpHandleCookieAck h =
      { h with assoc.state := .ESTABLISHED, assoc.t1InitExpiry := 0 } := by
    unfold sctpHandleCookieAck
    rw [if_neg (fun hne => hne hst), sctpFlushSendQueue_empty]
    intro i
    exact hq.queue i
  refine ⟨heq, ?_⟩
  rw [heq]
  exact ⟨hq.tag, hq.tsn, hq.queue, hq.t3, hq.cookie, fun _ => hq.peer (.inl hst)⟩

theorem Quiet.sendChunk (hq : Quiet own peer h) (vtag : UINT32) (w : Written) (o : Origin) :
    Quiet own peer (sendChunk h vtag w o) :=
  ⟨hq.tag, hq.tsn, hq.queue, hq.t3, hq.cookie, hq.peer⟩

theorem HsMove.send {h' : Host} (hq : Quiet own peer h') {p : OutPacket}
    (hout : h'.outbound = h.outbound ++ [p]) (hst : h'.assoc.state = h.assoc.state)
    (hp : HsPacket own peer (InSession h') p) : HsMove own peer cookieIn h h' := by
  refine ⟨hq, ⟨[p], hout, fun p' hp' => ?_⟩, fun hest => .inl (hst ▸ hest), .inl hst⟩
  rw [List.mem_singleton.mp hp']
  exact hp

theorem HsPacket.init {session : Prop} {p : OutPacket} {vtag : UINT32} {rest : Bytes}
    (hp : Carries p.bytes vtag ⟨SCTP_CHUNK_INIT, 0, own.initValue ++ rest⟩) :
    HsPacket own peer session p := by
  refine ⟨_, _, hp, .init rest, ?_⟩
  rintro (h | h) <;> exact absurd h (show SCTP_CHUNK_INIT ≠ _ by decide)

theorem sctpChunkDispatch_hsMove (hq : Quiet own peer h) {c : SctpChunk} (hc : HsChunk peer own c)
    (messageFn : Bool) : HsMove own peer (CookieChunk c) h (sctpChunkDispatch messageFn h c) := by
  have hcases := hc
  cases hcases with
  | init rest =>
    rw [sctpChunkDispatch_init rfl]
    obtain ⟨p, hout, c, hcar, hty, hc⟩ := sctpHandleInit_packet hq rest
    refine .send ?_ hout ?_ ⟨_, c, hcar, hc, ?_⟩
    · rcases sctpHandleInit_sends h (peer.initValue ++ rest) with heq | ⟨vtag, w, heq⟩
      · rw [heq]
        exact hq
      · rw [heq]
        exact hq.sendChunk vtag w .control
    · rcases sctpHandleInit_sends h (peer.initValue ++ rest) with heq | ⟨vtag, w, heq⟩
      · rw [heq]
      · rw [heq]
        rfl
    · rintro (hcc | hcc)
      · exact absurd (hty.symm.trans hcc) (by decide)
      · exact absurd (hty.symm.trans hcc) (by decide)
  | initAck cookie inStreams outStreams rest hmint =>
    rw [sctpChunkDispatch_initAck rfl]
    by_cases hst : h.assoc.state = .COOKIE_WAIT ∨ h.assoc.state = .CLOSED
    · obtain ⟨p, hout, ⟨cookie, hmint, hcar⟩, hst', hq'⟩ := sctpHandleInitAck_packet hq hc rfl hst
      have hin : InSession (sctpHandleInitAck h _) := Or.inl hst'
      refine ⟨hq', ⟨[p], hout, fun p' hp' => ?_⟩, fun hest => ?_, .inr hin⟩
      · rw [List.mem_singleton.mp hp']
        exact ⟨_, _, hcar, .cookieEcho cookie hmint, fun _ => hin⟩
      · rw [hst'] at hest
        cases hest
    · have heq : ∀ v, sctpHandleInitAck h v = h := by
        intro v
        unfold sctpHandleInitAck
        rw [not_or] at hst
        rw [if_pos hst, ite_self]
      rw [heq]
      exact .refl hq
  | cookieEcho cookie hmint =>
    rw [sctpChunkDispatch_cookieEcho rfl]
    obtain ⟨p, hout, hcar, hst, hq'⟩ := sctpHandleCookieEcho_packet hq hmint
    have hin : InSession (sctpHandleCookieEcho h cookie.toBytes) := Or.inr hst
    refine ⟨hq', ⟨[p], hout, fun p' hp' => ?_⟩, fun _ => Or.inr (Or.inl rfl), Or.inr hin⟩
    rw [List.mem_singleton.mp hp']
    exact ⟨_, _, hcar, .cookieAck, fun _ => hin⟩
  | cookieAck =>
    rw [sctpChunkDispatch_cookieAck rfl]
    by_cases hst : h.assoc.state = .COOKIE_ECHOED
    · obtain ⟨heq, hq'⟩ := sctpHandleCookieAck_quiet hq hst
      have hst' : (sctpHandleCookieAck h).assoc.state = .ESTABLISHED := by rw [heq]
      refine ⟨hq', ⟨[], ?_, by simp⟩, fun _ => Or.inr (Or.inr rfl), Or.inr (Or.inr hst')⟩
      rw [heq, List.append_nil]
    · have heq : sctpHandleCookieAck h = h := by
        unfold sctpHandleCookieAck
        rw [if_pos hst]
      rw [heq]
      exact .refl hq

theorem sctpAssocHandlePacket_hsMove (hq : Quiet own peer h) {p : Bytes} {vtag : UINT32}
    {c : SctpChunk} (hp : Carries p vtag c) (hc : HsChunk peer own c) (messageFn : Bool) :
    HsMove own peer (CookieChunk c) h (sctpAssocHandlePacket h messageFn p) := by
  rw [sctpAssocHandlePacket_carries hp]
  split
  · exact .refl hq
  · exact sctpChunkDispatch_hsMove hq hc messageFn

theorem sctpAssocConnect_packet (hq : Quiet own peer h) :
    Quiet own peer (sctpAssocConnect h) ∧ ∃ p : OutPacket,
      (sctpAssocConnect h).outbound = h.outbound ++ [p] ∧
      ∃ rest, Carries p.bytes 0 ⟨SCTP_CHUNK_INIT, 0, own.initValue ++ rest⟩ := by
  refine ⟨⟨hq.tag, hq.tsn, hq.queue, hq.t3, hq.cookie, fun hin => ?_⟩, sendInit_packet hq⟩
  rcases hin with hin | hin <;> cases hin

theorem Quiet.backOff (hq : Quiet own peer h) : Quiet own peer (backOff h) :=
  ⟨hq.tag, hq.tsn, hq.queue, hq.t3, hq.cookie, hq.peer⟩

theorem checkT1_hsMove (hq : Quiet own peer h) (nowMs : UINT64) :
    (checkT1 h nowMs).2 = true ∧ Quiet own peer (checkT1 h nowMs).1 ∧
        (checkT1 h nowMs).1.outbound = h.outbound ∧
        (checkT1 h nowMs).1.assoc.state = .CLOSED ∨
      (checkT1 h nowMs).2 = false ∧ HsMove own peer False h (checkT1 h nowMs).1 := by
  unfold checkT1
  split
  · simp only
    have hq1 : Quiet own peer { h with
        assoc.initRetransmitCount := h.assoc.initRetransmitCount + 1 } :=
      ⟨hq.tag, hq.tsn, hq.queue, hq.t3, hq.cookie, hq.peer⟩
    split
    · refine .inl ⟨rfl, ⟨hq.tag, hq.tsn, hq.queue, hq.t3, hq.cookie, fun hin => ?_⟩, rfl, rfl⟩
      rcases hin with hin | hin <;> cases hin
    · refine .inr ⟨rfl, ?_⟩
      have hq2 := hq1.backOff
      split
      · obtain ⟨p, hout, rest, hcar⟩ := sendInit_packet hq2
        have hq3 : Quiet own peer (sendInit _) := hq2.sendChunk _ _ _
        exact .send ⟨hq3.tag, hq3.tsn, hq3.queue, hq3.t3, hq3.cookie, hq3.peer⟩ hout rfl
          (.init hcar)
      · split
        · rename_i hecho
          obtain ⟨cookie, hmint, hdata⟩ := hq2.cookie hecho.2
          have hclen : cookie.toBytes.length = 44 := cookie.length_toBytes
          rw [hdata]
          obtain ⟨p, hout, hcar⟩ := sendChunk_outbound (Sctp.backOff { h with
            assoc.initRetransmitCount := h.assoc.initRetransmitCount + 1 })
            (Sctp.backOff { h with
              assoc.initRetransmitCount := h.assoc.initRetransmitCount + 1
              }).assoc.peerVerificationTag (sctpWriteCookieEchoChunk cookie.toBytes) .control
          have hin : InSession h := Or.inl hecho.1
          exact .send ⟨hq.tag, hq.tsn, hq.queue, hq.t3, hq.cookie, hq.peer⟩ hout rfl
            ⟨_, _, hcar _ (sctpWriteCookieEchoChunk_is (by omega)), .cookieEcho cookie hmint,
              fun _ => hin⟩
        · refine ⟨⟨hq.tag, hq.tsn, hq.queue, hq.t3, hq.cookie, hq.peer⟩, ⟨[], ?_, by simp⟩, .inl,
            .inl rfl⟩
          rw [List.append_nil]
          rfl
  · exact .inr ⟨rfl, .refl hq⟩

theorem sctpAssocCheckTimers_quiet (hq : Quiet own peer h) (nowMs : UINT64) :
    sctpAssocCheckTimers h nowMs = (checkT1 h nowMs).1 := by
  have ht3 : (checkT1 h nowMs).1.assoc.t3RtxExpiry = 0 := by
    rcases checkT1_hsMove hq nowMs with ⟨_, hq', _⟩ | ⟨_, hmove⟩
    · exact hq'.t3
    · exact hmove.quiet.t3
  have hno : ¬ ((checkT1 h nowMs).1.assoc.t3RtxExpiry ≠ 0 ∧
      nowMs ≥ (checkT1 h nowMs).1.assoc.t3RtxExpiry) := fun hne => hne.1 ht3
  unfold sctpAssocCheckTimers checkT3
  simp only
  rw [if_neg hno, ite_self]

end

/-! ## The invariant of the pair -/

/-- Where an endpoint stands that was once in session. -/
def Standing (e : Endpoint) : Prop :=
  InSession e.host ∨ (e.host.assoc.state = .CLOSED ∧ e.t1Closed = true) ∨
    (e.host.assoc.state = .COOKIE_WAIT ∧ e.reconnected = true)

structure EndpointOk (own peer : Ident) (e : Endpoint) : Prop where
  quiet : Quiet own peer e.host
  sent : ∀ p ∈ e.host.outbound, HsPacket own peer (e.reached = true) p
  reached : InSession e.host → e.reached = true
  standing : e.reached = true → Standing e

/-- Both endpoints are sound, and one that is ESTABLISHED has a peer that was in session. -/
structure NetOk (ident : Side → Ident) (n : Net) : Prop where
  endpoint : ∀ s, EndpointOk (ident s) (ident s.other) (n s)
  peer : ∀ s, (n s).host.assoc.state = .ESTABLISHED → (n s.other).reached = true

section

variable {own peer : Ident} {e : Endpoint} {op : Op} {ident : Side → Ident} {n : Net}

theorem EndpointOk.step_sent (he : EndpointOk own peer e) (ps : List OutPacket)
    (hout : (e.host.step op).outbound = e.host.outbound ++ ps)
    (hps : ∀ p ∈ ps, HsPacket own peer (InSession (e.host.step op)) p) :
    ∀ p ∈ (e.step op).host.outbound, HsPacket own peer ((e.step op).reached = true) p := by
  intro p hp
  have hp : p ∈ e.host.outbound ++ ps := hout ▸ hp
  rcases List.mem_append.mp hp with hp | hp
  · obtain ⟨vtag, c, hcar, hc, hr⟩ := he.sent p hp
    refine ⟨vtag, c, hcar, hc, fun hcc => ?_⟩
    simp [Endpoint.step, hr hcc]
  · obtain ⟨vtag, c, hcar, hc, hr⟩ := hps p hp
    refine ⟨vtag, c, hcar, hc, fun hcc => ?_⟩
    simp [Endpoint.step, hr hcc]

theorem Endpoint.step_reached (h : InSession (e.step op).host) : (e.step op).reached = true := by
  have h : InSession (e.host.step op) := h
  simp [Endpoint.step, h]

theorem EndpointOk.step_move (he : EndpointOk own peer e) {cookieIn : Prop}
    (hmove : HsMove own peer cookieIn e.host (e.host.step op)) :
    EndpointOk own peer (e.step op) := by
  obtain ⟨ps, hout, hps⟩ := hmove.sent
  refine ⟨hmove.quiet, he.step_sent _ hout hps, Endpoint.step_reached, fun hr => ?_⟩
  by_cases hin : InSession (e.step op).host
  · exact .inl hin
  · have hst : (e.host.step op).assoc.state = e.host.assoc.state := hmove.state.resolve_right hin
    have hin' : ¬ InSession (e.host.step op) := hin
    have hold : e.reached = true := by simpa [Endpoint.step, hin'] using hr
    rcases he.standing hold with h | h | h
    · exact absurd (show InSession (e.step op).host from h.imp (hst.trans ·) (hst.trans ·)) hin
    · refine .inr (.inl ⟨hst.trans h.1, ?_⟩)
      simp [Endpoint.step, h.2]
    · refine .inr (.inr ⟨hst.trans h.1, ?_⟩)
      simp [Endpoint.step, h.2]

theorem EndpointOk.step_connect (he : EndpointOk own peer e) :
    EndpointOk own peer (e.step .connect) := by
  obtain ⟨hq, p, hout, rest, hcar⟩ := sctpAssocConnect_packet he.quiet
  have hps : ∀ p' ∈ [p], HsPacket own peer (InSession (e.host.step .connect)) p' := by
    intro p' hp'
    rw [List.mem_singleton.mp hp']
    exact .init hcar
  refine ⟨hq, he.step_sent _ hout hps, Endpoint.step_reached, fun hr => ?_⟩
  have hin : ¬ InSession (e.host.step .connect) := by
    rintro (hin | hin) <;> cases hin
  have hold : e.reached = true := by simpa [Endpoint.step, hin] using hr
  refine .inr (.inr ⟨rfl, ?_⟩)
  simp [Endpoint.step, Op.isConnect, hold]

theorem EndpointOk.step_checkTimers (he : EndpointOk own peer e) (nowMs : UINT64) :
    EndpointOk own peer (e.step (.checkTimers nowMs)) := by
  have heq : e.host.step (.checkTimers nowMs) = (checkT1 e.host nowMs).1 :=
    sctpAssocCheckTimers_quiet he.quiet nowMs
  rcases checkT1_hsMove he.quiet nowMs with ⟨hflag, hq, hout, hst⟩ | ⟨_, hmove⟩
  · rw [← heq] at hq hout hst
    refine ⟨hq, he.step_sent [] (by rw [hout, List.append_nil]) (by simp),
      Endpoint.step_reached, fun _ => .inr (.inl ⟨hst, ?_⟩)⟩
    simp [Endpoint.step, t1RunsOut, hflag]
  · rw [← heq] at hmove
    exact he.step_move hmove

theorem NetOk.act (hn : NetOk ident n) (s : Side) {op : Op}
    (he : EndpointOk (ident s) (ident s.other) ((n s).step op))
    (hest : ((n s).host.step op).assoc.state = .ESTABLISHED →
      (n s).host.assoc.state = .ESTABLISHED ∨ (n s.other).reached = true) :
    NetOk ident (n.act s op) := by
  refine ⟨fun t => ?_, fun t ht => ?_⟩
  · rcases s.eq_or_other t with rfl | rfl
    · rw [Net.act_self]
      exact he
    · rw [Net.act_other]
      exact hn.endpoint s.other
  · rcases s.eq_or_other t with rfl | rfl
    · rw [Net.act_other]
      rw [Net.act_self] at ht
      exact (hest ht).elim (hn.peer t) id
    · rw [Net.act_other] at ht
      rw [Side.other_other, Net.act_self]
      have hold : (n s).reached = true := by simpa using hn.peer s.other ht
      simp [Endpoint.step, hold]

/-- **One event.** -/
theorem NetOk.step (hn : NetOk ident n) {ev : NetEvent} (hev : ∀ s m, ev ≠ .send s m) :
    NetOk ident (n.step ev) := by
  cases ev with
  | connect s =>
    exact hn.act s (hn.endpoint s).step_connect (fun hest => by cases hest)
  | send s m => exact absurd rfl (hev s m)
  | checkTimers s nowMs =>
    refine hn.act s ((hn.endpoint s).step_checkTimers nowMs) (fun hest => ?_)
    rw [Host.step_checkTimers, sctpAssocCheckTimers_quiet (hn.endpoint s).quiet] at hest
    rcases checkT1_hsMove (hn.endpoint s).quiet nowMs with ⟨_, _, _, hst⟩ | ⟨_, hmove⟩
    · rw [hst] at hest
      cases hest
    · exact (hmove.established hest).elim .inl False.elim
  | deliver s messageFn k =>
    unfold Net.step
    dsimp only
    split
    · exact hn
    · rename_i p hp
      obtain ⟨vtag, c, hcar, hc, hcookie⟩ :=
        (hn.endpoint s.other).sent p (List.mem_of_getElem? hp)
      rw [Side.other_other] at hc
      have hmove := sctpAssocHandlePacket_hsMove (hn.endpoint s).quiet hcar hc messageFn
      exact hn.act s ((hn.endpoint s).step_move hmove)
        (fun hest => (hmove.established hest).imp_right hcookie)

/-- The identity of each side, from its clock. -/
def Net.identity (clock : Side → Nat → UINT64) (s : Side) : Ident :=
  ⟨sctpGenerateTag (clock s), sctpGenerateTag (clock s)⟩

theorem Net.init_ok (clock : Side → Nat → UINT64) (localPort remotePort mtu : Side → UINT16) :
    NetOk (Net.identity clock) (Net.init clock localPort remotePort mtu) := by
  refine ⟨fun s => ⟨⟨rfl, rfl, fun _ => rfl, rfl, ?_, ?_⟩, ?_, ?_, ?_⟩, ?_⟩
  · intro h
    cases h
  · rintro (h | h) <;> cases h
  · intro p hp
    cases hp
  · rintro (h | h) <;> cases h
  · intro h
    cases h
  · intro s h
    cases h

/-- **Every run** without user messages. -/
theorem NetOk.run (hn : NetOk ident n) (evs : List NetEvent) (hquiet : ∀ s m, .send s m ∉ evs) :
    NetOk ident (n.run evs) := by
  induction evs generalizing n with
  | nil => exact hn
  | cons ev evs ih =>
    refine ih (hn.step fun s m heq => ?_) (fun s m hmem => hquiet s m (List.mem_cons_of_mem _ hmem))
    exact hquiet s m (heq ▸ List.mem_cons_self)

end

/-- What side `s` of the pair `n`, which started as `start`, may rely on when it is ESTABLISHED: it
holds the tag and the initial TSN of the other side, and the other side is in COOKIE_ECHOED or
ESTABLISHED, or is CLOSED because T1 ran out, or is in COOKIE_WAIT because `sctpAssocConnect` was
called on it again after it had come that far. -/
def Agreed (start n : Net) (s : Side) : Prop :=
  (n s).host.assoc.state = .ESTABLISHED →
    (n s).host.assoc.peerVerificationTag = (n s.other).host.assoc.myVerificationTag ∧
    (n s).host.assoc.peerCumulativeTsn + 1 = (start s.other).host.assoc.nextTsn ∧
    ((n s.other).host.assoc.state = .COOKIE_ECHOED ∨
      (n s.other).host.assoc.state = .ESTABLISHED ∨
      ((n s.other).host.assoc.state = .CLOSED ∧ (n s.other).t1Closed = true) ∨
      ((n s.other).host.assoc.state = .COOKIE_WAIT ∧ (n s.other).reconnected = true))

/-- **Handshake agreement.**  Two fresh associations, connected, ticked and fed with each other's
packets in any way, without user messages, agree whenever one of them is ESTABLISHED. -/
theorem handshake_agreement (clock : Side → Nat → UINT64) (localPort remotePort mtu : Side → UINT16)
    (evs : List NetEvent) (hquiet : ∀ s m, .send s m ∉ evs) (s : Side) :
    Agreed (Net.init clock localPort remotePort mtu)
      ((Net.init clock localPort remotePort mtu).run evs) s := by
  intro hest
  have hn : NetOk (Net.identity clock) ((Net.init clock localPort remotePort mtu).run evs) :=
    (Net.init_ok clock localPort remotePort mtu).run evs hquiet
  obtain ⟨htag, htsn⟩ := (hn.endpoint s).quiet.peer (.inr hest)
  have hstand := (hn.endpoint s.other).standing (hn.peer s hest)
  exact ⟨htag.trans (hn.endpoint s.other).quiet.tag.symm, htsn, or_assoc.mp hstand⟩

/-- After a handshake without loss the right side is ESTABLISHED. -/
theorem handshake_agreement_sample :
    (sampleNet.run sampleHandshake .right).host.assoc.state = .ESTABLISHED ∧
      Agreed sampleNet (sampleNet.run sampleHandshake) .right := by
  refine ⟨by decide +kernel, handshake_agreement _ _ _ _ sampleHandshake (fun s m hmem => ?_) .right⟩
  simp [sampleHandshake] at hmem

/-- `sctpAssocConnect` on the right side after the handshake: the left side stays ESTABLISHED, while
the right side is in COOKIE_WAIT and T1 never ran out. -/
theorem reconnect_leaves_session :
    let n := sampleNet.run (sampleHandshake ++ [.connect .right])
    (n .left).host.assoc.state = .ESTABLISHED ∧
      ¬ ((n .right).host.assoc.state = .COOKIE_ECHOED ∨
        (n .right).host.assoc.state = .ESTABLISHED ∨ (n .right).t1Closed = true) := by
  decide +kernel

/-! ## Damage on the way -/

/-- What happens on a line that also delivers other bytes than those of the `k`-th packet sent. -/
inductive LineEvent where
  | intact (ev : NetEvent)
  | damaged (s : Side) (messageFn : Bool) (k : Nat) (q : Bytes)

def Net.lineStep (n : Net) : LineEvent → Net
  | .intact ev => n.step ev
  | .damaged s messageFn _ q => n.act s (.handlePacket messageFn q)

/-- No user messages, and bursts as the only damage. -/
def BurstsOnly (n : Net) : LineEvent → Prop
  | .intact ev => ∀ s m, ev ≠ .send s m
  | .damaged s _ k q => ∃ p, (n s.other).host.outbound[k]? = some p ∧ Burst p.bytes q

/-- The event, unless it is damage. -/
def LineEvent.intact? : LineEvent → Option NetEvent
  | .intact ev => some ev
  | .damaged .. => none

theorem sctpAssocHandlePacket_burst {p q : Bytes} {vtag : UINT32} {c : SctpChunk}
    (hp : Carries p vtag c) (hq : Burst p q) (h : Host) (messageFn : Bool) :
    sctpAssocHandlePacket h messageFn q = h := by
  have hstatus := hq.rejected hp.length hp.checksum h.assoc.myVerificationTag
  unfold sctpAssocHandlePacket
  split
  · rfl
  · exact if_pos (by rw [hstatus]; decide)

theorem NetOk.damaged {ident : Side → Ident} {n : Net} (hn : NetOk ident n) {s : Side} {k : Nat}
    {p : OutPacket} {q : Bytes} (hp : (n s.other).host.outbound[k]? = some p)
    (hq : Burst p.bytes q) (messageFn : Bool) : n.act s (.handlePacket messageFn q) = n := by
  obtain ⟨vtag, c, hcarries, -⟩ := (hn.endpoint s.other).sent p (List.mem_of_getElem? hp)
  have hhost : (n s).host.step (.handlePacket messageFn q) = (n s).host :=
    sctpAssocHandlePacket_burst hcarries hq _ _
  have hreached : ((n s).reached || decide (InSession (n s).host)) = (n s).reached := by
    have := (hn.endpoint s).reached
    simpa using this
  have hstep : (n s).step (.handlePacket messageFn q) = n s := by
    simp [Endpoint.step, hhost, hreached, t1RunsOut, Op.isConnect]
  rw [Net.act, hstep, Function.update_eq_self]

/-- **Damage is loss.**  A handshake in which packets arrive with bursts of at most 32 changed bits
goes as if these had not arrived. -/
theorem damage_is_loss (clock : Side → Nat → UINT64) (localPort remotePort mtu : Side → UINT16)
    (evs : List LineEvent)
    (hevs : Steps.Each Net.lineStep BurstsOnly (Net.init clock localPort remotePort mtu) evs) :
    evs.foldl Net.lineStep (Net.init clock localPort remotePort mtu) =
      (Net.init clock localPort remotePort mtu).run (evs.filterMap LineEvent.intact?) := by
  have hrun : ∀ evs n, NetOk (Net.identity clock) n → Steps.Each Net.lineStep BurstsOnly n evs →
      evs.foldl Net.lineStep n = n.run (evs.filterMap LineEvent.intact?) := by
    intro evs
    induction evs with
    | nil => exact fun _ _ _ => rfl
    | cons ev evs ih =>
      intro n hn hevs
      cases ev with
      | intact ev => exact ih _ (hn.step hevs.1) hevs.2
      | damaged s messageFn k q =>
        obtain ⟨⟨p, hp, hq⟩, hrest⟩ := hevs
        have hsame : n.lineStep (.damaged s messageFn k q) = n := hn.damaged hp hq messageFn
        rw [List.foldl_cons, hsame]
        rw [hsame] at hrest
        exact ih n hn hrest
  exact hrun evs _ (Net.init_ok clock localPort remotePort mtu) hevs

/-- The INIT of the sample pair. -/
def sentInit : Bytes :=
  (((sampleNet.run [.connect .left] .left).host.outbound[0]?).map OutPacket.bytes).getD []

/-- The INIT arrives with another chunk type, and then as it was sent. -/
theorem damaged_init_lost :
    [.intact (.connect .left), .damaged .right true 0 (sentInit.set 12 2),
        .intact (.deliver .right true 0)].foldl Net.lineStep sampleNet =
      sampleNet.run [.connect .left, .deliver .right true 0] := by
  obtain ⟨p, hp⟩ : ∃ p, (sampleNet.run [.connect .left] .left).host.outbound[0]? = some p :=
    Option.isSome_iff_exists.mp (by decide +kernel)
  have hbytes : p.bytes = sentInit := by
    rw [sentInit, hp]
    rfl
  have hburst : Burst p.bytes (sentInit.set 12 2) := by
    rw [hbytes]
    exact Burst.of_set (by decide +kernel) (by decide +kernel) (by decide)
  exact damage_is_loss _ _ _ _ _ ⟨by simp [BurstsOnly], ⟨p, hp, hburst⟩, by simp [BurstsOnly],
    trivial⟩

end KvsWebrtc.Sctp
