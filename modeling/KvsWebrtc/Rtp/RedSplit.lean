import KvsWebrtc.Lib.Traced
import KvsWebrtc.Rtp.RedRun

/-!
# Cutting RED payloads (`RtpRedPayloader.c`)

`splitRedRtpPacket` over the memory behind the payload pointer, with the offsets it reads, and with
an allocation that may fail for any block.  A block is sliced where the one before it ended; the
last one ends with the payload.  A failure leaves no packet and no FEC bytes.

On the sending side the call without a buffer answers the size, and the call with a buffer writes as
much.

Principal results:

* `splitCall_within` — only the payload is read;
* `splitCall_exact` — nothing, or one packet for each block of the negotiated type;
* `splitCall_eq` — the memory, the offsets and the allocation left out, it is `splitRedRtpPacket`;
* `redCall_agrees` — the two calls of the sender.
-/

namespace KvsWebrtc.Rtp

/-! ## The receiver, with what it reads -/

def readByteAt (off : Nat) : Traced Bytes UINT8 := .read byteAt off 1

def readBytesAt (off len : Nat) : Traced Bytes Bytes :=
  .read (fun memory off => (memory.drop off).take len) off len

/-- `parseRedHeaders` on a body of `bodyLen` bytes. -/
def readRedHeaders (bodyLen : Nat) : Nat → Nat → List RedBlockInfo →
    Traced Bytes (Except STATUS (List RedBlockInfo × Nat))
  | n, off, blocks =>
    if off < bodyLen then
      match n with
      | 0 => return .error .RTP_INVALID_RED_PACKET
      | n + 1 => do
        let first ← readByteAt off
        if first &&& 0x80 ≠ 0 then
          if off + RED_HEADER_LEN_NON_LAST ≤ bodyLen then do
            let b1 ← readByteAt (off + 1)
            let b2 ← readByteAt (off + 2)
            let b3 ← readByteAt (off + 3)
            readRedHeaders bodyLen n (off + RED_HEADER_LEN_NON_LAST) (blocks ++ [{
              payloadType := first &&& 0x7F
              tsOffset := (b1.zeroExtend 32 <<< 6) ||| (b2.zeroExtend 32 >>> 2)
              payloadLen := (((b2.zeroExtend 32 &&& 0x3) <<< 8) ||| b3.zeroExtend 32).toNat
              isLast := false }])
          else return .error .RTP_INVALID_RED_PACKET
        else return .ok (blocks ++ [⟨first &&& 0x7F, 0, 0, true⟩], off + RED_HEADER_LEN_LAST)
    else return .error .RTP_INVALID_RED_PACKET

variable (red : InboundRtpPacket)

/-- The packet of a block with `later` blocks after it. -/
def blockPacket (opusPt : UINT8) (block : RedBlockInfo) (later : Nat)
    (payload : Bytes) : InboundRtpPacket :=
  if block.isLast then
    buildSyntheticPacket red opusPt red.header.timestamp red.header.sequenceNumber payload false
  else
    buildSyntheticPacket red opusPt (red.header.timestamp - block.tsOffset)
      (red.header.sequenceNumber - BitVec.ofNat 16 later) payload true

/-- The local variables of the loop over the blocks. -/
structure SplitState where
  payloadCursor : Nat
  fecBytes : Nat
  packets : List InboundRtpPacket

/-- The loop over the blocks; `builds i` says whether there is memory for the packet of the `i`-th
block. -/
def splitBlocks (red : InboundRtpPacket) (opusPt : UINT8) (builds : Nat → Bool) :
    List RedBlockInfo → Nat → SplitState → Traced Bytes (Except STATUS SplitState)
  | [], _, s => return .ok s
  | block :: blocks, i, s =>
    let payloadCursor := s.payloadCursor + block.payloadLen
    if block.payloadType ≠ opusPt then
      splitBlocks red opusPt builds blocks (i + 1) { s with payloadCursor := payloadCursor }
    else if builds i then do
      let payload ← readBytesAt s.payloadCursor block.payloadLen
      splitBlocks red opusPt builds blocks (i + 1) {
        payloadCursor := payloadCursor
        fecBytes := if block.isLast then s.fecBytes else s.fecBytes + block.payloadLen
        packets := s.packets ++ [blockPacket red opusPt block blocks.length payload] }
    else return .error .NOT_ENOUGH_MEMORY

/-- What a call answers; no status is success. -/
structure SplitAnswer where
  status : Option STATUS
  produced : List InboundRtpPacket
  fecBytes : Nat

/-- The end of the function, which frees what a failed call has built. -/
def cleanUpSplit : Except STATUS SplitState → SplitAnswer
  | .error e => ⟨some e, [], 0⟩
  | .ok s => ⟨none, s.packets, s.fecBytes⟩

/-- The blocks with the length of the last one, once the sum of the others is known. -/
def completeBlocks (bodyLen headerTotalLen : Nat) (blocks : List RedBlockInfo) :
    List RedBlockInfo :=
  blocks.map fun block =>
    if block.isLast then
      { block with payloadLen := bodyLen - headerTotalLen - declaredLength blocks }
    else block

def splitParsed (negotiatedOpusPt : UINT8) (maxCount : Nat)
    (builds : Nat → Bool) (blocks : List RedBlockInfo) (headerTotalLen : Nat) :
    Traced Bytes (Except STATUS SplitState) :=
  let bodyLen := red.payloadLength.toNat
  if headerTotalLen + declaredLength blocks > bodyLen then return .error .RTP_INVALID_RED_PACKET
  else if blocks.length > maxCount then return .error .RTP_INVALID_RED_PACKET
  else splitBlocks red negotiatedOpusPt builds (completeBlocks bodyLen headerTotalLen blocks) 0
    ⟨headerTotalLen, 0, []⟩

/-- The function up to its end. -/
def splitBody (negotiatedOpusPt : UINT8) (maxCount : Nat)
    (builds : Nat → Bool) : Traced Bytes (Except STATUS SplitState) :=
  if maxCount < 1 then return .error .INVALID_ARG
  else if red.payloadLength.toNat = 0 then return .error .RTP_INVALID_RED_PACKET
  else do
    match ← readRedHeaders red.payloadLength.toNat RED_MAX_BLOCKS 0 [] with
    | .error e => return .error e
    | .ok (blocks, headerTotalLen) =>
      splitParsed red negotiatedOpusPt maxCount builds blocks headerTotalLen

def splitCall (negotiatedOpusPt : UINT8) (maxCount : Nat)
    (builds : Nat → Bool) : Traced Bytes SplitAnswer := do
  let r ← splitBody red negotiatedOpusPt maxCount builds
  return cleanUpSplit r

/-! ## Slices -/

/-- A block and where its payload begins. -/
structure RedSlice where
  block : RedBlockInfo
  offset : Nat

/-- Every slice begins where the one before it ends. -/
inductive Consecutive : Nat → List RedSlice → Nat → Prop
  | nil (off : Nat) : Consecutive off [] off
  | cons {block : RedBlockInfo} {off stop : Nat} {slices : List RedSlice}
      (h : Consecutive (off + block.payloadLen) slices stop) :
      Consecutive off (⟨block, off⟩ :: slices) stop

theorem Consecutive.stop_eq {start stop : Nat} {slices : List RedSlice}
    (h : Consecutive start slices stop) :
    start + (slices.map fun s => s.block.payloadLen).sum = stop := by
  induction h with
  | nil => rfl
  | cons h ih =>
    rw [← ih, List.map_cons, List.sum_cons, Nat.add_assoc]

/-- The packet of a slice: its bytes under the negotiated type. -/
def PacketOf (opusPt : UINT8) (memory : Bytes) (s : RedSlice) (p : InboundRtpPacket) : Prop :=
  p.pRawPacket = (memory.drop s.offset).take s.block.payloadLen ∧ p.payload = p.pRawPacket ∧
    p.header.payloadType = opusPt ∧ p.isSynthetic = !s.block.isLast

theorem packetOf_blockPacket (opusPt : UINT8) (memory : Bytes)
    (s : RedSlice) (later : Nat) : PacketOf opusPt memory s (blockPacket red opusPt s.block later
      ((memory.drop s.offset).take s.block.payloadLen)) := by
  unfold blockPacket
  split
  · rename_i hlast
    exact ⟨rfl, rfl, rfl, by rw [hlast]; rfl⟩
  · rename_i hlast
    exact ⟨rfl, rfl, rfl, by rw [Bool.eq_false_iff.mpr hlast]; rfl⟩

/-- The slices for which there is a packet. -/
def emitted (opusPt : UINT8) (slices : List RedSlice) : List RedSlice :=
  slices.filter fun s => s.block.payloadType = opusPt

def fecBytesOf (opusPt : UINT8) (slices : List RedSlice) : Nat :=
  (((emitted opusPt slices).filter fun s => !s.block.isLast).map fun s => s.block.payloadLen).sum

/-- The payload is cut from the end of its headers up to its own end, into the bodies of the blocks
that the headers announce, with one packet for each block of the negotiated type in order. -/
def CutExactly (opusPt : UINT8) (maxCount : Nat) (memory : Bytes)
    (produced : List InboundRtpPacket) (fecBytes : Nat) : Prop :=
  let bodyLen := red.payloadLength.toNat
  ∃ (blocks : List RedBlockInfo) (headerTotalLen : Nat) (slices : List RedSlice),
    ((readRedHeaders bodyLen RED_MAX_BLOCKS 0 []).run memory).1 = .ok (blocks, headerTotalLen) ∧
    slices.map RedSlice.block = completeBlocks bodyLen headerTotalLen blocks ∧
    Consecutive headerTotalLen slices bodyLen ∧ slices ≠ [] ∧ slices.length ≤ maxCount ∧
    List.Forall₂ (PacketOf opusPt memory) (emitted opusPt slices) produced ∧
    fecBytes = fecBytesOf opusPt slices

/-- Nothing at all, or all of it. -/
def SplitExact (opusPt : UINT8) (maxCount : Nat) (memory : Bytes)
    (a : SplitAnswer) : Prop :=
  (∃ e, a.status = some e ∧ a.produced = [] ∧ a.fecBytes = 0) ∨
    (a.status = none ∧ CutExactly red opusPt maxCount memory a.produced a.fecBytes)

theorem splitBlocks_spec (red : InboundRtpPacket) (opusPt : UINT8) (builds : Nat → Bool)
    (memory : Bytes) : ∀ (blocks : List RedBlockInfo) (i : Nat) (s s' : SplitState),
    ((splitBlocks red opusPt builds blocks i s).run memory).1 = .ok s' →
      ∃ slices : List RedSlice, slices.map RedSlice.block = blocks ∧
        Consecutive s.payloadCursor slices s'.payloadCursor ∧
        s'.fecBytes = s.fecBytes + fecBytesOf opusPt slices ∧
        ∃ packets, s'.packets = s.packets ++ packets ∧
          List.Forall₂ (PacketOf opusPt memory) (emitted opusPt slices) packets
  | [], _, s, s', h => by
    obtain rfl := Except.ok.inj h
    exact ⟨[], rfl, .nil _, rfl, [], by simp, .nil⟩
  | block :: blocks, i, s, s', h => by
    rw [splitBlocks] at h
    by_cases hpt : block.payloadType = opusPt
    · rw [if_neg (by simpa using hpt)] at h
      by_cases hbuild : builds i = true
      · rw [if_pos hbuild] at h
        obtain ⟨slices, hblocks, hcons, hfec, packets, hpackets, hall⟩ :=
          splitBlocks_spec red opusPt builds memory blocks (i + 1) _ s' h
        have hemit : emitted opusPt (⟨block, s.payloadCursor⟩ :: slices) =
            ⟨block, s.payloadCursor⟩ :: emitted opusPt slices := by
          simp [emitted, hpt]
        have hone : fecBytesOf opusPt (⟨block, s.payloadCursor⟩ :: slices) =
            (if block.isLast then 0 else block.payloadLen) + fecBytesOf opusPt slices := by
          unfold fecBytesOf
          rw [hemit]
          by_cases hlast : block.isLast = true <;> simp [hlast]
        refine ⟨⟨block, s.payloadCursor⟩ :: slices, by rw [List.map_cons, hblocks], .cons hcons,
          ?_, blockPacket red opusPt block blocks.length
            ((memory.drop s.payloadCursor).take block.payloadLen) :: packets, ?_, ?_⟩
        · rw [hfec, hone]
          dsimp only
          split <;> omega
        · rw [hpackets]
          simp [readBytesAt]
        · rw [hemit]
          exact .cons (packetOf_blockPacket red opusPt memory ⟨block, s.payloadCursor⟩ _) hall
      · rw [if_neg hbuild] at h
        cases h
    · rw [if_pos hpt] at h
      obtain ⟨slices, hblocks, hcons, hfec, packets, hpackets, hall⟩ :=
        splitBlocks_spec red opusPt builds memory blocks (i + 1) _ s' h
      have hemit : emitted opusPt (⟨block, s.payloadCursor⟩ :: slices) = emitted opusPt slices := by
        simp [emitted, hpt]
      refine ⟨⟨block, s.payloadCursor⟩ :: slices, by rw [List.map_cons, hblocks], .cons hcons,
        ?_, packets, hpackets, ?_⟩
      · rw [hfec, fecBytesOf, fecBytesOf, hemit]
      · rw [hemit]
        exact hall

/-! ## The header chain -/

/-- A chain inside the body: the last block has no length of its own yet. -/
def HeaderChain (bodyLen : Nat) (r : List RedBlockInfo × Nat) : Prop :=
  ∃ (earlier : List RedBlockInfo) (payloadType : UINT8),
    r.1 = earlier ++ [⟨payloadType, 0, 0, true⟩] ∧ (∀ b ∈ earlier, b.isLast = false) ∧
      r.2 ≤ bodyLen

theorem readRedHeaders_chain (bodyLen : Nat) (memory : Bytes) :
    ∀ (n off : Nat) (blocks : List RedBlockInfo) (r : List RedBlockInfo × Nat),
      (∀ b ∈ blocks, b.isLast = false) →
      ((readRedHeaders bodyLen n off blocks).run memory).1 = .ok r → HeaderChain bodyLen r := by
  intro n
  induction n with
  | zero =>
    intro off blocks r _ h
    unfold readRedHeaders at h
    split at h <;> cases h
  | succ n ih =>
    intro off blocks r hblocks h
    unfold readRedHeaders at h
    by_cases hoff : off < bodyLen
    · rw [if_pos hoff] at h
      simp only [Traced.run_bind] at h
      split at h
      · split at h
        · refine ih _ _ r ?_ h
          intro b hb
          rcases List.mem_append.mp hb with hb | hb
          · exact hblocks b hb
          · rw [List.mem_singleton.mp hb]
        · cases h
      · obtain rfl := Except.ok.inj h
        exact ⟨blocks, _, rfl, hblocks, hoff⟩
    · rw [if_neg hoff] at h
      cases h

theorem readRedHeaders_within (bodyLen : Nat) : ∀ (n off : Nat) (blocks : List RedBlockInfo),
    Traced.Within bodyLen (readRedHeaders bodyLen n off blocks) := by
  intro n
  induction n with
  | zero =>
    intro off blocks
    exact .ite (fun _ => .pure _) (fun _ => .pure _)
  | succ n ih =>
    intro off blocks
    refine .ite (fun hoff => ?_) (fun _ => .pure _)
    refine .bind (.read hoff) fun first => ?_
    refine .ite (fun _ => ?_) (fun _ => .pure _)
    refine .ite (fun hin => ?_) (fun _ => .pure _)
    have hfour : off + 4 ≤ bodyLen := hin
    refine .bind (.read (by omega)) fun b1 => ?_
    refine .bind (.read (by omega)) fun b2 => ?_
    refine .bind (.read (by omega)) fun b3 => ?_
    exact ih _ _

theorem readRedHeaders_eq {bodyLen : Nat} {memory : Bytes} (hlen : bodyLen ≤ memory.length) :
    ∀ (n off : Nat) (blocks : List RedBlockInfo),
      ((readRedHeaders bodyLen n off blocks).run memory).1 =
        parseRedHeaders (memory.take bodyLen) n off blocks := by
  have hbody : (memory.take bodyLen).length = bodyLen := by
    rw [List.length_take, Nat.min_eq_left hlen]
  have hbyte : ∀ i, i < bodyLen → byteAt (memory.take bodyLen) i = byteAt memory i := by
    intro i hi
    rw [byteAt, byteAt, List.getD_eq_getElem?_getD, List.getD_eq_getElem?_getD,
      List.getElem?_take_of_lt hi]
  intro n
  induction n with
  | zero =>
    intro off blocks
    unfold readRedHeaders parseRedHeaders
    rw [hbody]
    split <;> rfl
  | succ n ih =>
    intro off blocks
    unfold readRedHeaders parseRedHeaders
    rw [hbody]
    by_cases hoff : off < bodyLen
    · rw [if_pos hoff, if_pos hoff, hbyte off hoff]
      change ((if byteAt memory off &&& 0x80 ≠ 0 then _ else _ : Traced Bytes _).run memory).1 = _
      by_cases hfirst : byteAt memory off &&& 0x80 ≠ 0
      · simp only [if_pos hfirst]
        by_cases hin : off + RED_HEADER_LEN_NON_LAST ≤ bodyLen
        · have hfour : off + 4 ≤ bodyLen := hin
          simp only [if_pos hin, hbyte (off + 1) (by omega), hbyte (off + 2) (by omega),
            hbyte (off + 3) (by omega)]
          exact ih _ _
        · simp only [if_neg hin]
          rfl
      · simp only [if_neg hfirst]
        rfl
    · rw [if_neg hoff, if_neg hoff]
      rfl

/-! ## The whole call -/

theorem length_completeBlocks {bodyLen : Nat} {r : List RedBlockInfo × Nat}
    (h : HeaderChain bodyLen r) (hfit : r.2 + declaredLength r.1 ≤ bodyLen) :
    r.2 + declaredLength (completeBlocks bodyLen r.2 r.1) = bodyLen ∧
      completeBlocks bodyLen r.2 r.1 ≠ [] := by
  obtain ⟨earlier, payloadType, hblocks, hearlier, htotal⟩ := h
  have hkeep : earlier.map (fun block : RedBlockInfo =>
      if block.isLast then
        { block with payloadLen := bodyLen - r.2 - declaredLength r.1 }
      else block) = earlier := by
    refine (List.map_congr_left ?_).trans (List.map_id _)
    intro b hb
    rw [if_neg (by rw [hearlier b hb]; decide)]
    rfl
  have hsum : declaredLength r.1 = declaredLength earlier := by
    rw [hblocks]
    simp [declaredLength]
  constructor
  · rw [completeBlocks, hblocks, List.map_append, ← hblocks, hkeep]
    rw [hsum] at hfit ⊢
    simp only [declaredLength, List.map_append, List.map_cons, List.map_nil, List.sum_append,
      List.sum_cons, List.sum_nil, if_true] at hfit ⊢
    omega
  · rw [completeBlocks, hblocks]
    simp

theorem splitBlocks_within (red : InboundRtpPacket) (opusPt : UINT8) (builds : Nat → Bool)
    (bodyLen : Nat) : ∀ (blocks : List RedBlockInfo) (i : Nat) (s : SplitState),
      s.payloadCursor + declaredLength blocks ≤ bodyLen →
      Traced.Within bodyLen (splitBlocks red opusPt builds blocks i s)
  | [], _, _, _ => .pure _
  | block :: blocks, i, s, h => by
    have hsum : declaredLength (block :: blocks) = block.payloadLen + declaredLength blocks := by
      simp [declaredLength]
    rw [hsum] at h
    rw [splitBlocks]
    refine .ite (fun _ => ?_) (fun _ => .ite (fun _ => ?_) (fun _ => .pure _))
    · exact splitBlocks_within red opusPt builds bodyLen blocks (i + 1) _ (by dsimp only; omega)
    · refine .bind (.read (by omega)) fun payload => ?_
      exact splitBlocks_within red opusPt builds bodyLen blocks (i + 1) _ (by dsimp only; omega)

theorem splitParsed_within (pt : UINT8) (maxCount : Nat)
    (builds : Nat → Bool) {r : List RedBlockInfo × Nat}
    (h : HeaderChain red.payloadLength.toNat r) :
    Traced.Within red.payloadLength.toNat (splitParsed red pt maxCount builds r.1 r.2) := by
  refine .ite (fun _ => .pure _) (fun hfit => .ite (fun _ => .pure _) (fun _ => ?_))
  refine splitBlocks_within red pt builds _ _ _ _ (le_of_eq ?_)
  exact (length_completeBlocks h (by omega)).1

/-- **Only the payload is read.** -/
theorem splitCall_within (pt : UINT8) (maxCount : Nat)
    (builds : Nat → Bool) :
    Traced.Within red.payloadLength.toNat (splitCall red pt maxCount builds) := by
  refine .bind (.ite (fun _ => .pure _) (fun _ => .ite (fun _ => .pure _) (fun _ => ?_)))
    fun _ => .pure _
  refine .bind_ensures (P := fun r => ∀ x, r = .ok x → HeaderChain red.payloadLength.toNat x)
    (readRedHeaders_within _ _ _ _) ?_ ?_
  · intro m r hr
    exact readRedHeaders_chain _ m _ _ _ r (by simp) hr
  · intro r hr
    cases r with
    | error e => exact .pure _
    | ok x => exact splitParsed_within red pt maxCount builds (hr x rfl)

theorem splitParsed_exact {red : InboundRtpPacket} {pt : UINT8} {maxCount : Nat}
    {builds : Nat → Bool} {memory : Bytes} {r : List RedBlockInfo × Nat} {s : SplitState}
    (hread : ((readRedHeaders red.payloadLength.toNat RED_MAX_BLOCKS 0 []).run memory).1 = .ok r)
    (h : ((splitParsed red pt maxCount builds r.1 r.2).run memory).1 = .ok s) :
    CutExactly red pt maxCount memory s.packets s.fecBytes := by
  have hchain := readRedHeaders_chain _ memory _ _ _ r (by simp) hread
  unfold splitParsed at h
  by_cases hfit : r.2 + declaredLength r.1 > red.payloadLength.toNat
  · rw [if_pos hfit] at h
    cases h
  · by_cases hroom : r.1.length > maxCount
    · rw [if_neg hfit, if_pos hroom] at h
      cases h
    · rw [if_neg hfit, if_neg hroom] at h
      obtain ⟨slices, hblocks, hcons, hfec, packets, hpackets, hall⟩ :=
        splitBlocks_spec red pt builds memory _ _ _ s h
      obtain ⟨hstop, hne⟩ := length_completeBlocks hchain (by omega)
      have hsum : (slices.map fun x => x.block.payloadLen).sum =
          declaredLength (completeBlocks red.payloadLength.toNat r.2 r.1) := by
        rw [declaredLength, ← hblocks, List.map_map]
        rfl
      have hend : s.payloadCursor = red.payloadLength.toNat := by
        rw [← hcons.stop_eq, hsum]
        exact hstop
      have hcount : slices.length = r.1.length := by
        rw [← List.length_map RedSlice.block, hblocks, completeBlocks, List.length_map]
      refine ⟨r.1, r.2, slices, hread, hblocks, hend ▸ hcons, ?_, by omega, ?_,
        by rw [hfec, Nat.zero_add]⟩
      · rintro rfl
        exact hne hblocks.symm
      · rw [hpackets, List.nil_append]
        exact hall

/-- **All or nothing.** -/
theorem splitCall_exact (pt : UINT8) (maxCount : Nat)
    (builds : Nat → Bool) (memory : Bytes) :
    SplitExact red pt maxCount memory ((splitCall red pt maxCount builds).run memory).1 := by
  change SplitExact red pt maxCount memory
    (cleanUpSplit ((splitBody red pt maxCount builds).run memory).1)
  cases hbody : ((splitBody red pt maxCount builds).run memory).1 with
  | error e => exact .inl ⟨e, rfl, rfl, rfl⟩
  | ok s =>
    right
    refine ⟨rfl, ?_⟩
    unfold splitBody at hbody
    split at hbody
    · cases hbody
    · split at hbody
      · cases hbody
      · simp only [Traced.run_bind] at hbody
        cases hr : ((readRedHeaders red.payloadLength.toNat RED_MAX_BLOCKS 0 []).run memory).1 with
        | error e =>
          rw [hr] at hbody
          cases hbody
        | ok r =>
          rw [hr] at hbody
          exact splitParsed_exact hr hbody

/-! ## Against the call without memory -/

theorem take_drop_body {memory : Bytes} {bodyLen off len : Nat} (h : off + len ≤ bodyLen) :
    ((memory.take bodyLen).drop off).take len = (memory.drop off).take len := by
  rw [List.drop_take, List.take_take, Nat.min_eq_left (by omega)]

theorem splitBlocks_eq (red : InboundRtpPacket) (opusPt : UINT8) (memory : Bytes) (bodyLen : Nat) :
    ∀ (blocks : List RedBlockInfo) (i : Nat) (s : SplitState),
      s.payloadCursor + declaredLength blocks ≤ bodyLen →
      ∃ s', ((splitBlocks red opusPt (fun _ => true) blocks i s).run memory).1 = .ok s' ∧
        s'.packets = s.packets ++
          splitLoop red opusPt blocks ((memory.take bodyLen).drop s.payloadCursor)
  | [], _, s, _ => ⟨s, rfl, by simp [splitLoop]⟩
  | block :: blocks, i, s, h => by
    have hsum : declaredLength (block :: blocks) = block.payloadLen + declaredLength blocks := by
      simp [declaredLength]
    rw [hsum] at h
    rw [splitBlocks, splitLoop, List.drop_drop]
    by_cases hpt : block.payloadType = opusPt
    · rw [if_neg (not_not.mpr hpt), if_neg (not_not.mpr hpt), if_pos rfl]
      obtain ⟨s', hs', hpackets⟩ := splitBlocks_eq red opusPt memory bodyLen blocks (i + 1) {
        payloadCursor := s.payloadCursor + block.payloadLen
        fecBytes := if block.isLast then s.fecBytes else s.fecBytes + block.payloadLen
        packets := s.packets ++ [blockPacket red opusPt block blocks.length
          ((memory.drop s.payloadCursor).take block.payloadLen)] } (by dsimp only; omega)
      refine ⟨s', hs', ?_⟩
      rw [hpackets, take_drop_body (by omega)]
      unfold blockPacket
      split <;> simp
    · rw [if_pos hpt, if_pos hpt]
      exact splitBlocks_eq red opusPt memory bodyLen blocks (i + 1) _ (by dsimp only; omega)

theorem splitParsed_eq {red : InboundRtpPacket} {r : List RedBlockInfo × Nat}
    (hchain : HeaderChain red.payloadLength.toNat r) (pt : UINT8) (maxCount : Nat) :
    let a := cleanUpSplit
      ((splitParsed red pt maxCount (fun _ => true) r.1 r.2).run red.payload).1
    let bodyLen := red.payloadLength.toNat
    (a.status, a.produced) =
      if r.2 + declaredLength r.1 > bodyLen then (some .RTP_INVALID_RED_PACKET, [])
      else if r.1.length > maxCount then (some .RTP_INVALID_RED_PACKET, [])
      else (none, splitLoop red pt (completeBlocks bodyLen r.2 r.1) (red.body.drop r.2)) := by
  unfold splitParsed
  dsimp only
  by_cases hfit : r.2 + declaredLength r.1 > red.payloadLength.toNat
  · rw [if_pos hfit, if_pos hfit]
    rfl
  · by_cases hroom : r.1.length > maxCount
    · rw [if_neg hfit, if_pos hroom, if_neg hfit, if_pos hroom]
      rfl
    · rw [if_neg hfit, if_neg hroom, if_neg hfit, if_neg hroom]
      obtain ⟨s', hs', hpackets⟩ := splitBlocks_eq red pt red.payload red.payloadLength.toNat
        (completeBlocks red.payloadLength.toNat r.2 r.1) 0 ⟨r.2, 0, []⟩
        (le_of_eq (length_completeBlocks hchain (by omega)).1)
      rw [hs']
      exact Prod.ext rfl hpackets

/-- The status and the packets of `splitRedRtpPacket`. -/
def splitAnswer (pt : UINT8) (maxCount : Nat) :
    Option STATUS × List InboundRtpPacket :=
  match splitRedRtpPacket red pt maxCount with
  | .error e => (some e, [])
  | .ok packets => (none, packets)

theorem splitCall_eq {red : InboundRtpPacket}
    (hlen : red.payloadLength.toNat ≤ red.payload.length) (pt : UINT8) (maxCount : Nat) :
    let a := ((splitCall red pt maxCount fun _ => true).run red.payload).1
    (a.status, a.produced) = splitAnswer red pt maxCount := by
  have hbody : red.body.length = red.payloadLength.toNat := by
    rw [RtpPacket.body, List.length_take, Nat.min_eq_left hlen]
  have hread : ((readRedHeaders red.payloadLength.toNat RED_MAX_BLOCKS 0 []).run red.payload).1 =
      parseRedHeaders red.body RED_MAX_BLOCKS 0 [] := readRedHeaders_eq hlen RED_MAX_BLOCKS 0 []
  change (_, _) = _
  unfold splitCall splitBody splitAnswer splitRedRtpPacket
  by_cases hmax : maxCount < 1
  · simp [hmax, cleanUpSplit]
  · by_cases hzero : red.payloadLength.toNat = 0
    · have hnil : red.body = [] := List.length_eq_zero_iff.mp (hbody.trans hzero)
      simp [hmax, hzero, hnil, cleanUpSplit]
    · have hnil : ¬ red.body = [] := by
        intro h
        rw [h] at hbody
        exact hzero hbody.symm
      simp only [if_neg hmax, if_neg hzero, if_neg hnil, Traced.run_bind]
      cases hr : parseRedHeaders red.body RED_MAX_BLOCKS 0 [] with
      | error e =>
        rw [hr] at hread
        rw [hread]
        rfl
      | ok r =>
        rw [hr] at hread
        have hchain := readRedHeaders_chain _ red.payload _ _ _ r (by simp) hread
        rw [hread]
        refine (splitParsed_eq hchain pt maxCount).trans ?_
        simp only [hbody]
        split
        · rfl
        · split <;> rfl

/-! ## The sender's two calls -/

/-- What a call leaves behind its pointers, in the buffer and in the ring. -/
structure RedAnswer where
  payloadLength : Nat
  payloadSubLenSize : Nat
  isFallbackToPlainOpus : Bool
  payloadBuffer : Bytes
  payloadSubLength : List Nat
  state : RedSenderState

/-- The length that both calls compute. -/
def redBodyBytes (mtu : UINT32) (opusFrame : Bytes) (rtpTimestamp : UINT32)
    (st : RedSenderState) : Nat :=
  if opusFrame.length > RED_MAX_BLOCK_LEN then opusFrame.length
  else (selectRedundantBlocks st rtpTimestamp (mtuBudgetOf mtu) opusFrame.length).2

/-- `room` is what `*pPayloadLength` and `*pPayloadSubLenSize` hold when there is a buffer. -/
def redCall (mtu : UINT32) (opusFrame : Bytes) (rtpTimestamp : UINT32) (st : RedSenderState)
    (room : Option (Nat × Nat)) : Except STATUS RedAnswer :=
  if opusFrame.length = 0 then .error .INVALID_ARG
  else
    let fallback : Bool := opusFrame.length > RED_MAX_BLOCK_LEN
    let bodyBytes := redBodyBytes mtu opusFrame rtpTimestamp st
    match room with
    | none => .ok ⟨bodyBytes, 1, fallback, [], [], st⟩
    | some (payloadLength, payloadSubLenSize) =>
      if payloadLength ≥ bodyBytes ∧ payloadSubLenSize ≥ 1 then do
        let written ← createPayloadForOpusRed mtu opusFrame rtpTimestamp st
        return ⟨bodyBytes, 1, fallback, written.payload, [bodyBytes], written.state⟩
      else .error .BUFFER_TOO_SMALL

theorem selectLoop_bodyBytes (st : RedSenderState) (rtpTimestamp : UINT32) (mtuBudget : Nat) :
    ∀ (n i : Nat) (chosen : List Nat) (bodyBytes : Nat),
      (selectLoop st rtpTimestamp mtuBudget n i chosen bodyBytes).2 +
          (chosen.map fun j => blockBytes (st.slots j)).sum =
        bodyBytes + ((selectLoop st rtpTimestamp mtuBudget n i chosen bodyBytes).1.map fun j =>
          blockBytes (st.slots j)).sum
  | 0, _, _, _ => rfl
  | n + 1, i, chosen, bodyBytes => by
    have ih := fun chosen bodyBytes => selectLoop_bodyBytes st rtpTimestamp mtuBudget n (i + 1)
      chosen bodyBytes
    have hadd : ∀ j, ((chosen ++ [j]).map fun j => blockBytes (st.slots j)).sum =
        (chosen.map fun j => blockBytes (st.slots j)).sum + blockBytes (st.slots j) := by
      intro j
      simp
    unfold selectLoop
    dsimp only
    split
    · exact ih _ _
    split
    · exact ih _ _
    split
    · exact ih _ _
    split
    · rfl
    split
    · rw [hadd, blockBytes]
      omega
    · have h := ih (chosen ++ [(st.nextSlot + i) % st.redundancyLevel]) (bodyBytes +
        (RED_HEADER_LEN_NON_LAST +
          (st.slots ((st.nextSlot + i) % st.redundancyLevel)).payload.length))
      rw [hadd, blockBytes] at h
      omega

theorem sum_blockBytes (slots : Nat → RedSenderSlot) (chosen : List Nat) :
    (chosen.map fun j => blockBytes (slots j)).sum =
      4 * chosen.length + (chosen.map fun j => (slots j).payload.length).sum := by
  induction chosen with
  | nil => rfl
  | cons j chosen ih =>
    rw [List.map_cons, List.sum_cons, ih, List.length_cons, List.map_cons, List.sum_cons, blockBytes]
    change 4 + _ + _ = _
    omega

theorem length_redPayload {mtu : UINT32} {opusFrame : Bytes} {rtpTimestamp : UINT32}
    {st : RedSenderState} {w : RedPayload}
    (h : createPayloadForOpusRed mtu opusFrame rtpTimestamp st = .ok w) :
    w.payload.length = redBodyBytes mtu opusFrame rtpTimestamp st := by
  unfold createPayloadForOpusRed at h
  unfold redBodyBytes
  split at h
  · cases h
  split at h
  · rename_i hlong
    obtain rfl := Except.ok.inj h
    rw [if_pos hlong]
  · rename_i hlong
    obtain rfl := Except.ok.inj h
    rw [if_neg hlong, length_redBody]
    have hsum := selectLoop_bodyBytes st rtpTimestamp (mtuBudgetOf mtu) st.redundancyLevel 0 []
      (RED_HEADER_LEN_LAST + opusFrame.length)
    change (selectRedundantBlocks st rtpTimestamp (mtuBudgetOf mtu) opusFrame.length).2 + 0 = _ +
      ((selectRedundantBlocks st rtpTimestamp (mtuBudgetOf mtu) opusFrame.length).1.map _).sum
      at hsum
    rw [sum_blockBytes, Nat.add_zero] at hsum
    rw [hsum, List.length_map, List.map_map]
    change _ = 1 + opusFrame.length + _
    simp only [Function.comp_def]
    omega

/-- **The two calls of the sender.**  What a call with a buffer writes is as long as the call
without one answers, which leaves the ring alone; and a buffer of that size is enough. -/
theorem redCall_agrees (mtu : UINT32) (opusFrame : Bytes) (rtpTimestamp : UINT32)
    (st : RedSenderState) (room : Nat × Nat) :
    (∃ e, redCall mtu opusFrame rtpTimestamp st (some room) = .error e) ∨
      ∃ answer size, redCall mtu opusFrame rtpTimestamp st (some room) = .ok answer ∧
        redCall mtu opusFrame rtpTimestamp st none = .ok size ∧
        size.payloadLength = answer.payloadLength ∧
        answer.payloadBuffer.length = answer.payloadLength ∧ size.state = st ∧
        redCall mtu opusFrame rtpTimestamp st
          (some (size.payloadLength, size.payloadSubLenSize)) = .ok answer := by
  by_cases hzero : opusFrame.length = 0
  · exact .inl ⟨_, if_pos hzero⟩
  · obtain ⟨w, hw⟩ : ∃ w, createPayloadForOpusRed mtu opusFrame rtpTimestamp st = .ok w := by
      unfold createPayloadForOpusRed
      rw [if_neg hzero]
      split <;> exact ⟨_, rfl⟩
    have hcall : ∀ room' : Nat × Nat, redCall mtu opusFrame rtpTimestamp st (some room') =
        if room'.1 ≥ redBodyBytes mtu opusFrame rtpTimestamp st ∧ room'.2 ≥ 1 then
          .ok ⟨redBodyBytes mtu opusFrame rtpTimestamp st, 1,
            opusFrame.length > RED_MAX_BLOCK_LEN, w.payload,
            [redBodyBytes mtu opusFrame rtpTimestamp st], w.state⟩
        else .error .BUFFER_TOO_SMALL := by
      intro room'
      unfold redCall
      rw [if_neg hzero, hw]
      rfl
    by_cases hroom : room.1 ≥ redBodyBytes mtu opusFrame rtpTimestamp st ∧ room.2 ≥ 1
    · right
      refine ⟨_, _, (hcall room).trans (if_pos hroom), if_neg hzero, rfl, length_redPayload hw,
        rfl, ?_⟩
      exact (hcall _).trans (if_pos ⟨le_refl _, le_refl _⟩)
    · exact .inl ⟨_, (hcall room).trans (if_neg hroom)⟩

/-- **RED splitting.**  Only the payload is read; the packets are all there, one for each block of
the negotiated type, or none is; with the memory for them they are those of `splitRedRtpPacket`; and
the sender's two calls agree. -/
theorem red_split_exact (red : InboundRtpPacket) (negotiatedOpusPt : UINT8) (maxCount : Nat)
    (builds : Nat → Bool) (memory : Bytes) (mtu : UINT32) (opusFrame : Bytes)
    (rtpTimestamp : UINT32) (st : RedSenderState) (room : Nat × Nat) :
    Traced.Within red.payloadLength.toNat (splitCall red negotiatedOpusPt maxCount builds) ∧
      SplitExact red negotiatedOpusPt maxCount memory
        ((splitCall red negotiatedOpusPt maxCount builds).run memory).1 ∧
      (red.payloadLength.toNat ≤ red.payload.length →
        let a := ((splitCall red negotiatedOpusPt maxCount fun _ => true).run red.payload).1
        (a.status, a.produced) = splitAnswer red negotiatedOpusPt maxCount) ∧
      ((∃ e, redCall mtu opusFrame rtpTimestamp st (some room) = .error e) ∨
        ∃ answer size, redCall mtu opusFrame rtpTimestamp st (some room) = .ok answer ∧
          redCall mtu opusFrame rtpTimestamp st none = .ok size ∧
          size.payloadLength = answer.payloadLength ∧
          answer.payloadBuffer.length = answer.payloadLength ∧ size.state = st ∧
          redCall mtu opusFrame rtpTimestamp st
            (some (size.payloadLength, size.payloadSubLenSize)) = .ok answer) :=
  ⟨splitCall_within red negotiatedOpusPt maxCount builds,
    splitCall_exact red negotiatedOpusPt maxCount builds memory,
    fun hlen => splitCall_eq hlen negotiatedOpusPt maxCount,
    redCall_agrees mtu opusFrame rtpTimestamp st room⟩

end KvsWebrtc.Rtp
