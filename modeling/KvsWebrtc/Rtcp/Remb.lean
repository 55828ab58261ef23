import KvsWebrtc.Rtcp.Compound

/-!
# Receiver estimated maximum bitrate (`rembValueGet`, `onRtcpRembPacket`)

A REMB carries an 18-bit mantissa, a 6-bit exponent and a list of SSRCs.  The mantissa is shifted as
a 32-bit word, and only the result becomes a floating point number; every such number is exact, so
it is kept as the integer.  A shift by 32 or more is not defined in C; no 32-bit result is right
there, and that of `BitVec` is 0.

Principal results:

* `rembValueGet_ok` — what a decoded REMB is;
* `remb_exact_iff` — when the bitrate is that of the payload.
-/

namespace KvsWebrtc.Rtcp.Compound

open Traced (Within)

/-! ## What the payload says -/

def rembMantissa (payload : Bytes) : Nat :=
  (getUnalignedInt32BigEndian payload (RTCP_PACKET_REMB_IDENTIFIER_OFFSET + 4) &&&
    RTCP_PACKET_REMB_MANTISSA_BITMASK).toNat

def rembExponent (payload : Bytes) : Nat :=
  (payload.getD (RTCP_PACKET_REMB_IDENTIFIER_OFFSET + 5) 0 >>> 2).toNat

def rembCount (payload : Bytes) : Nat :=
  (payload.getD (RTCP_PACKET_REMB_IDENTIFIER_OFFSET + 4) 0).toNat

/-- The SSRCs behind the fixed part. -/
def rembListed (payload : Bytes) : List UINT32 :=
  (List.range (rembCount payload)).map fun i =>
    getUnalignedInt32BigEndian payload (RTCP_PACKET_REMB_MIN_SIZE + i * 4)

/-- The list of SSRCs lies inside the payload. -/
def RembFits (payloadLength : Nat) (payload : Bytes) : Prop :=
  RTCP_PACKET_REMB_MIN_SIZE + rembCount payload * 4 ≤ payloadLength

theorem rembCount_le (payload : Bytes) : rembCount payload ≤ 255 :=
  Nat.le_of_lt_succ (payload.getD (RTCP_PACKET_REMB_IDENTIFIER_OFFSET + 4) 0).isLt

/-! ## Decoding -/

theorem run_rembSsrcs (payload : Bytes) (n i : Nat) :
    ((rembSsrcs n i).run payload).1 = (List.range' i n).map fun i =>
      getUnalignedInt32BigEndian payload (RTCP_PACKET_REMB_MIN_SIZE + i * 4) := by
  induction n generalizing i with
  | zero => rfl
  | succ n ih =>
    rw [List.range'_succ, List.map_cons, ← ih (i + 1)]
    rfl

theorem rembValueGet_small {payloadLength : Nat} {payload : Bytes}
    (h : payloadLength < RTCP_PACKET_REMB_MIN_SIZE) :
    ((rembValueGet payloadLength).run payload).1 = .error .RTCP_INPUT_REMB_TOO_SMALL := by
  rw [rembValueGet, if_pos h]
  rfl

theorem rembValueGet_invalid {payloadLength : Nat} {payload : Bytes}
    (h : RTCP_PACKET_REMB_MIN_SIZE ≤ payloadLength) (hfits : ¬RembFits payloadLength payload) :
    ((rembValueGet payloadLength).run payload).1 = .error .RTCP_INPUT_REMB_INVALID := by
  have hlt : payloadLength < RTCP_PACKET_REMB_MIN_SIZE + rembCount payload * 4 :=
    Nat.not_le.mp hfits
  rw [rembValueGet, if_neg (Nat.not_lt.mpr h)]
  change ((if payloadLength < RTCP_PACKET_REMB_MIN_SIZE + rembCount payload * 4 then _ else _ :
    Traced Bytes _).run payload).1 = _
  rw [if_pos hlt]
  rfl

/-- **A REMB whose list fits** is decoded: the bitrate is the shifted word. -/
theorem rembValueGet_ok {payloadLength : Nat} {payload : Bytes}
    (hfits : RembFits payloadLength payload) :
    ((rembValueGet payloadLength).run payload).1 =
      .ok (rembMantissa payload * 2 ^ rembExponent payload % 2 ^ 32, rembListed payload) := by
  have hsmall : ¬payloadLength < RTCP_PACKET_REMB_MIN_SIZE :=
    Nat.not_lt.mpr (le_trans (Nat.le_add_right _ _) hfits)
  rw [rembValueGet, if_neg hsmall]
  change ((if payloadLength < RTCP_PACKET_REMB_MIN_SIZE + rembCount payload * 4 then _ else _ :
    Traced Bytes _).run payload).1 = _
  rw [if_neg (Nat.not_lt.mpr hfits)]
  simp only [Traced.run_bind, Traced.run_pure, run_rembSsrcs]
  rw [rembListed, List.range_eq_range']
  refine congrArg Except.ok (Prod.ext ?_ rfl)
  change ((getUnalignedInt32BigEndian payload (RTCP_PACKET_REMB_IDENTIFIER_OFFSET + 4) &&&
    RTCP_PACKET_REMB_MANTISSA_BITMASK) <<< rembExponent payload).toNat = _
  rw [BitVec.toNat_shiftLeft, Nat.shiftLeft_eq]
  rfl

/-! ## Callbacks -/

/-- The bitrates that were passed on. -/
def passedBitRates (before after : KvsPeerConnection) : List Nat :=
  (after.callbacks.drop before.callbacks.length).filterMap fun
    | .onBandwidthEstimation _ maximumBitRate => some maximumBitRate
    | .onPictureLoss _ => none

/-- A call for one SSRC adds at most one callback, with this bitrate. -/
theorem estimateBandwidth_callbacks (maximumBitRate : Nat) (conn : KvsPeerConnection)
    (ssrc : UINT32) : ∃ added, (estimateBandwidth maximumBitRate conn ssrc).callbacks =
      conn.callbacks ++ added ∧ ∀ c ∈ added, ∃ i, c = .onBandwidthEstimation i maximumBitRate := by
  have hnone : ∃ added, conn.callbacks = conn.callbacks ++ added ∧
      ∀ c ∈ added, ∃ i, c = RtcpCallback.onBandwidthEstimation i maximumBitRate :=
    ⟨[], (List.append_nil _).symm, fun _ hc => absurd hc List.not_mem_nil⟩
  rw [estimateBandwidth]
  split
  · exact hnone
  · rename_i i hfound
    split
    · exact ⟨_, rfl, fun c hc => ⟨i, List.mem_singleton.mp hc⟩⟩
    · exact hnone

theorem foldl_estimateBandwidth_callbacks (maximumBitRate : Nat) (ssrcs : List UINT32)
    (conn : KvsPeerConnection) : ∃ added,
      (ssrcs.foldl (estimateBandwidth maximumBitRate) conn).callbacks = conn.callbacks ++ added ∧
        ∀ c ∈ added, ∃ i, c = .onBandwidthEstimation i maximumBitRate := by
  induction ssrcs generalizing conn with
  | nil => exact ⟨[], (List.append_nil _).symm, fun _ hc => absurd hc List.not_mem_nil⟩
  | cons ssrc ssrcs ih =>
    obtain ⟨one, hone, hfirst⟩ := estimateBandwidth_callbacks maximumBitRate conn ssrc
    obtain ⟨rest, hrest, hlater⟩ := ih (estimateBandwidth maximumBitRate conn ssrc)
    refine ⟨one ++ rest, ?_, fun c hc => (List.mem_append.mp hc).elim (hfirst c) (hlater c)⟩
    rw [List.foldl_cons, hrest, hone, List.append_assoc]

theorem passedBitRates_eq {before after : KvsPeerConnection} {maximumBitRate : Nat}
    {added : List RtcpCallback} (hafter : after.callbacks = before.callbacks ++ added)
    (hadded : ∀ c ∈ added, ∃ i, c = .onBandwidthEstimation i maximumBitRate) :
    ∀ r ∈ passedBitRates before after, r = maximumBitRate := by
  intro r hr
  rw [passedBitRates, hafter, List.drop_left, List.mem_filterMap] at hr
  obtain ⟨c, hc, hcr⟩ := hr
  obtain ⟨i, rfl⟩ := hadded c hc
  exact (Option.some.inj hcr).symm

/-! ## Exactness -/

/-- What decoding a REMB is to do: read inside the payload, report the bitrate and the SSRCs that are
there, and pass on that bitrate. -/
structure RembExact (payloadLength : Nat) (payload : Bytes) : Prop where
  within : ∀ r ∈ ((rembValueGet payloadLength).run payload).2, r < payloadLength
  decoded : ∀ maximumBitRate ssrcs,
    ((rembValueGet payloadLength).run payload).1 = .ok (maximumBitRate, ssrcs) →
      ssrcs.length ≤ 255 ∧ maximumBitRate = rembMantissa payload * 2 ^ rembExponent payload ∧
        ssrcs = rembListed payload
  passed : ∀ conn, ∀ r ∈ passedBitRates conn
      ((onRtcpRembPacket payloadLength conn).run payload).1.1,
    r = rembMantissa payload * 2 ^ rembExponent payload

/-- **A REMB is decoded exactly** when its list does not fit, which is reported, or its bitrate is
below `2 ^ 32`. -/
theorem remb_exact_iff (payloadLength : Nat) (payload : Bytes) :
    RembExact payloadLength payload ↔
      (RembFits payloadLength payload →
        rembMantissa payload * 2 ^ rembExponent payload < 2 ^ 32) := by
  constructor
  · intro h hfits
    have hrate := (h.decoded _ _ (rembValueGet_ok hfits)).2.1
    rw [← hrate]
    exact Nat.mod_lt _ (by decide)
  · intro h
    by_cases hfits : RembFits payloadLength payload
    · have hok := rembValueGet_ok hfits
      rw [Nat.mod_eq_of_lt (h hfits)] at hok
      refine ⟨within_rembValueGet payloadLength payload, fun rate ssrcs hdecoded => ?_,
        fun conn => ?_⟩
      · rw [hok] at hdecoded
        cases hdecoded
        refine ⟨?_, rfl, rfl⟩
        rw [rembListed, List.length_map, List.length_range]
        exact rembCount_le payload
      · obtain ⟨added, hadded, hall⟩ := foldl_estimateBandwidth_callbacks
          (rembMantissa payload * 2 ^ rembExponent payload) (rembListed payload) conn
        refine passedBitRates_eq ?_ hall
        rw [onRtcpRembPacket, Traced.run_bind, hok]
        exact hadded
    · have herror : ∃ e, ((rembValueGet payloadLength).run payload).1 = .error e := by
        rcases Nat.lt_or_ge payloadLength RTCP_PACKET_REMB_MIN_SIZE with hlt | hge
        · exact ⟨_, rembValueGet_small hlt⟩
        · exact ⟨_, rembValueGet_invalid hge hfits⟩
      obtain ⟨e, he⟩ := herror
      refine ⟨within_rembValueGet payloadLength payload, fun rate ssrcs hdecoded => ?_,
        fun conn => ?_⟩
      · rw [he] at hdecoded
        cases hdecoded
      · intro r hr
        rw [onRtcpRembPacket, Traced.run_bind, he] at hr
        simp [passedBitRates] at hr

/-- Mantissa 1 and exponent 32, for one SSRC. -/
theorem not_remb_exact : ¬RembExact 20
    [0, 0, 0, 0, 0, 0, 0, 0, 0x52, 0x45, 0x4d, 0x42, 1, 0x80, 0, 1, 0, 0, 0, 7] := by
  intro h
  have hrate := (h.decoded 0 [7] (by rfl)).2.1
  exact absurd hrate (by decide +kernel)

end KvsWebrtc.Rtcp.Compound
