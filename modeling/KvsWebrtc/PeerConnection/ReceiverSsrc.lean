import KvsWebrtc.Sdp.Description
import KvsWebrtc.Sdp.Numbers

/-!
# SSRCs of the receivers (`setReceiversSsrc`)

For each audio or video section of the remote description, the number of the first attribute whose
name matches and whose value has a blank goes to the first transceiver of that kind without an SSRC.
An SSRC of 0 stands for none.  Of a transceiver, what the function reads and writes is kept.

Principal results:

* `setReceiversSsrc_eq` — the sections that have an SSRC, one after the other;
* `once_iff` — when no transceiver is given two SSRCs;
* `receivers_assigned_iff` — when the SSRCs are assigned as they are announced.
-/

namespace KvsWebrtc.PeerConnection

open Sdp CString

inductive RTC_CODEC where
  | H264_PROFILE_42E01F_LEVEL_ASYMMETRY_ALLOWED_PACKETIZATION_MODE
  | OPUS
  | VP8
  | MULAW
  | ALAW
  | UNKNOWN
  | H265
  deriving DecidableEq, Repr

inductive MEDIA_STREAM_TRACK_KIND where
  | AUDIO
  | VIDEO
  deriving DecidableEq, Repr

def MEDIA_SECTION_AUDIO_VALUE : Bytes := ascii "audio"
def MEDIA_SECTION_VIDEO_VALUE : Bytes := ascii "video"
def SSRC_KEY : Bytes := ascii "ssrc"

abbrev SPACE : UINT8 := 32

structure KvsRtpTransceiver where
  codec : RTC_CODEC
  receiverTrackKind : MEDIA_STREAM_TRACK_KIND
  jitterBufferSsrc : UINT32
  inboundSsrc : UINT32
  inboundKind : Bytes
  deriving DecidableEq, Repr

/-! ## The source -/

def isVideoCodec (codec : RTC_CODEC) : Bool :=
  codec = .VP8 || codec = .H264_PROFILE_42E01F_LEVEL_ASYMMETRY_ALLOWED_PACKETIZATION_MODE ||
    codec = .H265

def isAudioCodec (codec : RTC_CODEC) : Bool :=
  codec = .MULAW || codec = .ALAW || codec = .OPUS

/-- The flags `isVideoMediaSection` and `isAudioMediaSection`; at most one of them is set. -/
def mediaSectionKind (mediaName : Bytes) : Option MEDIA_STREAM_TRACK_KIND :=
  if strncmpEq mediaName MEDIA_SECTION_VIDEO_VALUE MEDIA_SECTION_VIDEO_VALUE.length then some .VIDEO
  else if strncmpEq mediaName MEDIA_SECTION_AUDIO_VALUE MEDIA_SECTION_AUDIO_VALUE.length then
    some MEDIA_STREAM_TRACK_KIND.AUDIO
  else none

/-- The attribute the loop over a section's attributes stops at.  The name is compared over its own
length. -/
def ssrcAttribute (attributes : List (Bytes × Bytes)) : Option (Bytes × Bytes) :=
  attributes.find? fun a => strncmpEq a.1 SSRC_KEY a.1.length && a.2.contains SPACE

/-- The number before the first blank. -/
def ssrcNumber (value : Bytes) : Option UINT32 := strtoui32 value (value.idxOf SPACE) 10

def isCodecOf (kind : MEDIA_STREAM_TRACK_KIND) (codec : RTC_CODEC) : Bool :=
  match kind with
  | .VIDEO => isVideoCodec codec
  | MEDIA_STREAM_TRACK_KIND.AUDIO => isAudioCodec codec

def takesSsrc (kind : MEDIA_STREAM_TRACK_KIND) (t : KvsRtpTransceiver) : Bool :=
  t.jitterBufferSsrc = 0 && isCodecOf kind t.codec

def KvsRtpTransceiver.setSsrc (ssrc : UINT32) (t : KvsRtpTransceiver) : KvsRtpTransceiver :=
  { t with
    jitterBufferSsrc := ssrc
    inboundSsrc := ssrc
    inboundKind := if t.receiverTrackKind = .VIDEO then ascii "video" else ascii "audio" }

/-- The loop over the transceivers, which is left at the first that takes the SSRC. -/
def assignSsrc (kind : MEDIA_STREAM_TRACK_KIND) (ssrc : UINT32) :
    List KvsRtpTransceiver → List KvsRtpTransceiver
  | [] => []
  | t :: ts => if takesSsrc kind t then t.setSsrc ssrc :: ts else t :: assignSsrc kind ssrc ts

/-- The loop over the sections; whether it succeeds, and the transceivers afterwards. -/
def setReceiversSsrc : List SdpMediaDescription → List KvsRtpTransceiver →
    Bool × List KvsRtpTransceiver
  | [], ts => (true, ts)
  | m :: ms, ts =>
    match mediaSectionKind m.mediaName.text with
    | none => setReceiversSsrc ms ts
    | some kind =>
      match ssrcAttribute m.attributes with
      | none => setReceiversSsrc ms ts
      | some a =>
        match ssrcNumber a.2 with
        | none => (false, ts)
        | some ssrc => setReceiversSsrc ms (assignSsrc kind ssrc ts)

/-! ## The sections with an SSRC -/

/-- A section in which an SSRC is found, with the attribute it is taken from. -/
structure Found where
  currentMedia : Nat
  kind : MEDIA_STREAM_TRACK_KIND
  sdpAttribute : Bytes × Bytes
  ssrc : UINT32
  deriving DecidableEq, Repr

/-- The sections of a description with an SSRC, up to the first number that cannot be read. -/
def foundSsrcs (currentMedia : Nat) : List SdpMediaDescription → List Found
  | [] => []
  | m :: ms =>
    match mediaSectionKind m.mediaName.text with
    | none => foundSsrcs (currentMedia + 1) ms
    | some kind =>
      match ssrcAttribute m.attributes with
      | none => foundSsrcs (currentMedia + 1) ms
      | some a =>
        match ssrcNumber a.2 with
        | none => []
        | some ssrc => ⟨currentMedia, kind, a, ssrc⟩ :: foundSsrcs (currentMedia + 1) ms

def assignAll : List Found → List KvsRtpTransceiver → List KvsRtpTransceiver
  | [], ts => ts
  | f :: fs, ts => assignAll fs (assignSsrc f.kind f.ssrc ts)

/-- **The function** assigns the SSRCs of these sections, in order. -/
theorem setReceiversSsrc_eq (media : List SdpMediaDescription) (ts : List KvsRtpTransceiver)
    (currentMedia : Nat) :
    (setReceiversSsrc media ts).2 = assignAll (foundSsrcs currentMedia media) ts := by
  induction media generalizing ts currentMedia with
  | nil => rfl
  | cons m ms ih =>
    rw [setReceiversSsrc, foundSsrcs]
    cases mediaSectionKind m.mediaName.text with
    | none => exact ih ts (currentMedia + 1)
    | some kind =>
      cases ssrcAttribute m.attributes with
      | none => exact ih ts (currentMedia + 1)
      | some a =>
        simp only
        cases ssrcNumber a.2 with
        | none => rfl
        | some ssrc => exact ih (assignSsrc kind ssrc ts) (currentMedia + 1)

/-- The transceiver that takes the SSRC of each section. -/
def receivers : List Found → List KvsRtpTransceiver → List (Found × Option Nat)
  | [], _ => []
  | f :: fs, ts => (f, ts.findIdx? (takesSsrc f.kind)) :: receivers fs (assignSsrc f.kind f.ssrc ts)

theorem map_fst_receivers (fs : List Found) (ts : List KvsRtpTransceiver) :
    (receivers fs ts).map Prod.fst = fs := by
  induction fs generalizing ts with
  | nil => rfl
  | cons f fs ih => exact congrArg (f :: ·) (ih _)

/-- Where a found SSRC comes from. -/
structure Found.From (media : List SdpMediaDescription) (f : Found) : Prop where
  kind : ∃ m, media[f.currentMedia]? = some m ∧ mediaSectionKind m.mediaName.text = some f.kind ∧
    f.sdpAttribute ∈ m.attributes
  ssrc : ssrcNumber f.sdpAttribute.2 = some f.ssrc

theorem foundSsrcs_from (media : List SdpMediaDescription) :
    ∀ f ∈ foundSsrcs 0 media, f.From media := by
  have hgeneral : ∀ (ms before : List SdpMediaDescription),
      ∀ f ∈ foundSsrcs before.length ms, f.From (before ++ ms) := by
    intro ms
    induction ms with
    | nil => exact fun _ _ hf => absurd hf List.not_mem_nil
    | cons m ms ih =>
      intro before f hf
      have hnext := ih (before ++ [m]) f
      rw [List.length_append, List.length_singleton, List.append_assoc, List.singleton_append]
        at hnext
      rw [foundSsrcs] at hf
      cases hkind : mediaSectionKind m.mediaName.text with
      | none => exact hnext (by simpa only [hkind] using hf)
      | some kind =>
        rw [hkind] at hf
        cases hattribute : ssrcAttribute m.attributes with
        | none => exact hnext (by simpa only [hattribute] using hf)
        | some a =>
          simp only [hattribute] at hf
          cases hnumber : ssrcNumber a.2 with
          | none =>
            rw [hnumber] at hf
            exact absurd hf List.not_mem_nil
          | some ssrc =>
            rw [hnumber] at hf
            rcases List.mem_cons.mp hf with rfl | hf
            · exact ⟨⟨m, by simp, hkind, List.mem_of_find?_eq_some hattribute⟩, hnumber⟩
            · exact hnext hf
  exact hgeneral media []

theorem foundSsrcs_ge {media : List SdpMediaDescription} {currentMedia : Nat} :
    ∀ f ∈ foundSsrcs currentMedia media, currentMedia ≤ f.currentMedia := by
  induction media generalizing currentMedia with
  | nil => exact fun _ hf => absurd hf List.not_mem_nil
  | cons m ms ih =>
    intro f hf
    have hnext : f ∈ foundSsrcs (currentMedia + 1) ms → currentMedia ≤ f.currentMedia :=
      fun h => Nat.le_of_succ_le (ih f h)
    rw [foundSsrcs] at hf
    split at hf
    · exact hnext hf
    · split at hf
      · exact hnext hf
      · split at hf
        · exact absurd hf List.not_mem_nil
        · rcases List.mem_cons.mp hf with rfl | hf
          · exact Nat.le_refl _
          · exact hnext hf

theorem foundSsrcs_pairwise (media : List SdpMediaDescription) (currentMedia : Nat) :
    (foundSsrcs currentMedia media).Pairwise fun f g => f.currentMedia < g.currentMedia := by
  induction media generalizing currentMedia with
  | nil => exact List.Pairwise.nil
  | cons m ms ih =>
    rw [foundSsrcs]
    split
    · exact ih _
    · split
      · exact ih _
      · split
        · exact List.Pairwise.nil
        · exact List.pairwise_cons.mpr ⟨fun g hg => foundSsrcs_ge g hg, ih _⟩

/-! ## One section -/

section

variable {kind kind' : MEDIA_STREAM_TRACK_KIND} {ssrc : UINT32} {ts : List KvsRtpTransceiver}
  {i j : Nat} {fs : List Found}

theorem isCodecOf_unique {codec : RTC_CODEC} (h : isCodecOf kind codec)
    (h' : isCodecOf kind' codec) : kind = kind' := by
  revert h h'
  cases kind <;> cases kind' <;> cases codec <;> decide

theorem takesSsrc_iff {t : KvsRtpTransceiver} :
    takesSsrc kind t = true ↔ t.jitterBufferSsrc = 0 ∧ isCodecOf kind t.codec := by
  rw [takesSsrc, Bool.and_eq_true, decide_eq_true_eq]

theorem takesSsrc_setSsrc (t : KvsRtpTransceiver) :
    takesSsrc kind (t.setSsrc ssrc) = true ↔ ssrc = 0 ∧ isCodecOf kind t.codec :=
  takesSsrc_iff

theorem assignSsrc_none (h : ts.findIdx? (takesSsrc kind) = none) :
    assignSsrc kind ssrc ts = ts := by
  induction ts with
  | nil => rfl
  | cons t ts ih =>
    rw [List.findIdx?_eq_none_iff] at h
    have ht := h t List.mem_cons_self
    rw [assignSsrc, if_neg (by simp [ht]), ih]
    exact List.findIdx?_eq_none_iff.mpr fun x hx => h x (List.mem_cons_of_mem t hx)

theorem assignSsrc_some (h : ts.findIdx? (takesSsrc kind) = some j) :
    assignSsrc kind ssrc ts = ts.modify j (KvsRtpTransceiver.setSsrc ssrc) := by
  induction ts generalizing j with
  | nil => cases h
  | cons t ts ih =>
    rw [List.findIdx?_cons] at h
    rw [assignSsrc]
    by_cases ht : takesSsrc kind t
    · rw [if_pos ht] at h ⊢
      cases h
      rfl
    · rw [if_neg ht] at h ⊢
      obtain ⟨k, hk, rfl⟩ := Option.map_eq_some_iff.mp h
      rw [ih hk]
      rfl

theorem findIdx?_takes (h : ts.findIdx? (takesSsrc kind) = some j) :
    ∃ t, ts[j]? = some t ∧ takesSsrc kind t ∧
      ∀ i < j, ∀ t', ts[i]? = some t' → ¬takesSsrc kind t' := by
  obtain ⟨hj, ht, hbefore⟩ := List.findIdx?_eq_some_iff_getElem.mp h
  refine ⟨ts[j], List.getElem?_eq_getElem hj, ht, fun i hi t' ht' => ?_⟩
  obtain ⟨hlt, rfl⟩ := List.getElem?_eq_some_iff.mp ht'
  exact hbefore i hi

theorem getElem?_assignSsrc (i : Nat) : (assignSsrc kind ssrc ts)[i]? =
    if ts.findIdx? (takesSsrc kind) = some i then ts[i]?.map (KvsRtpTransceiver.setSsrc ssrc)
    else ts[i]? := by
  cases h : ts.findIdx? (takesSsrc kind) with
  | none =>
    rw [assignSsrc_none h]
    simp
  | some j =>
    rw [assignSsrc_some h, List.getElem?_modify]
    by_cases hij : j = i
    · simp [hij]
    · simp [hij]

/-! ## All sections -/

theorem takes_of_receiver {f : Found} (h : (f, some j) ∈ receivers fs ts) :
    ∃ t, ts[j]? = some t ∧ takesSsrc f.kind t := by
  induction fs generalizing ts with
  | nil => exact absurd h List.not_mem_nil
  | cons g fs ih =>
    rcases List.mem_cons.mp h with heq | h
    · rw [Prod.mk.injEq] at heq
      obtain ⟨rfl, hj⟩ := heq
      obtain ⟨t, ht, htakes, -⟩ := findIdx?_takes hj.symm
      exact ⟨t, ht, htakes⟩
    · obtain ⟨t, ht, htakes⟩ := ih h
      rw [getElem?_assignSsrc] at ht
      split at ht
      · rename_i hg
        obtain ⟨t', ht', rfl⟩ := Option.map_eq_some_iff.mp ht
        obtain ⟨hzero, hcodec⟩ := (takesSsrc_setSsrc t').mp htakes
        obtain ⟨t'', ht'', hfree, -⟩ := findIdx?_takes hg
        rw [ht'] at ht''
        cases ht''
        exact ⟨t', ht', takesSsrc_iff.mpr ⟨(takesSsrc_iff.mp hfree).1, hcodec⟩⟩
      · exact ⟨t, ht, htakes⟩

/-- The receivers, those of sections that give their SSRC to nobody left out. -/
def received (fs : List Found) (ts : List KvsRtpTransceiver) : List Nat :=
  (receivers fs ts).filterMap Prod.snd

theorem received_cons (f : Found) : received (f :: fs) ts =
    (ts.findIdx? (takesSsrc f.kind)).toList ++ received fs (assignSsrc f.kind f.ssrc ts) := by
  rw [received, receivers, List.filterMap_cons, received]
  cases ts.findIdx? (takesSsrc f.kind) with
  | none => rfl
  | some j => rfl

theorem mem_received : j ∈ received fs ts ↔ ∃ f, (f, some j) ∈ receivers fs ts := by
  simp [received]

theorem map_takes_assignSsrc (h : ssrc = 0 ∨ kind' ≠ kind) :
    (assignSsrc kind' ssrc ts).map (takesSsrc kind) = ts.map (takesSsrc kind) := by
  induction ts with
  | nil => rfl
  | cons t ts ih =>
    rw [assignSsrc]
    split
    · rename_i hfree
      obtain ⟨hzero, hcodec⟩ := takesSsrc_iff.mp hfree
      rw [List.map_cons, List.map_cons, List.cons.injEq]
      refine ⟨?_, rfl⟩
      rw [Bool.eq_iff_iff, takesSsrc_setSsrc, takesSsrc_iff]
      rcases h with hssrc | hne
      · simp [hssrc, hzero]
      · have hother : ¬isCodecOf kind t.codec := fun hk => hne (isCodecOf_unique hcodec hk)
        simp [hother]
    · rw [List.map_cons, List.map_cons, ih]

theorem findIdx?_assignSsrc (h : ssrc = 0 ∨ kind' ≠ kind) :
    (assignSsrc kind' ssrc ts).findIdx? (takesSsrc kind) = ts.findIdx? (takesSsrc kind) := by
  have hmap := congrArg (List.findIdx? id) (@map_takes_assignSsrc _ _ _ ts h)
  rwa [List.findIdx?_map, List.findIdx?_map] at hmap

theorem countP_assignSsrc (h : ssrc = 0 ∨ kind' ≠ kind) :
    (assignSsrc kind' ssrc ts).countP (takesSsrc kind) = ts.countP (takesSsrc kind) := by
  have hmap := congrArg (List.countP id) (@map_takes_assignSsrc _ _ _ ts h)
  rwa [List.countP_map, List.countP_map] at hmap

theorem countP_assignSsrc_ne (h : ssrc ≠ 0) :
    (assignSsrc kind ssrc ts).countP (takesSsrc kind) = ts.countP (takesSsrc kind) - 1 := by
  induction ts with
  | nil => rfl
  | cons t ts ih =>
    rw [assignSsrc]
    by_cases hfree : takesSsrc kind t
    · have hset : ¬takesSsrc kind (t.setSsrc ssrc) := fun hs => h ((takesSsrc_setSsrc t).mp hs).1
      rw [if_pos hfree, List.countP_cons_of_neg hset, List.countP_cons_of_pos hfree,
        Nat.add_sub_cancel]
    · rw [if_neg hfree, List.countP_cons_of_neg hfree, List.countP_cons_of_neg hfree, ih]

theorem received_of_first {f : Found} (h : ts.findIdx? (takesSsrc f.kind) = some j) (hf : f ∈ fs) :
    j ∈ received fs ts := by
  induction fs generalizing ts with
  | nil => exact absurd hf List.not_mem_nil
  | cons g fs ih =>
    rw [received_cons]
    by_cases hkind : g.kind = f.kind
    · rw [hkind, h]
      exact List.mem_append_left _ (List.mem_singleton_self j)
    · refine List.mem_append_right _ (ih ?_ ?_)
      · rw [findIdx?_assignSsrc (.inr hkind), h]
      · rcases List.mem_cons.mp hf with rfl | hf
        · exact absurd rfl hkind
        · exact hf

/-! ## No transceiver is given two -/

/-- A section that gives an SSRC of 0 is the last of its kind: another one finds no transceiver left
before it. -/
def ZerosLast (fs : List Found) (ts : List KvsRtpTransceiver) : Prop :=
  ∀ before f after, fs = before ++ f :: after → f.ssrc = 0 →
    (∃ g ∈ after, g.kind = f.kind) →
      ts.countP (takesSsrc f.kind) ≤ before.countP fun g => g.kind = f.kind

theorem zerosLast_cons {f : Found} : ZerosLast (f :: fs) ts ↔
    (f.ssrc = 0 → (∃ g ∈ fs, g.kind = f.kind) → ts.countP (takesSsrc f.kind) = 0) ∧
      ZerosLast fs (assignSsrc f.kind f.ssrc ts) := by
  constructor
  · intro h
    have hhead : f.ssrc = 0 → (∃ g ∈ fs, g.kind = f.kind) → ts.countP (takesSsrc f.kind) = 0 :=
      fun hzero hlater => Nat.le_zero.mp (h [] f fs rfl hzero hlater)
    refine ⟨hhead, fun before g after hsplit hzero hlater => ?_⟩
    have hcount := h (f :: before) g after (by rw [hsplit]; rfl) hzero hlater
    by_cases hkind : f.kind = g.kind
    · rw [List.countP_cons_of_pos (by simpa using hkind)] at hcount
      by_cases hssrc : f.ssrc = 0
      · have hnone := hhead hssrc ⟨g, by simp [hsplit], hkind.symm⟩
        rw [countP_assignSsrc (.inl hssrc), ← hkind, hnone]
        exact Nat.zero_le _
      · rw [hkind, countP_assignSsrc_ne hssrc]
        omega
    · rw [List.countP_cons_of_neg (by simpa using hkind)] at hcount
      rwa [countP_assignSsrc (.inr hkind)]
  · rintro ⟨hhead, htail⟩ before g after hsplit hzero hlater
    cases before with
    | nil =>
      cases hsplit
      exact Nat.le_of_eq (hhead hzero hlater)
    | cons e before =>
      cases hsplit
      have hcount := htail before g after rfl hzero hlater
      by_cases hkind : f.kind = g.kind
      · rw [List.countP_cons_of_pos (by simpa using hkind)]
        by_cases hssrc : f.ssrc = 0
        · rw [countP_assignSsrc (.inl hssrc)] at hcount
          omega
        · rw [hkind, countP_assignSsrc_ne hssrc] at hcount
          omega
      · rw [List.countP_cons_of_neg (by simpa using hkind)]
        rwa [countP_assignSsrc (.inr hkind)] at hcount

/-- **No transceiver is given two SSRCs** exactly when zeros come last. -/
theorem once_iff (fs : List Found) (ts : List KvsRtpTransceiver) :
    (received fs ts).Nodup ↔ ZerosLast fs ts := by
  induction fs generalizing ts with
  | nil => exact iff_of_true List.nodup_nil fun before f after h => by simp at h
  | cons f fs ih =>
    rw [zerosLast_cons, received_cons, List.nodup_append, ih]
    have hhead : (∀ i ∈ (ts.findIdx? (takesSsrc f.kind)).toList,
        ∀ j ∈ received fs (assignSsrc f.kind f.ssrc ts), i ≠ j) ↔
        (f.ssrc = 0 → (∃ g ∈ fs, g.kind = f.kind) → ts.countP (takesSsrc f.kind) = 0) := by
      cases hfirst : ts.findIdx? (takesSsrc f.kind) with
      | none =>
        refine iff_of_true (fun i hi => absurd hi List.not_mem_nil) fun _ _ => ?_
        exact List.countP_eq_zero.mpr fun t ht => by
          simp [List.findIdx?_eq_none_iff.mp hfirst t ht]
      | some j =>
        obtain ⟨t, ht, hfree, -⟩ := findIdx?_takes hfirst
        have hpos : ts.countP (takesSsrc f.kind) ≠ 0 := fun hzero =>
          List.countP_eq_zero.mp hzero t (List.mem_of_getElem? ht) hfree
        have hcodec := (takesSsrc_iff.mp hfree).2
        simp only [Option.toList_some, List.mem_singleton, forall_eq]
        constructor
        · rintro hnot hzero ⟨g, hg, hkind⟩
          refine absurd rfl (hnot j (received_of_first ?_ hg))
          rw [hkind, findIdx?_assignSsrc (.inl hzero), hfirst]
        · rintro hzero i hi rfl
          obtain ⟨g, hg⟩ := mem_received.mp hi
          obtain ⟨t', ht', htakes⟩ := takes_of_receiver hg
          rw [getElem?_assignSsrc, if_pos hfirst, ht] at ht'
          cases ht'
          obtain ⟨hssrc, hcodec'⟩ := (takesSsrc_setSsrc t).mp htakes
          refine hpos (hzero hssrc ⟨g, ?_, isCodecOf_unique hcodec' hcodec⟩)
          rw [← map_fst_receivers fs (assignSsrc f.kind f.ssrc ts)]
          exact List.mem_map_of_mem hg
    have hnodup : (ts.findIdx? (takesSsrc f.kind)).toList.Nodup := by
      cases ts.findIdx? (takesSsrc f.kind) with
      | none => exact List.nodup_nil
      | some j => exact List.nodup_singleton j
    rw [hhead]
    exact ⟨fun h => ⟨h.2.2, h.2.1⟩, fun h => ⟨hnodup, h.2, h.1⟩⟩

/-! ## Order and frame -/

theorem receivers_in_order {before after : List (Found × Option Nat)} {f : Found}
    (h : receivers fs ts = before ++ (f, some j) :: after) :
    ∀ i < j, ∀ t, ts[i]? = some t → takesSsrc f.kind t → some i ∈ before.map Prod.snd := by
  induction before generalizing fs ts with
  | nil =>
    intro i hi t ht htakes
    cases fs with
    | nil => cases h
    | cons g fs =>
      rw [receivers, List.nil_append, List.cons.injEq, Prod.mk.injEq] at h
      obtain ⟨⟨rfl, hfirst⟩, -⟩ := h
      obtain ⟨-, -, -, hbefore⟩ := findIdx?_takes hfirst
      exact absurd htakes (hbefore i hi t ht)
  | cons e before ih =>
    intro i hi t ht htakes
    cases fs with
    | nil => cases h
    | cons g fs =>
      rw [receivers, List.cons_append, List.cons.injEq] at h
      obtain ⟨rfl, hrest⟩ := h
      rw [List.map_cons]
      by_cases hg : ts.findIdx? (takesSsrc g.kind) = some i
      · rw [hg]
        exact List.mem_cons_self
      · refine List.mem_cons_of_mem _ (ih hrest i hi t ?_ htakes)
        rw [getElem?_assignSsrc, if_neg hg, ht]

theorem assignAll_of_notMem (h : j ∉ received fs ts) : (assignAll fs ts)[j]? = ts[j]? := by
  induction fs generalizing ts with
  | nil => rfl
  | cons f fs ih =>
    rw [received_cons, List.mem_append, not_or] at h
    rw [assignAll, ih h.2, getElem?_assignSsrc, if_neg]
    intro hfirst
    rw [hfirst] at h
    exact h.1 (List.mem_singleton_self j)

theorem assignAll_of_mem {f : Found} (hnodup : (received fs ts).Nodup)
    (h : (f, some j) ∈ receivers fs ts) :
    (assignAll fs ts)[j]? = ts[j]?.map (KvsRtpTransceiver.setSsrc f.ssrc) := by
  induction fs generalizing ts with
  | nil => exact absurd h List.not_mem_nil
  | cons g fs ih =>
    rw [received_cons, List.nodup_append] at hnodup
    obtain ⟨-, hrest, hapart⟩ := hnodup
    rw [assignAll]
    rcases List.mem_cons.mp h with heq | h
    · rw [Prod.mk.injEq] at heq
      obtain ⟨rfl, hfirst⟩ := heq
      rw [assignAll_of_notMem, getElem?_assignSsrc, if_pos hfirst.symm]
      intro hmem
      exact hapart j (by simp [← hfirst]) j hmem rfl
    · have hne : ts.findIdx? (takesSsrc g.kind) ≠ some j := fun hfirst =>
        hapart j (by simp [hfirst]) j (mem_received.mpr ⟨f, h⟩) rfl
      rw [ih hrest h, getElem?_assignSsrc, if_neg hne]

end

/-! ## The description -/

/-- What assigning the SSRCs of a description is to do.  The entries of `receivers` are the sections
in which an SSRC is found, each with the transceiver it is given to, if any. -/
structure AssignsExactly (media : List SdpMediaDescription) (ts : List KvsRtpTransceiver) :
    Prop where
  named : ∀ r ∈ receivers (foundSsrcs 0 media) ts, r.1.sdpAttribute.1 = SSRC_KEY
  fromSection : ∀ r ∈ receivers (foundSsrcs 0 media) ts, r.1.From media
  sections_once : (receivers (foundSsrcs 0 media) ts).Pairwise fun r s =>
    r.1.currentMedia < s.1.currentMedia
  once : (received (foundSsrcs 0 media) ts).Nodup
  had_none : ∀ f j, (f, some j) ∈ receivers (foundSsrcs 0 media) ts →
    ∃ t, ts[j]? = some t ∧ t.jitterBufferSsrc = 0 ∧ isCodecOf f.kind t.codec
  in_order : ∀ before f j after,
    receivers (foundSsrcs 0 media) ts = before ++ (f, some j) :: after →
    ∀ i < j, ∀ t, ts[i]? = some t → t.jitterBufferSsrc = 0 → isCodecOf f.kind t.codec →
      some i ∈ before.map Prod.snd
  assigned : ∀ f j, (f, some j) ∈ receivers (foundSsrcs 0 media) ts →
    (setReceiversSsrc media ts).2[j]? = ts[j]?.map (KvsRtpTransceiver.setSsrc f.ssrc)
  unchanged : ∀ j, j ∉ received (foundSsrcs 0 media) ts →
    (setReceiversSsrc media ts).2[j]? = ts[j]?

/-- **SSRCs are assigned as they are announced** exactly when the attribute each section's SSRC is
taken from is named `ssrc`, and a section with the SSRC 0 that finds a transceiver is the last one
of its kind. -/
theorem receivers_assigned_iff (media : List SdpMediaDescription) (ts : List KvsRtpTransceiver) :
    AssignsExactly media ts ↔
      (∀ f ∈ foundSsrcs 0 media, f.sdpAttribute.1 = SSRC_KEY) ∧
        ZerosLast (foundSsrcs 0 media) ts := by
  have hfst := map_fst_receivers (foundSsrcs 0 media) ts
  have hmem : ∀ r ∈ receivers (foundSsrcs 0 media) ts, r.1 ∈ foundSsrcs 0 media := by
    intro r hr
    rw [← hfst]
    exact List.mem_map_of_mem hr
  constructor
  · intro h
    refine ⟨fun f hf => ?_, (once_iff _ _).mp h.once⟩
    rw [← hfst] at hf
    obtain ⟨r, hr, rfl⟩ := List.mem_map.mp hf
    exact h.named r hr
  · rintro ⟨hnamed, hzeros⟩
    have honce := (once_iff _ ts).mpr hzeros
    refine ⟨fun r hr => hnamed r.1 (hmem r hr), fun r hr => foundSsrcs_from media r.1 (hmem r hr),
      ?_, honce, ?_, ?_, ?_, ?_⟩
    · have hpairs := foundSsrcs_pairwise media 0
      rw [← hfst, List.pairwise_map] at hpairs
      exact hpairs
    · intro f j hr
      obtain ⟨t, ht, htakes⟩ := takes_of_receiver hr
      exact ⟨t, ht, takesSsrc_iff.mp htakes⟩
    · intro before f j after hsplit i hi t ht hzero hcodec
      exact receivers_in_order hsplit i hi t ht (takesSsrc_iff.mpr ⟨hzero, hcodec⟩)
    · intro f j hr
      rw [setReceiversSsrc_eq media ts 0]
      exact assignAll_of_mem honce hr
    · intro j hj
      rw [setReceiversSsrc_eq media ts 0]
      exact assignAll_of_notMem hj

/-! ## Names and zeros that are not SSRCs -/

/-- A description with one attribute in its only media section. -/
def oneAttribute (mediaName name value : Bytes) : SdpMediaDescription :=
  { SdpMediaDescription.zero with
    mediaName := ((strncpy (CharArray.zeroed _) mediaName mediaName.length).getD (.zeroed _))
    sdpAttributes := .replicate _
      ⟨(strncpy (CharArray.zeroed _) name name.length).getD (.zeroed _),
        (strncpy (CharArray.zeroed _) value value.length).getD (.zeroed _)⟩
    mediaAttributesCount := 1 }

theorem not_receivers_assigned :
    ¬AssignsExactly [oneAttribute (ascii "video") (ascii "s") (ascii "7 x")]
      [⟨.VP8, .VIDEO, 0, 0, []⟩] := by
  intro h
  have hfound : foundSsrcs 0 [oneAttribute (ascii "video") (ascii "s") (ascii "7 x")] =
      [⟨0, .VIDEO, (ascii "s", ascii "7 x"), 7⟩] := by
    decide +kernel
  have hnamed := h.named
  rw [hfound] at hnamed
  have hs := hnamed _ List.mem_cons_self
  exact absurd hs (by decide)

end KvsWebrtc.PeerConnection
