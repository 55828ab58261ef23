import KvsWebrtc.Lib.KeyedList
import KvsWebrtc.Lib.Steps
import KvsWebrtc.Signaling.FileCache
import Mathlib.Data.List.Find

/-!
# The cache file as a keyed store (`FileCache.c`)

Over whole histories of savings and loadings the file holds one line for each key that was saved,
with the entry that was saved last.  A region shorter than the name of a role does not survive the
file, as it is copied over that name; nor does a role that is neither of the two, or a line that the
buffer does not hold.

Principal results:

* `entryLoop_lines` — written entries are read back;
* `cache_is_store` — in a history whose entries survive the file, every call succeeds and every load
  answers with the entry saved last under its key.
-/

namespace KvsWebrtc.Signaling.FileCache

open CString Sdp Steps KeyedList

variable {R : Nat}

/-! ## Entries -/

/-- The values before the time stamp. -/
def fields (e : SignalingFileCacheEntry R) : List Bytes :=
  [e.channelName.text, printRole e.role, e.region.text, e.controlPlaneUrl.text,
    e.useDualStackEndpoints.text, e.channelArn.text, e.httpsEndpoint.text, e.wssEndpoint.text,
    e.storageEnabled.text, e.storageStreamArn.text, e.webrtcEndpoint.text]

theorem values_eq (e : SignalingFileCacheEntry R) :
    values e = fields e ++ [printTimestamp e.creationTsEpochSeconds] := rfl

/-- The strings fit their fields, without separators, and nothing that is required is missing. -/
structure WellFormed (e : SignalingFileCacheEntry R) : Prop where
  channelName : e.channelName.Terminated
  region : e.region.Terminated
  controlPlaneUrl : e.controlPlaneUrl.Terminated
  useDualStackEndpoints : e.useDualStackEndpoints.Terminated
  channelArn : e.channelArn.Terminated
  httpsEndpoint : e.httpsEndpoint.Terminated
  wssEndpoint : e.wssEndpoint.Terminated
  storageEnabled : e.storageEnabled.Terminated
  storageStreamArn : e.storageStreamArn.Terminated
  webrtcEndpoint : e.webrtcEndpoint.Terminated
  separators : ∀ value ∈ fields e, comma ∉ value ∧ newline ∉ value
  required : complete e = true
  timestamp : e.creationTsEpochSeconds.toNat < 10 ^ MAX_SIGNALING_CACHE_ENTRY_TIMESTAMP_STR_LEN

/-- The region is as long as the name of a role, the role is one of the two, and the buffer holds
the line. -/
structure Survives (e : SignalingFileCacheEntry R) : Prop where
  region : SIGNALING_FILE_CACHE_ROLE_TYPE_MASTER_STR.length ≤ e.region.text.length
  role : e.role ≠ .UNKNOWN
  line : (serializedCacheEntry e).length < MAX_SERIALIZED_SIGNALING_CACHE_ENTRY_LEN R

/-- Two entries with the same strings and numbers. -/
structure Same (e f : SignalingFileCacheEntry R) : Prop where
  role : e.role = f.role
  creationTsEpochSeconds : e.creationTsEpochSeconds = f.creationTsEpochSeconds
  storageEnabled : e.storageEnabled.text = f.storageEnabled.text
  channelName : e.channelName.text = f.channelName.text
  channelArn : e.channelArn.text = f.channelArn.text
  region : e.region.text = f.region.text
  controlPlaneUrl : e.controlPlaneUrl.text = f.controlPlaneUrl.text
  useDualStackEndpoints : e.useDualStackEndpoints.text = f.useDualStackEndpoints.text
  httpsEndpoint : e.httpsEndpoint.text = f.httpsEndpoint.text
  wssEndpoint : e.wssEndpoint.text = f.wssEndpoint.text
  storageStreamArn : e.storageStreamArn.text = f.storageStreamArn.text
  webrtcEndpoint : e.webrtcEndpoint.text = f.webrtcEndpoint.text

/-- The entry that is read for the line of an entry. -/
def reread (e : SignalingFileCacheEntry R) : SignalingFileCacheEntry R :=
  { entryOf R (fields e) with creationTsEpochSeconds := e.creationTsEpochSeconds }

theorem length_text_le_of_terminated {n : Nat} {a : CharArray (n + 1)} (h : a.Terminated) :
    a.text.length ≤ n := Nat.le_of_lt_succ (CharArray.length_text_lt h)

theorem text_reread {n : Nat} (a : CharArray n) : (CharArray.ofText n a.text).text = a.text :=
  CharArray.text_ofText (CharArray.text_noNul a) (CharArray.length_text_le a)

variable {e : SignalingFileCacheEntry R}

theorem roleOf_printRole {role : SIGNALING_CHANNEL_ROLE_TYPE} (h : role ≠ .UNKNOWN) :
    roleOf (printRole role) = some role := by
  cases role with
  | UNKNOWN => exact absurd rfl h
  | MASTER => decide
  | VIEWER => decide

theorem length_printRole (role : SIGNALING_CHANNEL_ROLE_TYPE) :
    (printRole role).length = SIGNALING_FILE_CACHE_ROLE_TYPE_MASTER_STR.length := by
  cases role <;> decide

/-- **An entry that survives is read as it was.** -/
theorem same_reread (h : Survives e) : Same e (reread e) where
  role := by simp [reread, entryOf, fields, tokenAt, roleOf_printRole h.role]
  creationTsEpochSeconds := rfl
  storageEnabled := (text_reread _).symm
  channelName := (text_reread _).symm
  channelArn := (text_reread _).symm
  region := by
    have hdrop : (printRole e.role).drop e.region.text.length = [] := by
      refine List.drop_eq_nil_of_le ?_
      rw [length_printRole]
      exact h.region
    change _ = (CharArray.ofText (R + 1)
      (e.region.text ++ (printRole e.role).drop e.region.text.length)).text
    rw [hdrop, List.append_nil, text_reread]
  controlPlaneUrl := (text_reread _).symm
  useDualStackEndpoints := (text_reread _).symm
  httpsEndpoint := (text_reread _).symm
  wssEndpoint := (text_reread _).symm
  storageStreamArn := (text_reread _).symm
  webrtcEndpoint := (text_reread _).symm

theorem Same.values {f : SignalingFileCacheEntry R} (h : Same e f) : values e = values f := by
  unfold FileCache.values
  rw [h.channelName, h.role, h.region, h.controlPlaneUrl, h.useDualStackEndpoints, h.channelArn,
    h.httpsEndpoint, h.wssEndpoint, h.storageEnabled, h.storageStreamArn, h.webrtcEndpoint,
    h.creationTsEpochSeconds]

theorem isEmptyString_eq {n : Nat} (a : CharArray (n + 1)) :
    isEmptyString a = decide (a.text = []) := by
  unfold isEmptyString CharArray.text
  have hsize := a.size
  cases hbytes : a.bytes with
  | nil =>
    rw [hbytes] at hsize
    cases hsize
  | cons c rest =>
    by_cases hc : c = 0 <;> simp [List.takeWhile_cons, hc]

theorem Same.complete {f : SignalingFileCacheEntry R} (h : Same e f) : complete e = complete f := by
  unfold FileCache.complete
  simp only [isEmptyString_eq, h.channelArn, h.channelName, h.region, h.httpsEndpoint,
    h.wssEndpoint, h.controlPlaneUrl, h.useDualStackEndpoints]

theorem fits_fields (hwell : WellFormed e) (h : Survives e) : Fits R (fields e) where
  length := by
    intro i hi
    have hregion := length_text_le_of_terminated hwell.region
    have hrole := length_printRole e.role
    have hshort := h.region
    change i < 11 at hi
    interval_cases i
    · exact length_text_le_of_terminated hwell.channelName
    · change (printRole e.role).length ≤ R
      omega
    · exact hregion
    · exact length_text_le_of_terminated hwell.controlPlaneUrl
    · exact length_text_le_of_terminated hwell.useDualStackEndpoints
    · exact length_text_le_of_terminated hwell.channelArn
    · exact length_text_le_of_terminated hwell.httpsEndpoint
    · exact length_text_le_of_terminated hwell.wssEndpoint
    · exact length_text_le_of_terminated hwell.storageEnabled
    · exact length_text_le_of_terminated hwell.storageStreamArn
    · exact length_text_le_of_terminated hwell.webrtcEndpoint
  role := by
    intro _ hnone
    change roleOf (printRole e.role) = none at hnone
    rw [roleOf_printRole h.role] at hnone
    cases hnone

/-! ## The time stamp -/

theorem length_printTimestamp {v : UINT64}
    (h : v.toNat < 10 ^ MAX_SIGNALING_CACHE_ENTRY_TIMESTAMP_STR_LEN) :
    (printTimestamp v).length = MAX_SIGNALING_CACHE_ENTRY_TIMESTAMP_STR_LEN := by
  have hmax : MAX_SIGNALING_CACHE_ENTRY_TIMESTAMP_STR_LEN = 10 := rfl
  have hlen : (printU64 v).length ≤ 10 := by
    rw [printU64, List.length_map, Nat.length_toDigits_le_iff (by omega) (by omega)]
    rw [hmax] at h
    exact h
  rw [printTimestamp, List.length_append, List.length_replicate]
  omega

theorem mem_printTimestamp {v : UINT64} {c : UINT8} (h : c ∈ printTimestamp v) :
    48 ≤ c.toNat ∧ c.toNat ≤ 57 := by
  rcases List.mem_append.mp h with h | h
  · rw [List.eq_of_mem_replicate h]
    decide
  · exact mem_printU64 h

theorem strtointLoop_zeros (k : Nat) (s : Bytes) :
    strtointLoop 10 (List.replicate k 48 ++ s) 0 = strtointLoop 10 s 0 := by
  induction k with
  | zero => rfl
  | succ k ih =>
    rw [List.replicate_succ, List.cons_append, ← ih]
    rfl

theorem timestampOf_printTimestamp {v : UINT64}
    (h : v.toNat < 10 ^ MAX_SIGNALING_CACHE_ENTRY_TIMESTAMP_STR_LEN) :
    timestampOf (printTimestamp v) = some v := by
  have hlen := length_printTimestamp h
  have hne : printTimestamp v ≠ [] := by
    intro hnil
    rw [hnil] at hlen
    cases hlen
  have hsign : ∀ c, c.toNat < 48 → (printTimestamp v).head? ≠ some c := by
    intro c hc hhead
    have hdigit := mem_printTimestamp (List.mem_of_head? hhead)
    omega
  have hloop : strtointLoop 10 (printTimestamp v) 0 = some v := by
    rw [printTimestamp, strtointLoop_zeros]
    have hdigits := strtointLoop_toDigits v.toNat v.isLt
    simpa [printU64] using hdigits
  have hminus := hsign 45 (by decide)
  have hplus := hsign 43 (by decide)
  unfold timestampOf
  rw [if_pos (by omega)]
  unfold strtoui64 strtoint
  simp only [hminus, hplus, or_self, if_false, Nat.zero_le, if_true, List.drop_zero, ← hlen,
    List.take_length, if_neg hne, hloop, ne_eq, not_false_eq_true, decide_true]

/-! ## Reading what was written -/

theorem serializedCacheEntry_append (e : SignalingFileCacheEntry R) (rest : Bytes) :
    serializedCacheEntry e ++ rest =
      chain (fields e) (printTimestamp e.creationTsEpochSeconds ++ newline :: rest) := by
  rw [serializedCacheEntry, values_eq, intercalate_eq_chain, List.append_assoc, chain_append,
    List.singleton_append]

theorem length_serializedCacheEntry (hwell : WellFormed e) :
    (serializedCacheEntry e).length = (chain (fields e) []).length + 11 := by
  have htime := length_printTimestamp hwell.timestamp
  rw [serializedCacheEntry, values_eq, intercalate_eq_chain, List.length_append, length_chain,
    htime]
  rfl

theorem not_mem_chain {c : UINT8} {last : Bytes} (hc : c ≠ comma) (hlast : c ∉ last) :
    ∀ toks : List Bytes, (∀ tok ∈ toks, c ∉ tok) → c ∉ chain toks last
  | [], _ => hlast
  | tok :: toks, htoks => by
    rw [chain, List.mem_append, List.mem_cons, not_or, not_or]
    exact ⟨htoks tok List.mem_cons_self, hc,
      not_mem_chain hc hlast toks fun u hu => htoks u (List.mem_cons_of_mem tok hu)⟩

theorem not_mem_printTimestamp {c : UINT8} (hc : c.toNat < 48) (v : UINT64) :
    c ∉ printTimestamp v := by
  intro hmem
  have hdigit := mem_printTimestamp hmem
  omega

/-- The values of the entry fit their fields, and nothing that is required is missing then. -/
structure Readable (e : SignalingFileCacheEntry R) : Prop where
  well : WellFormed e
  fits : Fits R (fields e)
  complete : complete (entryOf R (fields e)) = true

theorem readable_of_survives (hwell : WellFormed e) (h : Survives e) : Readable e where
  well := hwell
  fits := fits_fields hwell h
  complete := by
    have hsame := (same_reread h).complete
    rw [hwell.required] at hsame
    exact hsame.symm

theorem readEntry_serialized (hR : R + 1 < 2 ^ 32) {entries : Nat}
    (hentries : entries ≤ MAX_SIGNALING_CACHE_ENTRY_COUNT) (h : Readable e) (rest : Bytes)
    (remainingSize : UINT32)
    (hremaining : (serializedCacheEntry e).length ≤ remainingSize.toNat) :
    readEntry ⟨serializedCacheEntry e ++ rest, remainingSize, BitVec.ofNat 32 (12 * entries),
        zeroedEntry R⟩ =
      .ok ⟨rest, remainingSize - BitVec.ofNat 32 (serializedCacheEntry e).length,
        BitVec.ofNat 32 (12 * (entries + 1)), reread e⟩ := by
  have hlength := length_serializedCacheEntry h.well
  have htime := length_printTimestamp h.well.timestamp
  have hline : newline ∉ chain (fields e) (printTimestamp e.creationTsEpochSeconds) :=
    not_mem_chain (by decide) (not_mem_printTimestamp (by decide) _) _
      fun value hv => (h.well.separators value hv).2
  rw [serializedCacheEntry_append, readEntry_line hR hentries (not_mem_printTimestamp (by decide) _)
    rest (fun value hv => (h.well.separators value hv).1) hline (Nat.le_refl 11) h.fits
    (by omega), timestampOf_printTimestamp h.well.timestamp]
  dsimp only
  rw [if_neg (by omega), if_pos h.complete, hlength, List.drop_append, htime,
    List.drop_eq_nil_of_le (by rw [htime]; decide)]
  rfl

/-- **Written entries are read back.** -/
theorem entryLoop_lines (hR : R + 1 < 2 ^ 32) (es : List (SignalingFileCacheEntry R))
    (hes : ∀ e ∈ es, Readable e) (entries slots : Nat)
    (hroom : es.length ≤ slots) (hslots : entries + slots ≤ MAX_SIGNALING_CACHE_ENTRY_COUNT)
    (remainingSize : UINT32)
    (hremaining : remainingSize.toNat = (es.flatMap serializedCacheEntry).length) :
    entryLoop slots (es.flatMap serializedCacheEntry) remainingSize
        (BitVec.ofNat 32 (12 * entries)) = .ok (es.map reread) := by
  induction es generalizing entries slots remainingSize with
  | nil =>
    cases slots with
    | zero => rfl
    | succ slots => exact if_neg fun h => h.1 rfl
  | cons e es ih =>
    cases slots with
    | zero => cases hroom
    | succ slots =>
      have he := hes e List.mem_cons_self
      have hlength := length_serializedCacheEntry he.well
      rw [List.flatMap_cons, List.length_append] at hremaining
      have hlt := remainingSize.isLt
      have hsize : (BitVec.ofNat 32 (serializedCacheEntry e).length : UINT32).toNat =
          (serializedCacheEntry e).length := by
        rw [BitVec.toNat_ofNat]
        omega
      have hrest : (remainingSize - BitVec.ofNat 32 (serializedCacheEntry e).length).toNat =
          (es.flatMap serializedCacheEntry).length := by
        rw [BitVec.toNat_sub_of_le, hsize]
        · omega
        · rw [BitVec.le_def, hsize]
          omega
      have hnext := ih (fun f hf => hes f (List.mem_cons_of_mem e hf)) (entries + 1) slots
        (Nat.le_of_succ_le_succ hroom) (by omega) _ hrest
      have hentries : entries ≤ MAX_SIGNALING_CACHE_ENTRY_COUNT := by omega
      have hread := readEntry_serialized hR hentries he
        (es.flatMap serializedCacheEntry) remainingSize (by omega)
      have hmore : serializedCacheEntry e ++ es.flatMap serializedCacheEntry ≠ [] ∧
          BitVec.ofNat 32 MAX_SIGNALING_CACHE_ENTRY_TIMESTAMP_STR_LEN < remainingSize := by
        constructor
        · intro hnil
          rw [(List.append_eq_nil_iff.mp hnil).1] at hlength
          cases hlength
        · rw [BitVec.lt_def, toNat_timestampLen]
          omega
      rw [List.flatMap_cons, entryLoop, if_pos hmore, hread]
      dsimp only
      rw [hnext]
      rfl

/-! ## Histories -/

/-- `saved` is not in the source: the entries saved so far, oldest first. -/
structure Cache (R : Nat) where
  file : Bytes
  saved : List (SignalingFileCacheEntry R)

inductive Event (R : Nat) where
  | save (e : SignalingFileCacheEntry R)
  | load (k : Key)

def step (c : Cache R) : Event R → Cache R
  | .save e => ⟨(signalingCacheSaveToFile e c.file).1, c.saved ++ [e]⟩
  | .load k => ⟨(signalingCacheLoadFromFile (R := R) k c.file).1, c.saved⟩

def emptyCache (R : Nat) : Cache R := ⟨[], []⟩

/-- What entries are told apart by. -/
def keyOf (e : SignalingFileCacheEntry R) :
    Bytes × Bytes × Bytes × Bytes × SIGNALING_CHANNEL_ROLE_TYPE :=
  (e.channelName.text, e.region.text, e.controlPlaneUrl.text, e.useDualStackEndpoints.text, e.role)

/-- The entry saved last under the key. -/
def lastSaved (k : Key) (saved : List (SignalingFileCacheEntry R)) :
    Option (SignalingFileCacheEntry R) :=
  saved.reverse.find? (matchesKey k)

/-- Saved entries are well-formed and have few enough keys; what is asked for is not empty. -/
def Admissible (c : Cache R) : Event R → Prop
  | .save e =>
    WellFormed e ∧ ((c.saved ++ [e]).map keyOf).dedup.length ≤ MAX_SIGNALING_CACHE_ENTRY_COUNT
  | .load k => k.channelName ≠ [] ∧ k.region ≠ [] ∧ k.controlPlaneUrl ≠ []

/-- The call succeeds, and a load finds the entry saved last under the key. -/
def StoreAnswers (c : Cache R) : Event R → Prop
  | .save e => (signalingCacheSaveToFile e c.file).2 = .ok ()
  | .load k =>
    match lastSaved k c.saved with
    | none => (signalingCacheLoadFromFile (R := R) k c.file).2 = .ok none
    | some e => ∃ f, (signalingCacheLoadFromFile k c.file).2 = .ok (some f) ∧ Same e f

/-- Every saved entry survives the file. -/
def SavedSurvive (_ : Cache R) : Event R → Prop
  | .save e => Survives e
  | .load _ => True

/-- The lines of the file are those of a store with the saved entries. -/
structure Holds (c : Cache R) : Prop where
  file : c.file = (puts keyOf c.saved).flatMap serializedCacheEntry
  saved : ∀ e ∈ c.saved, WellFormed e ∧ Survives e
  keys : (c.saved.map keyOf).dedup.length ≤ MAX_SIGNALING_CACHE_ENTRY_COUNT

theorem Holds.mem {c : Cache R} (h : Holds c) (e : SignalingFileCacheEntry R)
    (he : e ∈ puts keyOf c.saved) : WellFormed e ∧ Survives e := h.saved e (mem_of_mem_puts he)

theorem length_flatMap_le {α : Type} {f : α → Bytes} {bound : Nat} (as : List α)
    (h : ∀ a ∈ as, (f a).length ≤ bound) : (as.flatMap f).length ≤ as.length * bound := by
  induction as with
  | nil => simp
  | cons a as ih =>
    rw [List.flatMap_cons, List.length_append, List.length_cons, Nat.succ_mul]
    have hhead := h a List.mem_cons_self
    have htail := ih fun b hb => h b (List.mem_cons_of_mem a hb)
    omega

/-- The largest file has a size of 32 bits. -/
def SmallFile (R : Nat) : Prop :=
  MAX_SERIALIZED_SIGNALING_CACHE_ENTRY_LEN R * MAX_SIGNALING_CACHE_ENTRY_COUNT < 2 ^ 32

instance : Decidable (SmallFile R) := inferInstanceAs (Decidable (_ < _))

theorem SmallFile.region (h : SmallFile R) : R + 1 < 2 ^ 32 := by
  have hle : R + 1 ≤ MAX_SERIALIZED_SIGNALING_CACHE_ENTRY_LEN R := by
    unfold MAX_SERIALIZED_SIGNALING_CACHE_ENTRY_LEN
    omega
  have hmax : MAX_SIGNALING_CACHE_ENTRY_COUNT = 32 := rfl
  rw [SmallFile, hmax] at h
  omega

/-- **Reading the file gives the entries of the store.** -/
theorem Holds.readEntries {c : Cache R} (hsmall : SmallFile R) (h : Holds c) :
    readEntries c.file = (c.file, .ok ((puts keyOf c.saved).map reread)) := by
  unfold FileCache.readEntries
  by_cases hfile : c.file = []
  · rw [if_pos hfile]
    have hnil : puts keyOf c.saved = [] := by
      cases hstore : puts keyOf c.saved with
      | nil => rfl
      | cons e es =>
        have hlines := h.file
        rw [hfile, hstore, List.flatMap_cons] at hlines
        have hwell := (h.mem e (hstore ▸ List.mem_cons_self)).1
        have hlength := length_serializedCacheEntry hwell
        rw [(List.append_eq_nil_iff.mp hlines.symm).1] at hlength
        cases hlength
    rw [hnil]
    rfl
  · rw [if_neg hfile]
    have hroom : (puts keyOf c.saved).length ≤ MAX_SIGNALING_CACHE_ENTRY_COUNT := by
      rw [length_puts]
      exact h.keys
    have hlength : c.file.length < 2 ^ 32 := by
      rw [h.file]
      have hlines := length_flatMap_le (puts keyOf c.saved) fun e he =>
        Nat.le_of_lt (h.mem e he).2.line
      have hmul := Nat.mul_le_mul_right (MAX_SERIALIZED_SIGNALING_CACHE_ENTRY_LEN R) hroom
      unfold SmallFile at hsmall
      rw [Nat.mul_comm] at hsmall
      omega
    have hread : deserializeSignalingCacheEntries c.file =
        .ok ((puts keyOf c.saved).map reread) := by
      have hloop := entryLoop_lines hsmall.region (puts keyOf c.saved)
        (fun e he => readable_of_survives (h.mem e he).1 (h.mem e he).2) 0
        MAX_SIGNALING_CACHE_ENTRY_COUNT hroom (Nat.le_of_eq (Nat.zero_add _))
        (BitVec.ofNat 32 c.file.length) (by
          rw [BitVec.toNat_ofNat, Nat.mod_eq_of_lt hlength, ← h.file])
      rw [← h.file] at hloop
      exact hloop
    rw [hread]

theorem sameKey_eq (f e : SignalingFileCacheEntry R) :
    sameKey f e = decide (keyOf f = keyOf e) := by
  unfold sameKey keyOf
  rw [Bool.eq_iff_iff]
  simp only [Bool.and_eq_true, decide_eq_true_eq, Prod.mk.injEq]
  tauto

theorem Same.keyOf {f : SignalingFileCacheEntry R} (h : Same e f) : keyOf e = keyOf f := by
  unfold FileCache.keyOf
  rw [h.channelName, h.region, h.controlPlaneUrl, h.useDualStackEndpoints, h.role]

theorem Same.serialized {f : SignalingFileCacheEntry R} (h : Same e f) :
    serializedCacheEntry e = serializedCacheEntry f := by
  rw [serializedCacheEntry, h.values, serializedCacheEntry]

theorem writeEntries_eq (es : List (SignalingFileCacheEntry R))
    (h : ∀ e ∈ es, (serializedCacheEntry e).length < MAX_SERIALIZED_SIGNALING_CACHE_ENTRY_LEN R) :
    writeEntries es = .ok (es.flatMap serializedCacheEntry) := by
  induction es with
  | nil => rfl
  | cons e es ih =>
    rw [writeEntries, if_pos (h e List.mem_cons_self),
      ih fun f hf => h f (List.mem_cons_of_mem e hf), List.flatMap_cons]
    rfl

theorem findIdx_reread {es : List (SignalingFileCacheEntry R)} (hes : ∀ f ∈ es, Same f (reread f)) :
    (es.map reread).findIdx (sameKey · e) = es.findIdx fun f => keyOf f = keyOf e := by
  induction es with
  | nil => rfl
  | cons f es ih =>
    rw [List.map_cons, List.findIdx_cons, List.findIdx_cons, sameKey_eq,
      ← (hes f List.mem_cons_self).keyOf, ih fun g hg => hes g (List.mem_cons_of_mem f hg)]

theorem map_replaceEntry {es : List (SignalingFileCacheEntry R)}
    (hes : ∀ f ∈ es, Same f (reread f))
    (hroom : (put keyOf es e).length ≤ MAX_SIGNALING_CACHE_ENTRY_COUNT) :
    (replaceEntry (es.map reread) e).map serializedCacheEntry =
      (put keyOf es e).map serializedCacheEntry := by
  have hidx := findIdx_reread (e := e) hes
  have hmap : (es.map reread).map serializedCacheEntry = es.map serializedCacheEntry := by
    rw [List.map_map]
    exact List.map_congr_left fun f hf => (hes f hf).serialized.symm
  unfold replaceEntry put at *
  dsimp only at *
  rw [hidx, List.length_map]
  split
  · rw [List.map_set, hmap, List.map_set]
  · rename_i hnew
    rw [if_neg hnew, List.length_append] at hroom
    have hfew : ¬MAX_SIGNALING_CACHE_ENTRY_COUNT ≤ es.length := Nat.not_le_of_lt hroom
    rw [if_neg hfew, List.map_append, hmap, List.map_append]

theorem Holds.save {c : Cache R} (hsmall : SmallFile R) (h : Holds c)
    (hadmissible : Admissible c (.save e)) (hsurvives : Survives e) :
    signalingCacheSaveToFile e c.file =
      ((puts keyOf (c.saved ++ [e])).flatMap serializedCacheEntry, .ok ()) := by
  obtain ⟨hwell, hkeys⟩ := hadmissible
  have hroom : (put keyOf (puts keyOf c.saved) e).length ≤ MAX_SIGNALING_CACHE_ENTRY_COUNT := by
    rw [← puts_concat, length_puts]
    exact hkeys
  have hmap := map_replaceEntry (fun f hf => same_reread (h.mem f hf).2) hroom
  have hlines : ∀ f ∈ replaceEntry ((puts keyOf c.saved).map reread) e,
      (serializedCacheEntry f).length < MAX_SERIALIZED_SIGNALING_CACHE_ENTRY_LEN R := by
    intro f hf
    have hmem := List.mem_map_of_mem (f := serializedCacheEntry) hf
    rw [hmap] at hmem
    obtain ⟨g, hg, hline⟩ := List.mem_map.mp hmem
    rw [← hline]
    rcases mem_put hg with rfl | hg
    · exact hsurvives.line
    · exact (h.mem g hg).2.line
  unfold signalingCacheSaveToFile
  rw [hwell.required, h.readEntries hsmall]
  dsimp only
  rw [writeEntries_eq _ hlines, puts_concat, List.flatMap_def, List.flatMap_def, hmap]
  rfl

theorem matchesKey_same {f : SignalingFileCacheEntry R} (h : Same e f) (k : Key) :
    matchesKey k f = matchesKey k e := by
  unfold matchesKey
  rw [h.channelName, h.region, h.role, h.controlPlaneUrl, h.useDualStackEndpoints]

theorem matchesKey_eq (k : Key) (f : SignalingFileCacheEntry R) :
    matchesKey k f = decide (FileCache.keyOf f =
      (k.channelName, k.region, k.controlPlaneUrl, useDualStackStr k.useDualStackEndpoints,
        k.role)) := by
  unfold matchesKey keyOf
  rw [Bool.eq_iff_iff]
  simp only [Bool.and_eq_true, decide_eq_true_eq, Prod.mk.injEq]
  tauto

/-- **A load answers with the entry saved last under the key.** -/
theorem Holds.load {c : Cache R} (hsmall : SmallFile R) (h : Holds c) {k : Key}
    (hadmissible : Admissible c (.load k)) :
    signalingCacheLoadFromFile k c.file = (c.file, .ok ((lastSaved k c.saved).map reread)) := by
  have hkey : ¬(k.channelName = [] ∨ k.region = [] ∨ k.controlPlaneUrl = []) := by
    rintro (hnil | hnil | hnil)
    · exact hadmissible.1 hnil
    · exact hadmissible.2.1 hnil
    · exact hadmissible.2.2 hnil
  have hfind : ((puts keyOf c.saved).map reread).find? (matchesKey k) =
      (lastSaved k c.saved).map reread := by
    have hlast : (puts keyOf c.saved).find? (matchesKey k) = lastSaved k c.saved := by
      have hpred : matchesKey (R := R) k = fun f => decide (keyOf f =
          (k.channelName, k.region, k.controlPlaneUrl, useDualStackStr k.useDualStackEndpoints,
            k.role)) := funext (matchesKey_eq k)
      rw [lastSaved, hpred, find_puts]
    have hcongr : (puts keyOf c.saved).find? (matchesKey k ∘ reread) =
        (puts keyOf c.saved).find? (matchesKey k) :=
      List.find?_congr fun f hf => matchesKey_same (same_reread (h.mem f hf).2) k
    rw [← hlast, List.find?_map, hcongr]
  unfold signalingCacheLoadFromFile
  rw [if_neg hkey, h.readEntries hsmall]
  dsimp only
  rw [hfind]

/-! ## The store -/

theorem Holds.step {c : Cache R} (hsmall : SmallFile R) (h : Holds c) {event : Event R}
    (hadmissible : Admissible c event) (hsurvives : SavedSurvive c event) :
    Holds (step c event) := by
  cases event with
  | save e =>
    refine ⟨?_, fun f hf => ?_, hadmissible.2⟩
    · unfold FileCache.step
      dsimp only
      rw [h.save hsmall hadmissible hsurvives]
    · rcases List.mem_append.mp hf with hf | hf
      · exact h.saved f hf
      · rw [List.mem_singleton.mp hf]
        exact ⟨hadmissible.1, hsurvives⟩
  | load k =>
    unfold FileCache.step
    dsimp only
    rw [h.load hsmall hadmissible]
    exact h

/-- **A call of the store answers right.** -/
theorem Holds.answers {c : Cache R} (hsmall : SmallFile R) (h : Holds c) {event : Event R}
    (hadmissible : Admissible c event) (hsurvives : SavedSurvive c event) :
    StoreAnswers c event := by
  cases event with
  | save e =>
    unfold StoreAnswers
    dsimp only
    rw [h.save hsmall hadmissible hsurvives]
  | load k =>
    unfold StoreAnswers
    dsimp only
    rw [h.load hsmall hadmissible]
    cases hlast : lastSaved k c.saved with
    | none => rfl
    | some e =>
      have hmem := List.mem_reverse.mp (List.mem_of_find?_eq_some hlast)
      exact ⟨reread e, rfl, same_reread (h.saved e hmem).2⟩

theorem holds_empty : Holds (emptyCache R) := ⟨rfl, fun _ he => (by cases he), Nat.zero_le _⟩

/-- **In a history whose entries survive the file, the file is a keyed store.** -/
theorem cache_is_store (hsmall : SmallFile R) (events : List (Event R))
    (hadmissible : Each step Admissible (emptyCache R) events)
    (hsurvive : Each step SavedSurvive (emptyCache R) events) :
    Each step StoreAnswers (emptyCache R) events :=
  Each.of_inv holds_empty (fun _ _ h hboth => h.step hsmall hboth.1 hboth.2)
    (fun _ _ h hboth => h.answers hsmall hboth.1 hboth.2) (hadmissible.and hsurvive)

/-- An entry of a master, with the region. -/
def masterEntry (region : Bytes) : SignalingFileCacheEntry 128 where
  role := .MASTER
  creationTsEpochSeconds := 1700000000
  storageEnabled := .ofText _ []
  channelName := .ofText _ (ascii "demo")
  channelArn := .ofText _ (ascii "arn")
  region := .ofText _ region
  controlPlaneUrl := .ofText _ (ascii "url")
  useDualStackEndpoints := .ofText _ (ascii "0")
  httpsEndpoint := .ofText _ (ascii "https")
  wssEndpoint := .ofText _ (ascii "wss")
  storageStreamArn := .ofText _ []
  webrtcEndpoint := .ofText _ []

def masterKey (region : Bytes) : Key := ⟨ascii "demo", region, ascii "url", false, .MASTER⟩

theorem fields_masterEntry (region : Bytes) (hnul : ∀ c ∈ region, c ≠ 0)
    (hlen : region.length ≤ 129) :
    fields (masterEntry region) = [ascii "demo", ascii "Master", region, ascii "url", ascii "0",
      ascii "arn", ascii "https", ascii "wss", [], [], []] := by
  have htext : ∀ {n : Nat} {t : Bytes}, (∀ c ∈ t, c ≠ 0) → t.length ≤ n →
      (CharArray.ofText n t).text = t := CharArray.text_ofText
  unfold fields masterEntry
  rw [htext hnul hlen, htext (by decide) (by decide), htext (by decide) (by decide),
    htext (by decide) (by decide), htext (by decide) (by decide), htext (by decide) (by decide),
    htext (by decide) (by decide), htext (by decide) (by decide), htext (by decide) (by decide)]
  rfl

theorem wellFormed_masterEntry (region : Bytes) (hnul : ∀ c ∈ region, c ≠ 0)
    (hlen : region.length ≤ 128) (hne : region ≠ [])
    (hseparators : comma ∉ region ∧ newline ∉ region) : WellFormed (masterEntry region) where
  channelName := CharArray.terminated_ofText (by decide)
  region := CharArray.terminated_ofText (by omega)
  controlPlaneUrl := CharArray.terminated_ofText (by decide)
  useDualStackEndpoints := CharArray.terminated_ofText (by decide)
  channelArn := CharArray.terminated_ofText (by decide)
  httpsEndpoint := CharArray.terminated_ofText (by decide)
  wssEndpoint := CharArray.terminated_ofText (by decide)
  storageEnabled := CharArray.terminated_ofText (by decide)
  storageStreamArn := CharArray.terminated_ofText (by decide)
  webrtcEndpoint := CharArray.terminated_ofText (by decide)
  separators := by
    rw [fields_masterEntry region hnul (by omega)]
    intro value hv
    simp only [List.mem_cons, List.not_mem_nil, or_false] at hv
    rcases hv with rfl | rfl | rfl | rfl | rfl | rfl | rfl | rfl | rfl | rfl | rfl
    case inr.inr.inl => exact hseparators
    all_goals decide
  required := by
    have hregion : isEmptyString (CharArray.ofText (128 + 1) region) = false := by
      rw [isEmptyString_ofText hnul]
      exact decide_eq_false hne
    unfold complete masterEntry
    dsimp only
    rw [hregion]
    decide
  timestamp := by
    change (1700000000 : UINT64).toNat < _
    decide

theorem admissible_save {e : SignalingFileCacheEntry R} (h : WellFormed e) :
    Admissible (emptyCache R) (.save e) := by
  refine ⟨h, ?_⟩
  have hle := (List.dedup_sublist (([] ++ [e]).map keyOf)).length_le
  exact Nat.le_trans hle (Nat.succ_le_of_lt (Nat.zero_lt_succ 31))

/-- A region of nine characters survives. -/
theorem cache_is_store_saved_once :
    Each step StoreAnswers (emptyCache 128)
      [.save (masterEntry (ascii "us-west-2")), .load (masterKey (ascii "us-west-2"))] := by
  have hwell := wellFormed_masterEntry (ascii "us-west-2") (by decide) (by decide)
    (by decide) (by decide)
  have hfields := fields_masterEntry (ascii "us-west-2") (by decide) (by decide)
  refine cache_is_store (by decide) _ ⟨admissible_save hwell, ?_, trivial⟩ ⟨?_, trivial, trivial⟩
  · exact ⟨by decide, by decide, by decide⟩
  · refine ⟨?_, by decide, ?_⟩
    · change _ ≤ (CharArray.ofText (128 + 1) (ascii "us-west-2")).text.length
      rw [CharArray.text_ofText (by decide) (by decide)]
      decide
    · rw [length_serializedCacheEntry hwell, hfields]
      decide

theorem save_once (hrequired : complete e = true)
    (hline : (serializedCacheEntry e).length < MAX_SERIALIZED_SIGNALING_CACHE_ENTRY_LEN R) :
    signalingCacheSaveToFile e [] = (serializedCacheEntry e, .ok ()) := by
  have hwritten := writeEntries_eq [e] fun f hf => by rwa [List.mem_singleton.mp hf]
  rw [List.flatMap_singleton] at hwritten
  have hempty : readEntries (R := R) [] = ([], .ok []) := rfl
  have hone : replaceEntry [] e = [e] := rfl
  unfold signalingCacheSaveToFile
  rw [hrequired, hempty]
  dsimp only
  rw [hone, hwritten]
  rfl

theorem readEntries_once (hR : R + 1 < 2 ^ 32) (h : Readable e)
    (hline : (serializedCacheEntry e).length < 2 ^ 32) :
    readEntries (serializedCacheEntry e) = (serializedCacheEntry e, .ok [reread e]) := by
  have hread := entryLoop_lines hR [e] (fun f hf => by rwa [List.mem_singleton.mp hf]) 0
    MAX_SIGNALING_CACHE_ENTRY_COUNT (by rw [List.length_singleton]; decide) (by decide)
    (BitVec.ofNat 32 (serializedCacheEntry e).length) (by
      rw [BitVec.toNat_ofNat, Nat.mod_eq_of_lt hline, List.flatMap_singleton])
  rw [List.flatMap_singleton] at hread
  have hne : serializedCacheEntry e ≠ [] := by
    have hlength := length_serializedCacheEntry h.well
    intro hnil
    rw [hnil] at hlength
    cases hlength
  have hread : deserializeSignalingCacheEntries (serializedCacheEntry e) = .ok [reread e] := hread
  unfold readEntries
  rw [if_neg hne, hread]

/-- A region of two characters comes back with the rest of the role behind it. -/
theorem short_region_lost :
    ¬∀ (R : Nat), SmallFile R → ∀ events : List (Event R),
      Each step Admissible (emptyCache R) events →
        Each step StoreAnswers (emptyCache R) events := by
  intro h
  have hwell := wellFormed_masterEntry (ascii "eu") (by decide) (by decide) (by decide)
    (by decide)
  have hfields := fields_masterEntry (ascii "eu") (by decide) (by decide)
  have hline : (serializedCacheEntry (masterEntry (ascii "eu"))).length <
      MAX_SERIALIZED_SIGNALING_CACHE_ENTRY_LEN 128 := by
    rw [length_serializedCacheEntry hwell, hfields]
    decide
  have hreadable : Readable (masterEntry (ascii "eu")) := by
    refine ⟨hwell, ?_, ?_⟩
    · rw [hfields]
      refine ⟨?_, by decide⟩
      intro i hi
      change i < 11 at hi
      interval_cases i <;> decide
    · rw [hfields]
      decide
  have hanswers := (h 128 (by decide)
    [.save (masterEntry (ascii "eu")), .load (masterKey (ascii "eu"))]
    ⟨admissible_save hwell, ⟨by decide, by decide, by decide⟩, trivial⟩).2.1
  have hsave := save_once hwell.required hline
  have hread := readEntries_once (by decide) hreadable (Nat.lt_trans hline (by decide))
  have hlast : lastSaved (masterKey (ascii "eu")) [masterEntry (ascii "eu")] =
      some (masterEntry (ascii "eu")) := by
    have hmatch : matchesKey (masterKey (ascii "eu")) (masterEntry (ascii "eu")) = true := by decide
    rw [lastSaved, List.reverse_singleton, List.find?_cons_of_pos hmatch]
  have hlost : [reread (masterEntry (ascii "eu"))].find? (matchesKey (masterKey (ascii "eu"))) =
      none := by
    have hregion : (reread (masterEntry (ascii "eu"))).region =
        .ofText (128 + 1) (ascii "euster") := by
      change CharArray.ofText (128 + 1) _ = _
      rw [hfields]
      rfl
    rw [List.find?_cons_of_neg]
    · rfl
    · unfold matchesKey
      rw [hregion]
      decide
  unfold StoreAnswers step emptyCache signalingCacheLoadFromFile at hanswers
  dsimp only at hanswers
  rw [hsave] at hanswers
  dsimp only [List.nil_append] at hanswers
  rw [hlast] at hanswers
  rw [if_neg (by decide), hread] at hanswers
  dsimp only at hanswers
  rw [hlost] at hanswers
  obtain ⟨f, hf, -⟩ := hanswers
  cases hf

end KvsWebrtc.Signaling.FileCache
