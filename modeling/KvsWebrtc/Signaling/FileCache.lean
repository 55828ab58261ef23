import KvsWebrtc.Lib.CString
import KvsWebrtc.Sdp.Description
import KvsWebrtc.Sdp.Numbers

/-!
# The signaling cache file (`FileCache.c`)

The file holds one line an entry, of twelve values with commas between them.  Reading copies each
value up to its comma into the field whose turn it is, then takes ten characters as the time stamp
and goes on behind the character after them.  Saving reads all entries, replaces or adds one and
writes all of them again.

The model stops at the first step that leaves memory, a string or the counter in a bad state
(`Fault`).  `MAX_REGION_NAME_LEN` comes from a header outside the repository and is a parameter.

Principal results: `storeToken_fits` (a value and its field), `tokenLoop_line` (the loop over the
values of a line), `readEntry_line` (one line).
-/

namespace KvsWebrtc.Signaling.FileCache

open CString Sdp

def MAX_CHANNEL_NAME_LEN : Nat := 256
def MAX_ARN_LEN : Nat := 2048
def MAX_CONTROL_PLANE_URI_CHAR_LEN : Nat := 256
def MAX_SIGNALING_ENDPOINT_URI_LEN : Nat := 512
def MAX_SIGNALING_CACHE_ENTRY_TIMESTAMP_STR_LEN : Nat := 10
def MAX_SIGNALING_CACHE_ENTRY_COUNT : Nat := 32
def SIGNALING_FILE_CACHE_ROLE_TYPE_MASTER_STR : Bytes := ascii "Master"
def SIGNALING_FILE_CACHE_ROLE_TYPE_VIEWER_STR : Bytes := ascii "Viewer"

def MAX_SERIALIZED_SIGNALING_CACHE_ENTRY_LEN (MAX_REGION_NAME_LEN : Nat) : Nat :=
  MAX_CHANNEL_NAME_LEN + MAX_ARN_LEN + MAX_REGION_NAME_LEN + MAX_SIGNALING_ENDPOINT_URI_LEN * 2 +
    MAX_SIGNALING_CACHE_ENTRY_TIMESTAMP_STR_LEN + 8

def comma : UINT8 := 44
def newline : UINT8 := 10

inductive SIGNALING_CHANNEL_ROLE_TYPE where
  | UNKNOWN
  | MASTER
  | VIEWER
  deriving DecidableEq, Repr

structure SignalingFileCacheEntry (MAX_REGION_NAME_LEN : Nat) where
  role : SIGNALING_CHANNEL_ROLE_TYPE
  creationTsEpochSeconds : UINT64
  storageEnabled : CharArray 2
  channelName : CharArray (MAX_CHANNEL_NAME_LEN + 1)
  channelArn : CharArray (MAX_ARN_LEN + 1)
  region : CharArray (MAX_REGION_NAME_LEN + 1)
  controlPlaneUrl : CharArray (MAX_CONTROL_PLANE_URI_CHAR_LEN + 1)
  useDualStackEndpoints : CharArray 2
  httpsEndpoint : CharArray (MAX_SIGNALING_ENDPOINT_URI_LEN + 1)
  wssEndpoint : CharArray (MAX_SIGNALING_ENDPOINT_URI_LEN + 1)
  storageStreamArn : CharArray (MAX_ARN_LEN + 1)
  webrtcEndpoint : CharArray (MAX_SIGNALING_ENDPOINT_URI_LEN + 1)
  deriving DecidableEq

inductive STATUS where
  | INVALID_ARG
  /-- Of `strtoui64`. -/
  | NUMBER
  deriving DecidableEq, Repr

inductive Fault where
  /-- A copy leaves its field. -/
  | outsideField
  /-- A copy leaves its field without a NUL. -/
  | unterminated
  /-- `remainingSize` drops below zero. -/
  | belowZero
  /-- `pCurrent` passes the NUL of the content. -/
  | outsideContent
  /-- The written text is not all in the buffer. -/
  | outsideBuffer
  deriving DecidableEq, Repr

inductive Failure where
  | status (s : STATUS)
  | fault (f : Fault)
  deriving DecidableEq, Repr

variable {R : Nat}

/-! ## Reading -/

def zeroedEntry (R : Nat) : SignalingFileCacheEntry R where
  role := .UNKNOWN
  creationTsEpochSeconds := 0
  storageEnabled := .zeroed _
  channelName := .zeroed _
  channelArn := .zeroed _
  region := .zeroed _
  controlPlaneUrl := .zeroed _
  useDualStackEndpoints := .zeroed _
  httpsEndpoint := .zeroed _
  wssEndpoint := .zeroed _
  storageStreamArn := .zeroed _
  webrtcEndpoint := .zeroed _

/-- `strchr`, as a distance. -/
def strchr (s : Bytes) (c : UINT8) : Option Nat := strnchr s s.length c

/-- `STRNCPY(dst, pCurrent, nextToken - pCurrent)`. -/
def copyToken {n : Nat} (dst : CharArray n) (pCurrent : Bytes) (count : Nat) :
    Except Failure (CharArray n) :=
  match strncpy dst pCurrent count with
  | none => .error (.fault .outsideField)
  | some dst => if dst.Terminated then .ok dst else .error (.fault .unterminated)

def roleOf (pCurrent : Bytes) : Option SIGNALING_CHANNEL_ROLE_TYPE :=
  if strncmpEq pCurrent SIGNALING_FILE_CACHE_ROLE_TYPE_MASTER_STR
      SIGNALING_FILE_CACHE_ROLE_TYPE_MASTER_STR.length then some .MASTER
  else if strncmpEq pCurrent SIGNALING_FILE_CACHE_ROLE_TYPE_VIEWER_STR
      SIGNALING_FILE_CACHE_ROLE_TYPE_VIEWER_STR.length then some .VIEWER
  else none

/-- The `switch`. -/
def storeToken (tokenCount : UINT32) (e : SignalingFileCacheEntry R) (pCurrent : Bytes)
    (count : Nat) : Except Failure (SignalingFileCacheEntry R) :=
  match (tokenCount % 12).toNat with
  | 0 => (fun channelName => { e with channelName }) <$> copyToken e.channelName pCurrent count
  -- the role is copied into the region, too
  | 1 => do
    let region ← copyToken e.region pCurrent count
    match roleOf pCurrent with
    | some role => pure { e with region, role }
    | none => throw (.status .INVALID_ARG)
  | 2 => (fun region => { e with region }) <$> copyToken e.region pCurrent count
  | 3 =>
    (fun controlPlaneUrl => { e with controlPlaneUrl }) <$>
      copyToken e.controlPlaneUrl pCurrent count
  | 4 =>
    (fun useDualStackEndpoints => { e with useDualStackEndpoints }) <$>
      copyToken e.useDualStackEndpoints pCurrent count
  | 5 => (fun channelArn => { e with channelArn }) <$> copyToken e.channelArn pCurrent count
  | 6 =>
    (fun httpsEndpoint => { e with httpsEndpoint }) <$>
      copyToken e.httpsEndpoint pCurrent count
  | 7 => (fun wssEndpoint => { e with wssEndpoint }) <$> copyToken e.wssEndpoint pCurrent count
  | 8 =>
    (fun storageEnabled => { e with storageEnabled }) <$>
      copyToken e.storageEnabled pCurrent count
  | 9 =>
    (fun storageStreamArn => { e with storageStreamArn }) <$>
      copyToken e.storageStreamArn pCurrent count
  | 10 =>
    (fun webrtcEndpoint => { e with webrtcEndpoint }) <$>
      copyToken e.webrtcEndpoint pCurrent count
  | _ => pure e

/-- `pCurrent` is the content from there on. -/
structure Parser (R : Nat) where
  pCurrent : Bytes
  remainingSize : UINT32
  tokenCount : UINT32
  entry : SignalingFileCacheEntry R

/-- `pCurrent += size; remainingSize -= size`. -/
def Parser.advance (p : Parser R) (size : UINT32) : Except Failure (Parser R) :=
  if p.pCurrent.length < size.toNat then .error (.fault .outsideContent)
  else if p.remainingSize < size then .error (.fault .belowZero)
  else
    .ok { p with
      pCurrent := p.pCurrent.drop size.toNat
      remainingSize := p.remainingSize - size }

/-- The inner loop; `nextLine` is the distance to the end of the line, or 0 without one. -/
def tokenLoop (p : Parser R) (nextLine : Nat) : Except Failure (Parser R) :=
  match strchr p.pCurrent comma with
  | none => .ok p
  | some nextToken =>
    if nextToken < nextLine then
      match storeToken p.tokenCount p.entry p.pCurrent nextToken with
      | .error failure => .error failure
      | .ok entry =>
        let size : UINT32 := BitVec.ofNat 32 nextToken + 1
        -- then the same text is copied again, until it does not fit its field
        if size = 0 then .error (.fault .outsideField)
        else
          match { p with entry, tokenCount := p.tokenCount + 1 : Parser R }.advance size with
          | .error failure => .error failure
          | .ok p => tokenLoop p (nextLine - size.toNat)
    else .ok p
termination_by nextLine
decreasing_by
  have hpos : 0 < (BitVec.ofNat 32 nextToken + 1).toNat := by
    rcases Nat.eq_zero_or_pos (BitVec.ofNat 32 nextToken + 1).toNat with hzero | hpos
    · exact absurd (BitVec.eq_of_toNat_eq hzero) ‹_›
    · exact hpos
  change nextLine - (BitVec.ofNat 32 nextToken + 1).toNat < nextLine
  omega

def isEmptyString {n : Nat} (a : CharArray n) : Bool := a.bytes.headD 0 = 0

/-- The required fields. -/
def complete (e : SignalingFileCacheEntry R) : Bool :=
  !isEmptyString e.channelArn && !isEmptyString e.channelName && !isEmptyString e.region &&
    !isEmptyString e.httpsEndpoint && !isEmptyString e.wssEndpoint &&
    !isEmptyString e.controlPlaneUrl && !isEmptyString e.useDualStackEndpoints

/-- One round of the outer loop. -/
def readEntry (p : Parser R) : Except Failure (Parser R) := do
  let p ← tokenLoop p ((strchr p.pCurrent newline).getD 0)
  match strtoui64 p.pCurrent MAX_SIGNALING_CACHE_ENTRY_TIMESTAMP_STR_LEN 10 with
  | none => throw (.status .NUMBER)
  | some creationTsEpochSeconds =>
    let p ← { p with
      entry := { p.entry with creationTsEpochSeconds }
      tokenCount := p.tokenCount + 1 : Parser R }.advance
        (BitVec.ofNat 32 (MAX_SIGNALING_CACHE_ENTRY_TIMESTAMP_STR_LEN + 1))
    if complete p.entry then pure p else throw (.status .INVALID_ARG)

/-- The outer loop, with `slots` entries left in the list. -/
def entryLoop : Nat → Bytes → UINT32 → UINT32 → Except Failure (List (SignalingFileCacheEntry R))
  | 0, _, _, _ => .ok []
  | slots + 1, pCurrent, remainingSize, tokenCount =>
    if pCurrent ≠ [] ∧
        BitVec.ofNat 32 MAX_SIGNALING_CACHE_ENTRY_TIMESTAMP_STR_LEN < remainingSize then
      match readEntry ⟨pCurrent, remainingSize, tokenCount, zeroedEntry R⟩ with
      | .error failure => .error failure
      | .ok p =>
        match entryLoop slots p.pCurrent p.remainingSize p.tokenCount with
        | .error failure => .error failure
        | .ok entries => .ok (p.entry :: entries)
    else .ok []

/-- `cachedFileContent` is the text before its NUL; the list has room for
`MAX_SIGNALING_CACHE_ENTRY_COUNT` entries, all zeroed. -/
def deserializeSignalingCacheEntries (cachedFileContent : Bytes) :
    Except Failure (List (SignalingFileCacheEntry R)) :=
  entryLoop MAX_SIGNALING_CACHE_ENTRY_COUNT cachedFileContent
    (BitVec.ofNat 32 cachedFileContent.length) 0

/-! ## Saving and loading -/

/-- `%.10` before `PRIu64`. -/
def printTimestamp (v : UINT64) : Bytes :=
  List.replicate (MAX_SIGNALING_CACHE_ENTRY_TIMESTAMP_STR_LEN - (printU64 v).length) 48 ++
    printU64 v

def printRole (role : SIGNALING_CHANNEL_ROLE_TYPE) : Bytes :=
  if role = .MASTER then SIGNALING_FILE_CACHE_ROLE_TYPE_MASTER_STR
  else SIGNALING_FILE_CACHE_ROLE_TYPE_VIEWER_STR

/-- The values of a line. -/
def values (e : SignalingFileCacheEntry R) : List Bytes :=
  [e.channelName.text, printRole e.role, e.region.text, e.controlPlaneUrl.text,
    e.useDualStackEndpoints.text, e.channelArn.text, e.httpsEndpoint.text, e.wssEndpoint.text,
    e.storageEnabled.text, e.storageStreamArn.text, e.webrtcEndpoint.text,
    printTimestamp e.creationTsEpochSeconds]

def serializedCacheEntry (e : SignalingFileCacheEntry R) : Bytes :=
  [comma].intercalate (values e) ++ [newline]

def writeEntries : List (SignalingFileCacheEntry R) → Except Failure Bytes
  | [] => .ok []
  | e :: es =>
    if (serializedCacheEntry e).length < MAX_SERIALIZED_SIGNALING_CACHE_ENTRY_LEN R then
      (serializedCacheEntry e ++ ·) <$> writeEntries es
    else .error (.fault .outsideBuffer)

def sameKey (e f : SignalingFileCacheEntry R) : Bool :=
  e.channelName.text = f.channelName.text && e.controlPlaneUrl.text = f.controlPlaneUrl.text &&
    e.useDualStackEndpoints.text = f.useDualStackEndpoints.text && e.region.text = f.region.text &&
    e.role = f.role

/-- Replaces the entry with the key, or adds one; without room the last one is replaced. -/
def replaceEntry (entries : List (SignalingFileCacheEntry R)) (e : SignalingFileCacheEntry R) :
    List (SignalingFileCacheEntry R) :=
  let i := entries.findIdx (sameKey · e)
  if i < entries.length then entries.set i e
  else if MAX_SIGNALING_CACHE_ENTRY_COUNT ≤ entries.length then
    entries.set (MAX_SIGNALING_CACHE_ENTRY_COUNT - 1) e
  else entries ++ [e]

/-- What both operations read first; a file that cannot be read is removed. -/
def readEntries (file : Bytes) : Bytes × Except Failure (List (SignalingFileCacheEntry R)) :=
  if file = [] then (file, .ok [])
  else
    match deserializeSignalingCacheEntries file with
    | .error (.status s) => ([], .error (.status s))
    | result => (file, result)

/-- The file afterwards, and the status. -/
def signalingCacheSaveToFile (e : SignalingFileCacheEntry R) (file : Bytes) :
    Bytes × Except Failure Unit :=
  if !complete e then (file, .error (.status .INVALID_ARG))
  else
    match readEntries file with
    | (file, .error failure) => (file, .error failure)
    | (file, .ok entries) =>
      match writeEntries (replaceEntry entries e) with
      | .error failure => (file, .error failure)
      | .ok written => (written, .ok ())

/-- What is asked for. -/
structure Key where
  channelName : Bytes
  region : Bytes
  controlPlaneUrl : Bytes
  useDualStackEndpoints : Bool
  role : SIGNALING_CHANNEL_ROLE_TYPE
  deriving DecidableEq

def useDualStackStr (useDualStackEndpoints : Bool) : Bytes :=
  if useDualStackEndpoints then [49] else [48]

def matchesKey (k : Key) (e : SignalingFileCacheEntry R) : Bool :=
  e.channelName.text = k.channelName && e.region.text = k.region && e.role = k.role &&
    e.controlPlaneUrl.text = k.controlPlaneUrl &&
    e.useDualStackEndpoints.text = useDualStackStr k.useDualStackEndpoints

def signalingCacheLoadFromFile (k : Key) (file : Bytes) :
    Bytes × Except Failure (Option (SignalingFileCacheEntry R)) :=
  if k.channelName = [] ∨ k.region = [] ∨ k.controlPlaneUrl = [] then
    (file, .error (.status .INVALID_ARG))
  else
    match readEntries file with
    | (file, .error failure) => (file, .error failure)
    | (file, .ok entries) => (file, .ok (entries.find? (matchesKey k)))

/-! ## A value and its field -/

theorem strchr_append {s t : Bytes} {c : UINT8} (hs : c ∉ s) :
    strchr (s ++ c :: t) c = some s.length :=
  strnchr_append hs (by simp)

/-- The number of characters that fit each value's field. -/
def fieldLen (R : Nat) : Nat → Nat
  | 0 => MAX_CHANNEL_NAME_LEN
  | 1 => R
  | 2 => R
  | 3 => MAX_CONTROL_PLANE_URI_CHAR_LEN
  | 4 => 1
  | 5 => MAX_ARN_LEN
  | 6 => MAX_SIGNALING_ENDPOINT_URI_LEN
  | 7 => MAX_SIGNALING_ENDPOINT_URI_LEN
  | 8 => 1
  | 9 => MAX_ARN_LEN
  | _ => MAX_SIGNALING_ENDPOINT_URI_LEN

/-- The value with the number, if the line has come to it. -/
def tokenAt (ts : List Bytes) (i : Nat) : Bytes := ts.getD i []

theorem tokenAt_ge {ts : List Bytes} {i : Nat} (h : ts.length ≤ i) : tokenAt ts i = [] :=
  List.getD_eq_default _ _ h

theorem tokenAt_concat_self (ts : List Bytes) (tok : Bytes) :
    tokenAt (ts ++ [tok]) ts.length = tok := by
  rw [tokenAt, List.getD_append_right _ _ _ _ (Nat.le_refl _), Nat.sub_self]
  rfl

theorem tokenAt_concat_ne {ts : List Bytes} {i : Nat} (tok : Bytes) (h : i ≠ ts.length) :
    tokenAt (ts ++ [tok]) i = tokenAt ts i := by
  rcases Nat.lt_or_gt_of_ne h with hlt | hgt
  · exact List.getD_append _ _ _ _ hlt
  · have hlength : (ts ++ [tok]).length ≤ i := by
      rw [List.length_append]
      exact hgt
    rw [tokenAt_ge hlength, tokenAt_ge (by omega)]

/-- The entry after the first values of a line; the region keeps what the role left behind it. -/
def entryOf (R : Nat) (ts : List Bytes) : SignalingFileCacheEntry R where
  role := (roleOf (tokenAt ts 1)).getD .UNKNOWN
  creationTsEpochSeconds := 0
  storageEnabled := .ofText _ (tokenAt ts 8)
  channelName := .ofText _ (tokenAt ts 0)
  channelArn := .ofText _ (tokenAt ts 5)
  region := .ofText _ (tokenAt ts 2 ++ (tokenAt ts 1).drop (tokenAt ts 2).length)
  controlPlaneUrl := .ofText _ (tokenAt ts 3)
  useDualStackEndpoints := .ofText _ (tokenAt ts 4)
  httpsEndpoint := .ofText _ (tokenAt ts 6)
  wssEndpoint := .ofText _ (tokenAt ts 7)
  storageStreamArn := .ofText _ (tokenAt ts 9)
  webrtcEndpoint := .ofText _ (tokenAt ts 10)

theorem entryOf_nil (R : Nat) : entryOf R [] = zeroedEntry R := by
  have hnil : ∀ i, tokenAt [] i = [] := fun i => tokenAt_ge (Nat.zero_le i)
  have hrole : roleOf [] = none := by decide
  simp [entryOf, zeroedEntry, hnil, hrole]

theorem copyToken_fits {n : Nat} (old : Bytes) {tok : Bytes} (rest : Bytes) (htok : tok.length ≤ n)
    (hold : old.length ≤ n) :
    copyToken (.ofText (n + 1) old) (tok ++ rest) tok.length =
      .ok (.ofText (n + 1) (tok ++ old.drop tok.length)) := by
  have hlen : (tok ++ old.drop tok.length).length < n + 1 := by
    rw [List.length_append, List.length_drop]
    omega
  unfold copyToken
  rw [strncpy_ofText (by simp) (by omega), List.take_left]
  exact if_pos (CharArray.terminated_ofText hlen)

theorem roleOf_append (tok rest : Bytes) :
    roleOf (tok ++ comma :: rest) = roleOf tok := by
  have hname : ∀ name : Bytes, comma ∉ name →
      strncmpEq (tok ++ comma :: rest) name name.length = strncmpEq tok name name.length := by
    intro name hname
    unfold strncmpEq
    rw [List.take_length]
    rcases Nat.lt_or_ge tok.length name.length with hlt | hge
    · have hleft : (tok ++ comma :: rest).take name.length ≠ name := by
        intro heq
        refine hname (heq ▸ ?_)
        rw [List.take_append, List.mem_append]
        right
        rw [← Nat.sub_add_cancel (Nat.sub_pos_of_lt hlt), List.take_succ_cons]
        exact List.mem_cons_self
      have hright : tok.take name.length ≠ name := by
        intro heq
        have hlength := congrArg List.length heq
        rw [List.length_take] at hlength
        omega
      rw [beq_eq_false_iff_ne.mpr hleft, beq_eq_false_iff_ne.mpr hright]
    · rw [List.take_append_of_le_length hge]
  unfold roleOf
  rw [hname _ (by decide), hname _ (by decide)]

/-- **A value that fits goes into its field**, unless it is an unknown role. -/
theorem storeToken_fits {ts : List Bytes} {tok : Bytes} {tokenCount : UINT32} (rest : Bytes)
    (hphase : tokenCount.toNat % 12 = ts.length) (hcount : ts.length ≤ 10)
    (hrole : (tokenAt ts 1).length ≤ R) (htok : tok.length ≤ fieldLen R ts.length) :
    storeToken tokenCount (entryOf R ts) (tok ++ comma :: rest) tok.length =
      if ts.length = 1 ∧ roleOf tok = none then .error (.status .INVALID_ARG)
      else .ok (entryOf R (ts ++ [tok])) := by
  have hnum : (tokenCount % 12).toNat = ts.length := by
    rw [BitVec.toNat_umod]
    exact hphase
  have hnil : ∀ i, ts.length ≤ i → tokenAt ts i = [] := fun i => tokenAt_ge
  have hself := tokenAt_concat_self ts tok
  have hother : ∀ i, i ≠ ts.length → tokenAt (ts ++ [tok]) i = tokenAt ts i :=
    fun i => tokenAt_concat_ne tok
  have hcopy : ∀ (m : Nat) {old : Bytes}, old = [] → tok.length ≤ m →
      copyToken (.ofText (m + 1) old) (tok ++ comma :: rest) tok.length =
        .ok (.ofText (m + 1) tok) := by
    rintro m old rfl hm
    simpa using copyToken_fits [] (comma :: rest) hm (Nat.zero_le m)
  unfold storeToken
  rw [hnum]
  generalize ts.length = n at *
  interval_cases n
  case «0» =>
    simp [entryOf, hcopy MAX_CHANNEL_NAME_LEN (hnil 0 (by decide)) htok, hother, hself]
  case «1» =>
    have hold : (entryOf R ts).region = .ofText _ [] := by
      rw [entryOf, hnil 1 (by decide), hnil 2 (by decide)]
      rfl
    rw [hold, hcopy R rfl htok, roleOf_append tok rest]
    cases hknown : roleOf tok with
    | none => rfl
    | some role =>
      simp [entryOf, hother, hself, hknown, hnil, bind, Except.bind, pure, Except.pure]
  case «2» =>
    have hold : (entryOf R ts).region = .ofText _ (tokenAt ts 1) := by
      rw [entryOf, hnil 2 (by decide)]
      rfl
    rw [hold, copyToken_fits (n := R) (tokenAt ts 1) (comma :: rest) htok hrole]
    simp [entryOf, hother, hself]
  case «3» =>
    simp [entryOf, hcopy MAX_CONTROL_PLANE_URI_CHAR_LEN (hnil 3 (by decide)) htok, hother, hself]
  case «4» =>
    simp [entryOf, hcopy 1 (hnil 4 (by decide)) htok, hother, hself]
  case «5» =>
    simp [entryOf, hcopy MAX_ARN_LEN (hnil 5 (by decide)) htok, hother, hself]
  case «6» =>
    simp [entryOf, hcopy MAX_SIGNALING_ENDPOINT_URI_LEN (hnil 6 (by decide)) htok, hother, hself]
  case «7» =>
    simp [entryOf, hcopy MAX_SIGNALING_ENDPOINT_URI_LEN (hnil 7 (by decide)) htok, hother, hself]
  case «8» =>
    simp [entryOf, hcopy 1 (hnil 8 (by decide)) htok, hother, hself]
  case «9» =>
    simp [entryOf, hcopy MAX_ARN_LEN (hnil 9 (by decide)) htok, hother, hself]
  case «10» =>
    simp [entryOf, hcopy MAX_SIGNALING_ENDPOINT_URI_LEN (hnil 10 (by decide)) htok, hother, hself]

/-! ## The values of a line -/

/-- Values with a comma behind each. -/
def chain : List Bytes → Bytes → Bytes
  | [], rest => rest
  | tok :: toks, rest => tok ++ comma :: chain toks rest

theorem chain_append (toks : List Bytes) (s t : Bytes) :
    chain toks s ++ t = chain toks (s ++ t) := by
  induction toks with
  | nil => rfl
  | cons tok toks ih => rw [chain, chain, List.append_assoc, List.cons_append, ih]

theorem length_chain (toks : List Bytes) (rest : Bytes) :
    (chain toks rest).length = (chain toks []).length + rest.length := by
  rw [← List.length_append, chain_append, List.nil_append]

theorem length_chain_cons (tok : Bytes) (toks : List Bytes) (rest : Bytes) :
    (chain (tok :: toks) rest).length = tok.length + 1 + (chain toks rest).length := by
  rw [chain, List.length_append, List.length_cons]
  omega

theorem intercalate_eq_chain (toks : List Bytes) (last : Bytes) :
    [comma].intercalate (toks ++ [last]) = chain toks last := by
  induction toks with
  | nil => simp [chain, List.intercalate]
  | cons tok toks ih =>
    have hne : toks ++ [last] ≠ [] := by simp
    obtain ⟨next, more, hcons⟩ := List.exists_cons_of_ne_nil hne
    rw [List.cons_append, chain, ← ih, hcons]
    simp [List.intercalate, List.intersperse]

theorem ofNat_succ (n : Nat) : (BitVec.ofNat 32 (n + 1) : UINT32) = BitVec.ofNat 32 n + 1 := by
  rw [BitVec.ofNat_add]
  rfl

theorem toNat_size {n : Nat} (h : n + 1 < 2 ^ 32) :
    (BitVec.ofNat 32 n + 1 : UINT32).toNat = n + 1 := by
  rw [BitVec.toNat_add, BitVec.toNat_ofNat]
  have hone : (1 : UINT32).toNat = 1 := rfl
  omega

theorem tokenLoop_cons {tok rest : Bytes} (hcomma : comma ∉ tok) (hlt : tok.length + 1 < 2 ^ 32)
    (remainingSize tokenCount : UINT32) (e : SignalingFileCacheEntry R) (d : Nat) :
    tokenLoop ⟨tok ++ comma :: rest, remainingSize, tokenCount, e⟩ (tok.length + 1 + d) =
      match storeToken tokenCount e (tok ++ comma :: rest) tok.length with
      | .error failure => .error failure
      | .ok entry =>
        if remainingSize.toNat < tok.length + 1 then .error (.fault .belowZero)
        else
          tokenLoop ⟨rest, remainingSize - (BitVec.ofNat 32 tok.length + 1), tokenCount + 1, entry⟩
            d := by
  have hsize := toNat_size hlt
  have hne : (BitVec.ofNat 32 tok.length + 1 : UINT32) ≠ 0 := by
    intro h
    rw [h] at hsize
    simp at hsize
  rw [tokenLoop, strchr_append hcomma]
  dsimp only
  rw [if_pos (by omega)]
  cases storeToken tokenCount e (tok ++ comma :: rest) tok.length with
  | error failure => rfl
  | ok entry =>
    dsimp only
    rw [if_neg hne, Parser.advance]
    rw [hsize, if_neg (by simp)]
    have hiff : remainingSize < BitVec.ofNat 32 tok.length + 1 ↔
        remainingSize.toNat < tok.length + 1 := by rw [BitVec.lt_def, hsize]
    by_cases hbelow : remainingSize.toNat < tok.length + 1
    · rw [if_pos hbelow, if_pos (hiff.mpr hbelow)]
    · rw [if_neg hbelow, if_neg (hiff.not.mpr hbelow)]
      rw [Nat.add_sub_cancel_left, List.drop_append, Nat.add_sub_cancel_left,
        List.drop_eq_nil_of_le (by omega)]
      rfl

theorem tokenLoop_last {last : Bytes} (t : Bytes) (hcomma : comma ∉ last)
    (remainingSize tokenCount : UINT32) (e : SignalingFileCacheEntry R) :
    tokenLoop ⟨last ++ newline :: t, remainingSize, tokenCount, e⟩ last.length =
      .ok ⟨last ++ newline :: t, remainingSize, tokenCount, e⟩ := by
  rw [tokenLoop]
  cases hfind : strchr (last ++ newline :: t) comma with
  | none => rfl
  | some n =>
    refine if_neg fun hlt => hcomma ?_
    have hat := (strnchr_eq_some.mp hfind).2.1
    rw [List.getElem?_append_left hlt] at hat
    exact List.mem_of_getElem? hat

/-- The values fit their fields, and the role is a known one. -/
structure Fits (R : Nat) (ts : List Bytes) : Prop where
  length : ∀ i, i < ts.length → (tokenAt ts i).length ≤ fieldLen R i
  role : 1 < ts.length → roleOf (tokenAt ts 1) ≠ none

theorem fieldLen_lt (hR : R + 1 < 2 ^ 32) (i : Nat) : fieldLen R i + 1 < 2 ^ 32 := by
  unfold fieldLen
  split <;> first | exact hR | decide

theorem toNat_tokenCount {entries k : Nat} (hentries : entries ≤ MAX_SIGNALING_CACHE_ENTRY_COUNT)
    (hk : k ≤ 12) : (BitVec.ofNat 32 (12 * entries + k) : UINT32).toNat = 12 * entries + k := by
  have hmax : MAX_SIGNALING_CACHE_ENTRY_COUNT = 32 := rfl
  rw [BitVec.toNat_ofNat]
  omega

variable {entries : Nat} {toks : List Bytes} {last : Bytes}

/-- **The values of a line that fit are stored one after the other.** -/
theorem tokenLoop_line (hR : R + 1 < 2 ^ 32) (hentries : entries ≤ MAX_SIGNALING_CACHE_ENTRY_COUNT)
    (hlast : comma ∉ last) (t : Bytes) (toks ts : List Bytes) (htoks : ∀ tok ∈ toks, comma ∉ tok)
    (hcount : (ts ++ toks).length ≤ 11) (hfits : Fits R (ts ++ toks)) (remainingSize : UINT32)
    (hremaining : (chain toks []).length ≤ remainingSize.toNat) :
    tokenLoop ⟨chain toks (last ++ newline :: t), remainingSize,
        BitVec.ofNat 32 (12 * entries + ts.length), entryOf R ts⟩ (chain toks last).length =
      .ok ⟨last ++ newline :: t, remainingSize - BitVec.ofNat 32 (chain toks []).length,
        BitVec.ofNat 32 (12 * entries + (ts ++ toks).length), entryOf R (ts ++ toks)⟩ := by
  induction toks generalizing ts remainingSize with
  | nil =>
    rw [List.append_nil]
    simpa [chain] using tokenLoop_last t hlast remainingSize
      (BitVec.ofNat 32 (12 * entries + ts.length)) (entryOf R ts)
  | cons tok toks ih =>
    have hlength : (ts ++ tok :: toks).length = ts.length + 1 + toks.length := by
      rw [List.length_append, List.length_cons]
      omega
    have hat : tokenAt (ts ++ tok :: toks) ts.length = tok := by
      rw [tokenAt, List.getD_append_right _ _ _ _ (Nat.le_refl _), Nat.sub_self]
      rfl
    have htok : tok.length ≤ fieldLen R ts.length := by
      have h := hfits.length ts.length (by omega)
      rwa [hat] at h
    have hsmall := fieldLen_lt hR ts.length
    have htc := toNat_tokenCount hentries (k := ts.length) (by omega)
    rw [length_chain_cons] at hremaining
    have hold : (tokenAt ts 1).length ≤ R := by
      rcases Nat.lt_or_ge 1 ts.length with hlt | hge
      · have h := hfits.length 1 (by omega)
        rwa [tokenAt, List.getD_append _ _ _ _ hlt] at h
      · rw [tokenAt_ge hge]
        exact Nat.zero_le R
    have hrole : ¬(ts.length = 1 ∧ roleOf tok = none) := by
      rintro ⟨hone, hnone⟩
      have h := hfits.role (by omega)
      rw [← hone, hat] at h
      exact h hnone
    rw [length_chain_cons, chain, tokenLoop_cons (htoks tok List.mem_cons_self) (by omega),
      storeToken_fits _ (by omega) (by omega) hold htok, if_neg hrole]
    dsimp only
    rw [if_neg (by omega)]
    have hsize := toNat_size (n := tok.length) (by omega)
    have happend : ts ++ tok :: toks = (ts ++ [tok]) ++ toks := by simp
    have hnext := ih (ts ++ [tok]) (fun u hu => htoks u (List.mem_cons_of_mem tok hu))
      (by rwa [← happend]) (by rwa [← happend])
      (remainingSize - (BitVec.ofNat 32 tok.length + 1)) (by
        rw [BitVec.toNat_sub_of_le, hsize]
        · omega
        · rw [BitVec.le_def, hsize]
          omega)
    have hcounter : (BitVec.ofNat 32 (12 * entries + ts.length) + 1 : UINT32) =
        BitVec.ofNat 32 (12 * entries + (ts ++ [tok]).length) := by
      rw [List.length_append, List.length_singleton, ← Nat.add_assoc, ofNat_succ]
    rw [hcounter, hnext, ← happend, length_chain_cons]
    congr 2
    rw [BitVec.ofNat_add, ofNat_succ, BitVec.sub_sub]

/-! ## The time stamp -/

theorem toNat_timestampLen :
    (BitVec.ofNat 32 MAX_SIGNALING_CACHE_ENTRY_TIMESTAMP_STR_LEN : UINT32).toNat = 10 := rfl

theorem toNat_timestampSize :
    (BitVec.ofNat 32 (MAX_SIGNALING_CACHE_ENTRY_TIMESTAMP_STR_LEN + 1) : UINT32).toNat = 11 := rfl

theorem strtointLoop_none {c : UINT8} (hc : digitOf c = none) {s : Bytes} (h : c ∈ s)
    (base acc : UINT64) : strtointLoop base s acc = none := by
  obtain ⟨before, after, rfl⟩ := List.append_of_mem h
  rw [strtointLoop_append]
  cases strtointLoop base before acc with
  | none => rfl
  | some result => simp [strtointLoop, hc]

/-- The time stamp of a line is read from its last value, which must have ten characters. -/
def timestampOf (last : Bytes) : Option UINT64 :=
  if MAX_SIGNALING_CACHE_ENTRY_TIMESTAMP_STR_LEN ≤ last.length then
    strtoui64 last MAX_SIGNALING_CACHE_ENTRY_TIMESTAMP_STR_LEN 10
  else none

theorem strtoui64_line (last t : Bytes) :
    strtoui64 (last ++ newline :: t) MAX_SIGNALING_CACHE_ENTRY_TIMESTAMP_STR_LEN 10 =
      timestampOf last := by
  have hmax : MAX_SIGNALING_CACHE_ENTRY_TIMESTAMP_STR_LEN = 10 := rfl
  unfold timestampOf
  rw [hmax]
  by_cases hlen : 10 ≤ last.length
  · rw [if_pos hlen]
    have hhead : (last ++ newline :: t).head? = last.head? := by
      cases last with
      | nil => simp at hlen
      | cons c last => rfl
    unfold strtoui64 strtoint
    rw [hhead, List.take_append_of_le_length hlen]
    have hpos : (if last.head? = some 45 ∨ last.head? = some 43 then 1 else 0) ≤ 10 := by
      split <;> decide
    simp only [if_pos hpos]
  · rw [if_neg hlen]
    -- the end of the line is among the ten characters, and not a digit
    have hmem : ∀ pos, pos ≤ last.length →
        newline ∈ ((last ++ newline :: t).take 10).drop pos := by
      intro pos hpos
      rw [List.take_append, List.drop_append, List.take_of_length_le (by omega), List.mem_append]
      right
      rw [Nat.sub_eq_zero_of_le hpos, List.drop_zero, ← Nat.sub_add_cancel (n := 10 - last.length)
        (m := 1) (by omega), List.take_succ_cons]
      exact List.mem_cons_self
    have hsign : (if (last ++ newline :: t).head? = some 45 ∨ (last ++ newline :: t).head? = some 43
        then 1 else 0) ≤ last.length := by
      cases last with
      | nil => simp [newline]
      | cons c last =>
        rw [List.length_cons]
        split <;> omega
    have hpos := Nat.le_trans hsign (Nat.le_of_lt (Nat.lt_of_not_le hlen))
    have hdigits := hmem _ hsign
    unfold strtoui64 strtoint
    dsimp only
    rw [if_pos hpos, if_neg (List.ne_nil_of_mem hdigits), strtointLoop_none (by decide) hdigits]

theorem le_length_of_timestampOf {last : Bytes} {time : UINT64} (h : timestampOf last = some time) :
    10 ≤ last.length := by
  unfold timestampOf at h
  split at h
  · assumption
  · cases h

theorem advance_timestamp {last : Bytes} (t : Bytes) (hlast : 10 ≤ last.length) {n : Nat}
    {remainingSize tokenCount : UINT32} (hn : n ≤ remainingSize.toNat)
    {e : SignalingFileCacheEntry R} :
    Parser.advance ⟨last ++ newline :: t, remainingSize - BitVec.ofNat 32 n, tokenCount, e⟩
        (BitVec.ofNat 32 (MAX_SIGNALING_CACHE_ENTRY_TIMESTAMP_STR_LEN + 1)) =
      if remainingSize.toNat < n + 11 then .error (.fault .belowZero)
      else .ok ⟨(last ++ newline :: t).drop 11, remainingSize - BitVec.ofNat 32 (n + 11), tokenCount,
        e⟩ := by
  have heleven := toNat_timestampSize
  have hsize : (BitVec.ofNat 32 n : UINT32).toNat = n := by
    have hlt := remainingSize.isLt
    rw [BitVec.toNat_ofNat]
    omega
  have hrest : (remainingSize - BitVec.ofNat 32 n).toNat = remainingSize.toNat - n := by
    rw [BitVec.toNat_sub_of_le, hsize]
    rw [BitVec.le_def, hsize]
    exact hn
  have hiff : remainingSize - BitVec.ofNat 32 n <
        BitVec.ofNat 32 (MAX_SIGNALING_CACHE_ENTRY_TIMESTAMP_STR_LEN + 1) ↔
      remainingSize.toNat < n + 11 := by
    rw [BitVec.lt_def, hrest, heleven]
    omega
  unfold Parser.advance
  rw [heleven, if_neg (by rw [List.length_append, List.length_cons]; omega)]
  by_cases hbelow : remainingSize.toNat < n + 11
  · rw [if_pos hbelow, if_pos (hiff.mpr hbelow)]
  · rw [if_neg hbelow, if_neg (hiff.not.mpr hbelow), BitVec.sub_sub, ← BitVec.ofNat_add]
    rfl

/-! ## One line -/

theorem isEmptyString_ofText {n : Nat} {t : Bytes} (ht : ∀ c ∈ t, c ≠ 0) :
    isEmptyString (.ofText (n + 1) t) = decide (t = []) := by
  unfold isEmptyString
  rw [CharArray.headD_ofText (Nat.succ_pos n)]
  cases t with
  | nil => rfl
  | cons c t => simpa using ht c List.mem_cons_self

/-- **One line is read**, when its values fit. -/
theorem readEntry_line (hR : R + 1 < 2 ^ 32) (hentries : entries ≤ MAX_SIGNALING_CACHE_ENTRY_COUNT)
    (hlast : comma ∉ last) (t : Bytes) (htoks : ∀ tok ∈ toks, comma ∉ tok)
    (hline : newline ∉ chain toks last) (hcount : toks.length ≤ 11) (hfits : Fits R toks)
    {remainingSize : UINT32} (hremaining : (chain toks []).length ≤ remainingSize.toNat) :
    readEntry ⟨chain toks (last ++ newline :: t), remainingSize, BitVec.ofNat 32 (12 * entries),
        zeroedEntry R⟩ =
      match timestampOf last with
      | none => .error (.status .NUMBER)
      | some creationTsEpochSeconds =>
        if remainingSize.toNat < (chain toks []).length + 11 then .error (.fault .belowZero)
        else if complete (entryOf R toks) then
          .ok ⟨(last ++ newline :: t).drop 11,
            remainingSize - BitVec.ofNat 32 ((chain toks []).length + 11),
            BitVec.ofNat 32 (12 * entries + toks.length + 1),
            { entryOf R toks with creationTsEpochSeconds }⟩
        else .error (.status .INVALID_ARG) := by
  have hnext : (strchr (chain toks (last ++ newline :: t)) newline).getD 0 =
      (chain toks last).length := by
    rw [← chain_append, strchr_append hline]
    rfl
  have hloop := tokenLoop_line hR hentries hlast t toks [] htoks (by simpa using hcount)
    (by simpa using hfits) remainingSize hremaining
  rw [List.nil_append, entryOf_nil] at hloop
  unfold readEntry
  dsimp only [List.length_nil, Nat.add_zero] at hloop ⊢
  rw [hnext, hloop]
  simp only [bind, Except.bind]
  rw [strtoui64_line]
  cases htime : timestampOf last with
  | none => rfl
  | some time =>
    dsimp only
    rw [advance_timestamp t (le_length_of_timestampOf htime) hremaining]
    by_cases hbelow : remainingSize.toNat < (chain toks []).length + 11
    · rw [if_pos hbelow, if_pos hbelow]
    · rw [if_neg hbelow, if_neg hbelow]
      dsimp only
      have hcomplete : complete { entryOf R toks with creationTsEpochSeconds := time } =
          complete (entryOf R toks) := rfl
      rw [hcomplete, ← ofNat_succ]
      rfl

end KvsWebrtc.Signaling.FileCache
