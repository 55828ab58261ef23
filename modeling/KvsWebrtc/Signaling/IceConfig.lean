import KvsWebrtc.Common
import KvsWebrtc.Lib.Steps

/-!
# The lifetime of the ICE configurations (`Signaling.c`, `LwsApiCalls.c`)

A fetch stores the configurations that the service answered with and validates them; the validation
also notes the current time and when the configurations expire.  An offer validates the stored
configurations once more before it packages them, so they seem to be fetched when they are
offered: every offer starts their lifetime anew.

Principal results:

* `validate_spec` — what a validation does;
* `ice_lifetime_iff` — in a run with its times in order, credentials are kept, offered and not
  refreshed within their lifetime exactly if configurations that fail to validate do not outlive the
  previous ones' time and no configuration is packaged after the time it was fetched at.
-/

namespace KvsWebrtc.Signaling.IceConfig

open Steps

def HUNDREDS_OF_NANOS_IN_A_SECOND : UInt64 := 10000000

def ICE_CONFIGURATION_REFRESH_GRACE_PERIOD : UInt64 := 30 * HUNDREDS_OF_NANOS_IN_A_SECOND

def SIGNALING_ICE_CONFIG_INFO_CURRENT_VERSION : Nat := 0

def MAX_ICE_CONFIG_COUNT : Nat := 5

def MAX_ICE_CONFIG_URI_COUNT : Nat := 4

def MAX_UINT64 : UInt64 := 0xffffffffffffffff

inductive STATUS where
  | SUCCESS
  | SIGNALING_LWS_CALL_FAILED
  | INVALID_API_CALL_RETURN_JSON
  | SIGNALING_MAX_ICE_CONFIG_COUNT
  | SIGNALING_NO_CONFIG_SPECIFIED
  | SIGNALING_INVALID_ICE_CONFIG_INFO_VERSION
  | SIGNALING_NO_CONFIG_URI_SPECIFIED
  | SIGNALING_MAX_ICE_URI_COUNT
  | SIGNALING_ICE_TTL_LESS_THAN_GRACE_PERIOD
  deriving DecidableEq, Repr

/-- `ttl` is in hundreds of nanoseconds. -/
structure IceConfigInfo where
  version : Nat
  uriCount : Nat
  uris : List Bytes
  ttl : UInt64
  userName : Bytes
  password : Bytes
  deriving DecidableEq, Repr

/-- `iceConfigs` are the first `iceConfigCount` of the array.  `fetchTime` and `now` are not in the
source: when the configurations were fetched, and the last time read from the clock. -/
structure SignalingClient where
  iceConfigs : List IceConfigInfo
  iceConfigTime : UInt64
  iceConfigExpiration : UInt64
  fetchTime : UInt64
  now : UInt64
  deriving DecidableEq, Repr

/-! ## The operations -/

def minTtl (configs : List IceConfigInfo) : UInt64 :=
  configs.foldl (fun least config => if least < config.ttl then least else config.ttl) MAX_UINT64

/-- The checks of one round of the loop. -/
def checkConfig (config : IceConfigInfo) : STATUS :=
  if ¬config.version ≤ SIGNALING_ICE_CONFIG_INFO_CURRENT_VERSION then
    .SIGNALING_INVALID_ICE_CONFIG_INFO_VERSION
  else if ¬0 < config.uriCount then .SIGNALING_NO_CONFIG_URI_SPECIFIED
  else if ¬config.uriCount ≤ MAX_ICE_CONFIG_URI_COUNT then .SIGNALING_MAX_ICE_URI_COUNT
  else .SUCCESS

/-- The first configuration that fails its check ends the loop. -/
def checkConfigs : List IceConfigInfo → STATUS
  | [] => .SUCCESS
  | config :: configs =>
    match checkConfig config with
    | .SUCCESS => checkConfigs configs
    | failure => failure

/-- The checks of the validation. -/
def checkAll (configs : List IceConfigInfo) : STATUS :=
  if ¬configs.length ≤ MAX_ICE_CONFIG_COUNT then .SIGNALING_MAX_ICE_CONFIG_COUNT
  else if ¬0 < configs.length then .SIGNALING_NO_CONFIG_SPECIFIED
  else if checkConfigs configs ≠ .SUCCESS then checkConfigs configs
  else if ¬ICE_CONFIGURATION_REFRESH_GRACE_PERIOD < minTtl configs then
    .SIGNALING_ICE_TTL_LESS_THAN_GRACE_PERIOD
  else .SUCCESS

/-- `currentTime` is what the clock answers. -/
def validateIceConfiguration (c : SignalingClient) (currentTime : UInt64) :
    SignalingClient × STATUS :=
  match checkAll c.iceConfigs with
  | .SUCCESS =>
    ({ c with
        iceConfigTime := currentTime
        iceConfigExpiration :=
          currentTime + (minTtl c.iceConfigs - ICE_CONFIGURATION_REFRESH_GRACE_PERIOD) }, .SUCCESS)
  | failure => (c, failure)

/-- How the call of the service ends: without an answer that is a JSON object, with one that is
given up on, or with configurations. -/
inductive Response where
  | failed
  | aborted
  | parsed (configs : List IceConfigInfo)

def getIceConfigLws (c : SignalingClient) (currentTime : UInt64) :
    Response → SignalingClient × STATUS
  | .failed => (c, .SIGNALING_LWS_CALL_FAILED)
  | .aborted => ({ c with iceConfigs := [] }, .INVALID_API_CALL_RETURN_JSON)
  | .parsed configs =>
    validateIceConfiguration { c with iceConfigs := configs, fetchTime := currentTime } currentTime

/-- The TTL that is written for a configuration, in seconds. -/
def writtenTtl (curTime iceConfigTime : UInt64) (config : IceConfigInfo) : UInt64 :=
  (config.ttl - (curTime - iceConfigTime)) / HUNDREDS_OF_NANOS_IN_A_SECOND

/-- An entry of the ICE server list of an offer. -/
structure IceServer where
  password : Bytes
  ttl : UInt64
  uris : List Bytes
  username : Bytes
  deriving DecidableEq, Repr

def encodeIceConfig (curTime iceConfigTime : UInt64) (config : IceConfigInfo) : IceServer where
  password := config.password
  ttl := writtenTtl curTime iceConfigTime config
  uris := config.uris.take config.uriCount
  username := config.userName

/-- `sendLwsMessage` with an offer: the ICE servers that it packages, if any.  The clock is read for
the comparison and once more by the validation. -/
def sendLwsMessage (c : SignalingClient) (curTime validateTime : UInt64) :
    SignalingClient × Option (List IceServer) :=
  if c.iceConfigs.length ≠ 0 ∧ curTime ≤ c.iceConfigExpiration then
    match validateIceConfiguration c validateTime with
    | (c, .SUCCESS) => (c, some (c.iceConfigs.map (encodeIceConfig curTime c.iceConfigTime)))
    | (c, _) => (c, none)
  else (c, none)

/-- Whether `refreshIceConfiguration` returns early. -/
def refreshIceConfiguration (c : SignalingClient) (curTime : UInt64) : Bool :=
  !(c.iceConfigs.length = 0 || c.iceConfigExpiration < curTime)

/-! ## Runs -/

inductive Event where
  | fetch (currentTime : UInt64) (response : Response)
  | offer (curTime validateTime : UInt64)
  | refresh (curTime : UInt64)

def step (c : SignalingClient) : Event → SignalingClient
  | .fetch currentTime response =>
    { (getIceConfigLws c currentTime response).1 with now := currentTime }
  | .offer curTime validateTime =>
    { (sendLwsMessage c curTime validateTime).1 with now := validateTime }
  | .refresh curTime => { c with now := curTime }

def newClient : SignalingClient := ⟨[], 0, 0, 0, 0⟩

/-- The clock never goes back. -/
def InOrder (c : SignalingClient) : Event → Prop
  | .fetch currentTime _ => c.now ≤ currentTime
  | .offer curTime validateTime => c.now ≤ curTime ∧ curTime ≤ validateTime
  | .refresh curTime => c.now ≤ curTime

instance (c : SignalingClient) (e : Event) : Decidable (InOrder c e) :=
  match e with
  | .fetch currentTime _ => inferInstanceAs (Decidable (c.now ≤ currentTime))
  | .offer curTime validateTime =>
    inferInstanceAs (Decidable (c.now ≤ curTime ∧ curTime ≤ validateTime))
  | .refresh curTime => inferInstanceAs (Decidable (c.now ≤ curTime))

/-- The expiration is at least the grace period before the end of each configuration's life. -/
def WithinLifetime (c : SignalingClient) : Prop :=
  ∀ config ∈ c.iceConfigs,
    c.iceConfigExpiration.toNat + ICE_CONFIGURATION_REFRESH_GRACE_PERIOD.toNat ≤
      c.fetchTime.toNat + config.ttl.toNat

/-- The written TTLs end within the configurations' lives, and neither subtraction wraps. -/
def HonestTtl (c : SignalingClient) : Event → Prop
  | .offer curTime validateTime =>
    (sendLwsMessage c curTime validateTime).2 ≠ none →
      ∀ config ∈ c.iceConfigs,
        let iceConfigTime := (sendLwsMessage c curTime validateTime).1.iceConfigTime
        iceConfigTime ≤ curTime ∧ curTime - iceConfigTime ≤ config.ttl ∧
          (writtenTtl curTime iceConfigTime config).toNat * HUNDREDS_OF_NANOS_IN_A_SECOND.toNat +
            (curTime.toNat - c.fetchTime.toNat) ≤ config.ttl.toNat
  | _ => True

/-- An early return leaves configurations that have not expired. -/
def UnexpiredOnEarlyReturn (c : SignalingClient) : Event → Prop
  | .refresh curTime =>
    refreshIceConfiguration c curTime = true →
      c.iceConfigs ≠ [] ∧
        ∀ config ∈ c.iceConfigs, curTime.toNat ≤ c.fetchTime.toNat + config.ttl.toNat
  | _ => True

/-- The configurations validate. -/
structure Valid (configs : List IceConfigInfo) : Prop where
  nonempty : configs ≠ []
  count : configs.length ≤ MAX_ICE_CONFIG_COUNT
  version : ∀ config ∈ configs, config.version ≤ SIGNALING_ICE_CONFIG_INFO_CURRENT_VERSION
  uriCount : ∀ config ∈ configs,
    0 < config.uriCount ∧ config.uriCount ≤ MAX_ICE_CONFIG_URI_COUNT
  ttl : ICE_CONFIGURATION_REFRESH_GRACE_PERIOD < minTtl configs

/-- Configurations that do not validate live as long as the previous expiration asks for, and an
offer at which the stored ones are unexpired and validate is made at the time they were fetched at
(or the new expiration overflows, and less than the rest of a second has passed). -/
def LifetimeNotMoved (c : SignalingClient) : Event → Prop
  | .fetch currentTime (.parsed configs) =>
    Valid configs ∨ ∀ config ∈ configs,
      c.iceConfigExpiration.toNat + ICE_CONFIGURATION_REFRESH_GRACE_PERIOD.toNat ≤
        currentTime.toNat + config.ttl.toNat
  | .offer curTime validateTime =>
    Valid c.iceConfigs → curTime ≤ c.iceConfigExpiration →
      validateTime = curTime ∧
        (curTime = c.fetchTime ∨
          2 ^ 64 + ICE_CONFIGURATION_REFRESH_GRACE_PERIOD.toNat ≤
              curTime.toNat + (minTtl c.iceConfigs).toNat ∧
            ∀ config ∈ c.iceConfigs,
              curTime.toNat - c.fetchTime.toNat ≤
                config.ttl.toNat % HUNDREDS_OF_NANOS_IN_A_SECOND.toNat)
  | _ => True

/-! ## A validation -/

theorem checkConfig_iff (config : IceConfigInfo) :
    checkConfig config = .SUCCESS ↔
      config.version ≤ SIGNALING_ICE_CONFIG_INFO_CURRENT_VERSION ∧ 0 < config.uriCount ∧
        config.uriCount ≤ MAX_ICE_CONFIG_URI_COUNT := by
  unfold checkConfig
  split_ifs <;> simp_all

theorem checkConfigs_iff (configs : List IceConfigInfo) :
    checkConfigs configs = .SUCCESS ↔ ∀ config ∈ configs, checkConfig config = .SUCCESS := by
  induction configs with
  | nil => simp [checkConfigs]
  | cons config configs ih =>
    rw [List.forall_mem_cons, ← ih, checkConfigs]
    cases hcheck : checkConfig config <;> simp

theorem checkAll_iff (configs : List IceConfigInfo) :
    checkAll configs = .SUCCESS ↔ Valid configs := by
  have hchecks : checkConfigs configs = .SUCCESS ↔ ∀ config ∈ configs,
      config.version ≤ SIGNALING_ICE_CONFIG_INFO_CURRENT_VERSION ∧ 0 < config.uriCount ∧
        config.uriCount ≤ MAX_ICE_CONFIG_URI_COUNT := by
    rw [checkConfigs_iff]
    exact forall₂_congr fun config _ => checkConfig_iff config
  constructor
  · intro h
    unfold checkAll at h
    split_ifs at h with hcount hempty hloop httl
    · exact absurd h hloop
    · have hall := hchecks.mp (not_not.mp hloop)
      exact
        { nonempty := List.ne_nil_of_length_pos hempty
          count := hcount
          version := fun config hc => (hall config hc).1
          uriCount := fun config hc => (hall config hc).2
          ttl := httl }
  · intro h
    have hloop := hchecks.mpr fun config hc => ⟨h.version config hc, h.uriCount config hc⟩
    unfold checkAll
    rw [if_neg (not_not.mpr h.count), if_neg (not_not.mpr (List.length_pos_iff.mpr h.nonempty)),
      if_neg (not_not.mpr hloop), if_neg (not_not.mpr h.ttl)]

/-- **What a validation does.** -/
theorem validate_spec (c : SignalingClient) (currentTime : UInt64) :
    (Valid c.iceConfigs ∧ validateIceConfiguration c currentTime =
        ({ c with
            iceConfigTime := currentTime
            iceConfigExpiration :=
              currentTime + (minTtl c.iceConfigs - ICE_CONFIGURATION_REFRESH_GRACE_PERIOD) },
          .SUCCESS)) ∨
      ¬Valid c.iceConfigs ∧ ∃ failure, failure ≠ .SUCCESS ∧
        validateIceConfiguration c currentTime = (c, failure) := by
  have hiff := checkAll_iff c.iceConfigs
  unfold validateIceConfiguration
  by_cases hcheck : checkAll c.iceConfigs = .SUCCESS
  · rw [hcheck]
    exact .inl ⟨hiff.mp hcheck, rfl⟩
  · refine .inr ⟨fun hvalid => hcheck (hiff.mpr hvalid), _, hcheck, ?_⟩
    cases hstatus : checkAll c.iceConfigs with
    | SUCCESS => exact absurd hstatus hcheck
    | _ => rfl

theorem foldl_ttl_le_iff (configs : List IceConfigInfo) (start : UInt64) (bound : Nat) :
    bound ≤ (configs.foldl (fun least config => if least < config.ttl then least else config.ttl)
        start).toNat ↔
      bound ≤ start.toNat ∧ ∀ config ∈ configs, bound ≤ config.ttl.toNat := by
  induction configs generalizing start with
  | nil => simp
  | cons config configs ih =>
    rw [List.foldl_cons, ih, List.forall_mem_cons, ← and_assoc]
    refine and_congr_left fun _ => ?_
    by_cases hless : start < config.ttl
    · rw [if_pos hless]
      rw [UInt64.lt_iff_toNat_lt] at hless
      omega
    · rw [if_neg hless]
      rw [UInt64.lt_iff_toNat_lt] at hless
      omega

theorem le_minTtl_iff {configs : List IceConfigInfo} (hne : configs ≠ []) (bound : Nat) :
    bound ≤ (minTtl configs).toNat ↔ ∀ config ∈ configs, bound ≤ config.ttl.toNat := by
  unfold minTtl
  rw [foldl_ttl_le_iff, and_iff_right_iff_imp]
  intro h
  obtain ⟨config, hmem⟩ := List.exists_mem_of_ne_nil configs hne
  have hbound := h config hmem
  have httl := config.ttl.toNat_lt
  have hmax : MAX_UINT64.toNat = 2 ^ 64 - 1 := rfl
  omega

/-! ## One step -/

variable {c : SignalingClient} {configs : List IceConfigInfo}

theorem Valid.expiration (h : Valid configs) (currentTime : UInt64) :
    (currentTime + (minTtl configs - ICE_CONFIGURATION_REFRESH_GRACE_PERIOD)).toNat =
      (currentTime.toNat +
        ((minTtl configs).toNat - ICE_CONFIGURATION_REFRESH_GRACE_PERIOD.toNat)) % 2 ^ 64 := by
  have httl := h.ttl
  rw [UInt64.lt_iff_toNat_lt] at httl
  rw [UInt64.toNat_add, UInt64.toNat_sub_of_le]
  rw [UInt64.le_iff_toNat_le]
  exact httl.le

/-- Configurations that are validated after they were fetched expire too late, unless the time
overflows. -/
theorem Valid.within_iff (h : Valid c.iceConfigs) {currentTime : UInt64}
    (hexp : c.iceConfigExpiration =
      currentTime + (minTtl c.iceConfigs - ICE_CONFIGURATION_REFRESH_GRACE_PERIOD)) :
    WithinLifetime c ↔ currentTime ≤ c.fetchTime ∨
      2 ^ 64 + ICE_CONFIGURATION_REFRESH_GRACE_PERIOD.toNat ≤
        currentTime.toNat + (minTtl c.iceConfigs).toNat := by
  have hnum := h.expiration currentTime
  rw [← hexp] at hnum
  have hlaw : WithinLifetime c ↔
      c.iceConfigExpiration.toNat + ICE_CONFIGURATION_REFRESH_GRACE_PERIOD.toNat -
        c.fetchTime.toNat ≤ (minTtl c.iceConfigs).toNat := by
    rw [le_minTtl_iff h.nonempty]
    exact forall₂_congr fun config _ => by omega
  have httl := h.ttl
  have hlt := currentTime.toNat_lt
  have hltTtl := (minTtl c.iceConfigs).toNat_lt
  rw [UInt64.lt_iff_toNat_lt] at httl
  rw [hlaw, UInt64.le_iff_toNat_le]
  omega

/-- **An offer with nothing to package changes nothing.** -/
theorem sendLwsMessage_none {curTime : UInt64} (validateTime : UInt64)
    (h : ¬(Valid c.iceConfigs ∧ curTime ≤ c.iceConfigExpiration)) :
    sendLwsMessage c curTime validateTime = (c, none) := by
  unfold sendLwsMessage
  split_ifs with hcond
  · rcases validate_spec c validateTime with ⟨hvalid, -⟩ | ⟨-, failure, hfailure, heq⟩
    · exact absurd ⟨hvalid, hcond.2⟩ h
    · rw [heq]
      cases failure with
      | SUCCESS => exact absurd rfl hfailure
      | _ => rfl
  · rfl

/-- **An offer that packages the configurations starts their lifetime anew.** -/
theorem sendLwsMessage_some {curTime : UInt64} (validateTime : UInt64)
    (hvalid : Valid c.iceConfigs) (hcur : curTime ≤ c.iceConfigExpiration) :
    sendLwsMessage c curTime validateTime =
      ({ c with
          iceConfigTime := validateTime
          iceConfigExpiration :=
            validateTime + (minTtl c.iceConfigs - ICE_CONFIGURATION_REFRESH_GRACE_PERIOD) },
        some (c.iceConfigs.map (encodeIceConfig curTime validateTime))) := by
  unfold sendLwsMessage
  have hlength : c.iceConfigs.length ≠ 0 := by simpa using hvalid.nonempty
  rw [if_pos ⟨hlength, hcur⟩]
  rcases validate_spec c validateTime with ⟨-, heq⟩ | ⟨hinvalid, -⟩
  · rw [heq]
  · exact absurd hvalid hinvalid

/-- What an event must not do. -/
def Lawful (c : SignalingClient) (e : Event) : Prop :=
  WithinLifetime (step c e) ∧ HonestTtl c e ∧ UnexpiredOnEarlyReturn c e

/-- The configurations live long enough, and were fetched in the past. -/
structure Kept (c : SignalingClient) : Prop where
  within : WithinLifetime c
  past : c.fetchTime ≤ c.now

theorem Kept.fetch (h : Kept c) (currentTime : UInt64) (response : Response) :
    Lawful c (.fetch currentTime response) ↔
      LifetimeNotMoved c (.fetch currentTime response) := by
  have hlawful : Lawful c (.fetch currentTime response) ↔
      WithinLifetime (step c (.fetch currentTime response)) :=
    and_iff_left ⟨trivial, trivial⟩
  rw [hlawful]
  cases response with
  | failed => exact iff_of_true h.within trivial
  | aborted => exact iff_of_true (fun config hmem => by cases hmem) trivial
  | parsed configs =>
    unfold LifetimeNotMoved step getIceConfigLws
    dsimp only
    rcases validate_spec { c with iceConfigs := configs, fetchTime := currentTime } currentTime with
      ⟨hvalid, heq⟩ | ⟨hinvalid, failure, -, heq⟩
    · rw [heq]
      refine iff_of_true ?_ (.inl hvalid)
      refine (Valid.within_iff ?_ rfl).mpr (.inl ?_)
      · exact hvalid
      · exact UInt64.le_refl currentTime
    · rw [heq, or_iff_right hinvalid]
      rfl

theorem honest_iff {curTime validateTime : UInt64} (config : IceConfigInfo) (elapsed : Nat)
    (horder : curTime ≤ validateTime) :
    (validateTime ≤ curTime ∧ curTime - validateTime ≤ config.ttl ∧
        (writtenTtl curTime validateTime config).toNat * HUNDREDS_OF_NANOS_IN_A_SECOND.toNat +
          elapsed ≤ config.ttl.toNat) ↔
      validateTime = curTime ∧
        elapsed ≤ config.ttl.toNat % HUNDREDS_OF_NANOS_IN_A_SECOND.toNat := by
  by_cases heq : validateTime = curTime
  · subst heq
    have hzero : validateTime - validateTime = 0 := by simp
    have hwritten : (writtenTtl validateTime validateTime config).toNat =
        config.ttl.toNat / HUNDREDS_OF_NANOS_IN_A_SECOND.toNat := by
      unfold writtenTtl
      rw [hzero, UInt64.sub_zero, UInt64.toNat_div]
    rw [hwritten, hzero]
    have hdiv := Nat.div_add_mod' config.ttl.toNat HUNDREDS_OF_NANOS_IN_A_SECOND.toNat
    have hle : (0 : UInt64) ≤ config.ttl := UInt64.zero_le
    simp only [UInt64.le_refl, hle, true_and]
    omega
  · refine iff_of_false (fun h => heq ?_) (fun h => heq h.1)
    exact UInt64.le_antisymm h.1 horder

theorem Kept.offer (h : Kept c) {curTime validateTime : UInt64}
    (horder : InOrder c (.offer curTime validateTime)) :
    Lawful c (.offer curTime validateTime) ↔
      LifetimeNotMoved c (.offer curTime validateTime) := by
  by_cases hpackaged : Valid c.iceConfigs ∧ curTime ≤ c.iceConfigExpiration
  · obtain ⟨hvalid, hcur⟩ := hpackaged
    have hsend := sendLwsMessage_some validateTime hvalid hcur
    have hwithin : WithinLifetime (step c (.offer curTime validateTime)) ↔
        validateTime ≤ c.fetchTime ∨ 2 ^ 64 + ICE_CONFIGURATION_REFRESH_GRACE_PERIOD.toNat ≤
          validateTime.toNat + (minTtl c.iceConfigs).toNat := by
      unfold step
      dsimp only
      rw [hsend]
      refine Valid.within_iff ?_ rfl
      exact hvalid
    have hhonest : HonestTtl c (.offer curTime validateTime) ↔
        validateTime = curTime ∧ ∀ config ∈ c.iceConfigs, curTime.toNat - c.fetchTime.toNat ≤
          config.ttl.toNat % HUNDREDS_OF_NANOS_IN_A_SECOND.toNat := by
      unfold HonestTtl
      dsimp only
      rw [hsend]
      simp only [ne_eq, reduceCtorEq, not_false_eq_true, true_implies]
      simp only [honest_iff _ _ horder.2]
      obtain ⟨config, hmem⟩ := List.exists_mem_of_ne_nil _ hvalid.nonempty
      exact ⟨fun hall => ⟨(hall config hmem).1, fun d hd => (hall d hd).2⟩,
        fun hall d hd => ⟨hall.1, hall.2 d hd⟩⟩
    unfold Lawful LifetimeNotMoved
    rw [hwithin, hhonest]
    have hpast : c.fetchTime ≤ curTime := UInt64.le_trans h.past horder.1
    constructor
    · rintro ⟨htime, ⟨rfl, helapsed⟩, -⟩ - -
      refine ⟨rfl, htime.imp (fun hle => UInt64.le_antisymm hle hpast) fun hover => ?_⟩
      exact ⟨hover, helapsed⟩
    · intro hcond
      obtain ⟨rfl, htime⟩ := hcond hvalid hcur
      refine ⟨htime.imp (fun heq => ?_) fun hover => hover.1, ⟨rfl, fun config hmem => ?_⟩, trivial⟩
      · rw [heq]
        exact UInt64.le_refl _
      rcases htime with heq | hover
      · rw [heq, Nat.sub_self]
        exact Nat.zero_le _
      · exact hover.2 config hmem
  · have hsend := sendLwsMessage_none validateTime hpackaged
    refine iff_of_true ⟨?_, ?_, trivial⟩ fun hvalid hcur => absurd ⟨hvalid, hcur⟩ hpackaged
    · unfold step
      dsimp only
      rw [hsend]
      exact h.within
    · unfold HonestTtl
      dsimp only
      rw [hsend]
      exact fun hne => absurd rfl hne

theorem Kept.refresh (h : Kept c) (curTime : UInt64) : Lawful c (.refresh curTime) := by
  refine ⟨h.within, trivial, fun hearly => ?_⟩
  unfold refreshIceConfiguration at hearly
  simp only [Bool.not_eq_true', Bool.or_eq_false_iff, decide_eq_false_iff_not] at hearly
  obtain ⟨hlength, hexp⟩ := hearly
  refine ⟨by simpa using hlength, fun config hmem => ?_⟩
  have hwithin := h.within config hmem
  rw [UInt64.lt_iff_toNat_lt] at hexp
  omega

/-- **An event keeps the credentials within their lifetime exactly if it does not move it.** -/
theorem Kept.lawful_iff (h : Kept c) {e : Event} (horder : InOrder c e) :
    Lawful c e ↔ LifetimeNotMoved c e := by
  cases e with
  | fetch currentTime response => exact h.fetch currentTime response
  | offer curTime validateTime => exact h.offer horder
  | refresh curTime => exact iff_of_true (h.refresh curTime) trivial

theorem validate_fetchTime (c : SignalingClient) (currentTime : UInt64) :
    (validateIceConfiguration c currentTime).1.fetchTime = c.fetchTime := by
  rcases validate_spec c currentTime with ⟨-, heq⟩ | ⟨-, failure, -, heq⟩ <;> rw [heq]

theorem Kept.step (h : Kept c) {e : Event} (horder : InOrder c e) (hmoved : LifetimeNotMoved c e) :
    Kept (step c e) where
  within := ((h.lawful_iff horder).mpr hmoved).1
  past := by
    cases e with
    | fetch currentTime response =>
      cases response with
      | failed => exact UInt64.le_trans h.past horder
      | aborted => exact UInt64.le_trans h.past horder
      | parsed configs =>
        unfold IceConfig.step getIceConfigLws
        rw [validate_fetchTime]
        exact UInt64.le_refl currentTime
    | offer curTime validateTime =>
      have hfetch : (sendLwsMessage c curTime validateTime).1.fetchTime = c.fetchTime := by
        by_cases hpackaged : Valid c.iceConfigs ∧ curTime ≤ c.iceConfigExpiration
        · rw [sendLwsMessage_some validateTime hpackaged.1 hpackaged.2]
        · rw [sendLwsMessage_none validateTime hpackaged]
      unfold IceConfig.step
      rw [hfetch]
      exact UInt64.le_trans h.past (UInt64.le_trans horder.1 horder.2)
    | refresh curTime => exact UInt64.le_trans h.past horder

/-! ## Whole runs -/

theorem kept_new : Kept newClient := ⟨fun config hmem => (by cases hmem), UInt64.le_refl 0⟩

/-- **In a run with its times in order the expiration, the offered TTLs and the early returns keep
to the lifetime of the credentials exactly if no event moves it.** -/
theorem ice_lifetime_iff (events : List Event) (horder : Each step InOrder newClient events) :
    (Always step WithinLifetime newClient events ∧ Each step HonestTtl newClient events ∧
        Each step UnexpiredOnEarlyReturn newClient events) ↔
      Each step LifetimeNotMoved newClient events := by
  rw [always_iff_each, and_iff_right kept_new.within, ← each_and, ← each_and]
  exact Each.iff_of_inv kept_new (fun _ _ h ho hm => h.step ho hm) (fun _ _ h ho => h.lawful_iff ho)
    horder

/-- A configuration with a lifetime of five minutes. -/
def relayConfig : IceConfigInfo := ⟨0, 1, [[117]], 3000000000, [97], [112]⟩

/-- A fetch and an offer at its time. -/
theorem ice_lifetime_offered_at_once :
    Always step WithinLifetime newClient
      [.fetch 1000 (.parsed [relayConfig]), .offer 1000 1000, .refresh 5000] := by
  refine ((ice_lifetime_iff _ ?_).mpr ?_).1
  · refine ⟨?_, ?_, ?_, trivial⟩ <;> decide
  · refine ⟨.inl ⟨?_, ?_, ?_, ?_, ?_⟩, fun _ _ => ⟨rfl, .inl rfl⟩, trivial, trivial⟩ <;> decide

/-- An offer 100 seconds after the fetch moves the expiration by 100 seconds. -/
theorem offer_extends_lifetime :
    ¬∀ events : List Event, Each step InOrder newClient events →
      Always step WithinLifetime newClient events ∧ Each step HonestTtl newClient events ∧
        Each step UnexpiredOnEarlyReturn newClient events := by
  intro h
  have hwithin := (h [.fetch 0 (.parsed [relayConfig]), .offer 1000000000 1000000000]
    (by refine ⟨?_, ?_, trivial⟩ <;> decide)).1
  have hlast := hwithin.2.2 relayConfig (by decide)
  exact absurd hlast (by decide)

end KvsWebrtc.Signaling.IceConfig
