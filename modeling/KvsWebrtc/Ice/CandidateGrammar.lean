import KvsWebrtc.Ice.CandidateText
import KvsWebrtc.Ice.Frame
import KvsWebrtc.Ice.StateMachine

/-!
# Which candidate lines are read as they are meant

The loop that reads a candidate sees the tokens of the line that end with a blank, one state for
each, so a type at the very end of the line is never seen.  A token is compared over its own length:
`t` is taken for `tcp`, the empty token for it too, and `s` for `srflx`.

Principal results:

* `parse_error_iff` — the lines that are refused, token by token;
* `candidate_lines` — a serialised candidate is stored as it is, and a line is stored as it is meant,
  or refused, exactly if its type is `host` or not its last token, and a part that does not conform
  is one the parser looks at.
-/

namespace KvsWebrtc.Ice.Trickle

open Stun CString InternetAddress Sdp

/-! ## Tokens -/

/-- The tokens that end with a blank. -/
def terminated (line : Bytes) : List Bytes := (line.splitOn 32).dropLast

/-- The loop over tokens. -/
def readTokens :
    List SDP_ICE_CANDIDATE_PARSER_STATE → List Bytes → Fields → Except STATUS Fields
  | [], _, f => .ok f
  | _ :: _, [], f => .ok f
  | state :: states, t :: ts, f =>
    match readToken state t t.length f with
    | .error e => .error e
    | .ok f => readTokens states ts f

theorem terminated_append {t : Bytes} (h : 32 ∉ t) (rest : Bytes) :
    terminated (t ++ 32 :: rest) = t :: terminated rest := by
  unfold terminated
  rw [List.splitOn_append_cons_self_of_not_mem h,
    List.dropLast_cons_of_ne_nil (List.splitOn_ne_nil 32 rest)]

theorem terminated_last {t : Bytes} (h : 32 ∉ t) : terminated t = [] := by
  unfold terminated
  rw [List.splitOn_eq_singleton h]
  rfl

theorem strncmpiEq_append (w t rest : Bytes) :
    strncmpiEq w (t ++ rest) t.length = strncmpiEq w t t.length := by
  unfold strncmpiEq
  rw [List.take_left', List.take_length]
  rfl

theorem strtoint_congr {u v : Bytes} {stop : Nat} (hhead : u.head? = v.head?)
    (htake : u.take stop = v.take stop) (hstop : 1 ≤ stop) (base : UINT64) :
    strtoint u stop base = strtoint v stop base := by
  have hpos (w : Bytes) : (if w.head? = some 45 ∨ w.head? = some 43 then 1 else 0) ≤ stop := by
    split <;> omega
  unfold strtoint
  dsimp only
  rw [if_pos (hpos u), if_pos (hpos v), htake]
  simp only [hhead]

theorem strtoui32_append (t rest : Bytes) :
    strtoui32 (t ++ 32 :: rest) t.length 10 = strtoui32 t t.length 10 := by
  have hstrtoint : strtoint (t ++ 32 :: rest) t.length 10 = strtoint t t.length 10 := by
    cases t with
    | nil => rfl
    | cons c t =>
      have hone : 1 ≤ (c :: t).length := Nat.succ_le_succ (Nat.zero_le _)
      have hhead : (c :: t ++ 32 :: rest).head? = (c :: t).head? := rfl
      refine strtoint_congr hhead ?_ hone 10
      rw [List.take_left' rfl, List.take_length]
  unfold strtoui32 strtoui64
  rw [hstrtoint]

theorem readToken_append (state : SDP_ICE_CANDIDATE_PARSER_STATE) (t rest : Bytes) (f : Fields) :
    readToken state (t ++ 32 :: rest) t.length f = readToken state t t.length f := by
  have htype : typeOfToken (t ++ 32 :: rest) t.length = typeOfToken t t.length := by
    unfold typeOfToken
    simp only [strncmpiEq_append]
  have htake (n : Nat) : (t ++ 32 :: rest).take (min t.length n) = t.take (min t.length n) :=
    List.take_append_of_le_length (Nat.min_le_left _ _)
  cases state with
  | FOUNDATION => rfl
  | COMPONENT => rfl
  | PROTOCOL => simp only [readToken, strncmpiEq_append]
  | PRIORITY => simp only [readToken, strtoui32_append]
  | IP =>
    simp only [readToken]
    rw [htake]
  | PORT => simp only [readToken, strtoui32_append]
  | TYPE_ID => simp only [readToken, strncmpiEq_append]
  | TYPE_VAL => simp only [readToken, htype]

/-- **The loop reads the terminated tokens**, one after the other. -/
theorem parseTokens_eq (states : List SDP_ICE_CANDIDATE_PARSER_STATE) (line : Bytes) (f : Fields) :
    parseTokens states line f = readTokens states (terminated line) f := by
  induction states generalizing line f with
  | nil => rfl
  | cons state states ih =>
    rw [parseTokens]
    cases hn : strnchr line line.length 32 with
    | none =>
      rw [strnchr_eq_none, List.take_length] at hn
      rw [terminated_last hn]
      rfl
    | some n =>
      obtain ⟨hlt, hget, hnot⟩ := strnchr_eq_some.mp hn
      have hlen : (line.take n).length = n := by
        rw [List.length_take]
        omega
      have hline : line = line.take n ++ 32 :: line.drop (n + 1) := by
        rw [List.getElem?_eq_getElem hlt, Option.some.injEq] at hget
        rw [← hget, List.cons_getElem_drop_succ, List.take_append_drop]
      have htoken := readToken_append state (line.take n) (line.drop (n + 1)) f
      rw [← hline, hlen] at htoken
      have hterminated : terminated line = line.take n :: terminated (line.drop (n + 1)) := by
        conv_lhs => rw [hline]
        exact terminated_append hnot _
      rw [hterminated]
      simp only [readTokens, hlen, htoken]
      cases readToken state (line.take n) n f with
      | error e => rfl
      | ok f => exact ih _ f

/-! ## Refused tokens -/

/-- A token begins a word, in small or capital letters. -/
def Begins (w t : Bytes) : Prop := t.map toLower <+: w.map toLower

instance (w t : Bytes) : Decidable (Begins w t) :=
  inferInstanceAs (Decidable (t.map toLower <+: w.map toLower))

theorem strncmpiEq_iff (w t : Bytes) : strncmpiEq w t t.length = true ↔ Begins w t := by
  unfold strncmpiEq Begins
  rw [List.take_length, beq_iff_eq, List.prefix_iff_eq_take, List.length_map, List.map_take]
  exact eq_comm

/-- The tokens a state refuses. -/
def Refuses (state : SDP_ICE_CANDIDATE_PARSER_STATE) (t : Bytes) : Prop :=
  match state with
  | .PROTOCOL => Begins ICE_TRANSPORT_TYPE_TCP t
  | .IP => readAddress (t.take 45) = none
  | .PORT => strtoui32 t t.length 10 = none
  | .TYPE_ID => ¬Begins (ascii "typ") t
  | _ => False

theorem take_min_length (t : Bytes) (n : Nat) : t.take (min t.length n) = t.take n := by
  rcases Nat.le_total t.length n with h | h
  · rw [Nat.min_eq_left h, List.take_length, List.take_of_length_le h]
  · rw [Nat.min_eq_right h]

theorem readToken_error_iff (state : SDP_ICE_CANDIDATE_PARSER_STATE) (t : Bytes) (f : Fields) :
    (∃ e, readToken state t t.length f = .error e) ↔ Refuses state t := by
  cases state with
  | FOUNDATION => simp [readToken, Refuses]
  | COMPONENT => simp [readToken, Refuses]
  | PROTOCOL =>
    simp only [readToken, Refuses, ← strncmpiEq_iff]
    by_cases htcp : strncmpiEq ICE_TRANSPORT_TYPE_TCP t t.length = true
    · simp [htcp]
    · simp only [htcp, Bool.false_eq_true, if_false, iff_false]
      split <;> simp
  | PRIORITY =>
    simp only [readToken, Refuses, iff_false]
    cases strtoui32 t t.length 10 <;> simp
  | IP =>
    simp only [readToken, Refuses, take_min_length]
    cases readAddress (t.take 45) <;> simp
  | PORT =>
    simp only [readToken, Refuses]
    cases strtoui32 t t.length 10 <;> simp
  | TYPE_ID =>
    simp only [readToken, Refuses, ← strncmpiEq_iff]
    by_cases htyp : strncmpiEq (ascii "typ") t t.length = true
    · simp [htyp]
    · simp [htyp]
  | TYPE_VAL => simp [readToken, Refuses]

theorem readTokens_error_iff (states : List SDP_ICE_CANDIDATE_PARSER_STATE) (ts : List Bytes)
    (f : Fields) :
    (∃ e, readTokens states ts f = .error e) ↔ ∃ p ∈ states.zip ts, Refuses p.1 p.2 := by
  induction states generalizing ts f with
  | nil => simp [readTokens]
  | cons state states ih =>
    cases ts with
    | nil => simp [readTokens]
    | cons t ts =>
      rw [readTokens, List.zip_cons_cons, List.exists_mem_cons_iff,
        ← readToken_error_iff state t f]
      cases readToken state t t.length f with
      | error e => simp
      | ok g => simpa using ih ts g

theorem foundIp_readTokens {states : List SDP_ICE_CANDIDATE_PARSER_STATE} {ts : List Bytes}
    {f g : Fields} (h : readTokens states ts f = .ok g) :
    g.foundIp = (f.foundIp || (states.take ts.length).contains .IP) := by
  induction states generalizing ts f with
  | nil =>
    cases h
    simp
  | cons state states ih =>
    cases ts with
    | nil =>
      cases h
      simp
    | cons t ts =>
      rw [readTokens] at h
      cases hread : readToken state t t.length f with
      | error e =>
        rw [hread] at h
        cases h
      | ok f' =>
        rw [hread] at h
        have hstep : f'.foundIp = (f.foundIp || state == .IP) := by
          cases state with
          | FOUNDATION =>
            cases hread
            simp
          | COMPONENT =>
            cases hread
            simp
          | PROTOCOL =>
            simp only [readToken] at hread
            split at hread
            · cases hread
            · split at hread <;> cases hread <;> simp
          | PRIORITY =>
            simp only [readToken] at hread
            split at hread <;> cases hread <;> simp
          | IP =>
            simp only [readToken] at hread
            split at hread
            · cases hread
              simp
            · cases hread
          | PORT =>
            simp only [readToken] at hread
            split at hread
            · cases hread
              simp
            · cases hread
          | TYPE_ID =>
            simp only [readToken] at hread
            split at hread
            · cases hread
              simp
            · cases hread
          | TYPE_VAL =>
            cases hread
            simp
        rw [ih h, hstep, List.length_cons, List.take_succ_cons, List.contains_cons, Bool.or_assoc,
          Bool.beq_comm]

/-- Tokens with a refused one at its place, or without one for the address. -/
def Refused (ts : List Bytes) : Prop :=
  (∃ t ∈ ts[2]?, Begins ICE_TRANSPORT_TYPE_TCP t) ∨ (∀ t ∈ ts[4]?, readAddress (t.take 45) = none) ∨
    (∃ t ∈ ts[5]?, strtoui32 t t.length 10 = none) ∨ ∃ t ∈ ts[6]?, ¬Begins (ascii "typ") t

/-- **The lines that are refused.** -/
theorem parse_error_iff (line : Bytes) :
    (∃ e, parseCandidate line = .error e) ↔ Refused (terminated line) := by
  have herror := readTokens_error_iff parserStates (terminated line) noFields
  unfold parseCandidate
  rw [parseTokens_eq]
  generalize terminated line = ts at herror ⊢
  have hzip : (∃ p ∈ parserStates.zip ts, Refuses p.1 p.2) ↔
      (∃ t ∈ ts[2]?, Begins ICE_TRANSPORT_TYPE_TCP t) ∨
      (∃ t ∈ ts[4]?, readAddress (t.take 45) = none) ∨
      (∃ t ∈ ts[5]?, strtoui32 t t.length 10 = none) ∨ ∃ t ∈ ts[6]?, ¬Begins (ascii "typ") t := by
    rcases ts with _ | ⟨t₀, _ | ⟨t₁, _ | ⟨t₂, _ | ⟨t₃, _ | ⟨t₄, _ | ⟨t₅, _ | ⟨t₆, _ | ⟨t₇, ts⟩⟩⟩⟩⟩⟩⟩⟩ <;>
      simp [parserStates, Refuses]
  have hmissing : (∀ t ∈ ts[4]?, readAddress (t.take 45) = none) ↔
      ts.length ≤ 4 ∨ ∃ t ∈ ts[4]?, readAddress (t.take 45) = none := by
    cases h4 : ts[4]? with
    | none => simpa using List.getElem?_eq_none_iff.mp h4
    | some t =>
      have := (List.getElem?_eq_some_iff.mp h4).1
      simp
      omega
  rw [hzip] at herror
  unfold Refused
  rw [hmissing]
  cases hread : readTokens parserStates ts noFields with
  | error e =>
    simp only [Except.error.injEq, exists_eq', true_iff]
    rcases herror.mp ⟨e, hread⟩ with htcp | haddress | hrest
    · exact .inl htcp
    · exact .inr (.inl (.inr haddress))
    · exact .inr (.inr hrest)
  | ok f =>
    have hnot : ¬∃ e, readTokens parserStates ts noFields = .error e := by simp [hread]
    rw [herror] at hnot
    have hfound := foundIp_readTokens hread
    have hlen : f.foundIp = true ↔ 4 < ts.length := by
      rw [hfound]
      rcases ts with _ | ⟨t₀, _ | ⟨t₁, _ | ⟨t₂, _ | ⟨t₃, _ | ⟨t₄, ts⟩⟩⟩⟩⟩ <;>
        simp [parserStates, noFields]
    by_cases h : f.foundIp = true
    · have := hlen.mp h
      simp only [h, if_true]
      refine ⟨fun ⟨e, he⟩ => absurd he (by simp), ?_⟩
      rintro (htcp | (hshort | haddress) | hrest)
      · exact absurd (.inl htcp) hnot
      · omega
      · exact absurd (.inr (.inl haddress)) hnot
      · exact absurd (.inr (.inr hrest)) hnot
    · simp only [h, Bool.false_eq_true, if_false, Except.error.injEq, exists_eq', true_iff]
      rw [hlen] at h
      exact .inr (.inl (.inl (by omega)))

/-! ## Numbers -/

/-- Decimal digits, at least one. -/
def IsNumber (t : Bytes) : Prop := t ≠ [] ∧ ∀ c ∈ t, 48 ≤ c.toNat ∧ c.toNat ≤ 57

instance (t : Bytes) : Decidable (IsNumber t) :=
  inferInstanceAs (Decidable (t ≠ [] ∧ ∀ c ∈ t, 48 ≤ c.toNat ∧ c.toNat ≤ 57))

def pushDigit (n : Nat) (c : UINT8) : Nat := 10 * n + (c.toNat - 48)

def numberValue (t : Bytes) : Nat := t.foldl pushDigit 0

theorem le_foldl_pushDigit (t : Bytes) (n : Nat) : n ≤ t.foldl pushDigit n := by
  induction t generalizing n with
  | nil => exact Nat.le_refl n
  | cons c t ih =>
    have := ih (pushDigit n c)
    rw [List.foldl_cons]
    unfold pushDigit at this ⊢
    omega

theorem digitChar_of_digit {c : UINT8} (h : 48 ≤ c.toNat ∧ c.toNat ≤ 57) :
    c = BitVec.ofNat 8 (Nat.digitChar (c.toNat - 48)).toNat := by
  obtain ⟨d, hd⟩ : ∃ d, d = c.toNat - 48 := ⟨_, rfl⟩
  have hten : d < 10 := by omega
  have hchar : (Nat.digitChar d).toNat = 48 + d := by interval_cases d <;> rfl
  apply BitVec.eq_of_toNat_eq
  rw [← hd, hchar, BitVec.toNat_ofNat]
  omega

theorem strtointLoop_number {t : Bytes} (h : ∀ c ∈ t, 48 ≤ c.toNat ∧ c.toNat ≤ 57) (acc : UINT64)
    (hfit : t.foldl pushDigit acc.toNat < 2 ^ 64) :
    strtointLoop 10 t acc = some (BitVec.ofNat 64 (t.foldl pushDigit acc.toNat)) := by
  induction t generalizing acc with
  | nil => simp [strtointLoop]
  | cons c t ih =>
    have hc := h c List.mem_cons_self
    have hstep : pushDigit acc.toNat c < 2 ^ 64 :=
      Nat.lt_of_le_of_lt (le_foldl_pushDigit t _) hfit
    have hnext : acc.toNat * 10 + (c.toNat - 48) = pushDigit acc.toNat c := by
      unfold pushDigit
      omega
    have hone := strtointLoop_digit acc (show c.toNat - 48 < 10 by omega) (by rw [hnext]; exact hstep)
    rw [← digitChar_of_digit hc, hnext] at hone
    have hvalue : (BitVec.ofNat 64 (pushDigit acc.toNat c)).toNat = pushDigit acc.toNat c := by
      rw [BitVec.toNat_ofNat, Nat.mod_eq_of_lt hstep]
    have hrest := ih (fun d hd => h d (List.mem_cons_of_mem c hd))
      (BitVec.ofNat 64 (pushDigit acc.toNat c)) (by rw [hvalue]; exact hfit)
    rw [hvalue] at hrest
    rw [← List.singleton_append, strtointLoop_append, hone, Option.bind_some, hrest]
    rfl

/-- **A number that fits is read**, leading zeros or not. -/
theorem strtoui32_number {t : Bytes} (h : IsNumber t) (hfit : numberValue t < 2 ^ 32) :
    strtoui32 t t.length 10 = some (BitVec.ofNat 32 (numberValue t)) := by
  obtain ⟨hne, hdigits⟩ := h
  obtain ⟨c, s, rfl⟩ := List.exists_cons_of_ne_nil hne
  have hc := hdigits c List.mem_cons_self
  have hminus : c ≠ 45 := by
    rintro rfl
    simp at hc
  have hplus : c ≠ 43 := by
    rintro rfl
    simp at hc
  have hloop := strtointLoop_number hdigits 0 (by
    change numberValue (c :: s) < 2 ^ 64
    omega)
  change strtointLoop 10 (c :: s) 0 = some (BitVec.ofNat 64 (numberValue (c :: s))) at hloop
  have hstrtoint : strtoint (c :: s) (c :: s).length 10 =
      some (BitVec.ofNat 64 (numberValue (c :: s)), true) := by
    unfold strtoint
    simp only [List.head?_cons, Option.some.injEq, hminus, hplus, or_self, if_false, Nat.zero_le,
      if_true, List.take_length, List.drop_zero, hne, hloop, ne_eq, not_false_eq_true, decide_true]
  have hsmall : BitVec.ofNat 64 (numberValue (c :: s)) ≤ 0xffffffff := by
    rw [BitVec.le_def, BitVec.toNat_ofNat]
    change numberValue (c :: s) % 2 ^ 64 ≤ 2 ^ 32 - 1
    omega
  unfold strtoui32 strtoui64
  rw [hstrtoint]
  simp only [hsmall, if_true, Option.some.injEq]
  apply BitVec.eq_of_toNat_eq
  simp only [BitVec.truncate_eq_setWidth, BitVec.toNat_setWidth, BitVec.toNat_ofNat]
  omega

theorem number_printDecimal (n : Nat) : IsNumber (printDecimal n) ∧ numberValue (printDecimal n) = n := by
  constructor
  · constructor
    · simp [printDecimal, Nat.toDigits_ne_nil]
    · intro c hc
      obtain ⟨x, hx, rfl⟩ := List.mem_map.mp hc
      have hdigit := Nat.isDigit_of_mem_toDigits (by omega) (by omega) hx
      simp only [Char.isDigit, Bool.and_eq_true, decide_eq_true_eq] at hdigit
      have h1 : 48 ≤ x.toNat := hdigit.1
      have h2 : x.toNat ≤ 57 := hdigit.2
      rw [BitVec.toNat_ofNat]
      omega
  · unfold numberValue printDecimal
    have hdigit {d : Nat} (hd : d < 10) (acc : Nat) :
        pushDigit acc (BitVec.ofNat 8 (Nat.digitChar d).toNat) = 10 * acc + d := by
      interval_cases d <;> rfl
    induction n using Nat.strongRecOn with
    | _ n ih =>
      rcases Nat.lt_or_ge n 10 with hlt | hge
      · rw [Nat.toDigits_of_lt_base hlt, List.map_singleton, List.foldl_cons, hdigit hlt]
        simp
      · rw [Nat.toDigits_of_base_le (by omega) hge, List.map_append, List.foldl_append,
          ih (n / 10) (by omega), List.map_singleton, List.foldl_cons, List.foldl_nil,
          hdigit (Nat.mod_lt n (by omega)), Nat.div_add_mod]

/-! ## The grammar -/

/-- Letters, digits, `+` and `/`. -/
def isIceChar (c : UINT8) : Bool :=
  (48 ≤ c.toNat && c.toNat ≤ 57) || (65 ≤ c.toNat && c.toNat ≤ 90) ||
    (97 ≤ c.toNat && c.toNat ≤ 122) || c = 43 || c = 47

/-- The name of the attribute may stand before it. -/
def IsFoundation (t : Bytes) : Prop :=
  let foundation := if ascii "candidate:" <+: t then t.drop 10 else t
  1 ≤ foundation.length ∧ foundation.length ≤ 32 ∧ ∀ c ∈ foundation, isIceChar c = true

def IsComponent (t : Bytes) : Prop := IsNumber t ∧ t.length ≤ 3

/-- A keyword, in small or capital letters. -/
def Spells (w t : Bytes) : Prop := t.map toLower = w

instance (w t : Bytes) : Decidable (Spells w t) := inferInstanceAs (Decidable (t.map toLower = w))

/-- A type in full. -/
def typeOfWord (t : Bytes) : Option ICE_CANDIDATE_TYPE :=
  if Spells SDP_CANDIDATE_TYPE_HOST t then some .HOST
  else if Spells SDP_CANDIDATE_TYPE_SERFLX t then some .SERVER_REFLEXIVE
  else if Spells SDP_CANDIDATE_TYPE_PRFLX t then some .PEER_REFLEXIVE
  else if Spells SDP_CANDIDATE_TYPE_RELAY t then some .RELAYED
  else none

def IsPort (t : Bytes) : Prop := IsNumber t ∧ numberValue t ≤ 65535

/-- What a line says about a candidate. -/
structure CandidateLine where
  ipAddress : KvsIpAddress
  priority : UINT32
  type : ICE_CANDIDATE_TYPE
  deriving DecidableEq, Repr

/-- A candidate over UDP, as the grammar of the attribute has it; anything may follow the type. -/
def IsCandidateLine (line : Bytes) (c : CandidateLine) : Prop :=
  match line.splitOn 32 with
  | foundation :: component :: transport :: priority :: address :: port :: typ :: type :: _ =>
    IsFoundation foundation ∧ IsComponent component ∧ Spells ICE_TRANSPORT_TYPE_UDP transport ∧
      (IsNumber priority ∧ priority.length ≤ 10 ∧ 1 ≤ numberValue priority ∧
        numberValue priority < 2 ^ 31 ∧ c.priority = BitVec.ofNat 32 (numberValue priority)) ∧
      (IsPort port ∧ ∃ a, readAddress address = some a ∧
        c.ipAddress = { a with port := BitVec.ofNat 16 (numberValue port) }) ∧
      Spells (ascii "typ") typ ∧ typeOfWord type = some c.type
  | _ => False

/-- Transport, port, keyword and type conform. -/
def PartsConform (line : Bytes) : Prop :=
  match line.splitOn 32 with
  | _ :: _ :: transport :: _ :: _ :: port :: typ :: type :: _ =>
    Spells ICE_TRANSPORT_TYPE_UDP transport ∧ IsPort port ∧ Spells (ascii "typ") typ ∧
      (typeOfWord type).isSome
  | _ => False

/-- Something follows the type. -/
def TypeTerminated (line : Bytes) : Prop := 8 < (line.splitOn 32).length

instance (line : Bytes) : Decidable (TypeTerminated line) :=
  inferInstanceAs (Decidable (8 < (line.splitOn 32).length))

/-! ## Conforming lines -/

theorem length_of_readAddress {t : Bytes} {a : KvsIpAddress} (h : readAddress t = some a) :
    t.length ≤ 45 := by
  unfold readAddress at h
  cases h4 : inet_pton4 t with
  | some bytes =>
    have := (length_of_inet_pton4 h4).1
    omega
  | none =>
    rw [h4] at h
    obtain ⟨bytes, h6, -⟩ := Option.map_eq_some_iff.mp h
    exact length_of_inet_pton6 h6

theorem Spells.begins {w t : Bytes} (h : Spells w t) (hw : w.map toLower = w) : Begins w t := by
  unfold Begins
  rw [hw, h]

theorem not_begins_tcp {t : Bytes} (h : Spells ICE_TRANSPORT_TYPE_UDP t) :
    ¬Begins ICE_TRANSPORT_TYPE_TCP t := by
  unfold Begins
  rw [h]
  decide

theorem typeOfToken_of_word {t : Bytes} {type : ICE_CANDIDATE_TYPE}
    (h : typeOfWord t = some type) : typeOfToken t t.length = some type := by
  have hbegins (w : Bytes) {w' : Bytes} (hw : Spells w' t) :
      strncmpiEq w t t.length = decide (w' <+: w.map toLower) := by
    rw [Bool.eq_iff_iff, strncmpiEq_iff, decide_eq_true_eq, Begins, hw]
  unfold typeOfWord at h
  unfold typeOfToken
  split at h
  · next hw =>
    rw [hbegins _ hw, if_pos (by decide)]
    exact h
  · split at h
    · next hw =>
      rw [hbegins _ hw, hbegins _ hw, if_neg (by decide), if_pos (by decide)]
      exact h
    · split at h
      · next hw =>
        rw [hbegins _ hw, hbegins _ hw, hbegins _ hw, if_neg (by decide), if_neg (by decide),
          if_pos (by decide)]
        exact h
      · split at h
        · next hw =>
          rw [hbegins _ hw, hbegins _ hw, hbegins _ hw, hbegins _ hw, if_neg (by decide),
            if_neg (by decide), if_neg (by decide), if_pos (by decide)]
          exact h
        · cases h

theorem readTokens_toType (foundation component : Bytes) {transport priority address port typ : Bytes}
    {a : KvsIpAddress} {prio portValue : UINT32} (htransport : Spells ICE_TRANSPORT_TYPE_UDP transport)
    (hpriority : strtoui32 priority priority.length 10 = some prio)
    (haddress : readAddress address = some a)
    (hport : strtoui32 port port.length 10 = some portValue) (htyp : Spells (ascii "typ") typ)
    (ts : List Bytes) :
    readTokens parserStates
        (foundation :: component :: transport :: priority :: address :: port :: typ :: ts) noFields =
      readTokens [.TYPE_VAL] ts
        ⟨{ a with port := portValue.truncate 16 }, true, prio, .HOST, .UDP⟩ := by
  have htcp : strncmpiEq ICE_TRANSPORT_TYPE_TCP transport transport.length ≠ true := by
    rw [ne_eq, strncmpiEq_iff]
    exact not_begins_tcp htransport
  have hudp : strncmpiEq ICE_TRANSPORT_TYPE_UDP transport transport.length = true :=
    (strncmpiEq_iff _ _).mpr (htransport.begins (by decide))
  have hkeyword : strncmpiEq (ascii "typ") typ typ.length = true :=
    (strncmpiEq_iff _ _).mpr (htyp.begins (by decide))
  have hshort :
      address.take (min address.length (KVS_IP_ADDRESS_STRING_BUFFER_LEN - 1)) = address := by
    rw [take_min_length]
    exact List.take_of_length_le (length_of_readAddress haddress)
  simp only [parserStates, readTokens, readToken, htcp, Bool.false_eq_true, if_false, hudp, if_true,
    hpriority, hshort, haddress, hport, hkeyword]
  rfl

/-- **What is read of a conforming line.** -/
theorem parse_conforming {line : Bytes} {c : CandidateLine} (h : IsCandidateLine line c) :
    parseCandidate line = .ok ⟨c.ipAddress, true, c.priority,
      if TypeTerminated line then c.type else .HOST, .UDP⟩ := by
  unfold IsCandidateLine at h
  split at h
  · next foundation component transport priority address port typ type extensions htokens =>
    obtain ⟨-, -, htransport, ⟨hnumber, -, -, hpriority, hprio⟩, ⟨hport, a, haddress, hip⟩, htyp,
      htype⟩ := h
    have hfields := readTokens_toType foundation component htransport
      (strtoui32_number hnumber (by omega)) haddress
      (strtoui32_number hport.1 (by have := hport.2; omega)) htyp
    have htruncate : (BitVec.ofNat 32 (numberValue port)).truncate 16 =
        BitVec.ofNat 16 (numberValue port) := by
      apply BitVec.eq_of_toNat_eq
      have := hport.2
      simp only [BitVec.truncate_eq_setWidth, BitVec.toNat_setWidth, BitVec.toNat_ofNat]
      omega
    rw [htruncate, ← hip, ← hprio] at hfields
    have hended : TypeTerminated line ↔ 0 < extensions.length := by
      unfold TypeTerminated
      rw [htokens]
      simp only [List.length_cons]
      omega
    unfold parseCandidate
    rw [parseTokens_eq, terminated, htokens]
    cases extensions with
    | nil =>
      have hlast := hfields []
      rw [if_neg (by rw [hended]; simp)]
      simp only [List.dropLast_cons_cons, List.dropLast_singleton]
      rw [hlast]
      rfl
    | cons e extensions =>
      have hlast := hfields (type :: (e :: extensions).dropLast)
      rw [if_pos (by rw [hended]; simp)]
      simp only [List.dropLast_cons_cons] at hlast ⊢
      rw [hlast]
      simp only [readTokens, readToken, typeOfToken_of_word htype, Option.getD_some, if_true]
  · exact h.elim

/-! ## Serialised candidates -/

theorem blank_not_mem_printDecimal (n : Nat) : 32 ∉ printDecimal n := by
  intro h
  have := (number_printDecimal n).1.2 32 h
  simp at this

theorem blank_not_mem_printIpv6 (bytes : Bytes) : 32 ∉ printIpv6 bytes := by
  have hdigit {n : Nat} (h : n < 16) : (32 : UINT8) ≠ hexDigit n := by
    interval_cases n <;> decide
  have hbyte (b : UINT8) : 32 ∉ printHexByte b := by
    have := b.isLt
    simp only [printHexByte, List.mem_cons, List.not_mem_nil, or_false, not_or]
    exact ⟨hdigit (by omega), hdigit (by omega)⟩
  induction bytes using printIpv6.induct with
  | case1 => simp [printIpv6]
  | case2 a => simp [printIpv6]
  | case3 a b =>
    simp only [printIpv6, List.mem_append, not_or]
    exact ⟨hbyte a, hbyte b⟩
  | case4 a b c rest ih =>
    simp only [printIpv6, List.mem_append, List.mem_cons, not_or]
    exact ⟨⟨hbyte a, hbyte b⟩, by decide, ih⟩

theorem blank_not_mem_printAddress (a : KvsIpAddress) : 32 ∉ printAddress a := by
  unfold printAddress printIpv4
  split
  · simp only [List.mem_append, List.mem_cons, not_or]
    exact ⟨blank_not_mem_printDecimal _, by decide, blank_not_mem_printDecimal _, by decide,
      blank_not_mem_printDecimal _, by decide, blank_not_mem_printDecimal _⟩
  · exact blank_not_mem_printIpv6 _

theorem readAddress_printAddress {a : KvsIpAddress}
    (h : a.family = KVS_IP_FAMILY_TYPE_IPV4 ∨ a.family = KVS_IP_FAMILY_TYPE_IPV6) :
    ∃ b, readAddress (printAddress a) = some b ∧
      isSameIpAddress { b with port := a.port } a true = true := by
  have hlen := a.length_address
  by_cases h4 : a.isIpv4 = true
  · have hfamily : a.family = KVS_IP_FAMILY_TYPE_IPV4 := by simpa [KvsIpAddress.isIpv4] using h4
    refine ⟨ipAddressOf KVS_IP_FAMILY_TYPE_IPV4 [a.address.getD 0 0, a.address.getD 1 0,
      a.address.getD 2 0, a.address.getD 3 0], ?_, ?_⟩
    · unfold readAddress printAddress
      rw [if_pos h4, inet_pton4_printIpv4]
    · obtain ⟨family, port, address, hlength⟩ := a
      rcases address with _ | ⟨b₀, _ | ⟨b₁, _ | ⟨b₂, _ | ⟨b₃, rest⟩⟩⟩⟩ <;>
        simp only [List.length_nil, List.length_cons, IPV6_ADDRESS_LENGTH] at hlength
      · omega
      · omega
      · omega
      · omega
      · dsimp only at hfamily
        subst hfamily
        simp [isSameIpAddress, ipAddressOf, KvsIpAddress.addressLength, KvsIpAddress.isIpv4]
  · have hfamily : a.family = KVS_IP_FAMILY_TYPE_IPV6 := by
      rcases h with h | h
      · exact absurd (by simp [KvsIpAddress.isIpv4, h]) h4
      · exact h
    refine ⟨ipAddressOf KVS_IP_FAMILY_TYPE_IPV6 a.address, ?_, ?_⟩
    · have hcolon : inet_pton4 (printIpv6 a.address) = none :=
        inet_pton4_eq_none (colon_mem_printIpv6 (by rw [hlen]; decide)) (by decide) (by decide)
      unfold readAddress printAddress
      rw [if_neg h4, hcolon, inet_pton6_printIpv6 hlen]
      rfl
    · simp [isSameIpAddress, ipAddressOf, KvsIpAddress.addressLength, KvsIpAddress.isIpv4, hfamily,
        hlen]

/-- The tokens of the text. -/
def candidateTokens (foundation : UINT32) (c : IceCandidate) (ipAddress : KvsIpAddress) :
    List Bytes :=
  [printDecimal foundation.toNat, ascii "1", ascii "udp", printDecimal c.priority.toNat,
    printAddress ipAddress, printDecimal ipAddress.port.toNat, ascii "typ",
    iceAgentGetCandidateTypeStr c.iceCandidateType, ascii "raddr",
    (if ipAddress.isIpv4 then ascii "0.0.0.0" else ascii "::/0"), ascii "rport", ascii "0",
    ascii "generation", ascii "0", ascii "network-cost", ascii "999"]

theorem candidateText_eq (foundation : UINT32) (c : IceCandidate) (announced : Option KvsIpAddress) :
    candidateText foundation c announced =
      [32].intercalate (candidateTokens foundation c (announced.getD c.ipAddress)) := by
  have h1 : ascii " 1 udp " = 32 :: ascii "1" ++ 32 :: ascii "udp" ++ [32] := by decide
  have h2 : ascii " typ " = 32 :: ascii "typ" ++ [32] := by decide
  have h3 : ascii " " = [32] := by decide
  have h4 : ascii " raddr 0.0.0.0" = 32 :: ascii "raddr" ++ 32 :: ascii "0.0.0.0" := by decide
  have h6 : ascii " raddr ::/0" = 32 :: ascii "raddr" ++ 32 :: ascii "::/0" := by decide
  have h5 : ascii " rport 0 generation 0 network-cost 999" =
      32 :: ascii "rport" ++ 32 :: ascii "0" ++ 32 :: ascii "generation" ++ 32 :: ascii "0" ++
        32 :: ascii "network-cost" ++ 32 :: ascii "999" := by decide
  unfold candidateText candidateTokens
  dsimp only
  rw [h1, h2, h3, h5]
  by_cases hfamily : (announced.getD c.ipAddress).isIpv4 = true
  · rw [if_pos hfamily, if_pos hfamily, h4]
    simp [List.intercalate]
  · rw [if_neg hfamily, if_neg hfamily, h6]
    simp [List.intercalate]

theorem terminated_candidateText (foundation : UINT32) (c : IceCandidate)
    (announced : Option KvsIpAddress) :
    terminated (candidateText foundation c announced) =
      (candidateTokens foundation c (announced.getD c.ipAddress)).dropLast := by
  unfold terminated
  rw [candidateText_eq, List.splitOn_intercalate]
  · intro t ht
    have htype : (32 : UINT8) ∉ iceAgentGetCandidateTypeStr c.iceCandidateType := by
      cases c.iceCandidateType <;> decide
    simp only [candidateTokens, List.mem_cons, List.not_mem_nil, or_false] at ht
    rcases ht with rfl | rfl | rfl | rfl | rfl | rfl | rfl | rfl | rfl | rfl | rfl | rfl | rfl |
      rfl | rfl | rfl
    · exact blank_not_mem_printDecimal _
    · decide
    · decide
    · exact blank_not_mem_printDecimal _
    · exact blank_not_mem_printAddress _
    · exact blank_not_mem_printDecimal _
    · decide
    · exact htype
    · decide
    · split <;> decide
    all_goals decide
  · simp [candidateTokens]

/-- **What is read of a serialised candidate.** -/
theorem parse_candidateText (foundation : UINT32) (c : IceCandidate)
    (announced : Option KvsIpAddress)
    (hfamily : (announced.getD c.ipAddress).family = KVS_IP_FAMILY_TYPE_IPV4 ∨
      (announced.getD c.ipAddress).family = KVS_IP_FAMILY_TYPE_IPV6) :
    ∃ address, parseCandidate (candidateText foundation c announced) =
        .ok ⟨address, true, c.priority, c.iceCandidateType, .UDP⟩ ∧
      isSameIpAddress address (announced.getD c.ipAddress) true = true := by
  obtain ⟨b, hb, hsame⟩ := readAddress_printAddress hfamily
  generalize hip : announced.getD c.ipAddress = ipAddress at hb hsame ⊢
  refine ⟨{ b with port := ipAddress.port }, ?_, hsame⟩
  have hnumber {n : Nat} (hn : n < 2 ^ 32) :
      strtoui32 (printDecimal n) (printDecimal n).length 10 = some (BitVec.ofNat 32 n) := by
    have h := number_printDecimal n
    rw [strtoui32_number h.1 (by rw [h.2]; exact hn), h.2]
  have hport := hnumber (n := ipAddress.port.toNat) (by have := ipAddress.port.isLt; omega)
  have hpriority := hnumber c.priority.isLt
  have hudp : Spells ICE_TRANSPORT_TYPE_UDP (ascii "udp") := by decide
  have htyp : Spells (ascii "typ") (ascii "typ") := by decide
  have hfields := readTokens_toType (printDecimal foundation.toNat) (ascii "1") hudp hpriority hb
    hport htyp
  have htruncate : (BitVec.ofNat 32 ipAddress.port.toNat).truncate 16 = ipAddress.port := by
    apply BitVec.eq_of_toNat_eq
    have := ipAddress.port.isLt
    simp only [BitVec.truncate_eq_setWidth, BitVec.toNat_setWidth, BitVec.toNat_ofNat]
    omega
  have htype : typeOfToken (iceAgentGetCandidateTypeStr c.iceCandidateType)
      (iceAgentGetCandidateTypeStr c.iceCandidateType).length = some c.iceCandidateType := by
    cases c.iceCandidateType <;> decide
  unfold parseCandidate
  rw [parseTokens_eq, terminated_candidateText, hip, candidateTokens]
  simp only [List.dropLast_cons_cons, List.dropLast_singleton]
  rw [hfields, htruncate, BitVec.ofNat_toNat, BitVec.setWidth_eq]
  simp only [readTokens, readToken, htype, Option.getD_some, if_true]

/-! ## Storing a candidate -/

/-- The agent takes no more remote candidates. -/
def Full (s : TurnAgent) : Prop :=
  KVS_ICE_MAX_REMOTE_CANDIDATE_COUNT ≤ s.agent.remoteCandidates.length

/-- No remote candidate has the address. -/
def Unknown (s : TurnAgent) (ipAddress : KvsIpAddress) : Prop :=
  findCandidateWithIp ipAddress s.agent.remoteCandidates = none

/-- One remote candidate more, with these fields. -/
def Stored (s s' : TurnAgent) (c : CandidateLine) : Prop :=
  ∃ r, s'.agent.remoteCandidates = r :: s.agent.remoteCandidates ∧
    isSameIpAddress r.ipAddress c.ipAddress true = true ∧ r.priority = c.priority ∧
    r.iceCandidateType = c.type

/-- What is printed of a candidate is stored as the candidate. -/
def SerializedKept (s : TurnAgent) : Prop :=
  ∀ foundation c announced size text n,
    (announced.getD c.ipAddress).family = KVS_IP_FAMILY_TYPE_IPV4 ∨
      (announced.getD c.ipAddress).family = KVS_IP_FAMILY_TYPE_IPV6 →
    iceCandidateSerialize foundation c announced (some size) = .ok (text, n) →
    ¬Full s → Unknown s (announced.getD c.ipAddress) →
      Stored s (iceAgentAddRemoteCandidate s text).1
        ⟨announced.getD c.ipAddress, c.priority, c.iceCandidateType⟩

/-- A conforming line is stored as it is, and one with a part that does not conform is refused. -/
def LineKept (s : TurnAgent) (line : Bytes) : Prop :=
  (∀ c, IsCandidateLine line c → ¬Full s → Unknown s c.ipAddress →
      Stored s (iceAgentAddRemoteCandidate s line).1 c) ∧
    (¬PartsConform line → ∃ e, iceAgentAddRemoteCandidate s line = (s, some e))

/-- The type of a conforming line is `host` or has a blank behind it, and the parser looks at a part
that does not conform. -/
def LineFits (s : TurnAgent) (line : Bytes) : Prop :=
  (∀ c, IsCandidateLine line c → Unknown s c.ipAddress → c.type = .HOST ∨ TypeTerminated line) ∧
    (¬PartsConform line → Refused (terminated line))

theorem remoteCandidates_addNew (s : TurnAgent) (f : Fields) :
    (addNewCandidate s f).1.agent.remoteCandidates =
      s.agent.newRemote f.candidateIpAddr f.iceCandidateType f.priority ::
        s.agent.remoteCandidates := by
  change ((s.agent.insertRemote _).createPairsForRemote _).remoteCandidates = _
  refine createPairsForRemote_induct (P := fun a => a.remoteCandidates = _) _ ?_ rfl
  intro b l hb _ _ _ _ _
  exact hb

theorem add_full {s : TurnAgent} {line : Bytes} (hne : line ≠ []) (h : Full s) :
    iceAgentAddRemoteCandidate s line =
      (s, some .ICE_MAX_REMOTE_CANDIDATE_COUNT_EXCEEDED) := by
  unfold iceAgentAddRemoteCandidate
  rw [if_neg hne]
  exact if_pos h

theorem add_room {s : TurnAgent} {line : Bytes} (hne : line ≠ []) (h : ¬Full s) :
    iceAgentAddRemoteCandidate s line =
      match parseCandidate line with
      | .error e => (s, some e)
      | .ok f =>
        match findCandidateWithIp f.candidateIpAddr s.agent.remoteCandidates with
        | some _ => (s, none)
        | none => addNewCandidate s f := by
  unfold iceAgentAddRemoteCandidate
  rw [if_neg hne]
  exact if_neg h

/-- **The new candidate has the fields that were read.** -/
theorem stored_iff {s : TurnAgent} {line : Bytes} {f : Fields} {c : CandidateLine}
    (hparse : parseCandidate line = .ok f) (hroom : ¬Full s)
    (hunknown : Unknown s f.candidateIpAddr) :
    Stored s (iceAgentAddRemoteCandidate s line).1 c ↔
      isSameIpAddress f.candidateIpAddr c.ipAddress true = true ∧ f.priority = c.priority ∧
        f.iceCandidateType = c.type := by
  have hne : line ≠ [] := by
    rintro rfl
    cases hparse
  have hadd : iceAgentAddRemoteCandidate s line = addNewCandidate s f := by
    rw [add_room hne hroom, hparse]
    dsimp only
    rw [hunknown]
  rw [hadd]
  unfold Stored
  rw [remoteCandidates_addNew]
  constructor
  · rintro ⟨r, hr, hfields⟩
    obtain ⟨rfl, -⟩ := List.cons.inj hr
    exact hfields
  · intro hfields
    exact ⟨_, rfl, hfields⟩

/-- **Which lines are refused without a change.** -/
theorem refused_iff (s : TurnAgent) (line : Bytes) :
    (∃ e, iceAgentAddRemoteCandidate s line = (s, some e)) ↔
      Full s ∨ Refused (terminated line) := by
  by_cases hne : line = []
  · subst hne
    have hrefused : Refused (terminated []) := by
      refine .inr (.inl fun t ht => ?_)
      cases ht
    simp [hrefused, iceAgentAddRemoteCandidate]
  · by_cases hfull : Full s
    · rw [add_full hne hfull]
      simp [hfull]
    · rw [add_room hne hfull, ← parse_error_iff]
      cases hparse : parseCandidate line with
      | error e => simp
      | ok f =>
        cases hfind : findCandidateWithIp f.candidateIpAddr s.agent.remoteCandidates with
        | some r => simp [hfull, hfind]
        | none =>
          have hgrow := remoteCandidates_addNew s f
          simp only [hfind, hfull, false_or]
          constructor
          · rintro ⟨e, he⟩
            rw [he] at hgrow
            exact absurd (congrArg List.length hgrow) (by simp)
          · rintro ⟨e, he⟩
            cases he

theorem findCandidateWithIp_congr {a b : KvsIpAddress} (h : isSameIpAddress a b true = true)
    (candidates : List IceCandidate) :
    findCandidateWithIp a candidates = findCandidateWithIp b candidates := by
  unfold isSameIpAddress at h
  simp only [Bool.and_eq_true, Bool.or_eq_true, decide_eq_true_eq, Bool.not_true, Bool.false_eq_true,
    false_or] at h
  obtain ⟨⟨hfamily, haddress⟩, hport⟩ := h
  have hlength : a.addressLength = b.addressLength := by
    unfold KvsIpAddress.addressLength KvsIpAddress.isIpv4
    rw [hfamily]
  unfold findCandidateWithIp
  congr 1
  funext c
  unfold isSameIpAddress
  rw [hfamily, haddress, hport, hlength]

theorem serializedKept (s : TurnAgent) : SerializedKept s := by
  intro foundation c announced size text n hfamily htext hroom hunknown
  obtain ⟨address, hparse, hsame⟩ := parse_candidateText foundation c announced hfamily
  have heq : text = candidateText foundation c announced := by
    simp only [iceCandidateSerialize] at htext
    split at htext
    · cases htext
      rfl
    · cases htext
  rw [heq, stored_iff hparse hroom (by
    unfold Unknown
    rw [findCandidateWithIp_congr hsame]
    exact hunknown)]
  exact ⟨hsame, rfl, rfl⟩

/-- **A serialised candidate is stored as it is.  A line is stored, or refused, as it should be
exactly if the agent is full, or its type is `host`, known already or has a blank behind it, and the
parser looks at a part that does not conform.** -/
theorem candidate_lines (s : TurnAgent) (line : Bytes) :
    SerializedKept s ∧ (LineKept s line ↔ Full s ∨ LineFits s line) := by
  refine ⟨serializedKept s, ?_⟩
  by_cases hfull : Full s
  · simp only [hfull, true_or, iff_true]
    exact ⟨fun c _ hroom => absurd hfull hroom, fun _ => (refused_iff s line).mpr (.inl hfull)⟩
  · simp only [hfull, false_or]
    refine and_congr (forall_congr' fun c => ?_) (imp_congr_right fun _ => ?_)
    · refine imp_congr_right fun hline => ?_
      have hsame : isSameIpAddress c.ipAddress c.ipAddress true = true := by simp [isSameIpAddress]
      have hstored : Unknown s c.ipAddress →
          (Stored s (iceAgentAddRemoteCandidate s line).1 c ↔
            (if TypeTerminated line then c.type else .HOST) = c.type) := by
        intro hunknown
        rw [stored_iff (parse_conforming hline) hfull hunknown]
        simp [hsame]
      have htype : (if TypeTerminated line then c.type else .HOST) = c.type ↔
          c.type = .HOST ∨ TypeTerminated line := by
        by_cases hended : TypeTerminated line
        · simp [hended]
        · simp [hended, eq_comm]
      constructor
      · intro h hunknown
        exact htype.mp ((hstored hunknown).mp (h hfull hunknown))
      · intro h _ hunknown
        exact (hstored hunknown).mpr (htype.mpr (h hunknown))
    · rw [refused_iff]
      simp [hfull]

/-- An agent without candidates. -/
def emptyAgent : TurnAgent where
  agent := createIceAgent [] [] false 0 [] ⟨0, 0, 0⟩
  pTurnConnection _ := Turn.Machine.createTurnConnection [] [] KVS_IP_FAMILY_TYPE_IPV4

/-- A candidate of a server without anything behind its type becomes a host candidate. -/
theorem bare_type_lost :
    ¬∀ (s : TurnAgent) (line : Bytes), SerializedKept s ∧ LineKept s line := by
  intro h
  have hline : IsCandidateLine (ascii "1 1 udp 1694498815 192.0.2.3 45664 typ srflx")
      ⟨{ ipAddressOf KVS_IP_FAMILY_TYPE_IPV4 [192, 0, 2, 3] with port := 45664 }, 1694498815,
        .SERVER_REFLEXIVE⟩ := by
    have htokens : (ascii "1 1 udp 1694498815 192.0.2.3 45664 typ srflx").splitOn 32 =
        [ascii "1", ascii "1", ascii "udp", ascii "1694498815", ascii "192.0.2.3", ascii "45664",
          ascii "typ", ascii "srflx"] := by decide
    unfold IsCandidateLine
    rw [htokens]
    refine ⟨by unfold IsFoundation; decide, by unfold IsComponent; decide, by decide, by decide,
      ⟨by unfold IsPort; decide, ipAddressOf KVS_IP_FAMILY_TYPE_IPV4 [192, 0, 2, 3], by decide,
        by decide⟩, by decide, by decide⟩
  have hroom : ¬Full emptyAgent := by
    unfold Full
    decide
  have hunknown (a : KvsIpAddress) : Unknown emptyAgent a := rfl
  have hkept := (h emptyAgent _).2.1 _ hline hroom (hunknown _)
  rw [stored_iff (parse_conforming hline) hroom (hunknown _)] at hkept
  exact absurd hkept.2.2 (by decide)

end KvsWebrtc.Ice.Trickle
