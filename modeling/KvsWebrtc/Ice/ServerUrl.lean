import KvsWebrtc.Ice.CandidateText
import Mathlib.Data.List.Infix

/-!
# URLs of ICE servers (`IceUtils.c`)

`parseIceServer` looks for the prefix, the first colon behind it, the first question mark and the
transport by separate searches over the text.  Only a URL with a port is cut at the end of its
host, with no check of the host's length; without a port everything up to the end is taken for the
host, and is cut where the array ends.  A port is a number of 32 bits that is narrowed to 16.

Addresses are resolved by a function that succeeds.  A port is its number.

Principal results:

* `storeAddress_port`, `storeAddress_noPort` — what is stored of a URL;
* `parse_server_url_iff` — the URLs that are parsed as they should be.
-/

namespace KvsWebrtc.Ice.Url

open Stun CString Sdp Trickle

abbrev ICE_STUN_DEFAULT_PORT : UINT32 := 3478
abbrev MAX_ICE_CONFIG_URI_LEN : Nat := 127
abbrev MAX_ICE_CONFIG_USER_NAME_LEN : Nat := 256
abbrev MAX_ICE_CONFIG_CREDENTIAL_LEN : Nat := 256
abbrev KVS_IP_FAMILY_TYPE_NOT_SET : UINT16 := 0

def ICE_URL_PREFIX_STUN : Bytes := ascii "stun:"
def ICE_URL_PREFIX_TURN : Bytes := ascii "turn:"
def ICE_URL_PREFIX_TURN_SECURE : Bytes := ascii "turns:"
def ICE_URL_TRANSPORT_UDP : Bytes := ascii "transport=udp"
def ICE_URL_TRANSPORT_TCP : Bytes := ascii "transport=tcp"

inductive STATUS where
  | ICE_URL_TURN_MISSING_USERNAME
  | ICE_URL_TURN_MISSING_CREDENTIAL
  | ICE_URL_INVALID_PREFIX
  | INVALID_ARG
  /-- Of `strtoui32`. -/
  | NUMBER
  deriving DecidableEq, Repr

/-! ## The parser -/

structure DualKvsIpAddresses where
  ipv4Address : KvsIpAddress
  ipv6Address : KvsIpAddress
  deriving DecidableEq

structure IceServer where
  isTurn : Bool
  isSecure : Bool
  url : CharArray (MAX_ICE_CONFIG_URI_LEN + 1)
  ipAddresses : DualKvsIpAddresses
  username : CharArray (MAX_ICE_CONFIG_USER_NAME_LEN + 1)
  credential : CharArray (MAX_ICE_CONFIG_CREDENTIAL_LEN + 1)
  transport : KVS_SOCKET_PROTOCOL
  deriving DecidableEq

/-- The port of an address that was resolved. -/
def setPort (a : KvsIpAddress) (port : UINT32) : KvsIpAddress :=
  if a.family ≠ KVS_IP_FAMILY_TYPE_NOT_SET then { a with port := port.truncate 16 } else a

def DualKvsIpAddresses.setPorts (a : DualKvsIpAddresses) (port : UINT32) : DualKvsIpAddresses :=
  ⟨setPort a.ipv4Address port, setPort a.ipv6Address port⟩

/-- The status of the call, if it failed, and what it leaves. -/
structure Parsed where
  status : Option STATUS
  server : IceServer
  deriving DecidableEq

/-- Whether the URL begins with these characters. -/
def hasPrefix (start url : Bytes) : Bool := strncmpEq start url start.length

def urlTransport (url : Bytes) : KVS_SOCKET_PROTOCOL :=
  if ICE_URL_TRANSPORT_UDP <:+: url then .UDP
  else if ICE_URL_TRANSPORT_TCP <:+: url then .TCP
  else .NONE

/-- What is behind the first colon; the prefixes have one. -/
def afterColon (url : Bytes) : Bytes := url.drop (url.idxOf 58 + 1)

/-- The port behind the colon at `n`, which ends at the question mark if there is one. -/
def readPort (urlNoPrefix : Bytes) (n : Nat) : Except STATUS UINT32 :=
  let separator := n + 1
  let stop := (strnchr urlNoPrefix urlNoPrefix.length 63).getD urlNoPrefix.length
  if stop < separator then .error .INVALID_ARG
  else
    match strtoui32 (urlNoPrefix.drop separator) (stop - separator) 10 with
    | none => .error .NUMBER
    | some port => .ok port

/-- The part behind the prefix.  No result is a write outside an array. -/
def storeAddress (resolve : Bytes → DualKvsIpAddresses) (server : IceServer)
    (urlNoPrefix : Bytes) : Option Parsed :=
  let finish (url : CharArray (MAX_ICE_CONFIG_URI_LEN + 1)) (port : UINT32) : Option Parsed :=
    some ⟨none, { server with url := url, ipAddresses := (resolve url.text).setPorts port }⟩
  match strnchr urlNoPrefix urlNoPrefix.length 58 with
  | some n =>
    match readPort urlNoPrefix n with
    | .error status => some ⟨some status, server⟩
    | .ok port =>
      match (strncpy server.url urlNoPrefix n).bind (·.terminate n) with
      | none => none
      | some url => finish url port
  | none =>
    match strncpy server.url urlNoPrefix MAX_ICE_CONFIG_URI_LEN with
    | none => none
    | some url => finish url ICE_STUN_DEFAULT_PORT

def parseIceServer (resolve : Bytes → DualKvsIpAddresses) (server : IceServer) (url : Bytes)
    (username credential : Option Bytes) : Option Parsed :=
  if hasPrefix ICE_URL_PREFIX_STUN url then
    storeAddress resolve { server with isTurn := false } (afterColon url)
  else if hasPrefix ICE_URL_PREFIX_TURN url ∨ hasPrefix ICE_URL_PREFIX_TURN_SECURE url then
    if username.getD [] = [] then some ⟨some .ICE_URL_TURN_MISSING_USERNAME, server⟩
    else if credential.getD [] = [] then some ⟨some .ICE_URL_TURN_MISSING_CREDENTIAL, server⟩
    else
      match strncpy server.username (username.getD []) MAX_ICE_CONFIG_USER_NAME_LEN,
        strncpy server.credential (credential.getD []) MAX_ICE_CONFIG_CREDENTIAL_LEN with
      | some name, some password =>
        storeAddress resolve { server with
          username := name
          credential := password
          isTurn := true
          isSecure := hasPrefix ICE_URL_PREFIX_TURN_SECURE url
          transport := urlTransport url } (afterColon url)
      | _, _ => none
  else some ⟨some .ICE_URL_INVALID_PREFIX, server⟩

/-! ## URLs -/

inductive Scheme where
  | stun
  | turn
  | turns
  deriving DecidableEq, Repr

def Scheme.text : Scheme → Bytes
  | stun => ascii "stun:"
  | turn => ascii "turn:"
  | turns => ascii "turns:"

/-- The port of a URL that gives none. -/
def Scheme.defaultPort : Scheme → Nat
  | stun => 3478
  | turn => 3478
  | turns => 5349

inductive Transport where
  | udp
  | tcp
  deriving DecidableEq, Repr

def Transport.text : Transport → Bytes
  | udp => ascii "?transport=udp"
  | tcp => ascii "?transport=tcp"

def Transport.protocol : Transport → KVS_SOCKET_PROTOCOL
  | udp => .UDP
  | tcp => .TCP

/-- A letter, a digit, a hyphen, a point or the underscore of dual-stack names: the characters of
host names and IPv4 literals. -/
def isHostChar (c : UINT8) : Bool :=
  (97 ≤ c && c ≤ 122) || (65 ≤ c && c ≤ 90) || (48 ≤ c && c ≤ 57) || c = 45 || c = 46 || c = 95

/-- A URL `stun:host[:port]` or `turn(s):host[:port][?transport=udp|tcp]`, with the name and the
password that come with it. -/
structure ServerUrl where
  scheme : Scheme
  host : Bytes
  port : Option (List (Fin 10))
  transport : Option Transport
  username : Option Str
  credential : Option Str
  host_ne : host ≠ []
  host_chars : ∀ c ∈ host, isHostChar c
  port_ne : port ≠ some []
  stun_plain : scheme = .stun → transport = none
  given : scheme ≠ .stun →
    (∃ s, username = some s ∧ s.chars ≠ []) ∧ ∃ s, credential = some s ∧ s.chars ≠ []

namespace ServerUrl

variable (u : ServerUrl)

def portText : Bytes :=
  match u.port with
  | none => []
  | some ds => 58 :: digitText ds

def query : Bytes :=
  match u.transport with
  | none => []
  | some t => t.text

def rest : Bytes := u.host ++ (u.portText ++ u.query)

def text : Bytes := u.scheme.text ++ u.rest

/-- The port that the URL means. -/
def portNumber : Nat :=
  match u.port with
  | none => u.scheme.defaultPort
  | some ds => decimal ds

/-- The URL can be stored. -/
def Fits : Prop := u.host.length ≤ MAX_ICE_CONFIG_URI_LEN ∧ u.portNumber < 2 ^ 16

/-- What a successful call has to store. -/
structure StoredIn (resolve : Bytes → DualKvsIpAddresses) (server : IceServer) : Prop where
  isTurn : server.isTurn = decide (u.scheme ≠ .stun)
  isSecure : server.isSecure = decide (u.scheme = .turns)
  url : server.url.text = u.host
  transport : server.transport = (u.transport.map Transport.protocol).getD .NONE
  addresses : server.ipAddresses =
    (resolve u.host).setPorts (BitVec.ofNat 32 u.portNumber)

end ServerUrl

/-- Every string of the server ends within its array. -/
structure IceServer.Terminated (server : IceServer) : Prop where
  url : server.url.Terminated
  username : server.username.Terminated
  credential : server.credential.Terminated

/-- Resolution that finds an address of at least one family. -/
structure Resolver where
  resolve : Bytes → DualKvsIpAddresses
  found : ∀ host, (resolve host).ipv4Address.family ≠ KVS_IP_FAMILY_TYPE_NOT_SET ∨
    (resolve host).ipv6Address.family ≠ KVS_IP_FAMILY_TYPE_NOT_SET

def zeroAddress : KvsIpAddress := ⟨0, 0, List.replicate IPV6_ADDRESS_LENGTH 0, by decide⟩

def zeroedServer : IceServer where
  isTurn := false
  isSecure := false
  url := CharArray.zeroed _
  ipAddresses := ⟨zeroAddress, zeroAddress⟩
  username := CharArray.zeroed _
  credential := CharArray.zeroed _
  transport := .NONE

def ServerUrl.parse (r : Resolver) (u : ServerUrl) : Option Parsed :=
  parseIceServer r.resolve zeroedServer u.text (u.username.map Str.chars)
    (u.credential.map Str.chars)

/-- The call stays inside the arrays and leaves them terminated; it succeeds if the URL fits, with
what the URL says, and is refused otherwise. -/
def ServerUrl.ParsedWell (r : Resolver) (u : ServerUrl) : Prop :=
  ∃ p, u.parse r = some p ∧ p.server.Terminated ∧
    (p.status = none → u.Fits ∧ u.StoredIn r.resolve p.server) ∧ (p.status ≠ none → ¬ u.Fits)

/-! ## The characters of a URL -/

section

variable {l : Bytes} {x : UINT8}

theorem notMem_hostChars (h : ∀ c ∈ l, isHostChar c) (hx : isHostChar x = false) : x ∉ l := by
  intro hmem
  rw [h x hmem] at hx
  cases hx

theorem digitText_hostChars (ds : List (Fin 10)) : ∀ c ∈ digitText ds, isHostChar c := by
  have hdigit : ∀ d : Fin 10, isHostChar (BitVec.ofNat 8 (48 + d.val)) := by decide
  intro c hc
  obtain ⟨d, _, rfl⟩ := List.mem_map.mp hc
  exact hdigit d

end

namespace ServerUrl

variable (u : ServerUrl)

theorem notMem_portText {x : UINT8} (hx : isHostChar x = false) (hcolon : x ≠ 58) :
    x ∉ u.host ++ u.portText := by
  have hhost := notMem_hostChars u.host_chars hx
  rw [List.mem_append, not_or]
  refine ⟨hhost, ?_⟩
  unfold portText
  cases u.port with
  | none => exact List.not_mem_nil
  | some ds =>
    have hdigits := notMem_hostChars (digitText_hostChars ds) hx
    rw [List.mem_cons, not_or]
    exact ⟨hcolon, hdigits⟩

theorem rest_noNul : ∀ c ∈ u.rest, c ≠ 0 := by
  rintro c hc rfl
  have hplain := u.notMem_portText (x := 0) rfl (by decide)
  rw [rest, ← List.append_assoc, List.mem_append] at hc
  rcases hc with hc | hc
  · exact hplain hc
  · unfold query at hc
    cases ht : u.transport with
    | none =>
      rw [ht] at hc
      cases hc
    | some t =>
      rw [ht] at hc
      revert hc
      cases t <;> decide

/-- **The search for the transport** finds the one that is stated. -/
theorem urlTransport_text :
    urlTransport u.text = (u.transport.map Transport.protocol).getD .NONE := by
  have hscheme : (61 : UINT8) ∉ u.scheme.text := by cases u.scheme <;> decide
  have hplain : (61 : UINT8) ∉ u.scheme.text ++ (u.host ++ u.portText) := by
    rw [List.mem_append, not_or]
    exact ⟨hscheme, u.notMem_portText rfl (by decide)⟩
  have htext : u.text = u.scheme.text ++ (u.host ++ u.portText) ++ u.query := by
    simp only [text, rest, List.append_assoc]
  rw [htext]
  generalize u.scheme.text ++ (u.host ++ u.portText) = before at hplain
  unfold urlTransport query
  cases u.transport with
  | none =>
    have hno (needle : Bytes) (h : (61 : UINT8) ∈ needle) : ¬ needle <:+: before ++ [] := by
      rw [List.append_nil]
      exact fun hin => hplain (hin.subset h)
    rw [if_neg (hno _ (by decide)), if_neg (hno _ (by decide))]
    rfl
  | some t =>
    cases t with
    | udp =>
      rw [if_pos ⟨before ++ [63], [], by simp [Transport.text, ICE_URL_TRANSPORT_UDP, ascii]⟩]
      rfl
    | tcp =>
      have hno : ¬ ICE_URL_TRANSPORT_UDP <:+: before ++ Transport.text .tcp := by
        rintro ⟨pre, post, h⟩
        -- both have one equality sign
        have hsplit : (before ++ ascii "?transport") ++ 61 :: ascii "tcp" =
            (pre ++ ascii "transport") ++ 61 :: (ascii "udp" ++ post) := by
          simpa [Transport.text, ICE_URL_TRANSPORT_UDP, ascii] using h.symm
        have hone : (61 : UINT8) ∉ before ++ ascii "?transport" := by
          rw [List.mem_append, not_or]
          exact ⟨hplain, by decide⟩
        have hcut := (List.append_cons_inj_of_notMem hone (by decide)).mp hsplit
        have hhead := congrArg List.head? hcut.2.2
        cases hhead
      rw [if_neg hno,
        if_pos ⟨before ++ [63], [], by simp [Transport.text, ICE_URL_TRANSPORT_TCP, ascii]⟩]
      rfl

end ServerUrl

/-! ## What is stored -/

/-- A TURN server before its address is stored. -/
def turnServer (name password : Bytes) (scheme : Scheme) (transport : KVS_SOCKET_PROTOCOL) :
    IceServer :=
  { zeroedServer with
    username := .ofText _ (name.take MAX_ICE_CONFIG_USER_NAME_LEN)
    credential := .ofText _ (password.take MAX_ICE_CONFIG_CREDENTIAL_LEN)
    isTurn := true
    isSecure := decide (scheme = .turns)
    transport := transport }

theorem parseIceServer_turn (resolve : Bytes → DualKvsIpAddresses) {scheme : Scheme}
    (hs : scheme ≠ .stun) (rest : Bytes) {name password : Bytes} (hname : name ≠ [])
    (hpassword : password ≠ []) :
    parseIceServer resolve zeroedServer (scheme.text ++ rest) (some name) (some password) =
      storeAddress resolve (turnServer name password scheme (urlTransport (scheme.text ++ rest)))
        rest := by
  have hcopyName : strncpy zeroedServer.username name MAX_ICE_CONFIG_USER_NAME_LEN =
      some (.ofText _ (name.take MAX_ICE_CONFIG_USER_NAME_LEN)) := strncpy_zeroed (by decide)
  have hcopyPassword : strncpy zeroedServer.credential password MAX_ICE_CONFIG_CREDENTIAL_LEN =
      some (.ofText _ (password.take MAX_ICE_CONFIG_CREDENTIAL_LEN)) := strncpy_zeroed (by decide)
  cases scheme with
  | stun => exact absurd rfl hs
  | turn =>
    have hstun : hasPrefix ICE_URL_PREFIX_STUN (Scheme.turn.text ++ rest) = false := rfl
    have hturn : hasPrefix ICE_URL_PREFIX_TURN (Scheme.turn.text ++ rest) = true := rfl
    have hturns : hasPrefix ICE_URL_PREFIX_TURN_SECURE (Scheme.turn.text ++ rest) = false := by
      simp [hasPrefix, strncmpEq, ICE_URL_PREFIX_TURN_SECURE, Scheme.text, ascii]
    have hafter : afterColon (Scheme.turn.text ++ rest) = rest := rfl
    simp only [parseIceServer, hstun, hturn, hturns, hafter, Option.getD_some, hname, hpassword,
      hcopyName, hcopyPassword, Bool.false_eq_true, true_or, if_true, if_false]
    rfl
  | turns =>
    have hstun : hasPrefix ICE_URL_PREFIX_STUN (Scheme.turns.text ++ rest) = false := rfl
    have hturns : hasPrefix ICE_URL_PREFIX_TURN_SECURE (Scheme.turns.text ++ rest) = true := rfl
    have hafter : afterColon (Scheme.turns.text ++ rest) = rest := rfl
    simp only [parseIceServer, hstun, hturns, hafter, Option.getD_some, hname, hpassword,
      hcopyName, hcopyPassword, Bool.false_eq_true, or_true, if_true, if_false]
    rfl

theorem ServerUrl.parse_eq (u : ServerUrl) (r : Resolver) : ∃ server : IceServer,
    u.parse r = storeAddress r.resolve server u.rest ∧ server.url = .zeroed _ ∧
      server.username.Terminated ∧ server.credential.Terminated ∧
      server.isTurn = decide (u.scheme ≠ .stun) ∧ server.isSecure = decide (u.scheme = .turns) ∧
      server.transport = (u.transport.map Transport.protocol).getD .NONE := by
  by_cases hs : u.scheme = .stun
  · refine ⟨zeroedServer, ?_, rfl, by decide, by decide, by simp [hs, zeroedServer],
      by simp [hs, zeroedServer], by simp [u.stun_plain hs, zeroedServer]⟩
    rw [parse, text, hs]
    rfl
  · obtain ⟨⟨name, hname, hne⟩, password, hpassword, hpe⟩ := u.given hs
    refine ⟨turnServer name.chars password.chars u.scheme (urlTransport u.text), ?_, rfl,
      CharArray.terminated_ofText ?_, CharArray.terminated_ofText ?_, by simp [hs, turnServer], rfl,
      u.urlTransport_text⟩
    · rw [parse, hname, hpassword]
      exact parseIceServer_turn r.resolve hs u.rest hne hpe
    · exact Nat.lt_succ_of_le (List.length_take_le _ _)
    · exact Nat.lt_succ_of_le (List.length_take_le _ _)

section

variable {resolve : Bytes → DualKvsIpAddresses} {server : IceServer}

/-- The server with the text that is taken for the host. -/
def IceServer.at (server : IceServer) (resolve : Bytes → DualKvsIpAddresses) (host : Bytes)
    (port : UINT32) : IceServer :=
  { server with url := .ofText _ host, ipAddresses := (resolve host).setPorts port }

/-- **Without a colon** the text is taken for the host, up to the size of the array. -/
theorem storeAddress_noPort {rest : Bytes} (hz : server.url = .zeroed _) (hcolon : 58 ∉ rest)
    (hnul : ∀ c ∈ rest, c ≠ 0) :
    storeAddress resolve server rest =
      some ⟨none, server.at resolve (rest.take MAX_ICE_CONFIG_URI_LEN) ICE_STUN_DEFAULT_PORT⟩ := by
  have hnone : strnchr rest rest.length 58 = none := by
    rw [strnchr_eq_none, List.take_length]
    exact hcolon
  have htext : (CharArray.ofText (MAX_ICE_CONFIG_URI_LEN + 1)
      (rest.take MAX_ICE_CONFIG_URI_LEN)).text = rest.take MAX_ICE_CONFIG_URI_LEN :=
    CharArray.text_ofText (fun c hc => hnul c (List.mem_of_mem_take hc))
      (Nat.le_succ_of_le (List.length_take_le _ _))
  simp only [storeAddress, hnone, hz, strncpy_zeroed (Nat.le_succ MAX_ICE_CONFIG_URI_LEN), htext]
  rfl

theorem readPort_eq {host query : Bytes} {ds : List (Fin 10)} (hhost : 63 ∉ host) (hds : ds ≠ [])
    (hquery : query = [] ∨ ∃ t, query = 63 :: t) :
    readPort (host ++ 58 :: (digitText ds ++ query)) host.length =
      if decimal ds < 2 ^ 32 then .ok (BitVec.ofNat 32 (decimal ds)) else .error .NUMBER := by
  have hdigits := notMem_hostChars (x := 63) (digitText_hostChars ds) rfl
  have hlen : (digitText ds).length = ds.length := List.length_map _
  have hdrop : (host ++ 58 :: (digitText ds ++ query)).drop (host.length + 1) =
      digitText ds ++ query := by
    rw [List.drop_append, List.drop_eq_nil_of_le (by omega)]
    simp
  have hnot : (63 : UINT8) ∉ host ++ 58 :: digitText ds := by
    rw [List.mem_append, List.mem_cons, not_or, not_or]
    exact ⟨hhost, by decide, hdigits⟩
  have hstop : (strnchr (host ++ 58 :: (digitText ds ++ query))
      (host ++ 58 :: (digitText ds ++ query)).length 63).getD
        (host ++ 58 :: (digitText ds ++ query)).length = host.length + 1 + ds.length := by
    rcases hquery with rfl | ⟨t, rfl⟩
    · rw [List.append_nil, strnchr_eq_none.mpr (by rw [List.take_length]; exact hnot)]
      simp [hlen]
      omega
    · have hassoc : host ++ 58 :: (digitText ds ++ 63 :: t) =
          (host ++ 58 :: digitText ds) ++ 63 :: t := by simp
      rw [hassoc, strnchr_append hnot (by simp)]
      simp [hlen]
      omega
  unfold readPort
  simp only [hstop, hdrop]
  rw [if_neg (by omega), Nat.add_sub_cancel_left, strtoui32_digitText hds]
  by_cases hfit : decimal ds < 2 ^ 32
  · simp only [if_pos hfit]
  · simp only [if_neg hfit]

/-- **With a port** the host is copied whatever its length; a port of 32 bits is taken. -/
theorem storeAddress_port {host query : Bytes} {ds : List (Fin 10)} (hz : server.url = .zeroed _)
    (hhost : ∀ c ∈ host, isHostChar c) (hds : ds ≠ [])
    (hquery : query = [] ∨ ∃ t, query = 63 :: t) :
    storeAddress resolve server (host ++ 58 :: (digitText ds ++ query)) =
      if decimal ds < 2 ^ 32 then
        if host.length ≤ MAX_ICE_CONFIG_URI_LEN then
          some ⟨none, server.at resolve host (BitVec.ofNat 32 (decimal ds))⟩
        else none
      else some ⟨some .NUMBER, server⟩ := by
  have hcolon : strnchr (host ++ 58 :: (digitText ds ++ query))
      (host ++ 58 :: (digitText ds ++ query)).length 58 = some host.length :=
    strnchr_append (notMem_hostChars hhost rfl) (by simp)
  have hread := readPort_eq (notMem_hostChars hhost rfl) hds hquery
  by_cases hport : decimal ds < 2 ^ 32
  · rw [if_pos hport] at hread ⊢
    simp only [storeAddress, hcolon, hread, hz]
    by_cases hfit : host.length ≤ MAX_ICE_CONFIG_URI_LEN
    · have htake : (host ++ 58 :: (digitText ds ++ query)).take host.length = host :=
        List.take_left' rfl
      have htext : (CharArray.ofText (MAX_ICE_CONFIG_URI_LEN + 1) host).text = host :=
        CharArray.text_ofText (fun c hc h0 => notMem_hostChars hhost rfl (h0 ▸ hc))
          (Nat.le_succ_of_le hfit)
      rw [if_pos hfit, strncpy_zeroed (Nat.le_succ_of_le hfit), htake, Option.bind_some,
        CharArray.terminate_ofText (Nat.le_refl _) (Nat.lt_succ_of_le hfit)]
      simp only [htext]
      rfl
    · rw [if_neg hfit]
      cases hcopy : strncpy (CharArray.zeroed (MAX_ICE_CONFIG_URI_LEN + 1))
        (host ++ 58 :: (digitText ds ++ query)) host.length with
      | none => rfl
      | some url =>
        -- the NUL behind the host is outside the array
        have hout : url.terminate host.length = none := if_neg (by omega)
        rw [Option.bind_some, hout]
  · rw [if_neg hport] at hread ⊢
    simp only [storeAddress, hcolon, hread]

end

/-! ## The URLs that are parsed well -/

namespace ServerUrl

variable {u : ServerUrl} {r : Resolver}

/-- When the URL is parsed as it should be.  With a port the host fits and the port has 16 bits, or
more than 32; without one the default is the one of STUN, and nothing follows a host that does not
fill the array. -/
def Good (u : ServerUrl) : Prop :=
  match u.port with
  | some ds => 2 ^ 32 ≤ decimal ds ∨ decimal ds < 2 ^ 16 ∧ u.host.length ≤ MAX_ICE_CONFIG_URI_LEN
  | none => u.scheme ≠ .turns ∧ (u.host.length = MAX_ICE_CONFIG_URI_LEN ∨
      u.host.length < MAX_ICE_CONFIG_URI_LEN ∧ u.transport = none)

theorem query_eq_nil_iff : u.query = [] ↔ u.transport = none := by
  unfold query
  cases u.transport with
  | none => simp
  | some t => cases t <;> simp [Transport.text, ascii]

theorem query_cases : u.query = [] ∨ ∃ t, u.query = 63 :: t := by
  unfold query
  cases u.transport with
  | none => exact Or.inl rfl
  | some t => cases t <;> exact Or.inr ⟨_, rfl⟩

theorem colon_notMem_query : 58 ∉ u.query := by
  unfold query
  cases u.transport with
  | none => exact List.not_mem_nil
  | some t => cases t <;> decide

theorem parsedWell_success {server : IceServer} (h : u.parse r = some ⟨none, server⟩) :
    u.ParsedWell r ↔ server.Terminated ∧ u.Fits ∧ u.StoredIn r.resolve server := by
  unfold ParsedWell
  simp [h]

theorem setPorts_inj (host : Bytes) {p q : UINT32}
    (h : (r.resolve host).setPorts p = (r.resolve host).setPorts q) :
    p.truncate 16 = q.truncate 16 := by
  have hone {a : KvsIpAddress} (ha : a.family ≠ KVS_IP_FAMILY_TYPE_NOT_SET)
      (h : setPort a p = setPort a q) : p.truncate 16 = q.truncate 16 := by
    rw [setPort, setPort, if_pos ha, if_pos ha] at h
    exact congrArg KvsIpAddress.port h
  rcases r.found host with h4 | h6
  · exact hone h4 (congrArg DualKvsIpAddresses.ipv4Address h)
  · exact hone h6 (congrArg DualKvsIpAddresses.ipv6Address h)

theorem parsedWell_port {ds : List (Fin 10)} (hport : u.port = some ds) :
    u.ParsedWell r ↔
      2 ^ 32 ≤ decimal ds ∨ decimal ds < 2 ^ 16 ∧ u.host.length ≤ MAX_ICE_CONFIG_URI_LEN := by
  obtain ⟨server, hparse, hz, hname, hpassword, hturn, hsecure, htransport⟩ := u.parse_eq r
  have hds : ds ≠ [] := by
    rintro rfl
    exact u.port_ne hport
  have hnumber : u.portNumber = decimal ds := by simp [portNumber, hport]
  have hrest : u.rest = u.host ++ 58 :: (digitText ds ++ u.query) := by
    simp [rest, portText, hport]
  rw [hrest, storeAddress_port hz u.host_chars hds query_cases] at hparse
  by_cases h32 : decimal ds < 2 ^ 32
  · rw [if_pos h32] at hparse
    by_cases hfit : u.host.length ≤ MAX_ICE_CONFIG_URI_LEN
    · rw [if_pos hfit] at hparse
      rw [parsedWell_success hparse, Fits, hnumber]
      constructor
      · rintro ⟨_, ⟨_, h16⟩, _⟩
        exact Or.inr ⟨h16, hfit⟩
      · rintro (h | ⟨h16, _⟩)
        · omega
        · refine ⟨⟨CharArray.terminated_ofText (Nat.lt_succ_of_le hfit), hname, hpassword⟩,
            ⟨hfit, h16⟩, ⟨hturn, hsecure, ?_, htransport, by rw [hnumber]; rfl⟩⟩
          exact CharArray.text_ofText
            (fun c hc h0 => notMem_hostChars u.host_chars rfl (h0 ▸ hc)) (Nat.le_succ_of_le hfit)
    · rw [if_neg hfit] at hparse
      refine iff_of_false ?_ (by omega)
      rintro ⟨p, hp, _⟩
      rw [hparse] at hp
      cases hp
  · rw [if_neg h32] at hparse
    refine iff_of_true ⟨_, hparse, ⟨?_, hname, hpassword⟩, ?_, ?_⟩ (Or.inl (by omega))
    · rw [hz]
      decide
    · intro h
      cases h
    · rintro _ ⟨_, h16⟩
      rw [hnumber] at h16
      omega

theorem parsedWell_noPort (hport : u.port = none) :
    u.ParsedWell r ↔ u.scheme ≠ .turns ∧ (u.host.length = MAX_ICE_CONFIG_URI_LEN ∨
      u.host.length < MAX_ICE_CONFIG_URI_LEN ∧ u.transport = none) := by
  obtain ⟨server, hparse, hz, hname, hpassword, hturn, hsecure, htransport⟩ := u.parse_eq r
  have hnumber : u.portNumber = u.scheme.defaultPort := by simp [portNumber, hport]
  have hrest : u.rest = u.host ++ u.query := by simp [rest, portText, hport]
  have hcolon : 58 ∉ u.rest := by
    rw [hrest, List.mem_append, not_or]
    exact ⟨notMem_hostChars u.host_chars rfl, colon_notMem_query⟩
  rw [storeAddress_noPort hz hcolon u.rest_noNul] at hparse
  have htext : (CharArray.ofText (MAX_ICE_CONFIG_URI_LEN + 1)
      (u.rest.take MAX_ICE_CONFIG_URI_LEN)).text = u.rest.take MAX_ICE_CONFIG_URI_LEN :=
    CharArray.text_ofText (fun c hc => u.rest_noNul c (List.mem_of_mem_take hc))
      (Nat.le_succ_of_le (List.length_take_le _ _))
  have hterm : (server.at r.resolve (u.rest.take MAX_ICE_CONFIG_URI_LEN)
      ICE_STUN_DEFAULT_PORT).Terminated :=
    ⟨CharArray.terminated_ofText (Nat.lt_succ_of_le (List.length_take_le _ _)), hname, hpassword⟩
  have hcut : u.rest.take MAX_ICE_CONFIG_URI_LEN = u.host ↔
      u.host.length = MAX_ICE_CONFIG_URI_LEN ∨
        u.host.length < MAX_ICE_CONFIG_URI_LEN ∧ u.transport = none := by
    rw [hrest, ← query_eq_nil_iff]
    rcases Nat.lt_trichotomy u.host.length MAX_ICE_CONFIG_URI_LEN with hlt | heq | hgt
    · rw [List.take_append, List.take_of_length_le (Nat.le_of_lt hlt), List.append_right_eq_self,
        List.take_eq_nil_iff]
      simp [hlt, Nat.ne_of_lt hlt]
      omega
    · rw [← heq]
      simp
    · refine iff_of_false ?_ (by omega)
      intro h
      have hlen := congrArg List.length h
      rw [List.length_take] at hlen
      omega
  rw [parsedWell_success hparse, ← hcut]
  constructor
  · rintro ⟨_, _, hstored⟩
    have hurl := hstored.url
    rw [IceServer.at, htext] at hurl
    refine ⟨?_, hurl⟩
    intro hs
    have haddresses := hstored.addresses
    rw [IceServer.at, hurl, hnumber, hs] at haddresses
    exact absurd (setPorts_inj u.host haddresses) (by decide)
  · rintro ⟨hs, hurl⟩
    have hdefault : u.scheme.defaultPort = 3478 := by
      cases hscheme : u.scheme with
      | stun => rfl
      | turn => rfl
      | turns => exact absurd hscheme hs
    have hlen : u.host.length ≤ MAX_ICE_CONFIG_URI_LEN := by
      rw [← hurl]
      exact List.length_take_le _ _
    refine ⟨hterm, ⟨hlen, by rw [hnumber, hdefault]; decide⟩, hturn, hsecure, ?_, htransport, ?_⟩
    · rw [IceServer.at, htext, hurl]
    · rw [IceServer.at, hurl, hnumber, hdefault]
      rfl

end ServerUrl

/-- **The URLs that are parsed as they should be.** -/
theorem parse_server_url_iff (r : Resolver) (u : ServerUrl) : u.ParsedWell r ↔ u.Good := by
  unfold ServerUrl.Good
  cases hport : u.port with
  | some ds => exact ServerUrl.parsedWell_port hport
  | none => exact ServerUrl.parsedWell_noPort hport

/-- `turn:example.org?transport=udp`, without a port. -/
def queryOnly : ServerUrl where
  scheme := .turn
  host := ascii "example.org"
  port := none
  transport := some .udp
  username := some ⟨ascii "user", by decide⟩
  credential := some ⟨ascii "password", by decide⟩
  host_ne := by decide
  host_chars := by decide
  port_ne := by decide
  stun_plain := by decide
  given _ := ⟨⟨_, rfl, by decide⟩, _, rfl, by decide⟩

/-- Every name has the address `127.0.0.1`. -/
def loopback : Resolver where
  resolve _ := ⟨⟨KVS_IP_FAMILY_TYPE_IPV4, 0, 127 :: 0 :: 0 :: 1 :: List.replicate 12 0, by decide⟩,
    zeroAddress⟩
  found _ := Or.inl (by decide)

/-- The query is stored as a part of the host. -/
theorem query_stored_in_host :
    (queryOnly.parse loopback).map (fun p => (p.status, p.server.url.text)) =
        some (none, ascii "example.org?transport=udp") ∧
      ¬ queryOnly.ParsedWell loopback := by
  have hstored : (queryOnly.parse loopback).map (fun p => (p.status, p.server.url.text)) =
      some (none, ascii "example.org?transport=udp") := by decide +kernel
  refine ⟨hstored, ?_⟩
  rintro ⟨p, hp, _, hok, _⟩
  rw [hp] at hstored
  obtain ⟨hstatus, hurl⟩ := Prod.mk.inj (Option.some.inj hstored)
  have hhost := (hok hstatus).2.url
  rw [hurl] at hhost
  revert hhost
  decide

end KvsWebrtc.Ice.Url
