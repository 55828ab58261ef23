import KvsWebrtc.Stun.Append
import KvsWebrtc.Stun.Authentication
import Mathlib.Data.List.ReduceOption

/-!
# The nonce of a TURN connection (`turnConnectionHandleStunError`)

An error response 401 or 438 brings a new nonce.  The handler stores it, for 401 looks for a realm,
and then writes it into the packets that were created before, one after the other.

Principal results:

* `all_carry_iff`, `updatePackets_eq_iff` — what the run over the packets leaves;
* `nonce_update_atomic_iff` — after every response the packets carry the nonce of the connection or
  nothing has changed, exactly when the new nonce has the length of the old one in every packet and
  the realm is there, or nothing new was brought.
-/

namespace KvsWebrtc.Turn

open Stun

abbrev STUN_ERROR_UNAUTHORIZED : UINT16 := 401
abbrev STUN_ERROR_STALE_NONCE : UINT16 := 438

def STUN_PACKET_IS_TYPE_ERROR (p : Bytes) : Bool :=
  [0x0111, 0x0112, 0x0113, 0x0114, 0x0118, 0x0119].contains (getUnalignedInt16BigEndian p 0)

/-! ## The nonce attribute of a packet -/

/-- The first attribute of the type. -/
def getStunAttribute (attributes : List StunAttribute) (attributeType : UINT16) :
    Option StunAttribute :=
  attributes.find? (·.type = attributeType)

/-- The `paddedLength` bytes behind the structure of a nonce or a realm. -/
def paddedBytes (a : StunAttribute) : Bytes :=
  match a.value with
  | .padded data => data
  | _ => []

/-- The first `length` of them. -/
def attributeBytes (a : StunAttribute) : Bytes := (paddedBytes a).take a.length.toNat

def errorCodeOf (a : StunAttribute) : UINT16 :=
  match a.value with
  | .errorCode errorCode _ => errorCode
  | _ => 0

/-- `MEMCPY(pAttribute->nonce, nonce, nonceLen)`. -/
def copyNonce (nonce : Bytes) (nonceLen : UINT16) (a : StunAttribute) : StunAttribute :=
  { a with
    value := .padded (nonce.take nonceLen.toNat ++ (paddedBytes a).drop nonceLen.toNat) }

/-- The first nonce attribute of the list is changed. -/
def modifyNonce (f : StunAttribute → StunAttribute) : List StunAttribute → List StunAttribute
  | [] => []
  | a :: as => if a.type = STUN_ATTRIBUTE_TYPE_NONCE then f a :: as else a :: modifyNonce f as

def updateStunNonceAttribute (p : StunPacket) (nonce : Bytes) (nonceLen : UINT16) :
    Except STATUS StunPacket :=
  match getStunAttribute p.attributeList STUN_ATTRIBUTE_TYPE_NONCE with
  | none => .ok p
  | some a =>
    if a.length = nonceLen then
      .ok { p with attributeList := modifyNonce (copyNonce nonce nonceLen) p.attributeList }
    else .error .INVALID_ARG

/-! ## The handler -/

/-- The fields of a TURN connection that the error handler reads and writes.  Of `turnRealm` it is
the characters in front of its end. -/
structure TurnCredentials where
  turnRealm : Bytes
  turnNonce : Bytes
  nonceLen : UINT16
  longTermKey : Bytes
  credentialObtained : Bool
  deallocatePacketSent : Bool
  hasAllocation : Bool
  pTurnPacket : Option StunPacket
  pTurnAllocationRefreshPacket : Option StunPacket
  pTurnChannelBindPacket : Option StunPacket
  pTurnCreatePermissionPacket : Option StunPacket
  length_turnNonce : turnNonce.length = STUN_MAX_NONCE_LEN

/-- The packets that were created, in the order in which they are updated. -/
def TurnCredentials.packets (c : TurnCredentials) : List (Option StunPacket) :=
  [c.pTurnPacket, c.pTurnAllocationRefreshPacket, c.pTurnChannelBindPacket,
    c.pTurnCreatePermissionPacket]

/-- A packet, if there is one. -/
def updateNonce (p : Option StunPacket) (nonce : Bytes) (nonceLen : UINT16) :
    Except STATUS (Option StunPacket) :=
  match p with
  | none => .ok none
  | some p => (updateStunNonceAttribute p nonce nonceLen).map some

def turnConnectionUpdateNonce (c : TurnCredentials) : TurnCredentials × Option STATUS :=
  match updateNonce c.pTurnPacket c.turnNonce c.nonceLen with
  | .error e => (c, some e)
  | .ok p =>
    let c := { c with pTurnPacket := p }
    match updateNonce c.pTurnAllocationRefreshPacket c.turnNonce c.nonceLen with
    | .error e => (c, some e)
    | .ok p =>
      let c := { c with pTurnAllocationRefreshPacket := p }
      match updateNonce c.pTurnChannelBindPacket c.turnNonce c.nonceLen with
      | .error e => (c, some e)
      | .ok p =>
        let c := { c with pTurnChannelBindPacket := p }
        match updateNonce c.pTurnCreatePermissionPacket c.turnNonce c.nonceLen with
        | .error e => (c, some e)
        | .ok p => ({ c with pTurnCreatePermissionPacket := p }, none)

/-- The nonce of an attribute becomes that of the connection. -/
def TurnCredentials.storeNonce (c : TurnCredentials) (a : StunAttribute) : TurnCredentials :=
  { c with
    nonceLen := a.length
    turnNonce := (attributeBytes a ++ c.turnNonce.drop (attributeBytes a).length).take
      STUN_MAX_NONCE_LEN
    length_turnNonce := by
      rw [List.length_take, List.length_append, List.length_drop, c.length_turnNonce]
      omega }

section

variable (hmac : Bytes → Bytes → Bytes) (crc32 : Bytes → UINT32)

/-- The response as the handler reads it: with the key of the connection, or else without one. -/
def readResponse (c : TurnCredentials) (pBuffer : Bytes) : Except Failure ParsedPacket :=
  if c.credentialObtained then
    match deserializeStunPacket hmac crc32 pBuffer (some c.longTermKey) with
    | .ok p => .ok p
    | .error _ => deserializeStunPacket hmac crc32 pBuffer none
  else deserializeStunPacket hmac crc32 pBuffer none

/-- Other error codes mark a peer as failed and leave these fields as they are.  No error code, no
nonce or one that is too long, and no realm or one that is too long end the handler with success. -/
def turnConnectionHandleStunError (c : TurnCredentials) (pBuffer : Bytes) :
    TurnCredentials × Option Failure :=
  if !STUN_PACKET_IS_TYPE_ERROR pBuffer then (c, none)
  else if c.deallocatePacketSent then ({ c with hasAllocation := false }, none)
  else match readResponse hmac crc32 c pBuffer with
    | .error e => (c, some e)
    | .ok pStunPacket =>
      match getStunAttribute pStunPacket.attributeList STUN_ATTRIBUTE_TYPE_ERROR_CODE with
      | none => (c, none)
      | some pStunAttributeErrorCode =>
        let errorCode := errorCodeOf pStunAttributeErrorCode
        if errorCode = STUN_ERROR_UNAUTHORIZED then
          match getStunAttribute pStunPacket.attributeList STUN_ATTRIBUTE_TYPE_NONCE with
          | none => (c, none)
          | some pStunAttributeNonce =>
            if STUN_MAX_NONCE_LEN < pStunAttributeNonce.length.toNat then (c, none)
            else
              let c := c.storeNonce pStunAttributeNonce
              match getStunAttribute pStunPacket.attributeList STUN_ATTRIBUTE_TYPE_REALM with
              | none => (c, none)
              | some pStunAttributeRealm =>
                if STUN_MAX_REALM_LEN < pStunAttributeRealm.length.toNat then (c, none)
                else
                  let c := { c with
                    turnRealm := (attributeBytes pStunAttributeRealm).takeWhile (· ≠ 0)
                    credentialObtained := true }
                  let (c, status) := turnConnectionUpdateNonce c
                  (c, status.map .status)
        else if errorCode = STUN_ERROR_STALE_NONCE then
          match getStunAttribute pStunPacket.attributeList STUN_ATTRIBUTE_TYPE_NONCE with
          | none => (c, none)
          | some pStunAttributeNonce =>
            if STUN_MAX_NONCE_LEN < pStunAttributeNonce.length.toNat then (c, none)
            else
              let (c, status) := turnConnectionUpdateNonce (c.storeNonce pStunAttributeNonce)
              (c, status.map .status)
        else (c, none)

end

/-! ## One packet -/

/-- The bytes of a nonce attribute have room for as many as it says. -/
def NonceFormed (p : StunPacket) : Prop :=
  ∀ a, getStunAttribute p.attributeList STUN_ATTRIBUTE_TYPE_NONCE = some a →
    a.value = .padded (paddedBytes a) ∧ a.length.toNat ≤ (paddedBytes a).length

/-- The nonce attribute, if there is one, has the length. -/
def FitsNonce (nonceLen : UINT16) (p : StunPacket) : Prop :=
  ∀ a, getStunAttribute p.attributeList STUN_ATTRIBUTE_TYPE_NONCE = some a → a.length = nonceLen

/-- The nonce attribute, if there is one, is exactly the first `nonceLen` bytes of the nonce. -/
def CarriesNonce (nonce : Bytes) (nonceLen : UINT16) (p : StunPacket) : Prop :=
  ∀ a, getStunAttribute p.attributeList STUN_ATTRIBUTE_TYPE_NONCE = some a →
    a.length = nonceLen ∧ attributeBytes a = nonce.take nonceLen.toNat

theorem find_modifyNonce (f : StunAttribute → StunAttribute)
    (hf : ∀ a, (f a).type = a.type) (attributes : List StunAttribute) :
    getStunAttribute (modifyNonce f attributes) STUN_ATTRIBUTE_TYPE_NONCE =
      (getStunAttribute attributes STUN_ATTRIBUTE_TYPE_NONCE).map f := by
  induction attributes with
  | nil => rfl
  | cons a as ih =>
    unfold getStunAttribute at ih ⊢
    rw [modifyNonce]
    by_cases htype : a.type = STUN_ATTRIBUTE_TYPE_NONCE
    · rw [if_pos htype, List.find?_cons_of_pos (by simp [hf, htype]),
        List.find?_cons_of_pos (by simp [htype])]
      rfl
    · rw [if_neg htype, List.find?_cons_of_neg (by simpa using htype),
        List.find?_cons_of_neg (by simpa using htype), ih]

theorem modifyNonce_eq_iff (f : StunAttribute → StunAttribute) (attributes : List StunAttribute) :
    modifyNonce f attributes = attributes ↔
      ∀ a, getStunAttribute attributes STUN_ATTRIBUTE_TYPE_NONCE = some a → f a = a := by
  induction attributes with
  | nil => simp [modifyNonce, getStunAttribute]
  | cons a as ih =>
    unfold getStunAttribute at ih ⊢
    rw [modifyNonce]
    by_cases htype : a.type = STUN_ATTRIBUTE_TYPE_NONCE
    · rw [if_pos htype, List.find?_cons_of_pos (by simp [htype])]
      simp
    · rw [if_neg htype, List.find?_cons_of_neg (by simpa using htype), List.cons_inj_right, ih]

section OnePacket

variable {nonce : Bytes} {nonceLen : UINT16} {p : StunPacket}

theorem updateNonce_of_fits (h : FitsNonce nonceLen p) :
    updateStunNonceAttribute p nonce nonceLen = .ok { p with
      attributeList := modifyNonce (copyNonce nonce nonceLen) p.attributeList } := by
  unfold updateStunNonceAttribute
  cases ha : getStunAttribute p.attributeList STUN_ATTRIBUTE_TYPE_NONCE with
  | none =>
    have hsame : modifyNonce (copyNonce nonce nonceLen) p.attributeList = p.attributeList := by
      rw [modifyNonce_eq_iff, ha]
      simp
    rw [hsame]
  | some a => exact if_pos (h a ha)

theorem updateNonce_of_not_fits (h : ¬FitsNonce nonceLen p) :
    updateStunNonceAttribute p nonce nonceLen = .error .INVALID_ARG := by
  unfold FitsNonce at h
  push Not at h
  obtain ⟨a, ha, hlength⟩ := h
  unfold updateStunNonceAttribute
  rw [ha]
  exact if_neg hlength

theorem carries_modified (hlen : nonceLen.toNat ≤ nonce.length) (h : FitsNonce nonceLen p) :
    CarriesNonce nonce nonceLen { p with
      attributeList := modifyNonce (copyNonce nonce nonceLen) p.attributeList } := by
  intro a ha
  change getStunAttribute (modifyNonce _ _) _ = _ at ha
  rw [find_modifyNonce (copyNonce nonce nonceLen) (fun _ => rfl), Option.map_eq_some_iff] at ha
  obtain ⟨b, hb, rfl⟩ := ha
  have hlength := h b hb
  refine ⟨hlength, ?_⟩
  change List.take b.length.toNat (_ ++ _) = _
  rw [hlength, List.take_append_of_le_length (by rw [List.length_take]; omega),
    List.take_take, Nat.min_self]

theorem modified_eq_iff (hlen : nonceLen.toNat ≤ nonce.length) (hformed : NonceFormed p)
    (h : FitsNonce nonceLen p) :
    { p with attributeList := modifyNonce (copyNonce nonce nonceLen) p.attributeList } = p ↔
      CarriesNonce nonce nonceLen p := by
  constructor
  · intro heq
    rw [← heq]
    exact carries_modified hlen h
  · intro hcarries
    have hsame : modifyNonce (copyNonce nonce nonceLen) p.attributeList = p.attributeList := by
      rw [modifyNonce_eq_iff]
      intro a ha
      obtain ⟨hvalue, hroom⟩ := hformed a ha
      obtain ⟨hlength, hbytes⟩ := hcarries a ha
      unfold copyNonce
      rw [← hbytes, attributeBytes, ← hlength, List.take_append_drop, ← hvalue]
    rw [hsame]

end OnePacket

/-! ## All packets -/

/-- The packets behind one that is refused are not looked at. -/
def updatePackets (nonce : Bytes) (nonceLen : UINT16) : List (Option StunPacket) →
    List (Option StunPacket)
  | [] => []
  | p :: ps =>
    match updateNonce p nonce nonceLen with
    | .error _ => p :: ps
    | .ok p' => p' :: updatePackets nonce nonceLen ps

theorem packets_updateNonce (c : TurnCredentials) :
    (turnConnectionUpdateNonce c).1.packets = updatePackets c.turnNonce c.nonceLen c.packets ∧
      (turnConnectionUpdateNonce c).1.turnNonce = c.turnNonce ∧
      (turnConnectionUpdateNonce c).1.nonceLen = c.nonceLen := by
  unfold turnConnectionUpdateNonce TurnCredentials.packets
  simp only [updatePackets]
  cases updateNonce c.pTurnPacket c.turnNonce c.nonceLen with
  | error e => exact ⟨rfl, rfl, rfl⟩
  | ok p1 =>
    cases updateNonce c.pTurnAllocationRefreshPacket c.turnNonce c.nonceLen with
    | error e => exact ⟨rfl, rfl, rfl⟩
    | ok p2 =>
      cases updateNonce c.pTurnChannelBindPacket c.turnNonce c.nonceLen with
      | error e => exact ⟨rfl, rfl, rfl⟩
      | ok p3 =>
        cases updateNonce c.pTurnCreatePermissionPacket c.turnNonce c.nonceLen with
        | error e => exact ⟨rfl, rfl, rfl⟩
        | ok p4 => exact ⟨rfl, rfl, rfl⟩

/-- Every packet carries the nonce. -/
def AllCarry (nonce : Bytes) (nonceLen : UINT16) (packets : List (Option StunPacket)) : Prop :=
  ∀ p ∈ packets.reduceOption, CarriesNonce nonce nonceLen p

/-- The nonce has the same length in every packet. -/
def AllFit (nonceLen : UINT16) (packets : List (Option StunPacket)) : Prop :=
  ∀ p ∈ packets.reduceOption, FitsNonce nonceLen p

/-- Every packet in front of the first that is refused carries the nonce. -/
def CarriedUntilRefused (nonce : Bytes) (nonceLen : UINT16) : List (Option StunPacket) → Prop
  | [] => True
  | none :: ps => CarriedUntilRefused nonce nonceLen ps
  | some p :: ps => FitsNonce nonceLen p →
    CarriesNonce nonce nonceLen p ∧ CarriedUntilRefused nonce nonceLen ps

section AllPackets

variable {nonce : Bytes} {nonceLen : UINT16}

/-- **After the run** every packet carries the nonce exactly when its length was right in each. -/
theorem all_carry_iff (hlen : nonceLen.toNat ≤ nonce.length) (packets : List (Option StunPacket)) :
    AllCarry nonce nonceLen (updatePackets nonce nonceLen packets) ↔ AllFit nonceLen packets := by
  induction packets with
  | nil => simp [AllCarry, AllFit, updatePackets]
  | cons p ps ih =>
    unfold AllCarry AllFit at ih ⊢
    cases p with
    | none => exact ih
    | some p =>
      by_cases hfits : FitsNonce nonceLen p
      · have hhead := carries_modified hlen hfits
        simp only [updatePackets, updateNonce, updateNonce_of_fits hfits, Except.map,
          List.reduceOption_cons_of_some, List.forall_mem_cons, ih]
        exact and_congr ⟨fun _ => hfits, fun _ => hhead⟩ Iff.rfl
      · simp only [updatePackets, updateNonce, updateNonce_of_not_fits hfits, Except.map,
          List.reduceOption_cons_of_some, List.forall_mem_cons]
        constructor
        · rintro ⟨hcarries, -⟩
          exact absurd (fun a ha => (hcarries a ha).1) hfits
        · rintro ⟨h, -⟩
          exact absurd h hfits

/-- **The run changes nothing** exactly when the packets it comes to carry the nonce already. -/
theorem updatePackets_eq_iff (hlen : nonceLen.toNat ≤ nonce.length)
    {packets : List (Option StunPacket)} (hformed : ∀ p ∈ packets.reduceOption, NonceFormed p) :
    updatePackets nonce nonceLen packets = packets ↔
      CarriedUntilRefused nonce nonceLen packets := by
  induction packets with
  | nil => simp [updatePackets, CarriedUntilRefused]
  | cons p ps ih =>
    cases p with
    | none =>
      rw [List.reduceOption_cons_of_none] at hformed
      simp only [updatePackets, updateNonce, CarriedUntilRefused, List.cons_inj_right, ih hformed]
    | some p =>
      rw [List.reduceOption_cons_of_some, List.forall_mem_cons] at hformed
      by_cases hfits : FitsNonce nonceLen p
      · simp only [updatePackets, updateNonce, updateNonce_of_fits hfits, Except.map,
          CarriedUntilRefused, List.cons.injEq, Option.some.injEq,
          modified_eq_iff hlen hformed.1 hfits, ih hformed.2, hfits, forall_const]
      · simp [updatePackets, updateNonce, updateNonce_of_not_fits hfits, Except.map,
          CarriedUntilRefused, hfits]

end AllPackets

/-! ## The response -/

section Parsed

variable {hmac : Bytes → Bytes → Bytes} {crc32 : Bytes → UINT32} {buf : Bytes}
  {password : Option Bytes}

theorem exists_offset {transactionId : Bytes} {os : List Nat} {es : List (Nat × StunAttribute)}
    (h : List.Forall₂ (Entry hmac crc32 buf password transactionId) os es)
    {e : Nat × StunAttribute} (he : e ∈ es) :
    ∃ o, Entry hmac crc32 buf password transactionId o e := by
  induction h with
  | nil => cases he
  | cons hentry _ ih =>
    rcases List.mem_cons.mp he with rfl | he
    · exact ⟨_, hentry⟩
    · exact ih he

theorem length_parsedNonce {p : ParsedPacket} {a : StunAttribute}
    (hparse : deserializeStunPacket hmac crc32 buf password = .ok p)
    (ha : getStunAttribute p.attributeList STUN_ATTRIBUTE_TYPE_NONCE = some a)
    (hlength : a.length.toNat ≤ STUN_MAX_NONCE_LEN) :
    (attributeBytes a).length = a.length.toNat := by
  have hmem := List.mem_of_find?_eq_some ha
  have htype : a.type = STUN_ATTRIBUTE_TYPE_NONCE := by simpa using List.find?_some ha
  obtain ⟨-, -, s, -, es, hes, rfl⟩ := (deserializeStunPacket_ok_iff _ _ _ _ _).mp hparse
  obtain ⟨e, he, rfl⟩ := List.mem_map.mp hmem
  obtain ⟨o, -, -, -, -, hvalue⟩ := exists_offset hes (mem_settleEntries he)
  have hmax : STUN_MAX_NONCE_LEN = 128 := rfl
  have hpadded : (paddedLengthOf e.2.length).toNat = _ := ROUND_UP_of_le (by omega)
  have hup := le_ROUND_UP e.2.length.toNat
  rw [htype] at hvalue
  change (readBytes _ _ _ >>= fun b => pure (AttributeValue.padded b)) = _ at hvalue
  obtain ⟨bytes, hbytes, hpure⟩ := bind_ok_iff.mp hvalue
  unfold readBytes at hbytes
  split at hbytes
  · rename_i hroom
    cases hbytes
    have hbytesOf : paddedBytes e.2 = (buf.drop (o + STUN_ATTRIBUTE_HEADER_LEN)).take
        (paddedLengthOf e.2.length).toNat := by
      rw [paddedBytes, ← Except.ok.inj hpure]
    rw [attributeBytes, hbytesOf, List.length_take, List.length_take, List.length_drop]
    omega
  · cases hbytes

end Parsed

section

variable (hmac : Bytes → Bytes → Bytes) (crc32 : Bytes → UINT32)

/-- For 401 the handler goes on to the packets only with a realm. -/
def hasRealm (p : ParsedPacket) : Bool :=
  match getStunAttribute p.attributeList STUN_ATTRIBUTE_TYPE_REALM with
  | none => false
  | some a => a.length.toNat ≤ STUN_MAX_REALM_LEN

/-- The nonce that a response brings, and whether the handler goes on to the packets. -/
def takenNonce (c : TurnCredentials) (pBuffer : Bytes) : Option (StunAttribute × Bool) :=
  if !STUN_PACKET_IS_TYPE_ERROR pBuffer || c.deallocatePacketSent then none
  else match readResponse hmac crc32 c pBuffer with
    | .error _ => none
    | .ok p =>
      match getStunAttribute p.attributeList STUN_ATTRIBUTE_TYPE_ERROR_CODE,
          getStunAttribute p.attributeList STUN_ATTRIBUTE_TYPE_NONCE with
      | some e, some a =>
        if STUN_MAX_NONCE_LEN < a.length.toNat then none
        else if errorCodeOf e = STUN_ERROR_UNAUTHORIZED then some (a, hasRealm p)
        else if errorCodeOf e = STUN_ERROR_STALE_NONCE then some (a, true)
        else none
      | _, _ => none

variable {hmac crc32} {c : TurnCredentials} {pBuffer : Bytes}

theorem takenNonce_length {a : StunAttribute} {updates : Bool}
    (h : takenNonce hmac crc32 c pBuffer = some (a, updates)) :
    a.length.toNat ≤ STUN_MAX_NONCE_LEN ∧ (attributeBytes a).length = a.length.toNat := by
  unfold takenNonce at h
  split at h
  · cases h
  · split at h
    · cases h
    · rename_i p hread
      split at h
      · rename_i e a' _ ha
        split at h
        · cases h
        · rename_i hroom
          have hparse : ∃ password, deserializeStunPacket hmac crc32 pBuffer password = .ok p := by
            unfold readResponse at hread
            split at hread
            · split at hread
              · rename_i hkey
                cases hread
                exact ⟨_, hkey⟩
              · exact ⟨_, hread⟩
            · exact ⟨_, hread⟩
          obtain ⟨password, hparse⟩ := hparse
          obtain rfl : a' = a := by
            by_cases h401 : errorCodeOf e = STUN_ERROR_UNAUTHORIZED
            · rw [if_pos h401] at h
              exact (Prod.mk.inj (Option.some.inj h)).1
            · rw [if_neg h401] at h
              by_cases h438 : errorCodeOf e = STUN_ERROR_STALE_NONCE
              · rw [if_pos h438] at h
                exact (Prod.mk.inj (Option.some.inj h)).1
              · rw [if_neg h438] at h
                cases h
          exact ⟨by omega, length_parsedNonce hparse ha (by omega)⟩
      · cases h

/-- The fields the response can change: the nonce and the packets. -/
def TurnCredentials.nonceState (c : TurnCredentials) : Bytes × UINT16 × List (Option StunPacket) :=
  (c.turnNonce, c.nonceLen, c.packets)

theorem nonceState_updateNonce (c : TurnCredentials) :
    (turnConnectionUpdateNonce c).1.nonceState =
      (c.turnNonce, c.nonceLen, updatePackets c.turnNonce c.nonceLen c.packets) := by
  obtain ⟨hpackets, hnonce, hlen⟩ := packets_updateNonce c
  unfold TurnCredentials.nonceState
  rw [hpackets, hnonce, hlen]

/-- **What the handler does** to the nonce and the packets. -/
theorem nonceState_handleStunError :
    (turnConnectionHandleStunError hmac crc32 c pBuffer).1.nonceState =
      match takenNonce hmac crc32 c pBuffer with
      | none => c.nonceState
      | some (a, updates) =>
        ((c.storeNonce a).turnNonce, a.length,
          if updates then updatePackets (c.storeNonce a).turnNonce a.length c.packets
          else c.packets) := by
  unfold turnConnectionHandleStunError takenNonce
  by_cases htype : STUN_PACKET_IS_TYPE_ERROR pBuffer
  · rw [if_neg (by simp [htype])]
    by_cases hdeallocate : c.deallocatePacketSent
    · rw [if_pos hdeallocate, if_pos (by simp [hdeallocate])]
      rfl
    · rw [if_neg hdeallocate, if_neg (by simp [htype, hdeallocate])]
      cases readResponse hmac crc32 c pBuffer with
      | error e => rfl
      | ok p =>
        dsimp only
        cases getStunAttribute p.attributeList STUN_ATTRIBUTE_TYPE_ERROR_CODE with
        | none => rfl
        | some e =>
          dsimp only
          cases getStunAttribute p.attributeList STUN_ATTRIBUTE_TYPE_NONCE with
          | none =>
            split
            · rfl
            · split <;> rfl
          | some a =>
            by_cases hlong : STUN_MAX_NONCE_LEN < a.length.toNat
            · simp only [if_pos hlong]
              split
              · rfl
              · split <;> rfl
            · simp only [if_neg hlong]
              by_cases h401 : errorCodeOf e = STUN_ERROR_UNAUTHORIZED
              · rw [if_pos h401, if_pos h401]
                unfold hasRealm
                cases getStunAttribute p.attributeList STUN_ATTRIBUTE_TYPE_REALM with
                | none => rfl
                | some r =>
                  dsimp only
                  by_cases hrealm : STUN_MAX_REALM_LEN < r.length.toNat
                  · rw [if_pos hrealm, if_neg (by simp; omega)]
                    rfl
                  · rw [if_neg hrealm, if_pos (by simp; omega)]
                    exact nonceState_updateNonce _
              · rw [if_neg h401, if_neg h401]
                by_cases h438 : errorCodeOf e = STUN_ERROR_STALE_NONCE
                · rw [if_pos h438, if_pos h438]
                  exact nonceState_updateNonce _
                · rw [if_neg h438, if_neg h438]
  · rw [if_pos (by simp [htype]), if_pos (by simp [htype])]

/-- The nonce of the attribute is the one the connection has. -/
def SameNonce (c : TurnCredentials) (a : StunAttribute) : Prop :=
  a.length = c.nonceLen ∧ attributeBytes a = c.turnNonce.take c.nonceLen.toNat

/-- Afterwards the packets carry the nonce of the connection, or nonce and packets are what they
were. -/
def NonceAtomic (c c' : TurnCredentials) : Prop :=
  AllCarry c'.turnNonce c'.nonceLen c'.packets ∨ c'.nonceState = c.nonceState

section Taken

variable {a : StunAttribute} (hmax : a.length.toNat ≤ STUN_MAX_NONCE_LEN)
  (hbytes : (attributeBytes a).length = a.length.toNat)

include hmax hbytes

theorem storeNonce_eq : (c.storeNonce a).turnNonce =
    attributeBytes a ++ c.turnNonce.drop a.length.toNat := by
  change List.take STUN_MAX_NONCE_LEN (_ ++ c.turnNonce.drop (attributeBytes a).length) = _
  rw [hbytes]
  apply List.take_of_length_le
  rw [List.length_append, List.length_drop, c.length_turnNonce]
  omega

theorem take_storeNonce : (c.storeNonce a).turnNonce.take a.length.toNat = attributeBytes a := by
  rw [storeNonce_eq hmax hbytes, ← hbytes, List.take_left' rfl]

theorem storeNonce_same_iff : ((c.storeNonce a).turnNonce = c.turnNonce ∧ a.length = c.nonceLen) ↔
    SameNonce c a := by
  constructor
  · rintro ⟨hnonce, hlen⟩
    refine ⟨hlen, ?_⟩
    rw [← hlen, ← hnonce, take_storeNonce hmax hbytes]
  · rintro ⟨hlen, hsame⟩
    refine ⟨?_, hlen⟩
    rw [storeNonce_eq hmax hbytes, hsame, ← hlen, List.take_append_drop]

omit hbytes in
theorem room_storeNonce : a.length.toNat ≤ (c.storeNonce a).turnNonce.length := by
  rw [(c.storeNonce a).length_turnNonce]
  exact hmax

/-- The packets behind the handler when it has taken the nonce. -/
def packetsBehind (c : TurnCredentials) (a : StunAttribute) (updates : Bool) :
    List (Option StunPacket) :=
  if updates then updatePackets (c.storeNonce a).turnNonce a.length c.packets else c.packets

theorem atomic_of_taken {updates : Bool}
    (htaken : takenNonce hmac crc32 c pBuffer = some (a, updates)) :
    NonceAtomic c (turnConnectionHandleStunError hmac crc32 c pBuffer).1 ↔
      AllCarry (c.storeNonce a).turnNonce a.length (packetsBehind c a updates) ∨
        (SameNonce c a ∧ packetsBehind c a updates = c.packets) := by
  have hstate : (turnConnectionHandleStunError hmac crc32 c pBuffer).1.nonceState =
      ((c.storeNonce a).turnNonce, a.length, packetsBehind c a updates) := by
    rw [nonceState_handleStunError, htaken]
    rfl
  unfold NonceAtomic
  rw [hstate]
  obtain ⟨hnonce, hlen, hpackets⟩ : _ ∧ _ ∧ _ :=
    ⟨congrArg Prod.fst hstate, congrArg (·.2.1) hstate, congrArg (·.2.2) hstate⟩
  refine or_congr ?_ ?_
  · change AllCarry (TurnCredentials.nonceState _).1 (TurnCredentials.nonceState _).2.1
      (TurnCredentials.nonceState _).2.2 ↔ _
    rw [hnonce, hlen, hpackets]
  · unfold TurnCredentials.nonceState
    rw [Prod.mk.injEq, Prod.mk.injEq, ← and_assoc, storeNonce_same_iff hmax hbytes]

theorem atomic_of_updates (hformed : ∀ p ∈ c.packets.reduceOption, NonceFormed p)
    (htaken : takenNonce hmac crc32 c pBuffer = some (a, true)) :
    NonceAtomic c (turnConnectionHandleStunError hmac crc32 c pBuffer).1 ↔
      AllFit a.length c.packets ∨
        (SameNonce c a ∧ CarriedUntilRefused c.turnNonce c.nonceLen c.packets) := by
  have hroom := room_storeNonce (c := c) hmax
  rw [atomic_of_taken hmax hbytes htaken, packetsBehind, if_pos rfl, all_carry_iff hroom]
  refine or_congr Iff.rfl (and_congr_right fun hsame => ?_)
  obtain ⟨hnonce, hlen⟩ := (storeNonce_same_iff hmax hbytes).mpr hsame
  rw [updatePackets_eq_iff hroom hformed, hnonce, hlen]

theorem atomic_of_stops (htaken : takenNonce hmac crc32 c pBuffer = some (a, false)) :
    NonceAtomic c (turnConnectionHandleStunError hmac crc32 c pBuffer).1 ↔
      AllCarry (attributeBytes a) a.length c.packets ∨ SameNonce c a := by
  rw [atomic_of_taken hmax hbytes htaken, packetsBehind, if_neg (by decide), and_iff_left rfl]
  unfold AllCarry CarriesNonce
  rw [take_storeNonce hmax hbytes, ← hbytes, List.take_length]

end Taken

end

/-- The response leaves the nonce alone; or it goes on to the packets and its nonce has the right
length in all of them, or is the old one and comes only to packets that carry it; or it stops in
front of them and its nonce is the one they carry, or the old one. -/
def NonceHarmless (hmac : Bytes → Bytes → Bytes) (crc32 : Bytes → UINT32) (c : TurnCredentials)
    (pBuffer : Bytes) : Prop :=
  match takenNonce hmac crc32 c pBuffer with
  | none => True
  | some (a, true) => AllFit a.length c.packets ∨
      (SameNonce c a ∧ CarriedUntilRefused c.turnNonce c.nonceLen c.packets)
  | some (a, false) => AllCarry (attributeBytes a) a.length c.packets ∨ SameNonce c a

/-- **The nonce is updated atomically exactly when the response is harmless.** -/
theorem nonce_update_atomic_iff (hmac : Bytes → Bytes → Bytes) (crc32 : Bytes → UINT32)
    (c : TurnCredentials) (pBuffer : Bytes)
    (hformed : ∀ p ∈ c.packets.reduceOption, NonceFormed p) :
    NonceAtomic c (turnConnectionHandleStunError hmac crc32 c pBuffer).1 ↔
      NonceHarmless hmac crc32 c pBuffer := by
  unfold NonceHarmless
  cases htaken : takenNonce hmac crc32 c pBuffer with
  | none =>
    refine iff_of_true (.inr ?_) trivial
    rw [nonceState_handleStunError, htaken]
  | some r =>
    obtain ⟨a, updates⟩ := r
    obtain ⟨hmax, hbytes⟩ := takenNonce_length htaken
    cases updates with
    | true => exact atomic_of_updates hmax hbytes hformed htaken
    | false => exact atomic_of_stops hmax hbytes htaken

/-- A stale nonce (438) in a REFRESH error response; the new nonce is `new1`. -/
def staleNonceResponse : Bytes :=
  [0x01, 0x14, 0, 16, 0x21, 0x12, 0xa4, 0x42] ++ List.replicate 12 7 ++
    [0, 0x09, 0, 4, 0, 0, 4, 38, 0, 0x15, 0, 4, 110, 101, 119, 49]

/-- A connection whose refresh packet has this nonce. -/
def withRefreshNonce (nonce : Bytes) : TurnCredentials where
  turnRealm := []
  turnNonce := padTo 128 (nonce.take 128)
  nonceLen := BitVec.ofNat 16 nonce.length
  longTermKey := [1]
  credentialObtained := true
  deallocatePacketSent := false
  hasAllocation := true
  pTurnPacket := none
  pTurnAllocationRefreshPacket := some {
    header := ⟨0x0004, 0, STUN_HEADER_MAGIC_COOKIE, List.replicate 12 7⟩
    allocationSize := STUN_PACKET_ALLOCATION_SIZE
    attributeList := [paddedAttribute STUN_ATTRIBUTE_TYPE_NONCE nonce]
    offsets := [200] }
  pTurnChannelBindPacket := none
  pTurnCreatePermissionPacket := none
  length_turnNonce := by
    change _ = 128
    simp only [padTo, List.length_append, List.length_take, List.length_replicate]
    omega

theorem nonce_withRefreshNonce {nonce : Bytes} {p : StunPacket} {a : StunAttribute}
    (hp : p ∈ (withRefreshNonce nonce).packets.reduceOption)
    (ha : getStunAttribute p.attributeList STUN_ATTRIBUTE_TYPE_NONCE = some a) :
    a = paddedAttribute STUN_ATTRIBUTE_TYPE_NONCE nonce := by
  obtain rfl := List.mem_singleton.mp hp
  exact (Option.some.inj ha).symm

/-- A nonce of the same length reaches the packet. -/
theorem same_length_atomic :
    NonceAtomic (withRefreshNonce [111, 108, 100, 49])
      (turnConnectionHandleStunError (fun _ _ => []) (fun _ => 0)
        (withRefreshNonce [111, 108, 100, 49]) staleNonceResponse).1 := by
  refine (nonce_update_atomic_iff _ _ _ _ ?_).mpr (.inl ?_)
  · intro p hp a ha
    rw [nonce_withRefreshNonce hp ha]
    decide
  · intro p hp a ha
    rw [nonce_withRefreshNonce hp ha]
    rfl

/-- A nonce of another length reaches the connection and not the packet. -/
theorem other_length_not_atomic :
    ¬NonceAtomic (withRefreshNonce [111, 108, 100])
      (turnConnectionHandleStunError (fun _ _ => []) (fun _ => 0)
        (withRefreshNonce [111, 108, 100]) staleNonceResponse).1 := by
  have htaken : takenNonce (fun _ _ => []) (fun _ => 0) (withRefreshNonce [111, 108, 100])
      staleNonceResponse =
        some (⟨STUN_ATTRIBUTE_TYPE_NONCE, 4, .padded [110, 101, 119, 49]⟩, true) := by
    decide
  have hroom := room_storeNonce (c := withRefreshNonce [111, 108, 100])
    (a := ⟨STUN_ATTRIBUTE_TYPE_NONCE, 4, .padded [110, 101, 119, 49]⟩) (by decide)
  rw [atomic_of_taken (by decide) (by decide) htaken, packetsBehind, if_pos rfl,
    all_carry_iff hroom]
  rintro (hfits | ⟨hsame, -⟩)
  · exact absurd (hfits _ (List.mem_singleton_self _) _ rfl) (by decide)
  · exact absurd hsame.1 (by decide)

end KvsWebrtc.Turn
