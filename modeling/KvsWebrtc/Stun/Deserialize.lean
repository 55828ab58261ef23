import KvsWebrtc.Stun.Packet

/-!
# Parsing STUN packets (`deserializeStunPacket`)

The first pass walks the attributes, checks their lengths and their order and computes the size of
the packet; it counts the attributes whose type it knows.  The second pass fills the packet and
verifies MESSAGE-INTEGRITY and FINGERPRINT; it stops after so many attributes, known or not, and an
unknown one does not advance the destination, so the entry of an unknown attribute is filled by the
next attribute.  SHA1-HMAC and CRC-32 are parameters, and allocation succeeds.
-/

namespace KvsWebrtc.Stun

open ByteOrder

/-! ## Reading -/

def read16 (buf : Bytes) (off : Nat) : Except Failure UINT16 :=
  if off + 2 ≤ buf.length then .ok (getUnalignedInt16BigEndian buf off) else .error .outOfBounds

def read32 (buf : Bytes) (off : Nat) : Except Failure UINT32 :=
  if off + 4 ≤ buf.length then .ok (getUnalignedInt32BigEndian buf off) else .error .outOfBounds

def readBytes (buf : Bytes) (off n : Nat) : Except Failure Bytes :=
  if off + n ≤ buf.length then .ok ((buf.drop off).take n) else .error .outOfBounds

/-! ## The kinds of attributes -/

/-- The cases of the two switches. -/
inductive AttributeKind where
  | address
  | username
  | priority
  | flag
  | lifetime
  | changeRequest
  | requestedTransport
  | realm
  | nonce
  | errorCode
  | iceControl
  | data
  | channelNumber
  | messageIntegrity
  | fingerprint
  | unknown
  deriving DecidableEq, Repr

def kindOf (type : UINT16) : AttributeKind :=
  if type = STUN_ATTRIBUTE_TYPE_MAPPED_ADDRESS ∨ type = STUN_ATTRIBUTE_TYPE_XOR_MAPPED_ADDRESS ∨
      type = STUN_ATTRIBUTE_TYPE_RESPONSE_ADDRESS ∨ type = STUN_ATTRIBUTE_TYPE_SOURCE_ADDRESS ∨
      type = STUN_ATTRIBUTE_TYPE_REFLECTED_FROM ∨ type = STUN_ATTRIBUTE_TYPE_XOR_RELAYED_ADDRESS ∨
      type = STUN_ATTRIBUTE_TYPE_XOR_PEER_ADDRESS ∨ type = STUN_ATTRIBUTE_TYPE_CHANGED_ADDRESS then
    .address
  else if type = STUN_ATTRIBUTE_TYPE_USERNAME then .username
  else if type = STUN_ATTRIBUTE_TYPE_PRIORITY then .priority
  else if type = STUN_ATTRIBUTE_TYPE_USE_CANDIDATE ∨ type = STUN_ATTRIBUTE_TYPE_DONT_FRAGMENT then
    .flag
  else if type = STUN_ATTRIBUTE_TYPE_LIFETIME then .lifetime
  else if type = STUN_ATTRIBUTE_TYPE_CHANGE_REQUEST then .changeRequest
  else if type = STUN_ATTRIBUTE_TYPE_REQUESTED_TRANSPORT then .requestedTransport
  else if type = STUN_ATTRIBUTE_TYPE_REALM then .realm
  else if type = STUN_ATTRIBUTE_TYPE_NONCE then .nonce
  else if type = STUN_ATTRIBUTE_TYPE_ERROR_CODE then .errorCode
  else if type = STUN_ATTRIBUTE_TYPE_ICE_CONTROLLED ∨ type = STUN_ATTRIBUTE_TYPE_ICE_CONTROLLING then
    .iceControl
  else if type = STUN_ATTRIBUTE_TYPE_DATA then .data
  else if type = STUN_ATTRIBUTE_TYPE_CHANNEL_NUMBER then .channelNumber
  else if type = STUN_ATTRIBUTE_TYPE_MESSAGE_INTEGRITY then .messageIntegrity
  else if type = STUN_ATTRIBUTE_TYPE_FINGERPRINT then .fingerprint
  else .unknown

/-- The size of the structure of an attribute; an unknown attribute has none. -/
def sizeofAttribute : AttributeKind → Nat
  | .address => 28
  | .username | .realm | .nonce | .errorCode | .data | .iceControl => 16
  | .priority | .lifetime | .changeRequest | .requestedTransport | .channelNumber | .fingerprint => 8
  | .flag => 4
  | .messageIntegrity => 24
  | .unknown => 0

/-- The value follows the structure. -/
def AttributeKind.isPadded : AttributeKind → Bool
  | .username | .realm | .nonce | .errorCode | .data => true
  | _ => false

def attributeSize (kind : AttributeKind) (paddedLength : UINT16) : Nat :=
  sizeofAttribute kind + if kind.isPadded then paddedLength.toNat else 0

/-! ## The first pass -/

/-- What the first pass accumulates. -/
structure Scan where
  allocationSize : Nat
  attributeCount : Nat
  fingerprintFound : Bool
  messageIntegrityFound : Bool
  deriving DecidableEq, Repr

/-- The check of the length; `ipFamily` is used for addresses only. -/
def checkLength (kind : AttributeKind) (ipFamily length : UINT16) : Except STATUS Unit :=
  let exactly (n : Nat) (e : STATUS) : Except STATUS Unit :=
    if length.toNat = n then .ok () else .error e
  let atMost (n : Nat) (e : STATUS) : Except STATUS Unit :=
    if length.toNat ≤ n then .ok () else .error e
  match kind with
  | .address => exactly (STUN_ATTRIBUTE_ADDRESS_HEADER_LEN +
      if ipFamily = KVS_IP_FAMILY_TYPE_IPV4 then IPV4_ADDRESS_LENGTH else IPV6_ADDRESS_LENGTH)
      .STUN_INVALID_ADDRESS_ATTRIBUTE_LENGTH
  | .username => atMost STUN_MAX_USERNAME_LEN .STUN_INVALID_USERNAME_ATTRIBUTE_LENGTH
  | .priority => exactly 4 .STUN_INVALID_PRIORITY_ATTRIBUTE_LENGTH
  | .flag => exactly 0 .STUN_INVALID_USE_CANDIDATE_ATTRIBUTE_LENGTH
  | .lifetime => exactly 4 .STUN_INVALID_LIFETIME_ATTRIBUTE_LENGTH
  | .changeRequest => exactly 4 .STUN_INVALID_CHANGE_REQUEST_ATTRIBUTE_LENGTH
  | .requestedTransport => exactly 4 .STUN_INVALID_REQUESTED_TRANSPORT_ATTRIBUTE_LENGTH
  | .realm => atMost STUN_MAX_REALM_LEN .STUN_INVALID_REALM_ATTRIBUTE_LENGTH
  | .nonce => atMost STUN_MAX_NONCE_LEN .STUN_INVALID_NONCE_ATTRIBUTE_LENGTH
  | .errorCode => atMost STUN_MAX_ERROR_PHRASE_LEN .STUN_INVALID_ERROR_CODE_ATTRIBUTE_LENGTH
  | .iceControl => exactly 8 .STUN_INVALID_ICE_CONTROL_ATTRIBUTE_LENGTH
  | .data => .ok ()
  | .channelNumber => exactly 4 .STUN_INVALID_CHANNEL_NUMBER_ATTRIBUTE_LENGTH
  | .messageIntegrity => exactly STUN_HMAC_VALUE_LEN .STUN_INVALID_MESSAGE_INTEGRITY_ATTRIBUTE_LENGTH
  | .fingerprint => exactly 4 .STUN_INVALID_FINGERPRINT_ATTRIBUTE_LENGTH
  | .unknown => .ok ()

/-- The check of the order. -/
def checkOrder (kind : AttributeKind) (s : Scan) : Except STATUS Scan :=
  match kind with
  | .messageIntegrity =>
    if s.messageIntegrityFound then .error .STUN_MULTIPLE_MESSAGE_INTEGRITY_ATTRIBUTES
    else if s.fingerprintFound then .error .STUN_MESSAGE_INTEGRITY_AFTER_FINGERPRINT
    else .ok { s with messageIntegrityFound := true }
  | .fingerprint =>
    if s.fingerprintFound then .error .STUN_MULTIPLE_FINGERPRINT_ATTRIBUTES
    else .ok { s with fingerprintFound := true }
  | .unknown => .ok s
  | _ =>
    if s.fingerprintFound ∨ s.messageIntegrityFound then
      .error .STUN_ATTRIBUTES_AFTER_FINGERPRINT_MESSAGE_INTEGRITY
    else .ok s

/-- One attribute of the first pass, without the reads. -/
def sizeAttribute (kind : AttributeKind) (ipFamily length : UINT16) (s : Scan) :
    Except STATUS Scan := do
  checkLength kind ipFamily length
  let s ← checkOrder kind s
  let s := { s with
    allocationSize := s.allocationSize + attributeSize kind (paddedLengthOf length)
    attributeCount := if kind = .unknown then s.attributeCount else s.attributeCount + 1 }
  if s.attributeCount ≤ STUN_ATTRIBUTE_MAX_COUNT then .ok s else .error .STUN_MAX_ATTRIBUTE_COUNT

/-- The family of an address, which is read before the length is checked. -/
def readFamily (buf : Bytes) (off : Nat) (kind : AttributeKind) : Except Failure UINT16 :=
  if kind = .address then do return (← read16 buf (off + STUN_ATTRIBUTE_HEADER_LEN)) &&& 0x00ff
  else return 0

/-- A status of the source as a failure. -/
def ofStatus {α : Type} (x : Except STATUS α) : Except Failure α :=
  match x with
  | .ok a => .ok a
  | .error e => .error (.status e)

/-- One attribute of the first pass, at `off`. -/
def scanAttribute (buf : Bytes) (off : Nat) (s : Scan) : Except Failure (Scan × Nat) := do
  let type ← read16 buf off
  let length ← read16 buf (off + 2)
  let ipFamily ← readFamily buf off (kindOf type)
  let s ← ofStatus (sizeAttribute (kindOf type) ipFamily length s)
  return (s, off + STUN_ATTRIBUTE_HEADER_LEN + (paddedLengthOf length).toNat)

/-- The first pass over the attributes before `stop`. -/
def scanLoop (buf : Bytes) (stop : Nat) : Nat → Nat → Scan → Except Failure Scan
  | 0, off, s => if off < stop then .error .notTerminated else .ok s
  | n + 1, off, s =>
    if off < stop then do
      let (s, next) ← scanAttribute buf off s
      scanLoop buf stop n next s
    else .ok s

/-! ## The second pass -/

section

variable (hmac : Bytes → Bytes → Bytes) (crc32 : Bytes → UINT32)

/-- The bytes with another length in the header. -/
def putMessageLength (buf : Bytes) (size : UINT16) : Bytes :=
  buf.take 2 ++ putUnalignedInt16BigEndian size ++ buf.drop 4

/-- The bytes an HMAC or a CRC covers: those before the attribute at `off`, with the length of a
message that ends with this attribute.  Both lengths are cut to 16 bits. -/
def coveredBytes (buf : Bytes) (off valueLength : Nat) : Bytes :=
  (putMessageLength buf
    (BitVec.ofNat 16 (off + STUN_ATTRIBUTE_HEADER_LEN + valueLength - STUN_HEADER_LEN))).take
    (BitVec.ofNat 16 off).toNat

/-- The address that is copied over cleared memory. -/
def addressOfBytes (value : Bytes) : KvsIpAddress where
  family := getUnalignedInt16BigEndian value 0 &&& 0x00ff
  port := getUnalignedInt16BigEndian value 2
  address := padTo 16 ((value.drop 4).take 16)
  length_address := by
    simp [padTo]

/-- The value of an attribute of the second pass, with the verification of MESSAGE-INTEGRITY and
FINGERPRINT. -/
def readValue (buf : Bytes) (password : Option Bytes) (transactionId : Bytes) (off : Nat)
    (type length : UINT16) : Except Failure AttributeValue :=
  let value := off + STUN_ATTRIBUTE_HEADER_LEN
  let paddedLength := (paddedLengthOf length).toNat
  match kindOf type with
  | .address => do
    let a := addressOfBytes (← readBytes buf value length.toNat)
    if type = STUN_ATTRIBUTE_TYPE_XOR_MAPPED_ADDRESS ∨
        type = STUN_ATTRIBUTE_TYPE_XOR_RELAYED_ADDRESS then
      return .address (xorIpAddress a transactionId)
    else return .address a
  | .username | .realm | .nonce | .data => do return .padded (← readBytes buf value paddedLength)
  | .priority | .lifetime | .changeRequest => do return .word (← read32 buf value)
  | .flag => return .none
  | .requestedTransport => do return .bytes (← readBytes buf value 4)
  | .errorCode => do
    let errorClass ← readBytes buf (value + 2) 1
    let errorNumber ← readBytes buf (value + 3) 1
    -- the length of the copy is negative for an empty attribute
    if paddedLength < 4 then .error .outOfBounds
    else
      let phrase ← readBytes buf (value + 4) (paddedLength - 4)
      return .errorCode
        (BitVec.ofNat 16 (decodeBE errorClass * 100 + decodeBE errorNumber))
        (padTo paddedLength phrase)
  | .iceControl => do return .tieBreaker (BitVec.ofNat 64 (decodeBE (← readBytes buf value 8)))
  | .channelNumber => do return .channelNumber (← read16 buf value) 0
  | .messageIntegrity =>
    match password with
    | none => .error (.status .NULL_ARG)
    | some [] => .error (.status .INVALID_ARG)
    | some pw => do
      let expected := hmac pw (coveredBytes buf off STUN_HMAC_VALUE_LEN)
      if expected = (← readBytes buf value STUN_HMAC_VALUE_LEN) then return .bytes expected
      else .error (.status .STUN_MESSAGE_INTEGRITY_MISMATCH)
  | .fingerprint => do
    let crc32Fingerprint ← read32 buf value
    if crc32 (coveredBytes buf off 4) ^^^ STUN_FINGERPRINT_ATTRIBUTE_XOR_VALUE = crc32Fingerprint then
      return .word crc32Fingerprint
    else .error (.status .STUN_FINGERPRINT_MISMATCH)
  | .unknown => return .none

/-- The bytes of an attribute's structure that are written: its header, or all of it. -/
def writtenSize (kind : AttributeKind) (length paddedLength : UINT16) : Nat :=
  match kind with
  | .unknown => STUN_ATTRIBUTE_HEADER_LEN
  | .address => STUN_ATTRIBUTE_HEADER_LEN + length.toNat
  | kind => attributeSize kind paddedLength

/-- The second pass over the attributes before `stop`, with `left` entries to fill and the
destination at `dest`.  An entry is kept with the offset its attribute was read from. -/
def fillLoop (buf : Bytes) (password : Option Bytes) (transactionId : Bytes)
    (stop allocationSize : Nat) :
    Nat → Nat → Nat → Nat → Except Failure (List (Nat × StunAttribute))
  | 0, off, _, left => if off < stop ∧ left > 0 then .error .notTerminated else .ok []
  | n + 1, off, dest, left =>
    if off < stop ∧ left > 0 then do
      let type ← read16 buf off
      let length ← read16 buf (off + 2)
      let paddedLength := paddedLengthOf length
      if dest + writtenSize (kindOf type) length paddedLength ≤ allocationSize then
        let value ← readValue hmac crc32 buf password transactionId off type length
        let rest ← fillLoop buf password transactionId stop allocationSize n
          (off + STUN_ATTRIBUTE_HEADER_LEN + paddedLength.toNat)
          (dest + attributeSize (kindOf type) paddedLength) (left - 1)
        return (off, ⟨type, length, value⟩) :: rest
      else .error .outOfBounds
    else .ok []

/-- The entries of the finished packet: an unknown attribute is overwritten by the next one. -/
def settleEntries : List (Nat × StunAttribute) → List (Nat × StunAttribute)
  | [] => []
  | e :: es =>
    match settleEntries es with
    | [] => [e]
    | e' :: es' => (if kindOf e.2.type = .unknown then e' else e) :: e' :: es'

/-- The packet that is returned.  `origins` is not in the source: for each entry, the offset of the
attribute that filled it. -/
structure ParsedPacket where
  header : StunHeader
  allocationSize : Nat
  attributeList : List StunAttribute
  origins : List Nat
  deriving DecidableEq, Repr

def deserializeStunPacket (buf : Bytes) (password : Option Bytes) : Except Failure ParsedPacket :=
  if buf.length < STUN_HEADER_LEN then .error (.status .INVALID_ARG)
  else
    let messageLength := getUnalignedInt16BigEndian buf 2
    let magicCookie := getUnalignedInt32BigEndian buf 4
    let stop := STUN_HEADER_LEN + messageLength.toNat
    if buf.length < stop then .error (.status .INVALID_ARG)
    else if magicCookie ≠ STUN_HEADER_MAGIC_COOKIE then
      .error (.status .STUN_MAGIC_COOKIE_MISMATCH)
    else do
      let s ← scanLoop buf stop messageLength.toNat STUN_HEADER_LEN
        ⟨SIZEOF_STUN_PACKET, 0, false, false⟩
      let allocationSize := s.allocationSize + s.attributeCount * SIZEOF_POINTER
      let transactionId := (buf.drop 8).take 12
      let entries ← fillLoop hmac crc32 buf password transactionId stop allocationSize
        messageLength.toNat STUN_HEADER_LEN
        (SIZEOF_STUN_PACKET + s.attributeCount * SIZEOF_POINTER) s.attributeCount
      let entries := settleEntries entries
      return {
        header := ⟨getUnalignedInt16BigEndian buf 0, messageLength, magicCookie, transactionId⟩
        allocationSize := allocationSize
        attributeList := entries.map Prod.snd
        origins := entries.map Prod.fst }

end

end KvsWebrtc.Stun
