import KvsWebrtc.Stun.Packet

/-!
# Writing STUN packets (`serializeStunPacket`)

One function both computes the size (without a buffer) and writes (with one).  An attribute is
written piece by piece at places counted from its start, so a case of the switch is its encoded
length and its writes.  The ERROR-CODE case counts the place of the code in 16-bit units, and puts
the phrase two bytes into the value although the encoded length has no room for these.
-/

namespace KvsWebrtc.Stun

open ByteOrder

abbrev STUN_ATTRIBUTE_PRIORITY_LEN : Nat := 4
abbrev STUN_ATTRIBUTE_REQUESTED_TRANSPORT_PROTOCOL_LEN : Nat := 4
abbrev STUN_ATTRIBUTE_ICE_CONTROL_LEN : Nat := 8
abbrev STUN_ATTRIBUTE_CHANNEL_NUMBER_LEN : Nat := 4
abbrev STUN_ATTRIBUTE_FINGERPRINT_LEN : Nat := 4

/-! ## Writes -/

/-- `MEMCPY` into the buffer of the caller. -/
def writeAt (buf : Bytes) (off : Nat) (bs : Bytes) : Except Failure Bytes :=
  if off + bs.length ≤ buf.length then .ok (buf.take off ++ bs ++ buf.drop (off + bs.length))
  else .error .outOfBounds

/-- Writes at places counted from `off`. -/
def writeAll (buf : Bytes) (off : Nat) : List (Nat × Bytes) → Except Failure Bytes
  | [] => .ok buf
  | (k, bs) :: ws => do
    let buf ← writeAt buf (off + k) bs
    writeAll buf off ws

/-- `PACKAGE_STUN_ATTR_HEADER`. -/
def packageAttrHeader (type length : UINT16) : Bytes :=
  putUnalignedInt16BigEndian type ++ putUnalignedInt16BigEndian length

/-! ## Attributes -/

/-- The cases of the switch. -/
inductive WriteKind where
  | address
  | padded
  | word
  | flag
  | bytes
  | errorCode
  | iceControl
  | channelNumber
  | messageIntegrity
  | fingerprint
  | skipped
  deriving DecidableEq, Repr

def writeKindOf (type : UINT16) : WriteKind :=
  if type = STUN_ATTRIBUTE_TYPE_MAPPED_ADDRESS ∨ type = STUN_ATTRIBUTE_TYPE_XOR_MAPPED_ADDRESS ∨
      type = STUN_ATTRIBUTE_TYPE_RESPONSE_ADDRESS ∨ type = STUN_ATTRIBUTE_TYPE_SOURCE_ADDRESS ∨
      type = STUN_ATTRIBUTE_TYPE_REFLECTED_FROM ∨ type = STUN_ATTRIBUTE_TYPE_XOR_PEER_ADDRESS ∨
      type = STUN_ATTRIBUTE_TYPE_CHANGED_ADDRESS then .address
  else if type = STUN_ATTRIBUTE_TYPE_USERNAME ∨ type = STUN_ATTRIBUTE_TYPE_REALM ∨
      type = STUN_ATTRIBUTE_TYPE_NONCE ∨ type = STUN_ATTRIBUTE_TYPE_DATA then .padded
  else if type = STUN_ATTRIBUTE_TYPE_PRIORITY ∨ type = STUN_ATTRIBUTE_TYPE_LIFETIME ∨
      type = STUN_ATTRIBUTE_TYPE_CHANGE_REQUEST then .word
  else if type = STUN_ATTRIBUTE_TYPE_USE_CANDIDATE ∨ type = STUN_ATTRIBUTE_TYPE_DONT_FRAGMENT then
    .flag
  else if type = STUN_ATTRIBUTE_TYPE_REQUESTED_TRANSPORT ∨
      type = STUN_ATTRIBUTE_TYPE_REQUESTED_ADDRESS_FAMILY then .bytes
  else if type = STUN_ATTRIBUTE_TYPE_ERROR_CODE then .errorCode
  else if type = STUN_ATTRIBUTE_TYPE_ICE_CONTROLLED ∨
      type = STUN_ATTRIBUTE_TYPE_ICE_CONTROLLING then .iceControl
  else if type = STUN_ATTRIBUTE_TYPE_CHANNEL_NUMBER then .channelNumber
  else if type = STUN_ATTRIBUTE_TYPE_MESSAGE_INTEGRITY then .messageIntegrity
  else if type = STUN_ATTRIBUTE_TYPE_FINGERPRINT then .fingerprint
  else .skipped

/-- `stunPackageIpAddr`: the value of an address attribute.  The peer's address is masked here. -/
def stunPackageIpAddr (transactionId : Bytes) (type : UINT16) (a : KvsIpAddress) : Bytes :=
  let a := if type = STUN_ATTRIBUTE_TYPE_XOR_MAPPED_ADDRESS ∨
      type = STUN_ATTRIBUTE_TYPE_XOR_PEER_ADDRESS then xorIpAddress a transactionId else a
  putUnalignedInt16BigEndian a.family ++ putUnalignedInt16BigEndian a.port ++
    a.address.take a.addressLength

/-- What one case of the switch does: the encoded length and the writes. -/
structure Package where
  encodedLen : Nat
  writes : List (Nat × Bytes)
  deriving DecidableEq, Repr

/-- The header and a value of fixed length behind it. -/
def packageValue (type length : UINT16) (valueLength : Nat) (value : Bytes) : Package :=
  ⟨STUN_ATTRIBUTE_HEADER_LEN + valueLength,
    [(0, packageAttrHeader type length), (STUN_ATTRIBUTE_HEADER_LEN, value)]⟩

/-- The case of an attribute; `none` if the structure is not the one of its type. -/
def packageAttribute (transactionId : Bytes) (a : StunAttribute) : Option Package :=
  match writeKindOf a.type, a.value with
  | .address, .address ip =>
    let length := STUN_ATTRIBUTE_ADDRESS_HEADER_LEN + ip.addressLength
    some (packageValue a.type (BitVec.ofNat 16 length) length
      (stunPackageIpAddr transactionId a.type ip))
  | .padded, .padded data => some (packageValue a.type a.length data.length data)
  | .word, .word v =>
    some (packageValue a.type a.length STUN_ATTRIBUTE_PRIORITY_LEN (putUnalignedInt32BigEndian v))
  | .flag, _ => some (packageValue a.type a.length 0 [])
  | .bytes, .bytes b =>
    some (packageValue a.type a.length STUN_ATTRIBUTE_REQUESTED_TRANSPORT_PROTOCOL_LEN
      (b.take STUN_ATTRIBUTE_REQUESTED_TRANSPORT_PROTOCOL_LEN))
  | .errorCode, .errorCode code phrase =>
    some ⟨STUN_ATTRIBUTE_HEADER_LEN + phrase.length,
      [(0, packageAttrHeader a.type a.length),
        (2 * STUN_ATTRIBUTE_HEADER_LEN, putUnalignedInt16BigEndian code),
        (STUN_ATTRIBUTE_HEADER_LEN + 2, phrase)]⟩
  | .iceControl, .tieBreaker v =>
    some (packageValue a.type a.length STUN_ATTRIBUTE_ICE_CONTROL_LEN (encodeBE 8 v.toNat))
  | .channelNumber, .channelNumber n reserve =>
    some (packageValue a.type a.length STUN_ATTRIBUTE_CHANNEL_NUMBER_LEN
      (putUnalignedInt16BigEndian n ++ putUnalignedInt16BigEndian reserve))
  | .messageIntegrity, _ | .fingerprint, _ | .skipped, _ => some ⟨0, []⟩
  | _, _ => none

/-! ## The loop -/

/-- The variables of the loop; without a buffer, only the size is computed. -/
structure Serial where
  buffer : Option Bytes
  packetSize : Nat
  position : Nat
  remaining : Nat
  fingerprintFound : Bool
  messageIntegrityFound : Bool
  deriving DecidableEq, Repr

/-- Room for the encoded length is needed, and the position advances by it. -/
def Serial.advance (s : Serial) (pkg : Package) : Except Failure Serial :=
  match s.buffer with
  | none => .ok { s with packetSize := s.packetSize + pkg.encodedLen }
  | some buf =>
    if s.remaining ≥ pkg.encodedLen then do
      let buf ← writeAll buf s.position pkg.writes
      return { s with
        buffer := some buf
        position := s.position + pkg.encodedLen
        remaining := s.remaining - pkg.encodedLen }
    else .error (.status .NOT_ENOUGH_MEMORY)

/-- The checks of the order of attribute `i` of `count`. -/
def Serial.order (count i : Nat) (kind : WriteKind) (s : Serial) : Except STATUS Serial :=
  match kind with
  | .messageIntegrity =>
    if ¬ (i + 1 = count ∨ i + 2 = count) then .error .STUN_MESSAGE_INTEGRITY_NOT_LAST
    else if s.messageIntegrityFound then .error .STUN_MULTIPLE_MESSAGE_INTEGRITY_ATTRIBUTES
    else if s.fingerprintFound then .error .STUN_MESSAGE_INTEGRITY_AFTER_FINGERPRINT
    else .ok { s with messageIntegrityFound := true }
  | .fingerprint =>
    if ¬ i + 1 = count then .error .STUN_FINGERPRINT_NOT_LAST
    else if s.fingerprintFound then .error .STUN_MULTIPLE_FINGERPRINT_ATTRIBUTES
    else .ok { s with fingerprintFound := true }
  | .skipped => .ok s
  | _ =>
    if s.fingerprintFound ∨ s.messageIntegrityFound then
      .error .STUN_ATTRIBUTES_AFTER_FINGERPRINT_MESSAGE_INTEGRITY
    else .ok s

def serializeAttribute (transactionId : Bytes) (count i : Nat) (a : StunAttribute) (s : Serial) :
    Except Failure Serial :=
  match s.order count i (writeKindOf a.type) with
  | .error e => .error (.status e)
  | .ok s =>
    match packageAttribute transactionId a with
    | none => .error .outOfBounds
    | some pkg => s.advance pkg

def serializeLoop (transactionId : Bytes) (count : Nat) :
    Nat → List StunAttribute → Serial → Except Failure Serial
  | _, [], s => .ok s
  | i, a :: as, s => do
    let s ← serializeAttribute transactionId count i a s
    serializeLoop transactionId count (i + 1) as s

/-! ## Generated attributes -/

section

variable (hmac : Bytes → Bytes → Bytes) (crc32 : Bytes → UINT32)

/-- A generated attribute: its header, the length of a message that ends with it, and the value over
the bytes before it, whose number is cut to 16 bits. -/
def Serial.generate (s : Serial) (type : UINT16) (valueLength : Nat) (value : Bytes → Bytes) :
    Except Failure Serial :=
  let encodedLen := STUN_ATTRIBUTE_HEADER_LEN + valueLength
  match s.buffer with
  | none => .ok { s with packetSize := s.packetSize + encodedLen }
  | some buf =>
    if s.remaining ≥ encodedLen then do
      let buf ← writeAt buf s.position (packageAttrHeader type (BitVec.ofNat 16 valueLength))
      let buf ← writeAt buf 2
        (putUnalignedInt16BigEndian (BitVec.ofNat 16 (s.position + encodedLen - STUN_HEADER_LEN)))
      let buf ← writeAt buf (s.position + STUN_ATTRIBUTE_HEADER_LEN)
        (value (buf.take (BitVec.ofNat 16 s.position).toNat))
      return { s with
        buffer := some buf
        position := s.position + encodedLen
        remaining := s.remaining - encodedLen }
    else .error (.status .NOT_ENOUGH_MEMORY)

def Serial.generateMessageIntegrity (s : Serial) (generate : Bool) (password : Bytes) :
    Except Failure Serial :=
  if generate then
    s.generate STUN_ATTRIBUTE_TYPE_MESSAGE_INTEGRITY STUN_HMAC_VALUE_LEN (hmac password)
  else .ok s

def Serial.generateFingerprint (s : Serial) (generate : Bool) : Except Failure Serial :=
  if generate then
    s.generate STUN_ATTRIBUTE_TYPE_FINGERPRINT STUN_ATTRIBUTE_FINGERPRINT_LEN fun covered =>
      putUnalignedInt32BigEndian (crc32 covered ^^^ STUN_FINGERPRINT_ATTRIBUTE_XOR_VALUE)
  else .ok s

/-! ## The packet -/

/-- The header without its length, which is written at the end. -/
def Serial.start (header : StunHeader) : Option Bytes → Except Failure Serial
  | none => .ok ⟨none, STUN_HEADER_LEN, 0, 0, false, false⟩
  | some buf =>
    if buf.length < STUN_HEADER_LEN then .error (.status .NOT_ENOUGH_MEMORY)
    else do
      let written ← writeAll buf 0
        [(0, putUnalignedInt16BigEndian header.stunMessageType),
          (4, putUnalignedInt32BigEndian STUN_HEADER_MAGIC_COOKIE), (8, header.transactionId)]
      return ⟨some written, buf.length, STUN_HEADER_LEN, buf.length - STUN_HEADER_LEN, false, false⟩

/-- The length of the message, and the check of the position. -/
def Serial.finish (s : Serial) : Except Failure (Option Bytes × Nat) :=
  match s.buffer with
  | none => .ok (none, s.packetSize)
  | some buf => do
    let buf ← writeAt buf 2
      (putUnalignedInt16BigEndian (BitVec.ofNat 16 (s.packetSize - STUN_HEADER_LEN)))
    if s.packetSize = s.position then return (some buf, s.packetSize)
    else .error (.status .INTERNAL_ERROR)

/-- The buffer, if there is one, is as long as the caller says it is.  The result is the buffer and
the size of the packet. -/
def serializeStunPacket (p : StunPacket) (password : Option Bytes)
    (generateMessageIntegrity generateFingerprint : Bool) (buffer : Option Bytes) :
    Except Failure (Option Bytes × Nat) :=
  if generateMessageIntegrity ∧ password = none then .error (.status .NULL_ARG)
  else if password = some [] then .error (.status .INVALID_ARG)
  else if p.header.magicCookie ≠ STUN_HEADER_MAGIC_COOKIE then
    .error (.status .STUN_MAGIC_COOKIE_MISMATCH)
  else do
    let s ← Serial.start p.header buffer
    let s ← serializeLoop p.header.transactionId p.attributeList.length 0 p.attributeList s
    let s ← s.generateMessageIntegrity hmac generateMessageIntegrity (password.getD [])
    let s ← s.generateFingerprint crc32 generateFingerprint
    s.finish

end

end KvsWebrtc.Stun
