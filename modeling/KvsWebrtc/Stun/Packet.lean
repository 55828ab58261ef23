import KvsWebrtc.Common

/-!
# STUN packets (`Stun.h`, `Stun.c`)

The packet record, the attributes and the functions that append them.  An attribute is kept as its
type, its length and its value; where its structure lies in the packet's memory matters only for the
space that is left, so an entry also has the offset of its structure.  The sizes of the structures
are those of a 64-bit target.  Ports and addresses are in network byte order; `isPointToPoint` is
not part of an attribute and is left out.  The tie breaker of an appended attribute and that of a
parsed one lie at different places of the structure; only their value is kept.
-/

namespace KvsWebrtc.Stun

open ByteOrder

inductive STATUS where
  | NULL_ARG
  | INVALID_ARG
  | NOT_ENOUGH_MEMORY
  | INTERNAL_ERROR
  | STUN_MAGIC_COOKIE_MISMATCH
  | STUN_MAX_ATTRIBUTE_COUNT
  | STUN_INVALID_ADDRESS_ATTRIBUTE_LENGTH
  | STUN_INVALID_USERNAME_ATTRIBUTE_LENGTH
  | STUN_INVALID_PRIORITY_ATTRIBUTE_LENGTH
  | STUN_INVALID_USE_CANDIDATE_ATTRIBUTE_LENGTH
  | STUN_INVALID_LIFETIME_ATTRIBUTE_LENGTH
  | STUN_INVALID_CHANGE_REQUEST_ATTRIBUTE_LENGTH
  | STUN_INVALID_REQUESTED_TRANSPORT_ATTRIBUTE_LENGTH
  | STUN_INVALID_REALM_ATTRIBUTE_LENGTH
  | STUN_INVALID_NONCE_ATTRIBUTE_LENGTH
  | STUN_INVALID_ERROR_CODE_ATTRIBUTE_LENGTH
  | STUN_INVALID_ICE_CONTROL_ATTRIBUTE_LENGTH
  | STUN_INVALID_CHANNEL_NUMBER_ATTRIBUTE_LENGTH
  | STUN_INVALID_MESSAGE_INTEGRITY_ATTRIBUTE_LENGTH
  | STUN_INVALID_FINGERPRINT_ATTRIBUTE_LENGTH
  | STUN_ATTRIBUTES_AFTER_FINGERPRINT_MESSAGE_INTEGRITY
  | STUN_MULTIPLE_MESSAGE_INTEGRITY_ATTRIBUTES
  | STUN_MESSAGE_INTEGRITY_AFTER_FINGERPRINT
  | STUN_MULTIPLE_FINGERPRINT_ATTRIBUTES
  | STUN_MESSAGE_INTEGRITY_NOT_LAST
  | STUN_FINGERPRINT_NOT_LAST
  | STUN_MESSAGE_INTEGRITY_MISMATCH
  | STUN_FINGERPRINT_MISMATCH
  deriving DecidableEq, Repr

/-- A status, an access outside the memory the function was given or has allocated, or a loop that
was not left. -/
inductive Failure where
  | status (s : STATUS)
  | outOfBounds
  | notTerminated
  deriving DecidableEq, Repr

abbrev STUN_HEADER_LEN : Nat := 20
abbrev STUN_HEADER_MAGIC_COOKIE : UINT32 := 0x2112A442
abbrev STUN_ATTRIBUTE_HEADER_LEN : Nat := 4
abbrev STUN_ATTRIBUTE_ADDRESS_HEADER_LEN : Nat := 4
abbrev IPV4_ADDRESS_LENGTH : Nat := 4
abbrev IPV6_ADDRESS_LENGTH : Nat := 16
abbrev KVS_IP_FAMILY_TYPE_IPV4 : UINT16 := 1
abbrev KVS_IP_FAMILY_TYPE_IPV6 : UINT16 := 2
abbrev STUN_MAX_USERNAME_LEN : Nat := 512
abbrev STUN_MAX_REALM_LEN : Nat := 128
abbrev STUN_MAX_NONCE_LEN : Nat := 128
abbrev STUN_MAX_ERROR_PHRASE_LEN : Nat := 128
abbrev STUN_HMAC_VALUE_LEN : Nat := 20
abbrev STUN_ATTRIBUTE_MAX_COUNT : Nat := 20
abbrev STUN_PACKET_ALLOCATION_SIZE : Nat := 2048
abbrev STUN_FINGERPRINT_ATTRIBUTE_XOR_VALUE : UINT32 := 0x5354554e

/-- `SIZEOF(StunPacket)`. -/
abbrev SIZEOF_STUN_PACKET : Nat := 40

/-- `SIZEOF(PStunAttributeHeader)`. -/
abbrev SIZEOF_POINTER : Nat := 8

abbrev STUN_ATTRIBUTE_TYPE_MAPPED_ADDRESS : UINT16 := 0x0001
abbrev STUN_ATTRIBUTE_TYPE_RESPONSE_ADDRESS : UINT16 := 0x0002
abbrev STUN_ATTRIBUTE_TYPE_CHANGE_REQUEST : UINT16 := 0x0003
abbrev STUN_ATTRIBUTE_TYPE_SOURCE_ADDRESS : UINT16 := 0x0004
abbrev STUN_ATTRIBUTE_TYPE_CHANGED_ADDRESS : UINT16 := 0x0005
abbrev STUN_ATTRIBUTE_TYPE_USERNAME : UINT16 := 0x0006
abbrev STUN_ATTRIBUTE_TYPE_MESSAGE_INTEGRITY : UINT16 := 0x0008
abbrev STUN_ATTRIBUTE_TYPE_ERROR_CODE : UINT16 := 0x0009
abbrev STUN_ATTRIBUTE_TYPE_REFLECTED_FROM : UINT16 := 0x000B
abbrev STUN_ATTRIBUTE_TYPE_CHANNEL_NUMBER : UINT16 := 0x000C
abbrev STUN_ATTRIBUTE_TYPE_LIFETIME : UINT16 := 0x000D
abbrev STUN_ATTRIBUTE_TYPE_XOR_PEER_ADDRESS : UINT16 := 0x0012
abbrev STUN_ATTRIBUTE_TYPE_DATA : UINT16 := 0x0013
abbrev STUN_ATTRIBUTE_TYPE_REALM : UINT16 := 0x0014
abbrev STUN_ATTRIBUTE_TYPE_NONCE : UINT16 := 0x0015
abbrev STUN_ATTRIBUTE_TYPE_XOR_RELAYED_ADDRESS : UINT16 := 0x0016
abbrev STUN_ATTRIBUTE_TYPE_REQUESTED_ADDRESS_FAMILY : UINT16 := 0x0017
abbrev STUN_ATTRIBUTE_TYPE_REQUESTED_TRANSPORT : UINT16 := 0x0019
abbrev STUN_ATTRIBUTE_TYPE_DONT_FRAGMENT : UINT16 := 0x001A
abbrev STUN_ATTRIBUTE_TYPE_XOR_MAPPED_ADDRESS : UINT16 := 0x0020
abbrev STUN_ATTRIBUTE_TYPE_PRIORITY : UINT16 := 0x0024
abbrev STUN_ATTRIBUTE_TYPE_USE_CANDIDATE : UINT16 := 0x0025
abbrev STUN_ATTRIBUTE_TYPE_FINGERPRINT : UINT16 := 0x8028
abbrev STUN_ATTRIBUTE_TYPE_ICE_CONTROLLED : UINT16 := 0x8029
abbrev STUN_ATTRIBUTE_TYPE_ICE_CONTROLLING : UINT16 := 0x802A

/-! ## Packets -/

structure StunHeader where
  stunMessageType : UINT16
  messageLength : UINT16
  magicCookie : UINT32
  transactionId : Bytes
  deriving DecidableEq, Repr

/-- `address` has room for an IPv6 address; an IPv4 address is its first four bytes. -/
structure KvsIpAddress where
  family : UINT16
  port : UINT16
  address : Bytes
  length_address : address.length = IPV6_ADDRESS_LENGTH
  deriving DecidableEq, Repr

def KvsIpAddress.isIpv4 (a : KvsIpAddress) : Bool := a.family = KVS_IP_FAMILY_TYPE_IPV4

/-- The length of the address itself. -/
def KvsIpAddress.addressLength (a : KvsIpAddress) : Nat :=
  if a.isIpv4 then IPV4_ADDRESS_LENGTH else IPV6_ADDRESS_LENGTH

/-- The value of an attribute.  A padded value is kept with its padding, so its length is the
source's `paddedLength`; the phrase of an error code likewise. -/
inductive AttributeValue where
  | none
  | address (a : KvsIpAddress)
  | padded (data : Bytes)
  | errorCode (errorCode : UINT16) (errorPhrase : Bytes)
  | word (v : UINT32)
  | bytes (b : Bytes)
  | tieBreaker (v : UINT64)
  | channelNumber (channelNumber reserve : UINT16)
  deriving DecidableEq, Repr

structure StunAttribute where
  type : UINT16
  length : UINT16
  value : AttributeValue
  deriving DecidableEq, Repr

/-- `offsets` are those of the structures of the attributes in the packet's memory. -/
structure StunPacket where
  header : StunHeader
  allocationSize : Nat
  attributeList : List StunAttribute
  offsets : List Nat
  deriving DecidableEq, Repr

/-- `ROUND_UP(X, A)` for a power of two `A`. -/
def ROUND_UP (x a : Nat) : Nat := (x + a - 1) / a * a

/-- `(UINT16) ROUND_UP(length, 4)`. -/
def paddedLengthOf (length : UINT16) : UINT16 := BitVec.ofNat 16 (ROUND_UP length.toNat 4)

/-! ## Appending attributes -/

def AttributeValue.paddedLength : AttributeValue → Nat
  | .padded data => data.length
  | .errorCode _ phrase => phrase.length
  | _ => 0

/-- The size of an attribute's structure in the packet's memory. -/
def getPackagedStunAttributeSize (a : StunAttribute) : UINT16 :=
  let length : Nat :=
    if a.type = STUN_ATTRIBUTE_TYPE_MAPPED_ADDRESS ∨ a.type = STUN_ATTRIBUTE_TYPE_XOR_MAPPED_ADDRESS ∨
        a.type = STUN_ATTRIBUTE_TYPE_RESPONSE_ADDRESS ∨ a.type = STUN_ATTRIBUTE_TYPE_SOURCE_ADDRESS ∨
        a.type = STUN_ATTRIBUTE_TYPE_REFLECTED_FROM ∨ a.type = STUN_ATTRIBUTE_TYPE_XOR_PEER_ADDRESS ∨
        a.type = STUN_ATTRIBUTE_TYPE_CHANGED_ADDRESS then 28
    else if a.type = STUN_ATTRIBUTE_TYPE_USE_CANDIDATE ∨ a.type = STUN_ATTRIBUTE_TYPE_DONT_FRAGMENT then 4
    else if a.type = STUN_ATTRIBUTE_TYPE_PRIORITY ∨ a.type = STUN_ATTRIBUTE_TYPE_LIFETIME ∨
        a.type = STUN_ATTRIBUTE_TYPE_CHANGE_REQUEST ∨ a.type = STUN_ATTRIBUTE_TYPE_REQUESTED_TRANSPORT ∨
        a.type = STUN_ATTRIBUTE_TYPE_CHANNEL_NUMBER then 8
    else if a.type = STUN_ATTRIBUTE_TYPE_ICE_CONTROLLED ∨ a.type = STUN_ATTRIBUTE_TYPE_ICE_CONTROLLING then 16
    else if a.type = STUN_ATTRIBUTE_TYPE_REALM ∨ a.type = STUN_ATTRIBUTE_TYPE_NONCE ∨
        a.type = STUN_ATTRIBUTE_TYPE_DATA ∨ a.type = STUN_ATTRIBUTE_TYPE_USERNAME ∨
        a.type = STUN_ATTRIBUTE_TYPE_ERROR_CODE then 16 + a.value.paddedLength
    else STUN_ATTRIBUTE_HEADER_LEN + a.length.toNat
  -- `length` and the result are `UINT16`
  BitVec.ofNat 16 (ROUND_UP (length % 2 ^ 16) 8)

variable (p : StunPacket)

/-- The offset of the next structure. -/
def getFirstAvailableStunAttribute : Except STATUS Nat :=
  if p.attributeList.length ≤ STUN_ATTRIBUTE_MAX_COUNT then
    match p.attributeList.getLast?, p.offsets.getLast? with
    | some a, some offset =>
      if a.type ≠ STUN_ATTRIBUTE_TYPE_MESSAGE_INTEGRITY ∧ a.type ≠ STUN_ATTRIBUTE_TYPE_FINGERPRINT then
        let next := offset + (getPackagedStunAttributeSize a).toNat
        if p.allocationSize > next then .ok next else .error .NOT_ENOUGH_MEMORY
      else .error .STUN_ATTRIBUTES_AFTER_FINGERPRINT_MESSAGE_INTEGRITY
    | _, _ => .ok (SIZEOF_STUN_PACKET + STUN_ATTRIBUTE_MAX_COUNT * SIZEOF_POINTER)
  else .error .STUN_MAX_ATTRIBUTE_COUNT

/-- What all append functions do: `size` is the room they ask for, `written` the bytes they then
write, `messageBytes` what they add to the header's length. -/
def appendAttribute (a : StunAttribute) (size written messageBytes : Nat) :
    Except Failure StunPacket :=
  match getFirstAvailableStunAttribute p with
  | .error e => .error (.status e)
  | .ok offset =>
    if p.allocationSize ≥ offset + size then
      if p.allocationSize ≥ offset + written then
        .ok { p with
          header := { p.header with
            messageLength := p.header.messageLength + BitVec.ofNat 16 messageBytes }
          attributeList := p.attributeList ++ [a]
          offsets := p.offsets ++ [offset] }
      else .error .outOfBounds
    else .error (.status .NOT_ENOUGH_MEMORY)

/-- The bytes with zeros up to the padded length; the memory was cleared when it was allocated. -/
def padTo (n : Nat) (b : Bytes) : Bytes := b ++ List.replicate (n - b.length) 0

/-- The characters of a C string that are copied, at most `maxLen` (`STRNLEN`). -/
def strnCopy (s : Bytes) (maxLen : Nat) : Bytes := (s.takeWhile (· ≠ 0)).take maxLen

theorem length_strnCopy_le (s : Bytes) (n : Nat) : (strnCopy s n).length ≤ n :=
  List.length_take_le _ _

def createStunPacket (stunPacketType : UINT16) (transactionId : Bytes) : StunPacket where
  header := ⟨stunPacketType, 0, STUN_HEADER_MAGIC_COOKIE, transactionId⟩
  allocationSize := STUN_PACKET_ALLOCATION_SIZE
  attributeList := []
  offsets := []

def appendStunAddressAttribute (addressAttributeType : UINT16) (a : KvsIpAddress) :
    Except Failure StunPacket :=
  let length := STUN_ATTRIBUTE_ADDRESS_HEADER_LEN + a.addressLength
  appendAttribute p ⟨addressAttributeType, BitVec.ofNat 16 length, .address a⟩ (ROUND_UP 28 8) 28
    (length + STUN_ATTRIBUTE_HEADER_LEN)

/-- The attributes whose value has a length of its own, behind 16 bytes of structure.  The room is
computed from the padded length, and as many bytes are copied as the data has. -/
def appendPadded (type : UINT16) (data : Bytes) : Except Failure StunPacket :=
  let length : UINT16 := BitVec.ofNat 16 data.length
  let paddedLength := (paddedLengthOf length).toNat
  appendAttribute p ⟨type, length, .padded (padTo paddedLength data)⟩
    (ROUND_UP (paddedLength + 16) 8) (16 + data.length) (paddedLength + STUN_ATTRIBUTE_HEADER_LEN)

def appendStunUsernameAttribute (userName : Bytes) : Except Failure StunPacket :=
  appendPadded p STUN_ATTRIBUTE_TYPE_USERNAME (strnCopy userName STUN_MAX_USERNAME_LEN)

def appendStunRealmAttribute (realm : Bytes) : Except Failure StunPacket :=
  appendPadded p STUN_ATTRIBUTE_TYPE_REALM (strnCopy realm STUN_MAX_REALM_LEN)

/-- `nonceLen` is the length of `nonce`. -/
def appendStunNonceAttribute (nonce : Bytes) : Except Failure StunPacket :=
  appendPadded p STUN_ATTRIBUTE_TYPE_NONCE nonce

/-- `dataLen` is the length of `data`. -/
def appendStunDataAttribute (data : Bytes) : Except Failure StunPacket :=
  appendPadded p STUN_ATTRIBUTE_TYPE_DATA data

def appendStunErrorCodeAttribute (errorPhrase : Bytes) (errorCode : UINT16) :
    Except Failure StunPacket :=
  let phrase := strnCopy errorPhrase STUN_MAX_ERROR_PHRASE_LEN
  let length : UINT16 := BitVec.ofNat 16 phrase.length
  let paddedLength := (paddedLengthOf length).toNat
  appendAttribute p
    ⟨STUN_ATTRIBUTE_TYPE_ERROR_CODE, length, .errorCode errorCode (padTo paddedLength phrase)⟩
    (ROUND_UP (paddedLength + 16) 8) (16 + phrase.length)
    (paddedLength + STUN_ATTRIBUTE_HEADER_LEN)

/-- The attributes with one 32-bit word. -/
def appendWord (type : UINT16) (v : UINT32) : Except Failure StunPacket :=
  appendAttribute p ⟨type, 4, .word v⟩ (ROUND_UP 8 8) 8 (4 + STUN_ATTRIBUTE_HEADER_LEN)

def appendStunPriorityAttribute (priority : UINT32) : Except Failure StunPacket :=
  appendWord p STUN_ATTRIBUTE_TYPE_PRIORITY priority

def appendStunLifetimeAttribute (lifetime : UINT32) : Except Failure StunPacket :=
  appendWord p STUN_ATTRIBUTE_TYPE_LIFETIME lifetime

def appendStunChangeRequestAttribute (changeFlag : UINT32) :
    Except Failure StunPacket :=
  appendWord p STUN_ATTRIBUTE_TYPE_CHANGE_REQUEST changeFlag

def appendStunFlagAttribute (attrType : UINT16) : Except Failure StunPacket :=
  appendAttribute p ⟨attrType, 0, .none⟩ (ROUND_UP 4 8) 4 STUN_ATTRIBUTE_HEADER_LEN

def appendStunRequestedTransportAttribute (protocol : UINT8) :
    Except Failure StunPacket :=
  appendAttribute p ⟨STUN_ATTRIBUTE_TYPE_REQUESTED_TRANSPORT, 4, .bytes [protocol, 0, 0, 0]⟩
    (ROUND_UP 8 8) 8 (4 + STUN_ATTRIBUTE_HEADER_LEN)

/-- The size is rounded to a multiple of four here. -/
def appendStunAllocationAddressFamily (ipFamily : UINT16) :
    Except Failure StunPacket :=
  appendAttribute p
    ⟨STUN_ATTRIBUTE_TYPE_REQUESTED_ADDRESS_FAMILY, 4, .bytes [ipFamily.truncate 8, 0, 0, 0]⟩
    (ROUND_UP 8 4) 8 (4 + STUN_ATTRIBUTE_HEADER_LEN)

def appendStunIceControllAttribute (attributeType : UINT16) (tieBreaker : UINT64) :
    Except Failure StunPacket :=
  if attributeType = STUN_ATTRIBUTE_TYPE_ICE_CONTROLLING ∨
      attributeType = STUN_ATTRIBUTE_TYPE_ICE_CONTROLLED then
    appendAttribute p ⟨attributeType, 8, .tieBreaker tieBreaker⟩ (ROUND_UP 16 8) 16
      (8 + STUN_ATTRIBUTE_HEADER_LEN)
  else .error (.status .INVALID_ARG)

def appendStunChannelNumberAttribute (channelNumber : UINT16) :
    Except Failure StunPacket :=
  appendAttribute p ⟨STUN_ATTRIBUTE_TYPE_CHANNEL_NUMBER, 4, .channelNumber channelNumber 0⟩
    (ROUND_UP 8 8) 8 (4 + STUN_ATTRIBUTE_HEADER_LEN)

/-! ## Masked addresses -/

def xorBytes (a b : Bytes) : Bytes := List.zipWith (· ^^^ ·) a b

/-- The mask of an address: the magic cookie, and the transaction id for IPv6. -/
def addressMask (family : UINT16) (transactionId : Bytes) : Bytes :=
  putUnalignedInt32BigEndian STUN_HEADER_MAGIC_COOKIE ++
    if family = KVS_IP_FAMILY_TYPE_IPV6 then padTo 12 (transactionId.take 12)
    else List.replicate 12 0

theorem length_addressMask (family : UINT16) (transactionId : Bytes) :
    (addressMask family transactionId).length = 16 := by
  rw [addressMask]
  split <;> simp [padTo]

def xorIpAddress (a : KvsIpAddress) (transactionId : Bytes) : KvsIpAddress where
  family := a.family
  port := a.port ^^^ 0x2112
  address := xorBytes a.address (addressMask a.family transactionId)
  length_address := by
    simp [xorBytes, length_addressMask, a.length_address]

end KvsWebrtc.Stun
