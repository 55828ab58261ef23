import KvsWebrtc.Common
import KvsWebrtc.Lib.CString
import KvsWebrtc.Lib.SlotTable

/-!
# Session descriptions (`Sdp.h`)

The structure of a session description, with its character arrays and tables at their sizes.  Of the
three counters that a session description keeps for its own tables, none passes the size of its
table; the counter of a media section's attributes is one byte, so it never does.  The session's
connection information, its time zones, the encryption keys and the bandwidth counters are neither
read nor written and are left out.
-/

namespace KvsWebrtc.Sdp

open CString

abbrev MAX_SDP_NETWORK_TYPE_LENGTH : Nat := 7
abbrev MAX_SDP_ADDRESS_TYPE_LENGTH : Nat := 7
abbrev MAX_SDP_CONNECTION_ADDRESS_LENGTH : Nat := 63
abbrev MAX_SDP_SESSION_USERNAME_LENGTH : Nat := 32
abbrev MAX_SDP_ATTRIBUTE_NAME_LENGTH : Nat := 32
abbrev MAX_SDP_ATTRIBUTE_VALUE_LENGTH : Nat := 512
abbrev MAX_SDP_MEDIA_NAME_LENGTH : Nat := 255
abbrev MAX_SDP_MEDIA_TITLE_LENGTH : Nat := 127
abbrev MAX_SDP_SESSION_INFORMATION_LENGTH : Nat := 127
abbrev MAX_SDP_SESSION_NAME_LENGTH : Nat := 255
abbrev MAX_SDP_SESSION_URI_LENGTH : Nat := 255
abbrev MAX_SDP_SESSION_EMAIL_ADDRESS_LENGTH : Nat := 255
abbrev MAX_SDP_SESSION_PHONE_NUMBER_LENGTH : Nat := 255
abbrev MAX_SDP_SESSION_TIME_DESCRIPTION_COUNT : Nat := 2
abbrev MAX_SDP_SESSION_MEDIA_COUNT : Nat := 5
abbrev MAX_SDP_ATTRIBUTES_COUNT : Nat := 256

/-- The bytes of a string literal. -/
def ascii (s : String) : Bytes := s.toList.map fun c => BitVec.ofNat 8 c.toNat

abbrev CR : UINT8 := 13
abbrev LF : UINT8 := 10

def SDP_ATTRIBUTE_MARKER : Bytes := ascii "a="
def SDP_CONNECTION_INFORMATION_MARKER : Bytes := ascii "c="
def SDP_MEDIA_NAME_MARKER : Bytes := ascii "m="
def SDP_ORIGIN_MARKER : Bytes := ascii "o="
def SDP_SESSION_NAME_MARKER : Bytes := ascii "s="
def SDP_TIME_DESCRIPTION_MARKER : Bytes := ascii "t="
def SDP_VERSION_MARKER : Bytes := ascii "v="
def SDP_LINE_SEPARATOR : Bytes := [CR, LF]

structure SdpConnectionInformation where
  networkType : CharArray (MAX_SDP_NETWORK_TYPE_LENGTH + 1)
  addressType : CharArray (MAX_SDP_ADDRESS_TYPE_LENGTH + 1)
  connectionAddress : CharArray (MAX_SDP_CONNECTION_ADDRESS_LENGTH + 1)

structure SdpOrigin where
  userName : CharArray (MAX_SDP_SESSION_USERNAME_LENGTH + 1)
  sessionId : UINT64
  sessionVersion : UINT64
  sdpConnectionInformation : SdpConnectionInformation

structure SdpTimeDescription where
  startTime : UINT64
  stopTime : UINT64

structure SdpAttributes where
  attributeName : CharArray (MAX_SDP_ATTRIBUTE_NAME_LENGTH + 1)
  attributeValue : CharArray (MAX_SDP_ATTRIBUTE_VALUE_LENGTH + 1)

structure SdpMediaDescription where
  mediaName : CharArray (MAX_SDP_MEDIA_NAME_LENGTH + 1)
  mediaTitle : CharArray (MAX_SDP_MEDIA_TITLE_LENGTH + 1)
  sdpConnectionInformation : SdpConnectionInformation
  sdpAttributes : SlotTable SdpAttributes MAX_SDP_ATTRIBUTES_COUNT
  mediaAttributesCount : UINT8

structure SessionDescription where
  version : UINT64
  sdpOrigin : SdpOrigin
  sessionName : CharArray (MAX_SDP_SESSION_NAME_LENGTH + 1)
  sessionInformation : CharArray (MAX_SDP_SESSION_INFORMATION_LENGTH + 1)
  uri : CharArray (MAX_SDP_SESSION_URI_LENGTH + 1)
  emailAddress : CharArray (MAX_SDP_SESSION_EMAIL_ADDRESS_LENGTH + 1)
  phoneNumber : CharArray (MAX_SDP_SESSION_PHONE_NUMBER_LENGTH + 1)
  sdpTimeDescription : SlotTable SdpTimeDescription MAX_SDP_SESSION_TIME_DESCRIPTION_COUNT
  sdpAttributes : SlotTable SdpAttributes MAX_SDP_ATTRIBUTES_COUNT
  mediaDescriptions : SlotTable SdpMediaDescription MAX_SDP_SESSION_MEDIA_COUNT
  sessionAttributesCount : UINT16
  mediaCount : UINT16
  timeDescriptionCount : UINT8
  sessionAttributesCount_le : sessionAttributesCount.toNat ≤ MAX_SDP_ATTRIBUTES_COUNT
  mediaCount_le : mediaCount.toNat ≤ MAX_SDP_SESSION_MEDIA_COUNT
  timeDescriptionCount_le : timeDescriptionCount.toNat ≤ MAX_SDP_SESSION_TIME_DESCRIPTION_COUNT

/-! ## The zeroed structure -/

open CharArray (zeroed)

def SdpConnectionInformation.zero : SdpConnectionInformation := ⟨zeroed _, zeroed _, zeroed _⟩

def SdpAttributes.zero : SdpAttributes := ⟨zeroed _, zeroed _⟩

def SdpMediaDescription.zero : SdpMediaDescription where
  mediaName := zeroed _
  mediaTitle := zeroed _
  sdpConnectionInformation := .zero
  sdpAttributes := .replicate _ .zero
  mediaAttributesCount := 0

def SessionDescription.zero : SessionDescription where
  version := 0
  sdpOrigin := ⟨zeroed _, 0, 0, .zero⟩
  sessionName := zeroed _
  sessionInformation := zeroed _
  uri := zeroed _
  emailAddress := zeroed _
  phoneNumber := zeroed _
  sdpTimeDescription := .replicate _ ⟨0, 0⟩
  sdpAttributes := .replicate _ .zero
  mediaDescriptions := .replicate _ .zero
  sessionAttributesCount := 0
  mediaCount := 0
  timeDescriptionCount := 0
  sessionAttributesCount_le := Nat.zero_le _
  mediaCount_le := Nat.zero_le _
  timeDescriptionCount_le := Nat.zero_le _

/-! ## What a description holds -/

/-- An attribute as its two texts. -/
def SdpAttributes.texts (a : SdpAttributes) : Bytes × Bytes :=
  (a.attributeName.text, a.attributeValue.text)

def SdpMediaDescription.attributes (m : SdpMediaDescription) : List (Bytes × Bytes) :=
  (m.sdpAttributes.firsts m.mediaAttributesCount.toNat).map SdpAttributes.texts

def SessionDescription.media (d : SessionDescription) : List SdpMediaDescription :=
  d.mediaDescriptions.firsts d.mediaCount.toNat

end KvsWebrtc.Sdp
