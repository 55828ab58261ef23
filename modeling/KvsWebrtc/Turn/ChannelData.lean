import KvsWebrtc.Stun.Packet

/-!
# TURN peers (`TurnConnection.c`)

`turnConnectionAddPeer` gives an address that is not known yet the next channel number, while there
is room for it.
-/

namespace KvsWebrtc.Turn

open Stun

/-- The fields of a peer that channel data is routed by. -/
structure TurnPeer where
  address : KvsIpAddress
  channelNumber : UINT16
  deriving DecidableEq, Repr

/-! ## Peers -/

def IS_STUN_PACKET (p : Bytes) : Bool := getUnalignedInt32BigEndian p 4 = STUN_HEADER_MAGIC_COOKIE

abbrev DEFAULT_TURN_MAX_PEER_COUNT : Nat := 32
abbrev TURN_CHANNEL_BIND_CHANNEL_NUMBER_BASE : UINT16 := 0x4000

/-- `isSameIpAddress` with the port checked. -/
def isSameIpAddress (a b : KvsIpAddress) : Bool :=
  a.family = b.family && a.address.take a.addressLength = b.address.take a.addressLength &&
    a.port = b.port

/-- `turnConnectionAddPeer` for an address of the family of the TURN server: the list stays as it
is when the peer is known or the list is full. -/
def turnConnectionAddPeer (turnPeerList : List TurnPeer) (peerAddress : KvsIpAddress) :
    List TurnPeer :=
  if turnPeerList.any (fun p => isSameIpAddress p.address peerAddress) then turnPeerList
  else if DEFAULT_TURN_MAX_PEER_COUNT ≤ turnPeerList.length then turnPeerList
  else turnPeerList ++ [{
    address := peerAddress
    channelNumber := BitVec.ofNat 16 (turnPeerList.length + 1) +
      TURN_CHANNEL_BIND_CHANNEL_NUMBER_BASE }]

end KvsWebrtc.Turn
