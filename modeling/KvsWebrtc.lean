import KvsWebrtc.Sctp.Handshake
import KvsWebrtc.Sctp.OutPacket
import KvsWebrtc.Rtcp.TwccRoundTrip
import KvsWebrtc.Rtp.ReceiveStats
import KvsWebrtc.Jitter.WholeFrames
import KvsWebrtc.Rtp.PacketRoundTrip
import KvsWebrtc.Stun.Safety
import KvsWebrtc.Ice.Authentication
import KvsWebrtc.Ice.Agreement
import KvsWebrtc.Rtp.PutBack
import KvsWebrtc.Sctp.Rejection
import KvsWebrtc.Sctp.AllOrNothing
import KvsWebrtc.Sctp.GapBlocks
import KvsWebrtc.Sctp.Repeat
import KvsWebrtc.Sctp.Milliseconds
import KvsWebrtc.Rtp.NackList
import KvsWebrtc.Rtp.SeqLookup
import KvsWebrtc.Rtp.Pacer
import KvsWebrtc.Rtcp.TwccReceiver
import KvsWebrtc.Rtcp.TwccWindow
import KvsWebrtc.Jitter.Flush
import KvsWebrtc.Codecs.DepaySafety
import KvsWebrtc.Codecs.VP8RoundTrip
import KvsWebrtc.PeerConnection.ReceiverSsrc
import KvsWebrtc.Rtcp.Remb
import KvsWebrtc.Rtcp.RoundTripTime
import KvsWebrtc.Rtp.RedSplit
import KvsWebrtc.Sdp.Serialize
import KvsWebrtc.Stun.Layout
import KvsWebrtc.Codecs.PlainScan
import KvsWebrtc.Crypto.IOBuffer
import KvsWebrtc.Ice.DnsHostname
import KvsWebrtc.Ice.LiteAgent
import KvsWebrtc.Ice.PairPriority
import KvsWebrtc.Ice.ServerUrl
import KvsWebrtc.Ice.TurnPeers
import KvsWebrtc.PeerConnection.Gcc
import KvsWebrtc.Rtcp.HeaderExtension
import KvsWebrtc.Rtp.RollingWindow
import KvsWebrtc.Signaling.CacheSafety
import KvsWebrtc.Signaling.CacheStore
import KvsWebrtc.Signaling.IceConfig
import KvsWebrtc.Signaling.MessageQueue
import KvsWebrtc.Turn.PeerTable
import KvsWebrtc.Signaling.StateMachine
