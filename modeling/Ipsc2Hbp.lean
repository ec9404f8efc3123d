import Ipsc2Hbp.Library.Precedence
import Ipsc2Hbp.Library.Sessions
import Ipsc2Hbp.Construction.Bridge
import Ipsc2Hbp.Construction.Load
import Ipsc2Hbp.Construction.DmrCodec
import Ipsc2Hbp.Construction.Packets
import Ipsc2Hbp.Proof.Exclusive
import Ipsc2Hbp.Proof.TalkgroupLaw
import Ipsc2Hbp.Proof.TimeslotIsolation
import Ipsc2Hbp.Proof.HungCalls
import Ipsc2Hbp.Proof.Reflection
import Ipsc2Hbp.Proof.SequenceGaps
import Ipsc2Hbp.Proof.StreamBytes
import Ipsc2Hbp.Proof.AuthKey
import Ipsc2Hbp.Proof.Addresses
import Ipsc2Hbp.Proof.GroupVoiceOnly
import Ipsc2Hbp.Proof.StreamPerCall
import Ipsc2Hbp.Proof.CallRecords
import Ipsc2Hbp.Proof.PacketFormat
import Ipsc2Hbp.Proof.PacingRefines
import Ipsc2Hbp.Proof.LockRelease
import Ipsc2Hbp.Proof.RoundTrip
import Ipsc2Hbp.Proof.MasterGuard
import Ipsc2Hbp.Proof.MasterOnce
import Ipsc2Hbp.Proof.MasterIdentity
import Ipsc2Hbp.Proof.PeerListUpdate
import Ipsc2Hbp.Proof.SessionsApart
import Ipsc2Hbp.Proof.ClientLife
import Ipsc2Hbp.Proof.Handshake
import Ipsc2Hbp.Library.Network
import Ipsc2Hbp.Proof.Layers
import Ipsc2Hbp.Construction.Link
import Ipsc2Hbp.Proof.LinkMaster
import Ipsc2Hbp.Proof.LinkPeer
import Ipsc2Hbp.Proof.Link
import Ipsc2Hbp.Proof.LinkRecovery
import Ipsc2Hbp.Proof.LinkContent
import Ipsc2Hbp.Proof.Relay
import Ipsc2Hbp.Construction.FakeHbpMaster
import Ipsc2Hbp.Proof.HbpAgreement
import Ipsc2Hbp.Proof.HbpConnects
import Ipsc2Hbp.Library.Lease
import Ipsc2Hbp.Proof.Leases
import Ipsc2Hbp.Proof.PeerLeases
import Ipsc2Hbp.Proof.HbpRecovery
import Ipsc2Hbp.Construction.Shutdown
import Ipsc2Hbp.Proof.Shutdown
import Ipsc2Hbp.Proof.AcceptedConfig
import Ipsc2Hbp.Proof.PacingAgrees
import Ipsc2Hbp.Proof.PacedRelay
import Ipsc2Hbp.Construction.Fallible
import Ipsc2Hbp.Proof.Fallible
import Ipsc2Hbp.Proof.SelfDriven
import Ipsc2Hbp.Proof.FallibleAgrees
