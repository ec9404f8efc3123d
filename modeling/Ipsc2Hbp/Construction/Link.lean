import Ipsc2Hbp.Library.Network
import Ipsc2Hbp.Construction.Bridge

namespace Ipsc2Hbp
open BigEndian

/-- Two programs on one IPSC link, with the addresses of their sockets. -/
structure Link where
  master : Config
  peer : Config
  masterHost : String
  masterPort : UInt16
  peerHost : String
  peerPort : UInt16

/-- A datagram with the address it was sent from and the one it is sent to. -/
structure Datagram where
  data : Bytes
  source : Addr
  host : String
  port : UInt16
  deriving DecidableEq

abbrev LinkState := Bridge × Bridge

abbrev LinkEvent := BridgeEvent ⊕ BridgeEvent

abbrev LinkOutput := BridgeOutput ⊕ BridgeOutput

/-- A datagram of the program that sends from the address. -/
def BridgeOutput.datagram (source : Addr) : BridgeOutput → Option Datagram
  | .ipsc (.send packet host port) => some ⟨packet, source, host, port⟩
  | _ => none

/-- A datagram that passes the check of the digest. One that does not may be anyone's. -/
def BridgeEvent.datagram (digests : Digests) (cfg : Config) (host : String) (port : UInt16) :
    BridgeEvent → Option Datagram
  | .ipsc (.datagramReceived data addr _) .. =>
      if (checkedPayload digests cfg data).isSome then some ⟨data, addr, host, port⟩ else none
  | _ => none

namespace Link
variable (digests : Digests) (dmr : DmrUtils) (link : Link)

/-- Both programs, each with the callbacks of its own event loop. -/
def machine : Mealy LinkState LinkEvent LinkOutput :=
  (bridge digests dmr link.master).beside (bridge digests dmr link.peer)

def initial : LinkState := (Bridge.initial link.master, Bridge.initial link.peer)

def sent : LinkOutput → Option Datagram
  | .inl output => output.datagram (.inet link.masterHost link.masterPort)
  | .inr output => output.datagram (.inet link.peerHost link.peerPort)

def arrives : LinkEvent → Option Datagram
  | .inl event => event.datagram digests link.master link.masterHost link.masterPort
  | .inr event => event.datagram digests link.peer link.peerHost link.peerPort

/-- The network carries what the two programs send, with losses, repetitions and delays. -/
def Carried (events : List LinkEvent) : Prop :=
  (link.machine digests dmr).Meets (Mealy.Carried link.sent (link.arrives digests)) [] link.initial
    events

/-- The configurations belong together as `load` leaves them. -/
structure Proper : Prop where
  masterMode : link.master.ipscMode = .master
  peerMode : link.peer.ipscMode = .peer
  masterSource : link.master.ipscSourceId = link.master.ipscMasterId
  peerSource : link.peer.ipscSourceId = link.peer.ipscPeerId
  masterNonzero : link.master.ipscMasterId ≠ 0
  masterWidth : link.master.ipscMasterId < 256 ^ 4
  peerNonzero : link.peer.ipscPeerId ≠ 0
  peerWidth : link.peer.ipscPeerId < 256 ^ 4
  distinct : link.master.ipscMasterId ≠ link.peer.ipscPeerId
  authEnabled : link.peer.authEnabled = link.master.authEnabled
  authKey : link.peer.authKey = link.master.authKey
  upstreamIp : link.peer.ipscUpstreamMasterIp = link.masterHost
  upstreamPort : link.peer.ipscUpstreamMasterPort = link.masterPort
  upstreamId : link.peer.ipscUpstreamMasterId = 0 ∨
    link.peer.ipscUpstreamMasterId = link.master.ipscMasterId
  apart : link.masterHost ≠ link.peerHost ∨ link.masterPort ≠ link.peerPort

end Link

end Ipsc2Hbp
