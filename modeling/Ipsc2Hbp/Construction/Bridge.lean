import Ipsc2Hbp.Construction.Core
import Ipsc2Hbp.Construction.IpscMaster
import Ipsc2Hbp.Construction.IpscPeer

namespace Ipsc2Hbp
open BigEndian

/-- The IPSC stack of either mode. -/
inductive IpscStack where
  | master (stack : IpscMaster)
  | peer (stack : IpscPeer)
  deriving DecidableEq

namespace IpscStack

/-- `main` makes the stack of the configured mode. -/
def initial (cfg : Config) : IpscStack :=
  match cfg.ipscMode with
  | .master => .master {}
  | .peer => .peer (IpscPeer.initial cfg)

def step (digests : Digests) (cfg : Config) (event : IpscEvent) : IpscStack → IpscStack × List IpscOutput
  | .master stack =>
      let result := stack.step digests cfg event
      (.master result.1, result.2)
  | .peer stack =>
      let result := stack.step digests cfg event
      (.peer result.1, result.2)

def isPeerRegistered : IpscStack → Bool
  | .master stack => stack.registered
  | .peer stack => stack.registered

def sendToPeer (digests : Digests) (cfg : Config) (packet : Bytes) : IpscStack → List IpscOutput
  | .master stack => stack.sendToPeer digests cfg packet
  | .peer stack => stack.sendToPeer digests cfg packet

end IpscStack

/-- The whole program: an IPSC stack, the translator and the HBP client. -/
structure Bridge where
  ipsc : IpscStack
  core : Core := {}

inductive BridgeOutput where
  | ipsc (output : IpscOutput)
  | core (output : CoreOutput)
  deriving DecidableEq

/-- The callbacks of the event loop. -/
inductive BridgeEvent where
  | ipsc (event : IpscEvent) (urandom : StreamId) (clock : Clock)
  | drain (ts : Timeslot) (clock : Clock)
  | hbp (event : HbpEvent) (draw : RtpDraw) (clock : Clock)

/-- The timeout in seconds with which the IPSC watchdogs check the calls. -/
def callTimeout : Time := 10

/-- An effect by which an exception leaves a handler. -/
def CoreOutput.isRaised : CoreOutput → Bool
  | .translator _ (.raised _) => true
  | .translator _ (.slot _ (.raised _)) => true
  | .hbp _ (.raised _) => true
  | _ => false

def BridgeOutput.isRaised : BridgeOutput → Bool
  | .ipsc (.raised _) => true
  | .core output => output.isRaised
  | _ => false

namespace Bridge

/-- The call of the translator that an effect of the IPSC stack is. -/
def call (connected : Bool) (urandom : StreamId) (clock : Clock) : IpscOutput → Option Event
  | .send .. => none
  | .peerRegistered .. => some .peerRegistered
  | .peerLost => some .peerLost
  | .checkCallTimeouts => some (.checkCallTimeouts callTimeout clock)
  | .ipscVoiceReceived data ts burstType =>
      some (.ipscVoice connected data ts burstType urandom clock)
  | .raised _ => none

/-- The packets that the translator hands to the IPSC stack are sent. -/
def forward (digests : Digests) (cfg : Config) (ipsc : IpscStack) (log : List CoreOutput) :
    List BridgeOutput :=
  log.flatMap fun output => .core output :: match output with
    | .translator _ (.slot _ (.sendToPeer entry)) =>
        (ipsc.sendToPeer digests cfg entry.packet).map .ipsc
    | _ => []

/-- The translator answers the calls of one IPSC callback; an exception ends the callback. -/
def deliver (digests : Digests) (dmr : DmrUtils) (cfg : Config) (urandom : StreamId) (clock : Clock)
    (ipsc : IpscStack) : Core → List IpscOutput → Core × List BridgeOutput
  | core, [] => (core, [])
  | core, output :: rest =>
      let first := match call core.client.isConnected urandom clock output with
        | none => (core, [])
        | some event => core.translate dmr cfg event
      let answered := .ipsc output :: forward digests cfg ipsc first.2
      if answered.any BridgeOutput.isRaised then (first.1, answered)
      else
        let tail := deliver digests dmr cfg urandom clock ipsc first.1 rest
        (tail.1, answered ++ tail.2)

/-- One callback of the program. -/
def step (digests : Digests) (dmr : DmrUtils) (cfg : Config) (bridge : Bridge) :
    BridgeEvent → Bridge × List BridgeOutput
  | .ipsc event urandom clock =>
      let result := bridge.ipsc.step digests cfg event
      let delivered := deliver digests dmr cfg urandom clock result.1 bridge.core result.2
      (⟨result.1, delivered.1⟩, delivered.2)
  | .drain ts clock =>
      let result := bridge.core.translate dmr cfg (.drain ts clock)
      ({ bridge with core := result.1 }, forward digests cfg bridge.ipsc result.2)
  | .hbp event draw clock =>
      let result := Core.step digests dmr cfg bridge.core
        (.hbp event bridge.ipsc.isPeerRegistered draw clock)
      ({ bridge with core := result.1 }, forward digests cfg bridge.ipsc result.2)

def initial (cfg : Config) : Bridge where
  ipsc := .initial cfg

end Bridge

/-- The program as one machine over the callbacks of its event loop. -/
def bridge (digests : Digests) (dmr : DmrUtils) (cfg : Config) :
    Mealy Bridge BridgeEvent BridgeOutput where
  step := Bridge.step digests dmr cfg

end Ipsc2Hbp
