import Ipsc2Hbp.Construction.Bridge

namespace Ipsc2Hbp
open BigEndian

namespace IpscPeer

def deRegReqPacket (cfg : Config) : Bytes := [deRegReq] ++ idB cfg.ipscPeerId

/-- `stop` takes leave of the master and of every connected peer. It keeps the registration. -/
def stop (digests : Digests) (cfg : Config) (peer : IpscPeer) : List IpscOutput :=
  if peer.registered then
    peer.sendToMaster digests cfg (deRegReqPacket cfg) false ++
      (peer.peers.filter fun entry => entry.connected).flatMap fun entry =>
        ipscSend digests cfg peer.transport (deRegReqPacket cfg) entry.ip entry.port
  else []

end IpscPeer

/-- The `stop` of an IPSCProtocol sends nothing. Both cancel their tasks. -/
def IpscStack.stop (digests : Digests) (cfg : Config) : IpscStack → List IpscOutput
  | .master _ => []
  | .peer stack => stack.stop digests cfg

/-- `HBPClient.stop` logs out also when the client is not active. It cancels the connect task. -/
def HbpClient.stop (cfg : Config) (client : HbpClient) : HbpClient × List HbpOutput :=
  { client with active := false }.onProtocol fun proto => proto.disconnect cfg true

/-- The endpoint for which the connect task waits: there is no transport yet, its `connection_made` is
queued, or that has run and the task is about to go on. -/
inductive Endpoint where
  | unmade
  | queued
  | made
  deriving DecidableEq, Repr

/-- The program with its signal handler. `timers` says that the tasks of the IPSC stack have not been
cancelled, `cancelled` that the connect task has been and has not yet ended. -/
structure Program where
  bridge : Bridge
  timers : Bool := true
  cancelled : Bool := false
  endpoint : Endpoint := .unmade

/-- `stop` is what the signal handler does, and `main` once more when the loop has stopped. The
callback `endpointCreated` creates an endpoint in one go; `transportMade`, `connectionMade` and
`connectResumed` are its parts, between which a stop may fall. -/
inductive ProgramEvent where
  | callback (event : BridgeEvent)
  | stop
  | transportMade
  | connectionMade
  | connectResumed (draw : RtpDraw) (clock : Clock)
  | connectCancelled

namespace Program

/-- A round of a task of the IPSC stack. -/
def isTimer : BridgeEvent → Bool
  | .ipsc (.watchdog _) .. | .ipsc (.maintenance _) .. => true
  | _ => false

/-- A step of the connect task. -/
def isConnect : BridgeEvent → Bool
  | .hbp .loopTop .. | .hbp .endpointCreated .. | .hbp .endpointFailed .. | .hbp .doneWaited .. => true
  | _ => false

/-- A task that has been cancelled takes no further step, and the connect task none while it waits for
its endpoint. -/
def takes (program : Program) (event : BridgeEvent) : Bool :=
  (program.timers || !isTimer event) &&
    (!isConnect event || (!program.cancelled && program.endpoint = .unmade))

/-- `cancel` has no effect on a connect task that is done. -/
def stop (digests : Digests) (cfg : Config) (program : Program) : Program × List BridgeOutput :=
  let client := program.bridge.core.client
  let stopped := client.stop cfg
  ({ program with
     bridge := { program.bridge with core.client := stopped.1 }
     timers := false
     cancelled := program.cancelled || (client.task ≠ .unset && client.task ≠ .finished) },
    (program.bridge.ipsc.stop digests cfg).map .ipsc ++
      stopped.2.map fun output => .core (.hbp client.session output))

def step (digests : Digests) (dmr : DmrUtils) (cfg : Config) (program : Program) :
    ProgramEvent → Program × List BridgeOutput
  | .callback event =>
      if program.takes event then
        let result := Bridge.step digests dmr cfg program.bridge event
        ({ program with bridge := result.1 }, result.2)
      else (program, [])
  | .stop => program.stop digests cfg
  | .transportMade =>
      if program.bridge.core.client.task = .connecting && !program.cancelled &&
          program.endpoint = .unmade then
        ({ program with endpoint := .queued }, [])
      else (program, [])
  | .connectionMade =>
      if program.endpoint = .queued then
        ({ program with endpoint := .made },
          (HbpProtocol.connectionMade cfg {}).2.map fun output =>
            .core (.hbp (program.bridge.core.client.session + 1) output))
      else (program, [])
  | .connectResumed draw clock =>
      if program.endpoint = .made && !program.cancelled then
        -- the RPTL has left in `connection_made`
        let result := Bridge.step digests dmr cfg program.bridge (.hbp .endpointCreated draw clock)
        ({ program with bridge := result.1, endpoint := .unmade }, [])
      else (program, [])
  | .connectCancelled =>
      -- the task wakes after a queued `connection_made` and closes the transport
      if program.cancelled && program.endpoint ≠ .queued then
        ({ program with
            bridge.core.client.task := .finished
            bridge.core.client.session := program.bridge.core.client.session +
              (if program.endpoint = .made then 1 else 0)
            cancelled := false, endpoint := .unmade }, [])
      else (program, [])

def initial (cfg : Config) : Program where
  bridge := .initial cfg

end Program

/-- The program from its start to the end of its loop. -/
def program (digests : Digests) (dmr : DmrUtils) (cfg : Config) :
    Mealy Program ProgramEvent BridgeOutput where
  step := Program.step digests dmr cfg

end Ipsc2Hbp
