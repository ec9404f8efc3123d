import Ipsc2Hbp.Construction.State

namespace Ipsc2Hbp
open BigEndian

/-- The states of an _HBPProtocol. -/
inductive HbpState where
  | login
  | authSent
  | configSent
  | optionsSent
  | connected
  | disconnected
  deriving DecidableEq, Repr

/-- The state of one _HBPProtocol. `transport` and `pingTask` say that the field is set; a protocol
whose transport has been closed waits for its `connection_lost`. -/
structure HbpProtocol where
  state : HbpState := .login
  transport : Bool := false
  lastPong : Time := 0
  pingTask : Bool := false
  deriving DecidableEq

/-- The effects of the HBP stack: datagrams to the master and calls of the translator. -/
inductive HbpOutput where
  | send (data : Bytes)
  | sendDmrd (data : Bytes)
  | hbpConnected
  | hbpDisconnected
  | hbpVoiceReceived (dmrd : Bytes)
  | raised (err : PyErr)
  deriving DecidableEq, Repr

/-- The age in seconds at which the last MSTPONG is too old. -/
def maxKaAge : Time := 15

def radioId (cfg : Config) : Bytes := natToBytes 4 cfg.hbpRepeaterId

/-- A text field is cut or filled up with zeros to its width. -/
def enc (text : String) (width : Nat) : Bytes :=
  (text.toUTF8.toList ++ List.replicate width 0).take width

/-- `_build_rptc` is the configuration of the repeater. -/
def buildRptc (cfg : Config) : Bytes :=
  hbpfRptc ++ radioId cfg ++ enc cfg.callsign 8 ++ enc cfg.rxFreq 9 ++ enc cfg.txFreq 9 ++
    enc cfg.txPower 2 ++ enc cfg.colorcode 2 ++ enc cfg.latitude 8 ++ enc cfg.longitude 9 ++
    enc cfg.height 3 ++ enc cfg.location 20 ++ enc cfg.description 19 ++ rptcSlotsValue ++
    enc cfg.url 124 ++ enc cfg.softwareId 40 ++ enc cfg.packageId 40

namespace HbpProtocol

/-- `_send_raw` needs the transport. -/
def sendRaw (data : Bytes) (proto : HbpProtocol) : List HbpOutput :=
  if proto.transport then [.send data] else []

/-- `send_dmrd` also needs the CONNECTED state. -/
def sendDmrd (data : Bytes) (proto : HbpProtocol) : List HbpOutput :=
  if proto.state = .connected && proto.transport then [.sendDmrd data] else []

def isConnected (proto : HbpProtocol) : Bool := proto.state = .connected

/-- `connection_made` logs in. -/
def connectionMade (cfg : Config) (proto : HbpProtocol) : HbpProtocol × List HbpOutput :=
  ({ proto with transport := true }, [.send (hbpfRptl ++ radioId cfg)])

/-- `_disconnect` closes the transport and cancels the keepalive task. -/
def disconnect (cfg : Config) (sendRptcl : Bool) (proto : HbpProtocol) :
    HbpProtocol × List HbpOutput :=
  ({ proto with state := .disconnected, transport := false, pingTask := false },
    if sendRptcl && proto.state = .connected then proto.sendRaw (hbpfRptcl ++ radioId cfg) else [])

/-- `error_received` clears the translator's calls if the session was up. -/
def errorReceived (cfg : Config) (proto : HbpProtocol) : HbpProtocol × List HbpOutput :=
  if proto.state = .disconnected then (proto, [])
  else
    let closed := proto.disconnect cfg false
    (closed.1, (if proto.state = .connected then [.hbpDisconnected] else []) ++ closed.2)

/-- `_become_connected` starts the keepalive task. -/
def becomeConnected (now : Time) (proto : HbpProtocol) : HbpProtocol × List HbpOutput :=
  ({ proto with state := .connected, lastPong := now, pingTask := true }, [.hbpConnected])

/-- `_on_rptack` takes the next step of the login. -/
def onRptack (digests : Digests) (cfg : Config) (data : Bytes) (now : Time) (proto : HbpProtocol) :
    HbpProtocol × List HbpOutput :=
  match proto.state with
  | .login =>
      if data.length < rptackNonceOff + 4 then (proto, [])
      else
        let salt := data.extract rptackNonceOff (rptackNonceOff + 4)
        ({ proto with state := .authSent },
          proto.sendRaw (hbpfRptk ++ radioId cfg ++ digests.sha256 (salt ++ cfg.hbpPassphrase)))
  | .authSent => ({ proto with state := .configSent }, proto.sendRaw (buildRptc cfg))
  | .configSent =>
      if cfg.options ≠ "" then
        ({ proto with state := .optionsSent },
          proto.sendRaw (hbpfRpto ++ radioId cfg ++ enc cfg.options 300))
      else proto.becomeConnected now
  | .optionsSent => proto.becomeConnected now
  | .connected | .disconnected => (proto, [])

/-- `datagram_received` dispatches on the longest matching command word. -/
def datagramReceived (digests : Digests) (cfg : Config) (data : Bytes) (now : Time)
    (proto : HbpProtocol) : HbpProtocol × List HbpOutput :=
  if data.length < 4 then (proto, [])
  else if 6 ≤ data.length && data.take 6 = hbpfRptack then proto.onRptack digests cfg data now
  else if 6 ≤ data.length && data.take 6 = hbpfMstnak then proto.disconnect cfg false
  else if 7 ≤ data.length && data.take 7 = hbpfMstpong then ({ proto with lastPong := now }, [])
  else if 5 ≤ data.length && data.take 5 = hbpfMstcl then proto.disconnect cfg false
  else if data.take 4 = hbpfDmrd then
    (proto, if proto.state = .connected then [.hbpVoiceReceived data] else [])
  else (proto, [])

/-- One round of `_keepalive_loop` after its sleep. -/
def keepalive (cfg : Config) (now : Time) (proto : HbpProtocol) : HbpProtocol × List HbpOutput :=
  if proto.state ≠ .connected then (proto, [])
  else
    let ping := proto.sendRaw (hbpfRptping ++ radioId cfg)
    if maxKaAge < now - proto.lastPong then
      let closed := proto.disconnect cfg false
      (closed.1, ping ++ [.hbpDisconnected] ++ closed.2)
    else (proto, ping)

end HbpProtocol

/-- The places at which the task of `_connect_loop` waits. -/
inductive ConnectTask where
  | unset
  | loopTop
  | connecting
  | waitDone
  | sleeping
  | finished
  deriving DecidableEq, Repr

/-- The state of the HBPClient; `started` says that `_loop` is set. `session` numbers the protocols
that it has created; it is a history variable that no branch reads. -/
structure HbpClient where
  started : Bool := false
  protocol : Option HbpProtocol := none
  active : Bool := false
  task : ConnectTask := .unset
  session : Nat := 0
  deriving DecidableEq

/-- The callbacks and task steps of the HBP stack, with the datagrams and clock readings. -/
inductive HbpEvent where
  | start
  | loopTop
  | endpointCreated
  | endpointFailed
  | doneWaited
  | connectionLost
  | errorReceived
  | datagramReceived (data : Bytes) (now : Time)
  | keepalive (now : Time)

namespace HbpClient

def isConnected (client : HbpClient) : Bool :=
  match client.protocol with
  | none => false
  | some proto => proto.isConnected

/-- A handler of the current protocol. -/
def onProtocol (handler : HbpProtocol → HbpProtocol × List HbpOutput) (client : HbpClient) :
    HbpClient × List HbpOutput :=
  match client.protocol with
  | none => (client, [])
  | some proto =>
      let result := handler proto
      ({ client with protocol := some result.1 }, result.2)

/-- `send_dmrd` passes the frame on to the protocol. -/
def sendDmrd (data : Bytes) (client : HbpClient) : List HbpOutput :=
  match client.protocol with
  | none => []
  | some proto => proto.sendDmrd data

/-- `activate` starts the connect task unless it is running. Before `start` there is no event loop
to start it on. -/
def activate (client : HbpClient) : HbpClient × List HbpOutput :=
  if client.active then (client, [])
  else
    let client := { client with active := true }
    if client.task = .unset || client.task = .finished then
      if client.started then ({ client with task := .loopTop }, [])
      else (client, [.raised .attributeError])
    else (client, [])

/-- `deactivate` logs out of the current session. -/
def deactivate (cfg : Config) (client : HbpClient) : HbpClient × List HbpOutput :=
  if !client.active then (client, [])
  else { client with active := false }.onProtocol fun proto => proto.disconnect cfg true

/-- `start` sets the event loop; in PERSISTENT mode it also activates. -/
def start (cfg : Config) (client : HbpClient) : HbpClient × List HbpOutput :=
  let client := { client with started := true }
  if cfg.hbpMode = .persistent then client.activate else (client, [])

/-- The connect task goes on after a failed attempt or a lost connection. -/
def retry (client : HbpClient) : HbpClient :=
  { client with task := if client.active then .sleeping else .finished }

/-- One step of the HBP stack. What cannot happen in a state changes nothing: datagrams come over an
open transport only, and `connection_lost` after it has been closed. -/
def step (digests : Digests) (cfg : Config) (client : HbpClient) :
    HbpEvent → HbpClient × List HbpOutput
  | .start => client.start cfg
  | .loopTop =>
      if client.task = .loopTop || client.task = .sleeping then
        ({ client with task := if client.active then .connecting else .finished }, [])
      else (client, [])
  | .endpointCreated =>
      if client.task = .connecting then
        let made := HbpProtocol.connectionMade cfg {}
        ({ client with
            protocol := some made.1, task := .waitDone, session := client.session + 1 }, made.2)
      else (client, [])
  | .endpointFailed => (if client.task = .connecting then client.retry else client, [])
  | .doneWaited =>
      (if client.task = .waitDone && client.protocol.isNone then client.retry else client, [])
  | .connectionLost =>
      match client.protocol with
      | none => (client, [])
      | some proto => (if proto.transport then client else { client with protocol := none }, [])
  | .errorReceived => client.onProtocol fun proto => proto.errorReceived cfg
  | .datagramReceived data now =>
      client.onProtocol fun proto =>
        if proto.transport then proto.datagramReceived digests cfg data now else (proto, [])
  | .keepalive now =>
      client.onProtocol fun proto => if proto.pingTask then proto.keepalive cfg now else (proto, [])

end HbpClient

end Ipsc2Hbp
