import Ipsc2Hbp.Construction.Bridge

/- The program over an HBP socket that may fail: a `sendto` that meets a socket error calls
`error_received` before it returns. The other definitions assume that `sendto` succeeds. -/
namespace Ipsc2Hbp.Fallible
open BigEndian

/-- A call of `sendto`; when it fails, `error_received` runs inside it. -/
def sendto (cfg : Config) (failed : Bool) (output : HbpOutput) (proto : HbpProtocol) :
    HbpProtocol × List HbpOutput :=
  if failed then
    let received := proto.errorReceived cfg
    (received.1, output :: received.2)
  else (proto, [output])

def sendRaw (cfg : Config) (failed : Bool) (data : Bytes) (proto : HbpProtocol) :
    HbpProtocol × List HbpOutput :=
  if proto.transport then sendto cfg failed (.send data) proto else (proto, [])

def sendDmrd (cfg : Config) (failed : Bool) (data : Bytes) (proto : HbpProtocol) :
    HbpProtocol × List HbpOutput :=
  if proto.state = .connected && proto.transport then sendto cfg failed (.sendDmrd data) proto
  else (proto, [])

def connectionMade (cfg : Config) (failed : Bool) (proto : HbpProtocol) :
    HbpProtocol × List HbpOutput :=
  sendRaw cfg failed (hbpfRptl ++ radioId cfg) { proto with transport := true }

/-- `_disconnect` sets its fields after the RPTCL. -/
def disconnect (cfg : Config) (failed sendRptcl : Bool) (proto : HbpProtocol) :
    HbpProtocol × List HbpOutput :=
  let sent := if sendRptcl && proto.state = .connected then
      sendRaw cfg failed (hbpfRptcl ++ radioId cfg) proto
    else (proto, [])
  ({ sent.1 with state := .disconnected, transport := false, pingTask := false }, sent.2)

/-- `_on_rptack` sets the next state after the send, whatever the send has done to the state. -/
def onRptack (digests : Digests) (cfg : Config) (failed : Bool) (data : Bytes) (now : Time)
    (proto : HbpProtocol) : HbpProtocol × List HbpOutput :=
  match proto.state with
  | .login =>
      if data.length < rptackNonceOff + 4 then (proto, [])
      else
        let salt := data.extract rptackNonceOff (rptackNonceOff + 4)
        let sent := sendRaw cfg failed
          (hbpfRptk ++ radioId cfg ++ digests.sha256 (salt ++ cfg.hbpPassphrase)) proto
        ({ sent.1 with state := .authSent }, sent.2)
  | .authSent =>
      let sent := sendRaw cfg failed (buildRptc cfg) proto
      ({ sent.1 with state := .configSent }, sent.2)
  | .configSent =>
      if cfg.options ≠ "" then
        let sent := sendRaw cfg failed (hbpfRpto ++ radioId cfg ++ enc cfg.options 300) proto
        ({ sent.1 with state := .optionsSent }, sent.2)
      else proto.becomeConnected now
  | .optionsSent => proto.becomeConnected now
  | .connected | .disconnected => (proto, [])

/-- Of the commands only RPTACK is answered with a datagram. -/
def datagramReceived (digests : Digests) (cfg : Config) (failed : Bool) (data : Bytes) (now : Time)
    (proto : HbpProtocol) : HbpProtocol × List HbpOutput :=
  if 6 ≤ data.length && data.take 6 = hbpfRptack then onRptack digests cfg failed data now proto
  else proto.datagramReceived digests cfg data now

/-- The round of `_keepalive_loop` goes on after a failed RPTPING. -/
def keepalive (cfg : Config) (failed : Bool) (now : Time) (proto : HbpProtocol) :
    HbpProtocol × List HbpOutput :=
  if proto.state ≠ .connected then (proto, [])
  else
    let ping := sendRaw cfg failed (hbpfRptping ++ radioId cfg) proto
    if maxKaAge < now - proto.lastPong then
      let closed := ping.1.disconnect cfg false
      (closed.1, ping.2 ++ [.hbpDisconnected] ++ closed.2)
    else ping

/-- `deactivate` of the client. -/
def deactivate (cfg : Config) (failed : Bool) (client : HbpClient) : HbpClient × List HbpOutput :=
  if !client.active then (client, [])
  else { client with active := false }.onProtocol (disconnect cfg failed true)

/-- One step of the HBP stack, which calls `sendto` once at most. The `connection_lost` of a failed RPTL
comes before the connect task goes on, which keeps the closed protocol and waits for nothing. -/
def clientStep (digests : Digests) (cfg : Config) (failed : Bool) (client : HbpClient) :
    HbpEvent → HbpClient × List HbpOutput
  | .endpointCreated =>
      if client.task = .connecting then
        let made := connectionMade cfg failed {}
        let resumed := { client with protocol := some made.1, session := client.session + 1 }
        (if failed then resumed.retry else { resumed with task := .waitDone }, made.2)
      else (client, [])
  | .connectionLost =>
      if client.task = .waitDone then client.step digests cfg .connectionLost else (client, [])
  | .datagramReceived data now =>
      client.onProtocol fun proto =>
        if proto.transport then datagramReceived digests cfg failed data now proto else (proto, [])
  | .keepalive now =>
      client.onProtocol fun proto => if proto.pingTask then keepalive cfg failed now proto else (proto, [])
  | event => client.step digests cfg event

/-- A call of the translator to the HBP client. -/
def command (cfg : Config) (failed : Bool) (client : HbpClient) : Output → HbpClient × List HbpOutput
  | .activate => client.activate
  | .deactivate => deactivate cfg failed client
  | .slot _ (.sendDmrd dmrd) => client.onProtocol (sendDmrd cfg failed dmrd)
  | _ => (client, [])

/-- `error_received` tells the translator at once. -/
def tell (dmr : DmrUtils) (cfg : Config) : Core → List HbpOutput → Core × List CoreOutput
  | core, [] => (core, [])
  | core, output :: rest =>
      let told := if output = .hbpDisconnected then core.translate dmr cfg .hbpDisconnected
        else (core, [])
      let tail := tell dmr cfg told.1 rest
      (tail.1, .hbp core.client.session output :: (told.2 ++ tail.2))

/-- The client obeys one call of the translator. -/
def obey (dmr : DmrUtils) (cfg : Config) (failed : Bool) (core : Core) (output : Output) :
    Core × List CoreOutput :=
  let result := command cfg failed core.client output
  let told := tell dmr cfg { core with client := result.1 } result.2
  (told.1, .translator core.client.session output :: told.2)

/-- The client obeys the calls of one callback, of which one at most sends. -/
def obeyAll (dmr : DmrUtils) (cfg : Config) (failed : Bool) :
    Core → List Output → Core × List CoreOutput
  | core, [] => (core, [])
  | core, output :: rest =>
      let first := obey dmr cfg failed core output
      let tail := obeyAll dmr cfg failed first.1 rest
      (tail.1, first.2 ++ tail.2)

/-- A callback of the translator other than `ipsc_voice_received`. -/
def translate (dmr : DmrUtils) (cfg : Config) (failed : Bool) (event : Event) (core : Core) :
    Core × List CoreOutput :=
  let result := Translator.step dmr cfg core.translator event
  obeyAll dmr cfg failed { core with translator := result.1 } result.2

/-- The translator keeps a new state of one timeslot. -/
def putSlot (ts : Timeslot) (slot : Slot) (core : Core) : Core :=
  { core with translator.slot := Function.update core.translator.slot ts slot }

/-- The send loop reads the stream of its slot anew for each copy, and `hbp_disconnected` may have
cleared it; the flag says that the loop has ended without an exception. -/
def sendFrames (dmr : DmrUtils) (cfg : Config) (fails : Nat → Bool) (ts : Timeslot)
    (srcSub dstGroup : Bytes) (flags : UInt8) (payload : Bytes) :
    Nat → Nat → Core → Core × List CoreOutput × Bool
  | 0, _, core => (core, [], true)
  | count + 1, index, core =>
      match (core.translator.slot ts).outCall.streamId with
      | none => (core, [.translator core.client.session (.slot ts (.raised .typeError))], false)
      | some streamId =>
          let seq := core.translator.shared.outSeq
          let dmrd := dmrdFrame cfg seq srcSub dstGroup flags streamId payload
          let sent := obey dmr cfg (fails index) { core with translator.shared.outSeq := seq + 1 }
            (.slot ts (.sendDmrd dmrd))
          let rest := sendFrames dmr cfg fails ts srcSub dstGroup flags payload count (index + 1) sent.1
          (rest.1, sent.2 ++ rest.2.1, rest.2.2)

/-- The tail of `ipsc_voice_received`. -/
def sendBurst (dmr : DmrUtils) (cfg : Config) (fails : Nat → Bool) (ts : Timeslot)
    (srcSub dstGroup : Bytes) (burstType : UInt8) (now : Time) (core : Core) :
    Burst → Core × List CoreOutput
  | .done slot actions =>
      (putSlot ts slot core, actions.map fun action => .translator core.client.session (.slot ts action))
  | .frame slot actions payload flags =>
      let flags := (if ts = .ts2 then hbpfTgidTs2 else 0x00) ||| flags
      let repeatCount := if cfg.legacyFlow && burstType = voiceHead then 2 else 1
      let sent := sendFrames dmr cfg fails ts srcSub dstGroup flags payload repeatCount 0
        (putSlot ts slot core)
      let log := actions.map (fun action => .translator core.client.session (.slot ts action)) ++ sent.2.1
      if sent.2.2 && burstType = voiceTerm then
        (putSlot ts (endIpscCall cfg now (sent.1.translator.slot ts)) sent.1, log)
      else (sent.1, log)

/-- `ipsc_voice_received`, whose sends fail as `fails` says. -/
def ipscVoiceReceived (dmr : DmrUtils) (cfg : Config) (fails : Nat → Bool) (data : Bytes)
    (ts : Timeslot) (burstType : UInt8) (urandom : StreamId) (clock : Clock) (core : Core) :
    Core × List CoreOutput :=
  if !core.client.isConnected then (core, [])
  else
    let slot := { core.translator.slot ts with outCall.lastPkt := clock 0 }
    let srcSub := gvSrcSub data
    let dstGroup := gvDstGroup data
    let ipscStream := data[gvIpscSeqOff]?
    let dropped := legacyIpscStreamDrop cfg ipscStream burstType (clock 1) slot
    if dropped.1 then (putSlot ts dropped.2 core, [])
    else
      let blocked := callLockBlocks cfg dropped.2 (.ipsc ipscStream) srcSub dstGroup
        (burstType = voiceTerm) (clock 2)
      if blocked.1 then (putSlot ts blocked.2 core, [])
      else
        let suppressed := shouldSuppressIpscReflection cfg ipscStream burstType srcSub dstGroup
          (clock 3) blocked.2
        if suppressed.1 then (putSlot ts suppressed.2 core, [])
        else
          let slot := { suppressed.2 with ipscBusyLast := clock 4 }
          sendBurst dmr cfg fails ts srcSub dstGroup burstType (clock 5)
            { core with translator.shared := core.translator.shared.learn data }
            (burstOf dmr cfg data srcSub dstGroup burstType urandom slot)

/-- The translator's answer to an effect of the IPSC stack. -/
def answer (dmr : DmrUtils) (cfg : Config) (fails : Nat → Bool) (urandom : StreamId) (clock : Clock)
    (core : Core) (output : IpscOutput) : Core × List CoreOutput :=
  match Bridge.call core.client.isConnected urandom clock output with
  | none => (core, [])
  | some (.ipscVoice _ data ts burstType urandom clock) =>
      ipscVoiceReceived dmr cfg fails data ts burstType urandom clock core
  | some event => translate dmr cfg (fails 0) event core

/-- The translator answers the calls of one IPSC callback; an exception ends the callback. -/
def deliver (digests : Digests) (dmr : DmrUtils) (cfg : Config) (fails : Nat → Bool)
    (urandom : StreamId) (clock : Clock) (ipsc : IpscStack) :
    Core → List IpscOutput → Core × List BridgeOutput
  | core, [] => (core, [])
  | core, output :: rest =>
      let first := answer dmr cfg fails urandom clock core output
      let answered := .ipsc output :: Bridge.forward digests cfg ipsc first.2
      if answered.any BridgeOutput.isRaised then (first.1, answered)
      else
        let tail := deliver digests dmr cfg fails urandom clock ipsc first.1 rest
        (tail.1, answered ++ tail.2)

/-- One callback of the program; `fails` says which of its calls of the HBP `sendto` fail. -/
def step (digests : Digests) (dmr : DmrUtils) (cfg : Config) (bridge : Bridge)
    (event : BridgeEvent) (fails : Nat → Bool) : Bridge × List BridgeOutput :=
  match event with
  | .ipsc event urandom clock =>
      let result := bridge.ipsc.step digests cfg event
      let delivered := deliver digests dmr cfg fails urandom clock result.1 bridge.core result.2
      (⟨result.1, delivered.1⟩, delivered.2)
  | .drain .. => Bridge.step digests dmr cfg bridge event
  | .hbp event draw clock =>
      let result := clientStep digests cfg (fails 0) bridge.core.client event
      let told := Core.notify dmr cfg bridge.ipsc.isPeerRegistered draw clock
        { bridge.core with client := result.1 } result.2
      ({ bridge with core := told.1 }, Bridge.forward digests cfg bridge.ipsc told.2)

end Ipsc2Hbp.Fallible

namespace Ipsc2Hbp

/-- The program over an HBP socket that may fail. -/
def fallibleBridge (digests : Digests) (dmr : DmrUtils) (cfg : Config) :
    Mealy Bridge (BridgeEvent × (Nat → Bool)) BridgeOutput where
  step bridge input := Fallible.step digests dmr cfg bridge input.1 input.2

end Ipsc2Hbp
