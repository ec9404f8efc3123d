import Ipsc2Hbp.Construction.GroupVoice
import Ipsc2Hbp.Construction.Ipsc

namespace Ipsc2Hbp
open BigEndian

/-- The state of an IPSCProtocol, the local IPSC master. -/
structure IpscMaster where
  transport : Bool := false
  registered : Bool := false
  peerId : Option Bytes := none
  peerIp : Option String := none
  peerPort : Option UInt16 := none
  lastKa : Time := 0
  deriving DecidableEq

namespace IpscMaster

/-- The replies that `__init__` builds. -/
def masterRegReplyPacket (cfg : Config) : Bytes :=
  [masterRegReply] ++ idB cfg.ipscMasterId ++ tsFlags cfg true ++ natToBytes 2 1 ++ ipscVer

def masterAliveReplyPacket (cfg : Config) : Bytes :=
  [masterAliveReply] ++ idB cfg.ipscMasterId ++ tsFlags cfg true ++ ipscVer

def deRegReplyPacket (cfg : Config) : Bytes := [deRegReply] ++ idB cfg.ipscMasterId

/-- `_send_peer_list` lists the one registered peer. -/
def sendPeerList (digests : Digests) (cfg : Config) (host : String) (port : UInt16)
    (master : IpscMaster) : List IpscOutput :=
  match master.peerId, master.peerIp, master.peerPort with
  | some peerId, some peerIp, some peerPort =>
      if peerId.isEmpty || peerIp.isEmpty || peerPort = 0 then []
      else
        let ipPacked := (inetAton peerIp).getD [0x00, 0x00, 0x00, 0x00]
        let peerEntry := peerId ++ ipPacked ++ natToBytes 2 peerPort.toNat ++ ourMode
        ipscSend digests cfg master.transport ([peerListReply] ++ idB cfg.ipscMasterId ++
          natToBytes 2 peerEntry.length ++ peerEntry) host port
  | _, _, _ => []

/-- A registration is refused from a wrong address, with a wrong ID, or while another host is
registered. -/
def rejectsReg (cfg : Config) (peerId : Bytes) (host : String) (master : IpscMaster) : Bool :=
  (cfg.allowedPeerIp ≠ "" && host ≠ cfg.allowedPeerIp) ||
    (cfg.ipscPeerId ≠ 0 && bytesToNat peerId ≠ cfg.ipscPeerId) ||
    (master.registered && match master.peerIp with
      | none => false
      | some peerIp => peerIp ≠ "" && host ≠ peerIp)

/-- `_on_reg_req` registers the peer and answers with its entry. -/
def onRegReq (digests : Digests) (cfg : Config) (data : Bytes) (host : String) (port : UInt16)
    (now : Time) (master : IpscMaster) : IpscMaster × List IpscOutput :=
  if data.length < 10 then (master, [])
  else
    let peerId := data.extract 1 5
    if master.rejectsReg cfg peerId host then (master, [])
    else
      let after := { master with
        registered := true, peerId := some peerId, peerIp := some host, peerPort := some port,
        lastKa := now }
      (after, ipscSend digests cfg master.transport (masterRegReplyPacket cfg) host port ++
        after.sendPeerList digests cfg host port ++
        (if master.registered then [] else [.peerRegistered peerId host port]))

/-- The sender names the registered peer; a short packet names the ID 0. -/
def namesPeer (data : Bytes) (master : IpscMaster) : Bool :=
  let peerId := if 5 ≤ data.length then data.extract 1 5 else [0x00, 0x00, 0x00, 0x00]
  master.registered && master.peerId = some peerId

def onAliveReq (digests : Digests) (cfg : Config) (data : Bytes) (host : String) (port : UInt16)
    (now : Time) (master : IpscMaster) : IpscMaster × List IpscOutput :=
  if master.namesPeer data then
    ({ master with lastKa := now },
      ipscSend digests cfg master.transport (masterAliveReplyPacket cfg) host port)
  else (master, [])

def onPeerListReq (digests : Digests) (cfg : Config) (data : Bytes) (host : String) (port : UInt16)
    (master : IpscMaster) : IpscMaster × List IpscOutput :=
  (master, if master.namesPeer data then master.sendPeerList digests cfg host port else [])

/-- `_clear_peer` forgets the peer and tells the translator. -/
def clearPeer (master : IpscMaster) : IpscMaster × List IpscOutput :=
  ({ master with
      registered := false, peerId := none, peerIp := none, peerPort := none, lastKa := 0 },
    [.peerLost])

def onDeRegReq (digests : Digests) (cfg : Config) (data : Bytes) (host : String) (port : UInt16)
    (master : IpscMaster) : IpscMaster × List IpscOutput :=
  if master.namesPeer data then
    let cleared := master.clearPeer
    (cleared.1,
      ipscSend digests cfg master.transport (deRegReplyPacket cfg) host port ++ cleared.2)
  else (master, [])

/-- `_on_group_voice` hears the registered peer only. -/
def onGroupVoice (data : Bytes) (host : String) (port : UInt16) (now : Time) (master : IpscMaster) :
    IpscMaster × List IpscOutput :=
  if !master.registered || master.peerIp ≠ some host || master.peerPort ≠ some port then (master, [])
  else match parseGroupVoiceMeta data with
  | .error _ => (master, [])
  | .ok (ts, burstType) =>
      ({ master with lastKa := now }, [.ipscVoiceReceived data ts burstType])

/-- The dispatch on the opcode; the peer-side opcodes are ignored like unknown ones. -/
def dispatch (digests : Digests) (cfg : Config) (data : Bytes) (opcode : UInt8) (host : String)
    (port : UInt16) (now : Time) (master : IpscMaster) : IpscMaster × List IpscOutput :=
  if opcode = masterRegReq then master.onRegReq digests cfg data host port now
  else if opcode = masterAliveReq then master.onAliveReq digests cfg data host port now
  else if opcode = peerListReq then master.onPeerListReq digests cfg data host port
  else if opcode = deRegReq then master.onDeRegReq digests cfg data host port
  else if opcode = groupVoice then master.onGroupVoice data host port now
  else (master, [])

def datagramReceived (digests : Digests) (cfg : Config) (data : Bytes) (addr : Addr) (now : Time)
    (master : IpscMaster) : IpscMaster × List IpscOutput :=
  match addr.unpack with
  | .error err => (master, [.raised err])
  | .ok (host, port) =>
      match checkedPayload digests cfg data with
      | none => (master, [])
      | some payload =>
          match payload[0]? with
          | none => (master, [.raised .indexError])
          | some opcode => master.dispatch digests cfg payload opcode host port now

/-- One round of `_watchdog_loop` after its sleep. -/
def watchdog (cfg : Config) (now : Time) (master : IpscMaster) : IpscMaster × List IpscOutput :=
  if master.registered && cfg.keepaliveWatchdog < now - master.lastKa then
    let cleared := master.clearPeer
    (cleared.1, .checkCallTimeouts :: cleared.2)
  else (master, [.checkCallTimeouts])

/-- `send_to_peer` needs a registered peer with an address. -/
def sendToPeer (digests : Digests) (cfg : Config) (packet : Bytes) (master : IpscMaster) :
    List IpscOutput :=
  match master.peerIp, master.peerPort with
  | some peerIp, some peerPort =>
      if !master.registered || peerIp.isEmpty || peerPort = 0 then []
      else ipscSend digests cfg master.transport packet peerIp peerPort
  | _, _ => []

/-- One step of the stack; it has no maintenance task. -/
def step (digests : Digests) (cfg : Config) (master : IpscMaster) :
    IpscEvent → IpscMaster × List IpscOutput
  | .connectionMade => ({ master with transport := true }, [])
  | .datagramReceived data addr now => master.datagramReceived digests cfg data addr now
  | .watchdog now => master.watchdog cfg now
  | .maintenance _ => (master, [])

end IpscMaster

end Ipsc2Hbp
