import Ipsc2Hbp.Construction.GroupVoice
import Ipsc2Hbp.Construction.Ipsc

namespace Ipsc2Hbp
open BigEndian

/-- A _PeerEntry. -/
structure PeerEntry where
  peerId : Nat
  ip : String
  port : UInt16
  mode : Bytes := ourMode
  connected : Bool := false
  fromPeerList : Bool := true
  lastRx : Time := 0
  lastTx : Time := 0
  outstanding : Nat := 0
  deriving DecidableEq

/-- The state of an IPSCPeerProtocol. `_peers` is its entries in the order of the dictionary, whose
keys are their IDs. -/
structure IpscPeer where
  transport : Bool := false
  masterIp : String
  masterPort : UInt16
  masterId : Nat
  registered : Bool := false
  masterNumPeers : Nat := 0
  masterMode : Bytes := [0x00]
  lastMasterRx : Time := 0
  masterOutstanding : Nat := 0
  masterRegReported : Bool := false
  peerListSeen : Bool := false
  peers : List PeerEntry := []
  deriving DecidableEq

namespace IpscPeer

/-- The protocol after `__init__`. -/
def initial (cfg : Config) : IpscPeer where
  masterIp := cfg.ipscUpstreamMasterIp
  masterPort := cfg.ipscUpstreamMasterPort
  masterId := cfg.ipscUpstreamMasterId

/-- The packets that `__init__` builds. -/
def masterRegReqPacket (cfg : Config) : Bytes :=
  [masterRegReq] ++ idB cfg.ipscPeerId ++ tsFlags cfg false ++ ipscVer

def masterAliveReqPacket (cfg : Config) : Bytes :=
  [masterAliveReq] ++ idB cfg.ipscPeerId ++ tsFlags cfg false ++ ipscVer

def peerListReqPacket (cfg : Config) : Bytes := [peerListReq] ++ idB cfg.ipscPeerId

def peerRegReqPacket (cfg : Config) : Bytes := [peerRegReq] ++ idB cfg.ipscPeerId ++ ipscVer

def peerRegReplyPacket (cfg : Config) : Bytes := [peerRegReply] ++ idB cfg.ipscPeerId ++ ipscVer

def peerAliveReqPacket (cfg : Config) : Bytes :=
  [peerAliveReq] ++ idB cfg.ipscPeerId ++ tsFlags cfg false

def peerAliveReplyPacket (cfg : Config) : Bytes :=
  [peerAliveReply] ++ idB cfg.ipscPeerId ++ tsFlags cfg false

/-- `_send_to_master` uses the port that the master was last heard from, or the configured one. -/
def sendToMaster (digests : Digests) (cfg : Config) (packet : Bytes) (useConfiguredPort : Bool)
    (peer : IpscPeer) : List IpscOutput :=
  ipscSend digests cfg peer.transport packet peer.masterIp
    (if useConfiguredPort then cfg.ipscUpstreamMasterPort else peer.masterPort)

/-- The entry of an ID in the dictionary. -/
def getPeer (peerId : Nat) (peer : IpscPeer) : Option PeerEntry :=
  peer.peers.find? fun entry => entry.peerId = peerId

/-- An entry is changed in place. -/
def updatePeer (peerId : Nat) (change : PeerEntry → PeerEntry) (peer : IpscPeer) : IpscPeer :=
  { peer with peers := peer.peers.map fun entry => if entry.peerId = peerId then change entry else entry }

/-- The opcodes that a master sends. -/
def masterOpcodes : List UInt8 :=
  [masterRegReply, masterAliveReply, peerListReply, groupVoice, deRegReq, deRegReply]

/-- The opcodes with which an unlisted peer may be accepted. -/
def peerOpcodes : List UInt8 :=
  [peerRegReq, peerRegReply, peerAliveReq, peerAliveReply, groupVoice, deRegReq, deRegReply]

def isMasterSource (cfg : Config) (srcId : Nat) (host : String) (opcode : UInt8) (peer : IpscPeer) :
    Bool :=
  host = cfg.ipscUpstreamMasterIp &&
    (peer.masterId = 0 || srcId = 0 || srcId = peer.masterId) && masterOpcodes.contains opcode

/-- `_touch_master` learns an unknown ID and the address. -/
def touchMaster (srcId : Nat) (host : String) (port : UInt16) (now : Time) (peer : IpscPeer) :
    IpscPeer :=
  { peer with
    masterId := if srcId ≠ 0 && peer.masterId = 0 then srcId else peer.masterId
    masterIp := host, masterPort := port, lastMasterRx := now, masterOutstanding := 0 }

/-- `_accept_or_get_peer` finds the sender's entry or accepts an unlisted peer. -/
def acceptOrGetPeer (cfg : Config) (srcId : Nat) (host : String) (port : UInt16) (opcode : UInt8)
    (now : Time) (peer : IpscPeer) : Option PeerEntry × IpscPeer :=
  if srcId = 0 then (none, peer)
  else match peer.getPeer srcId with
  | some entry => (some entry, peer)
  | none =>
      if !cfg.ipscPeerListAllowUnknown then (none, peer)
      else if !peerOpcodes.contains opcode then (none, peer)
      else
        let entry : PeerEntry :=
          { peerId := srcId, ip := host, port := port, fromPeerList := false, lastRx := now }
        (some entry, { peer with peers := peer.peers ++ [entry] })

/-- `_touch_peer` follows the address of the peer. -/
def touchPeer (peerId : Nat) (host : String) (port : UInt16) (now : Time) (peer : IpscPeer) :
    IpscPeer :=
  peer.updatePeer peerId fun entry => { entry with ip := host, port := port, lastRx := now }

/-- `_on_master_reg_reply` registers, reports the first registration and asks for the peer list. -/
def onMasterRegReply (digests : Digests) (cfg : Config) (data : Bytes) (host : String)
    (port : UInt16) (now : Time) (peer : IpscPeer) : IpscPeer × List IpscOutput :=
  if data.length < 16 then (peer, [])
  else
    let touched := peer.touchMaster (bytesToNat (data.extract 1 5)) host port now
    let reports := !peer.registered && !peer.masterRegReported
    let after := { touched with
      masterMode := data.extract 5 6, masterNumPeers := bytesToNat (data.extract 10 12),
      registered := true, masterRegReported := peer.masterRegReported || reports }
    (after, (if reports then [.peerRegistered (idB cfg.ipscPeerId) host port] else []) ++
      after.sendToMaster digests cfg (peerListReqPacket cfg) false)

def onMasterAliveReply (digests : Digests) (cfg : Config) (data : Bytes) (host : String)
    (port : UInt16) (now : Time) (peer : IpscPeer) : IpscPeer × List IpscOutput :=
  let touched := peer.touchMaster (safePeerId data) host port now
  (touched, if peer.registered then [] else
    touched.sendToMaster digests cfg (masterRegReqPacket cfg) false)

/-- The complete records of a peer list. -/
def peerRecords (payload : Bytes) : List Bytes :=
  (List.range (payload.length / 11)).map fun idx => payload.extract (11 * idx) (11 * idx + 11)

/-- The ID of a record. -/
def recordId (entry : Bytes) : Nat := bytesToNat (entry.extract 0 4)

/-- A record that names neither this peer nor the master adds or updates an entry. -/
def listPeer (entry : Bytes) (peer : IpscPeer) : IpscPeer :=
  let ip := ipv4Str (entry.extract 4 8)
  let port := UInt16.ofNat (bytesToNat (entry.extract 8 10))
  let mode := entry.extract 10 11
  match peer.getPeer (recordId entry) with
  | none =>
      { peer with
        peers := peer.peers ++ [{ peerId := recordId entry, ip := ip, port := port, mode := mode }] }
  | some _ =>
      peer.updatePeer (recordId entry) fun existing =>
        { existing with ip := ip, port := port, mode := mode, fromPeerList := true }

/-- The records of a peer list that count. -/
def listedRecords (cfg : Config) (payload : Bytes) (peer : IpscPeer) : List Bytes :=
  (peerRecords payload).filter fun entry =>
    !([0, cfg.ipscPeerId, peer.masterId].contains (recordId entry))

/-- `_on_peer_list_reply` takes over the records and prunes the listed peers that are gone. -/
def onPeerListReply (cfg : Config) (data : Bytes) (host : String) (port : UInt16) (now : Time)
    (peer : IpscPeer) : IpscPeer × List IpscOutput :=
  if data.length < 7 then (peer, [])
  else
    let touched := peer.touchMaster (safePeerId data) host port now
    let length := bytesToNat (data.extract 5 7)
    let payload := data.extract 7 (7 + length)
    if payload.length < length then (touched, [])
    else
      let records := touched.listedRecords cfg payload
      let listed := records.foldl (fun peer entry => peer.listPeer entry) touched
      let seen := records.map recordId
      let kept := if cfg.ipscPeerListPrune then
          listed.peers.filter fun entry => !(entry.fromPeerList && !seen.contains entry.peerId)
        else listed.peers
      ({ listed with peers := kept, peerListSeen := true }, [])

/-- `_clear_master_registration` tells the translator. -/
def clearMasterRegistration (peer : IpscPeer) : IpscPeer × List IpscOutput :=
  if peer.registered then
    ({ peer with
        registered := false, masterOutstanding := 0, peerListSeen := false,
        masterRegReported := false,
        peers := peer.peers.map fun entry => { entry with connected := false, outstanding := 0 } },
      [.peerLost])
  else (peer, [])

/-- `_on_group_voice` drops a packet without burst type. -/
def onGroupVoice (data : Bytes) (peer : IpscPeer) : IpscPeer × List IpscOutput :=
  match parseGroupVoiceMeta data with
  | .error _ => (peer, [])
  | .ok (ts, burstType) => (peer, [.ipscVoiceReceived data ts burstType])

/-- A packet of the sender sets or clears its `connected` field and its count of missed replies. -/
def setConnected (connected : Bool) (sender : PeerEntry) (peer : IpscPeer) : IpscPeer :=
  peer.updatePeer sender.peerId fun entry => { entry with connected := connected, outstanding := 0 }

/-- The dispatch on the opcode. A reply to a peer goes to the address that `_touch_peer` has set. -/
def dispatch (digests : Digests) (cfg : Config) (data : Bytes) (opcode : UInt8) (host : String)
    (port : UInt16) (now : Time) (isMaster : Bool) (sender : Option PeerEntry) (peer : IpscPeer) :
    IpscPeer × List IpscOutput :=
  if opcode = masterRegReply then
    if isMaster then peer.onMasterRegReply digests cfg data host port now else (peer, [])
  else if opcode = masterAliveReply then
    if isMaster then peer.onMasterAliveReply digests cfg data host port now else (peer, [])
  else if opcode = peerListReply then
    if isMaster then peer.onPeerListReply cfg data host port now else (peer, [])
  else if opcode = groupVoice then
    if peer.registered && (isMaster || sender.isSome) then peer.onGroupVoice data else (peer, [])
  else if opcode = deRegReq || opcode = deRegReply then
    if isMaster then peer.clearMasterRegistration
    else match sender with
    | none => (peer, [])
    | some entry =>
        (peer.setConnected false entry, if opcode = deRegReq then
          ipscSend digests cfg peer.transport ([deRegReply] ++ idB cfg.ipscPeerId) host port else [])
  else match sender with
  | none => (peer, [])
  | some entry =>
      if opcode = peerRegReq then
        (peer.setConnected true entry,
          ipscSend digests cfg peer.transport (peerRegReplyPacket cfg) host port)
      else if opcode = peerRegReply then (peer.setConnected true entry, [])
      else if opcode = peerAliveReq then
        (peer.setConnected true entry,
          ipscSend digests cfg peer.transport (peerAliveReplyPacket cfg) host port)
      else if opcode = peerAliveReply then (peer.setConnected true entry, [])
      else (peer, [])

/-- A packet that is not this peer's own is ascribed to the master or to a peer. -/
def payloadReceived (digests : Digests) (cfg : Config) (data : Bytes) (opcode : UInt8)
    (host : String) (port : UInt16) (now : Time) (peer : IpscPeer) : IpscPeer × List IpscOutput :=
  let srcId := safePeerId data
  if srcId = cfg.ipscPeerId then (peer, [])
  else
    let isMaster := peer.isMasterSource cfg srcId host opcode
    let found := if isMaster then (none, peer)
      else peer.acceptOrGetPeer cfg srcId host port opcode now
    if !isMaster && found.1.isNone &&
        !([masterRegReply, masterAliveReply, peerListReply].contains opcode) then (found.2, [])
    else
      let touched := if isMaster then found.2.touchMaster srcId host port now
        else match found.1 with
        | none => found.2
        | some entry => found.2.touchPeer entry.peerId host port now
      touched.dispatch digests cfg data opcode host port now isMaster found.1

def datagramReceived (digests : Digests) (cfg : Config) (data : Bytes) (addr : Addr) (now : Time)
    (peer : IpscPeer) : IpscPeer × List IpscOutput :=
  match addr.unpack with
  | .error err => (peer, [.raised err])
  | .ok (host, port) =>
      match checkedPayload digests cfg data with
      | none => (peer, [])
      | some payload =>
          match payload[0]? with
          | none => (peer, [.raised .indexError])
          | some opcode => peer.payloadReceived digests cfg payload opcode host port now

/-- The packet to an entry in one round of `_maintenance_loop`, and the entry after it. -/
def maintainPeer (digests : Digests) (cfg : Config) (transport : Bool) (now : Time)
    (entry : PeerEntry) : PeerEntry × List IpscOutput :=
  if entry.peerId = cfg.ipscPeerId then (entry, [])
  else
    let packet := if entry.connected then peerAliveReqPacket cfg else peerRegReqPacket cfg
    let outstanding := entry.outstanding + 1
    ({ entry with
        lastTx := now, outstanding := outstanding,
        connected := entry.connected && outstanding ≤ max 1 cfg.ipscMaxMissed },
      ipscSend digests cfg transport packet entry.ip entry.port)

/-- One round of `_maintenance_loop` after its sleep; entry number `idx` reads `clock idx`. -/
def maintenance (digests : Digests) (cfg : Config) (clock : Clock) (peer : IpscPeer) :
    IpscPeer × List IpscOutput :=
  let after := { peer with masterOutstanding := peer.masterOutstanding + 1 }
  if !peer.registered then (after, peer.sendToMaster digests cfg (masterRegReqPacket cfg) true)
  else
    let maintained := peer.peers.mapIdx fun idx entry =>
      maintainPeer digests cfg peer.transport (clock idx) entry
    ({ after with peers := maintained.map Prod.fst },
      peer.sendToMaster digests cfg (masterAliveReqPacket cfg) false ++
        (if peer.peerListSeen then [] else
          peer.sendToMaster digests cfg (peerListReqPacket cfg) false) ++
        maintained.flatMap Prod.snd)

/-- One round of `_watchdog_loop` after its sleep. -/
def watchdog (cfg : Config) (now : Time) (peer : IpscPeer) : IpscPeer × List IpscOutput :=
  let peerTimeout := max 1 cfg.ipscPeerAliveInterval * max 1 cfg.ipscMaxMissed
  if peer.registered && peer.lastMasterRx ≠ 0 && peerTimeout < now - peer.lastMasterRx then
    let cleared := peer.clearMasterRegistration
    (cleared.1, .checkCallTimeouts :: cleared.2)
  else (peer, [.checkCallTimeouts])

/-- `send_to_peer` sends to the master and to every connected peer. -/
def sendToPeer (digests : Digests) (cfg : Config) (packet : Bytes) (peer : IpscPeer) :
    List IpscOutput :=
  if !peer.registered then []
  else peer.sendToMaster digests cfg packet false ++
    (peer.peers.filter fun entry => entry.connected).flatMap fun entry =>
      ipscSend digests cfg peer.transport packet entry.ip entry.port

/-- One step of the stack. -/
def step (digests : Digests) (cfg : Config) (peer : IpscPeer) : IpscEvent → IpscPeer × List IpscOutput
  | .connectionMade =>
      let made := { peer with transport := true }
      (made, made.sendToMaster digests cfg (masterRegReqPacket cfg) true)
  | .datagramReceived data addr now => peer.datagramReceived digests cfg data addr now
  | .watchdog now => peer.watchdog cfg now
  | .maintenance clock => peer.maintenance digests cfg clock

end IpscPeer

end Ipsc2Hbp
