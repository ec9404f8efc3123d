import Ipsc2Hbp.Proof.PeerControl

namespace Ipsc2Hbp
open BigEndian

/-- A packet connects its sender's entry, disconnects it or leaves it as it is. -/
def connectedAfter (opcode : UInt8) (connected : Bool) : Bool :=
  [peerRegReq, peerRegReply, peerAliveReq, peerAliveReply].contains opcode ||
    (connected && !([deRegReq, deRegReply].contains opcode))

/-- What the record of a peer list makes of an entry. -/
def PeerEntry.follow (entry : PeerEntry) (record : Bytes) : PeerEntry :=
  if entry.peerId = IpscPeer.recordId record then
    { entry with
      ip := ipv4Str (record.extract 4 8), port := UInt16.ofNat (bytesToNat (record.extract 8 10))
      mode := record.extract 10 11, fromPeerList := true }
  else entry

/-- What a peer list leaves of an entry: a listed entry that is not named again may be pruned. -/
def PeerEntry.relisted (cfg : Config) (records : List Bytes) (entry : PeerEntry) : Option PeerEntry :=
  let followed := records.foldl PeerEntry.follow entry
  if cfg.ipscPeerListPrune && (followed.fromPeerList &&
      !((records.map IpscPeer.recordId).contains followed.peerId)) then none
  else some followed

namespace IpscPeer

/-- The records of a complete peer list that count. -/
def completeRecords (cfg : Config) (payload : Bytes) (peer : IpscPeer) : Option (List Bytes) :=
  let length := bytesToNat (payload.extract 5 7)
  let records := payload.extract 7 (7 + length)
  if payload.length < 7 ∨ records.length < length then none
  else some (peer.listedRecords cfg records)

/-- What a packet of the master leaves of an entry. -/
def masterLeaves (cfg : Config) (payload : Bytes) (opcode : UInt8) (peer : IpscPeer)
    (entry : PeerEntry) : Option PeerEntry :=
  if opcode = peerListReply then
    match peer.completeRecords cfg payload with
    | none => some entry
    | some records => entry.relisted cfg records
  else if (opcode = deRegReq || opcode = deRegReply) && peer.registered then
    some { entry with connected := false, outstanding := 0 }
  else some entry

/-- The sender of a packet is taken into the table. -/
def Joins (cfg : Config) (srcId : Nat) (opcode : UInt8) (peer : IpscPeer) : Prop :=
  srcId ≠ 0 ∧ peer.getPeer srcId = none ∧ cfg.ipscPeerListAllowUnknown = true ∧
    peerOpcodes.contains opcode = true

/-- The master's ID and address stay. -/
structure SameMaster (after before : IpscPeer) : Prop where
  masterId : after.masterId = before.masterId
  masterIp : after.masterIp = before.masterIp
  masterPort : after.masterPort = before.masterPort

theorem SameMaster.refl (peer : IpscPeer) : SameMaster peer peer := ⟨rfl, rfl, rfl⟩

theorem SameMaster.trans {first second third : IpscPeer} (one : SameMaster first second)
    (two : SameMaster second third) : SameMaster first third :=
  ⟨one.masterId.trans two.masterId, one.masterIp.trans two.masterIp,
    one.masterPort.trans two.masterPort⟩

/-- A record keeps the ID and the connection of an entry. -/
theorem follow_keeps (record : Bytes) (entry : PeerEntry) :
    (entry.follow record).peerId = entry.peerId ∧
      (entry.follow record).connected = entry.connected := by
  unfold PeerEntry.follow
  split <;> exact ⟨rfl, rfl⟩

/-- A record is followed by the entry with its ID, or adds one that is not connected. -/
theorem listPeer_peers (record : Bytes) (peer : IpscPeer) :
    ∃ extra, (peer.listPeer record).peers =
        (peer.peers.map fun entry => entry.follow record) ++ extra ∧
      ∀ entry ∈ extra, entry.connected = false ∧ entry.peerId = recordId record := by
  unfold listPeer
  cases found : peer.getPeer (recordId record) with
  | none =>
      refine ⟨[_], congrArg (· ++ _) ?_, fun entry member => ?_⟩
      · have others : ∀ entry ∈ peer.peers, entry.follow record = id entry := by
          intro entry member
          have other : entry.peerId ≠ recordId record := by
            simpa using List.find?_eq_none.mp found entry member
          rw [PeerEntry.follow, if_neg other, id]
        rw [List.map_congr_left others, List.map_id]
      · rw [List.mem_singleton.mp member]
        exact ⟨rfl, rfl⟩
  | some existing => exact ⟨[], (List.append_nil _).symm, by simp⟩

/-- Peer list records leave the master's ID and address. -/
theorem listPeers_master (records : List Bytes) (peer : IpscPeer) :
    SameMaster (records.foldl (fun peer entry => peer.listPeer entry) peer) peer := by
  induction records generalizing peer with
  | nil => exact .refl peer
  | cons record rest ih =>
      have first : SameMaster (peer.listPeer record) peer := by
        unfold listPeer
        cases peer.getPeer (recordId record) <;> exact ⟨rfl, rfl, rfl⟩
      exact (ih _).trans first

/-- Records keep the ID and the connection of an entry. -/
theorem foldl_follow_keeps (records : List Bytes) (entry : PeerEntry) :
    (records.foldl PeerEntry.follow entry).peerId = entry.peerId ∧
      (records.foldl PeerEntry.follow entry).connected = entry.connected := by
  induction records generalizing entry with
  | nil => exact ⟨rfl, rfl⟩
  | cons record rest ih =>
      obtain ⟨id, connected⟩ := ih (entry.follow record)
      exact ⟨id.trans (follow_keeps record entry).1, connected.trans (follow_keeps record entry).2⟩

/-- The entries of a table follow the records, which add entries that are not connected. -/
theorem listPeers_peers (records : List Bytes) (peer : IpscPeer) :
    ∃ extra, (records.foldl (fun peer entry => peer.listPeer entry) peer).peers =
        (peer.peers.map fun entry => records.foldl PeerEntry.follow entry) ++ extra ∧
      ∀ entry ∈ extra, entry.connected = false ∧ entry.peerId ∈ records.map recordId := by
  induction records generalizing peer with
  | nil => exact ⟨[], by simp, by simp⟩
  | cons record rest ih =>
      obtain ⟨first, listed, fresh⟩ := peer.listPeer_peers record
      obtain ⟨later, followed, others⟩ := ih (peer.listPeer record)
      refine ⟨(first.map fun entry => rest.foldl PeerEntry.follow entry) ++ later, ?_, ?_⟩
      · rw [List.foldl_cons, followed, listed, List.map_append, List.map_map, List.append_assoc]
        rfl
      · intro entry member
        rcases List.mem_append.mp member with new | new
        · obtain ⟨before, inside, rfl⟩ := List.mem_map.mp new
          obtain ⟨id, connected⟩ := foldl_follow_keeps rest before
          rw [id, connected, (fresh before inside).2]
          exact ⟨(fresh before inside).1, List.mem_cons_self⟩
        · exact ⟨(others entry new).1, List.mem_cons_of_mem _ (others entry new).2⟩

/-- An entry that a list adds is not connected and has another ID than this peer and the master. -/
def PlainEntry (cfg : Config) (masterId : Nat) (entry : PeerEntry) : Prop :=
  entry.connected = false ∧ entry.peerId ≠ 0 ∧ entry.peerId ≠ cfg.ipscPeerId ∧
    entry.peerId ≠ masterId

/-- A second packet from the same sender teaches nothing. -/
theorem touchMaster_twice (srcId : Nat) (host : String) (port : UInt16) (now : Time)
    (peer : IpscPeer) : (peer.touchMaster srcId host port now).touchMaster srcId host port now =
      peer.touchMaster srcId host port now := by
  unfold touchMaster
  by_cases unknown : peer.masterId = 0 <;> by_cases named : srcId = 0 <;> simp [unknown, named]

/-- The ID of a record that counts. -/
theorem listedRecords_id {cfg : Config} {records record : Bytes} {peer : IpscPeer}
    (listed : record ∈ peer.listedRecords cfg records) :
    recordId record ≠ 0 ∧ recordId record ≠ cfg.ipscPeerId ∧ recordId record ≠ peer.masterId := by
  simpa [listedRecords] using (List.mem_filter.mp listed).2

/-- The entries that a peer list leaves are the followed ones that are not pruned. -/
theorem filterMap_relisted (cfg : Config) (records : List Bytes) (entries : List PeerEntry) :
    entries.filterMap (PeerEntry.relisted cfg records) =
      let followed := entries.map fun entry => records.foldl PeerEntry.follow entry
      if cfg.ipscPeerListPrune then
        followed.filter fun entry =>
          !(entry.fromPeerList && !((records.map recordId).contains entry.peerId))
      else followed := by
  induction entries with
  | nil => simp
  | cons entry rest ih =>
      rw [List.filterMap_cons, ih, PeerEntry.relisted]
      cases cfg.ipscPeerListPrune with
      | false => rfl
      | true =>
          simp only [Bool.true_and, if_true, List.map_cons, List.filter_cons]
          cases (records.foldl PeerEntry.follow entry).fromPeerList &&
            !((records.map recordId).contains (records.foldl PeerEntry.follow entry).peerId) <;> rfl

/-- What the master's peer list makes of the table. -/
theorem onPeerListReply_peers (cfg : Config) (payload : Bytes) (host : String) (port : UInt16)
    (now : Time) (peer : IpscPeer) :
    let touched := peer.touchMaster (safePeerId payload) host port now
    let after := (touched.onPeerListReply cfg payload host port now).1
    SameMaster after touched ∧ ∃ extra,
      after.peers = touched.peers.filterMap (touched.masterLeaves cfg payload peerListReply) ++ extra ∧
        ∀ entry ∈ extra, PlainEntry cfg touched.masterId entry := by
  intro touched
  have twice : touched.touchMaster (safePeerId payload) host port now = touched :=
    touchMaster_twice ..
  have still : touched.completeRecords cfg payload = none →
      touched.peers = touched.peers.filterMap (touched.masterLeaves cfg payload peerListReply) ++ [] := by
    intro incomplete
    have leaves : touched.masterLeaves cfg payload peerListReply = some := by
      funext entry
      rw [masterLeaves, if_pos rfl, incomplete]
    rw [leaves, List.filterMap_some, List.append_nil]
  unfold onPeerListReply
  by_cases short : payload.length < 7
  · rw [if_pos short]
    refine ⟨⟨rfl, rfl, rfl⟩, [], still ?_, by simp⟩
    simp [completeRecords, short]
  · rw [if_neg short, twice]
    dsimp only
    split
    case isTrue cut =>
      refine ⟨⟨rfl, rfl, rfl⟩, [], still ?_, by simp⟩
      rw [completeRecords, if_pos (.inr cut)]
    case isFalse whole =>
      have complete : touched.completeRecords cfg payload = some (touched.listedRecords cfg
          (payload.extract 7 (7 + bytesToNat (payload.extract 5 7)))) := by
        rw [completeRecords, if_neg (not_or.mpr ⟨short, whole⟩)]
      have listed := fun record => @listedRecords_id cfg
        (payload.extract 7 (7 + bytesToNat (payload.extract 5 7))) record touched
      generalize touched.listedRecords cfg
        (payload.extract 7 (7 + bytesToNat (payload.extract 5 7))) = records at complete listed
      have leaves : touched.masterLeaves cfg payload peerListReply =
          PeerEntry.relisted cfg records := by
        funext entry
        rw [masterLeaves, if_pos rfl, complete]
      obtain ⟨extra, followed, fresh⟩ := touched.listPeers_peers records
      have plain : ∀ entry ∈ extra, PlainEntry cfg touched.masterId entry := by
        intro entry member
        obtain ⟨record, inside, id⟩ := List.mem_map.mp (fresh entry member).2
        rw [PlainEntry, ← id]
        exact ⟨(fresh entry member).1, listed record inside⟩
      refine ⟨?_, ?_⟩
      · obtain ⟨masterId, masterIp, masterPort⟩ := touched.listPeers_master records
        exact ⟨masterId, masterIp, masterPort⟩
      · rw [leaves, filterMap_relisted]
        dsimp only
        rw [followed]
        cases cfg.ipscPeerListPrune with
        | false => exact ⟨extra, rfl, plain⟩
        | true =>
            refine ⟨_, List.filter_append _ _, fun entry member => ?_⟩
            exact plain entry (List.mem_of_mem_filter member)

/-- A registration reply leaves the table. -/
theorem onMasterRegReply_peers (digests : Digests) (cfg : Config) (payload : Bytes) (host : String)
    (port : UInt16) (now : Time) (peer : IpscPeer) :
    let touched := peer.touchMaster (safePeerId payload) host port now
    let after := (touched.onMasterRegReply digests cfg payload host port now).1
    SameMaster after touched ∧ after.peers = touched.peers := by
  intro touched
  unfold onMasterRegReply
  by_cases short : payload.length < 16
  · rw [if_pos short]
    exact ⟨.refl touched, rfl⟩
  · have id : bytesToNat (payload.extract 1 5) = safePeerId payload := by
      rw [safePeerId, if_neg (by omega)]
    rw [if_neg short, id, touchMaster_twice]
    exact ⟨⟨rfl, rfl, rfl⟩, rfl⟩

/-- A packet of the master that neither lists peers nor ends the registration leaves the table. -/
theorem dispatch_master_peers (digests : Digests) (cfg : Config) (payload : Bytes) {opcode : UInt8}
    (host : String) (port : UInt16) (now : Time) (peer : IpscPeer) (unlisted : opcode ≠ peerListReply)
    (stays : ¬(opcode = deRegReq || opcode = deRegReply) = true) :
    let touched := peer.touchMaster (safePeerId payload) host port now
    let after := (touched.dispatch digests cfg payload opcode host port now true none).1
    SameMaster after touched ∧ after.peers = touched.peers := by
  intro touched after
  have twice : touched.touchMaster (safePeerId payload) host port now = touched :=
    touchMaster_twice ..
  have still : SameMaster touched touched ∧ touched.peers = touched.peers := ⟨.refl touched, rfl⟩
  simp only [after]
  unfold dispatch
  by_cases regReply : opcode = masterRegReply
  · rw [if_pos regReply]
    exact onMasterRegReply_peers digests cfg payload host port now peer
  rw [if_neg regReply]
  by_cases aliveReply : opcode = masterAliveReply
  · rw [if_pos aliveReply, if_pos rfl, onMasterAliveReply]
    dsimp only
    rw [twice]
    exact still
  rw [if_neg aliveReply, if_neg unlisted]
  by_cases voice : opcode = groupVoice
  · rw [if_pos voice]
    unfold onGroupVoice
    split
    · split <;> exact still
    · exact still
  rw [if_neg voice, if_neg stays]
  exact still

/-- A packet of the master leaves of each entry what it says and adds plain entries. -/
theorem dispatch_master (digests : Digests) (cfg : Config) (payload : Bytes) (opcode : UInt8)
    (host : String) (port : UInt16) (now : Time) (peer : IpscPeer) :
    let touched := peer.touchMaster (safePeerId payload) host port now
    let after := (touched.dispatch digests cfg payload opcode host port now true none).1
    SameMaster after touched ∧ ∃ extra,
      after.peers = touched.peers.filterMap (touched.masterLeaves cfg payload opcode) ++ extra ∧
        ∀ entry ∈ extra, PlainEntry cfg touched.masterId entry := by
  intro touched after
  have kept (unlisted : opcode ≠ peerListReply)
      (stays : ((opcode = deRegReq || opcode = deRegReply) && touched.registered) = false)
      (same : SameMaster after touched) (peers : after.peers = touched.peers) :
      SameMaster after touched ∧ ∃ extra,
        after.peers = touched.peers.filterMap (touched.masterLeaves cfg payload opcode) ++ extra ∧
          ∀ entry ∈ extra, PlainEntry cfg touched.masterId entry := by
    have leaves : touched.masterLeaves cfg payload opcode = some := by
      funext entry
      rw [masterLeaves, if_neg unlisted, stays]
      rfl
    refine ⟨same, [], ?_, by simp⟩
    rw [peers, leaves, List.filterMap_some, List.append_nil]
  by_cases listReply : opcode = peerListReply
  · subst listReply
    exact onPeerListReply_peers cfg payload host port now peer
  by_cases bye : (opcode = deRegReq || opcode = deRegReply) = true
  · have cleared : after = touched.clearMasterRegistration.1 := by
      simp only [Bool.or_eq_true, decide_eq_true_eq] at bye
      rcases bye with rfl | rfl <;> rfl
    cases registered : touched.registered with
    | false =>
        have same : after = touched := by
          rw [cleared, clearMasterRegistration, registered]
          rfl
        exact kept listReply (by rw [registered, Bool.and_false]) (same ▸ .refl touched) (by rw [same])
    | true =>
        have leaves : touched.masterLeaves cfg payload opcode =
            fun entry => some { entry with connected := false, outstanding := 0 } := by
          funext entry
          rw [masterLeaves, if_neg listReply, bye, registered]
          rfl
        rw [cleared, clearMasterRegistration, if_pos registered, leaves]
        refine ⟨⟨rfl, rfl, rfl⟩, [], ?_, by simp⟩
        rw [List.append_nil]
        exact (congrFun List.filterMap_eq_map touched.peers).symm
  · obtain ⟨same, peers⟩ :=
      dispatch_master_peers digests cfg payload host port now peer listReply bye
    exact kept listReply (by rw [Bool.eq_false_iff.mpr bye, Bool.false_and]) same peers

/-- A packet of a peer moves its entries and leaves the others. -/
structure Moves (srcId : Nat) (opcode : UInt8) (host : String) (port : UInt16)
    (change : PeerEntry → PeerEntry) : Prop where
  other : ∀ entry, entry.peerId ≠ srcId → change entry = entry
  own : ∀ entry, entry.peerId = srcId → (change entry).peerId = srcId ∧ (change entry).ip = host ∧
    (change entry).port = port ∧
    (change entry).connected = connectedAfter opcode entry.connected

/-- The state after a packet of a peer does not depend on the answer to it. -/
theorem dispatch_peer_state (digests : Digests) (cfg : Config) (payload : Bytes) (opcode : UInt8)
    (host : String) (port : UInt16) (now : Time) (sender : PeerEntry) (peer : IpscPeer) :
    (peer.dispatch digests cfg payload opcode host port now false (some sender)).1 =
      if [peerRegReq, peerRegReply, peerAliveReq, peerAliveReply].contains opcode then
        peer.setConnected true sender
      else if [deRegReq, deRegReply].contains opcode then peer.setConnected false sender
      else peer := by
  by_cases up : [peerRegReq, peerRegReply, peerAliveReq, peerAliveReply].contains opcode = true
  · rw [if_pos up]
    simp only [List.contains_eq_mem, List.mem_cons, List.not_mem_nil, or_false,
      decide_eq_true_eq] at up
    rcases up with rfl | rfl | rfl | rfl <;> rfl
  rw [if_neg up]
  by_cases down : [deRegReq, deRegReply].contains opcode = true
  · rw [if_pos down]
    simp only [List.contains_eq_mem, List.mem_cons, List.not_mem_nil, or_false,
      decide_eq_true_eq] at down
    rcases down with rfl | rfl <;> rfl
  rw [if_neg down]
  simp only [List.contains_eq_mem, List.mem_cons, List.not_mem_nil, or_false, decide_eq_true_eq,
    not_or] at up down
  unfold dispatch
  simp only [up, down, if_false, Bool.false_eq_true, decide_false, Bool.or_self]
  split_ifs
  · rfl
  · rfl
  · rfl
  · unfold onGroupVoice
    split <;> rfl
  · rfl
  · rfl

/-- A packet of a peer moves its entries. -/
theorem dispatch_peer (digests : Digests) (cfg : Config) (payload : Bytes) (opcode : UInt8)
    (host : String) (port : UInt16) (now : Time) (sender : PeerEntry) (peer : IpscPeer) :
    let after := ((peer.touchPeer sender.peerId host port now).dispatch digests cfg payload opcode host
      port now false (some sender)).1
    SameMaster after peer ∧ ∃ change, Moves sender.peerId opcode host port change ∧
      after.peers = peer.peers.map change := by
  intro after
  have state : after = _ := dispatch_peer_state ..
  rw [state]
  split
  case isTrue up =>
    refine ⟨⟨rfl, rfl, rfl⟩, _, ?_, List.map_map⟩
    constructor
    · intro entry other
      simp [other]
    · intro entry own
      simp only [Function.comp_apply, own, if_true, connectedAfter, up, Bool.true_or, and_self]
  case isFalse notUp =>
    have stays : [peerRegReq, peerRegReply, peerAliveReq, peerAliveReply].contains opcode = false :=
      Bool.eq_false_iff.mpr notUp
    split
    case isTrue down =>
      refine ⟨⟨rfl, rfl, rfl⟩, _, ?_, List.map_map⟩
      constructor
      · intro entry other
        simp [other]
      · intro entry own
        simp only [Function.comp_apply, own, if_true, connectedAfter, stays, down, Bool.not_true,
          Bool.and_false, Bool.or_self, and_self]
    case isFalse notDown =>
      refine ⟨⟨rfl, rfl, rfl⟩, _, ?_, rfl⟩
      constructor
      · intro entry other
        exact if_neg other
      · intro entry own
        simp only [own, if_true, connectedAfter, stays, Bool.eq_false_iff.mpr notDown, Bool.not_false,
          Bool.and_true, Bool.false_or, and_self]

/-- The master's packets leave entries under their IDs. -/
theorem masterLeaves_id {cfg : Config} {payload : Bytes} {opcode : UInt8} {peer : IpscPeer}
    {entry left : PeerEntry} (leaves : left ∈ peer.masterLeaves cfg payload opcode entry) :
    left.peerId = entry.peerId := by
  unfold masterLeaves at leaves
  split at leaves
  case isTrue =>
    split at leaves
    case h_1 => rw [← Option.some.inj leaves]
    case h_2 records complete =>
      unfold PeerEntry.relisted at leaves
      dsimp only at leaves
      split at leaves
      case isTrue => cases leaves
      case isFalse =>
        rw [← Option.some.inj leaves]
        exact (foldl_follow_keeps records entry).1
  case isFalse =>
    split at leaves
    case isTrue => rw [← Option.some.inj leaves]
    case isFalse => rw [← Option.some.inj leaves]

/-- The three ways in which the sender of a peer's packet is looked up. -/
inductive Lookup (cfg : Config) (srcId : Nat) (opcode : UInt8) (peer : IpscPeer) :
    Option PeerEntry × IpscPeer → Prop
  | unknown (absent : ¬ peer.Joins cfg srcId opcode)
      (missing : srcId ≠ 0 → ∀ entry ∈ peer.peers, entry.peerId ≠ srcId) :
      Lookup cfg srcId opcode peer (none, peer)
  | listed (sender : PeerEntry) (inside : sender ∈ peer.peers) (id : sender.peerId = srcId)
      (absent : ¬ peer.Joins cfg srcId opcode) : Lookup cfg srcId opcode peer (some sender, peer)
  | joined (sender : PeerEntry) (id : sender.peerId = srcId) (fresh : sender.connected = false)
      (joins : peer.Joins cfg srcId opcode) :
      Lookup cfg srcId opcode peer (some sender, { peer with peers := peer.peers ++ [sender] })

theorem acceptOrGetPeer_lookup (cfg : Config) (srcId : Nat) (host : String) (port : UInt16)
    (opcode : UInt8) (now : Time) (peer : IpscPeer) :
    Lookup cfg srcId opcode peer (peer.acceptOrGetPeer cfg srcId host port opcode now) := by
  unfold acceptOrGetPeer
  by_cases unnamed : srcId = 0
  · rw [if_pos unnamed]
    exact .unknown (fun joins => joins.1 unnamed) (fun named => absurd unnamed named)
  rw [if_neg unnamed]
  cases found : peer.getPeer srcId with
  | some sender =>
      have id : sender.peerId = srcId := by simpa using List.find?_some found
      refine .listed sender (List.mem_of_find?_eq_some found) id fun joins => ?_
      rw [joins.2.1] at found
      cases found
  | none =>
      have missing : ∀ entry ∈ peer.peers, entry.peerId ≠ srcId := by
        intro entry member
        simpa using List.find?_eq_none.mp found entry member
      cases allowed : cfg.ipscPeerListAllowUnknown with
      | false =>
          refine .unknown (fun joins => ?_) fun _ => missing
          rw [joins.2.2.1] at allowed
          cases allowed
      | true =>
          cases joining : peerOpcodes.contains opcode with
          | false =>
              refine .unknown (fun joins => ?_) fun _ => missing
              rw [joins.2.2.2] at joining
              cases joining
          | true => exact .joined _ rfl rfl ⟨unnamed, found, allowed, joining⟩

/-- Without a sender the packet of a peer changes nothing. -/
theorem dispatch_stranger (digests : Digests) (cfg : Config) (payload : Bytes) (opcode : UInt8)
    (host : String) (port : UInt16) (now : Time) (peer : IpscPeer) :
    (peer.dispatch digests cfg payload opcode host port now false none).1 = peer := by
  unfold dispatch
  simp only [Bool.false_eq_true, if_false]
  split_ifs
  · rfl
  · rfl
  · rfl
  · unfold onGroupVoice
    split <;> rfl
  · rfl
  · rfl
  · rfl

theorem Moves.peerId {srcId : Nat} {opcode : UInt8} {host : String} {port : UInt16}
    {change : PeerEntry → PeerEntry} (moves : Moves srcId opcode host port change)
    (entry : PeerEntry) : (change entry).peerId = entry.peerId := by
  by_cases own : entry.peerId = srcId
  · rw [(moves.own entry own).1, own]
  · rw [moves.other entry own]

/-- A packet that is taken from the master goes on to its opcode. -/
theorem payloadReceived_master (digests : Digests) {cfg : Config} {payload : Bytes} {opcode : UInt8}
    {host : String} (port : UInt16) (now : Time) {peer : IpscPeer}
    (foreign : safePeerId payload ≠ cfg.ipscPeerId)
    (master : peer.isMasterSource cfg (safePeerId payload) host opcode = true) :
    peer.payloadReceived digests cfg payload opcode host port now =
      (peer.touchMaster (safePeerId payload) host port now).dispatch digests cfg payload opcode host
        port now true none := by
  unfold payloadReceived
  simp only [foreign, master, if_false, if_true, Bool.not_true, Bool.false_and, Bool.false_eq_true]

/-- The state after a packet that is taken from a peer. -/
theorem payloadReceived_peer (digests : Digests) {cfg : Config} {payload : Bytes} {opcode : UInt8}
    {host : String} (port : UInt16) (now : Time) {peer : IpscPeer}
    (foreign : safePeerId payload ≠ cfg.ipscPeerId)
    (other : peer.isMasterSource cfg (safePeerId payload) host opcode = false) :
    (peer.payloadReceived digests cfg payload opcode host port now).1 =
      match peer.acceptOrGetPeer cfg (safePeerId payload) host port opcode now with
      | (none, found) => found
      | (some sender, found) =>
          ((found.touchPeer sender.peerId host port now).dispatch digests cfg payload opcode host port
            now false (some sender)).1 := by
  unfold payloadReceived
  simp only [foreign, other, if_false, Bool.false_eq_true]
  generalize peer.acceptOrGetPeer cfg (safePeerId payload) host port opcode now = found
  rcases found with ⟨sender, found⟩
  cases sender with
  | none =>
      split
      · rfl
      · exact dispatch_stranger ..
  | some sender => rfl

end IpscPeer

end Ipsc2Hbp
