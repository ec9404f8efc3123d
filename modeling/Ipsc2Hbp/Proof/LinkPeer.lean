import Ipsc2Hbp.Proof.LinkMaster
import Ipsc2Hbp.Proof.PeerTable

namespace Ipsc2Hbp
open BigEndian

namespace Link
variable {link : Link} {told : Prop} {handed heard : List (Timeslot × QueueEntry)}

/-- The effects of the peer while it hears the master only; `heard` is what the master has handed
over. -/
def PeerTells (digests : Digests) (link : Link) (told : Prop)
    (handed heard : List (Timeslot × QueueEntry)) : IpscOutput → Prop
  | .send packet host port => host = link.masterHost ∧ port = link.masterPort ∧
      ∃ payload, packet = signed digests link.peer payload ∧ link.FromPeer handed payload
  | .peerRegistered peerId host port => peerId = idB link.peer.ipscPeerId ∧
      host = link.masterHost ∧ port = link.masterPort ∧ told
  | .ipscVoiceReceived data ts burstType => parseGroupVoiceMeta data = .ok (ts, burstType) ∧
      ∃ ts entry, (ts, entry) ∈ heard ∧ entry.packet = data
  | .peerLost | .checkCallTimeouts | .raised _ => True

/-- The peer knows nobody but the master, and has its ID and the other side's record of it when it is
registered. -/
structure PeerKnows (link : Link) (told : Prop) (peer : IpscPeer) : Prop where
  peers : peer.peers = []
  masterIp : peer.masterIp = link.masterHost
  masterPort : peer.masterPort = link.masterPort
  masterId : peer.masterId = 0 ∨ peer.masterId = link.master.ipscMasterId
  registered : peer.registered = true → told ∧ peer.masterId = link.master.ipscMasterId

/-- A control packet of the peer. -/
theorem fromPeer_control (opcode : UInt8) (rest : Bytes) (silent : opcode ≠ groupVoice) :
    link.FromPeer handed (opcode :: (idB link.peer.ipscPeerId ++ rest)) :=
  ⟨bears_cons _ _ _, fun first => absurd (Option.some.inj first) silent⟩

/-- A packet of the peer to the master. -/
theorem peerTells_send {digests : Digests} {peer : IpscPeer} (ip : peer.masterIp = link.masterHost)
    (port : peer.masterPort = link.masterPort)
    (upstream : link.peer.ipscUpstreamMasterPort = link.masterPort) {payload : Bytes}
    (from_peer : link.FromPeer handed payload) (configured : Bool) :
    ∀ output ∈ peer.sendToMaster digests link.peer payload configured,
      PeerTells digests link told handed heard output := by
  intro output sent
  unfold IpscPeer.sendToMaster at sent
  rw [ip, port, upstream, ite_self] at sent
  rw [ipscSend_signed digests link.peer sent]
  exact ⟨rfl, rfl, payload, rfl, from_peer⟩

theorem fromPeer_masterRegReq :
    link.FromPeer handed (IpscPeer.masterRegReqPacket link.peer) := by
  have shape : IpscPeer.masterRegReqPacket link.peer =
      masterRegReq :: (idB link.peer.ipscPeerId ++ (tsFlags link.peer false ++ ipscVer)) := by
    simp [IpscPeer.masterRegReqPacket]
  rw [shape]
  exact fromPeer_control _ _ (by decide)

theorem fromPeer_masterAliveReq :
    link.FromPeer handed (IpscPeer.masterAliveReqPacket link.peer) := by
  have shape : IpscPeer.masterAliveReqPacket link.peer =
      masterAliveReq :: (idB link.peer.ipscPeerId ++ (tsFlags link.peer false ++ ipscVer)) := by
    simp [IpscPeer.masterAliveReqPacket]
  rw [shape]
  exact fromPeer_control _ _ (by decide)

theorem fromPeer_peerListReq :
    link.FromPeer handed (IpscPeer.peerListReqPacket link.peer) := by
  have shape : IpscPeer.peerListReqPacket link.peer =
      peerListReq :: (idB link.peer.ipscPeerId ++ []) := by
    simp [IpscPeer.peerListReqPacket]
  rw [shape]
  exact fromPeer_control _ _ (by decide)

/-- A packet of the master is ascribed to it. -/
theorem fromMaster_isMasterSource (proper : link.Proper) {payload : Bytes} {opcode : UInt8}
    (first : payload[0]? = some opcode) (from_master : link.FromMaster heard payload)
    {peer : IpscPeer} (knows : link.PeerKnows told peer) :
    peer.isMasterSource link.peer (safePeerId payload) link.masterHost opcode = true := by
  obtain ⟨listed, known, same⟩ := from_master.opcode
  obtain rfl := Option.some.inj (first.symm.trans same)
  rw [from_master.bears.safePeerId proper.masterWidth]
  rcases knows.masterId with unknown | id
  · simp [IpscPeer.isMasterSource, proper.upstreamIp, unknown, known]
  · simp [IpscPeer.isMasterSource, proper.upstreamIp, id, known]

/-- A packet of the master leaves what the peer knows, and names the master. -/
theorem PeerKnows.touch (proper : link.Proper) {payload : Bytes}
    (from_master : link.FromMaster heard payload) {peer : IpscPeer}
    (knows : link.PeerKnows told peer) (now : Time) :
    let touched := peer.touchMaster (safePeerId payload) link.masterHost link.masterPort now
    link.PeerKnows told touched ∧ touched.masterId = link.master.ipscMasterId := by
  have named : (peer.touchMaster (safePeerId payload) link.masterHost link.masterPort now).masterId =
      link.master.ipscMasterId := by
    rw [from_master.bears.safePeerId proper.masterWidth]
    rcases knows.masterId with unknown | id
    · simp [IpscPeer.touchMaster, unknown, proper.masterNonzero]
    · simp [IpscPeer.touchMaster, id, proper.masterNonzero]
  exact ⟨⟨knows.peers, rfl, rfl, .inr named, fun registered => ⟨(knows.registered registered).1, named⟩⟩,
    named⟩

/-- The peer takes no record from the master's list. -/
theorem PeerKnows.list (proper : link.Proper) {payload : Bytes}
    (from_master : link.FromMaster heard payload) (list : payload[0]? = some peerListReply)
    {peer : IpscPeer} (knows : link.PeerKnows told peer) (now : Time) :
    link.PeerKnows told
      (peer.onPeerListReply link.peer payload link.masterHost link.masterPort now).1 := by
  have touched := (knows.touch proper from_master now).1
  have skipped (other : IpscPeer) : other.listedRecords link.peer
      (payload.extract 7 (7 + bytesToNat (payload.extract 5 7))) = [] := by
    refine List.filter_eq_nil_iff.mpr fun record member => ?_
    have own : IpscPeer.recordId record = link.peer.ipscPeerId :=
      from_master.list list _ (List.mem_map_of_mem member)
    simp [own]
  unfold IpscPeer.onPeerListReply
  split
  · exact knows
  · dsimp only
    split
    · exact touched
    · simp only [skipped, List.foldl_nil, touched.peers, List.filter_nil, ite_self]
      exact ⟨rfl, touched.masterIp, touched.masterPort, touched.masterId, touched.registered⟩

/-- The peer keeps what it knows and speaks to the master while it hears a packet of the master. -/
theorem dispatch_peerTells {digests : Digests} (proper : link.Proper) {payload : Bytes}
    {opcode : UInt8} (first : payload[0]? = some opcode) (knew : told)
    (from_master : link.FromMaster heard payload) {peer : IpscPeer}
    (knows : link.PeerKnows told peer) (now : Time) :
    let touched := peer.touchMaster (safePeerId payload) link.masterHost link.masterPort now
    let result := touched.dispatch digests link.peer payload opcode link.masterHost link.masterPort now
      true none
    link.PeerKnows told result.1 ∧
      ∀ output ∈ result.2, PeerTells digests link told handed heard output := by
  intro touched
  obtain ⟨still, named⟩ : link.PeerKnows told touched ∧ touched.masterId = _ :=
    knows.touch proper from_master now
  obtain ⟨again, renamed⟩ := still.touch proper from_master now
  intro result
  unfold result IpscPeer.dispatch
  simp only [if_true, Bool.true_or, Bool.and_true]
  split_ifs with isReg isAlive isList isVoice live isBye
  · unfold IpscPeer.onMasterRegReply
    split
    · exact ⟨still, by simp⟩
    · have id : (touched.touchMaster (bytesToNat (payload.extract 1 5)) link.masterHost
          link.masterPort now).masterId = link.master.ipscMasterId := by
        simp [IpscPeer.touchMaster, named, proper.masterNonzero]
      refine ⟨⟨still.peers, rfl, rfl, .inr id, fun _ => ⟨knew, id⟩⟩, fun output member => ?_⟩
      rcases List.mem_append.mp member with report | request
      · split at report
        · rw [List.mem_singleton.mp report]
          exact ⟨rfl, rfl, rfl, knew⟩
        · cases report
      · exact peerTells_send rfl rfl proper.upstreamPort fromPeer_peerListReq false output request
  · unfold IpscPeer.onMasterAliveReply
    refine ⟨again, fun output member => ?_⟩
    dsimp only at member
    split at member
    · cases member
    · exact peerTells_send again.masterIp again.masterPort proper.upstreamPort fromPeer_masterRegReq false
        output member
  · refine ⟨still.list proper from_master (isList ▸ first) now, ?_⟩
    have silent : (touched.onPeerListReply link.peer payload link.masterHost link.masterPort now).2 = [] := by
      unfold IpscPeer.onPeerListReply
      split
      · rfl
      · dsimp only
        split <;> rfl
    simp [silent]
  · unfold IpscPeer.onGroupVoice
    cases parsed : parseGroupVoiceMeta payload with
    | error => exact ⟨still, by simp⟩
    | ok read =>
        refine ⟨still, fun output member => ?_⟩
        rw [List.mem_singleton.mp member]
        exact ⟨parsed, from_master.voice (isVoice ▸ first)⟩
  · exact ⟨still, by simp⟩
  · unfold IpscPeer.clearMasterRegistration
    split
    · refine ⟨⟨?_, still.masterIp, still.masterPort, still.masterId, fun registered => ?_⟩, ?_⟩
      · simp [still.peers]
      · cases registered
      · simp [PeerTells]
    · exact ⟨still, by simp⟩
  · exact ⟨still, by simp⟩

/-- The peer keeps what it knows and speaks to the master in every callback. -/
theorem step_peerTells {digests : Digests} (proper : link.Proper) {peer : IpscPeer}
    (knows : link.PeerKnows told peer) {event : IpscEvent}
    (hears : event.Hears digests link.peer (.inet link.masterHost link.masterPort)
      fun payload => told ∧ link.FromMaster heard payload) :
    let result := peer.step digests link.peer event
    link.PeerKnows told result.1 ∧
      ∀ output ∈ result.2, PeerTells digests link told handed heard output := by
  cases event with
  | connectionMade =>
      have made : link.PeerKnows told { peer with transport := true } :=
        ⟨knows.peers, knows.masterIp, knows.masterPort, knows.masterId, knows.registered⟩
      exact ⟨made,
        peerTells_send made.masterIp made.masterPort proper.upstreamPort fromPeer_masterRegReq true⟩
  | maintenance clock =>
      simp only [IpscPeer.step, IpscPeer.maintenance]
      split
      · refine ⟨⟨knows.peers, knows.masterIp, knows.masterPort, knows.masterId, knows.registered⟩, ?_⟩
        exact peerTells_send knows.masterIp knows.masterPort proper.upstreamPort fromPeer_masterRegReq true
      · simp only [knows.peers, List.mapIdx_nil, List.map_nil, List.flatMap_nil, List.append_nil]
        refine ⟨⟨rfl, knows.masterIp, knows.masterPort, knows.masterId, knows.registered⟩, ?_⟩
        intro output member
        rcases List.mem_append.mp member with alive | list
        · exact peerTells_send knows.masterIp knows.masterPort proper.upstreamPort
            fromPeer_masterAliveReq false output alive
        · split at list
          · cases list
          · exact peerTells_send knows.masterIp knows.masterPort proper.upstreamPort
              fromPeer_peerListReq false output list
  | watchdog now =>
      simp only [IpscPeer.step, IpscPeer.watchdog]
      split
      · unfold IpscPeer.clearMasterRegistration
        split
        · refine ⟨⟨?_, knows.masterIp, knows.masterPort, knows.masterId, fun registered => ?_⟩, ?_⟩
          · simp [knows.peers]
          · cases registered
          · simp [PeerTells]
        · exact ⟨knows, by simp [PeerTells]⟩
      · exact ⟨knows, by simp [PeerTells]⟩
  | datagramReceived data addr now =>
      simp only [IpscPeer.step, IpscPeer.datagramReceived]
      cases pair : addr.unpack with
      | error err => exact ⟨knows, by simp [PeerTells]⟩
      | ok sender =>
          dsimp only
          cases checked : checkedPayload digests link.peer data with
          | none => exact ⟨knows, by simp⟩
          | some payload =>
              obtain ⟨rfl, knew, from_master⟩ := hears payload checked
              obtain rfl := Except.ok.inj pair
              dsimp only
              cases first : payload[0]? with
              | none => exact ⟨knows, by simp [PeerTells]⟩
              | some opcode =>
                  have foreign : safePeerId payload ≠ link.peer.ipscPeerId := by
                    rw [from_master.bears.safePeerId proper.masterWidth]
                    exact proper.distinct
                  dsimp only
                  rw [IpscPeer.payloadReceived_master digests link.masterPort now foreign
                    (fromMaster_isMasterSource proper first from_master knows)]
                  exact dispatch_peerTells proper first knew from_master knows now

/-- A packet of the peer's translator goes to the master. -/
theorem sendToPeer_peerTells {digests : Digests} (proper : link.Proper) {peer : IpscPeer}
    (knows : link.PeerKnows told peer) {ts : Timeslot} {entry : QueueEntry}
    (passed : (ts, entry) ∈ handed) (made : entry.Made link.peer ts) :
    ∀ output ∈ peer.sendToPeer digests link.peer entry.packet,
      PeerTells digests link told handed heard output := by
  intro output sent
  unfold IpscPeer.sendToPeer at sent
  split at sent
  · cases sent
  · simp only [knows.peers, List.filter_nil, List.flatMap_nil, List.append_nil] at sent
    exact peerTells_send knows.masterIp knows.masterPort proper.upstreamPort
      ⟨proper.peerSource ▸ made.bears, fun _ => ⟨ts, entry, passed, rfl⟩⟩ false output sent

end Link

end Ipsc2Hbp
