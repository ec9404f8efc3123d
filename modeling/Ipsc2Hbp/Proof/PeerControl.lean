import Ipsc2Hbp.Library.Mealy
import Ipsc2Hbp.Proof.MasterGuard

namespace Ipsc2Hbp
open BigEndian

/-- The protocol of PEER mode as a machine over its callbacks. -/
def ipscPeer (digests : Digests) (cfg : Config) : Mealy IpscPeer IpscEvent IpscOutput where
  step := IpscPeer.step digests cfg

/-- What only the master may control. -/
structure MasterControl where
  registered : Bool
  masterRegReported : Bool
  masterIp : String
  masterPort : UInt16
  masterId : Nat
  lastMasterRx : Time
  peerListSeen : Bool
  listed : List Nat

/-- A call that tells the translator of a registration or of its loss. -/
def IpscOutput.IsRegistration : IpscOutput → Prop
  | .peerRegistered .. | .peerLost => True
  | _ => False

/-- A packet tells the translator nothing. -/
theorem IpscOutput.IsSend.noRegistration {output : IpscOutput} (sent : output.IsSend) :
    ¬ output.IsRegistration := by
  cases output with
  | send => exact id
  | peerRegistered | peerLost | checkCallTimeouts | ipscVoiceReceived | raised => exact sent.elim

namespace IpscPeer

/-- The IDs of the entries that are marked as listed by the master. -/
def listedPeers (peer : IpscPeer) : List Nat :=
  (peer.peers.filter fun entry => entry.fromPeerList).map PeerEntry.peerId

def control (peer : IpscPeer) : MasterControl where
  registered := peer.registered
  masterRegReported := peer.masterRegReported
  masterIp := peer.masterIp
  masterPort := peer.masterPort
  masterId := peer.masterId
  lastMasterRx := peer.lastMasterRx
  peerListSeen := peer.peerListSeen
  listed := peer.listedPeers

/-- The IDs in the table. -/
def peerIds (peer : IpscPeer) : List Nat := peer.peers.map PeerEntry.peerId

/-- A change of an entry that keeps its ID and its mark. -/
def KeepsListing (change : PeerEntry → PeerEntry) : Prop :=
  ∀ entry, (change entry).peerId = entry.peerId ∧ (change entry).fromPeerList = entry.fromPeerList

/-- A change that keeps the marks keeps the master's control. -/
theorem updatePeer_control {change : PeerEntry → PeerEntry} (keeps : KeepsListing change)
    (peerId : Nat) (peer : IpscPeer) : (peer.updatePeer peerId change).control = peer.control := by
  have same (entries : List PeerEntry) :
      ((entries.map fun entry => if entry.peerId = peerId then change entry else entry).filter
        fun entry => entry.fromPeerList).map PeerEntry.peerId =
      (entries.filter fun entry => entry.fromPeerList).map PeerEntry.peerId := by
    induction entries with
    | nil => rfl
    | cons entry rest ih =>
        obtain ⟨id, mark⟩ := keeps entry
        by_cases chosen : entry.peerId = peerId <;>
        by_cases marked : entry.fromPeerList <;>
          simp [chosen, marked, id, mark, ih]
  simp only [control, listedPeers, updatePeer, same]

/-- A change that keeps the ID keeps the IDs in the table. -/
theorem updatePeer_ids {change : PeerEntry → PeerEntry}
    (keeps : ∀ entry, (change entry).peerId = entry.peerId) (peerId : Nat) (peer : IpscPeer) :
    (peer.updatePeer peerId change).peerIds = peer.peerIds := by
  simp only [peerIds, updatePeer, List.map_map]
  congr 1
  funext entry
  simp only [Function.comp_apply]
  split
  · exact keeps entry
  · rfl

theorem acceptOrGetPeer_control (cfg : Config) (srcId : Nat) (host : String) (port : UInt16)
    (opcode : UInt8) (now : Time) (peer : IpscPeer) :
    (peer.acceptOrGetPeer cfg srcId host port opcode now).2.control = peer.control := by
  unfold acceptOrGetPeer
  split
  · rfl
  · split
    · rfl
    · split_ifs
      · rfl
      · rfl
      · simp [control, listedPeers, List.filter_append]

theorem touchPeer_control (peerId : Nat) (host : String) (port : UInt16) (now : Time)
    (peer : IpscPeer) : (peer.touchPeer peerId host port now).control = peer.control := by
  apply updatePeer_control
  exact fun _ => ⟨rfl, rfl⟩

theorem setConnected_control (connected : Bool) (sender : PeerEntry) (peer : IpscPeer) :
    (peer.setConnected connected sender).control = peer.control := by
  apply updatePeer_control
  exact fun _ => ⟨rfl, rfl⟩

/-- A packet that is not ascribed to the master leaves its control alone. -/
theorem dispatch_foreign (digests : Digests) (cfg : Config) (payload : Bytes) (opcode : UInt8)
    (host : String) (port : UInt16) (now : Time) (sender : Option PeerEntry) (peer : IpscPeer) :
    let result := peer.dispatch digests cfg payload opcode host port now false sender
    result.1.control = peer.control ∧ ∀ output ∈ result.2, ¬ output.IsRegistration := by
  have quiet : peer.control = peer.control ∧
      ∀ output ∈ ([] : List IpscOutput), ¬ output.IsRegistration := ⟨rfl, by simp⟩
  have answers (packet : Bytes) (connected : Bool) (entry : PeerEntry) :
      (peer.setConnected connected entry).control = peer.control ∧
        ∀ output ∈ ipscSend digests cfg peer.transport packet host port, ¬ output.IsRegistration :=
    ⟨setConnected_control connected entry peer, fun output member =>
      (ipscSend_sends _ _ _ _ _ _ output member).noRegistration⟩
  have marks (connected : Bool) (entry : PeerEntry) :
      (peer.setConnected connected entry).control = peer.control ∧
        ∀ output ∈ ([] : List IpscOutput), ¬ output.IsRegistration :=
    ⟨setConnected_control connected entry peer, by simp⟩
  unfold dispatch
  dsimp only
  by_cases regReply : opcode = masterRegReply
  · rw [if_pos regReply]
    exact quiet
  rw [if_neg regReply]
  by_cases aliveReply : opcode = masterAliveReply
  · rw [if_pos aliveReply]
    exact quiet
  rw [if_neg aliveReply]
  by_cases listReply : opcode = peerListReply
  · rw [if_pos listReply]
    exact quiet
  rw [if_neg listReply]
  by_cases voice : opcode = groupVoice
  · rw [if_pos voice]
    unfold onGroupVoice
    split
    · cases parseGroupVoiceMeta payload with
      | error => exact quiet
      | ok => exact ⟨rfl, by simp [IpscOutput.IsRegistration]⟩
    · exact quiet
  rw [if_neg voice]
  cases sender with
  | none => split <;> exact quiet
  | some entry =>
      by_cases bye : (opcode = deRegReq || opcode = deRegReply) = true
      · rw [if_pos bye]
        dsimp only
        by_cases asked : opcode = deRegReq
        · rw [if_pos asked]
          exact answers _ false entry
        · rw [if_neg asked]
          exact marks false entry
      rw [if_neg bye]
      dsimp only
      split_ifs
      · exact answers _ true entry
      · exact marks true entry
      · exact answers _ true entry
      · exact marks true entry
      · exact quiet

/-- A host other than the configured master's is not taken for it. -/
theorem isMasterSource_foreign {cfg : Config} {host : String}
    (foreign : host ≠ cfg.ipscUpstreamMasterIp) (srcId : Nat) (opcode : UInt8) (peer : IpscPeer) :
    peer.isMasterSource cfg srcId host opcode = false := by
  simp [isMasterSource, foreign]

/-- A packet that does not come from the master leaves its control alone. -/
theorem payloadReceived_other (digests : Digests) {cfg : Config} {payload : Bytes} {opcode : UInt8}
    {host : String} (port : UInt16) (now : Time) {peer : IpscPeer}
    (other : peer.isMasterSource cfg (safePeerId payload) host opcode = false) :
    let result := peer.payloadReceived digests cfg payload opcode host port now
    result.1.control = peer.control ∧ ∀ output ∈ result.2, ¬ output.IsRegistration := by
  have accepted := acceptOrGetPeer_control cfg (safePeerId payload) host port opcode now peer
  unfold payloadReceived
  by_cases own : safePeerId payload = cfg.ipscPeerId
  · rw [if_pos own]
    exact ⟨rfl, by simp⟩
  · rw [if_neg own]
    simp only [other, Bool.false_eq_true, if_false]
    generalize peer.acceptOrGetPeer cfg (safePeerId payload) host port opcode now = found at accepted
    rcases found with ⟨sender, after⟩
    split
    · exact ⟨accepted, by simp⟩
    · cases sender with
      | none =>
          have kept := dispatch_foreign digests cfg payload opcode host port now none after
          exact ⟨kept.1.trans accepted, kept.2⟩
      | some entry =>
          have kept := dispatch_foreign digests cfg payload opcode host port now (some entry)
            (after.touchPeer entry.peerId host port now)
          exact ⟨kept.1.trans ((touchPeer_control entry.peerId host port now after).trans accepted), kept.2⟩

/-- A datagram is dropped, at most with an exception, or its payload is taken from another sender than
this peer itself. -/
inductive Received (digests : Digests) (cfg : Config) (data : Bytes) (now : Time) (peer : IpscPeer) :
    Addr → IpscPeer × List IpscOutput → Prop
  | dropped {addr : Addr} {outputs : List IpscOutput}
      (quiet : outputs = [] ∨ ∃ err, outputs = [.raised err])
      (ignored : ∀ host port payload opcode, addr.unpack = .ok (host, port) →
        checkedPayload digests cfg data = some payload → payload[0]? = some opcode →
        safePeerId payload = cfg.ipscPeerId) : Received digests cfg data now peer addr (peer, outputs)
  | taken {host : String} {port : UInt16} {payload : Bytes} {opcode : UInt8}
      (checked : checkedPayload digests cfg data = some payload) (first : payload[0]? = some opcode)
      (foreign : safePeerId payload ≠ cfg.ipscPeerId) :
      Received digests cfg data now peer (.inet host port)
        (peer.payloadReceived digests cfg payload opcode host port now)

theorem datagramReceived_cases (digests : Digests) (cfg : Config) (data : Bytes) (addr : Addr)
    (now : Time) (peer : IpscPeer) :
    Received digests cfg data now peer addr (peer.datagramReceived digests cfg data addr now) := by
  unfold datagramReceived
  cases addr with
  | inet6 => exact .dropped (.inr ⟨_, rfl⟩) fun _ _ _ _ pair => by cases pair
  | inet host port =>
      simp only [Addr.unpack]
      cases checked : checkedPayload digests cfg data with
      | none => exact .dropped (.inl rfl) fun _ _ _ _ _ read => by rw [checked] at read; cases read
      | some payload =>
          dsimp only
          cases first : payload[0]? with
          | none =>
              refine .dropped (.inr ⟨_, rfl⟩) fun _ _ other _ _ read named => ?_
              obtain rfl := Option.some.inj (checked.symm.trans read)
              cases first.symm.trans named
          | some opcode =>
              dsimp only
              by_cases own : safePeerId payload = cfg.ipscPeerId
              · rw [payloadReceived, if_pos own]
                refine .dropped (.inl rfl) fun _ _ other _ _ read _ => ?_
                obtain rfl := Option.some.inj (checked.symm.trans read)
                exact own
              · exact .taken checked first own

/-- What a dropped datagram comes to reports no registration. -/
theorem quiet_noRegistration {outputs : List IpscOutput}
    (quiet : outputs = [] ∨ ∃ err, outputs = [.raised err]) :
    ∀ output ∈ outputs, ¬ output.IsRegistration := by
  rcases quiet with rfl | ⟨err, rfl⟩ <;> simp [IpscOutput.IsRegistration]

/-- A datagram of a foreign host leaves the master's control alone. -/
theorem datagramReceived_foreign (digests : Digests) {cfg : Config} (data : Bytes) {addr : Addr}
    (foreign : addr.host ≠ cfg.ipscUpstreamMasterIp) (now : Time) (peer : IpscPeer) :
    let result := peer.datagramReceived digests cfg data addr now
    result.1.control = peer.control ∧ ∀ output ∈ result.2, ¬ output.IsRegistration := by
  intro result
  have received : Received digests cfg data now peer addr result := datagramReceived_cases ..
  generalize result = reached at received
  cases received with
  | dropped quiet => exact ⟨rfl, quiet_noRegistration quiet⟩
  | taken => exact payloadReceived_other digests _ now (isMasterSource_foreign foreign _ _ peer)

end IpscPeer

/-- The IDs in the records of a peer list. -/
def peerListIds (payload : Bytes) : List Nat :=
  (IpscPeer.peerRecords (payload.extract 7 (7 + bytesToNat (payload.extract 5 7)))).map
    IpscPeer.recordId

/-- The IDs that the master lists in a callback. -/
def listedIds (digests : Digests) (cfg : Config) : IpscEvent → List Nat
  | .datagramReceived data addr _ =>
      match checkedPayload digests cfg data with
      | none => []
      | some payload =>
          if addr.host = cfg.ipscUpstreamMasterIp ∧ payload[0]? = some peerListReply then
            peerListIds payload
          else []
  | _ => []

namespace IpscPeer

/-- Every ID in the table was there before or is one of the given ones. -/
def OnlyAdds (ids : List Nat) (before after : IpscPeer) : Prop :=
  ∀ id ∈ after.peerIds, id ∈ before.peerIds ∨ id ∈ ids

theorem OnlyAdds.of_eq {ids : List Nat} {before after : IpscPeer}
    (same : after.peerIds = before.peerIds) : OnlyAdds ids before after := fun _ member =>
  .inl (same ▸ member)

theorem OnlyAdds.trans {ids : List Nat} {before middle after : IpscPeer}
    (first : OnlyAdds ids before middle) (second : OnlyAdds ids middle after) :
    OnlyAdds ids before after := fun id member => by
  rcases second id member with earlier | listed
  · exact first id earlier
  · exact .inr listed

/-- A record adds its own ID at most. -/
theorem listPeer_adds (entry : Bytes) (peer : IpscPeer) :
    OnlyAdds [recordId entry] peer (peer.listPeer entry) := by
  unfold listPeer
  cases peer.getPeer (recordId entry) with
  | none =>
      intro id member
      simpa [peerIds] using member
  | some existing =>
      apply OnlyAdds.of_eq
      apply updatePeer_ids
      exact fun _ => rfl

theorem listPeers_adds (records : List Bytes) (peer : IpscPeer) :
    OnlyAdds (records.map recordId) peer (records.foldl (fun peer entry => peer.listPeer entry) peer) := by
  induction records generalizing peer with
  | nil => exact .of_eq rfl
  | cons entry rest ih =>
      intro id member
      rcases ih (peer.listPeer entry) id member with earlier | listed
      · rcases listPeer_adds entry peer id earlier with older | now
        · exact .inl older
        · exact .inr (by simpa using .inl (List.mem_singleton.mp now))
      · exact .inr (List.mem_cons_of_mem _ listed)

/-- A peer list adds IDs of its records only; pruning adds none. -/
theorem onPeerListReply_adds (cfg : Config) (payload : Bytes) (host : String) (port : UInt16)
    (now : Time) (peer : IpscPeer) :
    OnlyAdds (peerListIds payload) peer (peer.onPeerListReply cfg payload host port now).1 := by
  unfold onPeerListReply
  by_cases short : payload.length < 7
  · rw [if_pos short]
    exact .of_eq rfl
  · rw [if_neg short]
    dsimp only
    split
    · exact .of_eq rfl
    · intro id member
      have kept : id ∈ (List.foldl (fun peer entry => peer.listPeer entry)
          (peer.touchMaster (safePeerId payload) host port now)
          ((peer.touchMaster (safePeerId payload) host port now).listedRecords cfg
            (payload.extract 7 (7 + bytesToNat (payload.extract 5 7))))).peerIds := by
        obtain ⟨entry, inside, rfl⟩ := List.mem_map.mp member
        refine List.mem_map_of_mem ?_
        split at inside
        · exact List.mem_of_mem_filter inside
        · exact inside
      rcases listPeers_adds _ _ id kept with earlier | listed
      · exact .inl earlier
      · obtain ⟨entry, inside, rfl⟩ := List.mem_map.mp listed
        exact .inr (List.mem_map_of_mem (List.mem_of_mem_filter inside))

theorem clearMasterRegistration_ids (peer : IpscPeer) :
    peer.clearMasterRegistration.1.peerIds = peer.peerIds := by
  unfold clearMasterRegistration
  split
  · simp [peerIds]
  · rfl

theorem touchPeer_ids (peerId : Nat) (host : String) (port : UInt16) (now : Time)
    (peer : IpscPeer) : (peer.touchPeer peerId host port now).peerIds = peer.peerIds := by
  apply updatePeer_ids
  exact fun _ => rfl

theorem setConnected_ids (connected : Bool) (sender : PeerEntry) (peer : IpscPeer) :
    (peer.setConnected connected sender).peerIds = peer.peerIds := by
  apply updatePeer_ids
  exact fun _ => rfl

/-- A packet adds IDs only where it is a peer list of the master. -/
theorem dispatch_adds (digests : Digests) (cfg : Config) (payload : Bytes) (opcode : UInt8)
    (host : String) (port : UInt16) (now : Time) (isMaster : Bool) (sender : Option PeerEntry)
    (peer : IpscPeer) :
    OnlyAdds (if isMaster = true ∧ opcode = peerListReply then peerListIds payload else []) peer
      (peer.dispatch digests cfg payload opcode host port now isMaster sender).1 := by
  have same (entry : PeerEntry) (connected : Bool) (ids : List Nat) :
      OnlyAdds ids peer (peer.setConnected connected entry) :=
    .of_eq (setConnected_ids connected entry peer)
  have still (ids : List Nat) : OnlyAdds ids peer peer := .of_eq rfl
  unfold dispatch
  by_cases listReply : opcode = peerListReply
  · subst listReply
    cases isMaster with
    | false => exact still _
    | true => exact onPeerListReply_adds cfg payload host port now peer
  · simp only [listReply, and_false, if_false]
    split_ifs
    · unfold onMasterRegReply
      split_ifs <;> exact still []
    · exact still []
    · exact still []
    · exact still []
    · unfold onGroupVoice
      split <;> exact still []
    · exact still []
    · exact .of_eq (clearMasterRegistration_ids peer)
    · cases sender with
      | none => exact still []
      | some entry => exact same entry false []
    · cases sender with
      | none => exact still []
      | some entry => exact same entry false []
    · cases sender with
      | none => exact still []
      | some entry => exact same entry true []
    · cases sender with
      | none => exact still []
      | some entry => exact same entry true []
    · cases sender with
      | none => exact still []
      | some entry => exact same entry true []
    · cases sender with
      | none => exact still []
      | some entry => exact same entry true []
    · cases sender <;> exact still []

/-- Without unlisted peers a sender is looked up in the table. -/
theorem acceptOrGetPeer_listed {cfg : Config} (closed : cfg.ipscPeerListAllowUnknown = false)
    (srcId : Nat) (host : String) (port : UInt16) (opcode : UInt8) (now : Time) (peer : IpscPeer) :
    (peer.acceptOrGetPeer cfg srcId host port opcode now).2 = peer ∧
      ∀ entry, (peer.acceptOrGetPeer cfg srcId host port opcode now).1 = some entry →
        srcId ∈ peer.peerIds := by
  unfold acceptOrGetPeer
  split
  · exact ⟨rfl, by simp⟩
  · cases found : peer.getPeer srcId with
    | none => simp [closed]
    | some entry =>
        refine ⟨rfl, fun _ _ => ?_⟩
        have id : entry.peerId = srcId := by simpa using List.find?_some found
        rw [← id]
        exact List.mem_map_of_mem (List.mem_of_find?_eq_some found)

/-- Without unlisted peers one packet adds what the master lists in it. -/
theorem payloadReceived_adds (digests : Digests) {cfg : Config}
    (closed : cfg.ipscPeerListAllowUnknown = false) (payload : Bytes) (opcode : UInt8) (host : String)
    (port : UInt16) (now : Time) (peer : IpscPeer) :
    OnlyAdds (if host = cfg.ipscUpstreamMasterIp ∧ opcode = peerListReply then peerListIds payload
      else []) peer (peer.payloadReceived digests cfg payload opcode host port now).1 := by
  obtain ⟨same, -⟩ := acceptOrGetPeer_listed closed (safePeerId payload) host port opcode now peer
  unfold payloadReceived
  by_cases own : safePeerId payload = cfg.ipscPeerId
  · rw [if_pos own]
    exact .of_eq rfl
  · rw [if_neg own]
    cases isMaster : peer.isMasterSource cfg (safePeerId payload) host opcode with
    | true =>
        have master : host = cfg.ipscUpstreamMasterIp := by
          simp only [isMasterSource, Bool.and_eq_true, decide_eq_true_eq] at isMaster
          exact isMaster.1.1
        have added := dispatch_adds digests cfg payload opcode host port now true none
          (peer.touchMaster (safePeerId payload) host port now)
        simp only [master, true_and] at added ⊢
        exact added
    | false =>
        simp only [Bool.false_eq_true, if_false]
        generalize peer.acceptOrGetPeer cfg (safePeerId payload) host port opcode now = found at same
        rcases found with ⟨sender, after⟩
        obtain rfl : after = peer := same
        have quiet (ids : List Nat) (result : IpscPeer) (added : OnlyAdds [] after result) :
            OnlyAdds ids after result := fun id member => (added id member).imp_right (by simp)
        apply quiet
        cases sender with
        | none =>
            have added := dispatch_adds digests cfg payload opcode host port now false none after
            split
            · exact .of_eq rfl
            · exact added
        | some entry =>
            have added := dispatch_adds digests cfg payload opcode host port now false (some entry)
              (after.touchPeer entry.peerId host port now)
            have touched : OnlyAdds [] after (after.touchPeer entry.peerId host port now) :=
              .of_eq (touchPeer_ids entry.peerId host port now after)
            exact touched.trans added

/-- A round of maintenance keeps the entries' IDs. -/
theorem maintained_ids (digests : Digests) (cfg : Config) (transport : Bool) (clock : Clock)
    (entries : List PeerEntry) :
    ((entries.mapIdx fun idx entry => maintainPeer digests cfg transport (clock idx) entry).map
      Prod.fst).map PeerEntry.peerId = entries.map PeerEntry.peerId := by
  have each (now : Time) (entry : PeerEntry) :
      (maintainPeer digests cfg transport now entry).1.peerId = entry.peerId := by
    unfold maintainPeer
    split <;> rfl
  apply List.ext_getElem?
  intro idx
  simp only [List.getElem?_map, List.getElem?_mapIdx, Option.map_map]
  cases entries[idx]? with
  | none => rfl
  | some entry => simp [each]

/-- Without unlisted peers one callback adds what the master lists in it. -/
theorem step_adds (digests : Digests) {cfg : Config} (closed : cfg.ipscPeerListAllowUnknown = false)
    (peer : IpscPeer) (event : IpscEvent) :
    OnlyAdds (listedIds digests cfg event) peer (peer.step digests cfg event).1 := by
  cases event with
  | connectionMade => exact .of_eq rfl
  | watchdog now =>
      simp only [step, watchdog]
      split
      · exact .of_eq (clearMasterRegistration_ids peer)
      · exact .of_eq rfl
  | maintenance clock =>
      simp only [step, maintenance]
      split
      · exact .of_eq rfl
      · apply OnlyAdds.of_eq
        exact maintained_ids digests cfg peer.transport clock peer.peers
  | datagramReceived data addr now =>
      have received := datagramReceived_cases digests cfg data addr now peer
      change OnlyAdds _ peer (peer.datagramReceived digests cfg data addr now).1
      generalize peer.datagramReceived digests cfg data addr now = reached at received ⊢
      cases received with
      | dropped => exact .of_eq rfl
      | @taken host port payload opcode checked first =>
          have added := payloadReceived_adds digests closed payload opcode host port now peer
          simpa only [listedIds, checked, first, Addr.host, Option.some.injEq] using added

/-- Without unlisted peers a run fills the table with IDs that the master listed. -/
theorem run_adds (digests : Digests) {cfg : Config} (closed : cfg.ipscPeerListAllowUnknown = false)
    (events : List IpscEvent) (peer : IpscPeer) :
    OnlyAdds (events.flatMap (listedIds digests cfg)) peer ((ipscPeer digests cfg).run peer events).1 := by
  induction events generalizing peer with
  | nil => exact .of_eq rfl
  | cons event rest ih =>
      intro id member
      rcases ih _ id member with earlier | listed
      · exact (step_adds digests closed peer event id earlier).imp_right
          fun now => List.mem_append_left _ now
      · exact .inr (List.mem_append_right _ listed)

/-- Without unlisted peers a voice packet of a foreign host is heard only under an ID of the table. -/
theorem heard_foreign {cfg : Config} (closed : cfg.ipscPeerListAllowUnknown = false) {payload : Bytes}
    {host : String} (foreign : host ≠ cfg.ipscUpstreamMasterIp) {peer : IpscPeer}
    {meta' : Timeslot × UInt8} (heard : peer.heard cfg payload host = some meta') :
    safePeerId payload ∈ peer.peerIds := by
  unfold IpscPeer.heard at heard
  simp only at heard
  split at heard
  case isFalse => cases heard
  case isTrue passed =>
    rw [isMasterSource_foreign foreign] at passed
    simp only [Bool.and_eq_true, Bool.false_or, closed, Bool.or_false] at passed
    obtain ⟨entry, found⟩ := Option.isSome_iff_exists.mp passed.2.2
    have id : entry.peerId = safePeerId payload := by simpa using List.find?_some found
    rw [← id]
    exact List.mem_map_of_mem (List.mem_of_find?_eq_some found)

/-- Without unlisted peers a voice packet of a foreign host is delivered only under an ID of the
table. -/
theorem delivered_foreign (digests : Digests) {cfg : Config}
    (closed : cfg.ipscPeerListAllowUnknown = false) (data : Bytes) {addr : Addr}
    (foreign : addr.host ≠ cfg.ipscUpstreamMasterIp) (now : Time) (peer : IpscPeer) {voice : Bytes}
    {ts : Timeslot} {burstType : UInt8}
    (delivered : .ipscVoiceReceived voice ts burstType ∈
      (peer.step digests cfg (.datagramReceived data addr now)).2) :
    safePeerId voice ∈ peer.peerIds := by
  cases addr with
  | inet6 => simp [step, datagramReceived, Addr.unpack] at delivered
  | inet host port =>
      cases checked : checkedPayload digests cfg data with
      | none => simp [step, datagramReceived, Addr.unpack, checked] at delivered
      | some payload =>
          have outcome := IpscStack.datagram_outcome digests cfg now (.peer peer)
            (rfl : (Addr.inet host port).unpack = .ok (host, port)) checked
          obtain ⟨rfl, heard⟩ := outcome.voice delivered
          exact heard_foreign closed foreign heard

end IpscPeer

/-- In every run of PEER mode, a datagram of a host other than the configured master leaves what the
master controls as it is and reports no registration. Without unlisted peers the table holds listed
IDs only, and no other voice of such a host is delivered. -/
theorem peer_control_isolated (digests : Digests) (cfg : Config) (events : List IpscEvent) :
    let state := ((ipscPeer digests cfg).run (IpscPeer.initial cfg) events).1
    let listed := events.flatMap (listedIds digests cfg)
    (∀ data addr now, addr.host ≠ cfg.ipscUpstreamMasterIp →
      let result := state.step digests cfg (.datagramReceived data addr now)
      result.1.control = state.control ∧ ∀ output ∈ result.2, ¬ output.IsRegistration) ∧
    (cfg.ipscPeerListAllowUnknown = false →
      (∀ entry ∈ state.peers, entry.peerId ∈ listed) ∧
      ∀ data addr now, addr.host ≠ cfg.ipscUpstreamMasterIp → ∀ voice ts burstType,
        .ipscVoiceReceived voice ts burstType ∈
          (state.step digests cfg (.datagramReceived data addr now)).2 →
        safePeerId voice ∈ listed) := by
  intro state listed
  refine ⟨fun data addr now foreign => state.datagramReceived_foreign digests data foreign now,
    fun closed => ?_⟩
  have known : ∀ id ∈ state.peerIds, id ∈ listed := fun id member => by
    rcases IpscPeer.run_adds digests closed events (IpscPeer.initial cfg) id member with initial | later
    · cases initial
    · exact later
  refine ⟨fun entry member => known _ (List.mem_map_of_mem member), ?_⟩
  intro data addr now foreign voice ts burstType delivered
  exact known _ (state.delivered_foreign digests closed data foreign now delivered)

/-- A peer of the master at 10.0.0.1. -/
def peerCfg : Config where
  ipscMode := .peer
  ipscPeerId := 2
  ipscUpstreamMasterIp := "10.0.0.1"
  ipscUpstreamMasterPort := 50000

/-- The master accepts the peer and lists another one with the ID 7. -/
def listingRun : List IpscEvent :=
  [.connectionMade,
    .datagramReceived ([masterRegReply, 0, 0, 0, 1, 0x6a] ++ List.replicate 10 0)
      (.inet "10.0.0.1" 50000) 1,
    .datagramReceived [peerListReply, 0, 0, 0, 1, 0, 11, 0, 0, 0, 7, 10, 0, 0, 7, 195, 80, 0x6a]
      (.inet "10.0.0.1" 50000) 2]

/-- A VOICE_HEAD under the ID 8. -/
def strangerVoice : Bytes := [groupVoice, 0, 0, 0, 8] ++ List.replicate 25 0 ++ [voiceHead]

theorem peer_control_isolated_stranger :
    let state := ((ipscPeer loginDigests peerCfg).run (IpscPeer.initial peerCfg) listingRun).1
    state.registered = true ∧ state.peerIds = [7] ∧
      (state.step loginDigests peerCfg
        (.datagramReceived [deRegReq, 0, 0, 0, 1] (.inet "10.9.9.9" 50000) 3)).1.control =
          state.control ∧
      .ipscVoiceReceived strangerVoice .ts1 voiceHead ∉ (state.step loginDigests peerCfg
        (.datagramReceived strangerVoice (.inet "10.9.9.9" 50000) 3)).2 := by
  have isolated := peer_control_isolated loginDigests peerCfg listingRun
  have foreign : (Addr.inet "10.9.9.9" 50000).host ≠ peerCfg.ipscUpstreamMasterIp := by decide
  refine ⟨by decide +kernel, by decide +kernel, (isolated.1 _ _ 3 foreign).1, fun delivered => ?_⟩
  have listed := (isolated.2 rfl).2 strangerVoice _ 3 foreign _ _ _ delivered
  revert listed
  decide +kernel

end Ipsc2Hbp
