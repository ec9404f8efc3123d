import Ipsc2Hbp.Construction.Link
import Ipsc2Hbp.Proof.Addresses
import Ipsc2Hbp.Proof.HandedPackets
import Ipsc2Hbp.Proof.Layers

namespace Ipsc2Hbp
open BigEndian

/-- A packet with its digest behind it. -/
def signed (digests : Digests) (cfg : Config) (payload : Bytes) : Bytes :=
  payload ++ authSuffix digests cfg payload

theorem ipscSend_signed (digests : Digests) (cfg : Config) {transport : Bool} {payload : Bytes}
    {host : String} {port : UInt16} {output : IpscOutput}
    (sent : output ∈ ipscSend digests cfg transport payload host port) :
    output = .send (signed digests cfg payload) host port := by
  unfold ipscSend at sent
  split at sent
  · exact List.mem_singleton.mp sent
  · cases sent

/-- What one side signs the other side accepts. -/
theorem checkedPayload_signed {digests : Digests} (documented : digests.Documented) (cfg : Config)
    {payload : Bytes} (filled : payload ≠ []) :
    checkedPayload digests cfg (signed digests cfg payload) = some payload := by
  have whole : payload.isEmpty = false := by simpa using filled
  unfold checkedPayload
  cases enabled : cfg.authEnabled with
  | false => simp [signed, authSuffix, enabled, whole]
  | true =>
      have width : (authDigest digests cfg payload).length = authDigestLen := by
        rw [authDigest, List.length_take, documented.hmacSha1]
        rfl
      have front : (signed digests cfg payload).length - authDigestLen = payload.length := by
        simp only [signed, authSuffix, enabled, if_true, List.length_append, width]
        omega
      have long : ¬ (signed digests cfg payload).length ≤ authDigestLen := by
        have := List.length_pos_of_ne_nil filled
        omega
      have taken : (signed digests cfg payload).take payload.length = payload := List.take_left
      have dropped : (signed digests cfg payload).drop payload.length =
          authDigest digests cfg payload := by
        simp [signed, authSuffix, enabled]
      simp [checkAuth, long, front, taken, dropped, whole]

/-- Both sides check alike when they have the same key. -/
theorem checkedPayload_congr (digests : Digests) {cfg other : Config}
    (enabled : other.authEnabled = cfg.authEnabled) (key : other.authKey = cfg.authKey)
    (data : Bytes) : checkedPayload digests other data = checkedPayload digests cfg data := by
  have digest : authDigest digests other = authDigest digests cfg := by
    funext payload
    rw [authDigest, authDigest, key]
  unfold checkedPayload checkAuth
  rw [digest, enabled]

/-- The ID of a packet is read back. -/
theorem Bears.safePeerId {id : Nat} {payload : Bytes} (bears : Bears id payload) (width : id < 256 ^ 4) :
    safePeerId payload = id := by
  rw [Ipsc2Hbp.safePeerId, if_neg (by have := bears.long; omega), bears.id]
  exact bytesToNat_natToBytes 4 id width

/-- A GROUP_VOICE packet is one that was handed over. -/
def VoiceOf (handed : List (Timeslot × QueueEntry)) (payload : Bytes) : Prop :=
  payload[0]? = some groupVoice → ∃ ts entry, (ts, entry) ∈ handed ∧ entry.packet = payload

/-- The packets that pass the check of the digest come from the address and are allowed. -/
def IpscEvent.Hears (digests : Digests) (cfg : Config) (source : Addr) (allowed : Bytes → Prop) :
    IpscEvent → Prop
  | .datagramReceived data addr _ => ∀ payload, checkedPayload digests cfg data = some payload →
      addr = source ∧ allowed payload
  | _ => True

namespace Link

/-- The packets that the peer may send. -/
structure FromPeer (link : Link) (handed : List (Timeslot × QueueEntry)) (payload : Bytes) : Prop where
  bears : Bears link.peer.ipscPeerId payload
  voice : VoiceOf handed payload

/-- The packets that the master may send. A peer list names the peer only. -/
structure FromMaster (link : Link) (handed : List (Timeslot × QueueEntry)) (payload : Bytes) : Prop where
  bears : Bears link.master.ipscMasterId payload
  voice : VoiceOf handed payload
  opcode : ∃ opcode ∈ IpscPeer.masterOpcodes, payload[0]? = some opcode
  list : payload[0]? = some peerListReply → ∀ id ∈ peerListIds payload, id = link.peer.ipscPeerId

variable {link : Link} {told : Prop} {handed heard : List (Timeslot × QueueEntry)}

/-- The effects of the master while it hears the peer only; `heard` is what the peer has handed over. -/
def MasterTells (digests : Digests) (link : Link) (told : Prop)
    (handed heard : List (Timeslot × QueueEntry)) : IpscOutput → Prop
  | .send packet host port => host = link.peerHost ∧ port = link.peerPort ∧ told ∧
      ∃ payload, packet = signed digests link.master payload ∧ link.FromMaster handed payload
  | .peerRegistered peerId host port =>
      peerId = idB link.peer.ipscPeerId ∧ host = link.peerHost ∧ port = link.peerPort
  | .ipscVoiceReceived data ts burstType => parseGroupVoiceMeta data = .ok (ts, burstType) ∧
      ∃ ts entry, (ts, entry) ∈ heard ∧ entry.packet = data
  | .peerLost | .checkCallTimeouts | .raised _ => True

/-- The report of the peer's registration to the master's translator. -/
def report (link : Link) : IpscOutput :=
  .peerRegistered (idB link.peer.ipscPeerId) link.peerHost link.peerPort

/-- A registered peer is the peer of the link at its address, and the translator was told. -/
def MasterKnows (link : Link) (told : Prop) (master : IpscMaster) : Prop :=
  master.registered = true → master.peerId = some (idB link.peer.ipscPeerId) ∧
    master.peerIp = some link.peerHost ∧ master.peerPort = some link.peerPort ∧ told

/-- A control packet of the master. -/
theorem fromMaster_control (opcode : UInt8) (rest : Bytes)
    (master : opcode ∈ IpscPeer.masterOpcodes) (silent : opcode ≠ groupVoice)
    (unlisted : opcode ≠ peerListReply) :
    link.FromMaster handed (opcode :: (idB link.master.ipscMasterId ++ rest)) where
  bears := bears_cons _ _ _
  voice first := absurd (Option.some.inj first) silent
  opcode := ⟨opcode, master, rfl⟩
  list first := absurd (Option.some.inj first) unlisted

/-- The peer list of the one peer. -/
theorem fromMaster_list (width : link.peer.ipscPeerId < 256 ^ 4) {address : Bytes}
    (ip : address.length = 4) (port : Nat) :
    let entry := idB link.peer.ipscPeerId ++ address ++ natToBytes 2 port ++ ourMode
    link.FromMaster handed
      ([peerListReply] ++ idB link.master.ipscMasterId ++ natToBytes 2 entry.length ++ entry) := by
  intro entry
  have eleven : entry.length = 11 := by
    simp only [entry, List.length_append, idB, natToBytes_length, ip, ourMode]
    rfl
  have shape : [peerListReply] ++ idB link.master.ipscMasterId ++ natToBytes 2 entry.length ++ entry =
      peerListReply :: (idB link.master.ipscMasterId ++ (natToBytes 2 entry.length ++ entry)) := by
    simp only [List.cons_append, List.nil_append, List.append_assoc]
  rw [shape]
  have front : (peerListReply :: idB link.master.ipscMasterId).length = 5 := by
    rw [List.length_cons, idB, natToBytes_length]
  have counted : (peerListReply :: (idB link.master.ipscMasterId ++
      (natToBytes 2 entry.length ++ entry))).extract 5 7 = natToBytes 2 entry.length :=
    extract_middle _ entry rfl front (by rw [natToBytes_length])
  have listed : (peerListReply :: (idB link.master.ipscMasterId ++
      (natToBytes 2 entry.length ++ entry))).extract 7 (7 + 11) = entry :=
    extract_middle (peerListReply :: (idB link.master.ipscMasterId ++ natToBytes 2 entry.length)) []
      (by simp only [List.append_nil, List.cons_append, List.append_assoc])
      (by simp only [List.length_cons, List.length_append, idB, natToBytes_length])
      (by rw [eleven])
  have own : (entry.extract 0 11).extract 0 4 = idB link.peer.ipscPeerId := by
    have whole : entry.extract 0 11 = entry := extract_middle [] [] (by simp) rfl (by rw [eleven])
    rw [whole]
    exact extract_middle [] (address ++ natToBytes 2 port ++ ourMode) (by simp [entry]) rfl
      (by rw [idB, natToBytes_length])
  refine ⟨bears_cons _ _ _, fun first => absurd (Option.some.inj first) (by decide),
    ⟨peerListReply, by decide, rfl⟩, fun _ id member => ?_⟩
  have length : bytesToNat (natToBytes 2 entry.length) = 11 := by
    rw [eleven]
    rfl
  rw [peerListIds, counted, length, listed, IpscPeer.peerRecords, eleven] at member
  simp only [Nat.reduceDiv, List.range_one, List.map_cons, List.map_nil, Nat.mul_zero, Nat.zero_add,
    List.mem_singleton] at member
  rw [member, IpscPeer.recordId, own]
  exact bytesToNat_natToBytes 4 _ width

/-- A packet of the master to the peer. -/
theorem masterTells_send {digests : Digests} (knew : told) {transport : Bool} {payload : Bytes}
    (from_master : link.FromMaster handed payload) :
    ∀ output ∈ ipscSend digests link.master transport payload link.peerHost link.peerPort,
      MasterTells digests link told handed heard output := by
  intro output sent
  rw [ipscSend_signed digests link.master sent]
  exact ⟨rfl, rfl, knew, payload, rfl, from_master⟩

/-- The list that the master sends names the peer. -/
theorem masterTells_list {digests : Digests} (knew : told) (width : link.peer.ipscPeerId < 256 ^ 4)
    {master : IpscMaster} (id : master.peerId = some (idB link.peer.ipscPeerId)) :
    ∀ output ∈ master.sendPeerList digests link.master link.peerHost link.peerPort,
      MasterTells digests link told handed heard output := by
  intro output sent
  unfold IpscMaster.sendPeerList at sent
  rw [id] at sent
  split at sent
  case h_1 peerId peerIp peerPort same ip port =>
      obtain rfl := Option.some.inj same
      split at sent
      · cases sent
      · refine masterTells_send knew (fromMaster_list width ?_ peerPort.toNat) output sent
        cases read : inetAton peerIp with
        | none => rfl
        | some address => exact inetAton_length read
  case h_2 => cases sent

/-- The master keeps its record and speaks to the peer while it hears a packet of the peer. -/
theorem dispatch_masterTells {digests : Digests} {payload : Bytes} {opcode : UInt8}
    (first : payload[0]? = some opcode) (from_peer : link.FromPeer heard payload)
    (width : link.peer.ipscPeerId < 256 ^ 4) {master : IpscMaster}
    (knows : link.MasterKnows told master) (now : Time) :
    let result := master.dispatch digests link.master payload opcode link.peerHost link.peerPort now
    link.MasterKnows (told ∨ link.report ∈ result.2) result.1 ∧ ∀ output ∈ result.2,
      MasterTells digests link (told ∨ link.report ∈ result.2) handed heard output := by
  have quiet (outputs : List IpscOutput) :
      link.MasterKnows (told ∨ link.report ∈ outputs) master := fun registered =>
    (knows registered).imp_right fun rest => rest.imp_right fun rest => rest.imp_right .inl
  have still : link.MasterKnows (told ∨ link.report ∈ ([] : List IpscOutput)) master ∧
      ∀ output ∈ ([] : List IpscOutput),
        MasterTells digests link (told ∨ link.report ∈ ([] : List IpscOutput)) handed heard output :=
    ⟨quiet [], by simp⟩
  have named (names : master.namesPeer payload = true) : master.registered = true := by
    simp only [IpscMaster.namesPeer, Bool.and_eq_true] at names
    exact names.1
  intro result
  unfold result IpscMaster.dispatch
  split_ifs with isReg isAlive isList isDeReg isVoice
  · unfold IpscMaster.onRegReq
    split
    · exact still
    · dsimp only
      split
      · exact still
      · -- The record is the peer's from now on, and a first registration is reported.
        have knew : told ∨ link.report ∈
            ipscSend digests link.master master.transport (IpscMaster.masterRegReplyPacket link.master)
                link.peerHost link.peerPort ++
              IpscMaster.sendPeerList digests link.master link.peerHost link.peerPort { master with
                registered := true, peerId := some (payload.extract 1 5)
                peerIp := some link.peerHost, peerPort := some link.peerPort, lastKa := now } ++
              (if master.registered then []
                else [.peerRegistered (payload.extract 1 5) link.peerHost link.peerPort]) := by
          cases registered : master.registered with
          | true => exact .inl (knows registered).2.2.2
          | false =>
              rw [from_peer.bears.id]
              exact .inr (List.mem_append_right _ List.mem_cons_self)
        refine ⟨fun _ => ⟨congrArg some from_peer.bears.id, rfl, rfl, knew⟩, ?_⟩
        intro output member
        rcases List.mem_append.mp member with sends | report
        · rcases List.mem_append.mp sends with reply | list
          · refine masterTells_send knew ?_ output reply
            have shape : IpscMaster.masterRegReplyPacket link.master = masterRegReply ::
                (idB link.master.ipscMasterId ++ (tsFlags link.master true ++ natToBytes 2 1 ++
                  ipscVer)) := by
              simp [IpscMaster.masterRegReplyPacket]
            rw [shape]
            exact fromMaster_control _ _ (by decide) (by decide) (by decide)
          · exact masterTells_list knew width (congrArg some from_peer.bears.id) output list
        · split at report
          · cases report
          · rw [List.mem_singleton.mp report]
            exact ⟨from_peer.bears.id, rfl, rfl⟩
  · unfold IpscMaster.onAliveReq
    split
    case isTrue names =>
      obtain ⟨id, ip, port, knew⟩ := knows (named names)
      refine ⟨fun _ => ⟨id, ip, port, .inl knew⟩, masterTells_send (.inl knew) ?_⟩
      have shape : IpscMaster.masterAliveReplyPacket link.master = masterAliveReply ::
          (idB link.master.ipscMasterId ++ (tsFlags link.master true ++ ipscVer)) := by
        simp [IpscMaster.masterAliveReplyPacket]
      rw [shape]
      exact fromMaster_control _ _ (by decide) (by decide) (by decide)
    case isFalse => exact still
  · refine ⟨quiet _, fun output member => ?_⟩
    unfold IpscMaster.onPeerListReq at member ⊢
    dsimp only at member ⊢
    split at member
    case isTrue names =>
      obtain ⟨id, -, -, knew⟩ := knows (named names)
      exact masterTells_list (.inl knew) width id output member
    case isFalse => cases member
  · unfold IpscMaster.onDeRegReq
    split
    case isTrue names =>
      obtain ⟨-, -, -, knew⟩ := knows (named names)
      refine ⟨fun registered => Bool.noConfusion registered, fun output member => ?_⟩
      rcases List.mem_append.mp member with reply | lost
      · refine masterTells_send (.inl knew) ?_ output reply
        have shape : IpscMaster.deRegReplyPacket link.master =
            deRegReply :: (idB link.master.ipscMasterId ++ []) := by
          simp [IpscMaster.deRegReplyPacket]
        rw [shape]
        exact fromMaster_control _ _ (by decide) (by decide) (by decide)
      · rw [List.mem_singleton.mp lost]
        trivial
    case isFalse => exact still
  · unfold IpscMaster.onGroupVoice
    split
    · exact still
    · cases parsed : parseGroupVoiceMeta payload with
      | error => exact still
      | ok read =>
          refine ⟨fun registered => quiet _ registered, fun output member => ?_⟩
          rw [List.mem_singleton.mp member]
          exact ⟨parsed, from_peer.voice (isVoice ▸ first)⟩
  · exact still

/-- The master keeps its record and speaks to the peer in every callback. -/
theorem step_masterTells {digests : Digests} (width : link.peer.ipscPeerId < 256 ^ 4)
    {master : IpscMaster} (knows : link.MasterKnows told master) {event : IpscEvent}
    (hears : event.Hears digests link.master (.inet link.peerHost link.peerPort)
      (link.FromPeer heard)) :
    let result := master.step digests link.master event
    link.MasterKnows (told ∨ link.report ∈ result.2) result.1 ∧ ∀ output ∈ result.2,
      MasterTells digests link (told ∨ link.report ∈ result.2) handed heard output := by
  have quiet (outputs : List IpscOutput) :
      link.MasterKnows (told ∨ link.report ∈ outputs) master := fun registered =>
    (knows registered).imp_right fun rest => rest.imp_right fun rest => rest.imp_right .inl
  cases event with
  | connectionMade => exact ⟨fun registered => quiet [] registered, by simp [IpscMaster.step]⟩
  | maintenance clock => exact ⟨quiet [], by simp [IpscMaster.step]⟩
  | watchdog now =>
      simp only [IpscMaster.step, IpscMaster.watchdog]
      split
      · refine ⟨fun registered => Bool.noConfusion registered, ?_⟩
        simp [IpscMaster.clearPeer, MasterTells]
      · exact ⟨quiet _, by simp [MasterTells]⟩
  | datagramReceived data addr now =>
      simp only [IpscMaster.step, IpscMaster.datagramReceived]
      cases pair : addr.unpack with
      | error err => exact ⟨quiet _, by simp [MasterTells]⟩
      | ok sender =>
          dsimp only
          cases checked : checkedPayload digests link.master data with
          | none => exact ⟨quiet [], by simp⟩
          | some payload =>
              obtain ⟨rfl, from_peer⟩ := hears payload checked
              obtain rfl := Except.ok.inj pair
              dsimp only
              cases first : payload[0]? with
              | none => exact ⟨quiet _, by simp [MasterTells]⟩
              | some opcode => exact dispatch_masterTells first from_peer width knows now

/-- A packet of the master's translator goes to the peer. -/
theorem sendToPeer_masterTells {digests : Digests} (own : link.master.ipscSourceId = link.master.ipscMasterId)
    {master : IpscMaster} (knows : link.MasterKnows told master) {ts : Timeslot} {entry : QueueEntry}
    (passed : (ts, entry) ∈ handed) (made : entry.Made link.master ts) :
    ∀ output ∈ master.sendToPeer digests link.master entry.packet,
      MasterTells digests link told handed heard output := by
  intro output sent
  unfold IpscMaster.sendToPeer at sent
  split at sent
  case h_1 peerIp peerPort ip port =>
    split at sent
    · cases sent
    case isFalse allowed =>
      have registered : master.registered = true := by
        simp only [Bool.or_eq_true, not_or, Bool.not_eq_true', Bool.not_eq_false] at allowed
        exact allowed.1.1
      obtain ⟨-, sameIp, samePort, knew⟩ := knows registered
      obtain rfl := Option.some.inj (ip.symm.trans sameIp)
      obtain rfl := Option.some.inj (port.symm.trans samePort)
      refine masterTells_send knew ⟨own ▸ made.bears, fun _ => ⟨ts, entry, passed, rfl⟩,
        ⟨groupVoice, by decide, made.opcode⟩, fun list => ?_⟩ output sent
      exact absurd (Option.some.inj (made.opcode.symm.trans list)) (by decide)
  case h_2 => cases sent

end Link

end Ipsc2Hbp
