import Ipsc2Hbp.Proof.PeerTable

namespace Ipsc2Hbp
open BigEndian

/-- The ID in a datagram from the configured upstream address, if its payload is of the kind and it is
not this peer's own. -/
def upstreamId (digests : Digests) (cfg : Config) (kind : Bytes → Bool) : IpscEvent → Option Nat
  | .datagramReceived data addr _ =>
      match addr.unpack, checkedPayload digests cfg data with
      | .ok (host, _), some payload =>
          if host = cfg.ipscUpstreamMasterIp ∧ safePeerId payload ≠ cfg.ipscPeerId ∧ kind payload then
            some (safePeerId payload)
          else none
      | _, _ => none
  | _ => none

/-- A whole registration reply. -/
def isRegReply (payload : Bytes) : Bool := payload[0]? = some masterRegReply && 16 ≤ payload.length

/-- A packet that a master sends. -/
def isMasterPacket (payload : Bytes) : Bool := payload[0]?.any IpscPeer.masterOpcodes.contains

/-- The first ID other than 0 that whole registration replies name. -/
def repliedId (digests : Digests) (cfg : Config) (events : List IpscEvent) : Nat :=
  ((events.filterMap (upstreamId digests cfg isRegReply)).find? fun id => id ≠ 0).getD 0

/-- Another packet of a master names an ID. -/
def namesOtherwise (digests : Digests) (cfg : Config) (event : IpscEvent) : Bool :=
  (upstreamId digests cfg isMasterPacket event).any (· ≠ 0) &&
    (upstreamId digests cfg isRegReply event).isNone

/-- The ID of the master is the one that a registration reply named, and while there is none the next
reply registers this peer and its ID is taken. -/
structure IpscPeer.Identified (digests : Digests) (cfg : Config) (earlier : List IpscEvent)
    (peer : IpscPeer) : Prop where
  masterId : peer.masterId = repliedId digests cfg earlier
  next : repliedId digests cfg earlier = 0 → ∀ event id,
    upstreamId digests cfg isRegReply event = some id →
      (peer.step digests cfg event).1.registered = true ∧
        (peer.step digests cfg event).1.masterId = id

/-- A reply counts while no earlier one has named an ID. -/
theorem repliedId_append (digests : Digests) (cfg : Config) (earlier : List IpscEvent)
    (event : IpscEvent) : repliedId digests cfg (earlier ++ [event]) =
      if repliedId digests cfg earlier = 0 then (upstreamId digests cfg isRegReply event).getD 0
      else repliedId digests cfg earlier := by
  unfold repliedId
  rw [List.filterMap_append, List.find?_append]
  cases found : (earlier.filterMap (upstreamId digests cfg isRegReply)).find? fun id => id ≠ 0 with
  | some id =>
      have named : id ≠ 0 := by simpa using List.find?_some found
      simp [named]
  | none =>
      cases reply : upstreamId digests cfg isRegReply event with
      | none => simp [reply]
      | some id => by_cases named : id = 0 <;> simp [reply, named]

/-- A registration reply is a packet of a master. -/
theorem isMasterPacket_of_isRegReply {payload : Bytes} (reply : isRegReply payload = true) :
    isMasterPacket payload = true := by
  simp only [isRegReply, Bool.and_eq_true, decide_eq_true_eq] at reply
  rw [isMasterPacket, reply.1]
  rfl

/-- What a kind of packet names, a wider kind names. -/
theorem upstreamId_wider {digests : Digests} {cfg : Config} {narrow wide : Bytes → Bool}
    (wider : ∀ payload, narrow payload = true → wide payload = true) {event : IpscEvent} {id : Nat}
    (named : upstreamId digests cfg narrow event = some id) :
    upstreamId digests cfg wide event = some id := by
  unfold upstreamId at named ⊢
  split at named
  case h_1 data addr now =>
    split at named
    case h_1 host port payload pair checked =>
      rw [Option.ite_none_right_eq_some] at named
      obtain ⟨⟨upstream, foreign, kind⟩, rfl⟩ := named.imp_right Option.some.inj
      exact if_pos ⟨upstream, foreign, wider payload kind⟩
    case h_2 => cases named
  case h_2 => cases named

namespace IpscPeer

/-- An unknown ID of the master is learned from any packet of a master; a known one stays. -/
theorem payloadReceived_masterId (digests : Digests) {cfg : Config} {payload : Bytes}
    {opcode : UInt8} (first : payload[0]? = some opcode) (host : String) (port : UInt16) (now : Time)
    {peer : IpscPeer} (foreign : safePeerId payload ≠ cfg.ipscPeerId) :
    (peer.payloadReceived digests cfg payload opcode host port now).1.masterId =
      if peer.masterId = 0 then
        if host = cfg.ipscUpstreamMasterIp ∧ isMasterPacket payload then safePeerId payload else 0
      else peer.masterId := by
  have kind : isMasterPacket payload = masterOpcodes.contains opcode := by
    rw [isMasterPacket, first]
    rfl
  cases isMaster : peer.isMasterSource cfg (safePeerId payload) host opcode with
  | true =>
      have same := (dispatch_master digests cfg payload opcode host port now peer).1.masterId
      rw [payloadReceived_master digests port now foreign isMaster, same, touchMaster]
      simp only [isMasterSource, Bool.and_eq_true, decide_eq_true_eq] at isMaster
      rw [kind, isMaster.2, isMaster.1.1]
      by_cases unknown : peer.masterId = 0 <;> by_cases unnamed : safePeerId payload = 0 <;>
        simp [unknown, unnamed]
  | false =>
      have same := (payloadReceived_other digests port now isMaster).1
      have kept : (peer.payloadReceived digests cfg payload opcode host port now).1.masterId =
        peer.masterId := congrArg MasterControl.masterId same
      rw [kept]
      by_cases unknown : peer.masterId = 0
      · have other : ¬(host = cfg.ipscUpstreamMasterIp ∧ isMasterPacket payload = true) := by
          rw [kind]
          simpa [isMasterSource, unknown] using isMaster
        rw [if_pos unknown, if_neg other, unknown]
      · rw [if_neg unknown]

/-- An unknown ID of the master is the one that a callback names; a known one stays. -/
theorem step_masterId (digests : Digests) (cfg : Config) (peer : IpscPeer) (event : IpscEvent) :
    (peer.step digests cfg event).1.masterId =
      if peer.masterId = 0 then (upstreamId digests cfg isMasterPacket event).getD 0
      else peer.masterId := by
  have still {id : Option Nat} (unnamed : id = none) :
      peer.masterId = if peer.masterId = 0 then id.getD 0 else peer.masterId := by
    rw [unnamed]
    split
    case isTrue unknown => exact unknown
    case isFalse => rfl
  cases event with
  | connectionMade => exact still rfl
  | maintenance clock =>
      have kept : (peer.maintenance digests cfg clock).1.masterId = peer.masterId := by
        unfold maintenance
        split <;> rfl
      exact kept.trans (still rfl)
  | watchdog now =>
      have kept : (peer.watchdog cfg now).1.masterId = peer.masterId := by
        unfold watchdog clearMasterRegistration
        dsimp only
        split_ifs <;> rfl
      exact kept.trans (still rfl)
  | datagramReceived data addr now =>
      have received := datagramReceived_cases digests cfg data addr now peer
      change (peer.datagramReceived digests cfg data addr now).1.masterId = _
      generalize peer.datagramReceived digests cfg data addr now = reached at received ⊢
      cases received with
      | dropped quiet ignored =>
          apply still
          simp only [upstreamId]
          split
          case h_1 host port payload pair checked =>
            obtain ⟨opcode, rest, rfl⟩ := List.exists_cons_of_ne_nil (checkedPayload_whole checked)
            exact if_neg fun named => named.2.1 (ignored host port _ opcode pair checked rfl)
          case h_2 => rfl
      | @taken host port payload opcode checked first own =>
          rw [payloadReceived_masterId digests first host port now own]
          simp only [upstreamId, Addr.unpack, checked]
          congr 1
          by_cases named : host = cfg.ipscUpstreamMasterIp ∧ isMasterPacket payload = true
          · rw [if_pos named, if_pos ⟨named.1, own, named.2⟩]
            rfl
          · rw [if_neg named, if_neg fun all => named ⟨all.1, all.2.2⟩]
            rfl

/-- While the ID of the master is unknown, a whole registration reply registers this peer. -/
theorem step_registers (digests : Digests) {cfg : Config} {peer : IpscPeer}
    (unknown : peer.masterId = 0) {event : IpscEvent} {id : Nat}
    (reply : upstreamId digests cfg isRegReply event = some id) :
    (peer.step digests cfg event).1.registered = true := by
  unfold upstreamId at reply
  split at reply
  case h_1 data addr now =>
    split at reply
    case h_1 host port payload pair checked =>
      rw [Option.ite_none_right_eq_some] at reply
      obtain ⟨upstream, foreign, kind⟩ := reply.1
      simp only [isRegReply, Bool.and_eq_true, decide_eq_true_eq] at kind
      obtain ⟨first, whole⟩ := kind
      have master : peer.isMasterSource cfg (safePeerId payload) host masterRegReply = true := by
        simp [isMasterSource, upstream, unknown, masterOpcodes]
      simp only [step, datagramReceived, pair, checked, first]
      rw [payloadReceived_master digests port now foreign master]
      change (onMasterRegReply digests cfg payload host port now _).1.registered = true
      rw [onMasterRegReply, if_neg (Nat.not_lt.mpr whole)]
    case h_2 => cases reply
  case h_2 => cases reply

/-- Where the master's ID is the one of the replies, the next reply is accepted. -/
theorem identified_iff (digests : Digests) (cfg : Config) (earlier : List IpscEvent)
    (peer : IpscPeer) : peer.Identified digests cfg earlier ↔
      peer.masterId = repliedId digests cfg earlier := by
  refine ⟨Identified.masterId, fun same => ⟨same, fun none event id reply => ?_⟩⟩
  have unknown : peer.masterId = 0 := same.trans none
  refine ⟨step_registers digests unknown reply, ?_⟩
  rw [step_masterId, if_pos unknown, upstreamId_wider (fun _ => isMasterPacket_of_isRegReply) reply]
  rfl

/-- A callback keeps the master's ID that of the replies exactly when it teaches no other. -/
theorem step_identified (digests : Digests) (cfg : Config) (earlier : List IpscEvent)
    (peer : IpscPeer) (event : IpscEvent) (same : peer.masterId = repliedId digests cfg earlier) :
    (peer.step digests cfg event).1.masterId = repliedId digests cfg (earlier ++ [event]) ↔
      (peer.masterId = 0 → namesOtherwise digests cfg event = false) := by
  rw [step_masterId, repliedId_append, ← same]
  by_cases unknown : peer.masterId = 0
  · rw [if_pos unknown, if_pos unknown, namesOtherwise]
    cases reply : upstreamId digests cfg isRegReply event with
    | some id =>
        rw [upstreamId_wider (fun _ => isMasterPacket_of_isRegReply) reply]
        simp
    | none =>
        cases upstreamId digests cfg isMasterPacket event with
        | none => simp
        | some id => simp [unknown]
  · rw [if_neg unknown, if_neg unknown]
    exact iff_of_true rfl fun known => absurd known unknown

end IpscPeer

/-- With no ID configured, in every state of a run of PEER mode the master's ID is that of the first
registration reply, and a reply is accepted while there is none, exactly when no other packet of a
master names an ID while none is known. -/
theorem identity_from_reply_iff (digests : Digests) {cfg : Config}
    (learns : cfg.ipscUpstreamMasterId = 0) (events : List IpscEvent) :
    (∀ earlier, earlier <+: events →
      ((ipscPeer digests cfg).run (IpscPeer.initial cfg) earlier).1.Identified digests cfg earlier) ↔
      (ipscPeer digests cfg).Meets
        (fun _ peer event => peer.masterId = 0 → namesOtherwise digests cfg event = false) []
        (IpscPeer.initial cfg) events := by
  rw [← (ipscPeer digests cfg).always_iff_meets
    (fun earlier peer => peer.masterId = repliedId digests cfg earlier) _
    (fun earlier peer event => peer.step_identified digests cfg earlier event) [] []
    (IpscPeer.initial cfg) events learns]
  apply forall_congr'
  intro earlier
  apply imp_congr_right
  intro within
  exact IpscPeer.identified_iff ..

/-- The reply of the master teaches its ID, and the list does not change it. -/
theorem identity_from_reply_iff_listing :
    ((ipscPeer loginDigests peerCfg).run (IpscPeer.initial peerCfg) listingRun).1.Identified
      loginDigests peerCfg listingRun :=
  (identity_from_reply_iff loginDigests rfl listingRun).mpr (by decide +kernel) listingRun
    (List.prefix_refl _)

/-- The voice of the peer with the ID 8 is relayed by the master, which then answers the
registration with its own ID. -/
def relayedFirstRun : List IpscEvent :=
  [.connectionMade, .datagramReceived strangerVoice (.inet "10.0.0.1" 50000) 1,
    .datagramReceived ([masterRegReply, 0, 0, 0, 1, 0x6a] ++ List.replicate 10 0)
      (.inet "10.0.0.1" 50000) 2]

/-- Then the ID 8 is taken for the master's, and the reply of the master is ignored. -/
theorem identity_from_voice :
    let state := ((ipscPeer loginDigests peerCfg).run (IpscPeer.initial peerCfg) relayedFirstRun).1
    peerCfg.ipscUpstreamMasterId = 0 ∧ state.masterId = 8 ∧ state.registered = false ∧
      repliedId loginDigests peerCfg relayedFirstRun = 1 ∧
      ¬ state.Identified loginDigests peerCfg relayedFirstRun := by
  intro state
  have voice : state.masterId = 8 := by decide +kernel
  have reply : repliedId loginDigests peerCfg relayedFirstRun = 1 := by decide +kernel
  refine ⟨rfl, voice, by decide +kernel, reply, fun law => ?_⟩
  have same := law.masterId
  rw [voice, reply] at same
  cases same

end Ipsc2Hbp
