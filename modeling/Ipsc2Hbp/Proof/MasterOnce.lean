import Ipsc2Hbp.Proof.PeerTable

namespace Ipsc2Hbp
open BigEndian

/-- An entry is apart from the master when it does not have its ID and is not connected at its
address. -/
structure PeerEntry.ApartFrom (masterId : Nat) (ip : String) (port : UInt16) (entry : PeerEntry) :
    Prop where
  id : entry.peerId ≠ masterId
  address : entry.connected = true → ¬(entry.ip = ip ∧ entry.port = port)

/-- A packet that goes to the address. -/
def IpscOutput.goesTo (ip : String) (port : UInt16) : IpscOutput → Bool
  | .send _ toHost toPort => toHost = ip && toPort = port
  | _ => false

namespace IpscPeer

/-- While the ID of the master is known, no entry is keyed by 0, by the own ID or by the master's ID,
none is connected at the master's address, and a packet goes to that address once. -/
structure MasterOnce (digests : Digests) (cfg : Config) (peer : IpscPeer) : Prop where
  keys : peer.masterId ≠ 0 → ∀ entry ∈ peer.peers,
    entry.peerId ≠ 0 ∧ entry.peerId ≠ cfg.ipscPeerId ∧ entry.peerId ≠ peer.masterId
  addresses : peer.masterId ≠ 0 → ∀ entry ∈ peer.peers, entry.connected = true →
    ¬(entry.ip = peer.masterIp ∧ entry.port = peer.masterPort)
  once : peer.masterId ≠ 0 → peer.transport = true → peer.registered = true → ∀ packet,
    (peer.sendToPeer digests cfg packet).countP (IpscOutput.goesTo peer.masterIp peer.masterPort) = 1

/-- A packet of the master whose ID is then known leaves no entry with this ID and none connected at
the address that it came from. -/
def MasterKeeps (cfg : Config) (payload : Bytes) (opcode : UInt8) (host : String) (port : UInt16)
    (now : Time) (peer : IpscPeer) : Prop :=
  let touched := peer.touchMaster (safePeerId payload) host port now
  touched.masterId ≠ 0 → ∀ entry ∈ peer.peers,
    ∀ left ∈ touched.masterLeaves cfg payload opcode entry,
      left.ApartFrom touched.masterId host port

/-- A packet of a peer, while the ID of the master is known, takes no sender with this ID into the
table and, if it comes from the master's address, leaves its sender unconnected. -/
structure PeerKeeps (cfg : Config) (srcId : Nat) (opcode : UInt8) (host : String) (port : UInt16)
    (peer : IpscPeer) : Prop where
  id : peer.Joins cfg srcId opcode → srcId ≠ peer.masterId
  listed : host = peer.masterIp → port = peer.masterPort → ∀ entry ∈ peer.peers,
    entry.peerId = srcId → connectedAfter opcode entry.connected = false
  joined : host = peer.masterIp → port = peer.masterPort → peer.Joins cfg srcId opcode →
    connectedAfter opcode false = false

/-- A callback keeps the entries apart from the master. -/
def KeepsApart (digests : Digests) (cfg : Config) (peer : IpscPeer) : IpscEvent → Prop
  | .datagramReceived data addr now =>
      ∀ host port payload opcode, addr.unpack = .ok (host, port) →
        checkedPayload digests cfg data = some payload → payload[0]? = some opcode →
        safePeerId payload ≠ cfg.ipscPeerId →
        if peer.isMasterSource cfg (safePeerId payload) host opcode then
          peer.MasterKeeps cfg payload opcode host port now
        else peer.masterId ≠ 0 → peer.PeerKeeps cfg (safePeerId payload) opcode host port
  | _ => True

instance (masterId : Nat) (ip : String) (port : UInt16) (entry : PeerEntry) :
    Decidable (entry.ApartFrom masterId ip port) :=
  decidable_of_iff (entry.peerId ≠ masterId ∧
      (entry.connected = true → ¬(entry.ip = ip ∧ entry.port = port)))
    ⟨fun ⟨id, address⟩ => ⟨id, address⟩, fun ⟨id, address⟩ => ⟨id, address⟩⟩

instance (cfg : Config) (payload : Bytes) (opcode : UInt8) (host : String) (port : UInt16)
    (now : Time) (peer : IpscPeer) :
    Decidable (peer.MasterKeeps cfg payload opcode host port now) :=
  inferInstanceAs (Decidable ((peer.touchMaster (safePeerId payload) host port now).masterId ≠ 0 →
    ∀ entry ∈ peer.peers, ∀ left ∈
      (peer.touchMaster (safePeerId payload) host port now).masterLeaves cfg payload opcode entry,
        left.ApartFrom (peer.touchMaster (safePeerId payload) host port now).masterId host port))

instance (cfg : Config) (srcId : Nat) (opcode : UInt8) (peer : IpscPeer) :
    Decidable (peer.Joins cfg srcId opcode) := inferInstanceAs (Decidable (_ ∧ _ ∧ _ ∧ _))

instance (cfg : Config) (srcId : Nat) (opcode : UInt8) (host : String) (port : UInt16)
    (peer : IpscPeer) : Decidable (peer.PeerKeeps cfg srcId opcode host port) :=
  decidable_of_iff ((peer.Joins cfg srcId opcode → srcId ≠ peer.masterId) ∧
      (host = peer.masterIp → port = peer.masterPort →
        (∀ entry ∈ peer.peers, entry.peerId = srcId → connectedAfter opcode entry.connected = false) ∧
        (peer.Joins cfg srcId opcode → connectedAfter opcode false = false)))
    ⟨fun ⟨id, here⟩ => ⟨id, fun ip port => (here ip port).1, fun ip port => (here ip port).2⟩,
      fun ⟨id, listed, joined⟩ => ⟨id, fun ip port => ⟨listed ip port, joined ip port⟩⟩⟩

instance (digests : Digests) (cfg : Config) (peer : IpscPeer) (event : IpscEvent) :
    Decidable (peer.KeepsApart digests cfg event) :=
  match event with
  | .connectionMade => isTrue trivial
  | .watchdog _ => isTrue trivial
  | .maintenance _ => isTrue trivial
  | .datagramReceived data addr _ =>
      match unpacked : addr.unpack, checked : checkedPayload digests cfg data with
      | .error _, _ => isTrue fun _ _ _ _ pair => by
          rw [unpacked] at pair
          cases pair
      | .ok _, none => isTrue fun _ _ _ _ _ some => by
          rw [checked] at some
          cases some
      | .ok (host, port), some payload =>
          match first : payload[0]? with
          | none => isTrue fun _ _ _ _ _ some found => by
              cases checked.symm.trans some
              rw [first] at found
              cases found
          | some opcode => decidable_of_iff
              (safePeerId payload ≠ cfg.ipscPeerId →
                if peer.isMasterSource cfg (safePeerId payload) host opcode then
                  peer.MasterKeeps cfg payload opcode host port _
                else peer.masterId ≠ 0 → peer.PeerKeeps cfg (safePeerId payload) opcode host port)
              ⟨fun keeps _ _ _ _ pair some found => by
                cases unpacked.symm.trans pair
                cases checked.symm.trans some
                cases first.symm.trans found
                exact keeps,
              fun keeps => keeps host port payload opcode unpacked checked first⟩

/-- The entries of a table are keyed neither by 0 nor by the own ID. -/
def ProperKeys (cfg : Config) (peer : IpscPeer) : Prop :=
  ∀ entry ∈ peer.peers, entry.peerId ≠ 0 ∧ entry.peerId ≠ cfg.ipscPeerId

/-- While the ID of the master is known, the entries are apart from it. -/
def Apart (peer : IpscPeer) : Prop :=
  peer.masterId ≠ 0 → ∀ entry ∈ peer.peers,
    entry.ApartFrom peer.masterId peer.masterIp peer.masterPort

/-- A packet of the master keeps the entries apart exactly when it meets its condition. -/
theorem dispatch_master_exact (digests : Digests) (cfg : Config) (payload : Bytes) (opcode : UInt8)
    (host : String) (port : UInt16) (now : Time) {peer : IpscPeer} (proper : peer.ProperKeys cfg) :
    let after := ((peer.touchMaster (safePeerId payload) host port now).dispatch digests cfg payload
      opcode host port now true none).1
    after.ProperKeys cfg ∧ (after.Apart ↔ peer.MasterKeeps cfg payload opcode host port now) := by
  intro after
  obtain ⟨same, extra, peers, plain⟩ : SameMaster after _ ∧ ∃ extra, after.peers = _ ++ extra ∧
    ∀ entry ∈ extra, PlainEntry cfg _ entry :=
      dispatch_master digests cfg payload opcode host port now peer
  constructor
  · intro entry member
    rw [peers] at member
    rcases List.mem_append.mp member with old | new
    · obtain ⟨before, inside, leaves⟩ := List.mem_filterMap.mp old
      rw [masterLeaves_id leaves]
      exact proper before inside
    · exact ⟨(plain entry new).2.1, (plain entry new).2.2.1⟩
  · rw [Apart, MasterKeeps, same.masterId, same.masterIp, same.masterPort, peers]
    apply imp_congr_right
    intro known
    constructor
    · intro apart entry member left leaves
      exact apart left (List.mem_append_left _ (List.mem_filterMap.mpr ⟨entry, member, leaves⟩))
    · intro keeps entry member
      rcases List.mem_append.mp member with old | new
      · obtain ⟨before, inside, leaves⟩ := List.mem_filterMap.mp old
        exact keeps before inside entry leaves
      · obtain ⟨unconnected, -, -, other⟩ := plain entry new
        refine ⟨other, fun connected => ?_⟩
        rw [unconnected] at connected
        cases connected

/-- An entry that a packet moves is apart from the master under these conditions. -/
theorem Moves.apart_iff {srcId : Nat} {opcode : UInt8} {host : String} {port : UInt16}
    {change : PeerEntry → PeerEntry} (moves : Moves srcId opcode host port change) {entry : PeerEntry}
    (own : entry.peerId = srcId) (masterId : Nat) (masterIp : String) (masterPort : UInt16) :
    (change entry).ApartFrom masterId masterIp masterPort ↔ srcId ≠ masterId ∧
      (host = masterIp → port = masterPort → connectedAfter opcode entry.connected = false) := by
  obtain ⟨id, ip, portOf, connected⟩ := moves.own entry own
  constructor
  · rintro ⟨other, apart⟩
    rw [id] at other
    rw [ip, portOf, connected] at apart
    refine ⟨other, fun sameHost samePort => ?_⟩
    by_contra linked
    exact apart (by simpa using linked) ⟨sameHost, samePort⟩
  · rintro ⟨other, unlinked⟩
    constructor
    · rwa [id]
    · rw [ip, portOf, connected]
      rintro linked ⟨sameHost, samePort⟩
      rw [unlinked sameHost samePort] at linked
      cases linked

/-- A packet of a known sender keeps the keys proper, and keeps the entries apart exactly when it keeps
the sender's. -/
theorem dispatch_peer_exact (digests : Digests) {cfg : Config} (payload : Bytes) (opcode : UInt8)
    (host : String) (port : UInt16) (now : Time) {sender : PeerEntry} {peer : IpscPeer}
    {entries : List PeerEntry}
    (proper : ∀ entry ∈ entries, entry.peerId ≠ 0 ∧ entry.peerId ≠ cfg.ipscPeerId)
    (members : ∀ entry ∈ entries, entry ∈ peer.peers ∨ entry.peerId = sender.peerId)
    (keeps : peer.Apart → peer.masterId ≠ 0 →
      ((∀ entry ∈ entries, entry.peerId = sender.peerId → sender.peerId ≠ peer.masterId ∧
        (host = peer.masterIp → port = peer.masterPort →
          connectedAfter opcode entry.connected = false)) ↔
        peer.PeerKeeps cfg sender.peerId opcode host port)) :
    let after := (({ peer with peers := entries }.touchPeer sender.peerId host port now).dispatch
      digests cfg payload opcode host port now false (some sender)).1
    after.ProperKeys cfg ∧ (peer.Apart → (after.Apart ↔
      (peer.masterId ≠ 0 → peer.PeerKeeps cfg sender.peerId opcode host port))) := by
  intro after
  obtain ⟨same, change, moves, peers⟩ : SameMaster after _ ∧ ∃ change, Moves _ _ _ _ change ∧
    after.peers = entries.map change :=
      dispatch_peer digests cfg payload opcode host port now sender { peer with peers := entries }
  constructor
  · intro entry member
    rw [peers] at member
    obtain ⟨before, inside, rfl⟩ := List.mem_map.mp member
    rw [moves.peerId]
    exact proper before inside
  · intro apart
    rw [Apart, same.masterId, same.masterIp, same.masterPort, peers]
    apply forall_congr'
    intro known
    rw [← keeps apart known, List.forall_mem_map]
    constructor
    · intro all entry member own
      exact (moves.apart_iff own _ _ _).mp (all entry member)
    · intro each entry member
      by_cases own : entry.peerId = sender.peerId
      · exact (moves.apart_iff own _ _ _).mpr (each entry member own)
      · rw [moves.other entry own]
        exact apart known entry ((members entry member).resolve_right own)

/-- A packet of a peer keeps the entries apart exactly when it meets its condition. -/
theorem payloadReceived_peer_exact (digests : Digests) {cfg : Config} {payload : Bytes}
    {opcode : UInt8} {host : String} (port : UInt16) (now : Time) {peer : IpscPeer}
    (foreign : safePeerId payload ≠ cfg.ipscPeerId)
    (other : peer.isMasterSource cfg (safePeerId payload) host opcode = false)
    (proper : peer.ProperKeys cfg) :
    let after := (peer.payloadReceived digests cfg payload opcode host port now).1
    after.ProperKeys cfg ∧ (peer.Apart → (after.Apart ↔
      (peer.masterId ≠ 0 → peer.PeerKeeps cfg (safePeerId payload) opcode host port))) := by
  intro after
  have state : after = _ := payloadReceived_peer digests port now foreign other
  have lookup := acceptOrGetPeer_lookup cfg (safePeerId payload) host port opcode now peer
  generalize peer.acceptOrGetPeer cfg (safePeerId payload) host port opcode now = found at state lookup
  generalize safePeerId payload = srcId at foreign lookup ⊢
  cases lookup with
  | unknown absent missing =>
      rw [state]
      refine ⟨proper, fun apart => iff_of_true apart fun known =>
        ⟨fun joins => absurd joins absent, ?_, ?_⟩⟩
      · intro _ _ entry member own
        have named : srcId ≠ 0 := own ▸ (proper entry member).1
        exact absurd own (missing named entry member)
      · exact fun _ _ joins => absurd joins absent
  | listed sender inside id absent =>
      rw [state, ← id]
      apply dispatch_peer_exact digests payload opcode host port now proper
      · exact fun entry member => .inl member
      · intro apart known
        rw [← id] at absent
        constructor
        · intro all
          refine ⟨fun joins => absurd joins absent, ?_, fun _ _ joins => absurd joins absent⟩
          exact fun sameHost samePort entry member own => (all entry member own).2 sameHost samePort
        · intro keeps entry member own
          have different := (apart known entry member).id
          rw [own] at different
          exact ⟨different, fun sameHost samePort => keeps.listed sameHost samePort entry member own⟩
  | joined sender id fresh joins =>
      rw [← id] at foreign joins
      rw [state, ← id]
      apply dispatch_peer_exact digests payload opcode host port now
      · intro entry member
        rcases List.mem_append.mp member with old | new
        · exact proper entry old
        · rw [List.mem_singleton.mp new]
          exact ⟨joins.1, foreign⟩
      · intro entry member
        rcases List.mem_append.mp member with old | new
        · exact .inl old
        · exact .inr (congrArg PeerEntry.peerId (List.mem_singleton.mp new))
      · intro apart known
        have last : sender ∈ peer.peers ++ [sender] :=
          List.mem_append_right _ (List.mem_singleton_self _)
        constructor
        · intro all
          refine ⟨fun _ => (all sender last rfl).1, ?_, ?_⟩
          · intro sameHost samePort entry member own
            exact (all entry (List.mem_append_left _ member) own).2 sameHost samePort
          · intro sameHost samePort _
            have unlinked := (all sender last rfl).2 sameHost samePort
            rwa [fresh] at unlinked
        · intro keeps entry member own
          refine ⟨keeps.id joins, fun sameHost samePort => ?_⟩
          rcases List.mem_append.mp member with old | new
          · exact keeps.listed sameHost samePort entry old own
          · rw [List.mem_singleton.mp new, fresh]
            exact keeps.joined sameHost samePort joins

/-- A callback whose table is the old one with some connections dropped keeps the entries apart. -/
theorem apart_of_entries {cfg : Config} (before : IpscPeer) {after : IpscPeer}
    (same : SameMaster after before)
    (entries : ∀ entry ∈ after.peers, ∃ old ∈ before.peers, entry.peerId = old.peerId ∧
      entry.ip = old.ip ∧ entry.port = old.port ∧ (entry.connected = true → old.connected = true))
    (proper : before.ProperKeys cfg) : after.ProperKeys cfg ∧ (before.Apart → after.Apart) := by
  constructor
  · intro entry member
    obtain ⟨old, inside, id, -⟩ := entries entry member
    rw [id]
    exact proper old inside
  · rw [Apart, Apart, same.masterId, same.masterIp, same.masterPort]
    intro apart known entry member
    obtain ⟨old, inside, id, ip, port, linked⟩ := entries entry member
    obtain ⟨different, address⟩ := apart known old inside
    constructor
    · rwa [id]
    · rw [ip, port]
      exact fun connected => address (linked connected)

/-- The loss of the registration drops connections only. -/
theorem clearMasterRegistration_apart {cfg : Config} {peer : IpscPeer}
    (proper : peer.ProperKeys cfg) :
    peer.clearMasterRegistration.1.ProperKeys cfg ∧
      (peer.Apart → peer.clearMasterRegistration.1.Apart) := by
  unfold clearMasterRegistration
  split
  case isTrue =>
    refine apart_of_entries peer ⟨rfl, rfl, rfl⟩ (fun entry member => ?_) proper
    obtain ⟨old, inside, rfl⟩ := List.mem_map.mp member
    exact ⟨old, inside, rfl, rfl, rfl, fun linked => by cases linked⟩
  case isFalse => exact ⟨proper, fun apart => apart⟩

/-- A round of maintenance drops connections only. -/
theorem maintenance_apart (digests : Digests) {cfg : Config} (clock : Clock) {peer : IpscPeer}
    (proper : peer.ProperKeys cfg) :
    (peer.maintenance digests cfg clock).1.ProperKeys cfg ∧
      (peer.Apart → (peer.maintenance digests cfg clock).1.Apart) := by
  unfold maintenance
  split
  case isTrue => exact ⟨proper, fun apart => apart⟩
  case isFalse =>
    refine apart_of_entries peer ⟨rfl, rfl, rfl⟩ (fun entry member => ?_) proper
    obtain ⟨maintained, inside, rfl⟩ := List.mem_map.mp member
    obtain ⟨idx, bound, rfl⟩ := List.mem_mapIdx.mp inside
    refine ⟨peer.peers[idx], List.getElem_mem bound, ?_⟩
    unfold maintainPeer
    split
    · exact ⟨rfl, rfl, rfl, fun linked => linked⟩
    · refine ⟨rfl, rfl, rfl, fun linked => ?_⟩
      exact (Bool.and_eq_true_iff.mp linked).1

/-- A packet that is not this peer's own keeps the entries apart exactly when it meets its
condition. -/
theorem payloadReceived_exact (digests : Digests) {cfg : Config} {payload : Bytes} (opcode : UInt8)
    (host : String) (port : UInt16) (now : Time) {peer : IpscPeer}
    (foreign : safePeerId payload ≠ cfg.ipscPeerId) (proper : peer.ProperKeys cfg) :
    let after := (peer.payloadReceived digests cfg payload opcode host port now).1
    after.ProperKeys cfg ∧ (peer.Apart → (after.Apart ↔
      if peer.isMasterSource cfg (safePeerId payload) host opcode then
        peer.MasterKeeps cfg payload opcode host port now
      else peer.masterId ≠ 0 → peer.PeerKeeps cfg (safePeerId payload) opcode host port)) := by
  cases isMaster : peer.isMasterSource cfg (safePeerId payload) host opcode with
  | true =>
      obtain ⟨properAfter, apartIff⟩ :=
        dispatch_master_exact digests cfg payload opcode host port now proper
      rw [payloadReceived_master digests port now foreign isMaster]
      exact ⟨properAfter, fun _ => apartIff⟩
  | false => exact payloadReceived_peer_exact digests port now foreign isMaster proper

/-- A callback keeps the keys proper, and keeps the entries apart exactly when it meets its
condition. -/
theorem step_exact (digests : Digests) (cfg : Config) {peer : IpscPeer} (event : IpscEvent)
    (proper : peer.ProperKeys cfg) :
    let after := (peer.step digests cfg event).1
    after.ProperKeys cfg ∧ (peer.Apart → (after.Apart ↔ peer.KeepsApart digests cfg event)) := by
  have kept {after : IpscPeer} (law : after.ProperKeys cfg ∧ (peer.Apart → after.Apart))
      {condition : Prop} (free : condition) :
      after.ProperKeys cfg ∧ (peer.Apart → (after.Apart ↔ condition)) :=
    ⟨law.1, fun apart => iff_of_true (law.2 apart) free⟩
  have still : peer.ProperKeys cfg ∧ (peer.Apart → peer.Apart) := ⟨proper, fun apart => apart⟩
  cases event with
  | connectionMade => exact kept still trivial
  | watchdog now =>
      refine kept ?_ trivial
      simp only [step, watchdog]
      split
      · exact clearMasterRegistration_apart proper
      · exact still
  | maintenance clock => exact kept (maintenance_apart digests clock proper) trivial
  | datagramReceived data addr now =>
      have received := datagramReceived_cases digests cfg data addr now peer
      change (peer.datagramReceived digests cfg data addr now).1.ProperKeys cfg ∧ (peer.Apart →
        ((peer.datagramReceived digests cfg data addr now).1.Apart ↔ _))
      generalize peer.datagramReceived digests cfg data addr now = reached at received ⊢
      cases received with
      | dropped quiet ignored =>
          exact kept still fun host port payload opcode pair checked first foreign =>
            absurd (ignored host port payload opcode pair checked first) foreign
      | @taken host port payload opcode checked first own =>
          obtain ⟨properAfter, apartIff⟩ :=
            payloadReceived_exact digests opcode host port now own proper
          refine ⟨properAfter, fun apart => (apartIff apart).trans ⟨fun keeps => ?_, fun keeps => ?_⟩⟩
          · intro otherHost otherPort other otherOpcode samePair same found foreign
            cases samePair
            cases checked.symm.trans same
            cases first.symm.trans found
            exact keeps
          · exact keeps host port payload opcode rfl checked first own

/-- The keys of the table are proper in every state of a run. -/
theorem run_proper (digests : Digests) (cfg : Config) (events : List IpscEvent) :
    ((ipscPeer digests cfg).run (initial cfg) events).1.ProperKeys cfg :=
  (ipscPeer digests cfg).run_invariant (ProperKeys cfg)
    (fun _ event proper => (step_exact digests cfg event proper).1) _ events (by
      simp [ProperKeys, initial])

/-- With proper keys the law is that the entries are apart from the master. -/
theorem masterOnce_iff (digests : Digests) {cfg : Config} {peer : IpscPeer}
    (proper : peer.ProperKeys cfg) : peer.MasterOnce digests cfg ↔ peer.Apart := by
  constructor
  · intro law known entry member
    exact ⟨(law.keys known entry member).2.2, law.addresses known entry member⟩
  · intro apart
    refine ⟨fun known entry member => ?_, fun known entry member => ?_,
      fun known attached registered packet => ?_⟩
    · obtain ⟨named, foreign⟩ := proper entry member
      exact ⟨named, foreign, (apart known entry member).id⟩
    · exact (apart known entry member).address
    · have others : ((peer.peers.filter fun entry => entry.connected).flatMap fun entry =>
          ipscSend digests cfg peer.transport packet entry.ip entry.port).countP
            (IpscOutput.goesTo peer.masterIp peer.masterPort) = 0 := by
        apply List.countP_eq_zero.mpr
        intro output member
        obtain ⟨entry, inside, sent⟩ := List.mem_flatMap.mp member
        obtain ⟨stored, connected⟩ := List.mem_filter.mp inside
        rw [ipscSend, if_pos attached, List.mem_singleton] at sent
        rw [sent, IpscOutput.goesTo, Bool.and_eq_true, decide_eq_true_eq, decide_eq_true_eq]
        exact (apart known entry stored).address connected
      rw [sendToPeer, registered, sendToMaster, ipscSend, if_pos attached]
      simp only [Bool.not_true, Bool.false_eq_true, if_false, List.countP_append, others]
      simp [IpscOutput.goesTo]

end IpscPeer

/-- In every run of PEER mode the master keeps its ID and its address for itself, and gets each packet
once, in all states that are reached exactly when every callback keeps the entries apart from it. -/
theorem master_once_iff (digests : Digests) (cfg : Config) (events : List IpscEvent) :
    (∀ earlier, earlier <+: events →
      ((ipscPeer digests cfg).run (IpscPeer.initial cfg) earlier).1.MasterOnce digests cfg) ↔
      (ipscPeer digests cfg).Meets (fun _ peer event => peer.KeepsApart digests cfg event) []
        (IpscPeer.initial cfg) events := by
  have exact : ∀ (past : List IpscEvent) (peer : IpscPeer) (event : IpscEvent),
      peer.ProperKeys cfg ∧ peer.Apart →
      ((peer.step digests cfg event).1.ProperKeys cfg ∧ (peer.step digests cfg event).1.Apart ↔
        peer.KeepsApart digests cfg event) := by
    rintro past peer event ⟨proper, apart⟩
    obtain ⟨properAfter, apartIff⟩ := IpscPeer.step_exact digests cfg event proper
    exact (and_iff_right properAfter).trans (apartIff apart)
  have start : (IpscPeer.initial cfg).ProperKeys cfg ∧ (IpscPeer.initial cfg).Apart := by
    simp [IpscPeer.ProperKeys, IpscPeer.Apart, IpscPeer.initial]
  rw [← (ipscPeer digests cfg).always_iff_meets (fun _ peer => peer.ProperKeys cfg ∧ peer.Apart) _
    exact [] [] (IpscPeer.initial cfg) events start]
  apply forall_congr'
  intro earlier
  apply imp_congr_right
  intro within
  have proper := IpscPeer.run_proper digests cfg earlier
  exact (IpscPeer.masterOnce_iff digests proper).trans (and_iff_right proper).symm

/-- A run in which the master lists a peer, which then sends a keepalive request. -/
example : (ipscPeer loginDigests peerCfg).Meets
    (fun _ peer event => peer.KeepsApart loginDigests peerCfg event) [] (IpscPeer.initial peerCfg)
    (listingRun ++ [.datagramReceived [peerAliveReq, 0, 0, 0, 7, 0x6a, 0, 0, 0, 4]
      (.inet "10.0.0.7" 50000) 3]) := by
  decide +kernel

/-- The configuration of a peer that accepts unlisted peers. -/
def openPeerCfg : Config := { peerCfg with ipscPeerListAllowUnknown := true }

/-- The master accepts the peer and then sends it a keepalive request of the peer protocol. -/
def masterAsPeerRun : List IpscEvent :=
  [.connectionMade,
    .datagramReceived ([masterRegReply, 0, 0, 0, 1, 0x6a] ++ List.replicate 10 0)
      (.inet "10.0.0.1" 50000) 1,
    .datagramReceived [peerAliveReq, 0, 0, 0, 1, 0x6a, 0, 0, 0, 4] (.inet "10.0.0.1" 50000) 2]

/-- Then the master is in the table of peers, and every packet goes to it twice. -/
theorem master_sent_twice :
    let state := ((ipscPeer loginDigests openPeerCfg).run (IpscPeer.initial openPeerCfg)
      masterAsPeerRun).1
    state.masterId = 1 ∧ state.peerIds = [1] ∧
      state.sendToPeer loginDigests openPeerCfg strangerVoice =
        [.send strangerVoice "10.0.0.1" 50000, .send strangerVoice "10.0.0.1" 50000] ∧
      ¬ state.MasterOnce loginDigests openPeerCfg := by
  intro state
  have known : state.masterId = 1 := by decide +kernel
  have sent : state.sendToPeer loginDigests openPeerCfg strangerVoice =
      [.send strangerVoice "10.0.0.1" 50000, .send strangerVoice "10.0.0.1" 50000] := by
    decide +kernel
  refine ⟨known, by decide +kernel, sent, fun law => ?_⟩
  have once := law.once (by rw [known]; decide) (by decide +kernel) (by decide +kernel) strangerVoice
  rw [sent] at once
  revert once
  decide +kernel

end Ipsc2Hbp
