import Ipsc2Hbp.Proof.Leases
import Ipsc2Hbp.Proof.MasterOnce
import Ipsc2Hbp.Proof.PeerListUpdate

namespace Ipsc2Hbp
open BigEndian KeyedList

/-- The connection of an entry with the maintenance round in which it was last confirmed. -/
def PeerEntry.connection (rounds : Nat) (entry : PeerEntry) : Option (Unit × Int) :=
  if entry.connected then some ((), (rounds : Int) - entry.outstanding) else none

namespace IpscPeer

def connection (id rounds : Nat) (peer : IpscPeer) : Option (Unit × Int) :=
  (entryOf PeerEntry.peerId id peer.peers).bind fun entry => entry.connection rounds

/-- The packets with which a peer connects. -/
def greetings : List UInt8 := [peerRegReq, peerRegReply, peerAliveReq, peerAliveReply]

/-- The packets with which it leaves. -/
def farewells : List UInt8 := [deRegReq, deRegReply]

/-- A whole peer list of the master prunes the listed entry of an ID that it does not name. -/
def prunes (cfg : Config) (payload : Bytes) (id : Nat) (touched : IpscPeer) : Bool :=
  cfg.ipscPeerListPrune &&
    ((touched.completeRecords cfg payload).any fun records => !(records.map recordId).contains id) &&
    (entryOf PeerEntry.peerId id touched.peers).any fun entry => entry.fromPeerList

/-- What a packet of the master does to the connection of a peer. -/
def masterMove (cfg : Config) (id : Nat) (payload : Bytes) (opcode : UInt8) (touched : IpscPeer) :
    Option (Lease.Move Unit Int) :=
  if farewells.contains opcode && touched.registered then some .revoke
  else if opcode = peerListReply && touched.prunes cfg payload id then some .revoke
  else none

/-- What a packet of a peer does to its connection. An unknown peer may join the table. -/
def greetingMove (cfg : Config) (id rounds : Nat) (opcode : UInt8) (peer : IpscPeer) :
    Option (Lease.Move Unit Int) :=
  if id = 0 ∨ peer.getPeer id = none ∧ cfg.ipscPeerListAllowUnknown = false then none
  else if greetings.contains opcode then some (.grant () rounds)
  else if farewells.contains opcode then some .revoke
  else none

def packetConnection (cfg : Config) (id rounds : Nat) (payload : Bytes) (host : String)
    (port : UInt16) (now : Time) (peer : IpscPeer) : Option (Lease.Move Unit Int) :=
  payload[0]?.bind fun opcode =>
    if safePeerId payload = cfg.ipscPeerId then none
    else if peer.isMasterSource cfg (safePeerId payload) host opcode then
      (peer.touchMaster (safePeerId payload) host port now).masterMove cfg id payload opcode
    else if safePeerId payload = id then peer.greetingMove cfg id rounds opcode
    else none

/-- What a callback does to the connection of a peer; the maintenance rounds are counted. -/
def connectionMove (digests : Digests) (cfg : Config) (id rounds : Nat) (peer : IpscPeer) :
    IpscEvent → Option (Lease.Move Unit Int)
  | .datagramReceived data (.inet host port) now =>
      (checkedPayload digests cfg data).bind fun payload =>
        peer.packetConnection cfg id rounds payload host port now
  | .watchdog now =>
      if peer.registered && expired cfg now peer.lastMasterRx then some .revoke else none
  | .maintenance _ => if peer.registered then some (.check ((rounds : Int) + 1)) else none
  | _ => none

/-- The rounds of maintenance while registered. -/
def countRounds (rounds : Nat) (peer : IpscPeer) : IpscEvent → Nat
  | .maintenance _ => if peer.registered then rounds + 1 else rounds
  | _ => rounds

/-- A peer may miss as many replies as configured. -/
def missed (cfg : Config) (now last : Int) : Bool := max 1 cfg.ipscMaxMissed < now - last

section Moves
variable {cfg : Config} {id rounds : Nat} {peer : IpscPeer}

theorem connection_eq {before after : IpscPeer} (peers : after.peers = before.peers) :
    after.connection id rounds = before.connection id rounds := by
  rw [connection, connection, peers]

theorem completeRecords_whole {payload : Bytes} (whole : ¬ CutShort payload) :
    peer.completeRecords cfg payload =
      some (peer.listedRecords cfg (payload.extract 7 (7 + advertised payload))) := by
  obtain ⟨long, complete⟩ := not_or.mp whole
  refine if_neg (not_or.mpr ⟨long, ?_⟩)
  rw [advertised] at complete
  simp only [List.extract_eq_take_drop, List.length_take, List.length_drop] at complete ⊢
  omega

theorem completeRecords_cut {payload : Bytes} (cut : CutShort payload) :
    peer.completeRecords cfg payload = none := by
  refine if_pos ?_
  rw [CutShort, advertised] at cut
  simp only [List.extract_eq_take_drop, List.length_take, List.length_drop] at cut ⊢
  omega

/-- The connection of an entry does not depend on what peer lists say. -/
theorem listedAlong_connection (rounds : Nat) (records : List Bytes) (former : Option PeerEntry) :
    ((PeerEntry.listedAlong records former).bind fun entry => entry.connection rounds) =
      former.bind fun entry => entry.connection rounds := by
  induction records generalizing former with
  | nil => rfl
  | cons record rest ih =>
      refine (ih _).trans ?_
      cases former <;> rfl

/-- A peer list keeps the connection of an entry that it does not prune; an entry that it adds is not
connected. -/
theorem onPeerListReply_connection (payload : Bytes) (host : String) (port : UInt16) (now : Time)
    (distinct : peer.DistinctIds) :
    let touched := peer.touchMaster (safePeerId payload) host port now
    (touched.onPeerListReply cfg payload host port now).1.connection id rounds =
      if touched.prunes cfg payload id then none else touched.connection id rounds := by
  intro touched
  by_cases cut : CutShort payload
  · have none : touched.prunes cfg payload id = false := by
      rw [prunes, completeRecords_cut cut, Option.any_none, Bool.and_false, Bool.false_and]
    rw [onPeerListReply_cut cfg host port now peer cut, none, if_neg Bool.false_ne_true]
  have kept : Distinct PeerEntry.peerId touched.peers := distinct
  have whole := onPeerListReply_whole cfg host port now peer cut
  dsimp only at whole
  rw [connection, whole, prunes, completeRecords_whole cut, Option.any_some]
  generalize touched.listedRecords cfg (payload.extract 7 (7 + advertised payload)) = records
  have listed := listPeers_entryOf records touched id
  have same := listedAlong_connection rounds
    (records.filter fun record => recordId record = id) (entryOf PeerEntry.peerId id touched.peers)
  by_cases pruning : cfg.ipscPeerListPrune = true
  · rw [if_pos pruning, pruning, (listPeers_distinct records kept).entryOf_filter, Bool.true_and]
    cases seen : (records.map recordId).contains id with
    | true =>
        have stays : (entryOf PeerEntry.peerId id
            (records.foldl (fun peer entry => peer.listPeer entry) touched).peers).filter
              (fun entry => !(entry.fromPeerList && !(records.map recordId).contains entry.peerId)) =
            entryOf PeerEntry.peerId id
              (records.foldl (fun peer entry => peer.listPeer entry) touched).peers := by
          cases found : entryOf PeerEntry.peerId id
              (records.foldl (fun peer entry => peer.listPeer entry) touched).peers with
          | none => rfl
          | some entry =>
              rw [Option.filter_some, key_of_entryOf found, seen]
              simp
        rw [stays, listed, same]
        rfl
    | false =>
        have unnamed : (records.filter fun record => recordId record = id) = [] := by
          simpa [List.filter_eq_nil_iff] using seen
        rw [listed, unnamed]
        change ((entryOf PeerEntry.peerId id touched.peers).filter _).bind _ = _
        rw [connection]
        cases found : entryOf PeerEntry.peerId id touched.peers with
        | none => rfl
        | some entry =>
            rw [Option.filter_some, key_of_entryOf found, seen, Option.any_some]
            cases entry.fromPeerList with
            | false => rfl
            | true => rfl
  · rw [if_neg pruning, listed, same, Bool.eq_false_iff.mpr pruning]
    rfl

/-- The end of a registration ends all connections. -/
theorem clearMasterRegistration_connection : peer.clearMasterRegistration.1.connection id rounds =
    if peer.registered then none else peer.connection id rounds := by
  unfold clearMasterRegistration
  split
  case isTrue =>
    have cleared : entryOf PeerEntry.peerId id
        (peer.peers.map fun entry => { entry with connected := false, outstanding := 0 }) =
          (entryOf PeerEntry.peerId id peer.peers).map fun entry =>
            { entry with connected := false, outstanding := 0 } := by
      apply entryOf_map
      exact fun _ => rfl
    refine (congrArg (fun found => found.bind fun entry => entry.connection rounds) cleared).trans ?_
    cases entryOf PeerEntry.peerId id peer.peers <;> rfl
  case isFalse => rfl

/-- A packet of the master moves the connections. -/
theorem dispatch_master_connection (digests : Digests) (payload : Bytes) (opcode : UInt8)
    (host : String) (port : UInt16) (now : Time) (distinct : peer.DistinctIds) :
    let touched := peer.touchMaster (safePeerId payload) host port now
    (touched.dispatch digests cfg payload opcode host port now true none).1.connection id rounds =
      (touched.masterMove cfg id payload opcode).toList.foldl (Lease.step (missed cfg))
        (peer.connection id rounds) := by
  intro touched
  have before : touched.connection id rounds = peer.connection id rounds := rfl
  unfold masterMove
  by_cases listReply : opcode = peerListReply
  · subst listReply
    have other : farewells.contains peerListReply = false := by decide
    have listed : (touched.onPeerListReply cfg payload host port now).1.connection id rounds =
        if touched.prunes cfg payload id then none else touched.connection id rounds :=
      onPeerListReply_connection payload host port now distinct
    change (touched.onPeerListReply cfg payload host port now).1.connection id rounds = _
    rw [listed, ← before, other, Bool.false_and, if_neg Bool.false_ne_true,
      decide_eq_true (rfl : peerListReply = peerListReply), Bool.true_and]
    split <;> rfl
  have unlisted : (decide (opcode = peerListReply) && touched.prunes cfg payload id) = false := by
    rw [decide_eq_false listReply, Bool.false_and]
  rw [unlisted, if_neg Bool.false_ne_true]
  by_cases bye : opcode = deRegReq ∨ opcode = deRegReply
  · have leaves : farewells.contains opcode = true := by simpa [farewells] using bye
    have cleared : (touched.dispatch digests cfg payload opcode host port now true none).1 =
        touched.clearMasterRegistration.1 := by
      rcases bye with rfl | rfl <;> rfl
    rw [cleared, clearMasterRegistration_connection, leaves, Bool.true_and]
    split <;> rfl
  · have stays : ¬(opcode = deRegReq || opcode = deRegReply) = true := by simpa using bye
    have leaves : farewells.contains opcode = false := by simpa [farewells] using bye
    have same := dispatch_master_peers digests cfg payload host port now peer listReply stays
    rw [connection_eq same.2, leaves, Bool.false_and, if_neg Bool.false_ne_true]
    rfl

theorem updatePeer_entryOf {change : PeerEntry → PeerEntry}
    (keeps : ∀ entry, (change entry).peerId = entry.peerId) (changed : Nat) :
    entryOf PeerEntry.peerId id (peer.updatePeer changed change).peers =
      if id = changed then (entryOf PeerEntry.peerId id peer.peers).map change
      else entryOf PeerEntry.peerId id peer.peers := entryOf_update keeps peer.peers changed id

theorem touchPeer_entryOf (srcId : Nat) (host : String) (port : UInt16) (now : Time) :
    entryOf PeerEntry.peerId id (peer.touchPeer srcId host port now).peers =
      if id = srcId then (entryOf PeerEntry.peerId id peer.peers).map fun entry =>
        { entry with ip := host, port := port, lastRx := now }
      else entryOf PeerEntry.peerId id peer.peers := by
  apply updatePeer_entryOf
  exact fun _ => rfl

theorem setConnected_entryOf (connected : Bool) (sender : PeerEntry) :
    entryOf PeerEntry.peerId id (peer.setConnected connected sender).peers =
      if id = sender.peerId then (entryOf PeerEntry.peerId id peer.peers).map fun entry =>
        { entry with connected := connected, outstanding := 0 }
      else entryOf PeerEntry.peerId id peer.peers := by
  apply updatePeer_entryOf
  exact fun _ => rfl

/-- An address of a peer says nothing about its connection. -/
theorem touchPeer_connection (srcId : Nat) (host : String) (port : UInt16) (now : Time) :
    (peer.touchPeer srcId host port now).connection id rounds = peer.connection id rounds := by
  rw [connection, connection, touchPeer_entryOf]
  split
  · cases entryOf PeerEntry.peerId id peer.peers <;> rfl
  · rfl

/-- A packet of the sender connects or disconnects it. -/
theorem setConnected_connection (connected : Bool) {sender : PeerEntry}
    (inside : entryOf PeerEntry.peerId sender.peerId peer.peers ≠ none) :
    (peer.setConnected connected sender).connection id rounds =
      if id = sender.peerId then if connected then some ((), (rounds : Int)) else none
      else peer.connection id rounds := by
  rw [connection, connection, setConnected_entryOf]
  by_cases own : id = sender.peerId
  · subst own
    obtain ⟨entry, found⟩ := Option.ne_none_iff_exists'.mp inside
    rw [if_pos rfl, if_pos rfl, found]
    simp [PeerEntry.connection]
  · rw [if_neg own, if_neg own]

/-- What the packet of a peer in the table does. -/
theorem dispatch_peer_connection (digests : Digests) (payload : Bytes) (opcode : UInt8)
    (host : String) (port : UInt16) (now : Time) {sender : PeerEntry}
    (inside : entryOf PeerEntry.peerId sender.peerId peer.peers ≠ none) :
    ((peer.touchPeer sender.peerId host port now).dispatch digests cfg payload opcode host port now
        false (some sender)).1.connection id rounds =
      if id = sender.peerId then
        if greetings.contains opcode then some ((), (rounds : Int))
        else if farewells.contains opcode then none
        else peer.connection id rounds
      else peer.connection id rounds := by
  have touched : entryOf PeerEntry.peerId sender.peerId
      (peer.touchPeer sender.peerId host port now).peers ≠ none := by
    rw [touchPeer_entryOf, if_pos rfl, ne_eq, Option.map_eq_none_iff]
    exact inside
  rw [dispatch_peer_state]
  change (if greetings.contains opcode = true then _ else
    if farewells.contains opcode = true then _ else _ : IpscPeer).connection id rounds = _
  split
  · rw [setConnected_connection true touched, touchPeer_connection]
    rfl
  · split
    · rw [setConnected_connection false touched, touchPeer_connection]
      rfl
    · rw [touchPeer_connection, ite_self]

/-- A packet of a peer moves its own connection. -/
theorem payloadReceived_peer_connection (digests : Digests) {payload : Bytes} {opcode : UInt8}
    {host : String} (port : UInt16) (now : Time) (proper : peer.ProperKeys cfg)
    (foreign : safePeerId payload ≠ cfg.ipscPeerId)
    (other : peer.isMasterSource cfg (safePeerId payload) host opcode = false) :
    (peer.payloadReceived digests cfg payload opcode host port now).1.connection id rounds =
      (if safePeerId payload = id then peer.greetingMove cfg id rounds opcode
        else none).toList.foldl (Lease.step (missed cfg)) (peer.connection id rounds) := by
  rw [payloadReceived_peer digests port now foreign other]
  have looked := acceptOrGetPeer_lookup cfg (safePeerId payload) host port opcode now peer
  generalize peer.acceptOrGetPeer cfg (safePeerId payload) host port opcode now = found at looked
  have among : greetings.contains opcode = true ∨ farewells.contains opcode = true →
      peerOpcodes.contains opcode = true := by
    simp only [greetings, farewells, peerOpcodes, List.contains_eq_mem, List.mem_cons,
      List.not_mem_nil, or_false, decide_eq_true_eq]
    tauto
  -- A sender in the table, old or new, greets, leaves or says something else.
  have known (sender : PeerEntry) (after : IpscPeer) (own : sender.peerId = safePeerId payload)
      (named : safePeerId payload ≠ 0)
      (inside : entryOf PeerEntry.peerId sender.peerId after.peers ≠ none)
      (same : after.connection id rounds = peer.connection id rounds)
      (known : ¬(peer.getPeer (safePeerId payload) = none ∧ cfg.ipscPeerListAllowUnknown = false)) :
      ((after.touchPeer sender.peerId host port now).dispatch digests cfg payload opcode host port now
        false (some sender)).1.connection id rounds =
        (if safePeerId payload = id then peer.greetingMove cfg id rounds opcode
          else none).toList.foldl (Lease.step (missed cfg)) (peer.connection id rounds) := by
    rw [dispatch_peer_connection digests payload opcode host port now inside, own, same]
    by_cases mine : id = safePeerId payload
    · subst mine
      rw [if_pos rfl, if_pos rfl, greetingMove, if_neg (not_or.mpr ⟨named, known⟩)]
      split
      · rfl
      · split <;> rfl
    · rw [if_neg mine, if_neg fun eq => mine eq.symm]
      rfl
  cases looked with
  | unknown absent missing =>
      dsimp only
      by_cases mine : safePeerId payload = id
      · subst mine
        rw [if_pos rfl, greetingMove]
        split
        case isTrue => rfl
        case isFalse open' =>
          obtain ⟨named, taken⟩ := not_or.mp open'
          have unlisted : peer.getPeer (safePeerId payload) = none :=
            entryOf_eq_none.mpr (missing named)
          have wild : cfg.ipscPeerListAllowUnknown = true := by
            by_contra closed
            exact taken ⟨unlisted, by simpa using closed⟩
          have stays (joining : peerOpcodes.contains opcode = true) : False :=
            absent ⟨named, unlisted, wild, joining⟩
          rw [if_neg fun greets => stays (among (.inl greets)),
            if_neg fun leaves => stays (among (.inr leaves))]
          rfl
      · rw [if_neg mine]
        rfl
  | listed sender inside own absent =>
      refine known sender peer own (own ▸ (proper sender inside).1) (fun gone => ?_) rfl ?_
      · exact entryOf_eq_none.mp gone sender inside rfl
      · rintro ⟨gone, -⟩
        exact entryOf_eq_none.mp gone sender inside own
  | joined sender own fresh joins =>
      obtain ⟨named, unlisted, wild, -⟩ := joins
      have new : entryOf PeerEntry.peerId sender.peerId peer.peers = none := by rwa [own]
      refine known sender _ own named (fun gone => ?_) ?_ ?_
      · exact entryOf_eq_none.mp gone sender (by simp) rfl
      · rw [connection, connection, entryOf_append new]
        split
        case isTrue same => rw [same, new, Option.bind_some, PeerEntry.connection, fresh]; rfl
        case isFalse => rfl
      · rw [wild]
        exact fun closed => Bool.noConfusion closed.2

end Moves

/-- In a round of maintenance a connection misses one more reply. -/
theorem maintenance_connection (digests : Digests) {cfg : Config} (clock : Clock) {peer : IpscPeer}
    (proper : peer.ProperKeys cfg) (registered : peer.registered = true) (id rounds : Nat) :
    (peer.maintenance digests cfg clock).1.connection id (rounds + 1) =
      Lease.step (missed cfg) (peer.connection id rounds) (.check ((rounds : Int) + 1)) := by
  have peers : (peer.maintenance digests cfg clock).1.peers =
      peer.peers.mapIdx fun idx entry => (maintainPeer digests cfg peer.transport (clock idx) entry).1 := by
    apply List.ext_getElem?
    intro idx
    simp only [maintenance, registered, Bool.not_true, Bool.false_eq_true, if_false,
      List.getElem?_map, List.getElem?_mapIdx, Option.map_map]
    rfl
  have keeps (idx : Nat) (entry : PeerEntry) :
      (maintainPeer digests cfg peer.transport (clock idx) entry).1.peerId = entry.peerId := by
    unfold maintainPeer
    split <;> rfl
  have read := entryOf_mapIdx keeps (fun entry => entry.connection (rounds + 1))
    (fun entry => (maintainPeer digests cfg peer.transport 0 entry).1.connection (rounds + 1))
    (fun idx entry => by unfold maintainPeer; split <;> rfl) peer.peers id
  have joined (found : Option PeerEntry) : (found.bind fun entry => entry.connection (rounds + 1)) =
      (found.map fun entry => entry.connection (rounds + 1)).join := by
    cases found <;> rfl
  rw [connection, connection, peers, joined, read]
  cases found : entryOf PeerEntry.peerId id peer.peers with
  | none => rfl
  | some entry =>
      have other : entry.peerId ≠ cfg.ipscPeerId :=
        (proper entry (List.mem_of_find?_eq_some found)).2
      rw [Option.map_some, Option.join_some, Option.bind_some, maintainPeer, if_neg other]
      simp only [PeerEntry.connection]
      cases entry.connected with
      | false => rfl
      | true =>
          have since : ((rounds : Int) + 1 - (rounds - entry.outstanding)) =
              ((entry.outstanding + 1 : Nat) : Int) := by omega
          have same : ((rounds + 1 : Nat) : Int) - ((entry.outstanding + 1 : Nat) : Int) =
              rounds - entry.outstanding := by omega
          rw [Bool.true_and, if_pos rfl, Lease.step, Option.filter_some, missed, since, same]
          by_cases fits : ((entry.outstanding + 1 : Nat) : Int) ≤ max 1 cfg.ipscMaxMissed
          · rw [decide_eq_true fits, decide_eq_false (not_lt.mpr fits)]
            rfl
          · rw [decide_eq_false fits, decide_eq_true (not_le.mp fits)]
            rfl

/-- A callback moves the connection of every ID. -/
theorem step_connection (digests : Digests) (cfg : Config) {peer : IpscPeer}
    (distinct : peer.DistinctIds) (proper : peer.ProperKeys cfg) (id rounds : Nat) (event : IpscEvent) :
    (peer.step digests cfg event).1.connection id (countRounds rounds peer event) =
      (peer.connectionMove digests cfg id rounds event).toList.foldl (Lease.step (missed cfg))
        (peer.connection id rounds) := by
  cases event with
  | connectionMade => rfl
  | watchdog now =>
      simp only [step, watchdog, connectionMove, countRounds]
      cases registered : peer.registered with
      | false => simp
      | true =>
          rw [Bool.true_and]
          change (if expired cfg now peer.lastMasterRx = true then _ else _ :
            IpscPeer × List IpscOutput).1.connection id rounds = _
          cases expired cfg now peer.lastMasterRx with
          | false => rfl
          | true =>
              have cleared : peer.clearMasterRegistration.1.connection id rounds = _ :=
                clearMasterRegistration_connection
              rw [if_pos registered] at cleared
              exact cleared
  | maintenance clock =>
      simp only [step, connectionMove, countRounds]
      cases registered : peer.registered with
      | true => exact maintenance_connection digests clock proper registered id rounds
      | false =>
          rw [maintenance]
          simp only [registered]
          rfl
  | datagramReceived data addr now =>
      have received := datagramReceived_cases digests cfg data addr now peer
      change (peer.datagramReceived digests cfg data addr now).1.connection id rounds = _
      generalize peer.datagramReceived digests cfg data addr now = result at received
      cases received with
      | dropped quiet ignored =>
          have unmoved : peer.connectionMove digests cfg id rounds (.datagramReceived data addr now) =
              none := by
            cases addr with
            | inet6 => rfl
            | inet host port =>
                simp only [connectionMove, Option.bind_eq_none_iff]
                intro payload checked
                cases first : payload[0]? with
                | none => rw [packetConnection, first, Option.bind_none]
                | some opcode =>
                    have own := ignored host port payload opcode rfl checked first
                    rw [packetConnection, first, Option.bind_some, if_pos own]
          rw [unmoved]
          rfl
      | @taken host port payload opcode checked first foreign =>
          simp only [connectionMove, checked, Option.bind_some, packetConnection, first, if_neg foreign]
          cases master : peer.isMasterSource cfg (safePeerId payload) host opcode with
          | true =>
              rw [payloadReceived_master digests port now foreign master, if_pos rfl]
              exact dispatch_master_connection digests payload opcode host port now distinct
          | false =>
              rw [if_neg Bool.false_ne_true]
              exact payloadReceived_peer_connection digests port now proper foreign master

end IpscPeer

/-- The protocol of PEER mode with a count of its maintenance rounds while registered. -/
def countedPeer (digests : Digests) (cfg : Config) :
    Mealy (IpscPeer × Nat) IpscEvent IpscOutput :=
  (ipscPeer digests cfg).ghost IpscPeer.countRounds

/-- In PEER mode a peer is connected exactly while its lease lasts: a registration or alive packet of
it is followed by no farewell, no loss of the own registration and no peer list that prunes it, and
by no more maintenance rounds than replies may be missed. -/
theorem peer_connected_iff (digests : Digests) (cfg : Config) (events : List IpscEvent) (id : Nat)
    (round : Int) :
    let state := ((countedPeer digests cfg).run (IpscPeer.initial cfg, 0) events).1
    state.1.connection id state.2 = some ((), round) ↔
      Lease.Held (IpscPeer.missed cfg)
        ((countedPeer digests cfg).shown
          (fun state => state.1.connectionMove digests cfg id state.2) (IpscPeer.initial cfg, 0) events)
        () round := by
  intro state
  have start : (IpscPeer.initial cfg).DistinctIds ∧ (IpscPeer.initial cfg).ProperKeys cfg :=
    ⟨List.nodup_nil, by simp [IpscPeer.ProperKeys, IpscPeer.initial]⟩
  refine Lease.machine_held (countedPeer digests cfg) _ _
    (fun state => state.1.connection id state.2)
    (fun state => state.1.DistinctIds ∧ state.1.ProperKeys cfg) (fun state event good => ?_)
    (fun state event good => ?_) start rfl events () round
  · exact ⟨IpscPeer.step_distinct digests cfg state.1 event good.1,
      (IpscPeer.step_exact digests cfg event good.2).1⟩
  · exact IpscPeer.step_connection digests cfg good.1 good.2 id state.2 event

end Ipsc2Hbp
