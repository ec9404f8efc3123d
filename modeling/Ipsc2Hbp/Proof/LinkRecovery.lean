import Ipsc2Hbp.Proof.Link

namespace Ipsc2Hbp
open BigEndian

/-- The master is willing to register the peer of the link. -/
structure Link.Admits (link : Link) : Prop where
  address : link.master.allowedPeerIp = "" ∨ link.master.allowedPeerIp = link.peerHost
  id : link.master.ipscPeerId = 0 ∨ link.master.ipscPeerId = link.peer.ipscPeerId

/-- The peer is not registered, or its watchdog finds that the master has been silent too long. -/
def IpscPeer.MasterSilent (cfg : Config) (now : Time) (peer : IpscPeer) : Prop :=
  peer.registered = true → peer.lastMasterRx ≠ 0 ∧
    ((max 1 cfg.ipscPeerAliveInterval * max 1 cfg.ipscMaxMissed : Int) : Time) <
      now - peer.lastMasterRx

/-- The peer's registration arrives at the master. -/
def Link.registrationArrives (digests : Digests) (link : Link) (now : Time) (draw : StreamId)
    (clock : Clock) : LinkEvent :=
  .inl (.ipsc (.datagramReceived (signed digests link.peer (IpscPeer.masterRegReqPacket link.peer))
    (.inet link.peerHost link.peerPort) now) draw clock)

/-- The master's answer arrives at the peer. -/
def Link.replyArrives (digests : Digests) (link : Link) (now : Time) (draw : StreamId)
    (clock : Clock) : LinkEvent :=
  .inr (.ipsc (.datagramReceived (signed digests link.master (IpscMaster.masterRegReplyPacket link.master))
    (.inet link.masterHost link.masterPort) now) draw clock)

/-- One round of the peer's tasks and one exchange of datagrams. -/
def Link.recovery (digests : Digests) (link : Link) (silentAt : Time) (round : Clock)
    (atMaster atPeer : Time) (draw : StreamId) (clock : Clock) : List LinkEvent :=
  [.inr (.ipsc (.watchdog silentAt) draw clock), .inr (.ipsc (.maintenance round) draw clock),
    link.registrationArrives digests atMaster draw clock, link.replyArrives digests atPeer draw clock]

/-- A callback of a task or of the socket that receives nothing. -/
def IpscEvent.IsTimer : IpscEvent → Prop
  | .datagramReceived .. => False
  | .connectionMade | .watchdog _ | .maintenance _ => True

namespace Link
variable {digests : Digests} {dmr : DmrUtils} {link : Link}

/-- After the watchdog the peer is not registered, and a round of maintenance asks for registration. -/
theorem peer_asks (digests : Digests) (proper : link.Proper) {told : Prop} {peer : IpscPeer}
    (knows : link.PeerKnows told peer) (opened : peer.transport = true) {silentAt : Time}
    (silent : peer.MasterSilent link.peer silentAt) (round : Clock) :
    let asking := (peer.watchdog link.peer silentAt).1.maintenance digests link.peer round
    asking.1.registered = false ∧ asking.1.transport = true ∧ asking.2 =
      [.send (signed digests link.peer (IpscPeer.masterRegReqPacket link.peer)) link.masterHost
        link.masterPort] := by
  have down : (peer.watchdog link.peer silentAt).1.registered = false ∧
      (peer.watchdog link.peer silentAt).1.transport = true ∧
      (peer.watchdog link.peer silentAt).1.masterIp = link.masterHost := by
    unfold IpscPeer.watchdog
    cases registered : peer.registered with
    | false => simp [registered, opened, knows.masterIp]
    | true =>
        obtain ⟨heard, long⟩ := silent registered
        dsimp only
        rw [if_pos (by rw [decide_eq_true heard, decide_eq_true long]; rfl)]
        simp [IpscPeer.clearMasterRegistration, registered, opened, knows.masterIp]
  generalize (peer.watchdog link.peer silentAt).1 = after at down
  obtain ⟨unregistered, transport, ip⟩ := down
  simp [IpscPeer.maintenance, unregistered, transport, ip, IpscPeer.sendToMaster, ipscSend, signed,
    proper.upstreamPort]

/-- The master registers the peer, whatever it knew before, and answers. -/
theorem master_registers (admits : link.Admits) (width : link.peer.ipscPeerId < 256 ^ 4) {told : Prop}
    {master : IpscMaster} (knows : link.MasterKnows told master) (opened : master.transport = true)
    (now : Time) :
    let result := master.dispatch digests link.master (IpscPeer.masterRegReqPacket link.peer)
      masterRegReq link.peerHost link.peerPort now
    result.1.registered = true ∧ ∃ rest, result.2 =
      .send (signed digests link.master (IpscMaster.masterRegReplyPacket link.master)) link.peerHost
        link.peerPort :: rest := by
  have request : link.FromPeer [] (IpscPeer.masterRegReqPacket link.peer) := fromPeer_masterRegReq
  have long : ¬ (IpscPeer.masterRegReqPacket link.peer).length < 10 := by
    simp [IpscPeer.masterRegReqPacket, idB, tsFlags, ourMode, ipscVer]
  have id : bytesToNat (natToBytes 4 link.peer.ipscPeerId) = link.peer.ipscPeerId :=
    bytesToNat_natToBytes 4 _ width
  have accepted : master.rejectsReg link.master
      ((IpscPeer.masterRegReqPacket link.peer).extract 1 5) link.peerHost = false := by
    rw [request.bears.id]
    unfold IpscMaster.rejectsReg
    have address : (link.master.allowedPeerIp ≠ "" && link.peerHost ≠ link.master.allowedPeerIp) =
        false := by
      rcases admits.address with any | same
      · simp [any]
      · simp [same]
    have expected : (link.master.ipscPeerId ≠ 0 &&
        bytesToNat (natToBytes 4 link.peer.ipscPeerId) ≠ link.master.ipscPeerId) = false := by
      rw [id]
      rcases admits.id with any | same
      · simp [any]
      · simp [same]
    rw [address, expected, Bool.or_self, Bool.false_or]
    cases registered : master.registered with
    | false => rfl
    | true => simp [(knows registered).2.1]
  intro result
  have shape : result = master.onRegReq digests link.master (IpscPeer.masterRegReqPacket link.peer)
      link.peerHost link.peerPort now := rfl
  rw [shape, IpscMaster.onRegReq, if_neg long]
  dsimp only
  rw [if_neg (by rw [accepted]; exact Bool.false_ne_true)]
  refine ⟨rfl, ?_⟩
  simp only [ipscSend, opened, if_true, signed, List.cons_append, List.nil_append]
  exact ⟨_, rfl⟩

/-- The peer is registered by the master's answer. -/
theorem peer_registers (digests : Digests) (proper : link.Proper) {told : Prop} {peer : IpscPeer}
    (knows : link.PeerKnows told peer) (now : Time) :
    (peer.payloadReceived digests link.peer (IpscMaster.masterRegReplyPacket link.master)
      masterRegReply link.masterHost link.masterPort now).1.registered = true := by
  have shape : IpscMaster.masterRegReplyPacket link.master = masterRegReply ::
      (idB link.master.ipscMasterId ++ (tsFlags link.master true ++ natToBytes 2 1 ++ ipscVer)) := by
    simp [IpscMaster.masterRegReplyPacket]
  have from_master : link.FromMaster [] (IpscMaster.masterRegReplyPacket link.master) := by
    rw [shape]
    exact fromMaster_control _ _ (by decide) (by decide) (by decide)
  have foreign : safePeerId (IpscMaster.masterRegReplyPacket link.master) ≠ link.peer.ipscPeerId := by
    rw [from_master.bears.safePeerId proper.masterWidth]
    exact proper.distinct
  have first : (IpscMaster.masterRegReplyPacket link.master)[0]? = some masterRegReply := by
    rw [shape]
    rfl
  rw [IpscPeer.payloadReceived_master digests link.masterPort now foreign
    (fromMaster_isMasterSource proper first from_master knows)]
  have long : ¬ (IpscMaster.masterRegReplyPacket link.master).length < 16 := by
    simp [IpscMaster.masterRegReplyPacket, idB, tsFlags, ourMode, ipscVer]
  simp only [IpscPeer.dispatch, if_true, IpscPeer.onMasterRegReply, if_neg long]

/-- The peer keeps what it knows when it receives nothing. -/
theorem timer_peerKnows (digests : Digests) (proper : link.Proper) {told : Prop} {peer : IpscPeer}
    (knows : link.PeerKnows told peer) (event : IpscEvent) (timer : event.IsTimer) :
    link.PeerKnows told (peer.step digests link.peer event).1 := by
  have hears : event.Hears digests link.peer (.inet link.masterHost link.masterPort)
      fun payload => told ∧ link.FromMaster [] payload := by
    cases event with
    | connectionMade | watchdog | maintenance => trivial
    | datagramReceived => exact timer.elim
  have kept : link.PeerKnows told (peer.step digests link.peer event).1 ∧
      ∀ output ∈ (peer.step digests link.peer event).2, PeerTells digests link told [] [] output :=
    step_peerTells proper knows hears
  exact kept.1

/-- The network does not hold up a task. -/
theorem timer_carried (digests : Digests) (link : Link) (event : IpscEvent) (timer : event.IsTimer)
    (draw : StreamId) (clock : Clock) (log : List LinkOutput) (state : LinkState) :
    Mealy.Carried link.sent (link.arrives digests) log state (.inr (.ipsc event draw clock)) := by
  intro datagram known
  cases event with
  | connectionMade | watchdog | maintenance => cases known
  | datagramReceived => exact timer.elim

/-- The first effect of a callback of the stack is shown. -/
theorem first_shown (dmr : DmrUtils) (cfg : Config) (state : Bridge) (event : IpscEvent)
    {output : IpscOutput} {rest : List IpscOutput}
    (effects : (state.ipsc.step digests cfg event).2 = output :: rest) (draw : StreamId)
    (clock : Clock) :
    .ipsc output ∈ (Bridge.step digests dmr cfg state (.ipsc event draw clock)).2 := by
  simp only [Bridge.step, effects]
  exact Bridge.deliver_head ..

/-- A signed packet that arrives is taken by the dispatch. -/
theorem master_takes (documented : digests.Documented) (proper : link.Proper) (master : IpscMaster)
    (now : Time) :
    master.step digests link.master (.datagramReceived
        (signed digests link.peer (IpscPeer.masterRegReqPacket link.peer))
        (.inet link.peerHost link.peerPort) now) =
      master.dispatch digests link.master (IpscPeer.masterRegReqPacket link.peer) masterRegReq
        link.peerHost link.peerPort now := by
  have filled : IpscPeer.masterRegReqPacket link.peer ≠ [] := by simp [IpscPeer.masterRegReqPacket]
  have checked := checkedPayload_signed documented link.peer filled
  rw [checkedPayload_congr digests proper.authEnabled proper.authKey] at checked
  have first : (IpscPeer.masterRegReqPacket link.peer)[0]? = some masterRegReq := by
    simp [IpscPeer.masterRegReqPacket]
  simp only [IpscMaster.step, IpscMaster.datagramReceived, Addr.unpack, checked, first]

theorem peer_takes (documented : digests.Documented) (proper : link.Proper) (peer : IpscPeer)
    (now : Time) :
    peer.step digests link.peer (.datagramReceived
        (signed digests link.master (IpscMaster.masterRegReplyPacket link.master))
        (.inet link.masterHost link.masterPort) now) =
      peer.payloadReceived digests link.peer (IpscMaster.masterRegReplyPacket link.master)
        masterRegReply link.masterHost link.masterPort now := by
  have filled : IpscMaster.masterRegReplyPacket link.master ≠ [] := by
    simp [IpscMaster.masterRegReplyPacket]
  have checked := checkedPayload_signed documented link.master filled
  rw [← checkedPayload_congr digests proper.authEnabled proper.authKey] at checked
  have first : (IpscMaster.masterRegReplyPacket link.master)[0]? = some masterRegReply := by
    simp [IpscMaster.masterRegReplyPacket]
  simp only [IpscPeer.step, IpscPeer.datagramReceived, Addr.unpack, checked, first]

/-- The exchange of a registration from any lawful state. -/
theorem Lawful.recovers {log : List LinkOutput} {state : LinkState}
    (lawful : Lawful digests dmr link log state) (documented : digests.Documented)
    (proper : link.Proper) (admits : link.Admits) {master : IpscMaster} {peer : IpscPeer}
    (masterStack : state.1.ipsc = .master master) (peerStack : state.2.ipsc = .peer peer)
    (masterOpen : master.transport = true) (peerOpen : peer.transport = true) {silentAt : Time}
    (silent : peer.MasterSilent link.peer silentAt) (round : Clock) (atMaster atPeer : Time)
    (draw : StreamId) (clock : Clock) :
    let recovery := link.recovery digests silentAt round atMaster atPeer draw clock
    (link.machine digests dmr).Meets (Mealy.Carried link.sent (link.arrives digests)) log state recovery ∧
      let final := ((link.machine digests dmr).run state recovery).1
      final.1.ipsc.isPeerRegistered = true ∧ final.2.ipsc.isPeerRegistered = true := by
  obtain ⟨_, knownMaster, masterKnows⟩ := lawful.master
  obtain rfl := IpscStack.master.inj (masterStack.symm.trans knownMaster)
  obtain ⟨_, knownPeer, peerKnows⟩ := lawful.peer
  obtain rfl := IpscStack.peer.inj (peerStack.symm.trans knownPeer)
  obtain ⟨⟨masterIpsc, masterCore⟩, ⟨peerIpsc, peerCore⟩⟩ := state
  obtain rfl : masterIpsc = .master master := masterStack
  obtain rfl : peerIpsc = .peer peer := peerStack
  -- The peer's watchdog gives up the master, and its maintenance asks for registration.
  have gaveUp := timer_peerKnows digests proper peerKnows (.watchdog silentAt) trivial
  have asked := timer_peerKnows digests proper gaveUp (.maintenance round) trivial
  obtain ⟨-, -, request⟩ := peer_asks digests proper peerKnows peerOpen silent round
  let watched := (Bridge.step digests dmr link.peer ⟨.peer peer, peerCore⟩
    (.ipsc (.watchdog silentAt) draw clock)).1
  have requested : .ipsc (.send (signed digests link.peer (IpscPeer.masterRegReqPacket link.peer))
      link.masterHost link.masterPort) ∈
        (Bridge.step digests dmr link.peer watched (.ipsc (.maintenance round) draw clock)).2 :=
    first_shown dmr link.peer watched (.maintenance round) request draw clock
  -- The master registers the peer and answers.
  obtain ⟨up, rest, answer⟩ := master_registers admits proper.peerWidth masterKnows masterOpen atMaster
  rw [← master_takes documented proper] at up answer
  let before : Bridge := ⟨.master master, masterCore⟩
  have answered : .ipsc (.send (signed digests link.master
      (IpscMaster.masterRegReplyPacket link.master)) link.peerHost link.peerPort) ∈
        (Bridge.step digests dmr link.master before (.ipsc (.datagramReceived (signed digests link.peer
          (IpscPeer.masterRegReqPacket link.peer)) (.inet link.peerHost link.peerPort) atMaster) draw
            clock)).2 :=
    first_shown dmr link.master before _ answer draw clock
  have registered := peer_registers digests proper asked atPeer
  rw [← peer_takes documented proper] at registered
  refine ⟨⟨timer_carried digests link (.watchdog silentAt) trivial draw clock _ _,
    timer_carried digests link (.maintenance round) trivial draw clock _ _, ?_, ?_, trivial⟩, up, registered⟩
  · intro datagram known
    simp only [arrives, registrationArrives, BridgeEvent.datagram] at known
    split at known
    · obtain rfl := Option.some.inj known
      exact ⟨_, List.mem_append_right _ (List.mem_map_of_mem requested), rfl⟩
    · cases known
  · intro datagram known
    simp only [arrives, replyArrives, BridgeEvent.datagram] at known
    split at known
    · obtain rfl := Option.some.inj known
      exact ⟨_, List.mem_append_right _ (List.mem_map_of_mem answered), rfl⟩
    · cases known

end Link

/-- The link recovers from every state that losses, repetitions and delays can lead to: as soon as the
peer's watchdog has found the master silent, or no registration stands, one round of its maintenance
and one delivered request and answer register both sides. -/
theorem link_recovers {digests : Digests} {dmr : DmrUtils} {link : Link}
    (documented : digests.Documented) (proper : link.Proper) (admits : link.Admits)
    (events : List LinkEvent) (carried : link.Carried digests dmr events) {master : IpscMaster}
    {peer : IpscPeer}
    (masterStack : ((link.machine digests dmr).run link.initial events).1.1.ipsc = .master master)
    (peerStack : ((link.machine digests dmr).run link.initial events).1.2.ipsc = .peer peer)
    (masterOpen : master.transport = true) (peerOpen : peer.transport = true) {silentAt : Time}
    (silent : peer.MasterSilent link.peer silentAt) (round : Clock) (atMaster atPeer : Time)
    (draw : StreamId) (clock : Clock) :
    let whole := events ++ link.recovery digests silentAt round atMaster atPeer draw clock
    link.Carried digests dmr whole ∧
      let final := ((link.machine digests dmr).run link.initial whole).1
      final.1.ipsc.isPeerRegistered = true ∧ final.2.ipsc.isPeerRegistered = true := by
  have lawful := Link.lawful_run documented proper carried
  obtain ⟨met, up⟩ := lawful.recovers documented proper admits masterStack peerStack masterOpen peerOpen
    silent round atMaster atPeer draw clock
  refine ⟨((link.machine digests dmr).meets_append _ _ _ _ _).mpr ⟨carried, met⟩, ?_⟩
  dsimp only
  rw [Mealy.run_append]
  exact up

/-- The master forgets the peer after its own watchdog; the peer finds it silent at 100. -/
def forgottenRun : List LinkEvent :=
  [.inl (.ipsc .connectionMade firstDraw fun _ => 0), .inr (.ipsc .connectionMade firstDraw fun _ => 0),
    .inl (clientEvent .start 0), .inr (clientEvent .start 0),
    peerToMaster (IpscPeer.masterRegReqPacket homeLink.peer) 1,
    masterToPeer (IpscMaster.masterRegReplyPacket homeLink.master) 2,
    .inl (.ipsc (.watchdog 90) firstDraw fun _ => 90)]

theorem link_recovers_forgotten :
    ((homeLink.machine linkDigests dmrCodec).run homeLink.initial
        forgottenRun).1.1.ipsc.isPeerRegistered = false ∧
      let final := ((homeLink.machine linkDigests dmrCodec).run homeLink.initial (forgottenRun ++
        homeLink.recovery linkDigests 100 (fun _ => 101) 102 103 firstDraw fun _ => 104)).1
      final.1.ipsc.isPeerRegistered = true ∧ final.2.ipsc.isPeerRegistered = true := by
  refine ⟨by decide +kernel, ?_⟩
  have carried : homeLink.Carried linkDigests dmrCodec forgottenRun := by
    unfold Link.Carried
    decide +kernel
  have masterStack : ((homeLink.machine linkDigests dmrCodec).run homeLink.initial
      forgottenRun).1.1.ipsc = .master { transport := true } := by decide +kernel
  have peerStack : ((homeLink.machine linkDigests dmrCodec).run homeLink.initial
      forgottenRun).1.2.ipsc = .peer {
        transport := true, masterIp := "10.0.0.1", masterPort := 50000, masterId := 1
        registered := true, masterNumPeers := 1, masterMode := [0x6a], lastMasterRx := 2
        masterRegReported := true } := by decide +kernel
  exact (link_recovers linkDigests_documented homeLink_proper ⟨.inr rfl, .inl rfl⟩ forgottenRun carried
    masterStack peerStack rfl rfl (fun _ => ⟨by decide, by decide +kernel⟩) (fun _ => 101) 102 103
    firstDraw fun _ => 104).2

end Ipsc2Hbp
