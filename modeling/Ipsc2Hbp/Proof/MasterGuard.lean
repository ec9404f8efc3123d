import Ipsc2Hbp.Proof.Datagrams

namespace Ipsc2Hbp
open BigEndian

def Addr.host : Addr → String
  | .inet host _ => host
  | .inet6 host .. => host

/-- A packet that leaves the program on either side. -/
def BridgeOutput.IsSent : BridgeOutput → Prop
  | .ipsc (.send ..) => True
  | .core (.hbp _ (.send _)) | .core (.hbp _ (.sendDmrd _)) => True
  | _ => False

/-- A callback leaves the registration, the keepalive time and the translator as they are, and sends
nothing. -/
structure Untouched (before after : Bridge) (log : List BridgeOutput) : Prop where
  stack : after.ipsc = before.ipsc
  translator : after.core.translator = before.core.translator
  silent : ∀ output ∈ log, ¬ output.IsSent

/-- The packets with which another host gets through: three that name the registered peer, and a
registration while the registered host has no name. -/
inductive Intrudes (cfg : Config) (payload : Bytes) (host : String) (master : IpscMaster) : Prop
  | alive (opcode : payload[0]? = some masterAliveReq) (names : master.namesPeer payload = true)
  | peerList (opcode : payload[0]? = some peerListReq) (names : master.namesPeer payload = true)
      (named : master.peerIp ≠ some "") (port : master.peerPort ≠ some 0)
  | deReg (opcode : payload[0]? = some deRegReq) (names : master.namesPeer payload = true)
  | register (opcode : payload[0]? = some masterRegReq) (long : 10 ≤ payload.length)
      (unnamed : master.peerIp = some "")
      (accepted : master.rejectsReg cfg (payload.extract 1 5) host = false)

/-- The datagram carries such a packet. -/
def DatagramIntrudes (digests : Digests) (cfg : Config) (data : Bytes) (addr : Addr)
    (master : IpscMaster) : Prop :=
  ∃ host port payload, addr.unpack = .ok (host, port) ∧
    checkedPayload digests cfg data = some payload ∧ Intrudes cfg payload host master

namespace IpscMaster

/-- A master has its transport, and a registered peer has its ID and address. -/
structure Sound (master : IpscMaster) : Prop where
  transport : master.transport = true
  peer : master.registered = true → ∃ peerId host port, master.peerId = some peerId ∧ peerId ≠ [] ∧
    master.peerIp = some host ∧ master.peerPort = some port

theorem Sound.clearPeer {master : IpscMaster} (sound : master.Sound) : master.clearPeer.1.Sound :=
  ⟨sound.transport, fun registered => by cases registered⟩

theorem Sound.touch {master : IpscMaster} (sound : master.Sound) (now : Time) :
    Sound { master with lastKa := now } := ⟨sound.transport, sound.peer⟩

theorem Sound.dispatch {master : IpscMaster} (sound : master.Sound) (digests : Digests)
    (cfg : Config) (payload : Bytes) (opcode : UInt8) (host : String) (port : UInt16) (now : Time) :
    (master.dispatch digests cfg payload opcode host port now).1.Sound := by
  unfold IpscMaster.dispatch
  split_ifs
  · unfold onRegReq
    by_cases short : payload.length < 10
    · rw [if_pos short]
      exact sound
    · rw [if_neg short]
      dsimp only
      split
      · exact sound
      · have whole : payload.extract 1 5 ≠ [] := by
          intro empty
          have length := congrArg List.length empty
          simp at length
          omega
        exact ⟨sound.transport, fun _ => ⟨_, host, port, rfl, whole, rfl, rfl⟩⟩
  · unfold onAliveReq
    split
    · exact sound.touch now
    · exact sound
  · exact sound
  · unfold onDeRegReq
    split
    · exact sound.clearPeer
    · exact sound
  · unfold onGroupVoice
    split
    · exact sound
    · cases parseGroupVoiceMeta payload with
      | error => exact sound
      | ok => exact sound.touch now
  · exact sound

theorem Sound.step {master : IpscMaster} (sound : master.Sound) (digests : Digests) (cfg : Config)
    (event : IpscEvent) : (master.step digests cfg event).1.Sound := by
  cases event with
  | connectionMade => exact ⟨rfl, sound.peer⟩
  | maintenance => exact sound
  | watchdog now =>
      simp only [IpscMaster.step, watchdog]
      split
      · exact sound.clearPeer
      · exact sound
  | datagramReceived data addr now =>
      simp only [IpscMaster.step, IpscMaster.datagramReceived]
      cases addr.unpack with
      | error => exact sound
      | ok sender =>
          simp only
          cases checkedPayload digests cfg data with
          | none => exact sound
          | some payload =>
              simp only
              cases payload[0]? with
              | none => exact sound
              | some opcode => exact sound.dispatch digests cfg payload opcode _ _ now

end IpscMaster

/-- In MASTER mode the master keeps its law. -/
def IpscStack.MasterSound : IpscStack → Prop
  | .master stack => stack.Sound
  | .peer _ => True

theorem IpscStack.MasterSound.step {stack : IpscStack} (sound : stack.MasterSound) (digests : Digests)
    (cfg : Config) (event : IpscEvent) : (stack.step digests cfg event).1.MasterSound := by
  cases stack with
  | master master => exact IpscMaster.Sound.step sound digests cfg event
  | peer => trivial

/-- After `connection_made` the law holds in every state that is reached. -/
theorem masterSound_reached (digests : Digests) (dmr : DmrUtils) (cfg : Config) (urandom : StreamId)
    (clock : Clock) (events : List BridgeEvent) :
    ((bridge digests dmr cfg).run (Bridge.initial cfg)
      (.ipsc .connectionMade urandom clock :: events)).1.ipsc.MasterSound := by
  have start : (Bridge.step digests dmr cfg (Bridge.initial cfg)
      (.ipsc .connectionMade urandom clock)).1.ipsc.MasterSound := by
    unfold Bridge.initial IpscStack.initial
    cases cfg.ipscMode with
    | master => exact ⟨rfl, fun registered => by cases registered⟩
    | peer => trivial
  have kept (state : Bridge) (event : BridgeEvent) (sound : state.ipsc.MasterSound) :
      ((bridge digests dmr cfg).step state event).1.ipsc.MasterSound := by
    cases event with
    | ipsc event => exact sound.step digests cfg event
    | drain | hbp => exact sound
  exact (bridge digests dmr cfg).run_invariant _ kept _ events start

/-- The first effect of a stack is in the log of the callback. -/
theorem Bridge.deliver_head (digests : Digests) (dmr : DmrUtils) (cfg : Config) (urandom : StreamId)
    (clock : Clock) (ipsc : IpscStack) (core : Core) (output : IpscOutput) (rest : List IpscOutput) :
    .ipsc output ∈ (deliver digests dmr cfg urandom clock ipsc core (output :: rest)).2 := by
  simp only [deliver]
  cases call core.client.isConnected urandom clock output <;>
  · dsimp only
    split_ifs
    · exact List.mem_cons_self
    · exact List.mem_append_left _ List.mem_cons_self

namespace IpscMaster

/-- The peer list goes out unless the address of the peer lacks its host or its port. -/
theorem sendPeerList_nil_iff (digests : Digests) (cfg : Config) (host : String) (port : UInt16)
    {master : IpscMaster} (sound : master.Sound) (registered : master.registered = true) :
    master.sendPeerList digests cfg host port = [] ↔
      master.peerIp = some "" ∨ master.peerPort = some 0 := by
  obtain ⟨peerId, peerIp, peerPort, id, whole, ip, portOf⟩ := sound.peer registered
  have filled : peerId.isEmpty = false := by simpa using whole
  have attached := sound.transport
  simp only [sendPeerList, id, ip, portOf, filled, ipscSend, attached]
  simp [or_iff_not_imp_left]

/-- A packet of another host than the registered one that does not intrude is ignored. -/
theorem dispatch_ignores {digests : Digests} {cfg : Config} {payload : Bytes} {opcode : UInt8}
    {host registeredHost : String} (port : UInt16) (now : Time) {master : IpscMaster}
    (first : payload[0]? = some opcode) (sound : master.Sound) (registered : master.registered = true)
    (owner : master.peerIp = some registeredHost) (foreign : host ≠ registeredHost)
    (kept : ¬ Intrudes cfg payload host master) :
    master.dispatch digests cfg payload opcode host port now = (master, []) := by
  unfold IpscMaster.dispatch
  split_ifs with regReq aliveReq listReq bye voice
  · subst regReq
    unfold onRegReq
    by_cases short : payload.length < 10
    · rw [if_pos short]
    · rw [if_neg short]
      dsimp only
      have rejects : master.rejectsReg cfg (payload.extract 1 5) host = true := by
        by_contra accepted
        have accepted := Bool.eq_false_iff.mpr accepted
        refine kept (.register first (Nat.not_lt.mp short) ?_ accepted)
        unfold rejectsReg at accepted
        rw [registered, owner] at accepted
        simp only [Bool.true_and, Bool.or_eq_false_iff, Bool.and_eq_false_iff] at accepted
        rcases accepted.2 with unnamed | same
        · rw [owner, not_not.mp (of_decide_eq_false unnamed)]
        · exact absurd (not_not.mp (of_decide_eq_false same)) foreign
      rw [if_pos rejects]
  · subst aliveReq
    have unnamed : master.namesPeer payload ≠ true := fun names => kept (.alive first names)
    rw [onAliveReq, if_neg unnamed]
  · subst listReq
    unfold onPeerListReq
    by_cases names : master.namesPeer payload = true
    · have unsendable : master.peerIp = some "" ∨ master.peerPort = some 0 := by
        by_contra sendable
        rw [not_or] at sendable
        exact kept (.peerList first names sendable.1 sendable.2)
      rw [if_pos names, (sendPeerList_nil_iff digests cfg host port sound registered).mpr unsendable]
    · rw [if_neg names]
  · subst bye
    have unnamed : master.namesPeer payload ≠ true := fun names => kept (.deReg first names)
    rw [onDeRegReq, if_neg unnamed]
  · subst voice
    have other : master.peerIp ≠ some host := by
      rw [owner]
      exact fun same => foreign (Option.some.inj same).symm
    simp [onGroupVoice, other]
  · rfl

/-- A packet that intrudes changes the master or is answered. -/
theorem dispatch_intruded {digests : Digests} {cfg : Config} {payload : Bytes} {opcode : UInt8}
    {host registeredHost : String} (port : UInt16) (now : Time) {master : IpscMaster}
    (first : payload[0]? = some opcode) (sound : master.Sound) (registered : master.registered = true)
    (owner : master.peerIp = some registeredHost) (foreign : host ≠ registeredHost)
    (intrudes : Intrudes cfg payload host master) :
    (master.dispatch digests cfg payload opcode host port now).1 ≠ master ∨
      ∃ packet toHost toPort rest, (master.dispatch digests cfg payload opcode host port now).2 =
        .send packet toHost toPort :: rest := by
  have attached := sound.transport
  cases intrudes with
  | alive opcode names =>
      obtain rfl := Option.some.inj (first.symm.trans opcode)
      have answered : master.dispatch digests cfg payload masterAliveReq host port now =
          master.onAliveReq digests cfg payload host port now := rfl
      rw [answered, onAliveReq, if_pos names]
      exact .inr ⟨_, host, port, [], if_pos attached⟩
  | peerList opcode names named portOf =>
      obtain rfl := Option.some.inj (first.symm.trans opcode)
      have answered : (master.dispatch digests cfg payload peerListReq host port now).2 =
          master.sendPeerList digests cfg host port := by
        show (master.onPeerListReq digests cfg payload host port).2 = _
        rw [onPeerListReq, if_pos names]
      rw [answered]
      have sends := master.sendPeerList_sends digests cfg host port
      have some : master.sendPeerList digests cfg host port ≠ [] := by
        rw [Ne, sendPeerList_nil_iff digests cfg host port sound registered, not_or]
        exact ⟨named, portOf⟩
      obtain ⟨output, rest, filled⟩ := List.exists_cons_of_ne_nil some
      have sent := sends output (by rw [filled]; exact List.mem_cons_self)
      cases output with
      | send packet toHost toPort => exact .inr ⟨packet, toHost, toPort, rest, filled⟩
      | peerRegistered | peerLost | checkCallTimeouts | ipscVoiceReceived | raised => exact sent.elim
  | deReg opcode names =>
      obtain rfl := Option.some.inj (first.symm.trans opcode)
      have answered : master.dispatch digests cfg payload deRegReq host port now =
          master.onDeRegReq digests cfg payload host port := rfl
      rw [answered, onDeRegReq, if_pos names]
      refine .inl fun same => ?_
      have still := congrArg IpscMaster.registered same
      rw [registered] at still
      cases still
  | register opcode long unnamed accepted =>
      obtain rfl := Option.some.inj (first.symm.trans opcode)
      have answered : master.dispatch digests cfg payload masterRegReq host port now =
          master.onRegReq digests cfg payload host port now := rfl
      rw [answered, onRegReq, if_neg (Nat.not_lt.mpr long)]
      dsimp only
      rw [if_neg (Bool.eq_false_iff.mp accepted)]
      refine .inl fun same => foreign ?_
      have still := congrArg IpscMaster.peerIp same
      exact Option.some.inj (still.trans owner)

end IpscMaster

/-- A datagram of another host is without effect exactly when it carries no packet that intrudes. -/
theorem untouched_iff (digests : Digests) (dmr : DmrUtils) (cfg : Config) {state : Bridge}
    {master : IpscMaster} {registeredHost : String} (stack : state.ipsc = .master master)
    (sound : master.Sound) (registered : master.registered = true)
    (owner : master.peerIp = some registeredHost) (data : Bytes) (addr : Addr) (now : Time)
    (urandom : StreamId) (clock : Clock) (foreign : addr.host ≠ registeredHost) :
    let result := Bridge.step digests dmr cfg state
      (.ipsc (.datagramReceived data addr now) urandom clock)
    Untouched state result.1 result.2 ↔ ¬ DatagramIntrudes digests cfg data addr master := by
  intro result
  have stepped : result =
      let handled := master.datagramReceived digests cfg data addr now
      let delivered := Bridge.deliver digests dmr cfg urandom clock (.master handled.1) state.core
        handled.2
      (⟨.master handled.1, delivered.1⟩, delivered.2) := by
    simp only [result, Bridge.step, stack]
    rfl
  rw [stepped]
  simp only [IpscMaster.datagramReceived]
  cases pair : addr.unpack with
  | error err =>
      constructor
      · rintro - ⟨host, port, payload, other, -⟩
        rw [pair] at other
        cases other
      · intro _
        refine ⟨stack.symm, rfl, fun output member => ?_⟩
        rw [List.mem_singleton.mp member]
        exact id
  | ok sender =>
      rcases sender with ⟨host, port⟩
      have foreign : host ≠ registeredHost := by
        cases addr with
        | inet => cases pair; exact foreign
        | inet6 => cases pair
      cases checked : checkedPayload digests cfg data with
      | none =>
          constructor
          · rintro - ⟨host, port, payload, -, other, -⟩
            rw [checked] at other
            cases other
          · exact fun _ => ⟨stack.symm, rfl, by simp [Bridge.deliver]⟩
      | some payload =>
          obtain ⟨opcode, rest, rfl⟩ := List.exists_cons_of_ne_nil (checkedPayload_whole checked)
          have first : (opcode :: rest)[0]? = some opcode := rfl
          simp only [first]
          by_cases intrudes : Intrudes cfg (opcode :: rest) host master
          · have datagram : DatagramIntrudes digests cfg data addr master :=
              ⟨host, port, _, pair, checked, intrudes⟩
            refine ⟨fun untouched => ?_, fun kept => absurd datagram kept⟩
            have same := IpscStack.master.inj (untouched.stack.trans stack)
            rcases IpscMaster.dispatch_intruded port now first sound registered owner foreign
              intrudes with changed | ⟨packet, toHost, toPort, answers, answered⟩
            · exact absurd same changed
            · have silent := untouched.silent (.ipsc (.send packet toHost toPort)) (by
                rw [answered]
                exact Bridge.deliver_head ..)
              exact absurd trivial silent
          · have kept : ¬ DatagramIntrudes digests cfg data addr master := by
              rintro ⟨otherHost, otherPort, other, samePair, sameChecked, inside⟩
              obtain ⟨rfl, rfl⟩ := Prod.mk.inj (Except.ok.inj (pair.symm.trans samePair))
              obtain rfl := Option.some.inj (checked.symm.trans sameChecked)
              exact intrudes inside
            refine ⟨fun _ => kept, fun _ => ?_⟩
            rw [IpscMaster.dispatch_ignores port now first sound registered owner foreign intrudes]
            exact ⟨stack.symm, rfl, by simp [Bridge.deliver]⟩

/-- In every state that is reached after `connection_made`, a datagram of another host than the
registered one is without effect exactly when it carries no packet that intrudes. -/
theorem hijack_rejected_iff (digests : Digests) (dmr : DmrUtils) (cfg : Config) (drawn : StreamId)
    (reading : Clock) (events : List BridgeEvent) :
    let state := ((bridge digests dmr cfg).run (Bridge.initial cfg)
      (.ipsc .connectionMade drawn reading :: events)).1
    ∀ master host, state.ipsc = .master master → master.registered = true →
      master.peerIp = some host → ∀ data addr now urandom clock, addr.host ≠ host →
      let result := Bridge.step digests dmr cfg state
        (.ipsc (.datagramReceived data addr now) urandom clock)
      (Untouched state result.1 result.2 ↔ ¬ DatagramIntrudes digests cfg data addr master) := by
  intro state master host stack registered owner data addr now urandom clock foreign
  have law : state.ipsc.MasterSound := masterSound_reached digests dmr cfg drawn reading events
  rw [stack] at law
  exact untouched_iff digests dmr cfg stack law registered owner data addr now urandom clock foreign

/-- The registration of the repeater with the ID 1. -/
def registration : BridgeEvent := peerSends ([masterRegReq, 0, 0, 0, 1] ++ List.replicate 5 0) 1

/-- The program after the registration of the repeater. -/
def registeredState : Bridge :=
  ((bridge loginDigests dmrCodec {}).run (Bridge.initial {})
    [.ipsc .connectionMade firstDraw fun _ => 0, clientEvent .start 0, registration]).1

/-- The master after the registration. -/
def registeredMaster : IpscMaster where
  transport := true
  registered := true
  peerId := some [0, 0, 0, 1]
  peerIp := some "10.0.0.2"
  peerPort := some 50000
  lastKa := 1

/-- A datagram of a stranger. -/
def strangerSends (data : Bytes) : BridgeEvent :=
  .ipsc (.datagramReceived data (.inet "10.9.9.9" 50000) 2) firstDraw fun _ => 2

theorem hijack_rejected_iff_otherId :
    let result := Bridge.step loginDigests dmrCodec {} registeredState
      (strangerSends [deRegReq, 0, 0, 0, 2])
    Untouched registeredState result.1 result.2 := by
  have equivalent := hijack_rejected_iff loginDigests dmrCodec {} firstDraw (fun _ => 0)
    [clientEvent .start 0, registration] registeredMaster "10.0.0.2" (by decide +kernel) rfl rfl
    [deRegReq, 0, 0, 0, 2] (.inet "10.9.9.9" 50000) 2 firstDraw (fun _ => 2) (by decide)
  refine equivalent.mpr ?_
  rintro ⟨host, port, payload, pair, checked, intrudes⟩
  cases checked
  have unnamed : registeredMaster.namesPeer [deRegReq, 0, 0, 0, 2] ≠ true := by decide
  cases intrudes with
  | alive _ names | peerList _ names | deReg _ names => exact unnamed names
  | register opcode => exact absurd opcode (by decide)

/-- A stranger that names the registered peer drops its registration. -/
theorem hijack_rejected_deReg :
    registeredState.ipsc = .master registeredMaster ∧
      let result := Bridge.step loginDigests dmrCodec {} registeredState
        (strangerSends [deRegReq, 0, 0, 0, 1])
      ¬ Untouched registeredState result.1 result.2 := by
  refine ⟨by decide +kernel, fun untouched => ?_⟩
  have same := congrArg IpscStack.isPeerRegistered untouched.stack
  revert same
  decide +kernel

end Ipsc2Hbp
