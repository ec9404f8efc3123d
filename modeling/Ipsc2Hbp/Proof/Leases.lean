import Ipsc2Hbp.Library.Lease
import Ipsc2Hbp.Proof.ClientLife
import Ipsc2Hbp.Proof.PeerTable

namespace Ipsc2Hbp
open BigEndian

/-- A registered repeater: its ID and its address. -/
abbrev Registrant := Bytes × String × UInt16

/-- The registration of a repeater with the time at which it was last heard. -/
abbrev Registration := Option (Registrant × Time)

/-- The ID that a packet names. -/
def namedId (payload : Bytes) : Bytes :=
  if 5 ≤ payload.length then payload.extract 1 5 else [0x00, 0x00, 0x00, 0x00]

namespace Registration

/-- A repeater is taken from the allowed address and with the allowed ID, while no other host holds
the registration. -/
def accepts (cfg : Config) (peerId : Bytes) (host : String) (held : Registration) : Bool :=
  (cfg.allowedPeerIp = "" || host = cfg.allowedPeerIp) &&
    (cfg.ipscPeerId = 0 || bytesToNat peerId = cfg.ipscPeerId) &&
    held.all fun lease => lease.1.2.1 = "" || lease.1.2.1 = host

/-- The packet names the repeater that holds the registration. -/
def isNamed (payload : Bytes) (held : Registration) : Bool :=
  held.any fun lease => lease.1.1 = namedId payload

/-- What a packet does to the registration. Voice counts from the address that holds it. -/
def packetMove (cfg : Config) (payload : Bytes) (host : String) (port : UInt16) (now : Time)
    (held : Registration) : Option (Lease.Move Registrant Time) :=
  if payload[0]? = some masterRegReq then
    if 10 ≤ payload.length && held.accepts cfg (payload.extract 1 5) host then
      some (.grant (payload.extract 1 5, host, port) now)
    else none
  else if payload[0]? = some masterAliveReq then
    if held.isNamed payload then some (.renew now) else none
  else if payload[0]? = some deRegReq then if held.isNamed payload then some .revoke else none
  else if payload[0]? = some groupVoice then
    if held.any (fun lease => lease.1.2 = (host, port)) && (parseGroupVoiceMeta payload).isOk then
      some (.renew now)
    else none
  else none

/-- What a callback of the local master does to the registration. -/
def move (digests : Digests) (cfg : Config) (held : Registration) :
    IpscEvent → Option (Lease.Move Registrant Time)
  | .datagramReceived data (.inet host port) now =>
      (checkedPayload digests cfg data).bind fun payload => held.packetMove cfg payload host port now
  | .watchdog now => some (.check now)
  | _ => none

/-- A repeater that has not been heard for the configured time is given up. -/
def expired (cfg : Config) (now last : Time) : Bool := cfg.keepaliveWatchdog < now - last

end Registration

/-- The local master as a machine over its callbacks. -/
def ipscMaster (digests : Digests) (cfg : Config) : Mealy IpscMaster IpscEvent IpscOutput where
  step := IpscMaster.step digests cfg

namespace IpscMaster

def registration (master : IpscMaster) : Registration :=
  match master.registered, master.peerId, master.peerIp, master.peerPort with
  | true, some peerId, some peerIp, some peerPort => some ((peerId, peerIp, peerPort), master.lastKa)
  | _, _, _, _ => none

/-- A registered peer has its ID and its address. -/
def Whole (master : IpscMaster) : Prop :=
  master.registered = true → ∃ peerId peerIp peerPort, master.peerId = some peerId ∧
    master.peerIp = some peerIp ∧ master.peerPort = some peerPort

/-- A master has no peer or knows its address. -/
theorem Whole.cases {master : IpscMaster} (whole : master.Whole) :
    (master.registered = false ∧ master.registration = none) ∨
      ∃ peerId peerIp peerPort, master.registered = true ∧ master.peerId = some peerId ∧
        master.peerIp = some peerIp ∧ master.peerPort = some peerPort ∧
        master.registration = some ((peerId, peerIp, peerPort), master.lastKa) := by
  cases registered : master.registered with
  | false => exact .inl ⟨rfl, by rw [registration, registered]⟩
  | true =>
      obtain ⟨peerId, peerIp, peerPort, id, ip, port⟩ := whole registered
      exact .inr ⟨peerId, peerIp, peerPort, rfl, id, ip, port, by
        rw [registration, registered, id, ip, port]⟩

theorem rejectsReg_registration (cfg : Config) (peerId : Bytes) (host : String)
    {master : IpscMaster} (whole : master.Whole) :
    master.rejectsReg cfg peerId host = !master.registration.accepts cfg peerId host := by
  rcases whole.cases with ⟨out, none⟩ | ⟨peerId, peerIp, peerPort, registered, id, ip, port, held⟩
  · rw [none, rejectsReg, out]
    simp [Registration.accepts, Bool.not_and]
  · rw [held, rejectsReg, registered, ip]
    have turned : (host = peerIp) = (peerIp = host) := propext eq_comm
    simp [Registration.accepts, Bool.not_and, turned]

theorem namesPeer_registration (payload : Bytes) {master : IpscMaster} (whole : master.Whole) :
    master.namesPeer payload = master.registration.isNamed payload := by
  rcases whole.cases with ⟨out, none⟩ | ⟨peerId, peerIp, peerPort, registered, id, ip, port, held⟩
  · rw [none, namesPeer, out]
    rfl
  · rw [held, namesPeer, registered, id]
    simp [Registration.isNamed, namedId]

/-- The repeater that holds the registration has been heard. -/
theorem registration_touch (now : Time) (master : IpscMaster) :
    registration { master with lastKa := now } =
      master.registration.map fun lease => (lease.1, now) := by
  simp only [registration]
  split <;> simp_all

/-- A packet moves the registration, and what is registered is known. -/
structure Moved (cfg : Config) (before after : IpscMaster)
    (move : Option (Lease.Move Registrant Time)) : Prop where
  whole : after.Whole
  lease : after.registration =
    move.toList.foldl (Lease.step (Registration.expired cfg)) before.registration

variable {cfg : Config} {master : IpscMaster}

theorem Moved.still (whole : master.Whole) : Moved cfg master master none := ⟨whole, rfl⟩

theorem Moved.touch (whole : master.Whole) (now : Time) :
    Moved cfg master { master with lastKa := now } (some (.renew now)) :=
  ⟨whole, master.registration_touch now⟩

theorem clearPeer_whole (master : IpscMaster) : master.clearPeer.1.Whole :=
  fun registered => by cases registered

theorem Moved.clear : Moved cfg master master.clearPeer.1 (some .revoke) :=
  ⟨master.clearPeer_whole, rfl⟩

theorem dispatch_moved (digests : Digests) (cfg : Config) {payload : Bytes} {opcode : UInt8}
    (first : payload[0]? = some opcode) (host : String) (port : UInt16) (now : Time)
    (whole : master.Whole) :
    Moved cfg master (master.dispatch digests cfg payload opcode host port now).1
      (master.registration.packetMove cfg payload host port now) := by
  unfold dispatch Registration.packetMove
  simp only [first, Option.some.injEq, ← namesPeer_registration payload whole]
  by_cases register : opcode = masterRegReq
  · rw [if_pos register, if_pos register, onRegReq]
    by_cases short : payload.length < 10
    · have short' : ¬ 10 ≤ payload.length := by omega
      simp only [if_pos short, short', decide_false, Bool.false_and, Bool.false_eq_true, if_false]
      exact .still whole
    · have long : 10 ≤ payload.length := by omega
      rw [if_neg short]
      simp only [rejectsReg_registration cfg _ host whole, long, decide_true, Bool.true_and]
      cases master.registration.accepts cfg (payload.extract 1 5) host with
      | false => exact .still whole
      | true => exact ⟨fun _ => ⟨_, host, port, rfl, rfl, rfl⟩, rfl⟩
  rw [if_neg register, if_neg register]
  by_cases alive : opcode = masterAliveReq
  · rw [if_pos alive, if_pos alive, onAliveReq]
    split
    · exact .touch whole now
    · exact .still whole
  rw [if_neg alive, if_neg alive]
  by_cases peerList : opcode = peerListReq
  · have other : ¬ opcode = deRegReq := by rw [peerList]; decide
    have silent : ¬ opcode = groupVoice := by rw [peerList]; decide
    rw [if_pos peerList, if_neg other, if_neg silent]
    exact .still whole
  rw [if_neg peerList]
  by_cases bye : opcode = deRegReq
  · rw [if_pos bye, if_pos bye, onDeRegReq]
    split
    · exact .clear
    · exact .still whole
  rw [if_neg bye, if_neg bye]
  by_cases voice : opcode = groupVoice
  · rw [if_pos voice, if_pos voice, onGroupVoice]
    have heard : (master.registered = true ∧ master.peerIp = some host ∧ master.peerPort = some port) ↔
        (master.registration.any fun lease => lease.1.2 = (host, port)) = true := by
      rcases whole.cases with ⟨out, none⟩ | ⟨peerId, peerIp, peerPort, registered, id, ip, port, held⟩
      · simp [none, out]
      · simp [held, registered, ip, port]
    by_cases holder : master.registered = true ∧ master.peerIp = some host ∧ master.peerPort = some port
    · rw [heard.mp holder, Bool.true_and, if_neg (by simp [holder])]
      cases parseGroupVoiceMeta payload with
      | error => exact .still whole
      | ok => exact .touch whole now
    · have other : (master.registration.any fun lease => lease.1.2 = (host, port)) = false := by
        simpa using fun same => holder (heard.mpr same)
      have stranger : (!master.registered || master.peerIp ≠ some host ||
          master.peerPort ≠ some port) = true := by
        simpa [or_assoc, imp_iff_not_or] using holder
      rw [other, if_pos stranger]
      exact .still whole
  rw [if_neg voice, if_neg voice]
  exact .still whole

theorem step_moved (digests : Digests) (cfg : Config) (whole : master.Whole) (event : IpscEvent) :
    Moved cfg master (master.step digests cfg event).1
      (master.registration.move digests cfg event) := by
  cases event with
  | connectionMade => exact ⟨whole, rfl⟩
  | maintenance => exact .still whole
  | watchdog now =>
      simp only [step, watchdog]
      rcases whole.cases with ⟨out, none⟩ | ⟨peerId, peerIp, peerPort, registered, -, -, -, held⟩
      · rw [out, Bool.false_and, if_neg Bool.false_ne_true]
        exact ⟨whole, by rw [none]; rfl⟩
      · rw [registered, Bool.true_and]
        have checked (late : Bool) (same : Registration.expired cfg now master.lastKa = late) :
            Lease.step (Registration.expired cfg) master.registration (.check now) =
              if late then none else master.registration := by
          rw [held, Lease.step, Option.filter_some, same]
          cases late <;> rfl
        split
        case isTrue late =>
          exact ⟨master.clearPeer_whole, (checked true late).symm⟩
        case isFalse fresh =>
          exact ⟨whole, (checked false (Bool.eq_false_iff.mpr fresh)).symm⟩
  | datagramReceived data addr now =>
      cases addr with
      | inet6 => exact .still whole
      | inet host port =>
          simp only [step, datagramReceived, Addr.unpack, Registration.move]
          cases checkedPayload digests cfg data with
          | none => exact .still whole
          | some payload =>
              dsimp only [Option.bind_some]
              cases first : payload[0]? with
              | none =>
                  simp only [Registration.packetMove, first]
                  exact .still whole
              | some opcode => exact dispatch_moved digests cfg first host port now whole

end IpscMaster

/-- In MASTER mode a repeater is registered exactly while its lease lasts: its last accepted
registration is followed by no de-registration in its name, and every watchdog round has found an
alive request or a voice packet of it that is recent enough. -/
theorem master_registration_iff (digests : Digests) (cfg : Config) (events : List IpscEvent)
    (peerId : Bytes) (host : String) (port : UInt16) (time : Time) :
    ((ipscMaster digests cfg).run {} events).1.registration = some ((peerId, host, port), time) ↔
      Lease.Held (Registration.expired cfg)
        ((ipscMaster digests cfg).shown (fun master => master.registration.move digests cfg) {} events)
        (peerId, host, port) time :=
  Lease.machine_held (ipscMaster digests cfg) _ _ _ IpscMaster.Whole
    (fun _ event whole => (IpscMaster.step_moved digests cfg whole event).whole)
    (fun _ event whole => (IpscMaster.step_moved digests cfg whole event).lease)
    (fun registered => by cases registered) rfl events _ time

namespace IpscPeer

/-- The registration at the upstream master with the time at which the master was last heard. -/
def registration (peer : IpscPeer) : Option (Unit × Time) :=
  if peer.registered then some ((), peer.lastMasterRx) else none

/-- What a packet does to the registration: any packet of the master renews it. -/
def packetMove (cfg : Config) (payload : Bytes) (host : String) (now : Time) (peer : IpscPeer) :
    Option (Lease.Move Unit Time) :=
  payload[0]?.bind fun opcode =>
    if safePeerId payload ≠ cfg.ipscPeerId ∧
        peer.isMasterSource cfg (safePeerId payload) host opcode = true then
      some (if opcode = masterRegReply ∧ 16 ≤ payload.length then .grant () now
        else if opcode = deRegReq ∨ opcode = deRegReply then .revoke
        else .renew now)
    else none

/-- What a callback in PEER mode does to the registration. -/
def registrationMove (digests : Digests) (cfg : Config) (peer : IpscPeer) :
    IpscEvent → Option (Lease.Move Unit Time)
  | .datagramReceived data (.inet host _) now =>
      (checkedPayload digests cfg data).bind fun payload => peer.packetMove cfg payload host now
  | .watchdog now => some (.check now)
  | _ => none

/-- A master that has not been heard for the keepalives that may be missed is given up. -/
def expired (cfg : Config) (now last : Time) : Bool :=
  let peerTimeout := max 1 cfg.ipscPeerAliveInterval * max 1 cfg.ipscMaxMissed
  last ≠ 0 && peerTimeout < now - last

theorem registration_eq {before after : IpscPeer} (registered : after.registered = before.registered)
    (heard : after.lastMasterRx = before.lastMasterRx) : after.registration = before.registration := by
  rw [registration, registration, registered, heard]

/-- The master has been heard. -/
theorem touchMaster_registration (srcId : Nat) (host : String) (port : UInt16) (now : Time)
    (peer : IpscPeer) : (peer.touchMaster srcId host port now).registration =
      peer.registration.map fun lease => (lease.1, now) := by
  by_cases registered : peer.registered = true
  · simp [registration, touchMaster, registered]
  · simp [registration, touchMaster, registered]

/-- A peer list leaves the registration as it is and has been heard. -/
theorem onPeerListReply_lease (cfg : Config) (payload : Bytes) (host : String) (port : UInt16)
    (now : Time) (peer : IpscPeer) :
    let touched := peer.touchMaster (safePeerId payload) host port now
    (touched.onPeerListReply cfg payload host port now).1.registration = touched.registration := by
  intro touched
  have each (record : Bytes) (peer : IpscPeer) :
      (peer.listPeer record).registration = peer.registration := by
    unfold listPeer
    cases peer.getPeer (recordId record) <;> rfl
  have all (records : List Bytes) (peer : IpscPeer) :
      (records.foldl (fun peer record => peer.listPeer record) peer).registration =
        peer.registration := by
    induction records generalizing peer with
    | nil => rfl
    | cons record rest ih => exact (ih _).trans (each record peer)
  have twice : touched.touchMaster (safePeerId payload) host port now = touched :=
    touchMaster_twice ..
  unfold onPeerListReply
  by_cases short : payload.length < 7
  · rw [if_pos short]
  · rw [if_neg short, twice]
    dsimp only
    split
    · rfl
    · exact all _ touched

/-- A packet of the master registers, ends the registration or renews it. -/
theorem dispatch_lease (digests : Digests) (cfg : Config) (payload : Bytes) (opcode : UInt8)
    (host : String) (port : UInt16) (now : Time) (peer : IpscPeer) :
    let touched := peer.touchMaster (safePeerId payload) host port now
    (touched.dispatch digests cfg payload opcode host port now true none).1.registration =
      Lease.step (expired cfg) peer.registration
        (if opcode = masterRegReply ∧ 16 ≤ payload.length then .grant () now
        else if opcode = deRegReq ∨ opcode = deRegReply then .revoke
        else .renew now) := by
  intro touched
  have twice : touched.touchMaster (safePeerId payload) host port now = touched :=
    touchMaster_twice ..
  have renewed : touched.registration = Lease.step (expired cfg) peer.registration (.renew now) :=
    touchMaster_registration ..
  by_cases regReply : opcode = masterRegReply
  · subst regReply
    change (touched.onMasterRegReply digests cfg payload host port now).1.registration = _
    unfold onMasterRegReply
    by_cases short : payload.length < 16
    · rw [if_pos short, if_neg (by omega), if_neg (by decide)]
      exact renewed
    · rw [if_neg short, if_pos ⟨rfl, by omega⟩]
      rfl
  have unlike : ¬(opcode = masterRegReply ∧ 16 ≤ payload.length) := fun both => regReply both.1
  rw [if_neg unlike]
  by_cases bye : opcode = deRegReq ∨ opcode = deRegReply
  · have cleared : touched.clearMasterRegistration.1.registration = none := by
      unfold clearMasterRegistration
      cases registered : touched.registered with
      | true => rfl
      | false => simp [registration, registered]
    rw [if_pos bye]
    refine Eq.trans ?_ cleared
    rcases bye with rfl | rfl <;> rfl
  have stays : ¬(opcode = deRegReq || opcode = deRegReply) = true := by simpa using bye
  rw [if_neg bye, ← renewed]
  unfold dispatch
  rw [if_neg regReply]
  by_cases aliveReply : opcode = masterAliveReply
  · rw [if_pos aliveReply, if_pos rfl, onMasterAliveReply]
    dsimp only
    rw [twice]
  rw [if_neg aliveReply]
  by_cases listReply : opcode = peerListReply
  · rw [if_pos listReply, if_pos rfl]
    exact onPeerListReply_lease cfg payload host port now peer
  rw [if_neg listReply]
  by_cases voice : opcode = groupVoice
  · rw [if_pos voice]
    split
    · unfold onGroupVoice
      cases parseGroupVoiceMeta payload <;> rfl
    · rfl
  rw [if_neg voice, if_neg stays]

theorem step_lease (digests : Digests) (cfg : Config) (peer : IpscPeer) (event : IpscEvent) :
    (peer.step digests cfg event).1.registration =
      (peer.registrationMove digests cfg event).toList.foldl (Lease.step (expired cfg))
        peer.registration := by
  cases event with
  | connectionMade => rfl
  | maintenance clock =>
      simp only [step, maintenance]
      split <;> rfl
  | watchdog now =>
      simp only [step, watchdog, registrationMove, Option.toList_some, List.foldl_cons,
        List.foldl_nil, Lease.step]
      cases registered : peer.registered with
      | false => simp [registration, registered]
      | true =>
          have held : peer.registration = some ((), peer.lastMasterRx) := by
            rw [registration, registered, if_pos rfl]
          rw [held, Option.filter_some, Bool.true_and]
          change (if expired cfg now peer.lastMasterRx = true then _ else _ :
            IpscPeer × List IpscOutput).1.registration = _
          cases expired cfg now peer.lastMasterRx with
          | false => exact held
          | true => simp [clearMasterRegistration, registered, registration]
  | datagramReceived data addr now =>
      simp only [step]
      have received := datagramReceived_cases digests cfg data addr now peer
      generalize peer.datagramReceived digests cfg data addr now = result at received
      cases received with
      | dropped quiet ignored =>
          have unmoved : peer.registrationMove digests cfg (.datagramReceived data addr now) = none := by
            cases addr with
            | inet6 => rfl
            | inet host port =>
                simp only [registrationMove, Option.bind_eq_none_iff]
                intro payload checked
                cases first : payload[0]? with
                | none => rw [packetMove, first, Option.bind_none]
                | some opcode =>
                    have own := ignored host port payload opcode rfl checked first
                    rw [packetMove, first, Option.bind_some, if_neg fun both => both.1 own]
          rw [unmoved]
          rfl
      | @taken host port payload opcode checked first foreign =>
          simp only [registrationMove, checked, Option.bind_some, packetMove, first]
          cases master : peer.isMasterSource cfg (safePeerId payload) host opcode with
          | true =>
              rw [payloadReceived_master digests port now foreign master, if_pos ⟨foreign, rfl⟩]
              exact dispatch_lease digests cfg payload opcode host port now peer
          | false =>
              obtain ⟨kept, -⟩ := payloadReceived_other digests port now master
              rw [if_neg fun both => Bool.false_ne_true both.2]
              exact registration_eq (congrArg MasterControl.registered kept)
                (congrArg MasterControl.lastMasterRx kept)

end IpscPeer

/-- In PEER mode the registration at the upstream master is held exactly while its lease lasts: a
registration reply of the master is followed by no de-registration from it, and every watchdog round
has found a packet of it that is recent enough. -/
theorem upstream_registration_iff (digests : Digests) (cfg : Config) (events : List IpscEvent)
    (time : Time) :
    ((ipscPeer digests cfg).run (IpscPeer.initial cfg) events).1.registration = some ((), time) ↔
      Lease.Held (IpscPeer.expired cfg)
        ((ipscPeer digests cfg).shown (fun peer => peer.registrationMove digests cfg)
          (IpscPeer.initial cfg) events) () time :=
  Lease.machine_held (ipscPeer digests cfg) _ _ _ (fun _ => True) (fun _ _ _ => trivial)
    (fun peer event _ => peer.step_lease digests cfg event) trivial rfl events () time

/-- The next RPTACK ends the login. -/
def HbpProtocol.AwaitsLast (cfg : Config) (proto : HbpProtocol) : Prop :=
  proto.state = .optionsSent ∨ proto.state = .configSent ∧ cfg.options = ""

instance (cfg : Config) (proto : HbpProtocol) : Decidable (proto.AwaitsLast cfg) :=
  inferInstanceAs (Decidable (_ ∨ _))

/-- The session of a CONNECTED protocol with the time of its last MSTPONG. -/
def HbpProtocol.openSession (session : Nat) (proto : HbpProtocol) : Option (Nat × Time) :=
  if proto.state = .connected then some (session, proto.lastPong) else none

namespace HbpClient

def openSession (client : HbpClient) : Option (Nat × Time) :=
  client.protocol.bind fun proto => proto.openSession client.session

/-- What a datagram of the master does to the session. -/
def datagramMove (cfg : Config) (data : Bytes) (now : Time) (client : HbpClient) :
    Option (Lease.Move Nat Time) :=
  if data.take 6 = hbpfRptack then
    client.protocol.bind fun proto =>
      if proto.AwaitsLast cfg then some (.grant client.session now) else none
  else if data.take 6 = hbpfMstnak then some .revoke
  else if data.take 7 = hbpfMstpong then some (.renew now)
  else if data.take 5 = hbpfMstcl then some .revoke
  else none

/-- What a callback or a call of the translator does to the session. -/
def sessionMove (cfg : Config) (client : HbpClient) : ClientCall → Option (Lease.Move Nat Time)
  | .event (.datagramReceived data now) => client.datagramMove cfg data now
  | .event (.keepalive now) => some (.check now)
  | .event .errorReceived => some .revoke
  | .deactivate => if client.active then some .revoke else none
  | _ => none

/-- A session without MSTPONG for this long is closed. -/
def expired (now last : Time) : Bool := maxKaAge < now - last

end HbpClient

namespace HbpProtocol
variable {proto : HbpProtocol} {session : Nat}

theorem openSession_down (down : proto.state ≠ .connected) : proto.openSession session = none := by
  rw [openSession, if_neg down]

theorem openSession_up (up : proto.state = .connected) :
    proto.openSession session = some (session, proto.lastPong) := by
  rw [openSession, if_pos up]

/-- The last RPTACK opens the session; an RPTACK leaves an open one alone. -/
theorem onRptack_session (digests : Digests) (cfg : Config) (data : Bytes) (now : Time) :
    (proto.onRptack digests cfg data now).1.openSession session =
      if proto.AwaitsLast cfg then some (session, now) else proto.openSession session := by
  unfold onRptack
  cases state : proto.state with
  | login =>
      dsimp only
      split <;> simp [openSession, AwaitsLast, state]
  | authSent => simp [openSession, AwaitsLast, state]
  | configSent =>
      by_cases options : cfg.options = ""
      · simp [openSession, AwaitsLast, state, options, becomeConnected]
      · simp [openSession, AwaitsLast, state, options]
  | optionsSent => simp [openSession, AwaitsLast, state, becomeConnected]
  | connected | disconnected => simp [AwaitsLast, state]

/-- A round of the keepalive task checks the session. -/
theorem keepalive_session (cfg : Config) (now : Time) :
    (proto.keepalive cfg now).1.openSession session =
      Lease.step HbpClient.expired (proto.openSession session) (.check now) := by
  unfold keepalive
  by_cases up : proto.state = .connected
  · rw [if_neg (not_not.mpr up), openSession_up up, Lease.step, Option.filter_some]
    by_cases late : maxKaAge < now - proto.lastPong
    · simp [late, HbpClient.expired, disconnect, openSession]
    · simp [late, HbpClient.expired, openSession, up]
  · rw [if_pos up, openSession_down up]
    rfl

theorem errorReceived_session (cfg : Config) :
    (proto.errorReceived cfg).1.openSession session = none := by
  unfold errorReceived
  split
  case isTrue down => exact openSession_down (by rw [down]; decide)
  case isFalse => rfl

/-- A command word is as long as its front of the datagram. -/
theorem word_length {data word : Bytes} {width : Nat} (long : word.length = width)
    (front : data.take width = word) : width ≤ data.length := by
  rw [← front, List.length_take] at long
  omega

theorem datagramReceived_session (digests : Digests) (cfg : Config) (data : Bytes) (now : Time)
    {client : HbpClient} (present : client.protocol = some proto) :
    (proto.datagramReceived digests cfg data now).1.openSession client.session =
      (client.datagramMove cfg data now).toList.foldl (Lease.step HbpClient.expired)
        (proto.openSession client.session) := by
  unfold datagramReceived HbpClient.datagramMove
  rw [present, Option.bind_some]
  by_cases short : data.length < 4
  · have unlike (word : Bytes) (width : Nat) (long : word.length = width) (wide : 4 ≤ width) :
        ¬ data.take width = word := fun front => by
      have bound := word_length long front
      omega
    rw [if_pos short, if_neg (unlike hbpfRptack 6 rfl (by decide)),
      if_neg (unlike hbpfMstnak 6 rfl (by decide)), if_neg (unlike hbpfMstpong 7 rfl (by decide)),
      if_neg (unlike hbpfMstcl 5 rfl (by decide))]
    rfl
  have whole (word : Bytes) (width : Nat) (long : word.length = width) :
      (width ≤ data.length && data.take width = word) = decide (data.take width = word) := by
    by_cases front : data.take width = word
    · simp [front, word_length long front]
    · simp [front]
  rw [if_neg short, whole hbpfRptack 6 rfl, whole hbpfMstnak 6 rfl, whole hbpfMstpong 7 rfl,
    whole hbpfMstcl 5 rfl]
  simp only [decide_eq_true_eq]
  by_cases ack : data.take 6 = hbpfRptack
  · rw [if_pos ack, if_pos ack, onRptack_session]
    split <;> rfl
  rw [if_neg ack, if_neg ack]
  by_cases nak : data.take 6 = hbpfMstnak
  · rw [if_pos nak, if_pos nak]
    rfl
  rw [if_neg nak, if_neg nak]
  by_cases pong : data.take 7 = hbpfMstpong
  · rw [if_pos pong, if_pos pong]
    by_cases up : proto.state = .connected
    · simp [openSession, up, Lease.step]
    · simp [openSession, up, Lease.step]
  rw [if_neg pong, if_neg pong]
  by_cases bye : data.take 5 = hbpfMstcl
  · rw [if_pos bye, if_pos bye]
    rfl
  rw [if_neg bye, if_neg bye]
  split <;> rfl

end HbpProtocol

namespace HbpClient

theorem openSession_eq {before after : HbpClient} (protocol : after.protocol = before.protocol)
    (session : after.session = before.session) : after.openSession = before.openSession := by
  rw [openSession, openSession, protocol, session]

theorem activate_session (client : HbpClient) :
    client.activate.1.openSession = client.openSession := by
  refine openSession_eq client.activate_protocol ?_
  unfold activate
  split
  · rfl
  · dsimp only
    split_ifs <;> rfl

/-- A handler of the protocol moves its session. -/
theorem onProtocol_session {handler : HbpProtocol → HbpProtocol × List HbpOutput}
    (client : HbpClient) (move : Option (Nat × Time) → Option (Nat × Time))
    (absent : client.protocol = none → move none = none)
    (each : ∀ proto, client.protocol = some proto →
      (handler proto).1.openSession client.session = move (proto.openSession client.session)) :
    (client.onProtocol handler).1.openSession = move client.openSession := by
  unfold onProtocol openSession
  cases present : client.protocol with
  | none => simp [present, absent present]
  | some proto => exact each proto present

/-- A datagram opens no session of a protocol that is over. -/
theorem datagramMove_over (client : HbpClient) (cfg : Config) (data : Bytes) (now : Time)
    (ended : ∀ proto, client.protocol = some proto → proto.state = .disconnected) :
    (client.datagramMove cfg data now).toList.foldl (Lease.step expired) none = none := by
  have waits : (client.protocol.bind fun proto => if proto.AwaitsLast cfg then
      some (Lease.Move.grant client.session now) else none) = none := by
    rw [Option.bind_eq_none_iff]
    intro proto present
    have down := ended proto present
    exact if_neg (by simp [HbpProtocol.AwaitsLast, down])
  unfold datagramMove
  split_ifs
  · rw [waits]
    rfl
  · rfl
  · rfl
  · rfl
  · rfl

theorem step_session {client : HbpClient} (lawful : client.Lawful) (digests : Digests) (cfg : Config)
    (call : ClientCall) : ((hbpClient digests cfg).step client call).1.openSession =
      (client.sessionMove cfg call).toList.foldl (Lease.step expired) client.openSession := by
  cases call with
  | activate => exact client.activate_session
  | deactivate =>
      simp only [hbpClient, sessionMove, deactivate]
      cases active : client.active with
      | false => rfl
      | true =>
          exact onProtocol_session { client with active := false } (fun _ => none) (fun _ => rfl)
            fun _ _ => rfl
  | event event =>
      simp only [hbpClient]
      cases event with
      | start =>
          simp only [step, start]
          split
          · exact activate_session _
          · rfl
      | loopTop | endpointFailed | doneWaited =>
          simp only [step]
          split <;> rfl
      | endpointCreated =>
          simp only [step]
          split
          case isTrue connecting =>
            have absent : client.protocol = none := by
              by_contra present
              rw [lawful.sound.waiting present] at connecting
              cases connecting
            rw [openSession, openSession, absent]
            rfl
          case isFalse => rfl
      | connectionLost =>
          simp only [step]
          cases present : client.protocol with
          | none => rfl
          | some proto =>
              dsimp only
              split
              case isTrue => rfl
              case isFalse closed =>
                have down : proto.state ≠ .connected := fun up =>
                  closed (lawful.sound.attached proto present (by rw [up]; decide))
                rw [openSession, openSession, present]
                exact (HbpProtocol.openSession_down down).symm
      | errorReceived =>
          exact client.onProtocol_session (fun _ => none) (fun _ => rfl)
            fun _ _ => HbpProtocol.errorReceived_session cfg
      | datagramReceived data now =>
          refine client.onProtocol_session
            (fun lease => (client.datagramMove cfg data now).toList.foldl (Lease.step expired) lease)
            (fun absent => ?_) fun proto present => ?_
          · refine client.datagramMove_over cfg data now fun proto present => ?_
            rw [absent] at present
            cases present
          · split
            case isTrue => exact HbpProtocol.datagramReceived_session digests cfg data now present
            case isFalse closed =>
              have down : proto.state = .disconnected := by
                by_contra alive
                exact closed (lawful.sound.attached proto present alive)
              have ended := client.datagramMove_over cfg data now fun other same => by
                rwa [Option.some.inj (same.symm.trans present)]
              rw [HbpProtocol.openSession_down (by rw [down]; decide), ended]
      | keepalive now =>
          refine client.onProtocol_session (fun lease => Lease.step expired lease (.check now))
            (fun _ => rfl) fun proto present => ?_
          split
          case isTrue => exact HbpProtocol.keepalive_session cfg now
          case isFalse off =>
            have down : proto.state ≠ .connected := fun up =>
              off ((lawful.timed proto present).connected up)
            rw [HbpProtocol.openSession_down down]
            rfl

end HbpClient

/-- A session is open exactly while its lease lasts: the last RPTACK of its login is followed by no
MSTNAK, MSTCL, socket error or log-out, and every round of the keepalive task has found an MSTPONG
that is recent enough. -/
theorem session_open_iff (digests : Digests) (cfg : Config) (calls : List ClientCall) (session : Nat)
    (time : Time) :
    ((hbpClient digests cfg).run {} calls).1.openSession = some (session, time) ↔
      Lease.Held HbpClient.expired
        ((hbpClient digests cfg).shown (HbpClient.sessionMove cfg) {} calls) session time :=
  Lease.machine_held (hbpClient digests cfg) _ _ _ HbpClient.Lawful
    (fun _ call lawful => lawful.step digests cfg call)
    (fun _ call lawful => HbpClient.step_session lawful digests cfg call)
    HbpClient.lawful_initial rfl calls session time

end Ipsc2Hbp
