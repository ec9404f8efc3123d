import Ipsc2Hbp.Proof.PeerControl

namespace Ipsc2Hbp
open BigEndian

/-- An effect of a stack at which the translator raises nothing. -/
def IpscOutput.IsPlain : IpscOutput → Prop
  | .send .. | .checkCallTimeouts => True
  | _ => False

theorem IpscOutput.IsSend.plain {output : IpscOutput} (sent : output.IsSend) : output.IsPlain := by
  cases output with
  | send => exact trivial
  | peerRegistered | peerLost | checkCallTimeouts | ipscVoiceReceived | raised => exact sent.elim

/-- The registration before and after a callback, and the calls that report its change. -/
inductive RegistrationStep (before after : Bool) : List IpscOutput → Prop
  | same {outputs : List IpscOutput} (still : after = before)
      (quiet : ∀ output ∈ outputs, ¬ output.IsRegistration) : RegistrationStep before after outputs
  | gained {front back : List IpscOutput} (down : before = false) (up : after = true)
      (first : ∀ output ∈ front, output.IsPlain) (last : ∀ output ∈ back, output.IsPlain)
      (peerId : Bytes) (host : String) (port : UInt16) :
      RegistrationStep before after (front ++ .peerRegistered peerId host port :: back)
  | lost {front : List IpscOutput} (up : before = true) (down : after = false)
      (first : ∀ output ∈ front, output.IsPlain) : RegistrationStep before after (front ++ [.peerLost])

namespace RegistrationStep

theorem nothing (registered : Bool) : RegistrationStep registered registered [] := .same rfl (by simp)

/-- Packets that are sent change no registration. -/
theorem sends {registered : Bool} {outputs : List IpscOutput}
    (sent : ∀ output ∈ outputs, output.IsSend) : RegistrationStep registered registered outputs :=
  .same rfl fun output member => (sent output member).noRegistration

theorem one {registered : Bool} {output : IpscOutput} (quiet : ¬ output.IsRegistration) :
    RegistrationStep registered registered [output] :=
  .same rfl fun other member => by rwa [List.mem_singleton.mp member]

end RegistrationStep

namespace IpscMaster

theorem dispatch_registration (digests : Digests) (cfg : Config) (payload : Bytes) (opcode : UInt8)
    (host : String) (port : UInt16) (now : Time) (master : IpscMaster) :
    let result := master.dispatch digests cfg payload opcode host port now
    RegistrationStep master.registered result.1.registered result.2 := by
  have nothing := RegistrationStep.nothing master.registered
  intro result
  simp only [result, dispatch]
  split_ifs
  · unfold onRegReq
    by_cases short : payload.length < 10
    · rw [if_pos short]
      exact nothing
    · rw [if_neg short]
      dsimp only
      by_cases rejects : master.rejectsReg cfg (payload.extract 1 5) host = true
      · rw [if_pos rejects]
        exact nothing
      · rw [if_neg rejects]
        cases registered : master.registered with
        | true =>
            rw [if_pos rfl, List.append_nil]
            exact .sends (regReplies_sends _ _ _ _ _ _)
        | false =>
            rw [if_neg Bool.false_ne_true]
            have replies (after : IpscMaster) := regReplies_sends digests cfg master.transport host port
              after
            exact .gained rfl rfl (fun output member => (replies _ output member).plain) (by simp) _ _ _
  · unfold onAliveReq
    split
    · exact .sends (ipscSend_sends _ _ _ _ _ _)
    · exact nothing
  · unfold onPeerListReq
    dsimp only
    split
    · exact .sends (sendPeerList_sends _ _ _ _ _)
    · exact nothing
  · unfold onDeRegReq
    split
    case isTrue names =>
      have registered : master.registered = true := (Bool.and_eq_true_iff.mp names).1
      exact .lost registered rfl fun output member => (ipscSend_sends _ _ _ _ _ _ output member).plain
    case isFalse => exact nothing
  · unfold onGroupVoice
    split
    · exact nothing
    · cases parseGroupVoiceMeta payload with
      | error => exact nothing
      | ok => exact .one id
  · exact nothing

theorem step_registration (digests : Digests) (cfg : Config) (master : IpscMaster) (event : IpscEvent) :
    let result := master.step digests cfg event
    RegistrationStep master.registered result.1.registered result.2 := by
  have nothing := RegistrationStep.nothing master.registered
  cases event with
  | connectionMade | maintenance => exact nothing
  | watchdog now =>
      simp only [step, watchdog]
      split
      case isTrue expired =>
        have registered : master.registered = true := (Bool.and_eq_true_iff.mp expired).1
        have plain : ∀ output ∈ [IpscOutput.checkCallTimeouts], output.IsPlain := fun output member => by
          rw [List.mem_singleton.mp member]
          trivial
        exact .lost registered rfl plain
      case isFalse => exact .one id
  | datagramReceived data addr now =>
      simp only [step, datagramReceived]
      cases addr.unpack with
      | error => exact .one id
      | ok sender =>
          simp only
          cases checkedPayload digests cfg data with
          | none => exact nothing
          | some payload =>
              simp only
              cases payload[0]? with
              | none => exact .one id
              | some opcode => exact master.dispatch_registration digests cfg payload opcode _ _ now

end IpscMaster

namespace IpscPeer

theorem onPeerListReply_registration (cfg : Config) (payload : Bytes) (host : String) (port : UInt16)
    (now : Time) (peer : IpscPeer) :
    (peer.onPeerListReply cfg payload host port now).1.registered = peer.registered ∧
      (peer.onPeerListReply cfg payload host port now).1.masterRegReported =
        peer.masterRegReported := by
  have each (entry : Bytes) (peer : IpscPeer) : (peer.listPeer entry).registered = peer.registered ∧
      (peer.listPeer entry).masterRegReported = peer.masterRegReported := by
    unfold listPeer
    cases peer.getPeer (recordId entry) <;> exact ⟨rfl, rfl⟩
  have all (records : List Bytes) (peer : IpscPeer) :
      (records.foldl (fun peer entry => peer.listPeer entry) peer).registered = peer.registered ∧
        (records.foldl (fun peer entry => peer.listPeer entry) peer).masterRegReported =
          peer.masterRegReported := by
    induction records generalizing peer with
    | nil => exact ⟨rfl, rfl⟩
    | cons entry rest ih =>
        obtain ⟨registered, reported⟩ := ih (peer.listPeer entry)
        exact ⟨registered.trans (each entry peer).1, reported.trans (each entry peer).2⟩
  unfold onPeerListReply
  by_cases short : payload.length < 7
  · rw [if_pos short]
    exact ⟨rfl, rfl⟩
  · rw [if_neg short]
    dsimp only
    split
    · exact ⟨rfl, rfl⟩
    · exact all _ _

/-- The registration of a peer has been reported. -/
def Reported (peer : IpscPeer) : Prop := peer.masterRegReported = peer.registered

theorem clearMasterRegistration_registration {peer : IpscPeer} (reported : peer.Reported)
    (front : List IpscOutput) (plain : ∀ output ∈ front, output.IsPlain)
    (quiet : ∀ output ∈ front, ¬ output.IsRegistration) :
    let result := peer.clearMasterRegistration
    RegistrationStep peer.registered result.1.registered (front ++ result.2) ∧ result.1.Reported := by
  unfold clearMasterRegistration
  cases registered : peer.registered with
  | true => exact ⟨.lost rfl rfl plain, rfl⟩
  | false =>
      dsimp only
      rw [if_neg Bool.false_ne_true, List.append_nil]
      exact ⟨.same registered quiet, reported⟩

/-- A packet of the master registers, deregisters, or does neither. -/
theorem dispatch_registration (digests : Digests) (cfg : Config) (payload : Bytes) (opcode : UInt8)
    (host : String) (port : UInt16) (now : Time) {peer : IpscPeer} (reported : peer.Reported) :
    let result := peer.dispatch digests cfg payload opcode host port now true none
    RegistrationStep peer.registered result.1.registered result.2 ∧ result.1.Reported := by
  have nothing := RegistrationStep.nothing peer.registered
  have asks (useConfiguredPort : Bool) (packet : Bytes) (peer : IpscPeer) :=
    sendToMaster_sends digests cfg packet useConfiguredPort peer
  intro result
  simp only [result, dispatch, if_true]
  split_ifs
  · unfold onMasterRegReply
    by_cases short : payload.length < 16
    · rw [if_pos short]
      exact ⟨nothing, reported⟩
    · rw [if_neg short]
      dsimp only
      unfold Reported at reported ⊢
      cases registered : peer.registered with
      | true =>
          simp only [reported, registered]
          exact ⟨.sends (asks _ _ _), rfl⟩
      | false =>
          simp only [reported, registered]
          have none : ∀ output ∈ ([] : List IpscOutput), output.IsPlain := by simp
          exact ⟨.gained rfl rfl none
            (fun output member => (asks _ _ _ output member).plain) _ _ _, rfl⟩
  · unfold onMasterAliveReply
    dsimp only
    split
    · exact ⟨nothing, reported⟩
    · exact ⟨.sends (asks _ _ _), reported⟩
  · rw [onPeerListReply_silent]
    have same := onPeerListReply_registration cfg payload host port now peer
    unfold Reported
    rw [same.1, same.2]
    exact ⟨nothing, reported⟩
  · unfold onGroupVoice
    cases parseGroupVoiceMeta payload with
    | error => exact ⟨nothing, reported⟩
    | ok => exact ⟨.one id, reported⟩
  · exact ⟨nothing, reported⟩
  · exact clearMasterRegistration_registration reported [] (by simp) (by simp)
  · exact ⟨nothing, reported⟩

/-- A packet of another sender keeps the registration. -/
theorem payloadReceived_registration (digests : Digests) (cfg : Config) (payload : Bytes)
    (opcode : UInt8) (host : String) (port : UInt16) (now : Time) {peer : IpscPeer}
    (reported : peer.Reported) :
    let result := peer.payloadReceived digests cfg payload opcode host port now
    RegistrationStep peer.registered result.1.registered result.2 ∧ result.1.Reported := by
  cases isMaster : peer.isMasterSource cfg (safePeerId payload) host opcode with
  | false =>
      obtain ⟨kept, quiet⟩ := payloadReceived_other digests port now isMaster
      have registered := congrArg MasterControl.registered kept
      have marked := congrArg MasterControl.masterRegReported kept
      exact ⟨.same registered quiet, marked.trans (reported.trans registered.symm)⟩
  | true =>
      unfold payloadReceived
      by_cases own : safePeerId payload = cfg.ipscPeerId
      · rw [if_pos own]
        exact ⟨.nothing _, reported⟩
      · rw [if_neg own]
        simp only [isMaster]
        have touched : (peer.touchMaster (safePeerId payload) host port now).Reported := reported
        exact dispatch_registration digests cfg payload opcode host port now touched

theorem maintained_sends (digests : Digests) (cfg : Config) (transport : Bool) (clock : Clock)
    (entries : List PeerEntry) :
    ∀ output ∈ (entries.mapIdx fun idx entry =>
      maintainPeer digests cfg transport (clock idx) entry).flatMap Prod.snd, output.IsSend := by
  intro output member
  obtain ⟨maintained, inside, sent⟩ := List.mem_flatMap.mp member
  obtain ⟨idx, bound, rfl⟩ := List.mem_mapIdx.mp inside
  unfold maintainPeer at sent
  split at sent
  · cases sent
  · exact ipscSend_sends _ _ _ _ _ _ output sent

theorem step_registration (digests : Digests) (cfg : Config) {peer : IpscPeer}
    (reported : peer.Reported) (event : IpscEvent) :
    let result := peer.step digests cfg event
    RegistrationStep peer.registered result.1.registered result.2 ∧ result.1.Reported := by
  have nothing := RegistrationStep.nothing peer.registered
  have asks (useConfiguredPort : Bool) (packet : Bytes) (peer : IpscPeer) :=
    sendToMaster_sends digests cfg packet useConfiguredPort peer
  cases event with
  | connectionMade =>
      simp only [step]
      exact ⟨.sends (asks _ _ _), reported⟩
  | maintenance clock =>
      simp only [step, maintenance]
      split
      · exact ⟨.sends (asks _ _ _), reported⟩
      · refine ⟨.sends fun output member => ?_, reported⟩
        rcases List.mem_append.mp member with asked | maintained
        · rcases List.mem_append.mp asked with alive | list
          · exact asks _ _ _ output alive
          · split at list
            · cases list
            · exact asks _ _ _ output list
        · exact maintained_sends digests cfg peer.transport clock peer.peers output maintained
  | watchdog now =>
      simp only [step, watchdog]
      split
      · have one : ∀ output ∈ [IpscOutput.checkCallTimeouts], output = .checkCallTimeouts :=
          fun output member => List.mem_singleton.mp member
        exact clearMasterRegistration_registration reported [.checkCallTimeouts]
          (fun output member => by rw [one output member]; trivial)
          (fun output member => by rw [one output member]; exact id)
      · exact ⟨.one id, reported⟩
  | datagramReceived data addr now =>
      have received := datagramReceived_cases digests cfg data addr now peer
      simp only [step]
      generalize peer.datagramReceived digests cfg data addr now = reached at received ⊢
      cases received with
      | dropped quiet => exact ⟨.same rfl (quiet_noRegistration quiet), reported⟩
      | taken => exact payloadReceived_registration digests cfg _ _ _ _ now reported

end IpscPeer

namespace Core

/-- The client after a callback of the translator in TRACKING mode. -/
def tracked (cfg : Config) (client : HbpClient) : Event → HbpClient
  | .peerRegistered => client.activate.1
  | .peerLost => (client.deactivate cfg).1
  | _ => client

/-- In TRACKING mode only the registration calls change the client. -/
theorem translate_client (dmr : DmrUtils) {cfg : Config} (tracking : cfg.hbpMode = .tracking)
    (core : Core) (event : Event) :
    (core.translate dmr cfg event).1.client = tracked cfg core.client event := by
  have onSlot (ts : Timeslot) (handler : Shared → Slot → Shared × Slot × List Action) :
      (obey cfg core.client (core.translator.onSlot ts handler).2).1 = core.client :=
    obey_actions_client ..
  cases event with
  | ipscVoice => exact onSlot ..
  | drain => exact onSlot ..
  | hbpVoice registered dmrd draw clock =>
      simp only [translate, Translator.step, hbpVoiceReceived_eq]
      cases acceptedFrame registered dmrd with
      | none => rfl
      | some frame => exact onSlot ..
  | checkCallTimeouts | hbpDisconnected => rfl
  | peerRegistered | peerLost =>
      simp only [translate, Translator.step, tracking, if_true]
      rfl

/-- The calls of the HBP stack do not change the client. -/
theorem notify_client (dmr : DmrUtils) {cfg : Config} (tracking : cfg.hbpMode = .tracking)
    (registered : Bool) (draw : RtpDraw) (clock : Clock) (outputs : List HbpOutput) (core : Core) :
    (notify dmr cfg registered draw clock core outputs).1.client = core.client := by
  induction outputs generalizing core with
  | nil => rfl
  | cons output rest ih =>
      simp only [notify, ih]
      cases output with
      | hbpDisconnected | hbpVoiceReceived => exact translate_client dmr tracking core _
      | send | sendDmrd | hbpConnected | raised => rfl

end Core

namespace Bridge

theorem client_ite {stops : Bool} {first second : Core × List BridgeOutput} {client : HbpClient}
    (stopped : first.1.client = client) (follows : second.1.client = client) :
    (if stops = true then first else second).1.client = client := by
  cases stops <;> assumption

/-- Effects that report no registration leave the client alone. -/
theorem deliver_client_quiet (digests : Digests) (dmr : DmrUtils) {cfg : Config}
    (tracking : cfg.hbpMode = .tracking) (urandom : StreamId) (clock : Clock) (ipsc : IpscStack)
    {outputs : List IpscOutput} (quiet : ∀ output ∈ outputs, ¬ output.IsRegistration) (core : Core) :
    (deliver digests dmr cfg urandom clock ipsc core outputs).1.client = core.client := by
  induction outputs generalizing core with
  | nil => rfl
  | cons output rest ih =>
      have tail := ih fun other member => quiet other (List.mem_cons_of_mem _ member)
      have first := quiet output List.mem_cons_self
      have each := core.translate_client dmr tracking
      simp only [deliver]
      cases output with
      | peerRegistered | peerLost => exact absurd trivial first
      | send => exact tail core
      | raised => rfl
      | checkCallTimeouts | ipscVoiceReceived =>
          exact client_ite (each _) ((tail _).trans (each _))

/-- A plain effect keeps the client and lets the next ones follow. -/
theorem deliver_plain (digests : Digests) (dmr : DmrUtils) {cfg : Config}
    (tracking : cfg.hbpMode = .tracking) (urandom : StreamId) (clock : Clock) (ipsc : IpscStack)
    {front : List IpscOutput} (plain : ∀ output ∈ front, output.IsPlain) (rest : List IpscOutput)
    (core : Core) : ∃ middle : Core, middle.client = core.client ∧
      (deliver digests dmr cfg urandom clock ipsc core (front ++ rest)).1 =
        (deliver digests dmr cfg urandom clock ipsc middle rest).1 := by
  induction front generalizing core with
  | nil => exact ⟨core, rfl, rfl⟩
  | cons output front ih =>
      have later := ih fun other member => plain other (List.mem_cons_of_mem _ member)
      have first := plain output List.mem_cons_self
      cases output with
      | peerRegistered | peerLost | ipscVoiceReceived | raised => exact first.elim
      | send => exact later core
      | checkCallTimeouts =>
          obtain ⟨middle, client, same⟩ := later (core.translate dmr cfg
            (.checkCallTimeouts callTimeout clock)).1
          exact ⟨middle, client.trans (core.translate_client dmr tracking _), same⟩

/-- The client after the call at a registration, whether or not an exception ends the callback. -/
theorem deliver_client_call (digests : Digests) (dmr : DmrUtils) {cfg : Config}
    (tracking : cfg.hbpMode = .tracking) (urandom : StreamId) (clock : Clock) (ipsc : IpscStack)
    {front back : List IpscOutput} (plain : ∀ output ∈ front, output.IsPlain)
    (quiet : ∀ output ∈ back, ¬ output.IsRegistration) {output : IpscOutput} {event : Event}
    (called : ∀ connected, call connected urandom clock output = some event) (core : Core) :
    (deliver digests dmr cfg urandom clock ipsc core (front ++ output :: back)).1.client =
      Core.tracked cfg core.client event := by
  obtain ⟨middle, client, same⟩ :=
    deliver_plain digests dmr tracking urandom clock ipsc plain (output :: back) core
  have each := middle.translate_client dmr tracking event
  rw [client] at each
  rw [same]
  simp only [deliver, called]
  exact client_ite each ((deliver_client_quiet digests dmr tracking urandom clock ipsc quiet _).trans each)

end Bridge

/-- In PEER mode the registration has been reported. -/
def IpscStack.Reported : IpscStack → Prop
  | .master _ => True
  | .peer stack => stack.Reported

/-- The registration and the client before and after a callback in TRACKING mode. -/
inductive TrackingStep (digests : Digests) (cfg : Config) (before after : Bridge) : BridgeEvent → Prop
  | still {event : BridgeEvent} (local' : ∀ callback draw clock, event ≠ .hbp callback draw clock)
      (registered : after.ipsc.isPeerRegistered = before.ipsc.isPeerRegistered)
      (client : after.core.client = before.core.client) : TrackingStep digests cfg before after event
  | gained {event : BridgeEvent} (local' : ∀ callback draw clock, event ≠ .hbp callback draw clock)
      (down : before.ipsc.isPeerRegistered = false) (up : after.ipsc.isPeerRegistered = true)
      (client : after.core.client = before.core.client.activate.1) :
      TrackingStep digests cfg before after event
  | lost {event : BridgeEvent} (local' : ∀ callback draw clock, event ≠ .hbp callback draw clock)
      (up : before.ipsc.isPeerRegistered = true) (down : after.ipsc.isPeerRegistered = false)
      (client : after.core.client = (before.core.client.deactivate cfg).1) :
      TrackingStep digests cfg before after event
  | hbp (event : HbpEvent) (draw : RtpDraw) (clock : Clock) (ipsc : after.ipsc = before.ipsc)
      (client : after.core.client = (before.core.client.step digests cfg event).1) :
      TrackingStep digests cfg before after (.hbp event draw clock)

/-- Every callback in TRACKING mode is such a step. -/
theorem Bridge.step_tracking (digests : Digests) (dmr : DmrUtils) {cfg : Config}
    (tracking : cfg.hbpMode = .tracking) {state : Bridge} (reported : state.ipsc.Reported)
    (event : BridgeEvent) :
    let after := (Bridge.step digests dmr cfg state event).1
    TrackingStep digests cfg state after event ∧ after.ipsc.Reported := by
  cases event with
  | drain ts clock =>
      exact ⟨.still (by simp) rfl (state.core.translate_client dmr tracking _), reported⟩
  | hbp event draw clock =>
      exact ⟨.hbp event draw clock rfl (Core.notify_client dmr tracking ..), reported⟩
  | ipsc event urandom clock =>
      have stepped : RegistrationStep state.ipsc.isPeerRegistered
          (state.ipsc.step digests cfg event).1.isPeerRegistered (state.ipsc.step digests cfg event).2 ∧
          (state.ipsc.step digests cfg event).1.Reported := by
        cases stack : state.ipsc with
        | master master => exact ⟨master.step_registration digests cfg event, trivial⟩
        | peer peer =>
            rw [stack] at reported
            exact IpscPeer.step_registration digests cfg reported event
      refine ⟨?_, stepped.2⟩
      simp only [Bridge.step]
      generalize state.ipsc.step digests cfg event = result at stepped
      rcases result with ⟨ipsc, outputs⟩
      rcases stepped with ⟨registration, -⟩
      cases registration with
      | same still quiet =>
          exact .still (by simp) still (deliver_client_quiet digests dmr tracking _ _ _ quiet _)
      | @gained _ back down up first last peerId host port =>
          have quiet : ∀ output ∈ back, ¬ output.IsRegistration := fun output member => by
            have plain := last output member
            cases output with
            | send | checkCallTimeouts => exact id
            | peerRegistered | peerLost | ipscVoiceReceived | raised => exact plain.elim
          have called (connected : Bool) : call connected urandom clock
              (.peerRegistered peerId host port) = some .peerRegistered := rfl
          exact .gained (by simp) down up
            (deliver_client_call digests dmr tracking urandom clock ipsc first quiet called state.core)
      | lost up down first =>
          have called (connected : Bool) : call connected urandom clock .peerLost = some .peerLost := rfl
          have quiet : ∀ output ∈ ([] : List IpscOutput), ¬ output.IsRegistration := by simp
          exact .lost (by simp) up down
            (deliver_client_call digests dmr tracking urandom clock ipsc first quiet called state.core)

end Ipsc2Hbp
