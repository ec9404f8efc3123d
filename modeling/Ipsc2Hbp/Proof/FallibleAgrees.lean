import Ipsc2Hbp.Proof.Datagrams
import Ipsc2Hbp.Proof.Layers

namespace Ipsc2Hbp
open BigEndian

namespace Core

/-- What the client does with the effects of a handler on one timeslot. -/
theorem obey_actions_log (cfg : Config) (client : HbpClient) (ts : Timeslot) (actions : List Action) :
    (obey cfg client (actions.map (Output.slot ts))).2 = actions.flatMap fun action =>
      .translator client.session (.slot ts action) ::
        (command cfg client (.slot ts action)).2.map (CoreOutput.hbp client.session) := by
  induction actions with
  | nil => rfl
  | cons action rest ih =>
      have still : (command cfg client (.slot ts action)).1 = client := by cases action <;> rfl
      rw [List.map_cons, obey, List.flatMap_cons, ← ih, still]
      rfl

/-- Effects that are no frames go to the log alone. -/
theorem obey_unsent (cfg : Config) (client : HbpClient) (ts : Timeslot) {actions : List Action}
    (unsent : ∀ dmrd, .sendDmrd dmrd ∉ actions) :
    (obey cfg client (actions.map (Output.slot ts))).2 =
      actions.map fun action => .translator client.session (.slot ts action) := by
  induction actions with
  | nil => rfl
  | cons action rest ih =>
      have later := ih fun dmrd member => unsent dmrd (List.mem_cons_of_mem _ member)
      cases action with
      | sendDmrd dmrd => exact absurd List.mem_cons_self (unsent dmrd)
      | openStream | generate | queueFull | slotBusy | sendToPeer | raised =>
          exact congrArg (_ :: ·) later

end Core

namespace Fallible
variable (digests : Digests) (dmr : DmrUtils) (cfg : Config)

/-- Over a sound socket the client's steps are its own. -/
theorem clientStep_sent {client : HbpClient} (sound : client.Sound) (event : HbpEvent) :
    clientStep digests cfg false client event = client.step digests cfg event := by
  cases event with
  | endpointCreated =>
      simp only [clientStep, HbpClient.step]
      split <;> rfl
  | connectionLost =>
      simp only [clientStep]
      split
      case isTrue => rfl
      case isFalse busy =>
        have absent : client.protocol = none := by
          by_contra some
          exact busy (sound.waiting some)
        simp only [HbpClient.step, absent]
  | datagramReceived data now => simp only [clientStep, datagramReceived_sent, HbpClient.step]
  | keepalive now => simp only [clientStep, keepalive_sent, HbpClient.step]
  | start | loopTop | endpointFailed | doneWaited | errorReceived => rfl

theorem command_sent (client : HbpClient) (output : Output) :
    command cfg false client output = Core.command cfg client output := by
  cases output with
  | activate | raised => rfl
  | deactivate =>
      have same : disconnect cfg false true = fun proto => proto.disconnect cfg true :=
        funext fun proto => disconnect_sent cfg proto true
      simp only [command, deactivate, same, Core.command, HbpClient.deactivate]
  | slot ts action =>
      cases action with
      | sendDmrd dmrd =>
          simp only [command, HbpClient.onProtocol, Core.command, HbpClient.sendDmrd, sendDmrd_sent]
          cases present : client.protocol with
          | none => rfl
          | some proto => simp only [← present]
      | openStream | generate | queueFull | slotBusy | sendToPeer | raised => rfl

/-- A call that succeeds tells the translator nothing and stays in its session. -/
theorem command_unnoticed (client : HbpClient) (output : Output) :
    .hbpDisconnected ∉ (Core.command cfg client output).2 ∧
      (Core.command cfg client output).1.session = client.session := by
  cases output with
  | raised => exact ⟨by simp [Core.command], rfl⟩
  | activate =>
      rw [Core.command, HbpClient.activate_outputs]
      refine ⟨by split <;> simp, ?_⟩
      unfold HbpClient.activate
      split
      · rfl
      · dsimp only
        split_ifs <;> rfl
  | deactivate =>
      rw [Core.command]
      unfold HbpClient.deactivate HbpClient.onProtocol
      split
      · exact ⟨by simp, rfl⟩
      · dsimp only
        split
        · exact ⟨by simp, rfl⟩
        · refine ⟨fun member => ?_, rfl⟩
          obtain ⟨data, same⟩ := disconnect_plain cfg true _ _ member
          cases same
  | slot ts action =>
      cases action with
      | sendDmrd dmrd =>
          refine ⟨fun member => ?_, rfl⟩
          rcases sendDmrd_cases client dmrd with silent | sent
          · simp [Core.command, silent] at member
          · simp [Core.command, sent] at member
      | openStream | generate | queueFull | slotBusy | sendToPeer | raised =>
          exact ⟨by simp [Core.command], rfl⟩

theorem tell_unnoticed {outputs : List HbpOutput} (unnoticed : .hbpDisconnected ∉ outputs)
    (core : Core) :
    tell dmr cfg core outputs = (core, outputs.map (CoreOutput.hbp core.client.session)) := by
  induction outputs with
  | nil => rfl
  | cons output rest ih =>
      have other : output ≠ .hbpDisconnected := fun same => unnoticed (same ▸ List.mem_cons_self)
      have later := ih fun member => unnoticed (List.mem_cons_of_mem _ member)
      simp only [tell, if_neg other, later, List.nil_append, List.map_cons]

theorem obey_sent (core : Core) (output : Output) :
    obey dmr cfg false core output =
      ({ core with client := (Core.command cfg core.client output).1 },
        .translator core.client.session output ::
          (Core.command cfg core.client output).2.map (CoreOutput.hbp core.client.session)) := by
  obtain ⟨unnoticed, session⟩ := command_unnoticed cfg core.client output
  simp only [obey, command_sent, tell_unnoticed dmr cfg unnoticed, session]

theorem obeyAll_sent (core : Core) (outputs : List Output) :
    obeyAll dmr cfg false core outputs =
      ({ core with client := (Core.obey cfg core.client outputs).1 },
        (Core.obey cfg core.client outputs).2) := by
  induction outputs generalizing core with
  | nil => rfl
  | cons output rest ih => simp only [obeyAll, obey_sent, ih, Core.obey, List.cons_append]

theorem translate_sent (event : Event) (core : Core) :
    translate dmr cfg false event core = core.translate dmr cfg event := obeyAll_sent dmr cfg _ _

section Loop
variable {ts : Timeslot} {srcSub dstGroup : Bytes} {flags : UInt8} {payload : Bytes}

/-- The send loop sends its copies one after the other. -/
theorem sendFrames_sent {core : Core} {streamId : Bytes}
    (opened : (core.translator.slot ts).outCall.streamId = some streamId) (count index : Nat) :
    sendFrames dmr cfg (fun _ => false) ts srcSub dstGroup flags payload count index core =
      ({ core with
          translator.shared.outSeq := core.translator.shared.outSeq + UInt8.ofNat count },
        (Core.obey cfg core.client ((Ipsc2Hbp.sendFrames (fun seq => dmrdFrame cfg seq srcSub dstGroup
          flags streamId payload) count core.translator.shared.outSeq).map (Output.slot ts))).2,
        true) := by
  induction count generalizing core index with
  | zero =>
      have same : core.translator.shared.outSeq + UInt8.ofNat 0 = core.translator.shared.outSeq :=
        UInt8.add_zero _
      simp only [sendFrames, Ipsc2Hbp.sendFrames, same]
      rfl
  | succ count ih =>
      have seq : core.translator.shared.outSeq + 1 + UInt8.ofNat count =
          core.translator.shared.outSeq + UInt8.ofNat (count + 1) := by
        rw [UInt8.ofNat_add, UInt8.add_assoc, UInt8.add_comm 1]
        rfl
      have rest := @ih { core with translator.shared.outSeq := core.translator.shared.outSeq + 1 }
        opened (index + 1)
      have kept : (Core.command cfg core.client (.slot ts (.sendDmrd (dmrdFrame cfg
          core.translator.shared.outSeq srcSub dstGroup flags streamId payload)))).1 = core.client := rfl
      simp only [sendFrames, opened, obey_sent, kept, rest, seq, Ipsc2Hbp.sendFrames, List.map_cons,
        Core.obey, List.cons_append]

end Loop

/-- A burst is sent, and the call ended, as over a sound socket. -/
theorem sendBurst_sent (ts : Timeslot) (srcSub dstGroup : Bytes) {burstType : UInt8} (now : Time)
    (core : Core) {slot : Slot} {burst : Burst} (made : BurstMade cfg burstType slot burst) :
    let result := Ipsc2Hbp.sendBurst cfg ts srcSub dstGroup burstType now core.translator.shared burst
    sendBurst dmr cfg (fun _ => false) ts srcSub dstGroup burstType now core burst =
      (⟨⟨result.1, Function.update core.translator.slot ts result.2.1⟩, core.client⟩,
        (Core.obey cfg core.client (result.2.2.map (Output.slot ts))).2) := by
  intro result
  cases made with
  | done made =>
      simp only [result, sendBurst, Ipsc2Hbp.sendBurst, putSlot, Core.obey_unsent cfg core.client ts
        made.unsent]
  | framed made =>
      obtain ⟨streamId, opened⟩ := made.opened
      rename_i after actions payload flags
      have put : ((putSlot ts after core).translator.slot ts).outCall.streamId = some streamId := by
        simp [putSlot, opened]
      have unsent : ∀ dmrd, .sendDmrd dmrd ∉ actions := fun dmrd member => by
        obtain ⟨other, lc, same⟩ := made.quiet _ member
        cases same
      have log (frames : List Action) : (Core.obey cfg core.client
          ((actions ++ frames).map (Output.slot ts))).2 =
          actions.map (fun action => .translator core.client.session (.slot ts action)) ++
            (Core.obey cfg core.client (frames.map (Output.slot ts))).2 := by
        rw [Core.obey_actions_log, List.flatMap_append, ← Core.obey_actions_log,
          ← Core.obey_actions_log, Core.obey_unsent cfg core.client ts unsent]
      simp only [result, sendBurst, Ipsc2Hbp.sendBurst, opened, sendFrames_sent dmr cfg put, log]
      by_cases term : burstType = voiceTerm
      · simp [term, putSlot]
      · simp [term, putSlot]

theorem ipscVoiceReceived_sent (data : Bytes) (ts : Timeslot) (burstType : UInt8) (urandom : StreamId)
    (clock : Clock) (core : Core) :
    ipscVoiceReceived dmr cfg (fun _ => false) data ts burstType urandom clock core =
      core.translate dmr cfg
        (.ipscVoice core.client.isConnected data ts burstType urandom clock) := by
  have kept (actions : List Action) :
      (Core.obey cfg core.client (actions.map (Output.slot ts))).1 = core.client :=
    Core.obey_actions_client cfg core.client ts actions
  cases connected : core.client.isConnected with
  | false =>
      simp [ipscVoiceReceived, connected, Core.translate, Translator.step, Translator.onSlot,
        Ipsc2Hbp.ipscVoiceReceived, Core.obey]
  | true =>
      simp only [Core.translate, Translator.step, Translator.onSlot, Ipsc2Hbp.ipscVoiceReceived_eq,
        ipscVoiceReceived_eq dmr cfg _ data ts burstType urandom clock connected]
      cases dropped : (ipscGate cfg data burstType clock (core.translator.slot ts)).1 with
      | true => rfl
      | false =>
          have made := burstOf_made dmr cfg data (gvSrcSub data) (gvDstGroup data) burstType urandom
            (ipscGate cfg data burstType clock (core.translator.slot ts)).2
          simp only [Bool.false_eq_true, if_false, kept]
          exact sendBurst_sent dmr cfg ts _ _ _ _ made

theorem answer_sent (urandom : StreamId) (clock : Clock) (core : Core) (output : IpscOutput) :
    answer dmr cfg (fun _ => false) urandom clock core output =
      Bridge.answer dmr cfg urandom clock core output := by
  cases output with
  | ipscVoiceReceived data ts burstType =>
      exact ipscVoiceReceived_sent dmr cfg data ts burstType urandom clock core
  | peerRegistered => exact translate_sent dmr cfg .peerRegistered core
  | peerLost => exact translate_sent dmr cfg .peerLost core
  | checkCallTimeouts => exact translate_sent dmr cfg (.checkCallTimeouts callTimeout clock) core
  | send | raised => rfl

theorem deliver_sent (urandom : StreamId) (clock : Clock) (ipsc : IpscStack) (core : Core)
    (outputs : List IpscOutput) :
    deliver digests dmr cfg (fun _ => false) urandom clock ipsc core outputs =
      Bridge.deliver digests dmr cfg urandom clock ipsc core outputs := by
  induction outputs generalizing core with
  | nil => rfl
  | cons output rest ih =>
      rw [Bridge.deliver_cons]
      simp only [deliver, answer_sent, ih]

/-- Over a sound socket a callback of the program is that of the bridge. -/
theorem step_sent {state : Bridge} (sound : state.core.client.Sound) (event : BridgeEvent) :
    step digests dmr cfg state event (fun _ => false) = Bridge.step digests dmr cfg state event := by
  cases event with
  | ipsc event urandom clock => simp only [step, deliver_sent, Bridge.step]
  | drain ts clock => rfl
  | hbp event draw clock =>
      simp only [step, clientStep_sent digests cfg sound, Bridge.step, Core.step]

end Fallible

/-- A run of the program whose sends all succeed is a run of the bridge. -/
theorem fallibleBridge_allSent (digests : Digests) (dmr : DmrUtils) (cfg : Config)
    (events : List BridgeEvent) :
    (fallibleBridge digests dmr cfg).run (Bridge.initial cfg) (allSent events) =
      (bridge digests dmr cfg).run (Bridge.initial cfg) events := by
  have sent (state : Bridge) (lawful : state.core.client.Lawful) :
      (fallibleBridge digests dmr cfg).run state (allSent events) =
        (bridge digests dmr cfg).run state events := by
    induction events generalizing state with
    | nil => rfl
    | cons event rest ih =>
        have step : (fallibleBridge digests dmr cfg).step state (event, fun _ => false) =
            (bridge digests dmr cfg).step state event :=
          Fallible.step_sent digests dmr cfg lawful.sound event
        have kept : ((bridge digests dmr cfg).step state event).1.core.client.Lawful :=
          (Bridge.step_drives digests dmr cfg state event).keeps HbpClient.Lawful
            (fun _ call _ lawful => lawful.step digests cfg call) lawful
        rw [allSent, List.map_cons, Mealy.run_cons, Mealy.run_cons, step]
        exact congrArg (fun tail : Bridge × List BridgeOutput => (tail.1, _ ++ tail.2)) (ih _ kept)
  exact sent (Bridge.initial cfg) HbpClient.lawful_initial

end Ipsc2Hbp
