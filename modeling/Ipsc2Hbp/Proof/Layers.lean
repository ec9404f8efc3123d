import Ipsc2Hbp.Proof.ClientLife

namespace Ipsc2Hbp
open BigEndian

/-- The effect of the translator that an effect of the program is, if any. -/
def CoreOutput.translated : CoreOutput → Option Output
  | .translator _ output => some output
  | .hbp .. => none

def BridgeOutput.translated : BridgeOutput → Option Output
  | .core output => output.translated
  | .ipsc _ => none

/-- The effect of the IPSC stack that an effect of the program is, if any. -/
def BridgeOutput.ipsc? : BridgeOutput → Option IpscOutput
  | .ipsc output => some output
  | .core _ => none

/-- The packets that the translator hands to the IPSC stack, each with its timeslot. -/
def handedOver (log : List Output) : List (Timeslot × QueueEntry) :=
  log.filterMap fun output => match output with
    | .slot ts (.sendToPeer entry) => some (ts, entry)
    | _ => none

/-- An effect of the HBP stack that is not the sending of a frame of the translator. -/
def HbpOutput.own : HbpOutput → Option HbpOutput
  | .sendDmrd _ => none
  | output => some output

def CoreOutput.session? : CoreOutput → Option HbpOutput
  | .hbp _ output => output.own
  | .translator .. => none

def BridgeOutput.session? : BridgeOutput → Option HbpOutput
  | .core output => output.session?
  | .ipsc _ => none

/-- The part of a callback that the IPSC stack sees. -/
def BridgeEvent.ipsc? : BridgeEvent → Option IpscEvent
  | .ipsc event .. => some event
  | .drain .. | .hbp .. => none

/-- The IPSC stack of either mode as a machine over its callbacks. -/
def ipscStack (digests : Digests) (cfg : Config) : Mealy IpscStack IpscEvent IpscOutput where
  step stack event := stack.step digests cfg event

/-- Some allowed callbacks take the translator from one state to another with these effects. -/
def Translates (dmr : DmrUtils) (cfg : Config) (allowed : Event → Prop) (before after : Translator)
    (log : List Output) : Prop :=
  ∃ calls, (∀ call ∈ calls, allowed call) ∧ (translator dmr cfg).run before calls = (after, log)

section Translates
variable {dmr : DmrUtils} {cfg : Config} {allowed : Event → Prop}

theorem Translates.refl (tr : Translator) : Translates dmr cfg allowed tr tr [] := ⟨[], by simp, rfl⟩

theorem Translates.trans {first second third : Translator} {one two : List Output}
    (before : Translates dmr cfg allowed first second one)
    (after : Translates dmr cfg allowed second third two) :
    Translates dmr cfg allowed first third (one ++ two) := by
  obtain ⟨earlier, good, ran⟩ := before
  obtain ⟨later, fine, follows⟩ := after
  refine ⟨earlier ++ later, fun call member => ?_, by rw [Mealy.run_append, ran, follows]⟩
  exact (List.mem_append.mp member).elim (good call) (fine call)

theorem Translates.step (tr : Translator) {event : Event} (good : allowed event) :
    Translates dmr cfg allowed tr (Translator.step dmr cfg tr event).1
      (Translator.step dmr cfg tr event).2 :=
  ⟨[event], by simpa using good, by rw [Mealy.run_cons, Mealy.run_nil, List.append_nil]; rfl⟩

theorem Translates.imp {more : Event → Prop} {before after : Translator} {log : List Output}
    (ran : Translates dmr cfg allowed before after log) (implies : ∀ call, allowed call → more call) :
    Translates dmr cfg more before after log := by
  obtain ⟨calls, good, ran⟩ := ran
  exact ⟨calls, fun call member => implies call (good call member), ran⟩

end Translates

/-- A call of the translator that brings a datagram from HBP or a packet from IPSC has its cause among
the callbacks and effects of the program. -/
def Event.Caused (events : List BridgeEvent) (log : List BridgeOutput) : Event → Prop
  | .ipscVoice _ data ts burstType .. => .ipsc (.ipscVoiceReceived data ts burstType) ∈ log
  | .hbpVoice _ dmrd .. => ∃ now draw clock, .hbp (.datagramReceived dmrd now) draw clock ∈ events
  | _ => True

theorem Event.Caused.mono {events events' : List BridgeEvent} {log log' : List BridgeOutput}
    {call : Event} (caused : call.Caused events log) (moreEvents : events ⊆ events')
    (moreLog : log ⊆ log') : call.Caused events' log' := by
  cases call with
  | ipscVoice => exact moreLog caused
  | hbpVoice =>
      obtain ⟨now, draw, clock, member⟩ := caused
      exact ⟨now, draw, clock, moreEvents member⟩
  | drain | checkCallTimeouts | peerRegistered | peerLost | hbpDisconnected => trivial

/-- Some allowed callbacks and calls take the HBP client from one state to another with these own
effects. -/
def Drives (digests : Digests) (cfg : Config) (allowed : ClientCall → Prop)
    (before after : HbpClient) (log : List HbpOutput) : Prop :=
  ∃ calls, (∀ call ∈ calls, allowed call) ∧ ((hbpClient digests cfg).run before calls).1 = after ∧
    ((hbpClient digests cfg).run before calls).2.filterMap HbpOutput.own = log

/-- The translator calls only these two. -/
def ClientCall.IsSwitch : ClientCall → Prop
  | .activate | .deactivate => True
  | .event _ => False

section Drives
variable {digests : Digests} {cfg : Config} {allowed : ClientCall → Prop}

theorem Drives.refl (client : HbpClient) : Drives digests cfg allowed client client [] :=
  ⟨[], by simp, rfl, rfl⟩

theorem Drives.trans {first second third : HbpClient} {one two : List HbpOutput}
    (before : Drives digests cfg allowed first second one)
    (after : Drives digests cfg allowed second third two) :
    Drives digests cfg allowed first third (one ++ two) := by
  obtain ⟨earlier, good, rfl, rfl⟩ := before
  obtain ⟨later, fine, rfl, rfl⟩ := after
  refine ⟨earlier ++ later, fun call member => ?_, by rw [Mealy.run_append],
    by rw [Mealy.run_append, List.filterMap_append]⟩
  exact (List.mem_append.mp member).elim (good call) (fine call)

theorem Drives.call (client : HbpClient) (call : ClientCall) (good : allowed call) :
    Drives digests cfg allowed client ((hbpClient digests cfg).step client call).1
      (((hbpClient digests cfg).step client call).2.filterMap HbpOutput.own) :=
  ⟨[call], by simpa using good, rfl, by rw [Mealy.run_cons, Mealy.run_nil, List.append_nil]⟩

/-- What every allowed call keeps is kept. -/
theorem Drives.keeps {before after : HbpClient} {log : List HbpOutput}
    (ran : Drives digests cfg allowed before after log) (predicate : HbpClient → Prop)
    (step : ∀ client call, allowed call → predicate client →
      predicate ((hbpClient digests cfg).step client call).1) (start : predicate before) :
    predicate after := by
  obtain ⟨calls, good, rfl, -⟩ := ran
  induction calls generalizing before with
  | nil => exact start
  | cons call rest ih =>
      rw [Mealy.run_cons]
      exact ih (step before call (good call List.mem_cons_self) start)
        (fun later member => good later (List.mem_cons_of_mem _ member))

theorem Drives.imp {more : ClientCall → Prop} {before after : HbpClient} {log : List HbpOutput}
    (ran : Drives digests cfg allowed before after log) (implies : ∀ call, allowed call → more call) :
    Drives digests cfg more before after log := by
  obtain ⟨calls, good, ran⟩ := ran
  exact ⟨calls, fun call member => implies call (good call member), ran⟩

end Drives

/-- An effect of the HBP stack that carries a voice frame. -/
def HbpOutput.IsVoice : HbpOutput → Prop
  | .sendDmrd _ | .hbpVoiceReceived _ => True
  | .send _ | .hbpConnected | .hbpDisconnected | .raised _ => False

section Brings
variable (digests : Digests) (cfg : Config) {output : HbpOutput}

theorem sendRaw_brings (bytes : Bytes) (proto : HbpProtocol) (member : output ∈ proto.sendRaw bytes) :
    ¬ output.IsVoice := by
  rw [sendRaw_plain bytes proto output member]
  exact id

theorem disconnect_brings (sendRptcl : Bool) (proto : HbpProtocol)
    (member : output ∈ (proto.disconnect cfg sendRptcl).2) : ¬ output.IsVoice := by
  obtain ⟨data, rfl⟩ := disconnect_plain cfg sendRptcl proto output member
  exact id

theorem onRptack_brings (data : Bytes) (now : Time) (proto : HbpProtocol)
    (member : output ∈ (proto.onRptack digests cfg data now).2) : ¬ output.IsVoice := by
  have raw (bytes : Bytes) (sent : output ∈ proto.sendRaw bytes) := sendRaw_brings bytes proto sent
  have up (connects : output ∈ (proto.becomeConnected now).2) : ¬ output.IsVoice := by
    rw [List.mem_singleton.mp connects]
    exact id
  unfold HbpProtocol.onRptack at member
  split at member
  case h_1 =>
    split at member
    · cases member
    · exact raw _ member
  case h_2 => exact raw _ member
  case h_3 =>
    split at member
    · exact raw _ member
    · exact up member
  case h_4 => exact up member
  case h_5 | h_6 => cases member

/-- A datagram is brought to the translator as it is. -/
theorem datagramReceived_brings {data : Bytes} {now : Time} {proto : HbpProtocol}
    (member : output ∈ (proto.datagramReceived digests cfg data now).2) (voice : output.IsVoice) :
    output = .hbpVoiceReceived data := by
  unfold HbpProtocol.datagramReceived at member
  split_ifs at member
  · cases member
  · exact absurd voice (onRptack_brings digests cfg data now proto member)
  · exact absurd voice (disconnect_brings cfg false proto member)
  · cases member
  · exact absurd voice (disconnect_brings cfg false proto member)
  · exact List.mem_singleton.mp member
  · cases member
  · cases member

theorem errorReceived_brings (proto : HbpProtocol) (member : output ∈ (proto.errorReceived cfg).2) :
    ¬ output.IsVoice := by
  unfold HbpProtocol.errorReceived at member
  split at member
  · cases member
  · rcases List.mem_append.mp member with notice | closed
    · split at notice
      · rw [List.mem_singleton.mp notice]
        exact id
      · cases notice
    · exact disconnect_brings cfg false proto closed

theorem keepalive_brings (now : Time) (proto : HbpProtocol)
    (member : output ∈ (proto.keepalive cfg now).2) : ¬ output.IsVoice := by
  unfold HbpProtocol.keepalive at member
  split at member
  · cases member
  · simp only at member
    split at member
    · rcases List.mem_append.mp member with front | closed
      · rcases List.mem_append.mp front with ping | notice
        · exact sendRaw_brings _ proto ping
        · rw [List.mem_singleton.mp notice]
          exact id
      · exact disconnect_brings cfg false proto closed
    · exact sendRaw_brings _ proto member

theorem activate_brings (client : HbpClient) (member : output ∈ client.activate.2) :
    ¬ output.IsVoice := by
  unfold HbpClient.activate at member
  split at member
  · cases member
  · simp only at member
    split at member
    · split at member
      · cases member
      · rw [List.mem_singleton.mp member]
        exact id
    · cases member

theorem deactivate_brings (client : HbpClient) (member : output ∈ (client.deactivate cfg).2) :
    ¬ output.IsVoice := by
  unfold HbpClient.deactivate HbpClient.onProtocol at member
  split at member
  · cases member
  · split at member
    · cases member
    · exact disconnect_brings cfg true _ member

/-- The only voice effect of a callback is a datagram that it has received. -/
theorem client_brings {client : HbpClient} {event : HbpEvent}
    (member : output ∈ (client.step digests cfg event).2) (voice : output.IsVoice) :
    ∃ dmrd now, event = .datagramReceived dmrd now ∧ output = .hbpVoiceReceived dmrd := by
  have proto {handler : HbpProtocol → HbpProtocol × List HbpOutput}
      (inside : output ∈ (client.onProtocol handler).2) : ∃ proto, output ∈ (handler proto).2 := by
    unfold HbpClient.onProtocol at inside
    split at inside
    · cases inside
    · exact ⟨_, inside⟩
  cases event with
  | start =>
      simp only [HbpClient.step, HbpClient.start] at member
      split at member
      · exact absurd voice (activate_brings _ member)
      · cases member
  | loopTop =>
      simp only [HbpClient.step] at member
      split at member <;> cases member
  | endpointCreated =>
      simp only [HbpClient.step] at member
      split at member
      · rw [List.mem_singleton.mp member] at voice
        exact voice.elim
      · cases member
  | endpointFailed | doneWaited => cases member
  | connectionLost =>
      simp only [HbpClient.step] at member
      split at member <;> cases member
  | errorReceived =>
      obtain ⟨other, inside⟩ := proto member
      exact absurd voice (errorReceived_brings cfg other inside)
  | datagramReceived data now =>
      obtain ⟨other, inside⟩ := proto member
      split at inside
      · exact ⟨data, now, rfl, datagramReceived_brings digests cfg inside voice⟩
      · cases inside
  | keepalive now =>
      obtain ⟨other, inside⟩ := proto member
      split at inside
      · exact absurd voice (keepalive_brings cfg now other inside)
      · cases inside

end Brings

namespace Core
variable (dmr : DmrUtils) (cfg : Config)

/-- The client adds no effect of the translator. -/
theorem obey_translated (client : HbpClient) (outputs : List Output) :
    (obey cfg client outputs).2.filterMap CoreOutput.translated = outputs := by
  induction outputs generalizing client with
  | nil => rfl
  | cons output rest ih =>
      have own (session : Nat) (sent : List HbpOutput) :
          (sent.map (CoreOutput.hbp session)).filterMap CoreOutput.translated = [] := by
        simp [List.filterMap_eq_nil_iff, CoreOutput.translated]
      simp only [obey, List.filterMap_cons, CoreOutput.translated, List.filterMap_append, own, ih,
        List.nil_append]

/-- One call of the translator. -/
theorem translate_translates {allowed : Event → Prop} {event : Event} (good : allowed event)
    (core : Core) :
    Translates dmr cfg allowed core.translator (core.translate dmr cfg event).1.translator
      ((core.translate dmr cfg event).2.filterMap CoreOutput.translated) := by
  have view : (core.translate dmr cfg event).2.filterMap CoreOutput.translated =
      (Translator.step dmr cfg core.translator event).2 := obey_translated ..
  rw [view]
  exact .step core.translator good

/-- The calls of the HBP stack in one callback. -/
theorem notify_translates {allowed : Event → Prop} (registered : Bool) (draw : RtpDraw) (clock : Clock)
    (outputs : List HbpOutput)
    (good : ∀ output ∈ outputs, ∀ event ∈ callback registered draw clock output, allowed event)
    (core : Core) :
    Translates dmr cfg allowed core.translator
      (notify dmr cfg registered draw clock core outputs).1.translator
      ((notify dmr cfg registered draw clock core outputs).2.filterMap CoreOutput.translated) := by
  induction outputs generalizing core with
  | nil => exact .refl core.translator
  | cons output rest ih =>
      have later := ih fun other member => good other (List.mem_cons_of_mem _ member)
      have first := good output List.mem_cons_self
      rw [notify]
      cases answered : callback registered draw clock output with
      | none =>
          dsimp only
          rw [List.filterMap_cons_none rfl, List.nil_append]
          exact later core
      | some event =>
          dsimp only
          rw [List.filterMap_cons_none rfl, List.filterMap_append]
          exact (core.translate_translates dmr cfg (first event answered)).trans (later _)

/-- The effects of the HBP stack in one callback, without the frames. -/
theorem filterMap_session (session : Nat) (outputs : List HbpOutput) :
    (outputs.map (CoreOutput.hbp session)).filterMap CoreOutput.session? =
      outputs.filterMap HbpOutput.own := by
  rw [List.filterMap_map]
  rfl

/-- The client obeys one call. -/
theorem command_drives (digests : Digests) (client : HbpClient) (output : Output) :
    Drives digests cfg ClientCall.IsSwitch client (command cfg client output).1
      ((command cfg client output).2.filterMap HbpOutput.own) := by
  cases output with
  | activate => exact .call client .activate trivial
  | deactivate => exact .call client .deactivate trivial
  | raised => exact .refl client
  | slot ts action =>
      cases action with
      | sendDmrd dmrd =>
          have none : (client.sendDmrd dmrd).filterMap HbpOutput.own = [] := by
            rcases sendDmrd_cases client dmrd with silent | sent
            · rw [silent]; rfl
            · rw [sent]; rfl
          simp only [command, none]
          exact .refl client
      | openStream | generate | queueFull | slotBusy | sendToPeer | raised => exact .refl client

/-- The client obeys the calls of one callback of the translator. -/
theorem obey_drives (digests : Digests) (client : HbpClient) (outputs : List Output) :
    Drives digests cfg ClientCall.IsSwitch client (obey cfg client outputs).1
      ((obey cfg client outputs).2.filterMap CoreOutput.session?) := by
  induction outputs generalizing client with
  | nil => exact .refl client
  | cons output rest ih =>
      rw [obey]
      dsimp only
      rw [List.filterMap_cons_none rfl, List.filterMap_append, filterMap_session]
      exact (command_drives cfg digests client output).trans (ih _)

/-- What the translator answers to the HBP stack is no call to the client. -/
theorem callback_quiet {registered : Bool} {draw : RtpDraw} {clock : Clock}
    {output : HbpOutput} {event : Event} (answered : callback registered draw clock output = some event)
    (core : Core) :
    (core.translate dmr cfg event).1.client = core.client ∧
      (core.translate dmr cfg event).2.filterMap CoreOutput.session? = [] := by
  have onSlot (ts : Timeslot) (actions : List Action) :
      (obey cfg core.client (actions.map (Output.slot ts))).1 = core.client ∧
        (obey cfg core.client (actions.map (Output.slot ts))).2.filterMap CoreOutput.session? = [] := by
    refine ⟨obey_actions_client .., ?_⟩
    induction actions with
    | nil => rfl
    | cons action rest ih =>
        have none : (command cfg core.client (.slot ts action)).2.filterMap HbpOutput.own = [] := by
          cases action with
          | sendDmrd dmrd =>
              rcases sendDmrd_cases core.client dmrd with silent | sent
              · rw [command, silent]; rfl
              · rw [command, sent]; rfl
          | openStream | generate | queueFull | slotBusy | sendToPeer | raised => rfl
        have same : (command cfg core.client (.slot ts action)).1 = core.client := by
          cases action <;> rfl
        rw [List.map_cons, obey]
        dsimp only
        rw [List.filterMap_cons_none rfl, List.filterMap_append, filterMap_session, none, same, ih]
        rfl
  cases output with
  | hbpDisconnected =>
      obtain rfl := Option.some.inj answered
      exact ⟨rfl, rfl⟩
  | hbpVoiceReceived dmrd =>
      obtain rfl := Option.some.inj answered
      simp only [translate, Translator.step, hbpVoiceReceived_eq]
      cases acceptedFrame registered dmrd with
      | none => exact ⟨rfl, rfl⟩
      | some frame => exact onSlot ..
  | send | sendDmrd | hbpConnected | raised => cases answered

/-- The answers to the HBP stack leave the client alone. -/
theorem notify_session (registered : Bool) (draw : RtpDraw) (clock : Clock)
    (outputs : List HbpOutput) (core : Core) :
    (notify dmr cfg registered draw clock core outputs).1.client = core.client ∧
      (notify dmr cfg registered draw clock core outputs).2.filterMap CoreOutput.session? =
        outputs.filterMap HbpOutput.own := by
  induction outputs generalizing core with
  | nil => exact ⟨rfl, rfl⟩
  | cons output rest ih =>
      have shows (tail : List CoreOutput) :
          (CoreOutput.hbp core.client.session output :: tail).filterMap CoreOutput.session? =
            [output].filterMap HbpOutput.own ++ tail.filterMap CoreOutput.session? := by
        rw [← filterMap_session core.client.session, ← List.filterMap_append]
        rfl
      have rest_shows : (output :: rest).filterMap HbpOutput.own =
          [output].filterMap HbpOutput.own ++ rest.filterMap HbpOutput.own := by
        rw [← List.filterMap_append]
        rfl
      rw [notify, rest_shows]
      dsimp only
      rw [shows, List.filterMap_append]
      cases answered : callback registered draw clock output with
      | none =>
          obtain ⟨client, view⟩ := ih core
          exact ⟨client, by rw [view]; rfl⟩
      | some event =>
          obtain ⟨same, silent⟩ := callback_quiet dmr cfg answered core
          obtain ⟨client, view⟩ := ih (core.translate dmr cfg event).1
          exact ⟨client.trans same, by dsimp only; rw [view, silent, List.nil_append]⟩

end Core

namespace Bridge
variable (digests : Digests) (dmr : DmrUtils) (cfg : Config)

/-- What the stack sends for an effect of the translator. -/
def passedOn (digests : Digests) (cfg : Config) (ipsc : IpscStack) : CoreOutput → List IpscOutput
  | .translator _ (.slot _ (.sendToPeer entry)) => ipsc.sendToPeer digests cfg entry.packet
  | _ => []

theorem forward_cons (ipsc : IpscStack) (output : CoreOutput) (rest : List CoreOutput) :
    forward digests cfg ipsc (output :: rest) =
      .core output :: ((passedOn digests cfg ipsc output).map BridgeOutput.ipsc ++
        forward digests cfg ipsc rest) := by
  unfold forward
  rw [List.flatMap_cons, List.cons_append]
  congr 2
  cases output with
  | hbp => rfl
  | translator session output =>
      cases output with
      | slot ts action => cases action <;> rfl
      | raised | activate | deactivate => rfl

/-- Sending what the translator hands over adds no effect of the translator. -/
theorem forward_translated (ipsc : IpscStack) (log : List CoreOutput) :
    (forward digests cfg ipsc log).filterMap BridgeOutput.translated =
      log.filterMap CoreOutput.translated := by
  induction log with
  | nil => rfl
  | cons output rest ih =>
      have sends : ((passedOn digests cfg ipsc output).map BridgeOutput.ipsc).filterMap
          BridgeOutput.translated = [] := by
        simp [List.filterMap_eq_nil_iff, BridgeOutput.translated]
      rw [forward_cons, List.filterMap_cons, List.filterMap_append, sends, ih, List.nil_append,
        List.filterMap_cons]
      rfl

/-- The translator's answer to one effect of the stack. -/
def answer (dmr : DmrUtils) (cfg : Config) (urandom : StreamId) (clock : Clock) (core : Core)
    (output : IpscOutput) : Core × List CoreOutput :=
  match call core.client.isConnected urandom clock output with
  | none => (core, [])
  | some event => core.translate dmr cfg event

theorem deliver_cons (urandom : StreamId) (clock : Clock) (ipsc : IpscStack) (core : Core)
    (output : IpscOutput) (rest : List IpscOutput) :
    deliver digests dmr cfg urandom clock ipsc core (output :: rest) =
      let first := answer dmr cfg urandom clock core output
      let answered := BridgeOutput.ipsc output :: forward digests cfg ipsc first.2
      let tail := deliver digests dmr cfg urandom clock ipsc first.1 rest
      if answered.any BridgeOutput.isRaised then (first.1, answered)
      else (tail.1, answered ++ tail.2) := rfl

/-- The call that an effect of the stack is, is caused by this effect. -/
theorem call_caused {connected : Bool} {urandom : StreamId} {clock : Clock} {output : IpscOutput}
    {event : Event} (called : call connected urandom clock output = some event)
    {log : List BridgeOutput} (shown : .ipsc output ∈ log) : event.Caused [] log := by
  cases output with
  | send | raised => cases called
  | ipscVoiceReceived =>
      obtain rfl := Option.some.inj called
      exact shown
  | peerRegistered | peerLost | checkCallTimeouts =>
      obtain rfl := Option.some.inj called
      trivial

theorem answer_translates (urandom : StreamId) (clock : Clock) (core : Core) {output : IpscOutput}
    {log : List BridgeOutput} (shown : .ipsc output ∈ log) :
    Translates dmr cfg (Event.Caused [] log) core.translator
      (answer dmr cfg urandom clock core output).1.translator
      ((answer dmr cfg urandom clock core output).2.filterMap CoreOutput.translated) := by
  unfold answer
  cases called : call core.client.isConnected urandom clock output with
  | none => exact .refl core.translator
  | some event => exact core.translate_translates dmr cfg (call_caused called shown)

/-- The calls of one IPSC callback. -/
theorem deliver_translates (urandom : StreamId) (clock : Clock) (ipsc : IpscStack)
    (outputs : List IpscOutput) (core : Core) :
    Translates dmr cfg (Event.Caused [] (deliver digests dmr cfg urandom clock ipsc core outputs).2)
      core.translator (deliver digests dmr cfg urandom clock ipsc core outputs).1.translator
      ((deliver digests dmr cfg urandom clock ipsc core outputs).2.filterMap
        BridgeOutput.translated) := by
  induction outputs generalizing core with
  | nil => exact .refl core.translator
  | cons output rest ih =>
      have shown : BridgeOutput.ipsc output ∈ .ipsc output ::
          forward digests cfg ipsc (answer dmr cfg urandom clock core output).2 := List.mem_cons_self
      have first := answer_translates dmr cfg urandom clock core shown
      rw [← forward_translated digests cfg ipsc] at first
      rw [deliver_cons]
      dsimp only
      split
      · exact first
      · rw [List.cons_append, List.filterMap_cons_none rfl, List.filterMap_append]
        exact (first.imp fun _ caused => caused.mono (fun _ => id) (List.subset_append_left ..)).trans
          ((ih _).imp fun _ caused => caused.mono (fun _ => id) (List.subset_append_right ..))

/-- One callback of the program. -/
theorem step_translates (state : Bridge) (event : BridgeEvent) :
    Translates dmr cfg (Event.Caused [event] (Bridge.step digests dmr cfg state event).2)
      state.core.translator (Bridge.step digests dmr cfg state event).1.core.translator
      ((Bridge.step digests dmr cfg state event).2.filterMap BridgeOutput.translated) := by
  cases event with
  | ipsc event urandom clock =>
      exact (deliver_translates digests dmr cfg urandom clock _ _ _).imp fun _ caused =>
        caused.mono (by simp) fun _ => id
  | drain ts clock =>
      simp only [Bridge.step, forward_translated]
      exact state.core.translate_translates dmr cfg trivial
  | hbp event draw clock =>
      have good : ∀ output ∈ (state.core.client.step digests cfg event).2,
          ∀ call ∈ Core.callback state.ipsc.isPeerRegistered draw clock output, call.Caused
            [.hbp event draw clock] (Bridge.step digests dmr cfg state (.hbp event draw clock)).2 := by
        intro output member call called
        cases output with
        | hbpDisconnected =>
            obtain rfl := Option.some.inj called
            trivial
        | hbpVoiceReceived dmrd =>
            obtain rfl := Option.some.inj called
            obtain ⟨_, now, rfl, same⟩ := client_brings digests cfg member trivial
            obtain rfl := HbpOutput.hbpVoiceReceived.inj same
            exact ⟨now, draw, clock, List.mem_singleton_self _⟩
        | send | sendDmrd | hbpConnected | raised => cases called
      have answered := Core.notify_translates dmr cfg state.ipsc.isPeerRegistered draw clock
        (state.core.client.step digests cfg event).2 good
        { state.core with client := (state.core.client.step digests cfg event).1 }
      simpa only [Bridge.step, forward_translated, Core.step] using answered

/-- Sending what the translator hands over adds no effect of the HBP stack. -/
theorem forward_session (ipsc : IpscStack) (log : List CoreOutput) :
    (forward digests cfg ipsc log).filterMap BridgeOutput.session? =
      log.filterMap CoreOutput.session? := by
  induction log with
  | nil => rfl
  | cons output rest ih =>
      have sends : ((passedOn digests cfg ipsc output).map BridgeOutput.ipsc).filterMap
          BridgeOutput.session? = [] := by
        simp [List.filterMap_eq_nil_iff, BridgeOutput.session?]
      rw [forward_cons, List.filterMap_cons, List.filterMap_append, sends, ih, List.nil_append,
        List.filterMap_cons]
      rfl

/-- The calls to the client in one IPSC callback. -/
theorem deliver_drives (urandom : StreamId) (clock : Clock) (ipsc : IpscStack)
    (outputs : List IpscOutput) (core : Core) :
    Drives digests cfg ClientCall.IsSwitch core.client
      (deliver digests dmr cfg urandom clock ipsc core outputs).1.client
      ((deliver digests dmr cfg urandom clock ipsc core outputs).2.filterMap
        BridgeOutput.session?) := by
  induction outputs generalizing core with
  | nil => exact .refl core.client
  | cons output rest ih =>
      have first : Drives digests cfg ClientCall.IsSwitch core.client
          (answer dmr cfg urandom clock core output).1.client
          ((answer dmr cfg urandom clock core output).2.filterMap CoreOutput.session?) := by
        unfold answer
        cases call core.client.isConnected urandom clock output with
        | none => exact .refl core.client
        | some event => exact Core.obey_drives cfg digests core.client _
      rw [← forward_session digests cfg ipsc] at first
      rw [deliver_cons]
      dsimp only
      split
      · exact first
      · rw [List.cons_append, List.filterMap_cons_none rfl, List.filterMap_append]
        exact first.trans (ih _)

/-- A callback of the HBP client is its own step. -/
theorem step_hbp (state : Bridge) (event : HbpEvent) (draw : RtpDraw) (clock : Clock) :
    (Bridge.step digests dmr cfg state (.hbp event draw clock)).1.core.client =
        (state.core.client.step digests cfg event).1 ∧
      (Bridge.step digests dmr cfg state (.hbp event draw clock)).2.filterMap BridgeOutput.session? =
        (state.core.client.step digests cfg event).2.filterMap HbpOutput.own := by
  obtain ⟨client, view⟩ := Core.notify_session dmr cfg state.ipsc.isPeerRegistered draw clock
    (state.core.client.step digests cfg event).2
    { state.core with client := (state.core.client.step digests cfg event).1 }
  simp only [Bridge.step, forward_session, Core.step]
  exact ⟨client, view⟩

/-- In the other callbacks the translator switches the client on and off. -/
theorem step_switches (state : Bridge) (event : BridgeEvent)
    (other : ∀ inner draw clock, event ≠ .hbp inner draw clock) :
    Drives digests cfg ClientCall.IsSwitch state.core.client
      (Bridge.step digests dmr cfg state event).1.core.client
      ((Bridge.step digests dmr cfg state event).2.filterMap BridgeOutput.session?) := by
  cases event with
  | ipsc event urandom clock => exact deliver_drives digests dmr cfg urandom clock _ _ _
  | drain ts clock =>
      simp only [Bridge.step, forward_session]
      exact Core.obey_drives cfg digests state.core.client _
  | hbp event draw clock => exact absurd rfl (other event draw clock)

/-- The calls to the client and its own callback. -/
theorem step_drives (state : Bridge) (event : BridgeEvent) :
    Drives digests cfg (fun _ => True) state.core.client
      (Bridge.step digests dmr cfg state event).1.core.client
      ((Bridge.step digests dmr cfg state event).2.filterMap BridgeOutput.session?) := by
  cases event with
  | ipsc | drain =>
      refine (step_switches digests dmr cfg state _ ?_).imp fun _ _ => trivial
      intro inner draw clock same
      cases same
  | hbp event draw clock =>
      obtain ⟨client, view⟩ := step_hbp digests dmr cfg state event draw clock
      rw [client, view]
      exact .call state.core.client (.event event) trivial

/-- The stack takes its own callbacks and no others. -/
theorem step_ipsc (state : Bridge) (event : BridgeEvent) :
    (Bridge.step digests dmr cfg state event).1.ipsc =
      ((ipscStack digests cfg).run state.ipsc event.ipsc?.toList).1 := by
  cases event <;> rfl

/-- What is sent towards IPSC for the translator is a packet that it has handed over. -/
theorem forward_ipsc {ipsc : IpscStack} {log : List CoreOutput} {output : IpscOutput}
    (member : .ipsc output ∈ forward digests cfg ipsc log) :
    ∃ ts entry, (ts, entry) ∈ handedOver (log.filterMap CoreOutput.translated) ∧
      output ∈ ipsc.sendToPeer digests cfg entry.packet := by
  induction log with
  | nil => cases member
  | cons first rest ih =>
      have later (found : ∃ ts entry, (ts, entry) ∈
            handedOver (rest.filterMap CoreOutput.translated) ∧
              output ∈ ipsc.sendToPeer digests cfg entry.packet) :
          ∃ ts entry, (ts, entry) ∈ handedOver ((first :: rest).filterMap CoreOutput.translated) ∧
            output ∈ ipsc.sendToPeer digests cfg entry.packet := by
        obtain ⟨ts, entry, handed, sent⟩ := found
        refine ⟨ts, entry, ?_, sent⟩
        have sub : (rest.filterMap CoreOutput.translated).Sublist
            ((first :: rest).filterMap CoreOutput.translated) :=
          (List.sublist_cons_self first rest).filterMap _
        exact (sub.filterMap _).mem handed
      rw [forward_cons] at member
      simp only [List.mem_cons, reduceCtorEq, List.mem_append, false_or] at member
      rcases member with here | there
      · obtain ⟨sent, passed, same⟩ := List.mem_map.mp here
        obtain rfl := BridgeOutput.ipsc.inj same
        unfold passedOn at passed
        split at passed
        case h_1 session ts entry => exact ⟨ts, entry, List.mem_cons_self, passed⟩
        case h_2 => cases passed
      · exact later (ih there)

/-- The effects of one IPSC callback are the stack's own or pass on what the translator hands over. -/
theorem deliver_ipsc (urandom : StreamId) (clock : Clock) (ipsc : IpscStack)
    {outputs : List IpscOutput} {core : Core} {output : IpscOutput}
    (member : .ipsc output ∈ (deliver digests dmr cfg urandom clock ipsc core outputs).2) :
    output ∈ outputs ∨ ∃ ts entry, (ts, entry) ∈ handedOver
        ((deliver digests dmr cfg urandom clock ipsc core outputs).2.filterMap
          BridgeOutput.translated) ∧
      output ∈ ipsc.sendToPeer digests cfg entry.packet := by
  induction outputs generalizing core with
  | nil => cases member
  | cons first rest ih =>
      rw [deliver_cons] at member ⊢
      dsimp only at member ⊢
      split at member
      case isTrue raised =>
        rw [if_pos raised]
        rcases List.mem_cons.mp member with same | passed
        · exact .inl (BridgeOutput.ipsc.inj same ▸ List.mem_cons_self)
        · obtain ⟨ts, entry, handed, sent⟩ := forward_ipsc digests cfg passed
          refine .inr ⟨ts, entry, ?_, sent⟩
          rw [List.filterMap_cons_none rfl, forward_translated]
          exact handed
      case isFalse quiet =>
        rw [if_neg quiet, List.cons_append, List.filterMap_cons_none rfl, List.filterMap_append,
          forward_translated]
        rcases List.mem_append.mp member with here | there
        · rcases List.mem_cons.mp here with same | passed
          · exact .inl (BridgeOutput.ipsc.inj same ▸ List.mem_cons_self)
          · obtain ⟨ts, entry, handed, sent⟩ := forward_ipsc digests cfg passed
            exact .inr ⟨ts, entry, by
              rw [handedOver, List.filterMap_append]; exact List.mem_append_left _ handed, sent⟩
        · rcases ih there with own | ⟨ts, entry, handed, sent⟩
          · exact .inl (List.mem_cons_of_mem _ own)
          · exact .inr ⟨ts, entry, by
              rw [handedOver, List.filterMap_append]; exact List.mem_append_right _ handed, sent⟩

/-- The IPSC effects of one callback of the program. -/
theorem step_ipsc_effects {state : Bridge} {event : BridgeEvent} {output : IpscOutput}
    (member : .ipsc output ∈ (Bridge.step digests dmr cfg state event).2) :
    output ∈ ((ipscStack digests cfg).run state.ipsc event.ipsc?.toList).2 ∨
      ∃ ts entry, (ts, entry) ∈ handedOver
          ((Bridge.step digests dmr cfg state event).2.filterMap BridgeOutput.translated) ∧
        output ∈ (Bridge.step digests dmr cfg state event).1.ipsc.sendToPeer digests cfg
          entry.packet := by
  cases event with
  | ipsc event urandom clock =>
      have own : ((ipscStack digests cfg).run state.ipsc [event]).2 =
          (state.ipsc.step digests cfg event).2 := by
        rw [Mealy.run_cons, Mealy.run_nil, List.append_nil]
        rfl
      rw [BridgeEvent.ipsc?, Option.toList_some, own]
      exact deliver_ipsc digests dmr cfg urandom clock _ member
  | drain ts clock =>
      obtain ⟨slot, entry, handed, sent⟩ := forward_ipsc digests cfg member
      refine .inr ⟨slot, entry, ?_, sent⟩
      simp only [Bridge.step, forward_translated]
      exact handed
  | hbp event draw clock =>
      obtain ⟨slot, entry, handed, sent⟩ := forward_ipsc digests cfg member
      refine .inr ⟨slot, entry, ?_, sent⟩
      simp only [Bridge.step, forward_translated]
      exact handed

/-- What a run shows of the translator is a run of the translator. -/
theorem run_translates (state : Bridge) (events : List BridgeEvent) :
    Translates dmr cfg (Event.Caused events ((bridge digests dmr cfg).run state events).2)
      state.core.translator ((bridge digests dmr cfg).run state events).1.core.translator
      (((bridge digests dmr cfg).run state events).2.filterMap BridgeOutput.translated) := by
  induction events generalizing state with
  | nil => exact .refl state.core.translator
  | cons event rest ih =>
      rw [Mealy.run_cons, List.filterMap_append]
      exact ((step_translates digests dmr cfg state event).imp fun _ caused =>
          caused.mono (by simp) (List.subset_append_left ..)).trans
        ((ih _).imp fun _ caused =>
          caused.mono (List.subset_cons_self ..) (List.subset_append_right ..))

/-- What a run shows of the HBP client is a run of the client. -/
theorem run_drives (state : Bridge) (events : List BridgeEvent) :
    Drives digests cfg (fun _ => True) state.core.client
      ((bridge digests dmr cfg).run state events).1.core.client
      (((bridge digests dmr cfg).run state events).2.filterMap BridgeOutput.session?) := by
  induction events generalizing state with
  | nil => exact .refl state.core.client
  | cons event rest ih =>
      rw [Mealy.run_cons, List.filterMap_append]
      exact (step_drives digests dmr cfg state event).trans (ih _)

/-- The stack runs over its own callbacks. -/
theorem run_ipsc (state : Bridge) (events : List BridgeEvent) :
    ((bridge digests dmr cfg).run state events).1.ipsc =
      ((ipscStack digests cfg).run state.ipsc (events.filterMap BridgeEvent.ipsc?)).1 := by
  induction events generalizing state with
  | nil => rfl
  | cons event rest ih =>
      have split : (event :: rest).filterMap BridgeEvent.ipsc? =
          event.ipsc?.toList ++ rest.filterMap BridgeEvent.ipsc? := by
        cases event <;> rfl
      rw [Mealy.run_cons, split, Mealy.run_append, ← step_ipsc digests dmr cfg]
      exact ih _

/-- A packet of the translator leaves signed, towards some address. -/
theorem sendToPeer_signed {ipsc : IpscStack} {packet : Bytes} {output : IpscOutput}
    (sent : output ∈ ipsc.sendToPeer digests cfg packet) :
    ∃ host port, output = .send (packet ++ authSuffix digests cfg packet) host port := by
  have signed {transport : Bool} {host : String} {port : UInt16}
      (sent : output ∈ ipscSend digests cfg transport packet host port) :
      ∃ host port, output = .send (packet ++ authSuffix digests cfg packet) host port := by
    unfold ipscSend at sent
    split at sent
    · exact ⟨host, port, List.mem_singleton.mp sent⟩
    · cases sent
  cases ipsc with
  | master master =>
      simp only [IpscStack.sendToPeer, IpscMaster.sendToPeer] at sent
      split at sent
      · split at sent
        · cases sent
        · exact signed sent
      · cases sent
  | peer peer =>
      simp only [IpscStack.sendToPeer, IpscPeer.sendToPeer] at sent
      split at sent
      · cases sent
      · rcases List.mem_append.mp sent with toMaster | toPeers
        · exact signed toMaster
        · obtain ⟨entry, -, inside⟩ := List.mem_flatMap.mp toPeers
          exact signed inside

/-- The IPSC effects of a run are the stack's own or pass on what the translator hands over. -/
theorem run_ipsc_effects {state : Bridge} {events : List BridgeEvent} {output : IpscOutput}
    (member : .ipsc output ∈ ((bridge digests dmr cfg).run state events).2) :
    output ∈ ((ipscStack digests cfg).run state.ipsc (events.filterMap BridgeEvent.ipsc?)).2 ∨
      ∃ ts entry host port, (ts, entry) ∈ handedOver
          (((bridge digests dmr cfg).run state events).2.filterMap BridgeOutput.translated) ∧
        output = .send (entry.packet ++ authSuffix digests cfg entry.packet) host port := by
  induction events generalizing state with
  | nil => cases member
  | cons event rest ih =>
      have split : (event :: rest).filterMap BridgeEvent.ipsc? =
          event.ipsc?.toList ++ rest.filterMap BridgeEvent.ipsc? := by
        cases event <;> rfl
      rw [Mealy.run_cons] at member ⊢
      rw [split, Mealy.run_append, ← step_ipsc digests dmr cfg, List.filterMap_append]
      simp only [handedOver, List.filterMap_append, List.mem_append] at member ⊢
      rcases member with here | there
      · rcases step_ipsc_effects digests dmr cfg here with own | ⟨ts, entry, handed, sent⟩
        · exact .inl (.inl own)
        · obtain ⟨host, port, signed⟩ := sendToPeer_signed digests cfg sent
          exact .inr ⟨ts, entry, host, port, .inl handed, signed⟩
      · rcases ih there with own | ⟨ts, entry, host, port, handed, signed⟩
        · exact .inl (.inr own)
        · exact .inr ⟨ts, entry, host, port, .inr handed, signed⟩

end Bridge

/-- The program refines its three parts: in every run the translator, the IPSC stack and the HBP client
each do what they do alone under some calls, each voice call of the translator has its cause, and what
leaves on the IPSC side is the stack's own or a packet of the translator, signed. -/
theorem program_refines_parts (digests : Digests) (dmr : DmrUtils) (cfg : Config)
    (events : List BridgeEvent) :
    let result := (bridge digests dmr cfg).run (Bridge.initial cfg) events
    let shown := result.2.filterMap BridgeOutput.translated
    let stack := (ipscStack digests cfg).run (IpscStack.initial cfg)
      (events.filterMap BridgeEvent.ipsc?)
    (∃ calls, (∀ call ∈ calls, call.Caused events result.2) ∧
        (translator dmr cfg).run Translator.initial calls = (result.1.core.translator, shown)) ∧
      (∃ calls, ((hbpClient digests cfg).run {} calls).1 = result.1.core.client ∧
        ((hbpClient digests cfg).run {} calls).2.filterMap HbpOutput.own =
          result.2.filterMap BridgeOutput.session?) ∧
      result.1.ipsc = stack.1 ∧
      ∀ output, .ipsc output ∈ result.2 → output ∈ stack.2 ∨
        ∃ ts entry host port, (ts, entry) ∈ handedOver shown ∧
          output = .send (entry.packet ++ authSuffix digests cfg entry.packet) host port :=
  let ⟨calls, _, ran⟩ := Bridge.run_drives digests dmr cfg (Bridge.initial cfg) events
  ⟨Bridge.run_translates digests dmr cfg (Bridge.initial cfg) events, ⟨calls, ran⟩,
    Bridge.run_ipsc digests dmr cfg (Bridge.initial cfg) events,
    fun _ => Bridge.run_ipsc_effects digests dmr cfg⟩

end Ipsc2Hbp
