import Ipsc2Hbp.Construction.Shutdown
import Ipsc2Hbp.Proof.Layers

namespace Ipsc2Hbp
open BigEndian

/-- The effect of the HBP stack that an effect of the program is, if any. -/
def CoreOutput.hbp? : CoreOutput → Option HbpOutput
  | .hbp _ output => some output
  | .translator .. => none

def BridgeOutput.hbp? : BridgeOutput → Option HbpOutput
  | .core output => output.hbp?
  | .ipsc _ => none

/-- The client is off and its protocol, if it still has one, is closed. -/
structure HbpClient.Off (client : HbpClient) : Prop where
  inactive : client.active = false
  closed : ∀ proto, client.protocol = some proto →
    proto.state = .disconnected ∧ proto.transport = false

/-- A session has its transport, and only the connect task waits for an endpoint. -/
structure Program.Sound (program : Program) : Prop where
  attached : ∀ proto, program.bridge.core.client.protocol = some proto → proto.Attached
  making : program.endpoint ≠ .unmade → program.bridge.core.client.task = .connecting

/-- The client is off, and its connect task has ended or will. -/
structure Program.Stopped (program : Program) : Prop where
  off : program.bridge.core.client.Off
  ending : program.cancelled = true ∨ program.endpoint = .unmade ∧
    (program.bridge.core.client.task = .unset ∨ program.bridge.core.client.task = .finished)

/-- The RPTL of an endpoint whose `connection_made` is queued has still to leave. -/
def Program.owed (cfg : Config) (program : Program) : List HbpOutput :=
  if program.endpoint = .queued then [.send (hbpfRptl ++ radioId cfg)] else []

theorem Program.owed_eq_nil (cfg : Config) {program : Program} (settled : program.endpoint ≠ .queued) :
    program.owed cfg = [] := if_neg settled

namespace HbpClient

/-- Every callback and every call keeps a session at its transport. -/
theorem step_attached (digests : Digests) (cfg : Config) {client : HbpClient}
    (attached : ∀ proto, client.protocol = some proto → proto.Attached) (event : HbpEvent) :
    ∀ proto, (client.step digests cfg event).1.protocol = some proto → proto.Attached := by
  have onProtocol (handler : HbpProtocol → HbpProtocol × List HbpOutput)
      (keeps : ∀ proto, proto.Attached → (handler proto).1.Attached) :
      ∀ proto, (client.onProtocol handler).1.protocol = some proto → proto.Attached := by
    unfold HbpClient.onProtocol
    cases present : client.protocol with
    | none => exact attached
    | some old =>
        intro proto same
        obtain rfl := Option.some.inj same
        exact keeps old (attached old present)
  cases event with
  | start =>
      simp only [step, start]
      split
      · rw [activate_protocol]
        exact attached
      · exact attached
  | loopTop | endpointFailed | doneWaited =>
      simp only [step]
      split <;> exact attached
  | endpointCreated =>
      simp only [step]
      split
      · intro proto present _
        obtain rfl := Option.some.inj present
        rfl
      · exact attached
  | connectionLost =>
      simp only [step]
      split
      · exact attached
      · split
        · exact attached
        · exact fun _ present => by cases present
  | errorReceived => exact onProtocol _ fun proto => (errorReceived_step cfg proto).attached
  | datagramReceived data now =>
      refine onProtocol _ fun proto kept => ?_
      split
      · exact (datagramReceived_step digests cfg data now proto).attached kept
      · exact kept
  | keepalive now =>
      refine onProtocol _ fun proto kept => ?_
      split
      · exact (keepalive_step cfg now proto).attached kept
      · exact kept

theorem call_attached (digests : Digests) (cfg : Config) {client : HbpClient} (call : ClientCall)
    (attached : ∀ proto, client.protocol = some proto → proto.Attached) :
    ∀ proto, ((hbpClient digests cfg).step client call).1.protocol = some proto → proto.Attached := by
  cases call with
  | event event => exact step_attached digests cfg attached event
  | activate =>
      intro proto present
      exact attached proto (client.activate_protocol ▸ present)
  | deactivate =>
      show ∀ proto, (client.deactivate cfg).1.protocol = some proto → proto.Attached
      unfold HbpClient.deactivate onProtocol
      split
      · exact attached
      · dsimp only
        split
        · exact attached
        · intro proto present
          obtain rfl := Option.some.inj present
          exact disconnect_attached cfg true _

/-- A task that waits for its endpoint is left alone by the translator. -/
theorem switch_connecting (digests : Digests) (cfg : Config) {client : HbpClient} {call : ClientCall}
    (isSwitch : call.IsSwitch) (connecting : client.task = .connecting) :
    ((hbpClient digests cfg).step client call).1.task = .connecting := by
  cases call with
  | event event => exact isSwitch.elim
  | activate =>
      show client.activate.1.task = .connecting
      unfold HbpClient.activate
      split
      · exact connecting
      · simp [connecting]
  | deactivate =>
      show (client.deactivate cfg).1.task = .connecting
      unfold HbpClient.deactivate onProtocol
      split
      · exact connecting
      · dsimp only
        split <;> exact connecting

/-- Only its own steps take the connect task away from the endpoint that it waits for. -/
theorem step_connecting (digests : Digests) (cfg : Config) {client : HbpClient} {event : HbpEvent}
    {draw : RtpDraw} {clock : Clock} (other : Program.isConnect (.hbp event draw clock) = false)
    (connecting : client.task = .connecting) :
    (client.step digests cfg event).1.task = .connecting := by
  have onProtocol (handler : HbpProtocol → HbpProtocol × List HbpOutput) :
      (client.onProtocol handler).1.task = .connecting := by
    unfold HbpClient.onProtocol
    split <;> exact connecting
  cases event with
  | start =>
      simp only [step, start]
      split
      · exact switch_connecting digests cfg (show ClientCall.activate.IsSwitch from trivial) connecting
      · exact connecting
  | loopTop | endpointCreated | endpointFailed | doneWaited => cases other
  | connectionLost =>
      simp only [step]
      split
      · exact connecting
      · split <;> exact connecting
  | errorReceived | datagramReceived | keepalive => exact onProtocol _

end HbpClient

namespace HbpClient.Off
variable {client : HbpClient}

/-- The translator's calls find nothing to do, except that it may activate the client again. -/
theorem command (off : client.Off) (cfg : Config) {output : Output} (other : output ≠ .activate) :
    Core.command cfg client output = (client, []) := by
  cases output with
  | activate => exact absurd rfl other
  | deactivate =>
      rw [Core.command, HbpClient.deactivate, off.inactive]
      rfl
  | raised => rfl
  | slot ts action =>
      cases action with
      | sendDmrd dmrd =>
          rw [Core.command, HbpClient.sendDmrd]
          cases present : client.protocol with
          | none => rfl
          | some proto => simp [HbpProtocol.sendDmrd, (off.closed proto present).1]
      | _ => rfl

theorem obey (off : client.Off) (cfg : Config) {outputs : List Output}
    (other : ∀ output ∈ outputs, output ≠ .activate) :
    Core.obey cfg client outputs = (client, outputs.map (CoreOutput.translator client.session)) := by
  induction outputs with
  | nil => rfl
  | cons output rest ih =>
      have first := off.command cfg (other output List.mem_cons_self)
      have later := ih fun output member => other output (List.mem_cons_of_mem _ member)
      rw [Core.obey, first]
      dsimp only
      rw [later]
      rfl

/-- The client's own callbacks have no effect, and only `start` could change its flags. -/
theorem step (off : client.Off) (digests : Digests) (cfg : Config) {event : HbpEvent} {draw : RtpDraw}
    {clock : Clock} (unstarted : event ≠ .start)
    (idle : Program.isConnect (.hbp event draw clock) = true →
      client.task = .unset ∨ client.task = .finished) :
    (client.step digests cfg event).2 = [] ∧ (client.step digests cfg event).1.Off ∧
      (client.step digests cfg event).1.task = client.task := by
  have onProtocol (handler : HbpProtocol → HbpProtocol × List HbpOutput)
      (still : ∀ proto, proto.state = .disconnected → proto.transport = false →
        handler proto = (proto, [])) : client.onProtocol handler = (client, []) := by
    unfold HbpClient.onProtocol
    cases present : client.protocol with
    | none => rfl
    | some proto =>
        obtain ⟨down, shut⟩ := off.closed proto present
        dsimp only
        rw [still proto down shut, ← present]
  have same : (client, ([] : List HbpOutput)).2 = [] ∧ (client, ([] : List HbpOutput)).1.Off ∧
      (client, ([] : List HbpOutput)).1.task = client.task := ⟨rfl, off, rfl⟩
  cases event with
  | start => exact absurd rfl unstarted
  | loopTop | endpointCreated | endpointFailed | doneWaited =>
      simp only [HbpClient.step]
      rcases idle rfl with task | task <;> simp [task, off]
  | connectionLost =>
      simp only [HbpClient.step]
      split
      · exact same
      · split
        · exact same
        · exact ⟨rfl, ⟨off.inactive, by simp⟩, rfl⟩
  | errorReceived =>
      rw [HbpClient.step, onProtocol _ fun proto down _ => by rw [HbpProtocol.errorReceived, if_pos down]]
      exact same
  | datagramReceived data now =>
      rw [HbpClient.step, onProtocol _ fun proto _ shut => by simp [shut]]
      exact same
  | keepalive now =>
      rw [HbpClient.step, onProtocol _ fun proto down _ => by simp [HbpProtocol.keepalive, down]]
      exact same

end HbpClient.Off

/-- The translator does not activate the client in any of these effects. -/
def Unactivated (log : List BridgeOutput) : Prop :=
  ∀ output ∈ log, output.translated ≠ some .activate

instance (log : List BridgeOutput) : Decidable (Unactivated log) :=
  inferInstanceAs (Decidable (∀ output ∈ log, _))

theorem Unactivated.outputs {log : List BridgeOutput} (free : Unactivated log) :
    ∀ output ∈ log.filterMap BridgeOutput.translated, output ≠ .activate := by
  intro output member same
  obtain ⟨shown, inside, view⟩ := List.mem_filterMap.mp member
  exact free shown inside (view.trans (congrArg some same))

namespace Bridge
variable (digests : Digests) (dmr : DmrUtils) (cfg : Config)

theorem forward_hbp (ipsc : IpscStack) (log : List CoreOutput) :
    (forward digests cfg ipsc log).filterMap BridgeOutput.hbp? = log.filterMap CoreOutput.hbp? := by
  induction log with
  | nil => rfl
  | cons output rest ih =>
      have sends : ((passedOn digests cfg ipsc output).map BridgeOutput.ipsc).filterMap
          BridgeOutput.hbp? = [] := by
        simp [List.filterMap_eq_nil_iff, BridgeOutput.hbp?]
      rw [forward_cons, List.filterMap_cons, List.filterMap_append, sends, ih, List.nil_append,
        List.filterMap_cons]
      rfl

/-- A call of the translator leaves a client that is off as it is. -/
theorem translate_off {core : Core} (off : core.client.Off) (event : Event)
    (free : ∀ output ∈ (core.translate dmr cfg event).2.filterMap CoreOutput.translated,
      output ≠ .activate) :
    (core.translate dmr cfg event).1.client = core.client ∧
      (core.translate dmr cfg event).2.filterMap CoreOutput.hbp? = [] := by
  have view : (core.translate dmr cfg event).2.filterMap CoreOutput.translated =
      (Translator.step dmr cfg core.translator event).2 := Core.obey_translated ..
  rw [view] at free
  have obeyed := off.obey cfg free
  simp only [Core.translate, obeyed]
  exact ⟨trivial, by simp [List.filterMap_eq_nil_iff, CoreOutput.hbp?]⟩

theorem deliver_off (urandom : StreamId) (clock : Clock) (ipsc : IpscStack)
    (outputs : List IpscOutput) {core : Core} (off : core.client.Off)
    (free : Unactivated (deliver digests dmr cfg urandom clock ipsc core outputs).2) :
    (deliver digests dmr cfg urandom clock ipsc core outputs).1.client = core.client ∧
      (deliver digests dmr cfg urandom clock ipsc core outputs).2.filterMap BridgeOutput.hbp? = [] := by
  induction outputs generalizing core with
  | nil => exact ⟨rfl, rfl⟩
  | cons output rest ih =>
      have first (unactivated : Unactivated (forward digests cfg ipsc
          (answer dmr cfg urandom clock core output).2)) :
          (answer dmr cfg urandom clock core output).1.client = core.client ∧
            (answer dmr cfg urandom clock core output).2.filterMap CoreOutput.hbp? = [] := by
        have outputs := unactivated.outputs
        rw [forward_translated] at outputs
        unfold answer at outputs ⊢
        cases called : call core.client.isConnected urandom clock output with
        | none => exact ⟨rfl, rfl⟩
        | some event =>
            rw [called] at outputs
            exact translate_off dmr cfg off event outputs
      rw [deliver_cons] at free ⊢
      dsimp only at free ⊢
      split at free
      case isTrue raised =>
        obtain ⟨same, none⟩ := first fun output member => free output (List.mem_cons_of_mem _ member)
        rw [if_pos raised, List.filterMap_cons_none rfl, forward_hbp]
        exact ⟨same, none⟩
      case isFalse smooth =>
        obtain ⟨same, none⟩ := first fun output member =>
          free output (List.mem_append_left _ (List.mem_cons_of_mem _ member))
        have later := ih (same ▸ off) fun output member => free output (List.mem_append_right _ member)
        rw [if_neg smooth, List.filterMap_append, List.filterMap_cons_none rfl, forward_hbp, none]
        exact ⟨later.1.trans same, later.2⟩

/-- A callback leaves a client that is off in its task. -/
theorem step_off {state : Bridge} (off : state.core.client.Off) {event : BridgeEvent}
    (unstarted : ∀ draw clock, event ≠ .hbp .start draw clock)
    (idle : Program.isConnect event = true →
      state.core.client.task = .unset ∨ state.core.client.task = .finished)
    (free : Unactivated (Bridge.step digests dmr cfg state event).2) :
    (Bridge.step digests dmr cfg state event).1.core.client.Off ∧
      (Bridge.step digests dmr cfg state event).1.core.client.task = state.core.client.task ∧
      (Bridge.step digests dmr cfg state event).2.filterMap BridgeOutput.hbp? = [] := by
  cases event with
  | ipsc event urandom clock =>
      obtain ⟨same, none⟩ := deliver_off digests dmr cfg urandom clock _ _ off free
      simp only [Bridge.step, same]
      exact ⟨off, trivial, none⟩
  | drain ts clock =>
      have outputs := free.outputs
      simp only [Bridge.step, forward_translated] at outputs
      obtain ⟨same, none⟩ := translate_off dmr cfg off (.drain ts clock) outputs
      simp only [Bridge.step, forward_hbp, same]
      exact ⟨off, trivial, none⟩
  | hbp event draw clock =>
      obtain ⟨quiet, still, task⟩ := off.step digests cfg
        (fun same => unstarted draw clock (same ▸ rfl)) idle
      simp only [Bridge.step, Core.step, quiet, Core.notify]
      exact ⟨still, task, rfl⟩

end Bridge

namespace Program
variable (digests : Digests) (dmr : DmrUtils) (cfg : Config)

theorem stop_task (program : Program) :
    (program.stop digests cfg).1.bridge.core.client.task = program.bridge.core.client.task := by
  simp only [stop, HbpClient.stop, HbpClient.onProtocol]
  split <;> rfl

theorem stop_stopped {program : Program}
    (making : program.endpoint ≠ .unmade →
      program.cancelled = true ∨ program.bridge.core.client.task = .connecting) :
    (program.stop digests cfg).1.Stopped := by
  refine ⟨⟨?_, fun proto present => ?_⟩, ?_⟩
  · simp only [stop, HbpClient.stop, HbpClient.onProtocol]
    split <;> rfl
  · simp only [stop, HbpClient.stop, HbpClient.onProtocol] at present
    split at present
    case h_1 absent =>
      rw [absent] at present
      cases present
    case h_2 =>
      obtain rfl := Option.some.inj present
      exact ⟨rfl, rfl⟩
  · rw [stop_task]
    simp only [stop]
    by_cases unmade : program.endpoint = .unmade
    · cases program.bridge.core.client.task <;> simp [unmade]
    · rcases making unmade with cancelled | connecting
      · simp [cancelled]
      · simp [connecting]

/-- Every step keeps a session at its transport and the connect task at its endpoint. -/
theorem Sound.step {program : Program} (sound : program.Sound) (event : ProgramEvent) :
    (Program.step digests dmr cfg program event).1.Sound := by
  have attached (event : BridgeEvent) : ∀ proto,
      (Bridge.step digests dmr cfg program.bridge event).1.core.client.protocol = some proto →
        proto.Attached :=
    (Bridge.step_drives digests dmr cfg program.bridge event).keeps
      (fun client => ∀ proto, client.protocol = some proto → proto.Attached)
      (fun _ call _ => HbpClient.call_attached digests cfg call) sound.attached
  cases event with
  | callback event =>
      simp only [Program.step]
      split
      case isFalse => exact sound
      case isTrue takes =>
        refine ⟨attached event, fun making => ?_⟩
        have other : isConnect event = false := by
          cases connect : isConnect event with
          | false => rfl
          | true =>
              simp only [Program.takes, connect, Bool.and_eq_true, decide_eq_true_eq,
                Bool.not_true, Bool.false_or] at takes
              exact absurd takes.2.2 making
        have connecting := sound.making making
        cases event with
        | ipsc | drain =>
            exact (Bridge.step_switches digests dmr cfg program.bridge _ (by simp)).keeps
              (fun client => client.task = .connecting)
              (fun _ _ isSwitch => HbpClient.switch_connecting digests cfg isSwitch) connecting
        | hbp event draw clock =>
            rw [(Bridge.step_hbp digests dmr cfg program.bridge event draw clock).1]
            exact HbpClient.step_connecting digests cfg other connecting
  | stop =>
      refine ⟨fun proto present => ?_,
        fun making => (stop_task digests cfg program).trans (sound.making making)⟩
      simp only [Program.step, stop, HbpClient.stop, HbpClient.onProtocol] at present
      split at present
      case h_1 absent =>
        rw [absent] at present
        cases present
      case h_2 =>
        obtain rfl := Option.some.inj present
        exact disconnect_attached cfg true _
  | transportMade =>
      simp only [Program.step]
      split
      case isTrue free =>
        simp only [Bool.and_eq_true, decide_eq_true_eq] at free
        exact ⟨sound.attached, fun _ => free.1.1⟩
      case isFalse => exact sound
  | connectionMade =>
      simp only [Program.step]
      split
      case isTrue queued =>
        exact ⟨sound.attached, fun _ => sound.making (by rw [queued]; decide)⟩
      case isFalse => exact sound
  | connectResumed draw clock =>
      simp only [Program.step]
      split
      · exact ⟨attached _, fun making => absurd rfl making⟩
      · exact sound
  | connectCancelled =>
      simp only [Program.step]
      split
      · exact ⟨sound.attached, fun making => absurd rfl making⟩
      · exact sound

theorem sound_initial : (Program.initial cfg).Sound :=
  ⟨fun proto present => absurd present.symm (Option.some_ne_none proto), fun making => absurd rfl making⟩

/-- The client logs out if it is CONNECTED. -/
theorem stop_hbp {program : Program} (attached : ∀ proto,
      program.bridge.core.client.protocol = some proto → proto.state = .connected →
        proto.transport = true) :
    (program.stop digests cfg).2.filterMap BridgeOutput.hbp? =
      if program.bridge.core.client.isConnected then [.send (hbpfRptcl ++ radioId cfg)] else [] := by
  have ipsc (outputs : List IpscOutput) :
      (outputs.map BridgeOutput.ipsc).filterMap BridgeOutput.hbp? = [] := by
    simp [List.filterMap_eq_nil_iff, BridgeOutput.hbp?]
  have hbp (session : Nat) (outputs : List HbpOutput) :
      (outputs.map fun output => BridgeOutput.core (.hbp session output)).filterMap BridgeOutput.hbp? =
        outputs := by
    rw [List.filterMap_map]
    exact List.filterMap_some
  rw [stop, List.filterMap_append, ipsc, List.nil_append, hbp]
  unfold HbpClient.stop HbpClient.onProtocol HbpClient.isConnected
  cases present : program.bridge.core.client.protocol with
  | none => rfl
  | some proto =>
      by_cases up : proto.state = .connected
      · have opened := attached proto present up
        simp [HbpProtocol.disconnect, HbpProtocol.isConnected, HbpProtocol.sendRaw, up, opened]
      · simp [HbpProtocol.disconnect, HbpProtocol.isConnected, up]

/-- A program that has stopped stays so, and its HBP side is silent but for the RPTL that it owes. -/
theorem Stopped.step {program : Program} (stopped : program.Stopped) {event : ProgramEvent}
    (unstarted : ∀ draw clock, event ≠ .callback (.hbp .start draw clock))
    (free : Unactivated (Program.step digests dmr cfg program event).2) :
    (Program.step digests dmr cfg program event).1.Stopped ∧
      (Program.step digests dmr cfg program event).2.filterMap BridgeOutput.hbp? ++
        (Program.step digests dmr cfg program event).1.owed cfg = program.owed cfg := by
  have still : program.Stopped ∧ ([] : List BridgeOutput).filterMap BridgeOutput.hbp? ++
      program.owed cfg = program.owed cfg := ⟨stopped, rfl⟩
  have ended (running : program.cancelled = false) : program.endpoint = .unmade ∧
      (program.bridge.core.client.task = .unset ∨ program.bridge.core.client.task = .finished) :=
    stopped.ending.resolve_left (by simp [running])
  cases event with
  | stop =>
      have down (proto : HbpProtocol) (present : program.bridge.core.client.protocol = some proto) :
          proto.state ≠ .connected := by
        rw [(stopped.off.closed proto present).1]
        decide
      have unconnected : program.bridge.core.client.isConnected = false := by
        unfold HbpClient.isConnected
        cases present : program.bridge.core.client.protocol with
        | none => rfl
        | some proto => simp [HbpProtocol.isConnected, down proto present]
      have silent := stop_hbp digests cfg fun proto present up => absurd up (down proto present)
      rw [unconnected] at silent
      have making (waits : program.endpoint ≠ .unmade) :
          program.cancelled = true ∨ program.bridge.core.client.task = .connecting :=
        .inl (stopped.ending.resolve_right fun other => waits other.1)
      refine ⟨stop_stopped digests cfg making, ?_⟩
      rw [Program.step, silent]
      rfl
  | transportMade =>
      simp only [Program.step]
      split
      case isTrue connects =>
        simp only [Bool.and_eq_true, decide_eq_true_eq, Bool.not_eq_true'] at connects
        rcases (ended connects.1.2).2 with task | task <;> simp [task] at connects
      case isFalse => exact still
  | connectionMade =>
      simp only [Program.step]
      split
      case isTrue queued =>
        have cancelled : program.cancelled = true :=
          stopped.ending.resolve_right fun other => by simp [queued] at other
        refine ⟨⟨stopped.off, .inl cancelled⟩, ?_⟩
        simp [owed, queued, HbpProtocol.connectionMade, BridgeOutput.hbp?, CoreOutput.hbp?]
      case isFalse => exact still
  | connectResumed draw clock =>
      simp only [Program.step]
      split
      case isTrue resumes =>
        simp only [Bool.and_eq_true, decide_eq_true_eq, Bool.not_eq_true'] at resumes
        have unmade := (ended resumes.2).1
        simp [resumes.1] at unmade
      case isFalse => exact still
  | connectCancelled =>
      simp only [Program.step]
      split
      case isTrue wakes =>
        simp only [Bool.and_eq_true, decide_eq_true_eq] at wakes
        refine ⟨⟨⟨stopped.off.inactive, stopped.off.closed⟩, .inr ⟨rfl, .inr rfl⟩⟩, ?_⟩
        rw [program.owed_eq_nil cfg wakes.2]
        rfl
      case isFalse => exact still
  | callback event =>
      simp only [Program.step] at free ⊢
      split
      case isFalse => exact still
      case isTrue takes =>
        rw [if_pos takes] at free
        have idle : isConnect event = true → program.bridge.core.client.task = .unset ∨
            program.bridge.core.client.task = .finished := by
          intro connect
          refine (ended ?_).2
          simp only [Program.takes, connect, Bool.and_eq_true, Bool.or_eq_true, Bool.not_eq_true'] at takes
          exact (takes.2.resolve_left Bool.noConfusion).1
        obtain ⟨off, task, none⟩ := Bridge.step_off digests dmr cfg stopped.off
          (fun draw clock same => unstarted draw clock (same ▸ rfl)) idle free
        refine ⟨⟨off, by rw [task]; exact stopped.ending⟩, ?_⟩
        dsimp only
        rw [none]
        rfl

/-- After the stop the HBP side sends what it owes and no more, as long as nothing activates the client
again. -/
theorem Stopped.run {program : Program} (stopped : program.Stopped) {events : List ProgramEvent}
    (unstarted : ∀ draw clock, .callback (.hbp .start draw clock) ∉ events)
    (free : Unactivated ((Ipsc2Hbp.program digests dmr cfg).run program events).2) :
    ((Ipsc2Hbp.program digests dmr cfg).run program events).1.Stopped ∧
      ((Ipsc2Hbp.program digests dmr cfg).run program events).2.filterMap BridgeOutput.hbp? ++
        ((Ipsc2Hbp.program digests dmr cfg).run program events).1.owed cfg = program.owed cfg := by
  induction events generalizing program with
  | nil => exact ⟨stopped, rfl⟩
  | cons event rest ih =>
      rw [Mealy.run_cons] at free ⊢
      obtain ⟨next, first⟩ := stopped.step digests dmr cfg
        (fun draw clock same => unstarted draw clock (same ▸ List.mem_cons_self))
        fun output member => free output (List.mem_append_left _ member)
      obtain ⟨last, later⟩ := ih next
        (fun draw clock member => unstarted draw clock (List.mem_cons_of_mem _ member))
        fun output member => free output (List.mem_append_right _ member)
      refine ⟨last, ?_⟩
      rw [List.filterMap_append, List.append_assoc]
      exact (congrArg (_ ++ ·) later).trans first

/-- A connect task that has been cancelled ends, after the `connection_made` of its endpoint. -/
theorem Stopped.cancelled {program : Program} (stopped : program.Stopped) :
    let ended := ((Ipsc2Hbp.program digests dmr cfg).run program [.connectionMade, .connectCancelled]).1
    ended.cancelled = false ∧ ended.endpoint = .unmade ∧
      ended.bridge.core.client.protocol = program.bridge.core.client.protocol ∧
      (ended.bridge.core.client.task = .unset ∨ ended.bridge.core.client.task = .finished) := by
  simp only [Mealy.run_cons, Mealy.run_nil, Ipsc2Hbp.program, Program.step]
  cases cancelled : program.cancelled with
  | true => cases endpoint : program.endpoint <;> simp [cancelled, endpoint]
  | false =>
      obtain ⟨unmade, task⟩ := stopped.ending.resolve_left (by simp [cancelled])
      simp [unmade, cancelled, task]

/-- Then `connection_lost` takes the protocol away. -/
theorem Stopped.ends {program : Program} (stopped : program.Stopped) (draw : RtpDraw) (clock : Clock) :
    let ended := ((Ipsc2Hbp.program digests dmr cfg).run program
      [.connectionMade, .connectCancelled, .callback (.hbp .connectionLost draw clock)]).1
    ended.endpoint = .unmade ∧ ended.bridge.core.client.protocol = none ∧
      (ended.bridge.core.client.task = .unset ∨ ended.bridge.core.client.task = .finished) := by
  obtain ⟨waits, unmade, protocol, task⟩ := stopped.cancelled digests dmr cfg
  have closed := stopped.off.closed
  rw [← protocol] at closed
  rw [show [ProgramEvent.connectionMade, .connectCancelled, .callback (.hbp .connectionLost draw clock)] =
    [.connectionMade, .connectCancelled] ++ [.callback (.hbp .connectionLost draw clock)] from rfl,
    Mealy.run_append]
  generalize ((Ipsc2Hbp.program digests dmr cfg).run program
    [.connectionMade, .connectCancelled]).1 = before at waits unmade closed task
  simp only [Mealy.run_cons, Mealy.run_nil, Ipsc2Hbp.program]
  have takes : before.takes (.hbp .connectionLost draw clock) = true := by
    simp [Program.takes, isTimer, isConnect]
  have client := (Bridge.step_hbp digests dmr cfg before.bridge .connectionLost draw clock).1
  rw [Program.step, if_pos takes]
  dsimp only
  rw [client]
  refine ⟨unmade, ?_⟩
  simp only [HbpClient.step]
  cases present : before.bridge.core.client.protocol with
  | none => exact ⟨present, task⟩
  | some proto =>
      dsimp only
      rw [if_neg (by rw [(closed proto present).2]; exact Bool.false_ne_true)]
      exact ⟨rfl, task⟩

end Program

/-- A program that is stopped logs out of its HBP session, if it has one, and falls silent: as long as
no registration and no start activates the client again, its HBP side sends nothing more and calls
nobody, whatever still arrives and however often it is stopped. Only the RPTL of an endpoint whose
`connection_made` was queued may still leave, once. When its connect task and its protocol have ended
nothing of it is left. -/
theorem stopped_program_silent (digests : Digests) (dmr : DmrUtils) (cfg : Config)
    (before after : List ProgramEvent)
    (unstarted : ∀ draw clock, .callback (.hbp .start draw clock) ∉ after) (draw : RtpDraw)
    (clock : Clock) :
    let running := ((program digests dmr cfg).run (Program.initial cfg) before).1
    let stopping := (program digests dmr cfg).step running .stop
    let stopped := (program digests dmr cfg).run stopping.1 after
    let ended := ((program digests dmr cfg).run stopped.1
      [.connectionMade, .connectCancelled, .callback (.hbp .connectionLost draw clock)]).1
    stopping.2.filterMap BridgeOutput.hbp? =
        (if running.bridge.core.client.isConnected then [.send (hbpfRptcl ++ radioId cfg)] else []) ∧
      (Unactivated stopped.2 →
        stopped.2.filterMap BridgeOutput.hbp? ++ stopped.1.owed cfg = running.owed cfg ∧
          stopped.1.bridge.core.client.Off ∧ ended.endpoint = .unmade ∧
          ended.bridge.core.client.protocol = none ∧
          (ended.bridge.core.client.task = .unset ∨ ended.bridge.core.client.task = .finished)) := by
  intro running stopping stopped ended
  have sound : running.Sound := (program digests dmr cfg).run_invariant _
    (fun _ event sound => sound.step digests dmr cfg event) _ before (Program.sound_initial cfg)
  refine ⟨Program.stop_hbp digests cfg fun proto present up =>
    sound.attached proto present (by rw [up]; decide), fun free => ?_⟩
  obtain ⟨still, sent⟩ :=
    (Program.stop_stopped digests cfg fun making => .inr (sound.making making)).run digests dmr cfg
      unstarted free
  exact ⟨sent, still.off, still.ends digests dmr cfg draw clock⟩

/-- What may still happen to a program that has been stopped. -/
def leftoverRun : List ProgramEvent :=
  [.callback (clientEvent (.datagramReceived hbpfMstpong 21) 21), .callback (clientEvent (.keepalive 22) 22),
    .callback (.drain .ts1 fun _ => 22), .connectCancelled, .stop, .callback (clientEvent .loopTop 23)]

theorem stopped_program_silent_session :
    let running := ((program loginDigests dmrCodec {}).run
      (Program.initial {}) (loginRun.map .callback)).1
    let stopping := (program loginDigests dmrCodec {}).step running .stop
    let stopped := (program loginDigests dmrCodec {}).run stopping.1 leftoverRun
    stopping.2.filterMap BridgeOutput.hbp? =
        [.send (hbpfRptcl ++ radioId {})] ∧
      stopped.2.filterMap BridgeOutput.hbp? = [] := by
  intro running stopping stopped
  have silent := stopped_program_silent loginDigests dmrCodec {} (loginRun.map .callback)
    leftoverRun (by intro draw clock member; simp [leftoverRun, clientEvent] at member) rtpDraw fun _ => 24
  have owes : running.owed {} = [] := by decide +kernel
  have sent := (silent.2 (by decide +kernel)).1
  rw [show ((program loginDigests dmrCodec {}).run (Program.initial {})
    (loginRun.map .callback)).1.owed {} = [] from owes] at sent
  exact ⟨silent.1.trans (by decide +kernel), (List.append_eq_nil_iff.mp sent).1⟩

/-- The program is stopped twice while the `connection_made` of its first endpoint is queued. -/
example :
    let making := ((program loginDigests dmrCodec {}).run (Program.initial {})
      ([clientEvent .start 0, .ipsc .connectionMade firstDraw fun _ => 0, registration,
        clientEvent .loopTop 2].map .callback ++ [.transportMade, .stop, .stop])).1
    ((program loginDigests dmrCodec {}).run making
      [.connectionMade, .connectCancelled, .stop]).2.filterMap BridgeOutput.hbp? =
        [.send (hbpfRptl ++ radioId {})] := by
  decide +kernel

end Ipsc2Hbp
