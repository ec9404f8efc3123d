import Ipsc2Hbp.Proof.Tracking

namespace Ipsc2Hbp
open BigEndian

namespace HbpProtocol

/-- A protocol that is DISCONNECTED stays so. -/
theorem datagramReceived_over (digests : Digests) (cfg : Config) (data : Bytes) (now : Time)
    {proto : HbpProtocol} (down : proto.state = .disconnected) :
    (proto.datagramReceived digests cfg data now).1.state = .disconnected := by
  unfold datagramReceived
  split_ifs
  · exact down
  · rw [onRptack, down]
    exact down
  · rfl
  · exact down
  · rfl
  · exact down
  · exact down
  · exact down

theorem errorReceived_over (cfg : Config) {proto : HbpProtocol} (down : proto.state = .disconnected) :
    (proto.errorReceived cfg).1.state = .disconnected := by
  rw [errorReceived, if_pos down]
  exact down

theorem keepalive_over (cfg : Config) (now : Time) {proto : HbpProtocol}
    (down : proto.state = .disconnected) : (proto.keepalive cfg now).1.state = .disconnected := by
  have unconnected : proto.state ≠ .connected := by
    rw [down]
    decide
  rw [keepalive, if_pos unconnected]
  exact down

end HbpProtocol

namespace HbpClient

/-- A step of the connect task is scheduled or it waits for one of its own operations. -/
def ConnectPending (client : HbpClient) : Prop :=
  client.task = .loopTop ∨ client.task = .connecting ∨ client.task = .sleeping ∨
    (client.task = .waitDone ∧ client.protocol = none)

/-- A closed transport will call `connection_lost`. -/
def ClosePending (client : HbpClient) : Prop :=
  ∃ proto, client.protocol = some proto ∧ proto.transport = false

/-- The protocol of an inactive client is DISCONNECTED. -/
def Quiet (client : HbpClient) : Prop :=
  client.active = false → ∀ proto, client.protocol = some proto → proto.state = .disconnected

theorem activate_active (client : HbpClient) : client.activate.1.active = true := by
  unfold activate
  split
  case isTrue active => exact active
  case isFalse =>
    dsimp only
    split_ifs <;> rfl

theorem activate_protocol (client : HbpClient) : client.activate.1.protocol = client.protocol := by
  unfold activate
  split
  case isTrue => rfl
  case isFalse =>
    dsimp only
    split_ifs <;> rfl

theorem deactivate_active (cfg : Config) (client : HbpClient) :
    (client.deactivate cfg).1.active = false := by
  unfold deactivate onProtocol
  split
  case isTrue inactive => simpa using inactive
  case isFalse => split <;> rfl

theorem Quiet.activate (client : HbpClient) : client.activate.1.Quiet := fun inactive => by
  rw [activate_active] at inactive
  cases inactive

theorem Quiet.deactivate {client : HbpClient} (quiet : client.Quiet) (cfg : Config) :
    (client.deactivate cfg).1.Quiet := by
  unfold HbpClient.deactivate onProtocol
  split
  case isTrue => exact quiet
  case isFalse =>
    simp only
    split
    case h_1 absent =>
      intro _ proto present
      rw [absent] at present
      cases present
    case h_2 =>
      intro _ proto present
      obtain rfl := Option.some.inj present
      rfl

/-- In TRACKING mode the steps of the client leave `_active` to the translator. -/
theorem step_active (digests : Digests) {cfg : Config} (tracking : cfg.hbpMode = .tracking)
    (client : HbpClient) (event : HbpEvent) :
    (client.step digests cfg event).1.active = client.active := by
  have onProtocol (handler : HbpProtocol → HbpProtocol × List HbpOutput) :
      (client.onProtocol handler).1.active = client.active := by
    unfold HbpClient.onProtocol
    split <;> rfl
  have retry : client.retry.active = client.active := rfl
  cases event with
  | start => simp [step, start, tracking]
  | loopTop | endpointCreated | endpointFailed | doneWaited =>
      simp only [step]
      split <;> rfl
  | connectionLost =>
      simp only [step]
      split
      · rfl
      · split <;> rfl
  | errorReceived | datagramReceived | keepalive => exact onProtocol _

/-- The endpoint of an inactive client is not completed. -/
def EndpointGuarded (client : HbpClient) : HbpEvent → Prop
  | .endpointCreated => client.task = .connecting → client.active = true
  | _ => True

instance (client : HbpClient) (event : HbpEvent) : Decidable (client.EndpointGuarded event) := by
  unfold EndpointGuarded
  split <;> infer_instance

/-- A guarded step keeps the protocol of an inactive client DISCONNECTED. -/
theorem Quiet.step {client : HbpClient} (quiet : client.Quiet) (digests : Digests) {cfg : Config}
    (tracking : cfg.hbpMode = .tracking) {event : HbpEvent} (guarded : client.EndpointGuarded event) :
    (client.step digests cfg event).1.Quiet := by
  intro inactive
  rw [step_active digests tracking] at inactive
  have before := quiet inactive
  have onProtocol (handler : HbpProtocol → HbpProtocol × List HbpOutput)
      (keeps : ∀ proto, proto.state = .disconnected → (handler proto).1.state = .disconnected) :
      ∀ proto, (client.onProtocol handler).1.protocol = some proto → proto.state = .disconnected := by
    unfold HbpClient.onProtocol
    cases present : client.protocol with
    | none =>
        intro proto same
        rw [present] at same
        cases same
    | some old =>
        intro proto same
        obtain rfl := Option.some.inj same
        exact keeps old (before old present)
  cases event with
  | start =>
      simp only [HbpClient.step, HbpClient.start, tracking, reduceCtorEq, if_false]
      exact before
  | loopTop | endpointFailed | doneWaited =>
      simp only [HbpClient.step]
      split <;> exact before
  | endpointCreated =>
      simp only [HbpClient.step]
      split
      case isTrue connecting =>
        rw [guarded connecting] at inactive
        cases inactive
      case isFalse => exact before
  | connectionLost =>
      simp only [HbpClient.step]
      split
      · exact before
      · split
        · exact before
        · intro proto present
          cases present
  | errorReceived =>
      exact onProtocol _ fun _ down => HbpProtocol.errorReceived_over cfg down
  | datagramReceived data now =>
      refine onProtocol _ fun proto down => ?_
      split
      · exact HbpProtocol.datagramReceived_over digests cfg data now down
      · exact down
  | keepalive now =>
      refine onProtocol _ fun proto down => ?_
      split
      · exact HbpProtocol.keepalive_over cfg now down
      · exact down

end HbpClient

/-- The client is active while a peer is registered, and waits only for a protocol that it has. -/
structure Tracks (state : Bridge) : Prop where
  reported : state.ipsc.Reported
  active : state.core.client.active = state.ipsc.isPeerRegistered
  sound : state.core.client.Sound

theorem Tracks.step {state : Bridge} (tracks : Tracks state) (digests : Digests) (dmr : DmrUtils)
    {cfg : Config} (tracking : cfg.hbpMode = .tracking) (event : BridgeEvent) :
    Tracks (Bridge.step digests dmr cfg state event).1 := by
  obtain ⟨stepped, reported⟩ := Bridge.step_tracking digests dmr tracking tracks.reported event
  generalize (Bridge.step digests dmr cfg state event).1 = after at stepped reported
  refine ⟨reported, ?_, ?_⟩
  · cases stepped with
    | still _ registered client => rw [client, registered, tracks.active]
    | gained _ _ up client => rw [client, up, HbpClient.activate_active]
    | lost _ _ down client => rw [client, down, HbpClient.deactivate_active]
    | hbp event draw clock ipsc client =>
        rw [client, ipsc, HbpClient.step_active digests tracking, tracks.active]
  · cases stepped with
    | still _ _ client => rw [client]; exact tracks.sound
    | gained _ _ _ client => rw [client]; exact (activate_step tracks.sound False).sound
    | lost _ _ _ client => rw [client]; exact (deactivate_step cfg tracks.sound).sound
    | hbp event draw clock _ client =>
        rw [client]
        exact (client_step digests cfg tracks.sound event).sound

theorem tracks_initial (cfg : Config) : Tracks (Bridge.initial cfg) := by
  refine ⟨?_, ?_, ⟨fun some => absurd rfl some, by simp [Bridge.initial]⟩⟩
  · unfold Bridge.initial IpscStack.initial
    cases cfg.ipscMode with
    | master => trivial
    | peer => rfl
  · unfold Bridge.initial IpscStack.initial
    cases cfg.ipscMode <;> rfl

/-- While no peer is registered and nothing is pending, no protocol is alive. -/
def LoggedOut (state : Bridge) : Prop :=
  state.ipsc.isPeerRegistered = false → ¬ state.core.client.ConnectPending →
    ¬ state.core.client.ClosePending →
      ∀ proto, state.core.client.protocol = some proto → proto.state = .disconnected

/-- The endpoint that is completed belongs to an active client. -/
def EndpointGuarded (state : Bridge) : BridgeEvent → Prop
  | .hbp event .. => state.core.client.EndpointGuarded event
  | _ => True

instance (state : Bridge) (event : BridgeEvent) : Decidable (EndpointGuarded state event) := by
  unfold EndpointGuarded
  split <;> infer_instance

/-- A guarded callback keeps the protocol of an inactive client DISCONNECTED. -/
theorem quiet_step {state : Bridge} (tracks : Tracks state) (quiet : state.core.client.Quiet)
    (digests : Digests) (dmr : DmrUtils) {cfg : Config} (tracking : cfg.hbpMode = .tracking)
    {event : BridgeEvent} (guarded : EndpointGuarded state event) :
    (Bridge.step digests dmr cfg state event).1.core.client.Quiet := by
  obtain ⟨stepped, -⟩ := Bridge.step_tracking digests dmr tracking tracks.reported event
  generalize (Bridge.step digests dmr cfg state event).1 = after at stepped
  cases stepped with
  | still _ _ client => rw [client]; exact quiet
  | gained _ _ _ client => rw [client]; exact .activate _
  | lost _ _ _ client => rw [client]; exact quiet.deactivate cfg
  | hbp event draw clock _ client => rw [client]; exact quiet.step digests tracking guarded

/-- An endpoint that an inactive client completes leaves a live protocol behind. -/
theorem guarded_of_loggedOut {state : Bridge} (tracks : Tracks state) (digests : Digests)
    (dmr : DmrUtils) {cfg : Config} (tracking : cfg.hbpMode = .tracking) {event : BridgeEvent}
    (out : LoggedOut (Bridge.step digests dmr cfg state event).1) : EndpointGuarded state event := by
  obtain ⟨stepped, -⟩ := Bridge.step_tracking digests dmr tracking tracks.reported event
  generalize (Bridge.step digests dmr cfg state event).1 = after at stepped out
  cases stepped with
  | still foreign | gained foreign | lost foreign =>
      cases event with
      | hbp event draw clock => exact absurd rfl (foreign event draw clock)
      | ipsc | drain => trivial
  | hbp event draw clock ipsc client =>
      cases event with
      | endpointCreated =>
          intro connecting
          by_contra inactive
          have inactive : state.core.client.active = false := by simpa using inactive
          have gone : after.ipsc.isPeerRegistered = false := by rw [ipsc, ← tracks.active, inactive]
          rw [HbpClient.step, if_pos connecting] at client
          have waits : after.core.client.task = .waitDone := by rw [client]
          have present : after.core.client.protocol = some { transport := true } := by rw [client]; rfl
          have down := out gone (by simp [HbpClient.ConnectPending, waits, present])
            (by simp [HbpClient.ClosePending, present]) _ present
          cases down
      | start | loopTop | endpointFailed | doneWaited | connectionLost | errorReceived
      | datagramReceived | keepalive => trivial

/-- In TRACKING mode every state of a run is logged out while the peer is gone exactly when no step of
the run completes an endpoint of an inactive client. -/
theorem logged_out_iff (digests : Digests) (dmr : DmrUtils) {cfg : Config}
    (tracking : cfg.hbpMode = .tracking) (events : List BridgeEvent) :
    (bridge digests dmr cfg).Meets
        (fun _ state event => LoggedOut (Bridge.step digests dmr cfg state event).1) []
        (Bridge.initial cfg) events ↔
      (bridge digests dmr cfg).Meets (fun _ state event => EndpointGuarded state event) []
        (Bridge.initial cfg) events := by
  constructor
  · intro met
    exact met.along (fun _ state => Tracks state)
      (fun _ _ event _ tracks => tracks.step digests dmr tracking event)
      (fun _ _ _ out tracks => guarded_of_loggedOut tracks digests dmr tracking out)
      (tracks_initial cfg)
  · intro met
    have start : Tracks (Bridge.initial cfg) ∧ (Bridge.initial cfg).core.client.Quiet :=
      ⟨tracks_initial cfg, fun _ proto present => by cases present⟩
    have kept (log : List BridgeOutput) (state : Bridge) (event : BridgeEvent)
        (guarded : EndpointGuarded state event)
        (law : Tracks state ∧ state.core.client.Quiet) :
        Tracks (Bridge.step digests dmr cfg state event).1 ∧
          (Bridge.step digests dmr cfg state event).1.core.client.Quiet :=
      ⟨law.1.step digests dmr tracking event, quiet_step law.1 law.2 digests dmr tracking guarded⟩
    refine met.along (fun _ state => Tracks state ∧ state.core.client.Quiet) kept
      (fun log state event guarded law gone _ _ => ?_) start
    obtain ⟨tracks, quiet⟩ := kept log state event guarded law
    exact quiet (tracks.active.trans gone)

theorem logged_out_iff_login :
    (bridge loginDigests dmrCodec {}).Meets
      (fun _ state event => LoggedOut (Bridge.step loginDigests dmrCodec {} state event).1) []
      (Bridge.initial {}) loginRun :=
  (logged_out_iff loginDigests dmrCodec rfl loginRun).mpr (by decide +kernel)

/-- The repeater leaves while the endpoint is being created, and the master accepts the login. -/
def lateEndpointRun : List BridgeEvent :=
  [.ipsc .connectionMade firstDraw fun _ => 0, clientEvent .start 0, registration,
    clientEvent .loopTop 2, peerSends [deRegReq, 0, 0, 0, 1] 3, clientEvent .endpointCreated 4] ++
    List.replicate 3 (clientEvent (.datagramReceived (hbpfRptack ++ [1, 2, 3, 4]) 5) 5)

/-- The client is logged in at the master although no peer is registered and nothing is pending. -/
theorem logged_out_lateEndpoint :
    ¬ LoggedOut ((bridge loginDigests dmrCodec {}).run (Bridge.initial {}) lateEndpointRun).1 := by
  intro out
  have client :
      ((bridge loginDigests dmrCodec {}).run (Bridge.initial {}) lateEndpointRun).1.core.client =
        ⟨true, some ⟨.connected, true, 5, true⟩, false, .waitDone, 1⟩ := by decide +kernel
  unfold LoggedOut at out
  rw [client] at out
  have down := out (by decide +kernel) (by simp [HbpClient.ConnectPending])
    (by simp [HbpClient.ClosePending]) _ rfl
  cases down

namespace HbpClient

/-- The connect task exists and has not finished. -/
def HasTask (client : HbpClient) : Prop := client.task ≠ .unset ∧ client.task ≠ .finished

/-- There is no connect task before `start`. -/
def TaskStarted (client : HbpClient) : Prop := client.started = false → client.task = .unset

theorem TaskStarted.activate {client : HbpClient} (law : client.TaskStarted) :
    client.activate.1.TaskStarted := by
  unfold HbpClient.activate
  split
  case isTrue => exact law
  case isFalse =>
    dsimp only
    split
    case isTrue =>
      split
      case isTrue started =>
        intro unstarted
        rw [started] at unstarted
        cases unstarted
      case isFalse => exact law
    case isFalse => exact law

theorem TaskStarted.deactivate {client : HbpClient} (law : client.TaskStarted) (cfg : Config) :
    (client.deactivate cfg).1.TaskStarted := by
  unfold HbpClient.deactivate onProtocol
  split
  case isTrue => exact law
  case isFalse => split <;> exact law

/-- A callback leaves the task alone, or there is a task. -/
theorem TaskStarted.step {client : HbpClient} (law : client.TaskStarted) (digests : Digests)
    (cfg : Config) (event : HbpEvent) : (client.step digests cfg event).1.TaskStarted := by
  have onProtocol (handler : HbpProtocol → HbpProtocol × List HbpOutput) :
      (client.onProtocol handler).1.TaskStarted := by
    unfold HbpClient.onProtocol
    split <;> exact law
  have absurdTask {task : ConnectTask} {goal : Prop} (here : client.task = task) (some : task ≠ .unset)
      (unstarted : client.started = false) : goal := absurd (here.symm.trans (law unstarted)) some
  cases event with
  | start =>
      have set : { client with started := true }.TaskStarted := fun unstarted => by cases unstarted
      simp only [HbpClient.step, HbpClient.start]
      split
      · exact set.activate
      · exact set
  | loopTop =>
      simp only [HbpClient.step]
      split
      case isTrue here =>
        intro unstarted
        have none := law unstarted
        simp [none] at here
      case isFalse => exact law
  | endpointCreated =>
      simp only [HbpClient.step]
      split
      case isTrue here => exact fun unstarted => absurdTask here (by decide) unstarted
      case isFalse => exact law
  | endpointFailed =>
      simp only [HbpClient.step]
      split
      case isTrue here => exact fun unstarted => absurdTask here (by decide) unstarted
      case isFalse => exact law
  | doneWaited =>
      simp only [HbpClient.step]
      split
      case isTrue here =>
        intro unstarted
        have none := law unstarted
        simp [none] at here
      case isFalse => exact law
  | connectionLost =>
      simp only [HbpClient.step]
      split
      · exact law
      · split <;> exact law
  | errorReceived | datagramReceived | keepalive => exact onProtocol _

/-- The task of an active client that has been started is running. -/
def Running (client : HbpClient) : Prop :=
  client.started = true → client.active = true → client.HasTask

/-- An inactive client starts a task when it is activated, unless it has one. -/
theorem Running.activate {client : HbpClient} (running : client.Running) :
    client.activate.1.Running := by
  unfold HbpClient.activate
  split
  case isTrue => exact running
  case isFalse =>
    dsimp only
    split
    case isTrue =>
      split
      case isTrue => exact fun _ _ => ⟨ConnectTask.noConfusion, ConnectTask.noConfusion⟩
      case isFalse unstarted => exact fun started => absurd started unstarted
    case isFalse busy =>
      intro _ _
      simp only [Bool.or_eq_true, decide_eq_true_eq, not_or] at busy
      exact busy

theorem running_inactive {client : HbpClient} (inactive : client.active = false) :
    client.Running := fun _ active => by
  rw [inactive] at active
  cases active

/-- The task of an active client goes on. `start` finds the client inactive or started. -/
theorem Running.step {client : HbpClient} (running : client.Running) (digests : Digests)
    {cfg : Config} {event : HbpEvent} (early : event = .start → client.started = false → client.active = false) :
    (client.step digests cfg event).1.Running := by
  have onProtocol (handler : HbpProtocol → HbpProtocol × List HbpOutput) :
      (client.onProtocol handler).1.Running := by
    unfold HbpClient.onProtocol
    split <;> exact running
  have retry : client.retry.Running := fun _ active => by
    have active : client.active = true := active
    simp [HasTask, HbpClient.retry, active]
  cases event with
  | start =>
      have set : { client with started := true }.Running := fun _ active => by
        cases started : client.started with
        | true => exact running started active
        | false =>
            rw [early rfl started] at active
            cases active
      simp only [HbpClient.step, HbpClient.start]
      split
      · exact set.activate
      · exact set
  | loopTop =>
      simp only [HbpClient.step]
      split
      case isTrue =>
        intro _ active
        have active : client.active = true := active
        simp [HasTask, active]
      case isFalse => exact running
  | endpointCreated =>
      simp only [HbpClient.step]
      split
      · exact fun _ _ => ⟨ConnectTask.noConfusion, ConnectTask.noConfusion⟩
      · exact running
  | endpointFailed | doneWaited =>
      simp only [HbpClient.step]
      split
      · exact retry
      · exact running
  | connectionLost =>
      simp only [HbpClient.step]
      split
      · exact running
      · split <;> exact running
  | errorReceived | datagramReceived | keepalive => exact onProtocol _

end HbpClient

/-- Once the client has been started, a registered peer finds it active with a running task. -/
def Ready (state : Bridge) : Prop :=
  state.core.client.started = true → state.ipsc.isPeerRegistered = true →
    state.core.client.active = true ∧ state.core.client.HasTask

/-- The client is started while no peer is registered. -/
def StartGuarded (state : Bridge) : BridgeEvent → Prop
  | .hbp .start .. => state.core.client.started = false → state.ipsc.isPeerRegistered = false
  | _ => True

instance (state : Bridge) (event : BridgeEvent) : Decidable (StartGuarded state event) := by
  unfold StartGuarded
  split <;> infer_instance

theorem taskStarted_step {state : Bridge} (tracks : Tracks state)
    (law : state.core.client.TaskStarted) (digests : Digests) (dmr : DmrUtils) {cfg : Config}
    (tracking : cfg.hbpMode = .tracking) (event : BridgeEvent) :
    (Bridge.step digests dmr cfg state event).1.core.client.TaskStarted := by
  obtain ⟨stepped, -⟩ := Bridge.step_tracking digests dmr tracking tracks.reported event
  generalize (Bridge.step digests dmr cfg state event).1 = after at stepped
  cases stepped with
  | still _ _ client => rw [client]; exact law
  | gained _ _ _ client => rw [client]; exact law.activate
  | lost _ _ _ client => rw [client]; exact law.deactivate cfg
  | hbp event draw clock _ client => rw [client]; exact law.step digests cfg event

/-- A guarded callback keeps the task of an active client running. -/
theorem running_step {state : Bridge} (tracks : Tracks state) (running : state.core.client.Running)
    (digests : Digests) (dmr : DmrUtils) {cfg : Config} (tracking : cfg.hbpMode = .tracking)
    {event : BridgeEvent} (guarded : StartGuarded state event) :
    (Bridge.step digests dmr cfg state event).1.core.client.Running := by
  obtain ⟨stepped, -⟩ := Bridge.step_tracking digests dmr tracking tracks.reported event
  generalize (Bridge.step digests dmr cfg state event).1 = after at stepped
  cases stepped with
  | still _ _ client => rw [client]; exact running
  | gained _ _ _ client => rw [client]; exact running.activate
  | lost _ _ _ client =>
      rw [client]
      exact HbpClient.running_inactive (HbpClient.deactivate_active cfg _)
  | hbp event draw clock _ client =>
      rw [client]
      refine running.step digests fun starts unstarted => ?_
      subst starts
      exact tracks.active.trans (guarded unstarted)

/-- A client that is started while a peer is registered has no task. -/
theorem guarded_of_ready {state : Bridge} (tracks : Tracks state)
    (law : state.core.client.TaskStarted) (digests : Digests) (dmr : DmrUtils) {cfg : Config}
    (tracking : cfg.hbpMode = .tracking) {event : BridgeEvent}
    (ready : Ready (Bridge.step digests dmr cfg state event).1) : StartGuarded state event := by
  obtain ⟨stepped, -⟩ := Bridge.step_tracking digests dmr tracking tracks.reported event
  generalize (Bridge.step digests dmr cfg state event).1 = after at stepped ready
  cases stepped with
  | still foreign | gained foreign | lost foreign =>
      cases event with
      | hbp event draw clock => exact absurd rfl (foreign event draw clock)
      | ipsc | drain => trivial
  | hbp event draw clock ipsc client =>
      cases event with
      | start =>
          intro unstarted
          by_contra registered
          have registered : state.ipsc.isPeerRegistered = true := by simpa using registered
          have begun : after.core.client = { state.core.client with started := true } := by
            rw [client]
            simp [HbpClient.step, HbpClient.start, tracking]
          obtain ⟨-, some, -⟩ := ready (by rw [begun]) (by rw [ipsc, registered])
          rw [begun] at some
          exact some (law unstarted)
      | loopTop | endpointCreated | endpointFailed | doneWaited | connectionLost | errorReceived
      | datagramReceived | keepalive => trivial

/-- In TRACKING mode every state of a run is ready exactly when the client is started while no peer is
registered. -/
theorem ready_iff (digests : Digests) (dmr : DmrUtils) {cfg : Config}
    (tracking : cfg.hbpMode = .tracking) (events : List BridgeEvent) :
    (bridge digests dmr cfg).Meets
        (fun _ state event => Ready (Bridge.step digests dmr cfg state event).1) []
        (Bridge.initial cfg) events ↔
      (bridge digests dmr cfg).Meets (fun _ state event => StartGuarded state event) []
        (Bridge.initial cfg) events := by
  have initial := tracks_initial cfg
  have unstarted : (Bridge.initial cfg).core.client.TaskStarted := fun _ => rfl
  have kept (state : Bridge) (event : BridgeEvent)
      (law : Tracks state ∧ state.core.client.TaskStarted) :
      Tracks (Bridge.step digests dmr cfg state event).1 ∧
        (Bridge.step digests dmr cfg state event).1.core.client.TaskStarted :=
    ⟨law.1.step digests dmr tracking event, taskStarted_step law.1 law.2 digests dmr tracking event⟩
  constructor
  · intro met
    exact met.along (fun _ state => Tracks state ∧ state.core.client.TaskStarted)
      (fun _ state event _ law => kept state event law)
      (fun _ _ _ ready law => guarded_of_ready law.1 law.2 digests dmr tracking ready)
      ⟨initial, unstarted⟩
  · intro met
    have runs (log : List BridgeOutput) (state : Bridge) (event : BridgeEvent)
        (guarded : StartGuarded state event)
        (law : Tracks state ∧ state.core.client.Running) :
        Tracks (Bridge.step digests dmr cfg state event).1 ∧
          (Bridge.step digests dmr cfg state event).1.core.client.Running :=
      ⟨law.1.step digests dmr tracking event, running_step law.1 law.2 digests dmr tracking guarded⟩
    refine met.along (fun _ state => Tracks state ∧ state.core.client.Running) runs
      (fun log state event guarded law started registered => ?_)
      ⟨initial, HbpClient.running_inactive rfl⟩
    obtain ⟨tracks, running⟩ := runs log state event guarded law
    have active := tracks.active.trans registered
    exact ⟨active, running started active⟩

theorem ready_iff_login :
    (bridge loginDigests dmrCodec {}).Meets
      (fun _ state event => Ready (Bridge.step loginDigests dmrCodec {} state event).1) []
      (Bridge.initial {}) loginRun :=
  (ready_iff loginDigests dmrCodec rfl loginRun).mpr (by decide +kernel)

/-- The repeater registers before the client is started. -/
def earlyRegistrationRun : List BridgeEvent :=
  [.ipsc .connectionMade firstDraw fun _ => 0, registration, clientEvent .start 2]

/-- The peer is registered and the client has been started, but there is no connect task. -/
theorem ready_earlyRegistration :
    ¬ Ready ((bridge loginDigests dmrCodec {}).run (Bridge.initial {}) earlyRegistrationRun).1 := by
  intro ready
  obtain ⟨-, some, -⟩ := ready (by decide +kernel) (by decide +kernel)
  revert some
  decide +kernel

/-- What happens to the client: its callbacks and task steps, and the translator's calls. -/
inductive ClientCall where
  | event (event : HbpEvent)
  | activate
  | deactivate

/-- The client under any order of callbacks and calls. -/
def hbpClient (digests : Digests) (cfg : Config) : Mealy HbpClient ClientCall HbpOutput where
  step client
    | .event event => client.step digests cfg event
    | .activate => client.activate
    | .deactivate => client.deactivate cfg

/-- A CONNECTED protocol has its keepalive task; a DISCONNECTED one has closed its transport. -/
structure HbpProtocol.Timed (proto : HbpProtocol) : Prop where
  connected : proto.state = .connected → proto.pingTask = true
  disconnected : proto.state = .disconnected → proto.transport = false

namespace HbpProtocol

theorem disconnect_timed (cfg : Config) (sendRptcl : Bool) (proto : HbpProtocol) :
    (proto.disconnect cfg sendRptcl).1.Timed := ⟨HbpState.noConfusion, fun _ => rfl⟩

theorem Timed.errorReceived {proto : HbpProtocol} (timed : proto.Timed) (cfg : Config) :
    (proto.errorReceived cfg).1.Timed := by
  unfold HbpProtocol.errorReceived
  split
  · exact timed
  · exact disconnect_timed cfg false proto

theorem Timed.keepalive {proto : HbpProtocol} (timed : proto.Timed) (cfg : Config) (now : Time) :
    (proto.keepalive cfg now).1.Timed := by
  unfold HbpProtocol.keepalive
  split
  · exact timed
  · dsimp only
    split
    · exact disconnect_timed cfg false proto
    · exact timed

theorem Timed.onRptack {proto : HbpProtocol} (timed : proto.Timed) (digests : Digests) (cfg : Config)
    (data : Bytes) (now : Time) : (proto.onRptack digests cfg data now).1.Timed := by
  have up : (proto.becomeConnected now).1.Timed := ⟨fun _ => rfl, HbpState.noConfusion⟩
  unfold HbpProtocol.onRptack
  cases state : proto.state with
  | login =>
      dsimp only
      split
      · exact timed
      · exact ⟨HbpState.noConfusion, HbpState.noConfusion⟩
  | authSent => exact ⟨HbpState.noConfusion, HbpState.noConfusion⟩
  | configSent =>
      dsimp only
      split
      · exact ⟨HbpState.noConfusion, HbpState.noConfusion⟩
      · exact up
  | optionsSent => exact up
  | connected | disconnected => exact timed

theorem Timed.datagramReceived {proto : HbpProtocol} (timed : proto.Timed) (digests : Digests)
    (cfg : Config) (data : Bytes) (now : Time) :
    (proto.datagramReceived digests cfg data now).1.Timed := by
  unfold HbpProtocol.datagramReceived
  split_ifs
  · exact timed
  · exact timed.onRptack digests cfg data now
  · exact disconnect_timed cfg false proto
  · exact ⟨timed.connected, timed.disconnected⟩
  · exact disconnect_timed cfg false proto
  · exact timed
  · exact timed
  · exact timed

end HbpProtocol

/-- The law of the client: its tasks and the timers of its protocol. -/
structure HbpClient.Lawful (client : HbpClient) : Prop where
  sound : client.Sound
  taskStarted : client.TaskStarted
  finished : client.active = true → client.task ≠ .finished
  timed : ∀ proto, client.protocol = some proto → proto.Timed

namespace HbpClient

/-- The finished task of an active client is replaced. -/
theorem activate_finished {client : HbpClient} (law : client.TaskStarted)
    (finished : client.active = true → client.task ≠ .finished) :
    client.activate.1.task ≠ .finished := by
  unfold HbpClient.activate
  split
  case isTrue active => exact finished active
  case isFalse =>
    dsimp only
    split
    case isTrue =>
      split
      case isTrue => exact ConnectTask.noConfusion
      case isFalse unstarted =>
        have unset := law (by simpa using unstarted)
        simp [unset]
    case isFalse busy =>
      simp only [Bool.or_eq_true, decide_eq_true_eq, not_or] at busy
      exact busy.2

/-- The task of an active client does not finish. -/
theorem step_finished {client : HbpClient}
    (finished : client.active = true → client.task ≠ .finished) (digests : Digests) (cfg : Config)
    (event : HbpEvent) : (client.step digests cfg event).1.active = true →
      (client.step digests cfg event).1.task ≠ .finished := by
  have onProtocol (handler : HbpProtocol → HbpProtocol × List HbpOutput) :
      (client.onProtocol handler).1.active = true → (client.onProtocol handler).1.task ≠ .finished := by
    unfold HbpClient.onProtocol
    split <;> exact finished
  have retry : client.retry.active = true → client.retry.task ≠ .finished := fun active => by
    have active : client.active = true := active
    simp [HbpClient.retry, active]
  cases event with
  | start =>
      have set : { client with started := true }.TaskStarted := Bool.noConfusion
      simp only [HbpClient.step, HbpClient.start]
      split
      · exact fun _ => activate_finished set finished
      · exact finished
  | loopTop =>
      simp only [HbpClient.step]
      split
      · intro active
        have active : client.active = true := active
        simp [active]
      · exact finished
  | endpointCreated =>
      simp only [HbpClient.step]
      split
      · exact fun _ => ConnectTask.noConfusion
      · exact finished
  | endpointFailed | doneWaited =>
      simp only [HbpClient.step]
      split
      · exact retry
      · exact finished
  | connectionLost =>
      simp only [HbpClient.step]
      split
      · exact finished
      · split <;> exact finished
  | errorReceived | datagramReceived | keepalive => exact onProtocol _

/-- Every callback keeps the timers of the protocol. -/
theorem step_timed {client : HbpClient}
    (timed : ∀ proto, client.protocol = some proto → proto.Timed) (digests : Digests) (cfg : Config)
    (event : HbpEvent) :
    ∀ proto, (client.step digests cfg event).1.protocol = some proto → proto.Timed := by
  have onProtocol (handler : HbpProtocol → HbpProtocol × List HbpOutput)
      (keeps : ∀ proto, proto.Timed → (handler proto).1.Timed) :
      ∀ proto, (client.onProtocol handler).1.protocol = some proto → proto.Timed := by
    unfold HbpClient.onProtocol
    split
    · exact timed
    · intro proto present
      obtain rfl := Option.some.inj present
      exact keeps _ (timed _ (by assumption))
  cases event with
  | start =>
      simp only [HbpClient.step, HbpClient.start]
      split
      · rw [activate_protocol]
        exact timed
      · exact timed
  | loopTop | endpointFailed | doneWaited =>
      simp only [HbpClient.step]
      split <;> exact timed
  | endpointCreated =>
      simp only [HbpClient.step]
      split
      · intro proto present
        obtain rfl := Option.some.inj present
        exact ⟨HbpState.noConfusion, HbpState.noConfusion⟩
      · exact timed
  | connectionLost =>
      simp only [HbpClient.step]
      split
      · exact timed
      · split
        · exact timed
        · exact fun _ present => by cases present
  | errorReceived => exact onProtocol _ fun _ timed => timed.errorReceived cfg
  | datagramReceived data now =>
      refine onProtocol _ fun proto timed => ?_
      split
      · exact timed.datagramReceived digests cfg data now
      · exact timed
  | keepalive now =>
      refine onProtocol _ fun proto timed => ?_
      split
      · exact timed.keepalive cfg now
      · exact timed

theorem Lawful.step {client : HbpClient} (lawful : client.Lawful) (digests : Digests) (cfg : Config)
    (call : ClientCall) : ((hbpClient digests cfg).step client call).1.Lawful := by
  cases call with
  | event event =>
      exact ⟨(client_step digests cfg lawful.sound event).sound, lawful.taskStarted.step digests cfg event,
        step_finished lawful.finished digests cfg event, step_timed lawful.timed digests cfg event⟩
  | activate =>
      refine ⟨(activate_step lawful.sound False).sound, lawful.taskStarted.activate,
        fun _ => activate_finished lawful.taskStarted lawful.finished, ?_⟩
      have same := client.activate_protocol
      intro proto present
      exact lawful.timed proto (same ▸ present)
  | deactivate =>
      refine ⟨(deactivate_step cfg lawful.sound).sound, lawful.taskStarted.deactivate cfg, ?_, ?_⟩
      · intro active
        have inactive := client.deactivate_active cfg
        rw [show (client.deactivate cfg).1.active = true from active] at inactive
        cases inactive
      · show ∀ proto, (client.deactivate cfg).1.protocol = some proto → proto.Timed
        unfold HbpClient.deactivate onProtocol
        split
        · exact lawful.timed
        · dsimp only
          split
          · exact lawful.timed
          · intro proto present
            obtain rfl := Option.some.inj present
            exact HbpProtocol.disconnect_timed cfg true _

theorem lawful_initial : ({} : HbpClient).Lawful where
  sound := ⟨fun some => absurd rfl some, fun _ present => by cases present⟩
  taskStarted _ := rfl
  finished _ := ConnectTask.noConfusion
  timed _ present := by cases present

end HbpClient

end Ipsc2Hbp
