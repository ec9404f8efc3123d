import Ipsc2Hbp.Library.Mealy
import Ipsc2Hbp.Proof.ClientLife
import Ipsc2Hbp.Proof.Fallible

namespace Ipsc2Hbp
open BigEndian

/-- What happens to a client over a socket that may fail: its callbacks and task steps, and the
translator's calls. -/
inductive FallibleCall where
  | event (event : HbpEvent) (failed : Bool)
  | activate
  | deactivate (failed : Bool)
  | sendDmrd (data : Bytes) (failed : Bool)

/-- The client under any order of callbacks and calls, whose sends may fail. -/
def fallibleClient (digests : Digests) (cfg : Config) : Mealy HbpClient FallibleCall HbpOutput where
  step client
    | .event event failed => Fallible.clientStep digests cfg failed client event
    | .activate => client.activate
    | .deactivate failed => Fallible.deactivate cfg failed client
    | .sendDmrd data failed => client.onProtocol (Fallible.sendDmrd cfg failed data)

/-- A protocol that has been DISCONNECTED. -/
structure HbpProtocol.Dead (proto : HbpProtocol) : Prop where
  disconnected : proto.state = .disconnected
  closed : proto.transport = false

/-- A CONNECTED protocol has its transport and its keepalive task; a DISCONNECTED one has closed its
transport. -/
structure HbpProtocol.Kept (proto : HbpProtocol) : Prop where
  connected : proto.state = .connected → proto.transport = true ∧ proto.pingTask = true
  disconnected : proto.state = .disconnected → proto.transport = false

theorem HbpProtocol.Dead.kept {proto : HbpProtocol} (dead : proto.Dead) : proto.Kept :=
  ⟨fun up => absurd (up.symm.trans dead.disconnected) HbpState.noConfusion, fun _ => dead.closed⟩

/-- A callback that keeps this law and leaves a dead protocol dead. -/
structure Settles (handler : HbpProtocol → HbpProtocol × List HbpOutput) : Prop where
  kept : ∀ proto, proto.Kept → (handler proto).1.Kept
  dead : ∀ proto, proto.Dead → (handler proto).1.Dead

namespace Settles
variable (cfg : Config)

/-- A callback that closes the protocol. -/
theorem closing {handler : HbpProtocol → HbpProtocol × List HbpOutput}
    (closed : ∀ proto, (handler proto).1.Dead) : Settles handler :=
  ⟨fun proto _ => (closed proto).kept, fun proto _ => closed proto⟩

theorem disconnect (failed sendRptcl : Bool) : Settles (Fallible.disconnect cfg failed sendRptcl) :=
  closing fun _ => ⟨rfl, rfl⟩

theorem errorReceived : Settles fun proto => proto.errorReceived cfg := by
  refine ⟨fun proto kept => ?_, fun proto dead => ?_⟩
  · unfold HbpProtocol.errorReceived
    split
    · exact kept
    · exact HbpProtocol.Dead.kept ⟨rfl, rfl⟩
  · rw [HbpProtocol.errorReceived, if_pos dead.disconnected]
    exact dead

theorem sendto (failed : Bool) (output : HbpOutput) : Settles (Fallible.sendto cfg failed output) := by
  have received := errorReceived cfg
  cases failed with
  | false => exact ⟨fun _ => id, fun _ => id⟩
  | true => exact ⟨received.kept, received.dead⟩

theorem sendRaw (failed : Bool) (data : Bytes) : Settles (Fallible.sendRaw cfg failed data) := by
  have sent := sendto cfg failed (.send data)
  constructor <;> intro proto law <;> unfold Fallible.sendRaw <;> split
  · exact sent.kept proto law
  · exact law
  · exact sent.dead proto law
  · exact law

theorem sendDmrd (failed : Bool) (data : Bytes) : Settles (Fallible.sendDmrd cfg failed data) := by
  have sent := sendto cfg failed (.sendDmrd data)
  constructor <;> intro proto law <;> unfold Fallible.sendDmrd <;> split
  · exact sent.kept proto law
  · exact law
  · exact sent.dead proto law
  · exact law

theorem keepalive (failed : Bool) (now : Time) :
    Settles fun proto => if proto.pingTask then Fallible.keepalive cfg failed now proto else (proto, []) := by
  have pinged := sendRaw cfg failed (hbpfRptping ++ radioId cfg)
  have one (proto : HbpProtocol) (kept : proto.Kept) :
      (Fallible.keepalive cfg failed now proto).1.Kept := by
    unfold Fallible.keepalive
    split
    · exact kept
    · dsimp only
      split
      · exact HbpProtocol.Dead.kept ⟨rfl, rfl⟩
      · exact pinged.kept proto kept
  refine ⟨fun proto kept => ?_, fun proto dead => ?_⟩
  · split
    · exact one proto kept
    · exact kept
  · split
    · have down : proto.state ≠ .connected := by rw [dead.disconnected]; decide
      rw [Fallible.keepalive, if_pos down]
      exact dead
    · exact dead

/-- An attached protocol that gets an RPTACK is CONNECTED or in the next state of the login. -/
theorem onRptack (digests : Digests) (failed : Bool) (data : Bytes) (now : Time) {proto : HbpProtocol}
    (kept : proto.Kept) (attached : proto.transport = true) :
    (Fallible.onRptack digests cfg failed data now proto).1.Kept := by
  have up : (proto.becomeConnected now).1.Kept := ⟨fun _ => ⟨attached, rfl⟩, HbpState.noConfusion⟩
  unfold Fallible.onRptack
  cases state : proto.state with
  | login =>
      dsimp only
      split
      · exact kept
      · exact ⟨HbpState.noConfusion, HbpState.noConfusion⟩
  | authSent => exact ⟨HbpState.noConfusion, HbpState.noConfusion⟩
  | configSent =>
      dsimp only
      split
      · exact ⟨HbpState.noConfusion, HbpState.noConfusion⟩
      · exact up
  | optionsSent => exact up
  | connected | disconnected => exact kept

theorem datagramReceived (digests : Digests) (failed : Bool) (data : Bytes) (now : Time) :
    Settles fun proto => if proto.transport then
      Fallible.datagramReceived digests cfg failed data now proto else (proto, []) := by
  refine ⟨fun proto kept => ?_, fun proto dead => ?_⟩
  · split
    case isFalse => exact kept
    case isTrue attached =>
      unfold Fallible.datagramReceived
      split
      · exact onRptack cfg digests failed data now kept attached
      · have closed : (proto.disconnect cfg false).1.Kept := HbpProtocol.Dead.kept ⟨rfl, rfl⟩
        unfold HbpProtocol.datagramReceived
        rename_i other
        rw [if_neg other]
        split_ifs
        · exact kept
        · exact closed
        · exact ⟨kept.connected, kept.disconnected⟩
        · exact closed
        · exact kept
        · exact kept
        · exact kept
  · rw [dead.closed]
    exact dead

end Settles

/-- The law of a client whose sends may fail: a protocol that the connect task does not wait for is
dead. -/
structure HbpClient.Settled (client : HbpClient) : Prop where
  left : ∀ proto, client.protocol = some proto → client.task ≠ .waitDone → proto.Dead
  kept : ∀ proto, client.protocol = some proto → proto.Kept
  fresh : client.task = .unset → client.protocol = none
  taskStarted : client.TaskStarted
  finished : client.active = true → client.task ≠ .finished

namespace HbpClient

theorem settled_initial : ({} : HbpClient).Settled where
  left _ present := by cases present
  kept _ present := by cases present
  fresh _ := rfl
  taskStarted _ := rfl
  finished _ := ConnectTask.noConfusion

/-- A callback of the protocol leaves the connect task alone. -/
theorem Settled.onProtocol {client : HbpClient} (settled : client.Settled)
    {handler : HbpProtocol → HbpProtocol × List HbpOutput} (keeps : Settles handler) :
    (client.onProtocol handler).1.Settled := by
  unfold HbpClient.onProtocol
  cases present : client.protocol with
  | none => exact settled
  | some old =>
      refine ⟨?_, ?_, fun unset => ?_, settled.taskStarted, settled.finished⟩
      · intro proto same busy
        obtain rfl := Option.some.inj same
        exact keeps.dead old (settled.left old present busy)
      · intro proto same
        obtain rfl := Option.some.inj same
        exact keeps.kept old (settled.kept old present)
      · rw [settled.fresh unset] at present
        cases present

theorem Settled.activate {client : HbpClient} (settled : client.Settled) : client.activate.1.Settled := by
  have finished := activate_finished settled.taskStarted settled.finished
  have started := settled.taskStarted.activate
  have protocol := client.activate_protocol
  refine ⟨fun proto present busy => ?_, fun proto present => ?_, fun unset => ?_, started,
    fun _ => finished⟩
  · rw [protocol] at present
    refine settled.left proto present fun waits => busy ?_
    unfold HbpClient.activate
    split
    · exact waits
    · simp [waits]
  · exact settled.kept proto (protocol ▸ present)
  · rw [protocol]
    refine settled.fresh ?_
    unfold HbpClient.activate at unset
    split at unset
    · exact unset
    · dsimp only at unset
      split at unset
      · split at unset
        · cases unset
        · exact unset
      · exact unset

theorem Settled.deactivate {client : HbpClient} (settled : client.Settled) (cfg : Config)
    (failed : Bool) : (Fallible.deactivate cfg failed client).1.Settled := by
  unfold Fallible.deactivate
  split
  · exact settled
  · have off : { client with active := false }.Settled :=
      ⟨settled.left, settled.kept, settled.fresh, settled.taskStarted, Bool.noConfusion⟩
    exact off.onProtocol (.disconnect cfg failed true)

/-- The connect task moves on from a place where it has nothing to wait for. -/
theorem Settled.retry {client : HbpClient}
    (left : ∀ proto, client.protocol = some proto → proto.Dead) (started : client.started = true) :
    client.retry.Settled := by
  refine ⟨fun proto present _ => left proto present, fun proto present => (left proto present).kept,
    fun unset => ?_, fun unstarted => ?_, fun active => ?_⟩
  · simp only [HbpClient.retry] at unset
    split at unset <;> cases unset
  · have unstarted : client.started = false := unstarted
    rw [started] at unstarted
    cases unstarted
  · have active : client.active = true := active
    simp [HbpClient.retry, active]

/-- A client whose connect task has been made has been started. -/
theorem Settled.started {client : HbpClient} (settled : client.Settled) (made : client.task ≠ .unset) :
    client.started = true := by
  by_contra unstarted
  exact made (settled.taskStarted (by simpa using unstarted))

theorem Settled.event {client : HbpClient} (settled : client.Settled) (digests : Digests) (cfg : Config)
    (failed : Bool) (event : HbpEvent) :
    (Fallible.clientStep digests cfg failed client event).1.Settled := by
  cases event with
  | start =>
      have set : { client with started := true }.Settled :=
        ⟨settled.left, settled.kept, settled.fresh, Bool.noConfusion, settled.finished⟩
      show (client.start cfg).1.Settled
      unfold HbpClient.start
      dsimp only
      split
      · exact set.activate
      · exact set
  | loopTop =>
      show (client.step digests cfg .loopTop).1.Settled
      simp only [HbpClient.step]
      split
      case isFalse => exact settled
      case isTrue idle =>
        have made : client.task ≠ .unset := fun unset => by simp [unset] at idle
        have busy : client.task ≠ .waitDone := fun waits => by simp [waits] at idle
        have started := settled.started made
        refine ⟨fun proto present _ => settled.left proto present busy, settled.kept, fun unset => ?_,
          fun unstarted => absurd (started.symm.trans unstarted) Bool.noConfusion, fun active => ?_⟩
        · dsimp only at unset
          split at unset <;> cases unset
        · have active : client.active = true := active
          simp [active]
  | endpointCreated =>
      simp only [Fallible.clientStep]
      split
      case isFalse => exact settled
      case isTrue connecting =>
        have started : client.started = true := settled.started (by rw [connecting]; decide)
        cases failed with
        | true =>
            refine Settled.retry (fun proto present => ?_) started
            obtain rfl := Option.some.inj present
            exact ⟨rfl, rfl⟩
        | false =>
            refine ⟨fun _ _ busy => absurd rfl busy, fun proto present => ?_, ConnectTask.noConfusion,
              fun unstarted => absurd (started.symm.trans unstarted) Bool.noConfusion,
              fun _ => ConnectTask.noConfusion⟩
            obtain rfl := Option.some.inj present
            exact ⟨HbpState.noConfusion, HbpState.noConfusion⟩
  | endpointFailed =>
      show (client.step digests cfg .endpointFailed).1.Settled
      simp only [HbpClient.step]
      split
      case isFalse => exact settled
      case isTrue connecting =>
        exact .retry (fun proto present => settled.left proto present (by rw [connecting]; decide))
          (settled.started (by rw [connecting]; decide))
  | doneWaited =>
      show (client.step digests cfg .doneWaited).1.Settled
      simp only [HbpClient.step]
      split
      case isFalse => exact settled
      case isTrue lost =>
        simp only [Bool.and_eq_true, decide_eq_true_eq, Option.isNone_iff_eq_none] at lost
        refine .retry (fun proto present => ?_) (settled.started (by rw [lost.1]; decide))
        rw [lost.2] at present
        cases present
  | connectionLost =>
      simp only [Fallible.clientStep]
      split
      case isFalse => exact settled
      case isTrue waits =>
        simp only [HbpClient.step]
        split
        · exact settled
        · split
          · exact settled
          · exact ⟨by simp, by simp, fun _ => rfl, settled.taskStarted, settled.finished⟩
  | errorReceived => exact settled.onProtocol (.errorReceived cfg)
  | datagramReceived data now => exact settled.onProtocol (.datagramReceived cfg digests failed data now)
  | keepalive now => exact settled.onProtocol (.keepalive cfg failed now)

theorem Settled.step {client : HbpClient} (settled : client.Settled) (digests : Digests) (cfg : Config)
    (call : FallibleCall) : ((fallibleClient digests cfg).step client call).1.Settled := by
  cases call with
  | event event failed => exact settled.event digests cfg failed event
  | activate => exact settled.activate
  | deactivate failed => exact settled.deactivate cfg failed
  | sendDmrd data failed => exact settled.onProtocol (.sendDmrd cfg failed data)

/-- A timer or a scheduled step of the client's own will go on: a step of the connect task, the
`connection_lost` for which it waits, or the keepalive task of a session. -/
def SelfDriven (client : HbpClient) : Prop :=
  client.ConnectPending ∨ (client.task = .waitDone ∧ client.ClosePending) ∨
    ∃ proto, client.protocol = some proto ∧ proto.state = .connected ∧ proto.pingTask = true

/-- The protocol waits for an RPTACK over an open transport. -/
def AwaitsRptack (client : HbpClient) : Prop :=
  ∃ proto, client.protocol = some proto ∧ proto.transport = true ∧
    (proto.state = .login ∨ proto.state = .authSent ∨ proto.state = .configSent ∨
      proto.state = .optionsSent)

/-- An active client that has been started goes on by itself unless its protocol waits for an RPTACK
or it has never had a connect task. -/
theorem Settled.selfDriven_iff {client : HbpClient} (settled : client.Settled)
    (active : client.active = true) :
    client.SelfDriven ↔ ¬ client.AwaitsRptack ∧ client.task ≠ .unset := by
  constructor
  · intro driven
    constructor
    · rintro ⟨proto, present, opened, login⟩
      have waiting : client.task = .waitDone := by
        by_contra busy
        rw [(settled.left proto present busy).closed] at opened
        cases opened
      rcases driven with pending | ⟨-, other, same, closed⟩ | ⟨other, same, up, -⟩
      · simp [ConnectPending, waiting, present] at pending
      · obtain rfl := Option.some.inj (present.symm.trans same)
        rw [closed] at opened
        cases opened
      · obtain rfl := Option.some.inj (present.symm.trans same)
        rcases login with state | state | state | state <;> simp [state] at up
    · intro unset
      have absent := settled.fresh unset
      rcases driven with pending | ⟨waits, -⟩ | ⟨proto, present, -⟩
      · simp [ConnectPending, unset] at pending
      · rw [unset] at waits
        cases waits
      · rw [absent] at present
        cases present
  · rintro ⟨patient, some⟩
    have unfinished := settled.finished active
    cases task : client.task with
    | unset => exact absurd task some
    | finished => exact absurd task unfinished
    | loopTop | connecting | sleeping => exact .inl (by simp [ConnectPending, task])
    | waitDone =>
        cases present : client.protocol with
        | none => exact .inl (by simp [ConnectPending, task, present])
        | some proto =>
            cases opened : proto.transport with
            | false => exact .inr (.inl ⟨task, proto, present, opened⟩)
            | true =>
                cases state : proto.state with
                | login | authSent | configSent | optionsSent =>
                    exact absurd ⟨proto, present, opened, by simp [state]⟩ patient
                | connected =>
                    exact .inr (.inr ⟨proto, present, state,
                      ((settled.kept proto present).connected state).2⟩)
                | disconnected =>
                    rw [(settled.kept proto present).disconnected state] at opened
                    cases opened

end HbpClient

/-- In every state that the client reaches, an active client that has been started goes on by itself
exactly when its protocol does not wait for an RPTACK over an open transport and it has had a connect
task. -/
theorem client_selfDriven_iff (digests : Digests) (cfg : Config) (calls : List FallibleCall) :
    let client := ((fallibleClient digests cfg).run {} calls).1
    client.active = true → client.started = true →
      (client.SelfDriven ↔ ¬ client.AwaitsRptack ∧ client.task ≠ .unset) := by
  intro client active _
  have settled : client.Settled := (fallibleClient digests cfg).run_invariant _
    (fun _ call settled => settled.step digests cfg call) {} calls HbpClient.settled_initial
  exact settled.selfDriven_iff active

/-- The client makes its endpoint and sends the RPTL. -/
def loginCalls : List FallibleCall :=
  [.event .start false, .activate, .event .loopTop false, .event .endpointCreated false]

/-- The `sendto` of the RPTK fails. -/
def failedRptkCalls : List FallibleCall :=
  loginCalls ++ [.event (.datagramReceived (hbpfRptack ++ [1, 2, 3, 4]) 5) true]

theorem client_selfDriven_iff_failedRptk :
    ((fallibleClient loginDigests {}).run {} failedRptkCalls).1.SelfDriven := by
  refine (client_selfDriven_iff loginDigests {} failedRptkCalls (by decide +kernel)
    (by decide +kernel)).mpr ⟨?_, by decide +kernel⟩
  have present : ((fallibleClient loginDigests {}).run {} failedRptkCalls).1.protocol =
      some ⟨.authSent, false, 0, false⟩ := by decide +kernel
  rintro ⟨proto, same, opened, -⟩
  rw [present] at same
  obtain rfl := Option.some.inj same
  cases opened

/-- After a lost RPTL nothing is pending. -/
theorem client_selfDriven_lostRptl :
    let client := ((fallibleClient loginDigests {}).run {} loginCalls).1
    client.active = true ∧ client.started = true ∧ ¬ client.SelfDriven := by
  intro client
  have reached : client = ⟨true, some ⟨.login, true, 0, false⟩, true, .waitDone, 1⟩ := by
    decide +kernel
  rw [reached]
  simp [HbpClient.SelfDriven, HbpClient.ConnectPending, HbpClient.ClosePending]

end Ipsc2Hbp
