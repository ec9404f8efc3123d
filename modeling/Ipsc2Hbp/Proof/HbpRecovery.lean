import Ipsc2Hbp.Proof.HbpConnects

namespace Ipsc2Hbp
open BigEndian

namespace HbpClient

/-- The protocol is closed, or it is CONNECTED and its last MSTPONG is too old. -/
def Over (now : Time) (client : HbpClient) : Prop :=
  ∀ proto ∈ client.protocol,
    proto.state = .disconnected ∨ (proto.state = .connected ∧ maxKaAge < now - proto.lastPong)

instance (now : Time) (client : HbpClient) : Decidable (client.Over now) :=
  inferInstanceAs (Decidable (∀ proto ∈ client.protocol, _))

/-- The callbacks of the client from the end of a session to its next attempt. -/
def redial (now : Time) : List HbpEvent := [.keepalive now, .connectionLost, .doneWaited, .loopTop]

/-- A keepalive round closes the session that has been silent. -/
theorem Lawful.keepalive_closes {client : HbpClient} (lawful : client.Lawful) {now : Time}
    (ended : client.Over now) (digests : Digests) (cfg : Config) {proto : HbpProtocol}
    (present : client.protocol = some proto) :
    ∃ closed : HbpProtocol, closed.transport = false ∧
      (client.step digests cfg (.keepalive now)).1 = { client with protocol := some closed } := by
  simp only [HbpClient.step, onProtocol, present]
  rcases ended proto present with down | ⟨up, silent⟩
  · refine ⟨proto, (lawful.timed proto present).disconnected down, ?_⟩
    split
    · rw [HbpProtocol.keepalive, if_pos (by rw [down]; decide)]
    · rfl
  · refine ⟨(proto.disconnect cfg false).1, rfl, ?_⟩
    rw [if_pos ((lawful.timed proto present).connected up), HbpProtocol.keepalive,
      if_neg (not_not_intro up)]
    simp only [if_pos silent]

/-- An active client whose session has ended comes back to its endpoint. -/
theorem Lawful.redials {client : HbpClient} (lawful : client.Lawful) (active : client.active = true)
    (tasked : client.task ≠ .unset) {now : Time} (ended : client.Over now) (digests : Digests)
    (cfg : Config) :
    ((hbpClient digests cfg).run client ((redial now).map .event)).1.task = .connecting := by
  have unfinished := lawful.finished active
  simp only [redial, List.map_cons, List.map_nil, Mealy.run_cons, Mealy.run_nil, hbpClient]
  cases present : client.protocol with
  | some proto =>
      obtain ⟨closed, shut, stepped⟩ := lawful.keepalive_closes ended digests cfg present
      have waiting : client.task = .waitDone := lawful.sound.waiting (by simp [present])
      rw [stepped]
      simp [HbpClient.step, shut, waiting, retry, active]
  | none =>
      cases task : client.task with
      | unset => exact absurd task tasked
      | finished => exact absurd task unfinished
      | loopTop | connecting | sleeping | waitDone =>
          simp [HbpClient.step, onProtocol, present, task, retry, active]

end HbpClient

namespace HbpLink

/-- The client stays lawful in every run with its master. -/
theorem run_lawful (digests : Digests) (dmr : DmrUtils) (cfg : Config) (passphrase : Bytes)
    (salt : StreamId) (events : List (Mealy.Transit (BridgeEvent ⊕ FakeEvent Nat) HbpChance)) :
    ((machine digests dmr cfg passphrase).run (initial cfg salt) events).1.1.1.core.client.Lawful := by
  have each (state : Bridge × FakeHbpMaster Nat) (event : BridgeEvent ⊕ FakeEvent Nat)
      (lawful : state.1.core.client.Lawful) :
      ((parties digests dmr cfg passphrase).step state event).1.1.core.client.Lawful := by
    cases event with
    | inr event => exact lawful
    | inl event =>
        obtain ⟨calls, -, driven, -⟩ := Bridge.step_drives digests dmr cfg state.1 event
        simp only [parties, Mealy.beside_inl, bridge]
        rw [← driven]
        exact (hbpClient digests cfg).run_invariant _
          (fun _ call lawful => lawful.step digests cfg call) _ calls lawful
  exact (parties digests dmr cfg passphrase).inFlight_invariant sent receive (fun _ => True)
    (fun _ state _ => state.1.core.client.Lawful)
    (fun _ state _ event _ lawful => each state event lawful)
    (fun _ state _ _ _ _ event _ lawful => each state event lawful)
    (fun _ _ _ _ _ lawful => lawful) events (fun event _ => by cases event <;> trivial) []
    (initial cfg salt) HbpClient.lawful_initial

/-- In the callbacks of the client alone it makes its own run. -/
theorem run_client (digests : Digests) (dmr : DmrUtils) (cfg : Config) (passphrase : Bytes)
    (state : (Bridge × FakeHbpMaster Nat) × List HbpDatagram) (events : List HbpEvent) (draw : RtpDraw)
    (clock : Clock) :
    ((machine digests dmr cfg passphrase).run state
        (events.map fun event => .own (.inl (.hbp event draw clock)))).1.1.1.core.client =
      ((hbpClient digests cfg).run state.1.1.core.client (events.map .event)).1 := by
  induction events generalizing state with
  | nil => rfl
  | cons event rest ih =>
      rw [List.map_cons, Mealy.run_cons, List.map_cons, Mealy.run_cons]
      have first : ((machine digests dmr cfg passphrase).step state
          (.own (.inl (.hbp event draw clock)))).1.1.1.core.client =
            ((hbpClient digests cfg).step state.1.1.core.client (.event event)).1 :=
        (Bridge.step_hbp digests dmr cfg state.1.1 event draw clock).1
      rw [← first]
      exact ih _

end HbpLink

/-- A session that has ended is made again: from the end of every run, and with whatever master then
answers, an active client whose protocol is closed, or has had no MSTPONG for too long, comes back to
its endpoint, and the login that follows succeeds exactly when the digest of the client's passphrase is
that of the master's and the radio ID does not start with the letter L. -/
theorem hbp_session_recovers {digests : Digests} (documented : digests.Documented) (dmr : DmrUtils)
    (cfg : Config) (passphrase : Bytes) (salt : StreamId)
    (events : List (Mealy.Transit (BridgeEvent ⊕ FakeEvent Nat) HbpChance)) {program : Bridge}
    (reached : ((HbpLink.machine digests dmr cfg passphrase).run
      (HbpLink.initial cfg salt) events).1.1.1 = program)
    (active : program.core.client.active = true) (tasked : program.core.client.task ≠ .unset) (now : Time)
    (ended : program.core.client.Over now) (master : FakeHbpMaster Nat) (flight : List HbpDatagram)
    (draw : RtpDraw) (clock : Clock) (first : HbpChance) (rest : List HbpChance)
    (enough : 2 * (loginSteps digests cfg first.urandom.val).length ≤ rest.length + 1) :
    let dialing := ((HbpLink.machine digests dmr cfg passphrase).run ((program, master), flight)
      ((HbpClient.redial now).map fun event => .own (.inl (.hbp event draw clock)))).1
    let result := ((HbpLink.machine digests dmr cfg passphrase).run dialing
      (.own (.inl (.hbp .endpointCreated draw clock)) ::
        (first :: rest).map (.deliver dialing.2.length))).1
    result.2 = dialing.2 ∧
      (result.1.1.core.client.isConnected = true ↔
        digests.sha256 (first.urandom.val ++ cfg.hbpPassphrase) =
            digests.sha256 (first.urandom.val ++ passphrase) ∧
          (radioId cfg).head? ≠ some 0x4c) ∧
      (result.1.1.core.client.isConnected = true →
        result.1.2 = loginMaster cfg (dialing.1.1.core.client.session + 1) first.urandom
          (loginSteps digests cfg first.urandom.val).length) := by
  intro dialing result
  have lawful : program.core.client.Lawful :=
    reached ▸ HbpLink.run_lawful digests dmr cfg passphrase salt events
  have connecting : dialing.1.1.core.client.task = .connecting := by
    rw [HbpLink.run_client digests dmr cfg passphrase ((program, master), flight)]
    exact lawful.redials active tasked ended digests cfg
  exact attempt_succeeds_iff documented dmr cfg passphrase dialing connecting draw clock first rest
    enough

/-- The session of a run is up and then silent; the master has been started again. -/
theorem hbp_session_recovers_restart :
    let program := ((HbpLink.machine linkDigests dmrCodec loginConfig [1, 2]).run
      (HbpLink.initial loginConfig firstDraw) masterRun).1.1.1
    let dialing := ((HbpLink.machine linkDigests dmrCodec loginConfig [1, 2]).run
      ((program, { salt := firstDraw }), []) ((HbpClient.redial 100).map fun event =>
        .own (.inl (.hbp event rtpDraw fun _ => 100)))).1
    let result := ((HbpLink.machine linkDigests dmrCodec loginConfig [1, 2]).run dialing
      (.own (.inl (.hbp .endpointCreated rtpDraw fun _ => 100)) ::
        (loginChance :: List.replicate 7 loginChance).map (.deliver dialing.2.length))).1
    program.core.client.isConnected = true ∧ dialing.1.1.core.client.isConnected = false ∧
      result.1.1.core.client.isConnected = true := by
  refine ⟨by decide +kernel, by decide +kernel, ?_⟩
  have recovers := hbp_session_recovers linkDigests_documented dmrCodec loginConfig [1, 2] firstDraw
    masterRun rfl (by decide +kernel) (by decide +kernel) 100 (by decide +kernel) { salt := firstDraw } []
    rtpDraw (fun _ => 100) loginChance (List.replicate 7 loginChance) (by decide +kernel)
  exact recovers.2.1.mpr ⟨rfl, by decide +kernel⟩

end Ipsc2Hbp
