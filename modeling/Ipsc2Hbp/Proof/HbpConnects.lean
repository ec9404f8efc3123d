import Ipsc2Hbp.Proof.HbpAgreement

namespace Ipsc2Hbp
open BigEndian

/-- A callback of the HBP client that calls the translator for nothing changes the client alone. -/
theorem Bridge.step_plain (digests : Digests) (dmr : DmrUtils) (cfg : Config) (state : Bridge)
    (event : HbpEvent) (draw : RtpDraw) (clock : Clock)
    (plain : ∀ output ∈ (state.core.client.step digests cfg event).2,
      Core.callback state.ipsc.isPeerRegistered draw clock output = none) :
    Bridge.step digests dmr cfg state (.hbp event draw clock) =
      ({ state with core.client := (state.core.client.step digests cfg event).1 },
        (state.core.client.step digests cfg event).2.map fun output =>
          .core (.hbp (state.core.client.step digests cfg event).1.session output)) := by
  have told (core : Core) (outputs : List HbpOutput) (plain : ∀ output ∈ outputs,
      Core.callback state.ipsc.isPeerRegistered draw clock output = none) :
      Core.notify dmr cfg state.ipsc.isPeerRegistered draw clock core outputs =
        (core, outputs.map (CoreOutput.hbp core.client.session)) := by
    induction outputs with
    | nil => rfl
    | cons output rest ih =>
        rw [Core.notify, plain output List.mem_cons_self]
        dsimp only
        rw [ih fun other member => plain other (List.mem_cons_of_mem _ member)]
        rfl
  have forwarded (session : Nat) (outputs : List HbpOutput) :
      forward digests cfg state.ipsc (outputs.map (CoreOutput.hbp session)) =
        outputs.map fun output => .core (.hbp session output) := by
    induction outputs with
    | nil => rfl
    | cons output rest ih =>
        rw [List.map_cons, forward_cons, ih]
        rfl
  simp only [Bridge.step, Core.step]
  rw [told _ _ plain]
  dsimp only
  rw [forwarded]

/-- The master after some steps of a login. -/
def loginMaster (cfg : Config) (session : Nat) (salt : StreamId) (count : Nat) : FakeHbpMaster Nat where
  state := match count with
    | 0 => .idle
    | 1 => .waitRptk
    | 2 => .waitRptc
    | 3 => .waitRpto
    | _ => .connected
  peerAddr := some session
  peerId := some (radioId cfg)
  salt := salt

/-- What the master asks of a step: the digest of its own passphrase, and a radio ID that does not
make an RPTCL of the RPTC. -/
def Accepts (digests : Digests) (cfg : Config) (passphrase : Bytes) (salt : StreamId) (count : Nat) :
    Prop :=
  (count = 1 → digests.sha256 (salt.val ++ cfg.hbpPassphrase) =
      digests.sha256 (salt.val ++ passphrase)) ∧
    (count = 2 → (radioId cfg).head? ≠ some 0x4c)

/-- A login whose next request is this datagram. -/
structure LoginAt (digests : Digests) (cfg : Config) (salt : StreamId) (count : Nat) (program : Bridge)
    (master : FakeHbpMaster Nat) (data : Bytes) : Prop where
  proto : ∃ proto, program.core.client.protocol = some proto ∧ proto.transport = true ∧
    proto.state.stepsSent = some (count + 1)
  step : (loginSteps digests cfg salt.val)[count]? = some (.send data)
  known : count ≠ 0 → master = loginMaster cfg program.core.client.session salt count

section Answers
variable {digests : Digests} (documented : digests.Documented) {cfg : Config} {passphrase : Bytes}
  {salt : StreamId} {count session : Nat} {data : Bytes}
  (step : (loginSteps digests cfg salt.val)[count]? = some (.send data))
  {master : FakeHbpMaster Nat} (known : count ≠ 0 → master = loginMaster cfg session salt count)
include documented step known

/-- An accepted request is acknowledged. -/
theorem login_accepted {urandom : StreamId} (drawn : count = 0 → urandom = salt)
    (accepts : Accepts digests cfg passphrase salt count) :
    ∃ ack, (loginAcks cfg salt.val)[count]? = some ack ∧
      master.datagramReceived digests passphrase data session urandom =
        (loginMaster cfg session salt (count + 1), [(ack, session)]) := by
  match count with
  | 0 =>
      obtain rfl : hbpfRptl ++ (radioId cfg ++ []) = data := by simpa [loginSteps] using step
      rw [FakeHbpMaster.datagramReceived_rptl, FakeHbpMaster.onRptl_login, drawn rfl]
      exact ⟨_, rfl, rfl⟩
  | 1 =>
      obtain rfl : hbpfRptk ++ (radioId cfg ++ digests.sha256 (salt.val ++ cfg.hbpPassphrase)) =
          data := by simpa [loginSteps] using step
      have same : digests.sha256 (salt.val ++ cfg.hbpPassphrase) =
          digests.sha256 ((loginMaster cfg session salt 1).salt.val ++ passphrase) := accepts.1 rfl
      rw [known (by decide), FakeHbpMaster.datagramReceived_rptk,
        FakeHbpMaster.onRptk_login cfg session _ (documented.sha256 _), if_neg (by simp [loginMaster]),
        if_pos same]
      exact ⟨_, rfl, rfl⟩
  | 2 =>
      obtain ⟨rest, shape⟩ := buildRptc_eq cfg
      obtain rfl : hbpfRptc ++ (radioId cfg ++ rest) = data := by simpa [loginSteps, shape] using step
      have head : (radioId cfg ++ rest).head? ≠ some 0x4c := by
        rw [List.head?_append_of_ne_nil _ (List.ne_nil_of_length_pos (by rw [radioId_length]; decide))]
        exact accepts.2 rfl
      rw [known (by decide), FakeHbpMaster.datagramReceived_rptc, if_neg head,
        FakeHbpMaster.onRptc_login]
      exact ⟨_, rfl, rfl⟩
  | count + 3 =>
      have options : cfg.options ≠ "" := fun none => by simp [loginSteps, none] at step
      obtain ⟨rfl, rfl⟩ : count = 0 ∧ hbpfRpto ++ (radioId cfg ++ enc cfg.options 300) = data := by
        cases count with
        | zero => simpa [loginSteps, options] using step
        | succ count => simp [loginSteps, options] at step
      rw [known (by decide), FakeHbpMaster.datagramReceived_rpto, FakeHbpMaster.onRpto_login]
      exact ⟨_, by simp [loginAcks, options], rfl⟩

/-- A refused request is answered with MSTNAK or not at all. -/
theorem login_refused (urandom : StreamId) (refuses : ¬ Accepts digests cfg passphrase salt count) :
    (master.datagramReceived digests passphrase data session urandom).2 = [] ∨
      (master.datagramReceived digests passphrase data session urandom).2 =
        [(hbpfMstnak ++ radioId cfg, session)] := by
  by_cases first : count = 1
  · subst first
    have differ : digests.sha256 (salt.val ++ cfg.hbpPassphrase) ≠
        digests.sha256 ((loginMaster cfg session salt 1).salt.val ++ passphrase) :=
      fun same => refuses ⟨fun _ => same, by simp⟩
    obtain rfl : hbpfRptk ++ (radioId cfg ++ digests.sha256 (salt.val ++ cfg.hbpPassphrase)) =
        data := by simpa [loginSteps] using step
    rw [known (by decide), FakeHbpMaster.datagramReceived_rptk,
      FakeHbpMaster.onRptk_login cfg session _ (documented.sha256 _), if_neg (by simp [loginMaster]),
      if_neg differ]
    exact .inr rfl
  · by_cases second : count = 2
    · subst second
      have head : (radioId cfg).head? = some 0x4c :=
        of_not_not fun other => refuses ⟨by simp, fun _ => other⟩
      obtain ⟨rest, shape⟩ := buildRptc_eq cfg
      obtain rfl : hbpfRptc ++ (radioId cfg ++ rest) = data := by simpa [loginSteps, shape] using step
      have whole : (radioId cfg ++ rest).head? = some 0x4c := by
        rw [List.head?_append, head]
        rfl
      rw [FakeHbpMaster.datagramReceived_rptc, if_pos whole]
      exact .inl rfl
    · exact absurd ⟨fun one => absurd one first, fun two => absurd two second⟩ refuses

end Answers

/-- The transport stays open while the login goes on. -/
theorem onRptack_transport (digests : Digests) (cfg : Config) (data : Bytes) (now : Time)
    (proto : HbpProtocol) :
    (proto.onRptack digests cfg data now).1.transport = proto.transport := by
  unfold HbpProtocol.onRptack HbpProtocol.becomeConnected
  cases proto.state <;> dsimp only <;> split <;> rfl

section Rounds
variable (digests : Digests) (dmr : DmrUtils) (cfg : Config) (passphrase : Bytes)
  (flight : List HbpDatagram) {program : Bridge} {master : FakeHbpMaster Nat} {data : Bytes}

/-- Nothing is in flight behind the old datagrams. -/
theorem deliver_nothing (parts : Bridge × FakeHbpMaster Nat) (chances : List HbpChance) :
    ((HbpLink.machine digests dmr cfg passphrase).run (parts, flight)
      (chances.map (Mealy.Transit.deliver flight.length))).1 = (parts, flight) := by
  induction chances with
  | nil => rfl
  | cons chance rest ih =>
      have still : (HbpLink.machine digests dmr cfg passphrase).step (parts, flight)
          (.deliver flight.length chance) = ((parts, flight), []) :=
        (HbpLink.parties digests dmr cfg passphrase).inFlight_beyond _ _ parts flight chance
      rw [List.map_cons, Mealy.run_cons, still]
      exact ih

/-- The newest request reaches the master. -/
theorem deliver_request (program : Bridge) (master : FakeHbpMaster Nat) (session : Nat) (data : Bytes)
    (chance : HbpChance) :
    let result := master.datagramReceived digests passphrase data session chance.urandom
    ((HbpLink.machine digests dmr cfg passphrase).step
        ((program, master), flight ++ [.toMaster session data]) (.deliver flight.length chance)).1 =
      ((program, result.1), flight ++ (result.2.map Sum.inr).filterMap HbpLink.sent) := by
  intro result
  rw [HbpLink.machine, Mealy.inFlight_newest _ _ _ rfl]
  rfl

/-- The newest datagram for the session reaches its socket; the client calls the translator for
nothing. -/
theorem deliver_reply {proto : HbpProtocol} (present : program.core.client.protocol = some proto)
    (attached : proto.transport = true) (chance : HbpChance)
    (plain : ∀ output ∈
      (program.core.client.step digests cfg (.datagramReceived data chance.now)).2,
        Core.callback program.ipsc.isPeerRegistered chance.draw chance.clock output = none) :
    let result := program.core.client.step digests cfg (.datagramReceived data chance.now)
    ((HbpLink.machine digests dmr cfg passphrase).step
        ((program, master), flight ++ [.toSession program.core.client.session data])
        (.deliver flight.length chance)).1 =
      (({ program with core.client := result.1 }, master),
        flight ++ (result.2.map fun output =>
          Sum.inl (.core (.hbp result.1.session output))).filterMap HbpLink.sent) := by
  intro result
  have received : HbpLink.receive (program, master)
      (.toSession program.core.client.session data) chance =
        some (.inl (.hbp (.datagramReceived data chance.now) chance.draw chance.clock)) :=
    if_pos ⟨rfl, proto, present, attached⟩
  rw [HbpLink.machine, Mealy.inFlight_newest _ _ _ received]
  simp only [HbpLink.parties, Mealy.beside_inl, bridge,
    Bridge.step_plain digests dmr cfg program _ _ _ plain, List.map_map]
  rfl

/-- A request and its answer are delivered one after the other. -/
theorem deliver_both {proto : HbpProtocol} (present : program.core.client.protocol = some proto)
    (attached : proto.transport = true) {after : FakeHbpMaster Nat} {reply : Bytes}
    (one two : HbpChance)
    (answer : master.datagramReceived digests passphrase data program.core.client.session one.urandom =
      (after, [(reply, program.core.client.session)]))
    (plain : ∀ output ∈
      (program.core.client.step digests cfg (.datagramReceived reply two.now)).2,
        Core.callback program.ipsc.isPeerRegistered two.draw two.clock output = none) :
    let result := program.core.client.step digests cfg (.datagramReceived reply two.now)
    ((HbpLink.machine digests dmr cfg passphrase).run
        ((program, master), flight ++ [.toMaster program.core.client.session data])
        [.deliver flight.length one, .deliver flight.length two]).1 =
      (({ program with core.client := result.1 }, after),
        flight ++ (result.2.map fun output =>
          Sum.inl (.core (.hbp result.1.session output))).filterMap HbpLink.sent) := by
  intro result
  have requested := deliver_request digests dmr cfg passphrase flight program master
    program.core.client.session data one
  rw [answer] at requested
  rw [Mealy.run_cons, Mealy.run_cons, Mealy.run_nil, requested]
  exact deliver_reply digests dmr cfg passphrase flight present attached two plain

variable (documented : digests.Documented) {salt : StreamId} {count : Nat}
include documented

/-- An accepted request and its acknowledgement take the login one step on or end it. -/
theorem LoginAt.round (login : LoginAt digests cfg salt count program master data)
    (one two : HbpChance) (drawn : count = 0 → one.urandom = salt)
    (accepts : Accepts digests cfg passphrase salt count) :
    ∃ next, next.core.client.session = program.core.client.session ∧
      ((∃ request, LoginAt digests cfg salt (count + 1) next
            (loginMaster cfg program.core.client.session salt (count + 1)) request ∧
          ((HbpLink.machine digests dmr cfg passphrase).run
              ((program, master), flight ++ [.toMaster program.core.client.session data])
              [.deliver flight.length one, .deliver flight.length two]).1 =
            ((next, loginMaster cfg program.core.client.session salt (count + 1)),
              flight ++ [.toMaster program.core.client.session request])) ∨
        ((loginSteps digests cfg salt.val).length = count + 1 ∧
          next.core.client.isConnected = true ∧
          ((HbpLink.machine digests dmr cfg passphrase).run
              ((program, master), flight ++ [.toMaster program.core.client.session data])
              [.deliver flight.length one, .deliver flight.length two]).1 =
            ((next, loginMaster cfg program.core.client.session salt (count + 1)), flight))) := by
  obtain ⟨⟨proto, present, attached, phase⟩, step, known⟩ := login
  obtain ⟨ack, reply, answer⟩ := login_accepted documented step known drawn accepts
  have word : isRptack ack = true := loginAcks_word (List.mem_of_getElem? reply)
  have client := HbpClient.step_rptack digests cfg present attached word two.now
  have delivered := deliver_both digests dmr cfg passphrase flight present attached one two answer
  rw [client] at delivered
  refine ⟨{ program with core.client := { program.core.client with
    protocol := some (proto.onRptack digests cfg ack two.now).1 } }, rfl, ?_⟩
  rcases LockStep.onRptack_advances digests phase attached reply two.now with
    ⟨request, follows, advanced, sent⟩ | ⟨whole, up, told⟩
  · rw [sent] at delivered
    have still := (onRptack_transport digests cfg ack two.now proto).trans attached
    exact .inl ⟨request, ⟨⟨_, rfl, still, advanced⟩, follows, fun _ => rfl⟩,
      delivered (by simp [Core.callback])⟩
  · rw [told] at delivered
    refine .inr ⟨whole, by simp [HbpClient.isConnected, HbpProtocol.isConnected, up], ?_⟩
    rw [delivered (by simp [Core.callback])]
    exact congrArg (Prod.mk _) (List.append_nil flight)

/-- After a refused request nothing of the login is left in flight and the client is not CONNECTED. -/
theorem LoginAt.refused (login : LoginAt digests cfg salt count program master data)
    (one two : HbpChance) (refuses : ¬ Accepts digests cfg passphrase salt count) :
    ∃ parts : Bridge × FakeHbpMaster Nat, parts.1.core.client.isConnected = false ∧
      ((HbpLink.machine digests dmr cfg passphrase).run
          ((program, master), flight ++ [.toMaster program.core.client.session data])
          [.deliver flight.length one, .deliver flight.length two]).1 = (parts, flight) := by
  obtain ⟨⟨proto, present, attached, phase⟩, step, known⟩ := login
  rcases login_refused documented step known one.urandom refuses with silent | nak
  · have requested := deliver_request digests dmr cfg passphrase flight program master
      program.core.client.session data one
    dsimp only at requested
    rw [silent] at requested
    refine ⟨(program, (master.datagramReceived digests passphrase data program.core.client.session
      one.urandom).1), ?_, ?_⟩
    · have other : proto.state ≠ .connected := fun up => by simp [up, HbpState.stepsSent] at phase
      simp [HbpClient.isConnected, HbpProtocol.isConnected, present, other]
    · rw [Mealy.run_cons, Mealy.run_cons, Mealy.run_nil, requested, List.map_nil, List.filterMap_nil,
        List.append_nil]
      exact congrArg Prod.fst (Mealy.inFlight_beyond _ _ _ _ flight two)
  · have closed : program.core.client.step digests cfg
        (.datagramReceived (hbpfMstnak ++ radioId cfg) two.now) =
          ({ program.core.client with protocol := some (proto.disconnect cfg false).1 }, []) := by
      have refused : proto.datagramReceived digests cfg (hbpfMstnak ++ radioId cfg) two.now =
          ((proto.disconnect cfg false).1, []) := by
        simp [HbpProtocol.datagramReceived, HbpProtocol.disconnect, hbpfMstnak, hbpfRptack,
          radioId_length]
      simp only [HbpClient.step, HbpClient.onProtocol, present, if_pos attached, refused]
    have delivered := deliver_both digests dmr cfg passphrase flight present attached one two
      (Prod.ext rfl nak)
    rw [closed] at delivered
    refine ⟨({ program with core.client := { program.core.client with
      protocol := some (proto.disconnect cfg false).1 } },
      (master.datagramReceived digests passphrase data program.core.client.session one.urandom).1),
      rfl, ?_⟩
    rw [delivered (by simp)]
    exact congrArg (Prod.mk _) (List.append_nil flight)

/-- The rest of a login: it ends CONNECTED exactly when the master accepts all that is left. -/
theorem LoginAt.finish (remaining : Nat) (left : count + remaining = (loginSteps digests cfg salt.val).length)
    (login : LoginAt digests cfg salt count program master data) (chances : List HbpChance)
    (enough : 2 * remaining ≤ chances.length)
    (drawn : count = 0 → ∀ first ∈ chances.head?, first.urandom = salt) :
    let result := ((HbpLink.machine digests dmr cfg passphrase).run
      ((program, master), flight ++ [.toMaster program.core.client.session data])
      (chances.map (.deliver flight.length))).1
    result.2 = flight ∧
      (result.1.1.core.client.isConnected = true ↔
        ∀ later, count ≤ later → Accepts digests cfg passphrase salt later) ∧
      (result.1.1.core.client.isConnected = true →
        result.1.2 = loginMaster cfg program.core.client.session salt
          (loginSteps digests cfg salt.val).length) := by
  induction remaining generalizing count program master data chances with
  | zero =>
      have room := (List.getElem?_eq_some_iff.mp login.step).1
      omega
  | succ remaining ih =>
      match chances with
      | [] => simp at enough
      | [_] =>
          simp at enough
          omega
      | one :: two :: rest =>
          intro result
          have cut : result = ((HbpLink.machine digests dmr cfg passphrase).run
              ((HbpLink.machine digests dmr cfg passphrase).run
                ((program, master), flight ++ [.toMaster program.core.client.session data])
                [.deliver flight.length one, .deliver flight.length two]).1
              (rest.map (.deliver flight.length))).1 := rfl
          by_cases accepts : Accepts digests cfg passphrase salt count
          · obtain ⟨next, session, ⟨request, further, ended⟩ | ⟨whole, up, ended⟩⟩ :=
              login.round digests dmr cfg passphrase flight documented one two
                (fun zero => drawn zero one rfl) accepts
            · rw [ended, ← session] at cut
              have tail := ih (by omega) further rest (by simp at enough; omega) (by omega)
              rw [← session, ← cut] at tail
              obtain ⟨empty, connected, known⟩ := tail
              refine ⟨empty, connected.trans ⟨fun all later from' => ?_,
                fun all later from' => all later (by omega)⟩, session ▸ known⟩
              rcases Nat.eq_or_lt_of_le from' with rfl | more
              · exact accepts
              · exact all later more
            · rw [ended, deliver_nothing] at cut
              rw [cut, whole]
              refine ⟨rfl, iff_of_true up fun later from' => ?_, fun _ => rfl⟩
              have long : 3 ≤ (loginSteps digests cfg salt.val).length := by simp [loginSteps]
              rcases Nat.eq_or_lt_of_le from' with rfl | more
              · exact accepts
              · exact ⟨by omega, by omega⟩
          · obtain ⟨parts, down, ended⟩ :=
              login.refused digests dmr cfg passphrase flight documented one two accepts
            rw [ended, deliver_nothing] at cut
            rw [cut]
            refine ⟨rfl, ⟨fun up => ?_, fun all => absurd (all count le_rfl) accepts⟩, fun up => ?_⟩
            · rw [down] at up
              cases up
            · rw [down] at up
              cases up

end Rounds

/-- The master accepts all of a login. -/
theorem accepts_all (digests : Digests) (cfg : Config) (passphrase : Bytes) (salt : StreamId) :
    (∀ later, 0 ≤ later → Accepts digests cfg passphrase salt later) ↔
      digests.sha256 (salt.val ++ cfg.hbpPassphrase) = digests.sha256 (salt.val ++ passphrase) ∧
        (radioId cfg).head? ≠ some 0x4c :=
  ⟨fun all => ⟨(all 1 (Nat.zero_le _)).1 rfl, (all 2 (Nat.zero_le _)).2 rfl⟩,
    fun both _ _ => ⟨fun _ => both.1, fun _ => both.2⟩⟩

/-- A new endpoint sends the first request of a login. -/
theorem endpoint_opens (digests : Digests) (dmr : DmrUtils) (cfg : Config) (passphrase : Bytes)
    (salt : StreamId) {program : Bridge} (master : FakeHbpMaster Nat) (flight : List HbpDatagram)
    (connecting : program.core.client.task = .connecting) (draw : RtpDraw) (clock : Clock) :
    ∃ next : Bridge, next.core.client.session = program.core.client.session + 1 ∧
      ((HbpLink.machine digests dmr cfg passphrase).step ((program, master), flight)
        (.own (.inl (.hbp .endpointCreated draw clock)))).1 =
          ((next, master), flight ++ [.toMaster next.core.client.session (hbpfRptl ++ radioId cfg)]) ∧
      LoginAt digests cfg salt 0 next master (hbpfRptl ++ radioId cfg) := by
  have made : program.core.client.step digests cfg .endpointCreated =
      ({ program.core.client with
          protocol := some (HbpProtocol.connectionMade cfg {}).1, task := .waitDone,
          session := program.core.client.session + 1 }, [.send (hbpfRptl ++ radioId cfg)]) := by
    simp only [HbpClient.step, if_pos connecting]
    rfl
  have opened := Bridge.step_plain digests dmr cfg program .endpointCreated draw clock
    (by rw [made]; simp [Core.callback])
  rw [made] at opened
  refine ⟨{ program with core.client := { program.core.client with
    protocol := some (HbpProtocol.connectionMade cfg {}).1, task := .waitDone,
    session := program.core.client.session + 1 } }, rfl, ?_, ⟨⟨_, rfl, rfl, rfl⟩, rfl, ?_⟩⟩
  · simp only [HbpLink.machine, Mealy.inFlight, HbpLink.parties, Mealy.beside_inl, bridge, opened]
    rfl
  · exact fun other => absurd rfl other

/-- A login whose datagrams arrive in order succeeds exactly when the digest of the client's passphrase
is that of the master's and the radio ID does not start with the letter L. Whatever was in flight
before stays there. -/
theorem attempt_succeeds_iff {digests : Digests} (documented : digests.Documented) (dmr : DmrUtils)
    (cfg : Config) (passphrase : Bytes) (state : (Bridge × FakeHbpMaster Nat) × List HbpDatagram)
    (connecting : state.1.1.core.client.task = .connecting) (draw : RtpDraw) (clock : Clock)
    (first : HbpChance) (rest : List HbpChance)
    (enough : 2 * (loginSteps digests cfg first.urandom.val).length ≤ rest.length + 1) :
    let session := state.1.1.core.client.session + 1
    let result := ((HbpLink.machine digests dmr cfg passphrase).run state
      (.own (.inl (.hbp .endpointCreated draw clock)) ::
        (first :: rest).map (.deliver state.2.length))).1
    result.2 = state.2 ∧
      (result.1.1.core.client.isConnected = true ↔
        digests.sha256 (first.urandom.val ++ cfg.hbpPassphrase) =
            digests.sha256 (first.urandom.val ++ passphrase) ∧
          (radioId cfg).head? ≠ some 0x4c) ∧
      (result.1.1.core.client.isConnected = true → result.1.2 =
        loginMaster cfg session first.urandom (loginSteps digests cfg first.urandom.val).length) := by
  intro session result
  obtain ⟨⟨program, master⟩, flight⟩ := state
  obtain ⟨next, known, stepped, login⟩ := endpoint_opens digests dmr cfg passphrase first.urandom
    master flight connecting draw clock
  have finished := login.finish digests dmr cfg passphrase flight documented
    (loginSteps digests cfg first.urandom.val).length (Nat.zero_add _) (first :: rest) enough
    (fun _ other member => by rw [Option.some.inj member])
  have cut : result = ((HbpLink.machine digests dmr cfg passphrase).run
      ((next, master), flight ++ [.toMaster next.core.client.session (hbpfRptl ++ radioId cfg)])
      ((first :: rest).map (.deliver flight.length))).1 := by
    simp only [result]
    rw [Mealy.run_cons, stepped]
  rw [cut]
  obtain ⟨empty, connected, ended⟩ := finished
  exact ⟨empty, connected.trans (accepts_all digests cfg passphrase first.urandom),
    fun up => known ▸ ended up⟩

end Ipsc2Hbp
