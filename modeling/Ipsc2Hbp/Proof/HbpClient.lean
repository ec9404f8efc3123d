import Ipsc2Hbp.Construction.HbpProtocol
import Mathlib.Tactic.SplitIfs

namespace Ipsc2Hbp
open BigEndian

/-- A datagram with which the master ends the session. -/
def IsRejection (data : Bytes) : Bool := data.take 6 = hbpfMstnak || data.take 5 = hbpfMstcl

/-- An effect of the HBP stack that sends no voice. -/
def HbpOutput.NoDmrd : HbpOutput → Prop
  | .sendDmrd _ => False
  | _ => True

/-- A protocol keeps its transport until it is DISCONNECTED. -/
def HbpProtocol.Attached (proto : HbpProtocol) : Prop :=
  proto.state ≠ .disconnected → proto.transport = true

/-- What one callback does to a protocol. A session is left after a notice to the translator, or
by a rejection. -/
structure ProtocolStep (before : HbpProtocol) (after : HbpProtocol) (outputs : List HbpOutput)
    (cause : Prop) : Prop where
  attached : before.Attached → after.Attached
  noDmrd : ∀ output ∈ outputs, output.NoDmrd
  voice : ∀ dmrd, .hbpVoiceReceived dmrd ∈ outputs → after.isConnected = true
  left : after.isConnected = false →
    before.isConnected = false ∨ .hbpDisconnected ∈ outputs ∨ cause

/-- A protocol that stays as it is. -/
theorem ProtocolStep.refl (proto : HbpProtocol) (cause : Prop) :
    ProtocolStep proto proto [] cause :=
  ⟨id, by simp, by simp, fun down => .inl down⟩

/-- A datagram of the stack itself is neither voice nor a notice. -/
theorem sendRaw_plain (data : Bytes) (proto : HbpProtocol) :
    ∀ output ∈ proto.sendRaw data, output = .send data := by
  unfold HbpProtocol.sendRaw
  split <;> simp

/-- A callback that only sends datagrams of the stack. -/
theorem ProtocolStep.plain {before after : HbpProtocol} {outputs : List HbpOutput} {cause : Prop}
    (attached : before.Attached → after.Attached)
    (sent : ∀ output ∈ outputs, output = .hbpConnected ∨ ∃ data, output = .send data)
    (left : after.isConnected = false → before.isConnected = false ∨ cause) :
    ProtocolStep before after outputs cause := by
  refine ⟨attached, fun output member => ?_, fun dmrd member => ?_, fun down => ?_⟩
  · rcases sent output member with rfl | ⟨data, rfl⟩ <;> trivial
  · rcases sent _ member with other | ⟨data, other⟩ <;> cases other
  · exact (left down).imp_right .inr

theorem disconnect_plain (cfg : Config) (sendRptcl : Bool) (proto : HbpProtocol) :
    ∀ output ∈ (proto.disconnect cfg sendRptcl).2, ∃ data, output = .send data := by
  unfold HbpProtocol.disconnect
  intro output member
  simp only at member
  split at member
  · exact ⟨_, sendRaw_plain _ proto output member⟩
  · cases member

theorem disconnect_attached (cfg : Config) (sendRptcl : Bool) (proto : HbpProtocol) :
    (proto.disconnect cfg sendRptcl).1.Attached := fun alive => absurd rfl alive

/-- `error_received` tells the translator that a session is over. -/
theorem errorReceived_step (cfg : Config) (proto : HbpProtocol) :
    ProtocolStep proto (proto.errorReceived cfg).1 (proto.errorReceived cfg).2 False := by
  unfold HbpProtocol.errorReceived
  by_cases closed : proto.state = .disconnected
  · rw [if_pos closed]
    exact .refl proto False
  · rw [if_neg closed]
    by_cases up : proto.state = .connected
    · have silent : (proto.disconnect cfg false).2 = [] := rfl
      simp only [if_pos up, silent]
      exact ⟨fun _ => disconnect_attached cfg false proto, by simp [HbpOutput.NoDmrd], by simp,
        fun _ => .inr (.inl List.mem_cons_self)⟩
    · simp only [if_neg up, List.nil_append]
      refine .plain (fun _ => disconnect_attached cfg false proto)
        (fun output member => .inr (disconnect_plain cfg false proto output member))
        fun _ => .inl ?_
      simpa [HbpProtocol.isConnected] using up

/-- The keepalive task tells the translator that a session is over. -/
theorem keepalive_step (cfg : Config) (now : Time) (proto : HbpProtocol) :
    ProtocolStep proto (proto.keepalive cfg now).1 (proto.keepalive cfg now).2 False := by
  have ping := sendRaw_plain (hbpfRptping ++ radioId cfg) proto
  unfold HbpProtocol.keepalive
  split
  case isTrue => exact .refl proto False
  case isFalse =>
    simp only
    split
    case isTrue =>
      have silent : (proto.disconnect cfg false).2 = [] := rfl
      rw [silent, List.append_nil]
      refine ⟨fun _ => disconnect_attached cfg false proto, fun output member => ?_,
        fun dmrd member => ?_, fun _ => .inr (.inl (by simp))⟩
      · rcases List.mem_append.mp member with pinged | noticed
        · rw [ping output pinged]
          trivial
        · rw [List.mem_singleton.mp noticed]
          trivial
      · rcases List.mem_append.mp member with pinged | noticed
        · cases ping _ pinged
        · simp at noticed
    case isFalse =>
      exact .plain id (fun output member => .inr ⟨_, ping output member⟩) fun down => .inl down

/-- A login step does not end a session. -/
theorem onRptack_step (digests : Digests) (cfg : Config) (data : Bytes) (now : Time)
    (proto : HbpProtocol) (cause : Prop) :
    ProtocolStep proto (proto.onRptack digests cfg data now).1 (proto.onRptack digests cfg data now).2
      cause := by
  have raw (bytes : Bytes) (output : HbpOutput) (member : output ∈ proto.sendRaw bytes) :
      output = .hbpConnected ∨ ∃ data, output = .send data :=
    .inr ⟨bytes, sendRaw_plain bytes proto output member⟩
  have up : ∀ output ∈ (proto.becomeConnected now).2,
      output = .hbpConnected ∨ ∃ data, output = .send data := by
    simp [HbpProtocol.becomeConnected]
  have down (state : proto.state ≠ .connected) : proto.isConnected = false := by
    simpa [HbpProtocol.isConnected] using state
  have still (alive : proto.state ≠ .disconnected) (next : HbpState) (pong : Time) (ping : Bool)
      (attached : proto.Attached) :
      { proto with state := next, lastPong := pong, pingTask := ping }.Attached :=
    fun _ => attached alive
  unfold HbpProtocol.onRptack
  cases state : proto.state with
  | login =>
      simp only
      split
      · exact .refl proto cause
      · exact .plain (still (by simp [state]) _ _ _) (raw _) fun _ => .inl (down (by simp [state]))
  | authSent => exact .plain (still (by simp [state]) _ _ _) (raw _) fun _ => .inl (down (by simp [state]))
  | configSent =>
      simp only
      split
      · exact .plain (still (by simp [state]) _ _ _) (raw _) fun _ => .inl (down (by simp [state]))
      · exact .plain (still (by simp [state]) _ _ _) up fun _ => .inl (down (by simp [state]))
  | optionsSent => exact .plain (still (by simp [state]) _ _ _) up fun _ => .inl (down (by simp [state]))
  | connected | disconnected => exact .refl proto cause

/-- A datagram ends a session only by a rejection. -/
theorem datagramReceived_step (digests : Digests) (cfg : Config) (data : Bytes) (now : Time)
    (proto : HbpProtocol) :
    ProtocolStep proto (proto.datagramReceived digests cfg data now).1
      (proto.datagramReceived digests cfg data now).2 (IsRejection data = true) := by
  unfold HbpProtocol.datagramReceived
  have rejects (matched : IsRejection data = true) :
      ProtocolStep proto (proto.disconnect cfg false).1 (proto.disconnect cfg false).2
        (IsRejection data = true) :=
    .plain (fun _ => disconnect_attached cfg false proto)
      (fun output member => .inr (disconnect_plain cfg false proto output member))
      fun _ => .inr matched
  split_ifs with short ack nak pong bye dmrd up
  · exact .refl proto _
  · exact onRptack_step digests cfg data now proto _
  · refine rejects ?_
    simp only [Bool.and_eq_true, decide_eq_true_eq] at nak
    simp [IsRejection, nak.2]
  · exact .plain id (by simp) fun down => .inl down
  · refine rejects ?_
    simp only [Bool.and_eq_true, decide_eq_true_eq] at bye
    simp [IsRejection, bye.2]
  · refine ⟨id, by simp [HbpOutput.NoDmrd], fun _ _ => ?_, fun down => .inl down⟩
    simp [HbpProtocol.isConnected, up]
  · exact .refl proto _
  · exact .refl proto _

/-- A frame is sent in the CONNECTED state only. -/
theorem sendDmrd_cases (client : HbpClient) (dmrd : Bytes) :
    client.sendDmrd dmrd = [] ∨ client.sendDmrd dmrd = [.sendDmrd dmrd] := by
  unfold HbpClient.sendDmrd HbpProtocol.sendDmrd
  split
  · exact .inl rfl
  · split
    · exact .inr rfl
    · exact .inl rfl

/-- The connect task waits for a protocol that has its transport or is DISCONNECTED. -/
structure HbpClient.Sound (client : HbpClient) : Prop where
  waiting : client.protocol ≠ none → client.task = .waitDone
  attached : ∀ proto, client.protocol = some proto → proto.Attached

/-- What one callback or one call of the translator does to the client. -/
structure ClientStep (before after : HbpClient) (outputs : List HbpOutput) (cause : Prop) : Prop where
  sound : after.Sound
  session : after.session = before.session ∨ before.isConnected = false
  noDmrd : ∀ output ∈ outputs, output.NoDmrd
  voice : ∀ dmrd, .hbpVoiceReceived dmrd ∈ outputs → after.isConnected = true
  left : after.isConnected = false →
    before.isConnected = false ∨ .hbpDisconnected ∈ outputs ∨ cause

/-- A step of the connect task while there is no protocol, or a change of the flags. -/
theorem ClientStep.still {before after : HbpClient} {outputs : List HbpOutput} {cause : Prop}
    (sound : before.Sound) (protocol : after.protocol = before.protocol)
    (session : after.session = before.session)
    (task : before.protocol ≠ none → before.task = .waitDone → after.task = .waitDone)
    (plain : ∀ output ∈ outputs, ∃ err, output = .raised err) :
    ClientStep before after outputs cause := by
  refine ⟨⟨fun some => ?_, fun proto is => ?_⟩, .inl session, fun output member => ?_,
    fun dmrd member => ?_, fun down => .inl ?_⟩
  · rw [protocol] at some
    exact task some (sound.waiting some)
  · exact sound.attached proto (protocol ▸ is)
  · obtain ⟨err, rfl⟩ := plain output member
    trivial
  · obtain ⟨err, other⟩ := plain _ member
    cases other
  · rwa [HbpClient.isConnected, protocol] at down

/-- A callback of the protocol is a step of its client. -/
theorem onProtocol_step {client : HbpClient} (sound : client.Sound) {cause : Prop}
    {handler : HbpProtocol → HbpProtocol × List HbpOutput}
    (each : ∀ proto, ProtocolStep proto (handler proto).1 (handler proto).2 cause) :
    ClientStep client (client.onProtocol handler).1 (client.onProtocol handler).2 cause := by
  unfold HbpClient.onProtocol
  cases present : client.protocol with
  | none => exact .still sound rfl rfl (fun _ => id) (by simp)
  | some proto =>
      have step := each proto
      have same : client.isConnected = proto.isConnected := by
        rw [HbpClient.isConnected, present]
      refine ⟨⟨fun _ => sound.waiting (by simp [present]), fun other is => ?_⟩, .inl rfl, step.noDmrd,
        step.voice, fun down => ?_⟩
      · obtain rfl := Option.some.inj is
        exact step.attached (sound.attached proto present)
      · rw [same]
        exact step.left down

/-- `activate` leaves the protocol alone. -/
theorem activate_step {client : HbpClient} (sound : client.Sound) (cause : Prop) :
    ClientStep client client.activate.1 client.activate.2 cause := by
  unfold HbpClient.activate
  split
  case isTrue => exact .still sound rfl rfl (fun _ => id) (by simp)
  case isFalse =>
    simp only
    split
    case isTrue idle =>
      have busy : client.task ≠ .waitDone := by
        intro waits
        simp [waits] at idle
      split
      case isTrue => exact .still sound rfl rfl (fun _ waits => absurd waits busy) (by simp)
      case isFalse => exact .still sound rfl rfl (fun _ => id) (by simp)
    case isFalse => exact .still sound rfl rfl (fun _ => id) (by simp)

/-- `deactivate` may leave a session. -/
theorem deactivate_step (cfg : Config) {client : HbpClient} (sound : client.Sound) :
    ClientStep client (client.deactivate cfg).1 (client.deactivate cfg).2 True := by
  unfold HbpClient.deactivate
  split
  case isTrue => exact .still sound rfl rfl (fun _ => id) (by simp)
  case isFalse =>
    have idle : { client with active := false }.Sound := ⟨sound.waiting, sound.attached⟩
    have each (proto : HbpProtocol) : ProtocolStep proto (proto.disconnect cfg true).1
        (proto.disconnect cfg true).2 True := .plain (fun _ => disconnect_attached cfg true proto)
      (fun output member => .inr (disconnect_plain cfg true proto output member)) fun _ => .inr trivial
    have step := onProtocol_step idle each
    exact ⟨step.sound, step.session, step.noDmrd, step.voice, step.left⟩

/-- A datagram of the event that is a rejection. -/
def HbpEvent.Rejects : HbpEvent → Prop
  | .datagramReceived data _ => IsRejection data = true
  | _ => False

/-- Each callback of the HBP stack is such a step. -/
theorem client_step (digests : Digests) (cfg : Config) {client : HbpClient} (sound : client.Sound)
    (event : HbpEvent) :
    ClientStep client (client.step digests cfg event).1 (client.step digests cfg event).2
      event.Rejects := by
  have nothing : ClientStep client client [] event.Rejects :=
    .still sound rfl rfl (fun _ => id) (by simp)
  cases event with
  | start =>
      have set : { client with started := true }.Sound := ⟨sound.waiting, sound.attached⟩
      simp only [HbpClient.step, HbpClient.start]
      split
      · have step := activate_step set False
        exact ⟨step.sound, step.session, step.noDmrd, step.voice, step.left⟩
      · exact .still sound rfl rfl (fun _ => id) (by simp)
  | loopTop =>
      simp only [HbpClient.step]
      split
      case isTrue idle =>
        refine .still sound rfl rfl (fun _ waits => ?_) (by simp)
        simp [waits] at idle
      case isFalse => exact nothing
  | endpointCreated =>
      simp only [HbpClient.step]
      split
      case isTrue connecting =>
        have absent : client.protocol = none := by
          by_contra present
          rw [sound.waiting present] at connecting
          cases connecting
        have down : client.isConnected = false := by rw [HbpClient.isConnected, absent]
        refine ⟨⟨fun _ => rfl, fun proto is => ?_⟩, .inr down, ?_, ?_, fun _ => .inl down⟩
        · obtain rfl := Option.some.inj is
          exact fun _ => rfl
        · simp [HbpProtocol.connectionMade, HbpOutput.NoDmrd]
        · simp [HbpProtocol.connectionMade]
      case isFalse => exact nothing
  | endpointFailed =>
      simp only [HbpClient.step]
      split
      case isTrue connecting =>
        refine .still sound rfl rfl (fun _ waits => ?_) (by simp)
        rw [connecting] at waits
        cases waits
      case isFalse => exact nothing
  | doneWaited =>
      simp only [HbpClient.step]
      split
      case isTrue lost =>
        refine .still sound rfl rfl (fun present _ => ?_) (by simp)
        simp [Option.isNone_iff_eq_none] at lost
        exact absurd lost.2 present
      case isFalse => exact nothing
  | connectionLost =>
      simp only [HbpClient.step]
      cases present : client.protocol with
      | none => exact nothing
      | some proto =>
          simp only
          split
          case isTrue => exact nothing
          case isFalse closed =>
            have down : proto.state = .disconnected := by
              by_contra alive
              exact closed (sound.attached proto present alive)
            have down : client.isConnected = false := by
              rw [HbpClient.isConnected, present]
              simp [HbpProtocol.isConnected, down]
            exact ⟨⟨fun some => absurd rfl some, by simp⟩, .inl rfl, by simp, by simp, fun _ => .inl down⟩
  | errorReceived => exact onProtocol_step sound (errorReceived_step cfg)
  | datagramReceived data now =>
      refine onProtocol_step sound fun proto => ?_
      split
      · exact datagramReceived_step digests cfg data now proto
      · exact .refl proto _
  | keepalive now =>
      refine onProtocol_step sound fun proto => ?_
      split
      · exact keepalive_step cfg now proto
      · exact .refl proto _

end Ipsc2Hbp
