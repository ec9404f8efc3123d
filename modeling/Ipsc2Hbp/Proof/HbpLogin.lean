import Ipsc2Hbp.Construction.FakeHbpMaster
import Ipsc2Hbp.Proof.Handshake
import Ipsc2Hbp.Proof.LinkContent

namespace Ipsc2Hbp
open BigEndian

/-- A datagram that the master may acknowledge. -/
def asksMaster (data : Bytes) : Bool :=
  data.take 4 = hbpfRptl || data.take 4 = hbpfRptk ||
    (data.take 4 = hbpfRptc && data.take 5 ≠ hbpfRptcl) || data.take 4 = hbpfRpto

def isRptack (data : Bytes) : Bool := data.take 6 = hbpfRptack

/-- The acknowledgements of the configured login steps, for a salt of the master. -/
def loginAcks (cfg : Config) (salt : Bytes) : List Bytes :=
  [hbpfRptack ++ salt, hbpfRptack ++ radioId cfg, hbpfRptack ++ radioId cfg] ++
    if cfg.options ≠ "" then [hbpfRptack ++ radioId cfg] else []

theorem loginAcks_length (digests : Digests) (cfg : Config) (salt other : Bytes) :
    (loginAcks cfg salt).length = (loginSteps digests cfg other).length := by
  unfold loginAcks loginSteps
  split <;> rfl

theorem buildRptc_eq (cfg : Config) : ∃ rest, buildRptc cfg = hbpfRptc ++ (radioId cfg ++ rest) := by
  simp only [buildRptc, List.append_assoc]
  exact ⟨_, rfl⟩

theorem radioId_length (cfg : Config) : (radioId cfg).length = 4 := natToBytes_length 4 _

/-- The digest of the client for this salt is one that the master has asked for. -/
def Genuine (digests : Digests) (cfg : Config) (passphrase : Bytes) (salt : StreamId) : Prop :=
  ∃ other : StreamId, digests.sha256 (salt.val ++ cfg.hbpPassphrase) =
    digests.sha256 (other.val ++ passphrase)

/-- How a login stands: its requests in flight, their acknowledgements in flight, and those that the
master has sent so far. -/
inductive LockStep (digests : Digests) (cfg : Config) (passphrase : Bytes) (state : HbpState)
    (acks requests replies : List Bytes) : Prop
  | asking (salt : StreamId) (count : Nat) (data : Bytes)
      (phase : state.stepsSent = some (count + 1))
      (step : (loginSteps digests cfg salt.val)[count]? = some (.send data))
      (acked : acks = (loginAcks cfg salt.val).take count)
      (genuine : 2 ≤ count → Genuine digests cfg passphrase salt)
      (request : requests.Sublist [data]) (silent : replies = [])
  | answered (salt : StreamId) (count : Nat) (ack : Bytes)
      (phase : state.stepsSent = some (count + 1))
      (step : (loginAcks cfg salt.val)[count]? = some ack)
      (acked : acks = (loginAcks cfg salt.val).take (count + 1))
      (genuine : 1 ≤ count → Genuine digests cfg passphrase salt)
      (silent : requests = []) (reply : replies.Sublist [ack])
  | connected (salt : StreamId) (up : state = .connected) (acked : acks = loginAcks cfg salt.val)
      (genuine : Genuine digests cfg passphrase salt) (asked : requests = [])
      (silent : replies = [])
  | finished (down : state = .disconnected)

/-- A loss in flight leaves the login where it stands. -/
theorem LockStep.mono {digests : Digests} {cfg : Config} {passphrase : Bytes} {state : HbpState}
    {acks requests replies fewer less : List Bytes}
    (lockStep : LockStep digests cfg passphrase state acks requests replies)
    (requested : fewer.Sublist requests) (replied : less.Sublist replies) :
    LockStep digests cfg passphrase state acks fewer less := by
  cases lockStep with
  | asking salt count data phase step acked genuine request silent =>
      exact .asking salt count data phase step acked genuine (requested.trans request)
        (List.sublist_nil.mp (silent ▸ replied))
  | answered salt count ack phase step acked genuine silent reply =>
      exact .answered salt count ack phase step acked genuine
        (List.sublist_nil.mp (silent ▸ requested)) (replied.trans reply)
  | connected salt up acked genuine asked silent =>
      exact .connected salt up acked genuine (List.sublist_nil.mp (asked ▸ requested))
        (List.sublist_nil.mp (silent ▸ replied))
  | finished down => exact .finished down

namespace FakeHbpMaster
variable {A : Type*} (digests : Digests) (passphrase : Bytes)

/-- The answers go to the sender. -/
theorem datagramReceived_addr (data : Bytes) (addr : A) (urandom : StreamId)
    (master : FakeHbpMaster A) :
    ∀ reply ∈ (master.datagramReceived digests passphrase data addr urandom).2, reply.2 = addr := by
  unfold datagramReceived onRptping onRptl onRptk onRptc onRpto
  dsimp only
  split_ifs <;> simp

/-- The peer's address is the sender's, the old one or none. -/
theorem datagramReceived_peerAddr (data : Bytes) (addr : A) (urandom : StreamId)
    (master : FakeHbpMaster A) :
    ∀ other ∈ (master.datagramReceived digests passphrase data addr urandom).1.peerAddr,
      other = addr ∨ other ∈ master.peerAddr := by
  unfold datagramReceived onRptping onRptl onRptk onRptc onRpto
  dsimp only
  split_ifs <;> intro other member
  all_goals first
    | exact .inr member
    | exact .inl (Option.some.inj member).symm
    | cases member

theorem isRptack_pong (id : Bytes) : isRptack (hbpfMstpong ++ id) = false := rfl

theorem isRptack_nak (id : Bytes) : isRptack (hbpfMstnak ++ id) = false := rfl

/-- What asks for nothing is not acknowledged. -/
theorem datagramReceived_unasked {data : Bytes} (unasked : asksMaster data = false) (addr : A)
    (urandom : StreamId) (master : FakeHbpMaster A) :
    ∀ reply ∈ (master.datagramReceived digests passphrase data addr urandom).2,
      isRptack reply.1 = false := by
  simp only [asksMaster, Bool.or_eq_false_iff, Bool.and_eq_false_iff, decide_eq_false_iff_not,
    not_not] at unasked
  obtain ⟨⟨⟨login, key⟩, config⟩, options⟩ := unasked
  unfold datagramReceived
  split_ifs with short ping close
  · simp
  · unfold onRptping
    dsimp only
    split_ifs <;> simp [isRptack_pong]
  · simp
  · rename_i rptc
    rcases config with other | front
    · exact absurd rptc other
    · have long : 5 ≤ data.length := by
        have length := congrArg List.length front
        simp only [List.length_take, hbpfRptcl, List.length_cons, List.length_nil] at length
        omega
      simp [long, front] at close
  · simp

section Dispatch
variable (rest : Bytes) (addr : A) (urandom : StreamId) (master : FakeHbpMaster A)

theorem datagramReceived_rptl :
    master.datagramReceived digests passphrase (hbpfRptl ++ rest) addr urandom =
      master.onRptl (hbpfRptl ++ rest) addr urandom := by
  simp [datagramReceived, hbpfRptl, hbpfRptping, hbpfRptcl]

theorem datagramReceived_rptk :
    master.datagramReceived digests passphrase (hbpfRptk ++ rest) addr urandom =
      master.onRptk digests passphrase (hbpfRptk ++ rest) addr := by
  simp [datagramReceived, hbpfRptk, hbpfRptping, hbpfRptcl, hbpfRptl]

/-- An RPTC whose radio ID starts with the letter L is taken for an RPTCL. -/
theorem datagramReceived_rptc :
    master.datagramReceived digests passphrase (hbpfRptc ++ rest) addr urandom =
      if rest.head? = some 0x4c then
        ({ master with state := .idle, peerAddr := none, peerId := none }, [])
      else master.onRptc (hbpfRptc ++ rest) addr := by
  cases rest with
  | nil => simp [datagramReceived, hbpfRptc, hbpfRptping, hbpfRptcl, hbpfRptl, hbpfRptk]
  | cons first rest =>
      simp [datagramReceived, hbpfRptc, hbpfRptping, hbpfRptcl, hbpfRptl, hbpfRptk]

theorem datagramReceived_rpto :
    master.datagramReceived digests passphrase (hbpfRpto ++ rest) addr urandom =
      master.onRpto (hbpfRpto ++ rest) addr := by
  simp [datagramReceived, hbpfRpto, hbpfRptping, hbpfRptcl, hbpfRptl, hbpfRptk, hbpfRptc]

end Dispatch

section Answers
variable {digests passphrase} (cfg : Config) (rest : Bytes) (addr : A) (urandom : StreamId)
  (master : FakeHbpMaster A)

/-- The radio ID stands behind the command word. -/
theorem extract_radioId {word : Bytes} (width : word.length = 4) :
    (word ++ (radioId cfg ++ rest)).extract 4 8 = radioId cfg :=
  extract_middle word rest rfl width (by rw [radioId_length])

theorem onRptl_login :
    master.onRptl (hbpfRptl ++ (radioId cfg ++ rest)) addr urandom =
      (⟨.waitRptk, some addr, some (radioId cfg), urandom⟩, [(hbpfRptack ++ urandom.val, addr)]) := by
  have long : ¬ (hbpfRptl ++ (radioId cfg ++ rest)).length < 8 := by
    simp [radioId_length, hbpfRptl]
  rw [onRptl, if_neg long, extract_radioId cfg rest rfl]

/-- The answer to a digest of the right width. -/
theorem onRptk_login {digest : Bytes} (width : digest.length = 32) :
    master.onRptk digests passphrase (hbpfRptk ++ (radioId cfg ++ digest)) addr =
      if master.state ≠ .waitRptk then (master, [])
      else if digest = digests.sha256 (master.salt.val ++ passphrase) then
        ({ master with state := .waitRptc }, [(hbpfRptack ++ radioId cfg, addr)])
      else ({ master with state := .idle }, [(hbpfMstnak ++ radioId cfg, addr)]) := by
  have long : ¬ (hbpfRptk ++ (radioId cfg ++ digest)).length < 40 := by
    simp [radioId_length, hbpfRptk, width]
  have hash : (hbpfRptk ++ (radioId cfg ++ digest)).extract 8 40 = digest :=
    extract_middle (hbpfRptk ++ radioId cfg) [] (by simp) (by simp [radioId_length, hbpfRptk])
      (by rw [width])
  rw [onRptk, if_neg long, extract_radioId cfg digest rfl, hash]

theorem onRptc_login :
    master.onRptc (hbpfRptc ++ (radioId cfg ++ rest)) addr =
      if master.state ≠ .waitRptc then (master, [])
      else ({ master with state := .waitRpto }, [(hbpfRptack ++ radioId cfg, addr)]) := by
  rw [onRptc, extract_radioId cfg rest rfl]

theorem onRpto_login :
    master.onRpto (hbpfRpto ++ (radioId cfg ++ rest)) addr =
      if master.state = .waitRpto then
        ({ master with state := .connected }, [(hbpfRptack ++ radioId cfg, addr)])
      else (master, []) := by
  have long : 8 ≤ (hbpfRpto ++ (radioId cfg ++ rest)).length := by
    simp [radioId_length, hbpfRpto]
  simp only [onRpto, if_pos long, extract_radioId cfg rest (rfl : hbpfRpto.length = 4)]

end Answers

/-- The acknowledgement of a login step is the one that the client waits for. -/
theorem datagramReceived_login {digests : Digests} (documented : digests.Documented) {cfg : Config}
    (passphrase : Bytes) {salt : StreamId} {count : Nat} {data : Bytes}
    (step : (loginSteps digests cfg salt.val)[count]? = some (.send data)) (addr : A)
    (urandom : StreamId) (master : FakeHbpMaster A) :
    (∀ reply ∈ (master.datagramReceived digests passphrase data addr urandom).2,
        isRptack reply.1 = false) ∨
      ∃ other ack, (master.datagramReceived digests passphrase data addr urandom).2 = [(ack, addr)] ∧
        (loginAcks cfg other.val)[count]? = some ack ∧ (count ≠ 0 → other = salt) ∧
        (count = 1 → Genuine digests cfg passphrase salt) := by
  match count with
  | 0 =>
      obtain rfl : hbpfRptl ++ (radioId cfg ++ []) = data := by
        simpa [loginSteps] using step
      rw [datagramReceived_rptl, onRptl_login]
      exact .inr ⟨urandom, _, rfl, rfl, by simp, by simp⟩
  | 1 =>
      obtain rfl : hbpfRptk ++ (radioId cfg ++ digests.sha256 (salt.val ++ cfg.hbpPassphrase)) =
          data := by
        simpa [loginSteps] using step
      rw [datagramReceived_rptk, onRptk_login cfg addr master (documented.sha256 _)]
      split_ifs with other same
      · exact .inl (by simp)
      · exact .inr ⟨salt, _, rfl, rfl, fun _ => rfl, fun _ => ⟨master.salt, same⟩⟩
      · exact .inl (by simp [isRptack_nak])
  | 2 =>
      obtain ⟨rest, shape⟩ := buildRptc_eq cfg
      obtain rfl : hbpfRptc ++ (radioId cfg ++ rest) = data := by
        simpa [loginSteps, shape] using step
      rw [datagramReceived_rptc, onRptc_login]
      split_ifs
      · exact .inl (by simp)
      · exact .inl (by simp)
      · exact .inr ⟨salt, _, rfl, rfl, fun _ => rfl, by simp⟩
  | count + 3 =>
      have options : cfg.options ≠ "" := fun none => by simp [loginSteps, none] at step
      obtain ⟨rfl, rfl⟩ : count = 0 ∧ hbpfRpto ++ (radioId cfg ++ enc cfg.options 300) = data := by
        cases count with
        | zero => simpa [loginSteps, options] using step
        | succ count => simp [loginSteps, options] at step
      rw [datagramReceived_rpto, onRpto_login]
      split_ifs
      · exact .inr ⟨salt, _, rfl, by simp [loginAcks, options], fun _ => rfl, by simp⟩
      · exact .inl (by simp)

theorem isRptack_dmrd (master : FakeHbpMaster A) (seq : Nat) (flags : UInt8) (streamId : StreamId) :
    isRptack (master.buildDmrd seq flags streamId) = false := by
  simp [buildDmrd, isRptack, hbpfDmrd, hbpfRptack]

/-- The commands acknowledge nothing, go to the known peer and keep it. -/
theorem step_command (digests : Digests) (passphrase : Bytes) (master : FakeHbpMaster A)
    {event : FakeEvent A} (command : ∀ data addr urandom, event ≠ .datagramReceived data addr urandom) :
    (master.step digests passphrase event).1.peerAddr = master.peerAddr ∧
      ∀ reply ∈ (master.step digests passphrase event).2,
        isRptack reply.1 = false ∧ reply.2 ∈ master.peerAddr := by
  have dismissed {word : Bytes} (other : ∀ id, isRptack (word ++ id) = false) :
      (master.dismiss word).1.peerAddr = master.peerAddr ∧
        ∀ reply ∈ (master.dismiss word).2, isRptack reply.1 = false ∧ reply.2 ∈ master.peerAddr := by
    unfold dismiss
    cases known : master.peerAddr <;> simp [known, other]
  have framed (frames : List Bytes) (dmrd : ∀ frame ∈ frames, isRptack frame = false) :
      ∀ reply ∈ master.toPeer true frames, isRptack reply.1 = false ∧ reply.2 ∈ master.peerAddr := by
    unfold toPeer
    cases master.peerAddr with
    | none => simp
    | some addr =>
        dsimp only
        split_ifs
        · simp
        · simpa using dmrd
  cases event with
  | datagramReceived data addr urandom => exact absurd rfl (command data addr urandom)
  | sendNak => exact dismissed fun _ => rfl
  | sendMstcl => exact dismissed fun _ => rfl
  | sendDmrd urandom => exact ⟨rfl, framed _ (by simp [isRptack_dmrd])⟩
  | sendCall ts urandom =>
      refine ⟨rfl, framed _ fun frame member => ?_⟩
      simp only [callFrames, List.mem_append, List.mem_singleton, List.mem_map] at member
      rcases member with (rfl | ⟨i, -, rfl⟩) | rfl <;> exact master.isRptack_dmrd ..

end FakeHbpMaster

/-- The request to the master that an effect of the HBP stack is, if any. -/
def HbpOutput.request : HbpOutput → Option Bytes
  | .send data => if asksMaster data then some data else none
  | _ => none

/-- The client stays in its session and asks the master for nothing; its protocol goes on in the same
state or is closed. -/
structure HbpClient.Stays (before after : HbpClient) (outputs : List HbpOutput) : Prop where
  session : after.session = before.session
  silent : outputs.filterMap HbpOutput.request = []
  state : ∀ proto ∈ after.protocol,
    proto.state = .disconnected ∨ ∃ old ∈ before.protocol, old.state = proto.state

namespace HbpProtocol
variable (cfg : Config) (proto : HbpProtocol)

theorem sendRaw_silent {data : Bytes} (unasked : asksMaster data = false) :
    (proto.sendRaw data).filterMap HbpOutput.request = [] := by
  unfold sendRaw
  split
  · simp [HbpOutput.request, unasked]
  · rfl

theorem disconnect_silent (sendRptcl : Bool) :
    (proto.disconnect cfg sendRptcl).2.filterMap HbpOutput.request = [] := by
  simp only [disconnect]
  split
  · exact proto.sendRaw_silent rfl
  · rfl

theorem errorReceived_silent : (proto.errorReceived cfg).2.filterMap HbpOutput.request = [] := by
  unfold errorReceived
  split
  · rfl
  · rw [List.filterMap_append, disconnect_silent, List.append_nil]
    split <;> rfl

theorem errorReceived_state : (proto.errorReceived cfg).1.state = .disconnected := by
  unfold errorReceived
  split
  case isTrue down => exact down
  case isFalse => rfl

theorem keepalive_silent (now : Time) : (proto.keepalive cfg now).2.filterMap HbpOutput.request = [] := by
  have ping : asksMaster (hbpfRptping ++ radioId cfg) = false := rfl
  unfold keepalive
  split
  · rfl
  · dsimp only
    split
    · simp only [List.filterMap_append, sendRaw_silent proto ping, disconnect_silent]
      rfl
    · exact sendRaw_silent proto ping

theorem keepalive_state (now : Time) : (proto.keepalive cfg now).1.state = .disconnected ∨
    (proto.keepalive cfg now).1.state = proto.state := by
  unfold keepalive
  split
  · exact .inr rfl
  · dsimp only
    split
    · exact .inl rfl
    · exact .inr rfl

/-- Without an RPTACK nothing is asked. -/
theorem datagramReceived_silent (digests : Digests) {data : Bytes} (other : isRptack data = false)
    (now : Time) :
    (proto.datagramReceived digests cfg data now).2.filterMap HbpOutput.request = [] := by
  have plain : data.take 6 ≠ hbpfRptack := of_decide_eq_false other
  simp only [datagramReceived, plain, decide_false, Bool.and_false, Bool.false_eq_true, if_false]
  split_ifs <;> rfl

theorem datagramReceived_state (digests : Digests) {data : Bytes} (other : isRptack data = false)
    (now : Time) : (proto.datagramReceived digests cfg data now).1.state = .disconnected ∨
      (proto.datagramReceived digests cfg data now).1.state = proto.state := by
  have plain : data.take 6 ≠ hbpfRptack := of_decide_eq_false other
  simp only [datagramReceived, plain, decide_false, Bool.and_false, Bool.false_eq_true, if_false]
  split_ifs <;> first | exact .inr rfl | exact .inl rfl

end HbpProtocol

namespace HbpClient
variable {digests : Digests} {cfg : Config}

theorem Stays.refl (client : HbpClient) : client.Stays client [] :=
  ⟨rfl, rfl, fun proto member => .inr ⟨proto, member, rfl⟩⟩

theorem Stays.trans {first second third : HbpClient} {one two : List HbpOutput}
    (before : first.Stays second one) (after : second.Stays third two) :
    first.Stays third (one ++ two) := by
  refine ⟨after.session.trans before.session, ?_, fun proto member => ?_⟩
  · rw [List.filterMap_append, before.silent, after.silent, List.append_nil]
  · rcases after.state proto member with down | ⟨old, present, same⟩
    · exact .inl down
    · rcases before.state old present with down | ⟨older, there, alike⟩
      · exact .inl (same ▸ down)
      · exact .inr ⟨older, there, alike.trans same⟩

/-- The protocol is left alone. -/
theorem Stays.same {before after : HbpClient} {outputs : List HbpOutput}
    (session : after.session = before.session) (protocol : after.protocol = before.protocol)
    (silent : outputs.filterMap HbpOutput.request = []) : before.Stays after outputs :=
  ⟨session, silent, fun proto member => .inr ⟨proto, protocol ▸ member, rfl⟩⟩

theorem Stays.onProtocol {handler : HbpProtocol → HbpProtocol × List HbpOutput}
    (client : HbpClient)
    (silent : ∀ proto ∈ client.protocol, (handler proto).2.filterMap HbpOutput.request = [])
    (state : ∀ proto ∈ client.protocol, (handler proto).1.state = .disconnected ∨
      (handler proto).1.state = proto.state) :
    client.Stays (client.onProtocol handler).1 (client.onProtocol handler).2 := by
  unfold HbpClient.onProtocol
  cases present : client.protocol with
  | none => exact .refl client
  | some proto =>
      refine ⟨rfl, silent proto present, fun after member => ?_⟩
      obtain rfl : (handler proto).1 = after := Option.some.inj member
      exact (state proto present).imp id fun same => ⟨proto, present, same.symm⟩

theorem Stays.activate (client : HbpClient) : client.Stays client.activate.1 client.activate.2 := by
  refine .same ?_ (activate_protocol client) ?_ <;>
    · unfold HbpClient.activate
      dsimp only
      split_ifs <;> rfl

theorem Stays.deactivate (client : HbpClient) :
    client.Stays (client.deactivate cfg).1 (client.deactivate cfg).2 := by
  unfold HbpClient.deactivate
  split
  · exact .refl client
  · have closed : Stays { client with active := false } _ _ :=
      .onProtocol { client with active := false } (fun proto _ => proto.disconnect_silent cfg true)
        fun _ _ => .inl rfl
    exact ⟨closed.session, closed.silent, closed.state⟩

/-- The frames of the translator ask for nothing. -/
theorem Stays.shown {before after : HbpClient} {outputs : List HbpOutput}
    (stays : before.Stays after outputs) : before.Stays after (outputs.filterMap HbpOutput.own) := by
  refine ⟨stays.session, ?_, stays.state⟩
  rw [List.filterMap_filterMap, ← stays.silent]
  refine List.filterMap_congr fun output _ => ?_
  cases output <;> rfl

/-- What the translator calls leaves the session as it is. -/
theorem Stays.switches {before after : HbpClient} {log : List HbpOutput}
    (driven : Drives digests cfg ClientCall.IsSwitch before after log) : before.Stays after log := by
  obtain ⟨calls, switches, rfl, rfl⟩ := driven
  induction calls generalizing before with
  | nil => exact .refl before
  | cons call rest ih =>
      have later := fun before => @ih before fun other member =>
        switches other (List.mem_cons_of_mem _ member)
      rw [Mealy.run_cons, List.filterMap_append]
      refine Stays.trans ?_ (later _)
      cases call with
      | event event => exact (switches (.event event) List.mem_cons_self).elim
      | activate => exact (Stays.activate before).shown
      | deactivate => exact (Stays.deactivate before).shown

/-- A callback that makes no protocol and brings no RPTACK leaves the session as it is. -/
theorem Stays.event (client : HbpClient) {event : HbpEvent}
    (unmade : event = .endpointCreated → client.task ≠ .connecting)
    (unacked : ∀ data now, event = .datagramReceived data now → isRptack data = false) :
    client.Stays (client.step digests cfg event).1 (client.step digests cfg event).2 := by
  cases event with
  | start =>
      simp only [HbpClient.step, HbpClient.start]
      split
      · have activated := Stays.activate { client with started := true }
        exact ⟨activated.session, activated.silent, activated.state⟩
      · exact .same rfl rfl rfl
  | loopTop | endpointFailed | doneWaited =>
      simp only [HbpClient.step]
      split <;> exact .same rfl rfl rfl
  | endpointCreated =>
      rw [HbpClient.step, if_neg (unmade rfl)]
      exact .refl client
  | connectionLost =>
      simp only [HbpClient.step]
      split
      · exact .refl client
      · split
        · exact .refl client
        · exact ⟨rfl, rfl, by simp⟩
  | errorReceived =>
      exact .onProtocol client (fun proto _ => proto.errorReceived_silent cfg) fun proto _ =>
        .inl (proto.errorReceived_state cfg)
  | datagramReceived data now =>
      have other := unacked data now rfl
      refine .onProtocol client (fun proto _ => ?_) fun proto _ => ?_
      · split
        · exact proto.datagramReceived_silent cfg digests other now
        · rfl
      · split
        · exact proto.datagramReceived_state cfg digests other now
        · exact .inr rfl
  | keepalive now =>
      refine .onProtocol client (fun proto _ => ?_) fun proto _ => ?_
      · split
        · exact proto.keepalive_silent cfg now
        · rfl
      · split
        · exact proto.keepalive_state cfg now
        · exact .inr rfl

/-- An RPTACK that reaches the open socket is one for the login. -/
theorem step_rptack (digests : Digests) (cfg : Config) {client : HbpClient} {proto : HbpProtocol}
    (present : client.protocol = some proto) (attached : proto.transport = true) {data : Bytes}
    (ack : isRptack data = true) (now : Time) :
    client.step digests cfg (.datagramReceived data now) =
      ({ client with protocol := some (proto.onRptack digests cfg data now).1 },
        (proto.onRptack digests cfg data now).2) := by
  have dispatched : proto.datagramReceived digests cfg data now = proto.onRptack digests cfg data now := by
    have word : data.take 6 = hbpfRptack := of_decide_eq_true ack
    have long : 6 ≤ data.length := by
      have length := congrArg List.length word
      simp only [List.length_take, hbpfRptack, List.length_cons, List.length_nil] at length
      omega
    have whole : ¬ data.length < 4 := by omega
    simp [HbpProtocol.datagramReceived, whole, long, word]
  simp only [step, onProtocol, present, if_pos attached, dispatched]

end HbpClient

namespace LockStep
variable {digests : Digests} {cfg : Config} {passphrase : Bytes} {state : HbpState}
  {acks requests replies : List Bytes}

/-- An acknowledgement takes the client one step on. -/
theorem onRptack_advances (digests : Digests) {proto : HbpProtocol} {salt : StreamId} {count : Nat}
    {ack : Bytes} (phase : proto.state.stepsSent = some (count + 1)) (attached : proto.transport = true)
    (step : (loginAcks cfg salt.val)[count]? = some ack) (now : Time) :
    let result := proto.onRptack digests cfg ack now
    (∃ data, (loginSteps digests cfg salt.val)[count + 1]? = some (.send data) ∧
        result.1.state.stepsSent = some (count + 2) ∧ result.2 = [.send data]) ∨
      ((loginSteps digests cfg salt.val).length = count + 1 ∧ result.1.state = .connected ∧
        result.2 = [.hbpConnected]) := by
  have raw (bytes : Bytes) : proto.sendRaw bytes = [.send bytes] := by
    rw [HbpProtocol.sendRaw, if_pos attached]
  unfold HbpProtocol.onRptack
  cases phased : proto.state with
  | login =>
      obtain rfl : count = 0 := by simpa [phased, HbpState.stepsSent] using phase
      obtain rfl : hbpfRptack ++ salt.val = ack := by simpa [loginAcks] using step
      have long : ¬ (hbpfRptack ++ salt.val).length < rptackNonceOff + 4 := by
        simp [salt.property, hbpfRptack, rptackNonceOff]
      have nonce : (hbpfRptack ++ salt.val).extract rptackNonceOff (rptackNonceOff + 4) = salt.val :=
        extract_middle hbpfRptack [] (by simp) rfl (by rw [salt.property])
      dsimp only
      rw [if_neg long, nonce, raw]
      exact .inl ⟨_, rfl, rfl, rfl⟩
  | authSent =>
      obtain rfl : count = 1 := by simpa [phased, HbpState.stepsSent] using phase.symm
      dsimp only
      rw [raw]
      exact .inl ⟨_, rfl, rfl, rfl⟩
  | configSent =>
      obtain rfl : count = 2 := by simpa [phased, HbpState.stepsSent] using phase.symm
      dsimp only
      split
      case isTrue options =>
        rw [raw]
        exact .inl ⟨_, by simp [loginSteps, options], rfl, rfl⟩
      case isFalse none =>
        exact .inr ⟨by simp [loginSteps, not_not.mp none], rfl, rfl⟩
  | optionsSent =>
      obtain rfl : count = 3 := by simpa [phased, HbpState.stepsSent] using phase.symm
      have options : cfg.options ≠ "" := fun none => by simp [loginAcks, none] at step
      exact .inr ⟨by simp [loginSteps, options], rfl, rfl⟩
  | connected | disconnected => simp [phased, HbpState.stepsSent] at phase

/-- What a login in lock step says of an open session. -/
theorem summary (lockStep : LockStep digests cfg passphrase state acks requests replies)
    (up : state ≠ .disconnected) :
    requests.length + replies.length ≤ 1 ∧
      ∃ salt : StreamId, acks <+: loginAcks cfg salt.val ∧
        (2 ≤ acks.length → Genuine digests cfg passphrase salt) ∧
        (∀ count, state.stepsSent = some (count + 1) →
          count ≤ acks.length ∧ acks.length ≤ count + 1) ∧
        (state = .connected → acks = loginAcks cfg salt.val) := by
  cases lockStep with
  | asking salt count data phase step acked genuine request silent =>
      have few := request.length_le
      have room : count < (loginAcks cfg salt.val).length := by
        rw [loginAcks_length digests cfg salt.val salt.val]
        exact (List.getElem?_eq_some_iff.mp step).1
      have length : acks.length = count := by rw [acked, List.length_take_of_le room.le]
      refine ⟨by simpa [silent] using few, salt, acked ▸ List.take_prefix count _, length ▸ genuine,
        fun other same => ?_, fun connected => ?_⟩
      · rw [phase] at same
        have same := Option.some.inj same
        omega
      · rw [connected] at phase
        cases phase
  | answered salt count ack phase step acked genuine silent reply =>
      have few := reply.length_le
      have room := (List.getElem?_eq_some_iff.mp step).1
      have length : acks.length = count + 1 := by rw [acked, List.length_take_of_le room]
      refine ⟨by simpa [silent] using few, salt, acked ▸ List.take_prefix _ _,
        fun two => genuine (by omega), fun other same => ?_, fun connected => ?_⟩
      · rw [phase] at same
        have same := Option.some.inj same
        omega
      · rw [connected] at phase
        cases phase
  | connected salt connected acked genuine asked silent =>
      refine ⟨by simp [asked, silent], salt, acked ▸ List.prefix_refl _, fun _ => genuine,
        fun count same => ?_, fun _ => acked⟩
      rw [connected] at same
      cases same
  | finished down => exact absurd down up

/-- The reply in flight is the one that the client waits for. -/
theorem reply_cases (lockStep : LockStep digests cfg passphrase state acks requests replies)
    {before after : List Bytes} {data : Bytes} (here : replies = before ++ data :: after) :
    state = .disconnected ∨ ∃ salt count, state.stepsSent = some (count + 1) ∧
      (loginAcks cfg salt.val)[count]? = some data ∧
      acks = (loginAcks cfg salt.val).take (count + 1) ∧
      (1 ≤ count → Genuine digests cfg passphrase salt) ∧ requests = [] ∧ before ++ after = [] := by
  have inside : data ∈ replies := by simp [here]
  cases lockStep with
  | asking salt count other phase step acked genuine request silent => simp [silent] at inside
  | answered salt count ack phase step acked genuine silent reply =>
      obtain rfl : data = ack := List.mem_singleton.mp (reply.mem inside)
      have length := reply.length_le
      have none : before ++ after = [] := by
        rw [List.append_eq_nil_iff, ← List.length_eq_zero_iff, ← List.length_eq_zero_iff]
        simp only [here, List.length_append, List.length_cons, List.length_nil] at length
        omega
      exact .inr ⟨salt, count, phase, step, acked, genuine, silent, none⟩
  | connected salt up acked genuine asked silent => simp [silent] at inside
  | finished down => exact .inl down

/-- The request in flight is the one that waits for its acknowledgement. -/
theorem request_cases (lockStep : LockStep digests cfg passphrase state acks requests replies)
    {before after : List Bytes} {data : Bytes} (here : requests = before ++ data :: after) :
    state = .disconnected ∨ ∃ salt count, state.stepsSent = some (count + 1) ∧
      (loginSteps digests cfg salt.val)[count]? = some (.send data) ∧
      acks = (loginAcks cfg salt.val).take count ∧
      (2 ≤ count → Genuine digests cfg passphrase salt) ∧ replies = [] ∧ before ++ after = [] := by
  have inside : data ∈ requests := by simp [here]
  cases lockStep with
  | asking salt count other phase step acked genuine request silent =>
      obtain rfl : data = other := List.mem_singleton.mp (request.mem inside)
      have length := request.length_le
      have none : before ++ after = [] := by
        rw [List.append_eq_nil_iff, ← List.length_eq_zero_iff, ← List.length_eq_zero_iff]
        simp only [here, List.length_append, List.length_cons, List.length_nil] at length
        omega
      exact .inr ⟨salt, count, phase, step, acked, genuine, silent, none⟩
  | answered salt count ack phase step acked genuine silent reply => simp [silent] at inside
  | connected salt up acked genuine asked silent => simp [asked] at inside
  | finished down => exact .inl down

end LockStep

end Ipsc2Hbp
