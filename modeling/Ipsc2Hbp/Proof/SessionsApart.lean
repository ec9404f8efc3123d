import Ipsc2Hbp.Construction.DmrCodec
import Ipsc2Hbp.Construction.Packets
import Ipsc2Hbp.Proof.GroupVoice
import Ipsc2Hbp.Proof.HbpClient
import Ipsc2Hbp.Proof.SessionStreams

namespace Ipsc2Hbp
open BigEndian Precedence

/-- The call state of a slot is as `hbp_disconnected` leaves it. -/
def Cleared (slot : Slot) : Prop := disconnectSlot slot = slot

/-- A rejection of a CONNECTED session finds the call state of both timeslots cleared. -/
def RejectionGuarded (core : Core) : CoreEvent → Prop
  | .hbp (.datagramReceived data _) .. =>
      IsRejection data = true → core.client.isConnected = true → ∀ ts, Cleared (core.translator.slot ts)
  | _ => True

/-- A session that reaches CONNECTED finds the call state of both timeslots cleared. -/
def BeginsCleared (digests : Digests) (dmr : DmrUtils) (cfg : Config) (core : Core)
    (event : CoreEvent) : Prop :=
  core.client.isConnected = false →
    (Core.step digests dmr cfg core event).1.client.isConnected = true →
    ∀ ts, Cleared (core.translator.slot ts)

def IsSentDmrd : CoreOutput → Prop
  | .hbp _ (.sendDmrd _) => True
  | _ => False

instance : DecidablePred IsSentDmrd
  | .hbp _ (.sendDmrd _) => isTrue trivial
  | .hbp _ (.send _) | .hbp _ .hbpConnected | .hbp _ .hbpDisconnected | .hbp _ (.hbpVoiceReceived _)
  | .hbp _ (.raised _) | .translator .. => isFalse id

/-- The first effect opens the stream of the second one's frame, in the same session. -/
def OpensStreamOf : CoreOutput → CoreOutput → Prop
  | .translator session (.slot _ (.openStream streamId _)), .hbp other (.sendDmrd dmrd) =>
      session = other ∧ streamId = (HbpFrame.read dmrd).stream
  | _, _ => False

instance : DecidableRel OpensStreamOf := fun first second => by
  unfold OpensStreamOf
  split <;> infer_instance

/-- Every frame sent to the master comes after the opening of its stream in its own session. -/
def OwnStreams (log : List CoreOutput) : Prop := Preceded IsSentDmrd OpensStreamOf log

/-- The session has opened the stream. -/
def OpenedIn (log : List CoreOutput) (session : Nat) (streamId : Bytes) : Prop :=
  ∃ ts lc, CoreOutput.translator session (.slot ts (.openStream streamId lc)) ∈ log

theorem OpenedIn.append {log : List CoreOutput} {session : Nat} {streamId : Bytes}
    (opened : OpenedIn log session streamId) (more : List CoreOutput) :
    OpenedIn (log ++ more) session streamId := by
  obtain ⟨ts, lc, member⟩ := opened
  exact ⟨ts, lc, List.mem_append_left _ member⟩

/-- An effect that sends no frame needs no stream. -/
theorem OwnStreams.snoc_free {log : List CoreOutput} (own : OwnStreams log) {output : CoreOutput}
    (free : ¬ IsSentDmrd output) : OwnStreams (log ++ [output]) :=
  Preceded.snoc own fun need => absurd need free

theorem OwnStreams.append_free {log more : List CoreOutput} (own : OwnStreams log)
    (free : ∀ output ∈ more, ¬ IsSentDmrd output) : OwnStreams (log ++ more) := by
  induction more generalizing log with
  | nil => simpa using own
  | cons output rest ih =>
      have first := own.snoc_free (free output List.mem_cons_self)
      have all := ih first fun other member => free other (List.mem_cons_of_mem _ member)
      rwa [List.append_assoc] at all

theorem OwnStreams.snoc_sent {log : List CoreOutput} (own : OwnStreams log) {session : Nat}
    {dmrd : Bytes} (opened : OpenedIn log session (HbpFrame.read dmrd).stream) :
    OwnStreams (log ++ [.hbp session (.sendDmrd dmrd)]) := by
  obtain ⟨ts, lc, member⟩ := opened
  exact Preceded.snoc own fun _ => ⟨_, member, rfl, rfl⟩

section Cleared

/-- A slot is cleared when each of its parts is. -/
theorem cleared_iff (slot : Slot) : Cleared slot ↔ clearOutCall slot.outCall = slot.outCall ∧
    clearInCall slot.inCall = slot.inCall ∧ clearIpscTxQueue slot.tx = slot.tx ∧
      slot.reflect = {} := by
  rcases slot with ⟨outCall, inCall, lock, tx, reflect, busy⟩
  simp only [Cleared, disconnectSlot, Slot.mk.injEq, true_and, and_true]
  constructor
  · rintro ⟨out, call, queue, tables⟩
    exact ⟨out, call, queue, tables.symm⟩
  · rintro ⟨out, call, queue, tables⟩
    exact ⟨out, call, queue, tables.symm⟩

theorem cleared_disconnectSlot (slot : Slot) : Cleared (disconnectSlot slot) := rfl

theorem cleared_peerLostSlot (slot : Slot) : Cleared (peerLostSlot slot) := rfl

theorem Cleared.streamId {slot : Slot} (cleared : Cleared slot) : slot.outCall.streamId = none := by
  rw [← ((cleared_iff slot).mp cleared).1]
  rfl

theorem Cleared.lc {slot : Slot} (cleared : Cleared slot) : slot.inCall.lc = none := by
  rw [← ((cleared_iff slot).mp cleared).2.1]
  rfl

theorem Cleared.queue {slot : Slot} (cleared : Cleared slot) : slot.tx.queue = [] := by
  rw [← ((cleared_iff slot).mp cleared).2.2.1]
  rfl

/-- A drain of an empty queue keeps the slot cleared. -/
theorem Cleared.drain {slot : Slot} (cleared : Cleared slot) (cfg : Config) (clock : Clock) :
    Cleared (drainHbpToIpscQueue cfg clock slot).1 := by
  have outcome := drainHbpToIpscQueue_cases cfg clock slot
  generalize drainHbpToIpscQueue cfg clock slot = result at outcome
  rcases result with ⟨after, actions⟩
  obtain ⟨out, call, queue, tables⟩ := (cleared_iff slot).mp cleared
  cases outcome with
  | empty lockUntil =>
      refine (cleared_iff _).mpr ⟨out, call, ?_, tables⟩
      rw [← queue]
      rfl
  | taken entry rest sent actions handle nextAt lockUntil first =>
      rw [cleared.queue] at first
      cases first

/-- Without calls nothing times out. -/
theorem Cleared.checkCallTimeouts {slot : Slot} (cleared : Cleared slot) (cfg : Config)
    (timeout : Time) (clock : Clock) (ts : Timeslot) :
    Ipsc2Hbp.checkCallTimeouts cfg timeout clock ts slot = slot := by
  simp only [Ipsc2Hbp.checkCallTimeouts, checkOutTimeout, checkInTimeout, cleared.streamId, cleared.lc,
    Option.isSome_none, Bool.false_and, Bool.false_eq_true, if_false]

end Cleared

namespace Core

/-- What a log tells about the streams of a session and of those before it. -/
structure SessionLaw (log : List CoreOutput) (core : Core) : Prop where
  sound : core.client.Sound
  wide : ∀ ts, (core.translator.slot ts).outCall.Wide
  known : ∀ ts streamId, (core.translator.slot ts).outCall.streamId = some streamId →
    OpenedIn log core.client.session streamId
  own : OwnStreams log

/-- The sessions stay apart: between two of them the call state is cleared. -/
structure SessionsApart (log : List CoreOutput) (core : Core) : Prop extends SessionLaw log core where
  cleared : core.client.isConnected = false → ∀ ts, Cleared (core.translator.slot ts)

/-- Effects on a timeslot do not change the client. -/
theorem obey_actions_client (cfg : Config) (client : HbpClient) (ts : Timeslot)
    (actions : List Action) : (obey cfg client (actions.map (Output.slot ts))).1 = client := by
  induction actions with
  | nil => rfl
  | cons action rest ih =>
      cases action <;> exact ih

/-- The log shows each stream that a handler opens. -/
theorem obey_actions_opened (cfg : Config) (client : HbpClient) (ts : Timeslot) {actions : List Action}
    {streamId lc : Bytes} (member : .openStream streamId lc ∈ actions) :
    OpenedIn (obey cfg client (actions.map (Output.slot ts))).2 client.session streamId := by
  induction actions with
  | nil => cases member
  | cons action rest ih =>
      rcases List.mem_cons.mp member with rfl | later
      · exact ⟨ts, lc, List.mem_cons_self⟩
      · obtain ⟨slot, header, inside⟩ := ih later
        refine ⟨slot, header, List.mem_cons_of_mem _ (List.mem_append_right _ ?_)⟩
        cases action <;> exact inside

/-- Supplied actions send frames of streams of the session only. -/
theorem obey_actions_own (cfg : Config) (client : HbpClient) (ts : Timeslot) {known : Bytes → Prop}
    {actions : List Action} (supplied : Supplied known actions) {log : List CoreOutput}
    (own : OwnStreams log) (opened : ∀ streamId, known streamId → OpenedIn log client.session streamId) :
    OwnStreams (log ++ (obey cfg client (actions.map (Output.slot ts))).2) := by
  induction actions generalizing known log with
  | nil => simpa [obey] using own
  | cons action rest ih =>
      have noted : OwnStreams (log ++ [.translator client.session (.slot ts action)]) :=
        own.snoc_free id
      have still : ∀ streamId, known streamId →
          OpenedIn (log ++ [.translator client.session (.slot ts action)]) client.session streamId :=
        fun streamId member => (opened streamId member).append _
      cases action with
      | openStream streamId lc =>
          have tail := ih supplied noted fun other cases => by
            rcases cases with rfl | before
            · exact ⟨ts, lc, List.mem_append_right _ List.mem_cons_self⟩
            · exact still other before
          rw [List.append_assoc] at tail
          exact tail
      | sendDmrd dmrd =>
          rcases sendDmrd_cases client dmrd with silent | sent
          · have tail := ih supplied.2 noted still
            simpa [obey, command, silent] using tail
          · have tail := ih supplied.2 (noted.snoc_sent (still _ supplied.1)) fun streamId member =>
              (still streamId member).append _
            simpa [obey, command, sent] using tail
      | generate | queueFull | slotBusy | sendToPeer | raised =>
          have tail := ih supplied noted still
          rw [List.append_assoc] at tail
          exact tail

/-- A handler of one timeslot that obeys the stream law keeps the session law. -/
theorem SessionLaw.onSlot {log : List CoreOutput} {core : Core} (law : SessionLaw log core)
    (cfg : Config) (ts : Timeslot) (handler : Shared → Slot → Shared × Slot × List Action)
    (streams : StreamLaw (core.translator.slot ts)
      (handler core.translator.shared (core.translator.slot ts)).2.1
      (handler core.translator.shared (core.translator.slot ts)).2.2) :
    let result := core.translator.onSlot ts handler
    let obeyed := obey cfg core.client result.2
    obeyed.1 = core.client ∧ SessionLaw (log ++ obeyed.2) ⟨result.1, obeyed.1⟩ := by
  simp only [Translator.onSlot]
  generalize handler core.translator.shared (core.translator.slot ts) = result at streams
  rcases result with ⟨shared, after, actions⟩
  have same := obey_actions_client cfg core.client ts actions
  have opens (streamId : Bytes) (member : ∃ lc, Action.openStream streamId lc ∈ actions) :
      OpenedIn (log ++ (obey cfg core.client (actions.map (Output.slot ts))).2) core.client.session
        streamId := by
    obtain ⟨lc, member⟩ := member
    obtain ⟨slot, header, inside⟩ := obey_actions_opened cfg core.client ts member
    exact ⟨slot, header, List.mem_append_right _ inside⟩
  refine ⟨same, ?_⟩
  rw [same]
  constructor
  · exact law.sound
  · intro other
    by_cases here : other = ts
    · subst here
      simp only [Function.update_self]
      intro streamId opened
      rcases streams.opened streamId opened with before | fresh
      · exact law.wide other streamId before
      · exact fresh.1
    · simp only [Function.update_of_ne here]
      exact law.wide other
  · intro other streamId
    by_cases here : other = ts
    · subst here
      simp only [Function.update_self]
      intro opened
      rcases streams.opened streamId opened with before | fresh
      · exact (law.known other streamId before).append _
      · exact opens streamId fresh.2
    · simp only [Function.update_of_ne here]
      intro opened
      exact (law.known other streamId opened).append _
  · exact obey_actions_own cfg core.client ts streams.supplied law.own (law.known ts)

/-- Effects that send no frame keep the session law. -/
theorem SessionLaw.append_free {log more : List CoreOutput} {core : Core} (law : SessionLaw log core)
    (free : ∀ output ∈ more, ¬ IsSentDmrd output) : SessionLaw (log ++ more) core :=
  ⟨law.sound, law.wide, fun ts streamId opened => (law.known ts streamId opened).append more,
    law.own.append_free free⟩

/-- A new session begins with no open stream. -/
theorem SessionLaw.clientStep {log : List CoreOutput} {core : Core} (law : SessionLaw log core)
    {after : HbpClient} {outputs : List HbpOutput} {cause : Prop}
    (step : ClientStep core.client after outputs cause)
    (cleared : core.client.isConnected = false → ∀ ts, Cleared (core.translator.slot ts)) :
    SessionLaw log ⟨core.translator, after⟩ := by
  refine ⟨step.sound, law.wide, fun ts streamId opened => ?_, law.own⟩
  rcases step.session with same | down
  · rw [same]
    exact law.known ts streamId opened
  · rw [(cleared down ts).streamId] at opened
    cases opened

/-- The translator's call of the client ends the callback. -/
theorem SessionsApart.command {log : List CoreOutput} {core : Core} (law : SessionLaw log core)
    (cfg : Config) {output : Output} {cause : Prop}
    (step : ClientStep core.client (command cfg core.client output).1
      (command cfg core.client output).2 cause)
    (cleared : core.client.isConnected = false ∨ cause → ∀ ts, Cleared (core.translator.slot ts))
    (quiet : .hbpDisconnected ∉ (Core.command cfg core.client output).2) :
    let obeyed := obey cfg core.client [output]
    SessionsApart (log ++ obeyed.2) ⟨core.translator, obeyed.1⟩ := by
  have moved := law.clientStep step fun down => cleared (.inl down)
  refine ⟨moved.append_free fun item member => ?_, fun down => ?_⟩
  · rcases List.mem_cons.mp member with rfl | later
    · exact id
    · rw [obey, List.append_nil] at later
      obtain ⟨sent, inside, rfl⟩ := List.mem_map.mp later
      have free := step.noDmrd sent inside
      cases sent with
      | sendDmrd => exact free.elim
      | send | hbpConnected | hbpDisconnected | hbpVoiceReceived | raised => exact id
  · rcases step.left down with before | noticed | caused
    · exact cleared (.inl before)
    · exact absurd noticed quiet
    · exact cleared (.inr caused)

/-- A callback on both timeslots that keeps or closes the streams keeps the session law. -/
theorem SessionLaw.mapSlots {log : List CoreOutput} {core : Core} (law : SessionLaw log core)
    (change : Timeslot → Slot → Slot) (shared : Shared) (closes : ∀ ts slot,
      (change ts slot).outCall.streamId = none ∨
        (change ts slot).outCall.streamId = slot.outCall.streamId) :
    SessionLaw log ⟨{ core.translator.mapSlots change with shared := shared }, core.client⟩ := by
  have before (ts : Timeslot) (streamId : Bytes)
      (opened : (change ts (core.translator.slot ts)).outCall.streamId = some streamId) :
      (core.translator.slot ts).outCall.streamId = some streamId := by
    rcases closes ts (core.translator.slot ts) with closed | same
    · rw [closed] at opened
      cases opened
    · rw [← same, opened]
  exact ⟨law.sound, fun ts streamId opened => law.wide ts streamId (before ts streamId opened),
    fun ts streamId opened => law.known ts streamId (before ts streamId opened), law.own⟩

/-- A call that the HBP stack makes keeps the session law and the client. -/
theorem SessionLaw.callback {log : List CoreOutput} {core : Core} (law : SessionLaw log core)
    (dmr : DmrUtils) (cfg : Config) (registered : Bool) (draw : RtpDraw) (clock : Clock)
    (output : HbpOutput) {event : Event}
    (called : callback registered draw clock output = some event) :
    let result := core.translate dmr cfg event
    result.1.client = core.client ∧ SessionLaw (log ++ result.2) result.1 := by
  have same : obey cfg core.client [] = (core.client, []) := rfl
  cases output with
  | hbpDisconnected =>
      obtain rfl := Option.some.inj called
      simp only [translate, Translator.step, same, List.append_nil]
      exact ⟨trivial, law.mapSlots (fun _ => disconnectSlot) core.translator.shared fun _ _ => .inl rfl⟩
  | hbpVoiceReceived dmrd =>
      obtain rfl := Option.some.inj called
      simp only [translate, Translator.step, hbpVoiceReceived_eq]
      cases acceptedFrame registered dmrd with
      | none =>
          simp only [same, List.append_nil]
          exact ⟨trivial, law⟩
      | some frame =>
          exact law.onSlot cfg frame.timeslot (hbpFrameReceived dmr cfg frame draw clock)
            (hbpFrameReceived_streams ..)
  | send | sendDmrd | hbpConnected | raised => cases called

/-- The answers to the HBP stack keep the session law and the client. -/
theorem SessionLaw.notify {log : List CoreOutput} {core : Core} (law : SessionLaw log core)
    (dmr : DmrUtils) (cfg : Config) (registered : Bool) (draw : RtpDraw) (clock : Clock)
    {outputs : List HbpOutput} (noDmrd : ∀ output ∈ outputs, output.NoDmrd) :
    let result := Core.notify dmr cfg registered draw clock core outputs
    result.1.client = core.client ∧ SessionLaw (log ++ result.2) result.1 := by
  induction outputs generalizing core log with
  | nil => exact ⟨rfl, by simpa [Core.notify] using law⟩
  | cons output rest ih =>
      have free : ¬ IsSentDmrd (.hbp core.client.session output) := by
        have first := noDmrd output List.mem_cons_self
        cases output with
        | sendDmrd => exact first.elim
        | send | hbpConnected | hbpDisconnected | hbpVoiceReceived | raised => exact id
      have noted : SessionLaw (log ++ [.hbp core.client.session output]) core :=
        law.append_free (by simpa using free)
      have later : ∀ other ∈ rest, other.NoDmrd := fun other member =>
        noDmrd other (List.mem_cons_of_mem _ member)
      simp only [Core.notify]
      cases called : Core.callback registered draw clock output with
      | none =>
          obtain ⟨still, tail⟩ := ih noted later
          rw [List.append_assoc] at tail
          exact ⟨still, tail⟩
      | some event =>
          obtain ⟨same, after⟩ := noted.callback dmr cfg registered draw clock output called
          obtain ⟨still, tail⟩ := ih after later
          rw [List.append_assoc, List.append_assoc] at tail
          exact ⟨still.trans same, tail⟩

/-- Without voice the answers keep cleared slots cleared, and a notice clears them. -/
theorem notify_cleared (dmr : DmrUtils) (cfg : Config) (registered : Bool) (draw : RtpDraw)
    (clock : Clock) {outputs : List HbpOutput}
    (noVoice : ∀ dmrd, .hbpVoiceReceived dmrd ∉ outputs) (core : Core)
    (clears : .hbpDisconnected ∈ outputs ∨ ∀ ts, Cleared (core.translator.slot ts)) (ts : Timeslot) :
    Cleared ((Core.notify dmr cfg registered draw clock core outputs).1.translator.slot ts) := by
  induction outputs generalizing core with
  | nil =>
      rcases clears with noticed | cleared
      · cases noticed
      · exact cleared ts
  | cons output rest ih =>
      have later : ∀ dmrd, .hbpVoiceReceived dmrd ∉ rest := fun dmrd member =>
        noVoice dmrd (List.mem_cons_of_mem _ member)
      cases output with
      | hbpDisconnected =>
          exact ih later _ (.inr fun other => cleared_disconnectSlot (core.translator.slot other))
      | hbpVoiceReceived dmrd => exact absurd List.mem_cons_self (noVoice dmrd)
      | send | sendDmrd | hbpConnected | raised =>
          refine ih later core (clears.imp_left fun member => ?_)
          rcases List.mem_cons.mp member with other | rest
          · cases other
          · exact rest

/-- A handler of one timeslot keeps the sessions apart when it keeps a cleared slot cleared. -/
theorem SessionsApart.onSlot {log : List CoreOutput} {core : Core} (apart : SessionsApart log core)
    (cfg : Config) (ts : Timeslot) (handler : Shared → Slot → Shared × Slot × List Action)
    (streams : StreamLaw (core.translator.slot ts)
      (handler core.translator.shared (core.translator.slot ts)).2.1
      (handler core.translator.shared (core.translator.slot ts)).2.2)
    (clears : core.client.isConnected = false → Cleared (core.translator.slot ts) →
      Cleared (handler core.translator.shared (core.translator.slot ts)).2.1) :
    let result := core.translator.onSlot ts handler
    let obeyed := obey cfg core.client result.2
    SessionsApart (log ++ obeyed.2) ⟨result.1, obeyed.1⟩ := by
  obtain ⟨same, law⟩ := apart.toSessionLaw.onSlot cfg ts handler streams
  refine ⟨law, fun down other => ?_⟩
  rw [same] at down
  by_cases here : other = ts
  · subst here
    simp only [Translator.onSlot, Function.update_self]
    exact clears down (apart.cleared down other)
  · simp only [Translator.onSlot, Function.update_of_ne here]
    exact apart.cleared down other

/-- A callback that the HBP stack does not make, with what the client and the stack give it. -/
def FromOutside (client : HbpClient) : Event → Prop
  | .ipscVoice connected data .. => connected = client.isConnected ∧ 31 ≤ data.length
  | .hbpVoice .. => False
  | _ => True

/-- The callbacks of the IPSC side and of the event loop keep the sessions apart. -/
theorem SessionsApart.translate {log : List CoreOutput} {core : Core} (apart : SessionsApart log core)
    (dmr : DmrUtils) (cfg : Config) {event : Event} (outside : FromOutside core.client event) :
    let result := core.translate dmr cfg event
    SessionsApart (log ++ result.2) result.1 := by
  have law := apart.toSessionLaw
  have silent : obey cfg core.client [] = (core.client, []) := rfl
  cases event with
  | ipscVoice connected data ts burstType urandom clock =>
      obtain ⟨rfl, long⟩ := outside
      refine apart.onSlot cfg ts _ (ipscVoiceReceived_streams dmr cfg _ long ts burstType urandom clock
        _ (apart.wide ts)) fun down cleared => ?_
      rw [down]
      exact cleared
  | hbpVoice => exact outside.elim
  | drain ts clock =>
      exact apart.onSlot cfg ts _ (drainHbpToIpscQueue_streams dmr cfg clock _)
        fun _ cleared => cleared.drain cfg clock
  | checkCallTimeouts timeout clock =>
      have closes (ts : Timeslot) (slot : Slot) :
          (checkCallTimeouts cfg timeout clock ts slot).outCall.streamId = none ∨
            (checkCallTimeouts cfg timeout clock ts slot).outCall.streamId = slot.outCall.streamId := by
        rcases (checkCallTimeouts_frame cfg timeout clock ts slot).1 with same | closed
        · exact .inr (congrArg _ same)
        · exact .inl closed
      simp only [Core.translate, Translator.step, silent, List.append_nil]
      refine ⟨law.mapSlots _ core.translator.shared closes, fun down ts => ?_⟩
      have cleared := apart.cleared down ts
      simpa only [Translator.mapSlots, cleared.checkCallTimeouts] using cleared
  | peerRegistered =>
      simp only [Core.translate, Translator.step]
      split
      · exact .command law cfg (activate_step law.sound False)
          (fun cases => apart.cleared (cases.resolve_right id)) (by
            unfold Core.command HbpClient.activate
            dsimp only
            split_ifs <;> simp)
      · simp only [silent, List.append_nil]
        exact apart
  | peerLost =>
      have lost := law.mapSlots (fun _ => peerLostSlot) core.translator.shared.forgetPeer
        fun _ _ => .inl rfl
      simp only [Core.translate, Translator.step]
      split
      · refine .command lost cfg (deactivate_step cfg law.sound)
          (fun _ ts => cleared_peerLostSlot (core.translator.slot ts)) ?_
        unfold Core.command HbpClient.deactivate HbpClient.onProtocol
        dsimp only
        intro member
        split at member
        · cases member
        · split at member
          · cases member
          · obtain ⟨data, other⟩ := disconnect_plain cfg true _ _ member
            cases other
      · simp only [silent, List.append_nil]
        exact ⟨lost, fun _ ts => cleared_peerLostSlot (core.translator.slot ts)⟩
  | hbpDisconnected =>
      simp only [Core.translate, Translator.step, silent, List.append_nil]
      exact ⟨law.mapSlots (fun _ => disconnectSlot) core.translator.shared fun _ _ => .inl rfl,
        fun _ ts => cleared_disconnectSlot (core.translator.slot ts)⟩

/-- A callback of the HBP stack keeps the sessions apart when a rejection finds the slots cleared. -/
theorem SessionsApart.hbp {log : List CoreOutput} {core : Core} (apart : SessionsApart log core)
    (digests : Digests) (dmr : DmrUtils) (cfg : Config) {event : HbpEvent} (registered : Bool)
    (draw : RtpDraw) (clock : Clock)
    (guarded : RejectionGuarded core (.hbp event registered draw clock)) :
    let result := Core.step digests dmr cfg core (.hbp event registered draw clock)
    SessionsApart (log ++ result.2) result.1 := by
  have step := client_step digests cfg apart.sound event
  simp only [Core.step]
  generalize core.client.step digests cfg event = moved at step
  rcases moved with ⟨client, outputs⟩
  have law := apart.toSessionLaw.clientStep step apart.cleared
  obtain ⟨same, after⟩ := law.notify dmr cfg registered draw clock step.noDmrd
  refine ⟨after, fun down => ?_⟩
  rw [same] at down
  have noVoice : ∀ dmrd, .hbpVoiceReceived dmrd ∉ outputs := by
    intro dmrd member
    rw [step.voice dmrd member] at down
    cases down
  refine notify_cleared dmr cfg registered draw clock noVoice _ ?_
  by_cases before : core.client.isConnected = false
  · exact .inr (apart.cleared before)
  · rcases (step.left down).resolve_left before with noticed | rejects
    · exact .inl noticed
    · cases event with
      | datagramReceived data now => exact .inr (guarded rejects (by simpa using before))
      | start | loopTop | endpointCreated | endpointFailed | doneWaited | connectionLost
      | errorReceived | keepalive => exact rejects.elim

/-- A guarded callback keeps the sessions apart. -/
theorem SessionsApart.step {log : List CoreOutput} {core : Core} (apart : SessionsApart log core)
    (digests : Digests) (dmr : DmrUtils) (cfg : Config) {event : CoreEvent}
    (guarded : RejectionGuarded core event) :
    let result := Core.step digests dmr cfg core event
    SessionsApart (log ++ result.2) result.1 := by
  cases event with
  | groupVoice data urandom clock =>
      simp only [Core.step]
      cases parsed : parseGroupVoiceMeta data with
      | error err => simpa using apart
      | ok fields =>
          rcases fields with ⟨ts, burstType⟩
          exact apart.translate dmr cfg ⟨rfl, parseGroupVoiceMeta_long parsed⟩
  | peerRegistered | peerLost | checkCallTimeouts | drain => exact apart.translate dmr cfg trivial
  | hbp event registered draw clock => exact apart.hbp digests dmr cfg registered draw clock guarded

theorem sessionsApart_initial : SessionsApart [] initial where
  sound := ⟨fun some => absurd rfl some, by simp [initial]⟩
  wide _ _ opened := by cases opened
  known _ _ opened := by cases opened
  own := .nil
  cleared _ _ := rfl

end Core

/-- In every run whose rejections find the call state cleared, each session begins with cleared call
state and every frame that is sent on a session belongs to a stream that was opened on it. -/
theorem sessions_apart_of_guarded (digests : Digests) (dmr : DmrUtils) (cfg : Config)
    (events : List CoreEvent)
    (guarded : (core digests dmr cfg).Meets (fun _ => RejectionGuarded) [] Core.initial events) :
    (core digests dmr cfg).Meets (fun _ => BeginsCleared digests dmr cfg) [] Core.initial events ∧
      OwnStreams ((core digests dmr cfg).run Core.initial events).2 := by
  have kept (log : List CoreOutput) (state : Core) (event : CoreEvent)
      (guarded : RejectionGuarded state event) (apart : Core.SessionsApart log state) :
      Core.SessionsApart (log ++ ((core digests dmr cfg).step state event).2)
        ((core digests dmr cfg).step state event).1 := apart.step digests dmr cfg guarded
  constructor
  · exact guarded.along Core.SessionsApart kept (fun _ _ _ _ apart down _ => apart.cleared down)
      Core.sessionsApart_initial
  · have after := (core digests dmr cfg).run_log_invariant _ Core.SessionsApart kept [] Core.initial
      events guarded Core.sessionsApart_initial
    exact after.own

/-- The hash of the salt 1, 2, 3, 4 with the empty passphrase. -/
def loginDigests : Digests where
  sha256 _ := [0x9f, 0x64, 0xa7, 0x47, 0xe1, 0xb9, 0x7f, 0x13, 0x1f, 0xab, 0xb6, 0xb4, 0x47, 0x29, 0x6c,
    0x9b, 0x6f, 0x02, 0x01, 0xe7, 0x9f, 0xb3, 0xc5, 0x35, 0x6e, 0x6c, 0x77, 0xe8, 0x9b, 0x6a, 0x80, 0x6a]
  hmacSha1 _ _ := []

/-- A callback of the HBP stack that makes no call of its own draws or clock. -/
def hbpCallback (event : HbpEvent) : CoreEvent := .hbp event true rtpDraw fun _ => 0

/-- The RPTACK of the master with its salt. -/
def rptack (now : Time) : CoreEvent :=
  hbpCallback (.datagramReceived (hbpfRptack ++ [1, 2, 3, 4]) now)

/-- The connect task makes a protocol, and the master accepts two of its three login steps. -/
def almostConnected (now : Time) : List CoreEvent :=
  [hbpCallback .loopTop, hbpCallback .endpointCreated, rptack now, rptack now]

/-- The callbacks after a closed transport. -/
def connectionEnd : List CoreEvent := [hbpCallback .connectionLost, hbpCallback .doneWaited]

/-- A repeater's header arrives; a new stream would get the drawn ID. -/
def headerArrives (urandom : StreamId) (time : Time) : CoreEvent :=
  .groupVoice (peerHead dmrCodec 5 [0, 0, 9] [0, 0, 1]) urandom fun _ => time

/-- A voice packet of the same repeater arrives. -/
def voiceArrives (time : Time) : CoreEvent :=
  .groupVoice (peerVoice 5 [0, 0, 9] [0, 0, 1] (List.replicate 19 0)) ⟨[9, 9, 9, 9], rfl⟩ fun _ => time

/-- A session that carries a header of the stream. -/
def sessionWithCall (urandom : StreamId) (now : Time) : List CoreEvent :=
  almostConnected now ++ [rptack now, headerArrives urandom now]

/-- The keepalive ends the first session during a call; the second session carries a new call. -/
def watchdogRun : List CoreEvent :=
  [hbpCallback .start, .peerRegistered] ++ sessionWithCall firstDraw 100 ++
    [hbpCallback (.keepalive 120)] ++ connectionEnd ++ sessionWithCall secondDraw 125

/-- A run without rejections is guarded. -/
theorem guarded_of_none (digests : Digests) (dmr : DmrUtils) (cfg : Config) (events : List CoreEvent)
    (none : ∀ event ∈ events, ∀ core, RejectionGuarded core event) :
    (core digests dmr cfg).Meets (fun _ => RejectionGuarded) [] Core.initial events := by
  have all := ((core digests dmr cfg).meets_of_forall (fun _ _ _ => True) (fun _ _ _ => trivial) []
    Core.initial events).and_events none
  exact all.imp fun _ core _ both => both.2 core

theorem sessions_apart_of_guarded_watchdog :
    ((core loginDigests dmrCodec {}).run Core.initial watchdogRun).1.client.session = 2 ∧
      (core loginDigests dmrCodec {}).Meets (fun _ => BeginsCleared loginDigests dmrCodec {}) []
        Core.initial watchdogRun ∧
      OwnStreams ((core loginDigests dmrCodec {}).run Core.initial watchdogRun).2 :=
  ⟨by decide +kernel, sessions_apart_of_guarded loginDigests dmrCodec {} watchdogRun
    (guarded_of_none loginDigests dmrCodec {} watchdogRun (by
      simp [watchdogRun, sessionWithCall, almostConnected, connectionEnd, hbpCallback, rptack,
        headerArrives, RejectionGuarded, IsRejection, hbpfRptack, hbpfMstnak, hbpfMstcl]))⟩

/-- The master rejects the first session during a call, and the second session is not yet up. -/
def rejectedLogin : List CoreEvent :=
  [hbpCallback .start, .peerRegistered] ++ sessionWithCall firstDraw 100 ++
    [hbpCallback (.datagramReceived (hbpfMstnak ++ [0, 0, 0, 1]) 101)] ++ connectionEnd ++
    almostConnected 106

/-- The second session begins, and the call goes on. -/
def rejectedRun : List CoreEvent := rejectedLogin ++ [rptack 106, voiceArrives 107]

/-- The second session begins with an open call and sends a frame of a stream of the first one. -/
theorem sessions_mixed_rejected :
    ¬ (core loginDigests dmrCodec {}).Meets (fun _ => BeginsCleared loginDigests dmrCodec {}) []
        Core.initial rejectedRun ∧
      ¬ OwnStreams ((core loginDigests dmrCodec {}).run Core.initial rejectedRun).2 := by
  constructor
  · intro met
    have begins := ((Mealy.meets_append ..).mp met).2.1
    have cleared := begins (by decide +kernel) (by decide +kernel) .ts1
    have opened : (((core loginDigests dmrCodec {}).run Core.initial rejectedLogin).1.translator.slot
        .ts1).outCall.streamId = some [1, 2, 3, 4] := by decide +kernel
    rw [cleared.streamId] at opened
    cases opened
  · intro own
    have served : ∀ output ∈ ((core loginDigests dmrCodec {}).run Core.initial rejectedRun).2,
        IsSentDmrd output →
        ∃ server ∈ ((core loginDigests dmrCodec {}).run Core.initial rejectedRun).2,
          OpensStreamOf server output := fun output member sent => own.served member sent
    revert served
    decide +kernel

end Ipsc2Hbp
