import Ipsc2Hbp.Proof.HbpLogin

namespace Ipsc2Hbp
open BigEndian

/-- Every frame of a packet starts with its command word. -/
theorem BurstOutcome.word {dmr : DmrUtils} {cfg : Config} {ts : Timeslot} {data : Bytes}
    {burstType : UInt8} {urandom : StreamId} {now : Time} {seq : UInt8} {slot after : Slot}
    {actions : List Action}
    (outcome : BurstOutcome dmr cfg ts data burstType urandom now seq slot after actions) :
    ∀ dmrd ∈ sentDmrd actions, dmrd.take 4 = hbpfDmrd := by
  intro dmrd member
  cases outcome with
  | ignored | outOfRange | enteredSilent => simp [sentDmrd] at member
  | headOpened =>
      have copy : dmrd ∈ sentDmrd (sendFrames (headFrame dmr cfg ts data urandom.val)
        (if cfg.legacyFlow then 2 else 1) seq) := member
      obtain ⟨number, rfl⟩ := sentDmrd_sendFrames copy
      rfl
  | headRepeated | ended | voiceSent | enteredLate =>
      obtain rfl := List.mem_singleton.mp member
      rfl

theorem slotStep_word (dmr : DmrUtils) (cfg : Config) (ts : Timeslot) (shared : Shared) (slot : Slot)
    (part : SlotEvent) :
    ∀ dmrd ∈ sentDmrd (slotStep dmr cfg ts shared slot part).2.2, dmrd.take 4 = hbpfDmrd := by
  have silent {actions : List Action} (none : sentDmrd actions = []) :
      ∀ dmrd ∈ sentDmrd actions, dmrd.take 4 = hbpfDmrd := by simp [none]
  cases part with
  | ipscVoice connected data burstType urandom clock =>
      cases connected with
      | false => exact silent rfl
      | true =>
          rw [slotStep, ipscVoiceReceived_eq]
          have gate := ipscGate_cases cfg data burstType clock slot
          generalize ipscGate cfg data burstType clock slot = passed at gate
          rcases passed with ⟨dropped, after⟩
          cases gate with
          | stale | blocked | suppressed => exact silent rfl
          | admitted lock reflect verdict heard => exact (sendBurst_cases dmr cfg ts data ..).word
  | hbpFrame frame draw clock =>
      exact silent (outbound_fromHbp (hbpFrameReceived_outbound dmr cfg frame draw clock shared slot).2).1
  | drain clock =>
      exact silent (outbound_fromHbp ((drainHbpToIpscQueue_cases cfg clock slot).fromHbp dmr)).1
  | checkCallTimeouts | peerLost | hbpDisconnected => exact silent rfl

/-- Every frame that the translator hands to the HBP client starts with its command word. -/
theorem Translator.step_word (dmr : DmrUtils) (cfg : Config) (tr : Translator) (event : Event) :
    ∀ dmrd ∈ sentFrames (Translator.step dmr cfg tr event).2, dmrd.take 4 = hbpfDmrd := by
  intro dmrd member
  obtain ⟨output, inside, shown⟩ := List.mem_filterMap.mp member
  obtain ⟨ts, rfl⟩ : ∃ ts, output = .slot ts (.sendDmrd dmrd) := by
    cases output with
    | slot ts action =>
        cases action <;> simp at shown
        exact ⟨ts, by rw [shown]⟩
    | raised | activate | deactivate => cases shown
  have action : Action.sendDmrd dmrd ∈ slotActions ts (Translator.step dmr cfg tr event).2 :=
    List.mem_filterMap.mpr ⟨_, inside, by simp⟩
  cases seen : event.atSlot ts with
  | none =>
      rw [(Translator.step_unseen dmr cfg tr seen).2] at action
      cases action
  | some part =>
      rw [(Translator.step_seen dmr cfg tr seen).2] at action
      exact slotStep_word dmr cfg ts tr.shared (tr.slot ts) part dmrd
        (List.mem_filterMap.mpr ⟨_, action, rfl⟩)

/-- Some calls of the translator hand only such frames to the client. -/
theorem Translates.word {dmr : DmrUtils} {cfg : Config} {allowed : Event → Prop}
    {before after : Translator} {log : List Output}
    (ran : Translates dmr cfg allowed before after log) :
    ∀ dmrd ∈ sentFrames log, dmrd.take 4 = hbpfDmrd := by
  obtain ⟨calls, -, ran⟩ := ran
  have kept := (translator dmr cfg).run_log_invariant (fun _ _ _ => True)
    (fun log _ => ∀ dmrd ∈ sentFrames log, dmrd.take 4 = hbpfDmrd) ?_ [] before calls
    ((translator dmr cfg).meets_of_forall _ (fun _ _ _ => trivial) _ _ _) (by simp [sentFrames])
  · rwa [ran] at kept
  · rintro log tr event - good dmrd member
    rw [sentFrames_append] at member
    exact (List.mem_append.mp member).elim (good dmrd) (Translator.step_word dmr cfg tr event dmrd)

/-- The session in which an effect of the HBP stack happens, if it is one. -/
def BridgeOutput.InSession (session : Nat) : BridgeOutput → Prop
  | .core (.hbp number _) => number = session
  | .core (.translator ..) | .ipsc _ => True

section Sessions
variable (digests : Digests) (dmr : DmrUtils) (cfg : Config)

theorem Core.obey_inSession (client : HbpClient) (outputs : List Output) :
    (obey cfg client outputs).1.session = client.session ∧
      ∀ output ∈ (obey cfg client outputs).2, (BridgeOutput.core output).InSession client.session := by
  induction outputs generalizing client with
  | nil => exact ⟨rfl, by simp [obey]⟩
  | cons output rest ih =>
      have same : (command cfg client output).1.session = client.session := by
        cases output with
        | activate => exact (HbpClient.Stays.activate client).session
        | deactivate =>
            have stays : client.Stays (client.deactivate cfg).1 (client.deactivate cfg).2 :=
              .deactivate client
            exact stays.session
        | raised => rfl
        | slot ts action => cases action <;> rfl
      obtain ⟨later, inside⟩ := ih (command cfg client output).1
      rw [obey]
      refine ⟨later.trans same, fun other member => ?_⟩
      rcases List.mem_cons.mp member with rfl | member
      · trivial
      · rcases List.mem_append.mp member with own | member
        · obtain ⟨sent, -, rfl⟩ := List.mem_map.mp own
          rfl
        · exact same ▸ inside other member

theorem Core.notify_inSession (registered : Bool) (draw : RtpDraw) (clock : Clock)
    (outputs : List HbpOutput) (core : Core) :
    ∀ output ∈ (notify dmr cfg registered draw clock core outputs).2,
      (BridgeOutput.core output).InSession core.client.session := by
  induction outputs generalizing core with
  | nil => simp [notify]
  | cons output rest ih =>
      intro other member
      rw [notify] at member
      dsimp only at member
      rcases List.mem_cons.mp member with rfl | member
      · rfl
      · cases called : callback registered draw clock output with
        | none =>
            rw [called] at member
            exact ih core other member
        | some event =>
            rw [called] at member
            obtain ⟨same, inside⟩ := obey_inSession cfg core.client
              (Translator.step dmr cfg core.translator event).2
            rcases List.mem_append.mp member with here | later
            · exact inside other here
            · have next := ih (core.translate dmr cfg event).1 other later
              rwa [show (core.translate dmr cfg event).1.client.session = core.client.session
                from same] at next

theorem Bridge.forward_inSession (ipsc : IpscStack) {log : List CoreOutput} {session : Nat}
    (inside : ∀ output ∈ log, (BridgeOutput.core output).InSession session) :
    ∀ output ∈ forward digests cfg ipsc log, output.InSession session := by
  induction log with
  | nil => simp [forward]
  | cons first rest ih =>
      intro output member
      rw [forward_cons] at member
      rcases List.mem_cons.mp member with rfl | member
      · exact inside first List.mem_cons_self
      · rcases List.mem_append.mp member with sent | later
        · obtain ⟨other, -, rfl⟩ := List.mem_map.mp sent
          trivial
        · exact ih (fun other there => inside other (List.mem_cons_of_mem _ there)) output later

theorem Bridge.deliver_inSession (urandom : StreamId) (clock : Clock) (ipsc : IpscStack)
    (outputs : List IpscOutput) (core : Core) :
    (deliver digests dmr cfg urandom clock ipsc core outputs).1.client.session =
        core.client.session ∧
      ∀ output ∈ (deliver digests dmr cfg urandom clock ipsc core outputs).2,
        output.InSession core.client.session := by
  induction outputs generalizing core with
  | nil => exact ⟨rfl, by simp [deliver]⟩
  | cons output rest ih =>
      obtain ⟨same, inside⟩ : (answer dmr cfg urandom clock core output).1.client.session =
            core.client.session ∧ ∀ other ∈ (answer dmr cfg urandom clock core output).2,
              (BridgeOutput.core other).InSession core.client.session := by
        unfold answer
        cases call core.client.isConnected urandom clock output with
        | none => exact ⟨rfl, by simp⟩
        | some event => exact Core.obey_inSession cfg core.client _
      have forwarded := forward_inSession digests cfg ipsc inside
      obtain ⟨later, follows⟩ := ih (answer dmr cfg urandom clock core output).1
      rw [deliver_cons]
      dsimp only
      split
      · refine ⟨same, fun other member => ?_⟩
        rcases List.mem_cons.mp member with rfl | member
        · trivial
        · exact forwarded other member
      · refine ⟨later.trans same, fun other member => ?_⟩
        rcases List.mem_cons.mp member with rfl | member
        · trivial
        · rcases List.mem_append.mp member with here | there
          · exact forwarded other here
          · exact same ▸ follows other there

/-- The effects of a callback happen in the session that it leaves. -/
theorem Bridge.step_inSession (state : Bridge) (event : BridgeEvent) :
    ∀ output ∈ (Bridge.step digests dmr cfg state event).2,
      output.InSession (Bridge.step digests dmr cfg state event).1.core.client.session := by
  cases event with
  | ipsc event urandom clock =>
      obtain ⟨same, inside⟩ := deliver_inSession digests dmr cfg urandom clock
        (state.ipsc.step digests cfg event).1 (state.ipsc.step digests cfg event).2 state.core
      exact fun output member => same ▸ inside output member
  | drain ts clock =>
      obtain ⟨same, inside⟩ := Core.obey_inSession cfg state.core.client
        (Translator.step dmr cfg state.core.translator (.drain ts clock)).2
      have forwarded := forward_inSession digests cfg state.ipsc inside
      exact fun output member => same ▸ forwarded output member
  | hbp event draw clock =>
      rw [(step_hbp digests dmr cfg state event draw clock).1]
      exact forward_inSession digests cfg state.ipsc
        (Core.notify_inSession dmr cfg state.ipsc.isPeerRegistered draw clock _ _)

end Sessions

namespace HbpDatagram

def session : HbpDatagram → Nat
  | .toMaster session _ | .toSession session _ => session

/-- A request of the session's login. -/
def request (number : Nat) : HbpDatagram → Option Bytes
  | .toMaster session data => if session = number && asksMaster data then some data else none
  | .toSession .. => none

/-- An acknowledgement for the session. -/
def reply (number : Nat) : HbpDatagram → Option Bytes
  | .toSession session data => if session = number && isRptack data then some data else none
  | .toMaster .. => none

end HbpDatagram

/-- An acknowledgement that the master sends to the session. -/
def ackSent (number : Nat) : BridgeOutput ⊕ Bytes × Nat → Option Bytes
  | .inr (data, session) => if session = number && isRptack data then some data else none
  | .inl _ => none

/-- The login of the current session is in lock step, and nothing belongs to a later one. -/
structure HbpAgreement (digests : Digests) (cfg : Config) (passphrase : Bytes)
    (log : List (BridgeOutput ⊕ Bytes × Nat)) (state : Bridge × FakeHbpMaster Nat)
    (flight : List HbpDatagram) : Prop where
  login : ∀ proto ∈ state.1.core.client.protocol,
    LockStep digests cfg passphrase proto.state
      (log.filterMap (ackSent state.1.core.client.session))
      (flight.filterMap (HbpDatagram.request state.1.core.client.session))
      (flight.filterMap (HbpDatagram.reply state.1.core.client.session))
  flightOld : ∀ datagram ∈ flight, datagram.session ≤ state.1.core.client.session
  acksOld : ∀ data session, .inr (data, session) ∈ log → session ≤ state.1.core.client.session
  peerOld : ∀ session ∈ state.2.peerAddr, session ≤ state.1.core.client.session

/-- What one callback of the program sends to the master. -/
theorem Bridge.step_sends (digests : Digests) (dmr : DmrUtils) (cfg : Config) (state : Bridge)
    (event : BridgeEvent) :
    let result := Bridge.step digests dmr cfg state event
    let sends := (result.2.map Sum.inl).filterMap HbpLink.sent
    sends.filterMap (HbpDatagram.request result.1.core.client.session) =
        (result.2.filterMap BridgeOutput.session?).filterMap HbpOutput.request ∧
      (∀ number, sends.filterMap (HbpDatagram.reply number) = []) ∧
      ∀ datagram ∈ sends, datagram.session = result.1.core.client.session := by
  intro result sends
  have inside := step_inSession digests dmr cfg state event
  have word (session : Nat) (dmrd : Bytes)
      (member : .core (.hbp session (.sendDmrd dmrd)) ∈ result.2) : asksMaster dmrd = false := by
    have frame : dmrd ∈ result.2.filterMap BridgeOutput.frame? := List.mem_filterMap.mpr ⟨_, member, rfl⟩
    have front := (step_translates digests dmr cfg state event).word dmrd
      ((step_frames digests dmr cfg state event).mem frame)
    simp [asksMaster, front, hbpfDmrd, hbpfRptl, hbpfRptk, hbpfRptc, hbpfRpto]
  have shape : ∀ datagram ∈ sends, ∃ data,
      datagram = .toMaster result.1.core.client.session data := by
    intro datagram member
    obtain ⟨wrapped, there, made⟩ := List.mem_filterMap.mp member
    obtain ⟨output, here, rfl⟩ := List.mem_map.mp there
    cases output with
    | ipsc => cases made
    | core output =>
        cases output with
        | translator => cases made
        | hbp session output =>
            have same : session = result.1.core.client.session := inside _ here
            cases output with
            | send data | sendDmrd data => exact ⟨data, same ▸ (Option.some.inj made).symm⟩
            | hbpConnected | hbpDisconnected | hbpVoiceReceived | raised => cases made
  refine ⟨?_, fun number => ?_, fun datagram member => ?_⟩
  · simp only [sends, List.filterMap_map, List.filterMap_filterMap]
    refine List.filterMap_congr fun output member => ?_
    cases output with
    | ipsc => rfl
    | core output =>
        cases output with
        | translator => rfl
        | hbp session output =>
            have same : session = result.1.core.client.session := inside _ member
            cases output with
            | send data =>
                simp [HbpLink.sent, HbpDatagram.request, same, BridgeOutput.session?,
                  CoreOutput.session?, HbpOutput.own, HbpOutput.request]
            | sendDmrd dmrd =>
                simp [HbpLink.sent, HbpDatagram.request, word session dmrd member,
                  BridgeOutput.session?, CoreOutput.session?, HbpOutput.own]
            | hbpConnected | hbpDisconnected | hbpVoiceReceived | raised => rfl
  · rw [List.filterMap_eq_nil_iff]
    intro datagram member
    obtain ⟨data, rfl⟩ := shape datagram member
    rfl
  · obtain ⟨data, rfl⟩ := shape datagram member
    rfl

/-- The program acknowledges nothing. -/
theorem ackSent_inl (number : Nat) (outputs : List BridgeOutput) :
    (outputs.map (Sum.inl : _ → BridgeOutput ⊕ Bytes × Nat)).filterMap (ackSent number) = [] := by
  simp [List.filterMap_eq_nil_iff, ackSent]

/-- What the master sends are its acknowledgements and other replies. -/
theorem master_sends (number : Nat) (outputs : List (Bytes × Nat)) :
    let sends := (outputs.map (Sum.inr : _ → BridgeOutput ⊕ Bytes × Nat)).filterMap HbpLink.sent
    sends.filterMap (HbpDatagram.request number) = [] ∧
      sends.filterMap (HbpDatagram.reply number) =
        (outputs.map (Sum.inr : _ → BridgeOutput ⊕ Bytes × Nat)).filterMap (ackSent number) ∧
      ∀ datagram ∈ sends, ∃ output ∈ outputs, datagram.session = output.2 := by
  intro sends
  have shape : sends = outputs.map fun output => .toSession output.2 output.1 := by
    simp only [sends, List.filterMap_map]
    exact congrFun List.filterMap_eq_map outputs
  refine ⟨?_, ?_, fun datagram member => ?_⟩
  · simp [shape, List.filterMap_map, List.filterMap_eq_nil_iff, HbpDatagram.request]
  · simp only [shape, List.filterMap_map]
    rfl
  · rw [shape] at member
    obtain ⟨output, here, rfl⟩ := List.mem_map.mp member
    exact ⟨output, here, rfl⟩

theorem loginAcks_word {cfg : Config} {salt ack : Bytes} (member : ack ∈ loginAcks cfg salt) :
    isRptack ack = true := by
  have word (rest : Bytes) : isRptack (hbpfRptack ++ rest) = true := rfl
  unfold loginAcks at member
  split at member <;> simp at member <;> rcases member with rfl | rfl <;> exact word _

namespace HbpAgreement
variable {digests : Digests} {dmr : DmrUtils} {cfg : Config} {passphrase : Bytes}
  {log : List (BridgeOutput ⊕ Bytes × Nat)} {state : Bridge × FakeHbpMaster Nat}
  {flight : List HbpDatagram}

/-- A datagram that is lost or read by nobody. -/
theorem lost {before after : List HbpDatagram} {datagram : HbpDatagram}
    (agreement : HbpAgreement digests cfg passphrase log state (before ++ datagram :: after)) :
    HbpAgreement digests cfg passphrase log state (before ++ after) := by
  have fewer : (before ++ after).Sublist (before ++ datagram :: after) :=
    (List.sublist_cons_self datagram after).append_left before
  exact ⟨fun proto member => (agreement.login proto member).mono (fewer.filterMap _) (fewer.filterMap _),
    fun other member => agreement.flightOld other (fewer.mem member), agreement.acksOld,
    agreement.peerOld⟩

/-- A callback of the program that leaves the session as it is. -/
theorem stays (agreement : HbpAgreement digests cfg passphrase log state flight) (event : BridgeEvent)
    (stays : state.1.core.client.Stays (Bridge.step digests dmr cfg state.1 event).1.core.client
      ((Bridge.step digests dmr cfg state.1 event).2.filterMap BridgeOutput.session?)) :
    let result := Bridge.step digests dmr cfg state.1 event
    HbpAgreement digests cfg passphrase (log ++ result.2.map Sum.inl) (result.1, state.2)
      (flight ++ (result.2.map Sum.inl).filterMap HbpLink.sent) := by
  intro result
  obtain ⟨requests, replies, sessions⟩ := Bridge.step_sends digests dmr cfg state.1 event
  have same : result.1.core.client.session = state.1.core.client.session := stays.session
  refine ⟨fun proto member => ?_, fun datagram member => ?_, fun data session member => ?_,
    fun session member => same ▸ agreement.peerOld session member⟩
  · simp only [List.filterMap_append, ackSent_inl, List.append_nil]
    rw [requests, replies, stays.silent, List.append_nil, List.append_nil, same]
    rcases stays.state proto member with down | ⟨old, present, alike⟩
    · exact .finished down
    · exact alike ▸ agreement.login old present
  · rcases List.mem_append.mp member with old | new
    · exact same ▸ agreement.flightOld datagram old
    · exact (sessions datagram new).le
  · rcases List.mem_append.mp member with old | new
    · exact same ▸ agreement.acksOld data session old
    · simp at new

/-- A new session starts with its request and nothing else. -/
theorem opened (agreement : HbpAgreement digests cfg passphrase log state flight)
    (connecting : state.1.core.client.task = .connecting) (draw : RtpDraw) (clock : Clock) :
    let result := Bridge.step digests dmr cfg state.1 (.hbp .endpointCreated draw clock)
    HbpAgreement digests cfg passphrase (log ++ result.2.map Sum.inl) (result.1, state.2)
      (flight ++ (result.2.map Sum.inl).filterMap HbpLink.sent) := by
  intro result
  obtain ⟨requests, replies, sessions⟩ :=
    Bridge.step_sends digests dmr cfg state.1 (.hbp .endpointCreated draw clock)
  obtain ⟨client, view⟩ := Bridge.step_hbp digests dmr cfg state.1 .endpointCreated draw clock
  simp only [HbpClient.step, if_pos connecting] at client view
  have next : result.1.core.client.session = state.1.core.client.session + 1 := by rw [client]
  have none : flight.filterMap (HbpDatagram.request result.1.core.client.session) = [] ∧
      flight.filterMap (HbpDatagram.reply result.1.core.client.session) = [] := by
    constructor <;>
    · rw [List.filterMap_eq_nil_iff]
      intro datagram member
      have old := agreement.flightOld datagram member
      cases datagram <;> simp [HbpDatagram.request, HbpDatagram.reply, HbpDatagram.session] at old ⊢
      omega
  have unacked : log.filterMap (ackSent result.1.core.client.session) = [] := by
    rw [List.filterMap_eq_nil_iff]
    intro output member
    cases output with
    | inl => rfl
    | inr output =>
        have old := agreement.acksOld output.1 output.2 member
        simp only [ackSent]
        rw [if_neg]
        simp
        omega
  refine ⟨fun proto member => ?_, fun datagram member => ?_, fun data session member => ?_,
    fun session member => ?_⟩
  · simp only [List.filterMap_append, ackSent_inl, List.append_nil]
    rw [requests, replies, none.1, none.2, unacked, view]
    rw [client] at member
    obtain rfl := Option.some.inj member
    exact .asking state.2.salt 0 _ rfl rfl rfl (by omega) (.refl _) rfl
  · rcases List.mem_append.mp member with old | new
    · have bound := agreement.flightOld datagram old
      simp only [next]
      omega
    · exact (sessions datagram new).le
  · rcases List.mem_append.mp member with old | new
    · have bound := agreement.acksOld data session old
      simp only [next]
      omega
    · simp at new
  · have bound := agreement.peerOld session member
    simp only [next]
    omega

/-- An RPTACK reaches the open socket of the session. -/
theorem acknowledged {before after : List HbpDatagram} {session : Nat} {data : Bytes}
    (agreement : HbpAgreement digests cfg passphrase log state
      (before ++ .toSession session data :: after))
    (listens : HbpLink.Listens state.1.core.client session) (ack : isRptack data = true) (now : Time)
    (draw : RtpDraw) (clock : Clock) :
    let result := Bridge.step digests dmr cfg state.1 (.hbp (.datagramReceived data now) draw clock)
    HbpAgreement digests cfg passphrase (log ++ result.2.map Sum.inl) (result.1, state.2)
      (before ++ after ++ (result.2.map Sum.inl).filterMap HbpLink.sent) := by
  intro result
  obtain ⟨rfl, proto, present, attached⟩ := listens
  obtain ⟨requests, replies, sessions⟩ :=
    Bridge.step_sends digests dmr cfg state.1 (.hbp (.datagramReceived data now) draw clock)
  obtain ⟨client, view⟩ :=
    Bridge.step_hbp digests dmr cfg state.1 (.datagramReceived data now) draw clock
  rw [HbpClient.step_rptack digests cfg present attached ack] at client view
  have same : result.1.core.client.session = state.1.core.client.session := by rw [client]
  have fewer := agreement.lost
  refine ⟨fun updated member => ?_, fun datagram member => ?_, fun other session member => ?_,
    fun session member => same ▸ agreement.peerOld session member⟩
  · rw [client] at member
    obtain rfl := Option.some.inj member
    have here : (before ++ HbpDatagram.toSession state.1.core.client.session data :: after).filterMap
        (HbpDatagram.reply state.1.core.client.session) =
          before.filterMap (HbpDatagram.reply state.1.core.client.session) ++
            data :: after.filterMap (HbpDatagram.reply state.1.core.client.session) := by
      simp [HbpDatagram.reply, ack]
    simp only [List.filterMap_append, ackSent_inl, List.append_nil]
    rw [requests, replies, view, same]
    rcases (agreement.login proto present).reply_cases here with down |
      ⟨salt, count, phase, step, acked, genuine, unasked, unanswered⟩
    · refine .finished ?_
      rw [HbpProtocol.onRptack, down]
      exact down
    · have quiet : before.filterMap (HbpDatagram.request state.1.core.client.session) ++
          after.filterMap (HbpDatagram.request state.1.core.client.session) = [] := by
        rw [← List.filterMap_append]
        simpa [HbpDatagram.request] using unasked
      rw [unanswered, quiet, List.nil_append, List.append_nil]
      rcases LockStep.onRptack_advances digests phase attached step now with
        ⟨next, follows, advanced, sent⟩ | ⟨whole, up, told⟩
      · refine .asking salt (count + 1) next advanced follows acked (fun two => genuine (by omega))
          ?_ rfl
        rw [sent]
        simp only [HbpOutput.own, HbpOutput.request, List.filterMap_cons, List.filterMap_nil]
        split_ifs
        · exact .refl _
        · exact List.nil_sublist _
      · have steps : 3 ≤ (loginSteps digests cfg salt.val).length := by simp [loginSteps]
        refine .connected salt up ?_ (genuine (by omega)) (by rw [told]; rfl) rfl
        rw [acked, List.take_of_length_le]
        rw [loginAcks_length digests cfg salt.val salt.val, whole]
  · rcases List.mem_append.mp member with old | new
    · exact same ▸ fewer.flightOld datagram old
    · exact (sessions datagram new).le
  · rcases List.mem_append.mp member with old | new
    · exact same ▸ agreement.acksOld other session old
    · simp at new

/-- A datagram reaches the master. -/
theorem mastered (documented : digests.Documented) {before after : List HbpDatagram} {session : Nat}
    {data : Bytes}
    (agreement : HbpAgreement digests cfg passphrase log state
      (before ++ .toMaster session data :: after)) (urandom : StreamId) :
    let result := state.2.datagramReceived digests passphrase data session urandom
    HbpAgreement digests cfg passphrase (log ++ result.2.map Sum.inr) (state.1, result.1)
      (before ++ after ++ (result.2.map Sum.inr).filterMap HbpLink.sent) := by
  intro result
  have fewer := agreement.lost
  have current : session ≤ state.1.core.client.session :=
    agreement.flightOld (.toMaster session data) (by simp)
  have sender := state.2.datagramReceived_addr digests passphrase data session urandom
  obtain ⟨requests, replies, sessions⟩ := master_sends state.1.core.client.session result.2
  have unacked (none : (result.2.map (Sum.inr : _ → BridgeOutput ⊕ Bytes × Nat)).filterMap
      (ackSent state.1.core.client.session) = []) (proto : HbpProtocol)
      (present : proto ∈ state.1.core.client.protocol) :
      LockStep digests cfg passphrase proto.state
        ((log ++ result.2.map Sum.inr).filterMap (ackSent state.1.core.client.session))
        ((before ++ after ++ (result.2.map Sum.inr).filterMap HbpLink.sent).filterMap
          (HbpDatagram.request state.1.core.client.session))
        ((before ++ after ++ (result.2.map Sum.inr).filterMap HbpLink.sent).filterMap
          (HbpDatagram.reply state.1.core.client.session)) := by
    have old := fewer.login proto present
    simp only [List.filterMap_append, requests, replies, none, List.append_nil] at old ⊢
    exact old
  refine ⟨fun proto present => ?_, fun datagram member => ?_, fun other number member => ?_,
    fun number member => ?_⟩
  · by_cases asked : session = state.1.core.client.session ∧ asksMaster data = true
    · obtain ⟨rfl, asks⟩ := asked
      have here : (before ++ HbpDatagram.toMaster state.1.core.client.session data :: after).filterMap
          (HbpDatagram.request state.1.core.client.session) =
            before.filterMap (HbpDatagram.request state.1.core.client.session) ++
              data :: after.filterMap (HbpDatagram.request state.1.core.client.session) := by
        simp [HbpDatagram.request, asks]
      rcases (agreement.login proto present).request_cases here with down |
        ⟨salt, count, phase, step, acked, genuine, unanswered, unasked⟩
      · exact .finished down
      · rcases FakeHbpMaster.datagramReceived_login documented passphrase step
          state.1.core.client.session urandom state.2 with refused | ⟨other, ack, answer, reply, same, accepted⟩
        · refine unacked ?_ proto present
          rw [List.filterMap_eq_nil_iff]
          intro output member
          obtain ⟨output, inside, rfl⟩ := List.mem_map.mp member
          simp [ackSent, refused output inside]
        · have word : isRptack ack = true := loginAcks_word (List.mem_of_getElem? reply)
          have new : (result.2.map (Sum.inr : _ → BridgeOutput ⊕ Bytes × Nat)).filterMap
              (ackSent state.1.core.client.session) = [ack] := by
            simp [result, answer, ackSent, word]
          have quiet : before.filterMap (HbpDatagram.reply state.1.core.client.session) ++
              after.filterMap (HbpDatagram.reply state.1.core.client.session) = [] := by
            rw [← List.filterMap_append]
            simpa [HbpDatagram.reply] using unanswered
          have known : (loginAcks cfg salt.val).take count = (loginAcks cfg other.val).take count := by
            cases count with
            | zero => rfl
            | succ count => rw [same (Nat.succ_ne_zero count)]
          simp only [List.filterMap_append, requests, replies, new, quiet, unasked, List.append_nil,
            List.nil_append]
          refine .answered other count ack phase reply ?_ (fun one => ?_) rfl (.refl _)
          · rw [acked, known, List.take_add_one, reply]
            rfl
          · rw [same (by omega)]
            by_cases first : count = 1
            · exact accepted first
            · exact genuine (by omega)
    · refine unacked ?_ proto present
      rw [List.filterMap_eq_nil_iff]
      intro output member
      obtain ⟨output, inside, rfl⟩ := List.mem_map.mp member
      by_cases here : session = state.1.core.client.session
      · have unasked : asksMaster data = false := by
          rw [← Bool.not_eq_true]
          exact fun asks => asked ⟨here, asks⟩
        simp [ackSent, FakeHbpMaster.datagramReceived_unasked digests passphrase unasked session
          urandom state.2 output inside]
      · simp [ackSent, sender output inside, here]
  · rcases List.mem_append.mp member with old | new
    · exact fewer.flightOld datagram old
    · obtain ⟨output, here, same⟩ := sessions datagram new
      rw [same, sender output here]
      exact current
  · rcases List.mem_append.mp member with old | new
    · exact agreement.acksOld other number old
    · obtain ⟨output, here, same⟩ := List.mem_map.mp new
      obtain rfl := Sum.inr.inj same
      exact (sender (other, number) here).le.trans current
  · rcases state.2.datagramReceived_peerAddr digests passphrase data session urandom number member
      with rfl | old
    · exact current
    · exact agreement.peerOld number old

/-- A command of the master's operator. -/
theorem commanded (agreement : HbpAgreement digests cfg passphrase log state flight)
    {event : FakeEvent Nat}
    (command : ∀ data addr urandom, event ≠ .datagramReceived data addr urandom) :
    let result := state.2.step digests passphrase event
    HbpAgreement digests cfg passphrase (log ++ result.2.map Sum.inr) (state.1, result.1)
      (flight ++ (result.2.map Sum.inr).filterMap HbpLink.sent) := by
  intro result
  obtain ⟨known, plain⟩ := state.2.step_command digests passphrase command
  obtain ⟨requests, replies, sessions⟩ := master_sends state.1.core.client.session result.2
  have none : (result.2.map (Sum.inr : _ → BridgeOutput ⊕ Bytes × Nat)).filterMap
      (ackSent state.1.core.client.session) = [] := by
    rw [List.filterMap_eq_nil_iff]
    intro output member
    obtain ⟨output, inside, rfl⟩ := List.mem_map.mp member
    simp [ackSent, (plain output inside).1]
  refine ⟨fun proto present => ?_, fun datagram member => ?_, fun data number member => ?_,
    fun number member => agreement.peerOld number (known ▸ member)⟩
  · simp only [List.filterMap_append, requests, replies, none, List.append_nil]
    exact agreement.login proto present
  · rcases List.mem_append.mp member with old | new
    · exact agreement.flightOld datagram old
    · obtain ⟨output, here, same⟩ := sessions datagram new
      exact same ▸ agreement.peerOld output.2 (plain output here).2
  · rcases List.mem_append.mp member with old | new
    · exact agreement.acksOld data number old
    · obtain ⟨output, here, same⟩ := List.mem_map.mp new
      obtain rfl := Sum.inr.inj same
      exact agreement.peerOld number (plain _ here).2

/-- Every own event keeps the agreement. -/
theorem own (agreement : HbpAgreement digests cfg passphrase log state flight)
    (event : BridgeEvent ⊕ FakeEvent Nat) (here : HbpLink.Local event) :
    let result := (HbpLink.parties digests dmr cfg passphrase).step state event
    HbpAgreement digests cfg passphrase (log ++ result.2) result.1
      (flight ++ result.2.filterMap HbpLink.sent) := by
  cases event with
  | inr event =>
      refine agreement.commanded fun data addr urandom same => ?_
      rw [same] at here
      exact here
  | inl event =>
      by_cases made : ∃ draw clock, event = .hbp .endpointCreated draw clock ∧
          state.1.core.client.task = .connecting
      · obtain ⟨draw, clock, rfl, connecting⟩ := made
        exact agreement.opened connecting draw clock
      · refine agreement.stays event ?_
        cases event with
        | ipsc | drain =>
            refine .switches (Bridge.step_switches digests dmr cfg state.1 _ ?_)
            intro inner draw clock same
            cases same
        | hbp inner draw clock =>
            obtain ⟨client, view⟩ := Bridge.step_hbp digests dmr cfg state.1 inner draw clock
            rw [client, view]
            refine HbpClient.Stays.shown (.event state.1.core.client (fun same connecting => ?_)
              fun data now same => ?_)
            · exact made ⟨draw, clock, by rw [same], connecting⟩
            · rw [same] at here
              exact here.elim

/-- Every delivery keeps the agreement. -/
theorem delivered (documented : digests.Documented) {before after : List HbpDatagram}
    {datagram : HbpDatagram}
    (agreement : HbpAgreement digests cfg passphrase log state (before ++ datagram :: after))
    {chance : HbpChance} {event : BridgeEvent ⊕ FakeEvent Nat}
    (received : HbpLink.receive state datagram chance = some event) :
    let result := (HbpLink.parties digests dmr cfg passphrase).step state event
    HbpAgreement digests cfg passphrase (log ++ result.2) result.1
      (before ++ after ++ result.2.filterMap HbpLink.sent) := by
  cases datagram with
  | toMaster session data =>
      obtain rfl := Option.some.inj received
      exact agreement.mastered documented chance.urandom
  | toSession session data =>
      simp only [HbpLink.receive, Option.ite_none_right_eq_some, Option.some.injEq] at received
      obtain ⟨listens, rfl⟩ := received
      cases ack : isRptack data with
      | true => exact agreement.acknowledged listens ack chance.now chance.draw chance.clock
      | false =>
          refine agreement.lost.stays _ ?_
          obtain ⟨client, view⟩ := Bridge.step_hbp digests dmr cfg state.1
            (.datagramReceived data chance.now) chance.draw chance.clock
          rw [client, view]
          refine HbpClient.Stays.shown (.event state.1.core.client (fun same => nomatch same) ?_)
          intro other now same
          obtain ⟨rfl, rfl⟩ := HbpEvent.datagramReceived.inj same
          exact ack

theorem initial (digests : Digests) (cfg : Config) (passphrase : Bytes) (salt : StreamId) :
    HbpAgreement digests cfg passphrase [] (HbpLink.initial cfg salt).1 (HbpLink.initial cfg salt).2 where
  login := nofun
  flightOld := nofun
  acksOld := nofun
  peerOld := nofun

end HbpAgreement

/-- The login of every run against the HBP master is in lock step. Until the session ends at most one
request or acknowledgement of it is in flight, the acknowledgements of the master are those of the
login in order, at most one behind the requests, and a client that is CONNECTED has all of them, with
a digest that the master has asked for. -/
theorem hbp_login_in_lock_step {digests : Digests} (documented : digests.Documented) (dmr : DmrUtils)
    (cfg : Config) (passphrase : Bytes) (salt : StreamId)
    (events : List (Mealy.Transit (BridgeEvent ⊕ FakeEvent Nat) HbpChance))
    (own : ∀ event ∈ events, event.Own HbpLink.Local) :
    let result := (HbpLink.machine digests dmr cfg passphrase).run (HbpLink.initial cfg salt) events
    let client := result.1.1.1.core.client
    let acks := result.2.filterMap (ackSent client.session)
    ∀ proto ∈ client.protocol, proto.state ≠ .disconnected →
      (result.1.2.filterMap (HbpDatagram.request client.session)).length +
          (result.1.2.filterMap (HbpDatagram.reply client.session)).length ≤ 1 ∧
        ∃ salt : StreamId, acks <+: loginAcks cfg salt.val ∧
          (2 ≤ acks.length → Genuine digests cfg passphrase salt) ∧
          (∀ count, proto.state.stepsSent = some (count + 1) →
            count ≤ acks.length ∧ acks.length ≤ count + 1) ∧
          (proto.state = .connected → acks = loginAcks cfg salt.val) := by
  intro result client acks proto member up
  have agreement := (HbpLink.parties digests dmr cfg passphrase).inFlight_invariant HbpLink.sent
    HbpLink.receive HbpLink.Local (HbpAgreement digests cfg passphrase)
    (fun log state flight event here agreement => agreement.own event here)
    (fun log state before datagram after chance event received agreement =>
      agreement.delivered documented received)
    (fun log state before datagram after agreement => agreement.lost) events own []
    (HbpLink.initial cfg salt)
    (.initial digests cfg passphrase salt)
  rw [List.nil_append] at agreement
  exact (agreement.login proto member).summary up

/-- A PERSISTENT client with options, and what the receivers read. -/
def loginConfig : Config := { hbpMode := .persistent, options := "TS2=91", hbpPassphrase := [1, 2] }

def loginChance : HbpChance := ⟨4, rtpDraw, fun _ => 4, secondDraw⟩

/-- The client starts and makes its endpoint; its datagrams and the answers arrive, and the master
sends a frame. -/
def masterRun : List (Mealy.Transit (BridgeEvent ⊕ FakeEvent Nat) HbpChance) :=
  [.own (.inl (clientEvent .start 0)), .own (.inl (clientEvent .loopTop 1)),
    .own (.inl (clientEvent .endpointCreated 2))] ++ List.replicate 8 (.deliver 0 loginChance) ++
    [.own (.inr (.sendDmrd firstDraw)), .deliver 0 loginChance]

theorem hbp_login_in_lock_step_options :
    let result := (HbpLink.machine linkDigests dmrCodec loginConfig [1, 2]).run
      (HbpLink.initial loginConfig firstDraw) masterRun
    let client := result.1.1.1.core.client
    let acks := result.2.filterMap (ackSent client.session)
    (client.isConnected = true ∧ acks.length = 4 ∧ result.1.1.2.state = .connected) ∧
    ∀ proto ∈ client.protocol, proto.state ≠ .disconnected →
      (result.1.2.filterMap (HbpDatagram.request client.session)).length +
          (result.1.2.filterMap (HbpDatagram.reply client.session)).length ≤ 1 ∧
        ∃ salt : StreamId, acks <+: loginAcks loginConfig salt.val ∧
          (2 ≤ acks.length → Genuine linkDigests loginConfig [1, 2] salt) ∧
          (∀ count, proto.state.stepsSent = some (count + 1) →
            count ≤ acks.length ∧ acks.length ≤ count + 1) ∧
          (proto.state = .connected → acks = loginAcks loginConfig salt.val) :=
  ⟨by decide +kernel, hbp_login_in_lock_step linkDigests_documented dmrCodec loginConfig [1, 2]
    firstDraw masterRun (by decide +kernel)⟩

end Ipsc2Hbp
