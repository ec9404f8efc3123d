import Ipsc2Hbp.Proof.Fallible
import Ipsc2Hbp.Proof.SessionsApart
import Ipsc2Hbp.Proof.SlotStep

namespace Ipsc2Hbp
open BigEndian

/-- A voice packet that the tests let in while no stream is open ends before its mark. -/
structure MarkMissing (cfg : Config) (connected : Bool) (data : Bytes) (burstType : UInt8)
    (clock : Clock) (slot : Slot) : Prop where
  connected : connected = true
  flow : cfg.legacyFlow = false
  voice : IsVoice burstType
  short : data.length ≤ 32
  closed : slot.outCall.streamId = none
  unblocked : (callLockBlocks cfg slot (.ipsc data[gvIpscSeqOff]?) (gvSrcSub data) (gvDstGroup data)
    false (clock 2)).1 = false
  unsuppressed : (shouldSuppressIpscReflection cfg data[gvIpscSeqOff]? burstType (gvSrcSub data)
    (gvDstGroup data) (clock 3) slot).1 = false

/-- The call lock does not read the time of the last packet. -/
theorem callLockBlocks_stamp (cfg : Config) (slot : Slot) (now : Time) (key : StreamKey)
    (srcSub dstGroup : Bytes) (isEnd : Bool) (time : Time) :
    (callLockBlocks cfg { slot with outCall.lastPkt := now } key srcSub dstGroup isEnd time).1 =
      (callLockBlocks cfg slot key srcSub dstGroup isEnd time).1 := by
  have active (lock : CallLock) : callLockIsActive
      { slot with outCall.lastPkt := now, lock := lock } time =
        callLockIsActive { slot with lock := lock } time := by
    unfold callLockIsActive
    cases lock.owner with
    | none => rfl
    | some owner => cases owner <;> rfl
  unfold callLockBlocks
  simp only [active]
  split
  case isTrue => rfl
  case isFalse =>
    split
    case isTrue => rfl
    case isFalse =>
      by_cases lapsed : (slot.lock.prune time).owner.isSome && !callLockIsActive
          { slot with lock := slot.lock.prune time } time
      · simp only [lapsed, if_true]
        rfl
      · simp only [lapsed, Bool.false_eq_true, if_false]
        cases (slot.lock.prune time).owner with
        | none => rfl
        | some owner =>
            simp only
            split_ifs <;> rfl

/-- In the packet flow the gate is the call lock and the reflection test. -/
theorem ipscGate_flow {cfg : Config} (flow : cfg.legacyFlow = false) (data : Bytes)
    (burstType : UInt8) (clock : Clock) (slot : Slot) :
    (ipscGate cfg data burstType clock slot).1 =
        ((callLockBlocks cfg slot (.ipsc data[gvIpscSeqOff]?) (gvSrcSub data) (gvDstGroup data)
            (burstType = voiceTerm) (clock 2)).1 ||
          (shouldSuppressIpscReflection cfg data[gvIpscSeqOff]? burstType (gvSrcSub data)
            (gvDstGroup data) (clock 3) slot).1) ∧
      (ipscGate cfg data burstType clock slot).2.outCall.streamId = slot.outCall.streamId := by
  have prelude : legacyPrelude cfg data burstType clock slot =
      (false, { slot with outCall.lastPkt := clock 0 }) := by
    simp [legacyPrelude, legacyIpscStreamDrop, flow]
  have stamp := callLockBlocks_stamp cfg slot (clock 0) (.ipsc data[gvIpscSeqOff]?) (gvSrcSub data)
    (gvDstGroup data) (burstType = voiceTerm) (clock 2)
  obtain ⟨blocked, lock, decided, -⟩ := callLockBlocks_verdict cfg
    { slot with outCall.lastPkt := clock 0 } (.ipsc data[gvIpscSeqOff]?) (gvSrcSub data)
    (gvDstGroup data) (burstType = voiceTerm) (clock 2)
  rw [decided] at stamp
  obtain ⟨suppressed, reflect, judged⟩ := shouldSuppressIpscReflection_frame cfg
    data[gvIpscSeqOff]? burstType (gvSrcSub data) (gvDstGroup data) (clock 3)
    { slot with outCall.lastPkt := clock 0, lock := lock }
  have same := shouldSuppressIpscReflection_congr cfg data[gvIpscSeqOff]? burstType (gvSrcSub data)
    (gvDstGroup data) (clock 3) { slot with outCall.lastPkt := clock 0, lock := lock } slot rfl rfl
  rw [judged] at same
  rw [← stamp, ← same]
  unfold ipscGate
  simp only [prelude, decided, judged, Bool.false_eq_true, if_false]
  cases blocked with
  | true => exact ⟨rfl, rfl⟩
  | false =>
      cases suppressed with
      | true => exact ⟨rfl, rfl⟩
      | false => exact ⟨rfl, rfl⟩

def Action.isRaised : Action → Bool
  | .raised _ => true
  | _ => false

/-- The frames of the send loop raise nothing. -/
theorem sendFrames_quiet (frame : UInt8 → Bytes) (count : Nat) (seq : UInt8) :
    (sendFrames frame count seq).any Action.isRaised = false := by
  induction count generalizing seq with
  | zero => rfl
  | succ count ih => exact ih (seq + 1)

/-- An admitted packet raises only where a short voice packet finds no open stream. -/
theorem BurstOutcome.raises {dmr : DmrUtils} {cfg : Config} {ts : Timeslot} {data : Bytes}
    {burstType : UInt8} {urandom : StreamId} {now : Time} {seq : UInt8} {slot after : Slot}
    {actions : List Action} {err : PyErr}
    (outcome : BurstOutcome dmr cfg ts data burstType urandom now seq slot after actions)
    (member : .raised err ∈ actions) :
    cfg.legacyFlow = false ∧ IsVoice burstType ∧ data.length ≤ 32 ∧ slot.outCall.streamId = none := by
  have noFrame (frame : UInt8 → Bytes) (count : Nat) (seq : UInt8) :
      .raised err ∉ sendFrames frame count seq := fun inside =>
    List.any_eq_false.mp (sendFrames_quiet frame count seq) _ inside rfl
  cases outcome with
  | outOfRange voice closed flow short =>
      exact ⟨flow, voice, List.getElem?_eq_none_iff.mp short, closed⟩
  | headOpened =>
      rcases List.mem_cons.mp member with other | later
      · cases other
      · exact absurd later (noFrame _ _ _)
  | ignored | headRepeated | ended | voiceSent | enteredLate | enteredSilent => simp at member

/-- The exact packets on which `ipsc_voice_received` raises an exception. -/
theorem ipscVoiceReceived_raises_iff (dmr : DmrUtils) (cfg : Config) (connected : Bool) (data : Bytes)
    (ts : Timeslot) (burstType : UInt8) (urandom : StreamId) (clock : Clock) (shared : Shared)
    (slot : Slot) :
    (∃ err, .raised err ∈
        (ipscVoiceReceived dmr cfg connected data ts burstType urandom clock shared slot).2.2) ↔
      MarkMissing cfg connected data burstType clock slot := by
  constructor
  · rintro ⟨err, member⟩
    cases connected with
    | false => simp [ipscVoiceReceived] at member
    | true =>
        rw [ipscVoiceReceived_eq] at member
        split at member
        case isTrue => cases member
        case isFalse passed =>
          have outcome := sendBurst_cases dmr cfg ts data burstType urandom (clock 5)
            (shared.learn data) (ipscGate cfg data burstType clock slot).2
          obtain ⟨flow, voice, short, closed⟩ := outcome.raises member
          obtain ⟨gate, same⟩ := ipscGate_flow flow data burstType clock slot
          rw [gate, decide_eq_false voice.2] at passed
          simp only [Bool.or_eq_true, not_or, Bool.not_eq_true] at passed
          exact ⟨rfl, flow, voice, short, same.symm.trans closed, passed.1, passed.2⟩
  · rintro ⟨rfl, flow, voice, short, closed, unblocked, unsuppressed⟩
    obtain ⟨gate, same⟩ := ipscGate_flow flow data burstType clock slot
    rw [decide_eq_false voice.2, unblocked, unsuppressed] at gate
    have passed : ¬ (ipscGate cfg data burstType clock slot).1 = true := by simp [gate]
    have missing : data[32]? = none := List.getElem?_eq_none_iff.mpr short
    refine ⟨.indexError, ?_⟩
    rw [ipscVoiceReceived_eq, if_neg passed]
    simp only [burstOf, if_neg voice.1, if_neg voice.2, voiceBurst, same, closed, flow,
      Bool.false_eq_true, if_false, missing, sendBurst]
    exact List.mem_cons_self

theorem Action.any_isRaised {actions : List Action} :
    actions.any Action.isRaised = true ↔ ∃ err, .raised err ∈ actions := by
  rw [List.any_eq_true]
  constructor
  · rintro ⟨action, member, raised⟩
    cases action with
    | raised err => exact ⟨err, member⟩
    | openStream | sendDmrd | generate | queueFull | slotBusy | sendToPeer => cases raised
  · rintro ⟨err, member⟩
    exact ⟨_, member, rfl⟩

/-- The client is asked to connect while it has no event loop. -/
structure HbpClient.NotStarted (client : HbpClient) : Prop where
  inactive : client.active = false
  idle : client.task = .unset ∨ client.task = .finished
  unstarted : client.started = false

instance (client : HbpClient) : Decidable client.NotStarted :=
  decidable_of_iff (client.active = false ∧ (client.task = .unset ∨ client.task = .finished) ∧
      client.started = false)
    ⟨fun ⟨inactive, idle, unstarted⟩ => ⟨inactive, idle, unstarted⟩,
      fun ⟨inactive, idle, unstarted⟩ => ⟨inactive, idle, unstarted⟩⟩

theorem HbpClient.activate_outputs (client : HbpClient) :
    client.activate.2 = if client.NotStarted then [.raised .attributeError] else [] := by
  unfold activate
  split
  case isTrue active =>
    have started : ¬ client.NotStarted := fun early => by simp [early.inactive] at active
    rw [if_neg started]
  case isFalse inactive =>
    simp only
    split
    case isTrue idle =>
      split
      case isTrue started =>
        have started : ¬ client.NotStarted := fun early => by simp [early.unstarted] at started
        rw [if_neg started]
      case isFalse unstarted =>
        have early : client.NotStarted := 
          ⟨by simpa using inactive, by simpa using idle, by simpa using unstarted⟩
        rw [if_pos early]
    case isFalse busy =>
      have started : ¬ client.NotStarted := fun early => busy (by simpa using early.idle)
      rw [if_neg started]

/-- The client sends a frame that it is given. -/
def HbpClient.Sends (client : HbpClient) : Prop :=
  ∃ proto, client.protocol = some proto ∧ proto.state = .connected ∧ proto.transport = true

/-- The first of the two headers with which a legacy call starts meets a socket error. -/
structure HeadFails (cfg : Config) (fails : Nat → Bool) (client : HbpClient) (data : Bytes)
    (burstType : UInt8) (clock : Clock) (slot : Slot) : Prop where
  sends : client.Sends
  flow : cfg.legacyFlow = true
  head : burstType = voiceHead
  admitted : (ipscGate cfg data burstType clock slot).1 = false
  closed : (ipscGate cfg data burstType clock slot).2.outCall.streamId = none
  failed : fails 0 = true

/-- A burst that becomes a frame has a stream, and in the legacy flow a header of it is the first. -/
structure BurstFramed (cfg : Config) (burstType : UInt8) (slot after : Slot) (actions : List Action) :
    Prop where
  opened : ∃ streamId, after.outCall.streamId = some streamId
  quiet : ∀ action ∈ actions, ∃ streamId lc, action = .openStream streamId lc
  first : cfg.legacyFlow = true → burstType = voiceHead → slot.outCall.streamId = none

/-- A burst that becomes no frame is not the first header of a call. -/
structure BurstDone (burstType : UInt8) (slot : Slot) (actions : List Action) : Prop where
  unsent : ∀ dmrd, .sendDmrd dmrd ∉ actions
  other : burstType = voiceHead → slot.outCall.streamId ≠ none

/-- The outcome of the branches on the burst type. -/
inductive BurstMade (cfg : Config) (burstType : UInt8) (slot : Slot) : Burst → Prop
  | done {after : Slot} {actions : List Action} (made : BurstDone burstType slot actions) :
      BurstMade cfg burstType slot (.done after actions)
  | framed {after : Slot} {actions : List Action} {payload : Bytes} {flags : UInt8}
      (made : BurstFramed cfg burstType slot after actions) :
      BurstMade cfg burstType slot (.frame after actions payload flags)

/-- A voice burst of an open stream is no header. -/
theorem openVoiceBurst_made (dmr : DmrUtils) (cfg : Config) (data : Bytes) {burstType : UInt8}
    (other : burstType ≠ voiceHead) (slot : Slot) {after : Slot} {actions : List Action}
    (opened : ∃ streamId, after.outCall.streamId = some streamId)
    (quiet : ∀ action ∈ actions, ∃ streamId lc, action = .openStream streamId lc) :
    BurstMade cfg burstType slot (openVoiceBurst dmr data after actions) := by
  unfold openVoiceBurst
  split
  · refine .done ⟨fun dmrd member => ?_, fun head => absurd head other⟩
    obtain ⟨streamId, lc, same⟩ := quiet _ member
    cases same
  · exact .framed ⟨opened, quiet, fun _ head => absurd head other⟩

theorem burstOf_made (dmr : DmrUtils) (cfg : Config) (data srcSub dstGroup : Bytes) (burstType : UInt8)
    (urandom : StreamId) (slot : Slot) :
    BurstMade cfg burstType slot (burstOf dmr cfg data srcSub dstGroup burstType urandom slot) := by
  unfold burstOf
  split
  case isTrue head =>
    unfold headBurst
    cases opened : slot.outCall.streamId with
    | none =>
        refine .framed ⟨⟨_, rfl⟩, fun action member => ?_, fun _ _ => opened⟩
        exact ⟨_, _, List.mem_singleton.mp member⟩
    | some streamId =>
        dsimp only
        split
        case isTrue => exact .done ⟨by simp, fun _ => by simp [opened]⟩
        case isFalse flow => exact .framed ⟨⟨_, rfl⟩, by simp, fun legacy => absurd legacy flow⟩
  case isFalse other =>
    split
    case isTrue term =>
      unfold termBurst
      cases opened : slot.outCall.streamId with
      | none => exact .done ⟨by simp, fun head => absurd head other⟩
      | some streamId => exact .framed ⟨⟨_, opened⟩, by simp, fun _ head => absurd head other⟩
    case isFalse =>
      have done {actions : List Action} (unsent : ∀ dmrd, .sendDmrd dmrd ∉ actions) :
          BurstMade cfg burstType slot (.done slot actions) :=
        .done ⟨unsent, fun head => absurd head other⟩
      unfold voiceBurst
      cases opened : slot.outCall.streamId with
      | some streamId => exact openVoiceBurst_made dmr cfg data other slot ⟨_, opened⟩ (by simp)
      | none =>
          dsimp only
          split
          · exact done (by simp)
          · split
            · exact done (by simp)
            · split
              · exact done (by simp)
              · refine openVoiceBurst_made dmr cfg data other slot ⟨_, rfl⟩ fun action member => ?_
                exact ⟨_, _, List.mem_singleton.mp member⟩

/-- Over a sound socket a frame raises nothing. -/
theorem sendBurst_quiet (cfg : Config) (ts : Timeslot) (srcSub dstGroup : Bytes) (now : Time)
    (shared : Shared) {burstType : UInt8} {slot after : Slot} {actions : List Action} {payload : Bytes}
    {flags : UInt8} (framed : BurstFramed cfg burstType slot after actions) :
    (sendBurst cfg ts srcSub dstGroup burstType now shared
      (.frame after actions payload flags)).2.2.any Action.isRaised = false := by
  obtain ⟨streamId, opened⟩ := framed.opened
  simp only [sendBurst, opened]
  rw [List.any_append, sendFrames_quiet, Bool.or_false, List.any_eq_false]
  intro action member raised
  obtain ⟨streamId, lc, rfl⟩ := framed.quiet action member
  cases raised

/-- A handler's other effects raise nothing of their own. -/
theorem actions_raised (session : Nat) (ts : Timeslot) (actions : List Action) :
    (actions.map fun action => CoreOutput.translator session (.slot ts action)).any
      CoreOutput.isRaised = actions.any Action.isRaised := by
  induction actions with
  | nil => rfl
  | cons action rest ih =>
      rw [List.map_cons, List.any_cons, List.any_cons, ih]
      cases action <;> rfl

namespace Fallible
variable (dmr : DmrUtils) (cfg : Config)

/-- The translator is told at once and answers nothing. -/
theorem tell_log (core : Core) (outputs : List HbpOutput) :
    (tell dmr cfg core outputs).2 = outputs.map (CoreOutput.hbp core.client.session) := by
  induction outputs generalizing core with
  | nil => rfl
  | cons output rest ih =>
      have told : (if output = .hbpDisconnected then core.translate dmr cfg .hbpDisconnected
          else (core, [])).2 = [] ∧ (if output = .hbpDisconnected then
            core.translate dmr cfg .hbpDisconnected else (core, [])).1.client = core.client := by
        split
        · exact ⟨rfl, rfl⟩
        · exact ⟨rfl, rfl⟩
      simp only [tell, told.1, List.nil_append, ih, told.2, List.map_cons]

/-- A client without a session ignores a frame. -/
theorem command_sendDmrd_down (failed : Bool) {client : HbpClient} (down : ¬ client.Sends)
    (ts : Timeslot) (dmrd : Bytes) :
    command cfg failed client (.slot ts (.sendDmrd dmrd)) = (client, []) := by
  simp only [command, HbpClient.onProtocol]
  cases present : client.protocol with
  | none => rfl
  | some proto =>
      have unsent : ¬ (proto.state = .connected && proto.transport) = true := fun up => by
        simp only [Bool.and_eq_true, decide_eq_true_eq] at up
        exact down ⟨proto, present, up⟩
      simp only [sendDmrd, if_neg unsent]
      rw [← present]

theorem command_sendDmrd_sent {client : HbpClient} (sends : client.Sends) (ts : Timeslot)
    (dmrd : Bytes) :
    command cfg false client (.slot ts (.sendDmrd dmrd)) = (client, [.sendDmrd dmrd]) := by
  obtain ⟨proto, present, up⟩ := sends
  have sent : (proto.state = .connected && proto.transport) = true := by simp [up]
  simp only [command, HbpClient.onProtocol, present, sendDmrd, if_pos sent, sendto_sent]
  rw [← present]

/-- A `sendto` that fails ends the session. -/
theorem command_sendDmrd_failed {client : HbpClient} (sends : client.Sends) (ts : Timeslot)
    (dmrd : Bytes) :
    (command cfg true client (.slot ts (.sendDmrd dmrd))).2 = [.sendDmrd dmrd, .hbpDisconnected] := by
  obtain ⟨proto, present, state, opened⟩ := sends
  simp [command, HbpClient.onProtocol, present, sendDmrd, state, opened, sendto,
    HbpProtocol.errorReceived, HbpProtocol.disconnect]

/-- The frame is handed to the client, and a failed `sendto` clears the streams of both timeslots. -/
theorem obey_sendDmrd (failed : Bool) (core : Core) (ts : Timeslot) (dmrd : Bytes) :
    let obeyed := obey dmr cfg failed core (.slot ts (.sendDmrd dmrd))
    obeyed.2.any CoreOutput.isRaised = false ∧
      (core.client.Sends ∧ failed = true → ∀ other,
        (obeyed.1.translator.slot other).outCall.streamId = none) ∧
      (¬ (core.client.Sends ∧ failed = true) → obeyed.1 = core) := by
  intro obeyed
  by_cases sends : core.client.Sends
  case neg =>
    have ignored : obeyed = (core, [.translator core.client.session (.slot ts (.sendDmrd dmrd))]) := by
      simp only [obeyed, obey, command_sendDmrd_down cfg failed sends, tell]
    rw [ignored]
    exact ⟨rfl, fun fails => absurd fails.1 sends, fun _ => rfl⟩
  case pos =>
    cases failed with
    | false =>
        have sent := command_sendDmrd_sent cfg sends ts dmrd
        refine ⟨?_, fun fails => Bool.noConfusion fails.2, fun _ => ?_⟩
        · simp only [obeyed, obey, sent, tell_log]
          rfl
        · simp only [obeyed, obey, sent, tell, reduceCtorEq, if_false]
    | true =>
        have ended := command_sendDmrd_failed cfg sends ts dmrd
        refine ⟨?_, fun _ other => ?_, fun smooth => absurd ⟨sends, rfl⟩ smooth⟩
        · simp only [obeyed, obey, ended, tell_log]
          rfl
        · simp only [obeyed, obey, ended, tell, reduceCtorEq, if_true, if_false]
          rfl

section Loop
variable {ts : Timeslot} {srcSub dstGroup : Bytes} {flags : UInt8} {payload : Bytes}
  {fails : Nat → Bool}

/-- One frame of an open stream raises nothing. -/
theorem sendFrames_one {core : Core} {streamId : Bytes} (index : Nat)
    (opened : (core.translator.slot ts).outCall.streamId = some streamId) :
    (sendFrames dmr cfg fails ts srcSub dstGroup flags payload 1 index core).2.1.any
      CoreOutput.isRaised = false := by
  simp only [sendFrames, opened, List.append_nil]
  exact (obey_sendDmrd dmr cfg ..).1

/-- The second of two frames finds no stream when the first has failed. -/
theorem sendFrames_two {core : Core} {streamId : Bytes}
    (opened : (core.translator.slot ts).outCall.streamId = some streamId) :
    (sendFrames dmr cfg fails ts srcSub dstGroup flags payload 2 0 core).2.1.any
      CoreOutput.isRaised = true ↔ core.client.Sends ∧ fails 0 = true := by
  rw [sendFrames]
  simp only [opened]
  rw [List.any_append]
  obtain ⟨quiet, cleared, kept⟩ := obey_sendDmrd dmr cfg (fails 0)
    { core with translator.shared.outSeq := core.translator.shared.outSeq + 1 } ts
    (dmrdFrame cfg core.translator.shared.outSeq srcSub dstGroup flags streamId payload)
  rw [quiet, Bool.false_or]
  constructor
  · intro raised
    by_contra smooth
    have still : (({ core with translator.shared.outSeq := core.translator.shared.outSeq + 1 } :
        Core).translator.slot ts).outCall.streamId = some streamId := opened
    rw [kept smooth, sendFrames_one dmr cfg (0 + 1) still] at raised
    cases raised
  · intro fails
    simp only [sendFrames, cleared fails ts]
    rfl

end Loop

/-- A frame raises an exception in the send loop of two headers only. -/
theorem sendBurst_raised {fails : Nat → Bool} (ts : Timeslot) (srcSub dstGroup : Bytes)
    {burstType : UInt8} (now : Time) (core : Core) {slot after : Slot} {actions : List Action}
    {payload : Bytes} {flags : UInt8} (framed : BurstFramed cfg burstType slot after actions) :
    (sendBurst dmr cfg fails ts srcSub dstGroup burstType now core
        (.frame after actions payload flags)).2.any CoreOutput.isRaised = true ↔
      (cfg.legacyFlow = true ∧ burstType = voiceHead) ∧ core.client.Sends ∧ fails 0 = true := by
  obtain ⟨streamId, opened⟩ := framed.opened
  have put : ((putSlot ts after core).translator.slot ts).outCall.streamId = some streamId := by
    simp [putSlot, opened]
  have quiet : (actions.map fun action => CoreOutput.translator core.client.session
      (.slot ts action)).any CoreOutput.isRaised = false := by
    rw [actions_raised, List.any_eq_false]
    intro action member raised
    obtain ⟨streamId, lc, rfl⟩ := framed.quiet action member
    cases raised
  have log (flag : Bool) (first second : Core) (log : List CoreOutput) :
      (if flag = true then (first, log) else (second, log)).2 = log := by
    split <;> rfl
  simp only [sendBurst, log, List.any_append, quiet, Bool.false_or]
  by_cases twice : (cfg.legacyFlow && burstType = voiceHead) = true
  · rw [if_pos twice, sendFrames_two dmr cfg put]
    simp only [Bool.and_eq_true, decide_eq_true_eq] at twice
    simp only [twice, and_self, true_and]
    rfl
  · rw [if_neg twice, sendFrames_one dmr cfg 0 put]
    simp only [Bool.and_eq_true, decide_eq_true_eq] at twice
    simp [twice]

/-- A packet that passes the gate goes on to its burst. -/
theorem ipscVoiceReceived_eq (fails : Nat → Bool) (data : Bytes) (ts : Timeslot) (burstType : UInt8)
    (urandom : StreamId) (clock : Clock) {core : Core} (connected : core.client.isConnected = true) :
    let gate := ipscGate cfg data burstType clock (core.translator.slot ts)
    ipscVoiceReceived dmr cfg fails data ts burstType urandom clock core =
      if gate.1 then (putSlot ts gate.2 core, [])
      else
        sendBurst dmr cfg fails ts (gvSrcSub data) (gvDstGroup data) burstType (clock 5)
          { core with translator.shared := core.translator.shared.learn data }
          (burstOf dmr cfg data (gvSrcSub data) (gvDstGroup data) burstType urandom gate.2) := by
  unfold ipscVoiceReceived ipscGate legacyPrelude
  simp only [connected, Bool.not_true, Bool.false_eq_true, if_false]
  split
  case isTrue => rfl
  case isFalse =>
    split
    case isTrue => rfl
    case isFalse =>
      split
      case isTrue => rfl
      case isFalse => rfl

/-- A voice packet from IPSC raises an exception when its mark is missing or when the first of its two
headers fails. -/
theorem ipscVoiceReceived_raised (fails : Nat → Bool) (data : Bytes) (ts : Timeslot)
    (burstType : UInt8) (urandom : StreamId) (clock : Clock) (core : Core) :
    (ipscVoiceReceived dmr cfg fails data ts burstType urandom clock core).2.any
        CoreOutput.isRaised = true ↔
      MarkMissing cfg core.client.isConnected data burstType clock (core.translator.slot ts) ∨
        HeadFails cfg fails core.client data burstType clock (core.translator.slot ts) := by
  cases connected : core.client.isConnected with
  | false =>
      rw [ipscVoiceReceived, connected]
      refine ⟨fun raised => Bool.noConfusion raised, ?_⟩
      rintro (missing | ⟨⟨proto, present, up, -⟩, -⟩)
      · exact Bool.noConfusion missing.connected
      · rw [HbpClient.isConnected, present] at connected
        simp [HbpProtocol.isConnected, up] at connected
  | true =>
      rw [← ipscVoiceReceived_raises_iff dmr cfg true data ts burstType urandom clock
        core.translator.shared, ← Action.any_isRaised, Ipsc2Hbp.ipscVoiceReceived_eq,
        ipscVoiceReceived_eq dmr cfg fails data ts burstType urandom clock connected]
      dsimp only
      cases admitted : (ipscGate cfg data burstType clock (core.translator.slot ts)).1 with
      | true =>
          refine ⟨fun raised => Bool.noConfusion raised, ?_⟩
          rintro (raised | ⟨-, -, -, passed, -⟩)
          · exact Bool.noConfusion raised
          · rw [admitted] at passed
            cases passed
      | false =>
          simp only [Bool.false_eq_true, if_false]
          have made := burstOf_made dmr cfg data (gvSrcSub data) (gvDstGroup data) burstType urandom
            (ipscGate cfg data burstType clock (core.translator.slot ts)).2
          generalize burstOf dmr cfg data (gvSrcSub data) (gvDstGroup data) burstType urandom
            (ipscGate cfg data burstType clock (core.translator.slot ts)).2 = burst at made
          cases made with
          | done made =>
              simp only [sendBurst, actions_raised, Ipsc2Hbp.sendBurst]
              refine ⟨.inl, fun raised => raised.resolve_right fun head => ?_⟩
              exact made.other head.head head.closed
          | framed made =>
              rw [sendBurst_raised dmr cfg _ _ _ _ _ made]
              rw [sendBurst_quiet cfg ts _ _ _ _ made]
              constructor
              · rintro ⟨⟨flow, head⟩, sends, failed⟩
                exact .inr ⟨sends, flow, head, admitted, made.first flow head, failed⟩
              · intro raised
                have head := raised.resolve_left Bool.false_ne_true
                exact ⟨⟨head.flow, head.head⟩, head.sends, head.failed⟩

end Fallible

namespace Core

/-- The client raises nothing of its own when it obeys a handler of a timeslot. -/
theorem obey_actions_raised (cfg : Config) (client : HbpClient) (ts : Timeslot)
    (actions : List Action) :
    (obey cfg client (actions.map (Output.slot ts))).2.any CoreOutput.isRaised =
      actions.any Action.isRaised := by
  induction actions with
  | nil => rfl
  | cons action rest ih =>
      cases action with
      | sendDmrd dmrd =>
          rcases sendDmrd_cases client dmrd with silent | sent
          · simpa [obey, command, silent, CoreOutput.isRaised, Action.isRaised] using ih
          · simpa [obey, command, sent, CoreOutput.isRaised, Action.isRaised] using ih
      | raised => rfl
      | openStream | generate | queueFull | slotBusy | sendToPeer => exact ih

/-- A handler of one timeslot raises what its actions raise. -/
theorem translate_raised_onSlot {dmr : DmrUtils} {cfg : Config} {event : Event} {core : Core}
    {ts : Timeslot} {handler : Shared → Slot → Shared × Slot × List Action}
    (handled : Translator.step dmr cfg core.translator event = core.translator.onSlot ts handler) :
    (core.translate dmr cfg event).2.any CoreOutput.isRaised =
      (handler core.translator.shared (core.translator.slot ts)).2.2.any Action.isRaised := by
  rw [translate, handled]
  exact obey_actions_raised ..

/-- A frame or a drain of the HBP side raises nothing. -/
theorem translate_fromHbp_quiet {dmr : DmrUtils} (documented : dmr.Documented) {actions : List Action}
    (fromHbp : ∀ action ∈ actions, action.FromHbp dmr) : actions.any Action.isRaised = false := by
  rw [List.any_eq_false]
  intro action member raised
  have allowed := fromHbp action member
  cases action with
  | raised => exact allowed documented
  | openStream | sendDmrd | generate | queueFull | slotBusy | sendToPeer => cases raised

theorem translate_hbpVoice_raised {dmr : DmrUtils} (documented : dmr.Documented) (cfg : Config)
    (registered : Bool) (dmrd : Bytes) (draw : RtpDraw) (clock : Clock) (core : Core) :
    (core.translate dmr cfg (.hbpVoice registered dmrd draw clock)).2.any CoreOutput.isRaised =
      false := by
  have received := hbpVoiceReceived_eq dmr cfg registered dmrd draw clock core.translator
  cases accepted : acceptedFrame registered dmrd with
  | none =>
      rw [accepted] at received
      simp only [translate, Translator.step, received]
      rfl
  | some frame =>
      rw [accepted] at received
      have handled : Translator.step dmr cfg core.translator (.hbpVoice registered dmrd draw clock) =
          core.translator.onSlot frame.timeslot (hbpFrameReceived dmr cfg frame draw clock) := received
      rw [translate_raised_onSlot handled]
      exact translate_fromHbp_quiet documented (hbpFrameReceived_outbound ..).2

end Core

namespace Fallible
variable (dmr : DmrUtils) (cfg : Config) (failed : Bool) (core : Core)

/-- The first registration raises an exception in TRACKING mode before the client is started. -/
theorem translate_peerRegistered_raised :
    (translate dmr cfg failed .peerRegistered core).2.any CoreOutput.isRaised = true ↔
      cfg.hbpMode = .tracking ∧ core.client.NotStarted := by
  by_cases tracking : cfg.hbpMode = .tracking
  · by_cases early : core.client.NotStarted
    · simp [translate, Translator.step, tracking, obeyAll, obey, command, tell_log,
        HbpClient.activate_outputs, early, CoreOutput.isRaised]
    · simp [translate, Translator.step, tracking, obeyAll, obey, command, tell_log,
        HbpClient.activate_outputs, early, CoreOutput.isRaised]
  · simp [translate, Translator.step, tracking, obeyAll]

/-- A client that is switched off raises nothing. -/
theorem deactivate_quiet (client : HbpClient) (err : PyErr) :
    .raised err ∉ (deactivate cfg failed client).2 := by
  intro member
  unfold deactivate HbpClient.onProtocol at member
  split at member
  · cases member
  · dsimp only at member
    split at member
    · cases member
    · simp only [disconnect] at member
      split at member
      · rcases sendRaw_outputs cfg _ failed member with same | same <;> cases same
      · cases member

theorem translate_peerLost_raised :
    (translate dmr cfg failed .peerLost core).2.any CoreOutput.isRaised = false := by
  simp only [translate, Translator.step]
  split
  case isFalse => rfl
  case isTrue =>
    rw [List.any_eq_false]
    intro output member raised
    simp only [obeyAll, obey, command, tell_log, List.append_nil] at member
    rcases List.mem_cons.mp member with rfl | later
    · cases raised
    · obtain ⟨sent, inside, rfl⟩ := List.mem_map.mp later
      cases sent with
      | raised err => exact deactivate_quiet cfg failed _ err inside
      | send | sendDmrd | hbpConnected | hbpDisconnected | hbpVoiceReceived => cases raised

end Fallible

/-- A packet that a stack sends. -/
def IpscOutput.IsSend : IpscOutput → Prop
  | .send .. => True
  | _ => False

theorem ipscSend_sends (digests : Digests) (cfg : Config) (transport : Bool) (payload : Bytes)
    (host : String) (port : UInt16) :
    ∀ output ∈ ipscSend digests cfg transport payload host port, output.IsSend := by
  unfold ipscSend
  split <;> simp [IpscOutput.IsSend]

theorem IpscStack.sendToPeer_sends (digests : Digests) (cfg : Config) (packet : Bytes)
    (stack : IpscStack) : ∀ output ∈ stack.sendToPeer digests cfg packet, output.IsSend := by
  have sent := ipscSend_sends digests cfg
  cases stack with
  | master master =>
      simp only [sendToPeer, IpscMaster.sendToPeer]
      split
      · split
        · simp
        · exact sent _ _ _ _
      · simp
  | peer peer =>
      simp only [sendToPeer, IpscPeer.sendToPeer]
      split
      · simp
      · intro output member
        rcases List.mem_append.mp member with toMaster | toPeers
        · exact sent _ _ _ _ output toMaster
        · obtain ⟨entry, -, inside⟩ := List.mem_flatMap.mp toPeers
          exact sent _ _ _ _ output inside

namespace Bridge

/-- The IPSC stack raises nothing when it sends what the translator hands to it. -/
theorem forward_raised (digests : Digests) (cfg : Config) (ipsc : IpscStack) (log : List CoreOutput) :
    (forward digests cfg ipsc log).any BridgeOutput.isRaised = log.any CoreOutput.isRaised := by
  have quiet (packet : Bytes) :
      ((ipsc.sendToPeer digests cfg packet).map BridgeOutput.ipsc).any BridgeOutput.isRaised =
        false := by
    rw [List.any_eq_false]
    intro output member raised
    obtain ⟨sent, inside, rfl⟩ := List.mem_map.mp member
    have plain := ipsc.sendToPeer_sends digests cfg packet sent inside
    cases sent with
    | send => cases raised
    | peerRegistered | peerLost | checkCallTimeouts | ipscVoiceReceived | raised => exact plain
  unfold forward
  rw [List.any_flatMap]
  congr 1
  funext output
  rw [List.any_cons]
  split
  · rw [quiet, Bool.or_false]
    rfl
  · rw [List.any_nil, Bool.or_false]
    rfl

end Bridge

namespace Fallible
variable (digests : Digests) (dmr : DmrUtils) (cfg : Config) (fails : Nat → Bool) (urandom : StreamId)
  (clock : Clock) (ipsc : IpscStack)

/-- The translator's answer to an effect of the IPSC stack ends in an exception. -/
def answerRaises (core : Core) (output : IpscOutput) : Bool :=
  (BridgeOutput.ipsc output).isRaised ||
    (answer dmr cfg fails urandom clock core output).2.any CoreOutput.isRaised

theorem deliver_cons_raised (core : Core) (output : IpscOutput) (rest : List IpscOutput) :
    (deliver digests dmr cfg fails urandom clock ipsc core (output :: rest)).2.any
        BridgeOutput.isRaised =
      (answerRaises dmr cfg fails urandom clock core output ||
        (deliver digests dmr cfg fails urandom clock ipsc
          (answer dmr cfg fails urandom clock core output).1 rest).2.any BridgeOutput.isRaised) := by
  have answered : (BridgeOutput.ipsc output :: Bridge.forward digests cfg ipsc
      (answer dmr cfg fails urandom clock core output).2).any BridgeOutput.isRaised =
        answerRaises dmr cfg fails urandom clock core output := by
    rw [List.any_cons, Bridge.forward_raised, answerRaises]
  simp only [deliver]
  cases raised : answerRaises dmr cfg fails urandom clock core output with
  | true => rw [answered, raised, if_pos rfl, answered, raised, Bool.true_or]
  | false =>
      rw [answered, raised, if_neg Bool.false_ne_true, List.any_append, answered, raised]

/-- Packets that are only sent raise nothing. -/
theorem deliver_sends_raised (core : Core) {outputs : List IpscOutput}
    (sends : ∀ output ∈ outputs, output.IsSend) :
    (deliver digests dmr cfg fails urandom clock ipsc core outputs).2.any BridgeOutput.isRaised =
      false := by
  induction outputs with
  | nil => rfl
  | cons output rest ih =>
      have first := sends output List.mem_cons_self
      have tail := ih fun other member => sends other (List.mem_cons_of_mem _ member)
      cases output with
      | send =>
          rw [deliver_cons_raised]
          exact tail
      | peerRegistered | peerLost | checkCallTimeouts | ipscVoiceReceived | raised =>
          exact first.elim

/-- Among packets that are sent, one call of the translator decides. -/
theorem deliver_call_raised (core : Core) {front back : List IpscOutput}
    (before : ∀ output ∈ front, output.IsSend) (after : ∀ output ∈ back, output.IsSend)
    (output : IpscOutput) :
    (deliver digests dmr cfg fails urandom clock ipsc core (front ++ output :: back)).2.any
        BridgeOutput.isRaised = answerRaises dmr cfg fails urandom clock core output := by
  induction front with
  | nil =>
      rw [List.nil_append, deliver_cons_raised, deliver_sends_raised _ _ _ _ _ _ _ _ after,
        Bool.or_false]
  | cons first rest ih =>
      have plain := before first List.mem_cons_self
      have tail := ih fun other member => before other (List.mem_cons_of_mem _ member)
      cases first with
      | send =>
          rw [List.cons_append, deliver_cons_raised]
          exact tail
      | peerRegistered | peerLost | checkCallTimeouts | ipscVoiceReceived | raised =>
          exact plain.elim

end Fallible

/-- The timeslot and the burst type of a voice packet that the master hands to the translator. -/
def IpscMaster.heard (payload : Bytes) (host : String) (port : UInt16) (master : IpscMaster) :
    Option (Timeslot × UInt8) :=
  if payload[0]? = some groupVoice && master.registered && master.peerIp = some host &&
      master.peerPort = some port then (parseGroupVoiceMeta payload).toOption
  else none

/-- The packet registers a peer while none is registered. -/
def IpscMaster.registersFirst (cfg : Config) (payload : Bytes) (host : String) (master : IpscMaster) :
    Bool :=
  payload[0]? = some masterRegReq && 10 ≤ payload.length &&
    !master.rejectsReg cfg (payload.extract 1 5) host && !master.registered

/-- The timeslot and the burst type of a voice packet that a peer hands to the translator: it comes
from the master or from a peer that is listed or may be unlisted. -/
def IpscPeer.heard (cfg : Config) (payload : Bytes) (host : String) (peer : IpscPeer) :
    Option (Timeslot × UInt8) :=
  let srcId := safePeerId payload
  if payload[0]? = some groupVoice && srcId ≠ cfg.ipscPeerId && peer.registered &&
      (peer.isMasterSource cfg srcId host groupVoice ||
        srcId ≠ 0 && ((peer.getPeer srcId).isSome || cfg.ipscPeerListAllowUnknown)) then
    (parseGroupVoiceMeta payload).toOption
  else none

/-- The packet is the first registration reply of the master. -/
def IpscPeer.registersFirst (cfg : Config) (payload : Bytes) (host : String) (peer : IpscPeer) :
    Bool :=
  let srcId := safePeerId payload
  payload[0]? = some masterRegReply && srcId ≠ cfg.ipscPeerId &&
    peer.isMasterSource cfg srcId host masterRegReply && 16 ≤ payload.length && !peer.registered &&
    !peer.masterRegReported

namespace IpscStack

def heard (cfg : Config) (payload : Bytes) (host : String) (port : UInt16) :
    IpscStack → Option (Timeslot × UInt8)
  | .master stack => stack.heard payload host port
  | .peer stack => stack.heard cfg payload host

def registersFirst (cfg : Config) (payload : Bytes) (host : String) : IpscStack → Bool
  | .master stack => stack.registersFirst cfg payload host
  | .peer stack => stack.registersFirst cfg payload host

end IpscStack

/-- The effects of a stack on one packet: at most one call of the translator among what it sends. -/
inductive PacketOutcome (payload : Bytes) : Option (Timeslot × UInt8) → Bool → List IpscOutput → Prop
  | sends {outputs : List IpscOutput} (sent : ∀ output ∈ outputs, output.IsSend) :
      PacketOutcome payload none false outputs
  | lost {front : List IpscOutput} (sent : ∀ output ∈ front, output.IsSend) :
      PacketOutcome payload none false (front ++ [.peerLost])
  | registered {front back : List IpscOutput} (before : ∀ output ∈ front, output.IsSend)
      (after : ∀ output ∈ back, output.IsSend) (peerId : Bytes) (host : String) (port : UInt16) :
      PacketOutcome payload none true (front ++ .peerRegistered peerId host port :: back)
  | heard (ts : Timeslot) (burstType : UInt8) :
      PacketOutcome payload (some (ts, burstType)) false [.ipscVoiceReceived payload ts burstType]

namespace PacketOutcome

theorem nothing {payload : Bytes} : PacketOutcome payload none false [] := .sends (by simp)

/-- A voice packet that is handed to the translator is the one that came in. -/
theorem voice {payload data : Bytes} {heard : Option (Timeslot × UInt8)} {first : Bool}
    {outputs : List IpscOutput} (outcome : PacketOutcome payload heard first outputs) {ts : Timeslot}
    {burstType : UInt8} (member : .ipscVoiceReceived data ts burstType ∈ outputs) :
    data = payload ∧ heard = some (ts, burstType) := by
  cases outcome with
  | sends sent => exact (sent _ member).elim
  | lost sent =>
      rcases List.mem_append.mp member with before | last
      · exact (sent _ before).elim
      · cases List.mem_singleton.mp last
  | registered before after =>
      rcases List.mem_append.mp member with earlier | later
      · exact (before _ earlier).elim
      · rcases List.mem_cons.mp later with call | rest
        · cases call
        · exact (after _ rest).elim
  | heard =>
      cases List.mem_singleton.mp member
      exact ⟨rfl, rfl⟩

end PacketOutcome

namespace IpscMaster

theorem sendPeerList_sends (digests : Digests) (cfg : Config) (host : String) (port : UInt16)
    (master : IpscMaster) :
    ∀ output ∈ master.sendPeerList digests cfg host port, output.IsSend := by
  have sent := ipscSend_sends digests cfg
  unfold sendPeerList
  split
  · split
    · simp
    · exact sent _ _ _ _
  · simp

/-- The replies to a registration request are packets. -/
theorem regReplies_sends (digests : Digests) (cfg : Config) (transport : Bool) (host : String)
    (port : UInt16) (after : IpscMaster) :
    ∀ output ∈ ipscSend digests cfg transport (masterRegReplyPacket cfg) host port ++
      after.sendPeerList digests cfg host port, output.IsSend := by
  intro output member
  rcases List.mem_append.mp member with reply | entry
  · exact ipscSend_sends _ _ _ _ _ _ _ reply
  · exact sendPeerList_sends _ _ _ _ _ _ entry

/-- A registration request is refused, renewed or reported. -/
theorem onRegReq_outcome (digests : Digests) (cfg : Config) {payload : Bytes} (host : String)
    (port : UInt16) (now : Time) (master : IpscMaster) (first : payload[0]? = some masterRegReq) :
    PacketOutcome payload none (master.registersFirst cfg payload host)
      (master.onRegReq digests cfg payload host port now).2 := by
  have known : master.registersFirst cfg payload host = (decide (10 ≤ payload.length) &&
      !master.rejectsReg cfg (payload.extract 1 5) host && !master.registered) := by
    rw [registersFirst, decide_eq_true first, Bool.true_and]
  rw [known]
  unfold onRegReq
  by_cases short : payload.length < 10
  · rw [if_pos short, decide_eq_false (Nat.not_le.mpr short)]
    exact .nothing
  rw [if_neg short, decide_eq_true (Nat.not_lt.mp short), Bool.true_and]
  dsimp only
  cases master.rejectsReg cfg (payload.extract 1 5) host with
  | true => exact .nothing
  | false =>
      cases master.registered with
      | true =>
          rw [if_neg Bool.false_ne_true, if_pos rfl, List.append_nil]
          exact .sends (regReplies_sends _ _ _ _ _ _)
      | false => exact .registered (regReplies_sends _ _ _ _ _ _) (by simp) _ _ _

/-- A voice packet of the registered peer is handed on. -/
theorem onGroupVoice_outcome {payload : Bytes} (host : String) (port : UInt16) (now : Time)
    (master : IpscMaster) (first : payload[0]? = some groupVoice) :
    PacketOutcome payload (master.heard payload host port) false
      (master.onGroupVoice payload host port now).2 := by
  unfold onGroupVoice
  split_ifs with other
  · have unheard : master.heard payload host port = none := by
      unfold heard
      rw [if_neg]
      intro hears
      simp only [Bool.and_eq_true, decide_eq_true_eq] at hears
      simp [hears.1.1.2, hears.1.2, hears.2] at other
    rw [unheard]
    exact .nothing
  · simp only [Bool.or_eq_true, Bool.not_eq_true', decide_eq_true_eq, not_or, not_not,
      Bool.not_eq_false] at other
    obtain ⟨⟨registered, sameIp⟩, samePort⟩ := other
    have heard : master.heard payload host port = (parseGroupVoiceMeta payload).toOption := by
      simp [heard, first, registered, sameIp, samePort]
    rw [heard]
    cases parseGroupVoiceMeta payload with
    | error => exact .nothing
    | ok found => exact .heard found.1 found.2

/-- What the master does on a packet. -/
theorem dispatch_outcome (digests : Digests) (cfg : Config) {payload : Bytes} {opcode : UInt8}
    (host : String) (port : UInt16) (now : Time) (master : IpscMaster)
    (first : payload[0]? = some opcode) :
    PacketOutcome payload (master.heard payload host port) (master.registersFirst cfg payload host)
      (master.dispatch digests cfg payload opcode host port now).2 := by
  have deaf (other : opcode ≠ groupVoice) : master.heard payload host port = none := by
    simp [heard, first, other]
  have known (other : opcode ≠ masterRegReq) : master.registersFirst cfg payload host = false := by
    simp [registersFirst, first, other]
  unfold dispatch
  split_ifs with regReq aliveReq listReq bye voice
  · subst regReq
    rw [deaf (by decide)]
    exact onRegReq_outcome digests cfg host port now master first
  · subst aliveReq
    rw [deaf (by decide), known (by decide)]
    unfold onAliveReq
    split_ifs
    · exact .sends (ipscSend_sends _ _ _ _ _ _)
    · exact .nothing
  · subst listReq
    rw [deaf (by decide), known (by decide)]
    unfold onPeerListReq
    simp only
    split_ifs
    · exact .sends (sendPeerList_sends _ _ _ _ _)
    · exact .nothing
  · subst bye
    rw [deaf (by decide), known (by decide)]
    unfold onDeRegReq
    split_ifs
    · exact .lost (ipscSend_sends _ _ _ _ _ _)
    · exact .nothing
  · subst voice
    rw [known (by decide)]
    exact onGroupVoice_outcome host port now master first
  · rw [deaf voice, known regReq]
    exact .nothing

end IpscMaster

namespace IpscPeer

theorem sendToMaster_sends (digests : Digests) (cfg : Config) (packet : Bytes)
    (useConfiguredPort : Bool) (peer : IpscPeer) :
    ∀ output ∈ peer.sendToMaster digests cfg packet useConfiguredPort, output.IsSend :=
  ipscSend_sends _ _ _ _ _ _

theorem onPeerListReply_silent (cfg : Config) (payload : Bytes) (host : String) (port : UInt16)
    (now : Time) (peer : IpscPeer) : (peer.onPeerListReply cfg payload host port now).2 = [] := by
  unfold onPeerListReply
  by_cases short : payload.length < 7
  · rw [if_pos short]
  · rw [if_neg short]
    dsimp only
    split <;> rfl

/-- The first registration reply is reported. -/
theorem onMasterRegReply_outcome (digests : Digests) (cfg : Config) (payload : Bytes) (host : String)
    (port : UInt16) (now : Time) (peer : IpscPeer) :
    PacketOutcome payload none
      (16 ≤ payload.length && !peer.registered && !peer.masterRegReported)
      (peer.onMasterRegReply digests cfg payload host port now).2 := by
  have asks := sendToMaster_sends digests cfg
  unfold onMasterRegReply
  by_cases short : payload.length < 16
  · rw [if_pos short, decide_eq_false (Nat.not_le.mpr short)]
    exact .nothing
  · rw [if_neg short, decide_eq_true (Nat.not_lt.mp short), Bool.true_and]
    cases !peer.registered && !peer.masterRegReported with
    | true =>
        have none : ∀ output ∈ ([] : List IpscOutput), output.IsSend := by simp
        exact .registered none (asks _ _ _) _ _ _
    | false => exact .sends (asks _ _ _)

/-- The loss of the registration is reported. -/
theorem clearMasterRegistration_outcome (payload : Bytes) (peer : IpscPeer) :
    PacketOutcome payload none false peer.clearMasterRegistration.2 := by
  unfold clearMasterRegistration
  split
  · have none : ∀ output ∈ ([] : List IpscOutput), output.IsSend := by simp
    exact .lost none
  · exact .nothing

/-- A packet that is ascribed to the master or to a peer is handed on or answered. -/
theorem dispatch_outcome (digests : Digests) (cfg : Config) (payload : Bytes) (opcode : UInt8)
    (host : String) (port : UInt16) (now : Time) (isMaster : Bool) (sender : Option PeerEntry)
    (peer : IpscPeer) :
    PacketOutcome payload
      (if opcode = groupVoice && peer.registered && (isMaster || sender.isSome) then
        (parseGroupVoiceMeta payload).toOption else none)
      (opcode = masterRegReply && isMaster && 16 ≤ payload.length && !peer.registered &&
        !peer.masterRegReported)
      (peer.dispatch digests cfg payload opcode host port now isMaster sender).2 := by
  have asks (useConfiguredPort : Bool) (packet : Bytes) (peer : IpscPeer) :=
    sendToMaster_sends digests cfg packet useConfiguredPort peer
  unfold dispatch
  by_cases regReply : opcode = masterRegReply
  · subst regReply
    rw [if_pos rfl, decide_eq_false (by decide : ¬ masterRegReply = groupVoice)]
    cases isMaster with
    | false => exact .nothing
    | true =>
        simp only [Bool.false_and, Bool.false_eq_true, if_false, if_true, decide_true, Bool.true_and]
        exact onMasterRegReply_outcome digests cfg payload host port now peer
  rw [if_neg regReply, decide_eq_false regReply]
  simp only [Bool.false_and]
  by_cases aliveReply : opcode = masterAliveReply
  · subst aliveReply
    rw [if_pos rfl, decide_eq_false (by decide : ¬ masterAliveReply = groupVoice)]
    cases isMaster with
    | false => exact .nothing
    | true =>
        simp only [Bool.false_and, Bool.false_eq_true, if_false, if_true]
        unfold onMasterAliveReply
        simp only
        split
        · exact .nothing
        · exact .sends (asks _ _ _)
  rw [if_neg aliveReply]
  by_cases listReply : opcode = peerListReply
  · subst listReply
    rw [if_pos rfl, decide_eq_false (by decide : ¬ peerListReply = groupVoice)]
    cases isMaster with
    | false => exact .nothing
    | true =>
        simp only [Bool.false_and, Bool.false_eq_true, if_false, if_true]
        rw [onPeerListReply_silent]
        exact .nothing
  rw [if_neg listReply]
  by_cases voice : opcode = groupVoice
  · subst voice
    rw [if_pos rfl, decide_eq_true rfl, Bool.true_and]
    split
    · unfold onGroupVoice
      cases parseGroupVoiceMeta payload with
      | error => exact .nothing
      | ok found => exact .heard found.1 found.2
    · exact .nothing
  rw [if_neg voice, decide_eq_false voice]
  simp only [Bool.false_and, Bool.false_eq_true, if_false]
  by_cases bye : (opcode = deRegReq || opcode = deRegReply) = true
  · rw [if_pos bye]
    cases isMaster with
    | true =>
        simp only [if_true]
        exact clearMasterRegistration_outcome payload peer
    | false =>
        cases sender with
        | none => exact .nothing
        | some entry =>
            simp only [Bool.false_eq_true, if_false]
            split
            · exact .sends (ipscSend_sends _ _ _ _ _ _)
            · exact .nothing
  rw [if_neg bye]
  cases sender with
  | none => exact .nothing
  | some entry =>
      simp only
      split_ifs
      · exact .sends (ipscSend_sends _ _ _ _ _ _)
      · exact .nothing
      · exact .sends (ipscSend_sends _ _ _ _ _ _)
      · exact .nothing
      · exact .nothing

/-- Accepting a sender keeps the registration. -/
theorem acceptOrGetPeer_registered (cfg : Config) (srcId : Nat) (host : String) (port : UInt16)
    (opcode : UInt8) (now : Time) (peer : IpscPeer) :
    (peer.acceptOrGetPeer cfg srcId host port opcode now).2.registered = peer.registered := by
  unfold acceptOrGetPeer
  split
  · rfl
  · split
    · rfl
    · split_ifs <;> rfl

/-- The sender of a voice packet is accepted when its ID is listed or may be unlisted. -/
theorem acceptOrGetPeer_voice (cfg : Config) (srcId : Nat) (host : String) (port : UInt16)
    (now : Time) (peer : IpscPeer) :
    (peer.acceptOrGetPeer cfg srcId host port groupVoice now).1.isSome =
      (srcId ≠ 0 && ((peer.getPeer srcId).isSome || cfg.ipscPeerListAllowUnknown)) := by
  unfold acceptOrGetPeer
  by_cases zero : srcId = 0
  · simp [zero]
  · rw [if_neg zero]
    cases peer.getPeer srcId with
    | some entry => simp [zero]
    | none =>
        cases cfg.ipscPeerListAllowUnknown with
        | false => simp
        | true =>
            have accepted : groupVoice ∈ peerOpcodes := by decide
            simp [zero, accepted]

/-- What a peer does on a packet. -/
theorem payloadReceived_outcome (digests : Digests) (cfg : Config) {payload : Bytes} {opcode : UInt8}
    (host : String) (port : UInt16) (now : Time) (peer : IpscPeer)
    (first : payload[0]? = some opcode) :
    PacketOutcome payload (peer.heard cfg payload host) (peer.registersFirst cfg payload host)
      (peer.payloadReceived digests cfg payload opcode host port now).2 := by
  unfold payloadReceived
  by_cases own : safePeerId payload = cfg.ipscPeerId
  · have unheard : peer.heard cfg payload host = none := by simp [heard, own]
    have known : peer.registersFirst cfg payload host = false := by simp [registersFirst, own]
    rw [if_pos own, unheard, known]
    exact .nothing
  rw [if_neg own]
  cases isMaster : peer.isMasterSource cfg (safePeerId payload) host opcode with
  | true =>
      have outcome := dispatch_outcome digests cfg payload opcode host port now true none
        (peer.touchMaster (safePeerId payload) host port now)
      convert outcome using 1
      · by_cases voice : opcode = groupVoice
        · subst voice
          simp [heard, first, own, isMaster, touchMaster]
        · simp [heard, first, voice]
      · by_cases reply : opcode = masterRegReply
        · subst reply
          simp [registersFirst, first, own, isMaster, touchMaster]
        · simp [registersFirst, first, reply]
      · rfl
  | false =>
      have known : peer.registersFirst cfg payload host = false := by
        by_cases reply : opcode = masterRegReply
        · subst reply
          simp [registersFirst, isMaster]
        · simp [registersFirst, first, reply]
      have hears : peer.heard cfg payload host =
          if opcode = groupVoice && peer.registered &&
              (peer.acceptOrGetPeer cfg (safePeerId payload) host port opcode now).1.isSome then
            (parseGroupVoiceMeta payload).toOption else none := by
        by_cases voice : opcode = groupVoice
        · subst voice
          simp [heard, first, own, isMaster, acceptOrGetPeer_voice]
        · simp [heard, first, voice]
      have registered := acceptOrGetPeer_registered cfg (safePeerId payload) host port opcode now peer
      rw [known, hears]
      generalize peer.acceptOrGetPeer cfg (safePeerId payload) host port opcode now = found at registered
      rcases found with ⟨sender, after⟩
      simp only [Bool.false_eq_true, if_false, Bool.not_false, Bool.true_and]
      cases sender with
      | none =>
          simp only [Option.isSome_none, Bool.and_false, Bool.false_eq_true, if_false]
          split
          · exact .nothing
          · have outcome := dispatch_outcome digests cfg payload opcode host port now false none after
            simpa using outcome
      | some entry =>
          have outcome := dispatch_outcome digests cfg payload opcode host port now false (some entry)
            (after.touchPeer entry.peerId host port now)
          have same : (after.touchPeer entry.peerId host port now).registered = peer.registered :=
            registered
          rw [same] at outcome
          simpa using outcome

end IpscPeer

theorem checkedPayload_whole {digests : Digests} {cfg : Config} {data payload : Bytes}
    (checked : checkedPayload digests cfg data = some payload) : payload ≠ [] := by
  intro empty
  rw [empty] at checked
  simp [checkedPayload] at checked

/-- What a stack does on a packet that passes the checks of both `datagram_received`. -/
theorem IpscStack.datagram_outcome (digests : Digests) (cfg : Config) {data payload : Bytes} {addr : Addr}
    {host : String} {port : UInt16} (now : Time) (stack : IpscStack)
    (pair : addr.unpack = .ok (host, port)) (checked : checkedPayload digests cfg data = some payload) :
    PacketOutcome payload (stack.heard cfg payload host port) (stack.registersFirst cfg payload host)
      (stack.step digests cfg (.datagramReceived data addr now)).2 := by
  obtain ⟨opcode, rest, rfl⟩ := List.exists_cons_of_ne_nil (checkedPayload_whole checked)
  have first : (opcode :: rest)[0]? = some opcode := rfl
  cases stack with
  | master master =>
      have outcome := master.dispatch_outcome digests cfg host port now first
      simp only [step, IpscMaster.step, IpscMaster.datagramReceived, pair, checked, first]
      exact outcome
  | peer peer =>
      have outcome := peer.payloadReceived_outcome digests cfg host port now first
      simp only [step, IpscPeer.step, IpscPeer.datagramReceived, pair, checked, first]
      exact outcome

/-- The log of a callback that ends without an exception. -/
def ReturnsNormally (log : List BridgeOutput) : Prop := ∀ output ∈ log, output.isRaised = false

instance (log : List BridgeOutput) : Decidable (ReturnsNormally log) :=
  inferInstanceAs (Decidable (∀ output ∈ log, output.isRaised = false))

theorem returnsNormally_iff (log : List BridgeOutput) :
    ReturnsNormally log ↔ log.any BridgeOutput.isRaised = false := by
  simp [ReturnsNormally]

/-- The IPSC datagrams that end in an exception: from a sender of IPv6, a heard voice packet without
its mark, a heard header whose first copy meets a socket error, and the first registration before the
HBP client has been started. -/
inductive IpscFails (digests : Digests) (cfg : Config) (fails : Nat → Bool) (state : Bridge)
    (data : Bytes) (addr : Addr) (clock : Clock) : Prop
  | address {err : PyErr} (refused : addr.unpack = .error err)
  | voice {host : String} {port : UInt16} {payload : Bytes} {ts : Timeslot} {burstType : UInt8}
      (pair : addr.unpack = .ok (host, port)) (checked : checkedPayload digests cfg data = some payload)
      (heard : state.ipsc.heard cfg payload host port = some (ts, burstType))
      (missing : MarkMissing cfg state.core.client.isConnected payload burstType clock
        (state.core.translator.slot ts))
  | header {host : String} {port : UInt16} {payload : Bytes} {ts : Timeslot} {burstType : UInt8}
      (pair : addr.unpack = .ok (host, port)) (checked : checkedPayload digests cfg data = some payload)
      (heard : state.ipsc.heard cfg payload host port = some (ts, burstType))
      (failed : HeadFails cfg fails state.core.client payload burstType clock
        (state.core.translator.slot ts))
  | registration {host : String} {port : UInt16} {payload : Bytes}
      (pair : addr.unpack = .ok (host, port)) (checked : checkedPayload digests cfg data = some payload)
      (first : state.ipsc.registersFirst cfg payload host = true) (tracking : cfg.hbpMode = .tracking)
      (early : state.core.client.NotStarted)

namespace Fallible

theorem onRptack_plain (digests : Digests) (cfg : Config) (failed : Bool) (data : Bytes) (now : Time)
    (proto : HbpProtocol) (err : PyErr) :
    .raised err ∉ (onRptack digests cfg failed data now proto).2 := by
  have raw (bytes : Bytes) : .raised err ∉ (sendRaw cfg failed bytes proto).2 := fun member => by
    rcases sendRaw_outputs cfg proto failed member with same | same <;> cases same
  unfold onRptack
  cases proto.state with
  | login =>
      simp only
      split
      · simp
      · exact raw _
  | authSent => exact raw _
  | configSent =>
      simp only
      split
      · exact raw _
      · simp [HbpProtocol.becomeConnected]
  | optionsSent => simp [HbpProtocol.becomeConnected]
  | connected | disconnected => simp

theorem datagramReceived_plain (digests : Digests) (cfg : Config) (failed : Bool) (data : Bytes)
    (now : Time) (proto : HbpProtocol) (err : PyErr) :
    .raised err ∉ (datagramReceived digests cfg failed data now proto).2 := by
  have closed : .raised err ∉ (proto.disconnect cfg false).2 := by simp [HbpProtocol.disconnect]
  unfold datagramReceived
  split
  case isTrue => exact onRptack_plain digests cfg failed data now proto err
  case isFalse other =>
    unfold HbpProtocol.datagramReceived
    rw [if_neg other]
    split_ifs
    · simp
    · exact closed
    · simp
    · exact closed
    · simp
    · simp
    · simp

/-- The calls of the translator decide whether a packet ends in an exception. -/
theorem deliver_outcome_raised (digests : Digests) (dmr : DmrUtils) (cfg : Config) (fails : Nat → Bool)
    (urandom : StreamId) (clock : Clock) (ipsc : IpscStack) (core : Core) {payload : Bytes}
    {heard : Option (Timeslot × UInt8)} {first : Bool} {outputs : List IpscOutput}
    (outcome : PacketOutcome payload heard first outputs) :
    (deliver digests dmr cfg fails urandom clock ipsc core outputs).2.any BridgeOutput.isRaised = true ↔
      (∃ ts burstType, heard = some (ts, burstType) ∧
        (MarkMissing cfg core.client.isConnected payload burstType clock (core.translator.slot ts) ∨
          HeadFails cfg fails core.client payload burstType clock (core.translator.slot ts))) ∨
      (first = true ∧ cfg.hbpMode = .tracking ∧ core.client.NotStarted) := by
  cases outcome with
  | sends sent =>
      rw [deliver_sends_raised _ _ _ _ _ _ _ _ sent]
      simp
  | lost sent =>
      rw [deliver_call_raised _ _ _ _ _ _ _ _ sent (by simp)]
      have quiet : answerRaises dmr cfg fails urandom clock core .peerLost = false :=
        translate_peerLost_raised dmr cfg (fails 0) core
      simp [quiet]
  | registered before after peerId host port =>
      rw [deliver_call_raised _ _ _ _ _ _ _ _ before after]
      have raised := translate_peerRegistered_raised dmr cfg (fails 0) core
      have answer : answerRaises dmr cfg fails urandom clock core (.peerRegistered peerId host port) =
          (translate dmr cfg (fails 0) .peerRegistered core).2.any CoreOutput.isRaised := rfl
      rw [answer, raised]
      simp
  | heard ts burstType =>
      have none : ∀ output ∈ ([] : List IpscOutput), output.IsSend := by simp
      have called := deliver_call_raised digests dmr cfg fails urandom clock ipsc core none none
        (.ipscVoiceReceived payload ts burstType)
      have raised := ipscVoiceReceived_raised dmr cfg fails payload ts burstType urandom clock core
      have answer : answerRaises dmr cfg fails urandom clock core
          (.ipscVoiceReceived payload ts burstType) =
          (ipscVoiceReceived dmr cfg fails payload ts burstType urandom clock core).2.any
            CoreOutput.isRaised := rfl
      rw [List.nil_append] at called
      rw [called, answer, raised]
      simp

/-- An IPSC datagram returns normally exactly when it is none of the four kinds. -/
theorem ipscDatagram_returns_iff (digests : Digests) (dmr : DmrUtils) (cfg : Config)
    (fails : Nat → Bool) (state : Bridge) (data : Bytes) (addr : Addr) (now : Time)
    (urandom : StreamId) (clock : Clock) :
    ReturnsNormally (step digests dmr cfg state
        (.ipsc (.datagramReceived data addr now) urandom clock) fails).2 ↔
      ¬ IpscFails digests cfg fails state data addr clock := by
  rw [returnsNormally_iff, ← Bool.not_eq_true, not_iff_not]
  simp only [step]
  cases pair : addr.unpack with
  | error err =>
      have refused : (state.ipsc.step digests cfg (.datagramReceived data addr now)).2 =
          [.raised err] := by
        cases state.ipsc with
        | master => simp only [IpscStack.step, IpscMaster.step, IpscMaster.datagramReceived, pair]
        | peer => simp only [IpscStack.step, IpscPeer.step, IpscPeer.datagramReceived, pair]
      rw [refused]
      exact ⟨fun _ => .address pair, fun _ => rfl⟩
  | ok sender =>
      rcases sender with ⟨host, port⟩
      cases checked : checkedPayload digests cfg data with
      | none =>
          have silent : (state.ipsc.step digests cfg (.datagramReceived data addr now)).2 = [] := by
            cases state.ipsc with
            | master =>
                simp only [IpscStack.step, IpscMaster.step, IpscMaster.datagramReceived, pair, checked]
            | peer =>
                simp only [IpscStack.step, IpscPeer.step, IpscPeer.datagramReceived, pair, checked]
          rw [silent]
          constructor
          · intro raised
            cases raised
          · intro fails
            cases fails with
            | address refused => simp [pair] at refused
            | voice _ some | header _ some | registration _ some => simp [checked] at some
      | some payload =>
          have outcome := state.ipsc.datagram_outcome digests cfg now pair checked
          rw [deliver_outcome_raised _ _ _ _ _ _ _ _ outcome]
          constructor
          · rintro (⟨ts, burstType, heard, missing | failed⟩ | ⟨first, tracking, early⟩)
            · exact .voice pair checked heard missing
            · exact .header pair checked heard failed
            · exact .registration pair checked first tracking early
          · intro fails
            cases fails with
            | address refused => simp [pair] at refused
            | voice samePair some heard missing =>
                obtain ⟨rfl, rfl⟩ := Prod.mk.inj (Except.ok.inj (pair.symm.trans samePair))
                obtain rfl := Option.some.inj (checked.symm.trans some)
                exact .inl ⟨_, _, heard, .inl missing⟩
            | header samePair some heard failed =>
                obtain ⟨rfl, rfl⟩ := Prod.mk.inj (Except.ok.inj (pair.symm.trans samePair))
                obtain rfl := Option.some.inj (checked.symm.trans some)
                exact .inl ⟨_, _, heard, .inr failed⟩
            | registration samePair some first tracking early =>
                obtain ⟨rfl, rfl⟩ := Prod.mk.inj (Except.ok.inj (pair.symm.trans samePair))
                obtain rfl := Option.some.inj (checked.symm.trans some)
                exact .inr ⟨first, tracking, early⟩

/-- The translator raises nothing on what the HBP stack hands to it. -/
theorem notify_raised {dmr : DmrUtils} (documented : dmr.Documented) (cfg : Config) (registered : Bool)
    (draw : RtpDraw) (clock : Clock) (core : Core) (outputs : List HbpOutput) (session : Nat) :
    (Core.notify dmr cfg registered draw clock core outputs).2.any CoreOutput.isRaised =
      outputs.any fun output => (CoreOutput.hbp session output).isRaised := by
  induction outputs generalizing core with
  | nil => rfl
  | cons output rest ih =>
      have voice (dmrd : Bytes) :=
        core.translate_hbpVoice_raised documented cfg registered dmrd draw clock
      have gone : (core.translate dmr cfg .hbpDisconnected).2.any CoreOutput.isRaised = false := rfl
      simp only [Core.notify, List.any_cons, List.any_append, ih]
      cases output with
      | send | sendDmrd | hbpConnected | raised =>
          simp only [Core.callback, List.any_nil, Bool.false_or]
          rfl
      | hbpDisconnected =>
          simp only [Core.callback, gone, Bool.false_or]
          rfl
      | hbpVoiceReceived dmrd =>
          simp only [Core.callback, voice, Bool.false_or]
          rfl

/-- Every HBP datagram returns normally. -/
theorem hbpDatagram_returns (digests : Digests) {dmr : DmrUtils} (documented : dmr.Documented)
    (cfg : Config) (fails : Nat → Bool) (state : Bridge) (data : Bytes) (now : Time) (draw : RtpDraw)
    (clock : Clock) :
    ReturnsNormally (step digests dmr cfg state (.hbp (.datagramReceived data now) draw clock)
      fails).2 := by
  rw [returnsNormally_iff]
  simp only [step]
  rw [Bridge.forward_raised, notify_raised documented _ _ _ _ _ _ 0, List.any_eq_false]
  intro output member raised
  have plain : ∀ err, output ≠ .raised err := by
    rintro err rfl
    simp only [clientStep, HbpClient.onProtocol] at member
    split at member
    · cases member
    · simp only at member
      split at member
      · exact datagramReceived_plain digests cfg _ data now _ err member
      · cases member
  cases output with
  | raised err => exact plain err rfl
  | send | sendDmrd | hbpConnected | hbpDisconnected | hbpVoiceReceived => cases raised

end Fallible

/-- A datagram that comes in on either side. -/
def IsDatagram : BridgeEvent → Prop
  | .ipsc (.datagramReceived ..) .. | .hbp (.datagramReceived ..) .. => True
  | _ => False

/-- The datagrams that end in an exception come from IPSC. -/
def DatagramFails (digests : Digests) (cfg : Config) (state : Bridge) :
    BridgeEvent × (Nat → Bool) → Prop
  | (.ipsc (.datagramReceived data addr _) _ clock, fails) =>
      IpscFails digests cfg fails state data addr clock
  | _ => False

/-- In every run, the callback of a datagram returns normally exactly when the datagram is not of the
four kinds that end in an exception. -/
theorem datagrams_return_iff (digests : Digests) {dmr : DmrUtils} (documented : dmr.Documented)
    (cfg : Config) (events : List (BridgeEvent × (Nat → Bool))) :
    (fallibleBridge digests dmr cfg).Meets (fun _ state input => IsDatagram input.1 →
      (ReturnsNormally ((fallibleBridge digests dmr cfg).step state input).2 ↔
        ¬ DatagramFails digests cfg state input)) [] (Bridge.initial cfg) events := by
  refine (fallibleBridge digests dmr cfg).meets_of_forall _ (fun _ state input datagram => ?_) ..
  obtain ⟨event, fails⟩ := input
  cases event with
  | drain => exact datagram.elim
  | ipsc event urandom clock =>
      cases event with
      | connectionMade | watchdog | maintenance => exact datagram.elim
      | datagramReceived data addr now =>
          exact Fallible.ipscDatagram_returns_iff digests dmr cfg fails state data addr now urandom clock
  | hbp event draw clock =>
      cases event with
      | start | loopTop | endpointCreated | endpointFailed | doneWaited | connectionLost
      | errorReceived | keepalive => exact datagram.elim
      | datagramReceived data now =>
          have returns := Fallible.hbpDatagram_returns digests documented cfg fails state data now draw
            clock
          exact ⟨fun _ fails => fails, fun _ => returns⟩

/-- A datagram of the repeater. -/
def peerSends (data : Bytes) (time : Time) : BridgeEvent :=
  .ipsc (.datagramReceived data (.inet "10.0.0.2" 50000) time) firstDraw fun _ => time

/-- A callback of the HBP client. -/
def clientEvent (event : HbpEvent) (time : Time) : BridgeEvent := .hbp event rtpDraw fun _ => time

/-- The repeater registers, and the client logs in at the master. -/
def loginRun : List BridgeEvent :=
  [.ipsc .connectionMade firstDraw fun _ => 0, clientEvent .start 0,
    peerSends ([masterRegReq] ++ List.replicate 9 0) 1, clientEvent .loopTop 2,
    clientEvent .endpointCreated 3] ++
    List.replicate 3 (clientEvent (.datagramReceived (hbpfRptack ++ [1, 2, 3, 4]) 4) 4)

/-- A run in which every send succeeds. -/
def allSent (events : List BridgeEvent) : List (BridgeEvent × (Nat → Bool)) :=
  events.map fun event => (event, fun _ => false)

theorem datagrams_return_iff_login :
    (fallibleBridge loginDigests dmrCodec {}).Meets (fun _ state input => IsDatagram input.1 →
      (ReturnsNormally ((fallibleBridge loginDigests dmrCodec {}).step state input).2 ↔
        ¬ DatagramFails loginDigests {} state input)) [] (Bridge.initial {}) (allSent loginRun) :=
  datagrams_return_iff loginDigests dmrCodec_documented {} (allSent loginRun)

/-- A voice packet that ends with its burst type. -/
def shortVoice : Bytes := [groupVoice] ++ List.replicate 29 0 ++ [slot1Voice]

/-- In MASTER mode a voice packet without its mark ends in an exception. -/
theorem datagrams_return_shortVoice :
    let state := ((fallibleBridge loginDigests dmrCodec {}).run (Bridge.initial {})
      (allSent loginRun)).1
    state.ipsc.isPeerRegistered = true ∧ state.core.client.isConnected = true ∧
      ¬ ReturnsNormally (Fallible.step loginDigests dmrCodec {} state (peerSends shortVoice 5)
        fun _ => false).2 := by
  decide +kernel

/-- A VOICE_HEAD without an LC of its own. -/
def plainHead : Bytes := [groupVoice] ++ List.replicate 29 0 ++ [voiceHead]

/-- In the legacy flow a header whose first copy meets a socket error ends in an exception. -/
example :
    let cfg : Config := { compatPacketFlow := .legacyAmbe }
    let state := ((fallibleBridge loginDigests dmrCodec cfg).run (Bridge.initial cfg)
      (allSent loginRun)).1
    ¬ ReturnsNormally (Fallible.step loginDigests dmrCodec cfg state (peerSends plainHead 5)
        fun index => index = 0).2 ∧
      ReturnsNormally (Fallible.step loginDigests dmrCodec cfg state (peerSends plainHead 5)
        fun index => index = 1).2 := by
  decide +kernel

end Ipsc2Hbp
