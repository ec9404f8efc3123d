import Ipsc2Hbp.Proof.CallRecords
import Ipsc2Hbp.Proof.LockTest

namespace Ipsc2Hbp
open BigEndian

/-- The frame that a callback brings through the call lock. -/
def SlotEvent.letIn (cfg : Config) (slot : Slot) : SlotEvent → Option HbpFrame
  | .hbpFrame frame _ clock =>
      if ((hbpLockPacket frame clock).test cfg { slot with inCall.lastPkt := clock 0 }).1 then none
      else some frame
  | .ipscVoice .. | .drain _ | .checkCallTimeouts .. | .peerLost | .hbpDisconnected => none

/-- The frame of a callback opens an HBP call: a header that repeats no call, or in the packet flow
voice without a call. -/
def SlotEvent.Opens (cfg : Config) (slot : Slot) : SlotEvent → Prop
  | .hbpFrame frame draw clock =>
      (SlotEvent.hbpFrame frame draw clock).letIn cfg slot = some frame ∧
        ((frame.isHead = true ∧ duplicateHead frame (clock 0) slot = false) ∨
          (frame.isHead = false ∧ frame.isTerm = false ∧ slot.inCall.lc = none ∧
            cfg.legacyFlow = false))
  | .ipscVoice .. | .drain _ | .checkCallTimeouts .. | .peerLost | .hbpDisconnected => False

/-- A frame is let in exactly when the lock does not reject it. -/
theorem SlotEvent.letIn_hbpFrame_iff (cfg : Config) (slot : Slot) (frame : HbpFrame)
    (draw : RtpDraw) (clock : Clock) :
    (SlotEvent.hbpFrame frame draw clock).letIn cfg slot = some frame ↔
      ¬ (SlotEvent.hbpFrame frame draw clock).Rejected cfg slot := by
  have rejected : (SlotEvent.hbpFrame frame draw clock).Rejected cfg slot ↔
      ((hbpLockPacket frame clock).test cfg { slot with inCall.lastPkt := clock 0 }).1 = true := by
    constructor
    · rintro ⟨packet, handed, blocked⟩
      obtain rfl := Option.some.inj handed
      exact blocked
    · exact fun blocked => ⟨_, rfl, blocked⟩
  rw [rejected]
  simp [letIn]

/-- The frame that is let in is the callback's own. -/
theorem SlotEvent.letIn_eq {cfg : Config} {slot : Slot} {part : SlotEvent} {frame : HbpFrame}
    (letIn : part.letIn cfg slot = some frame) :
    ∃ draw clock, part = .hbpFrame frame draw clock := by
  cases part with
  | hbpFrame other draw clock =>
      simp only [SlotEvent.letIn, Option.ite_none_left_eq_some, Option.some.injEq] at letIn
      exact ⟨draw, clock, by rw [letIn.2]⟩
  | ipscVoice | drain | checkCallTimeouts | peerLost | hbpDisconnected => cases letIn

/-- A frame that is let in acts on the slot under some lock. -/
theorem SlotEvent.letIn_outcome {cfg : Config} {slot : Slot} {frame : HbpFrame} {draw : RtpDraw}
    {clock : Clock} (letIn : (SlotEvent.hbpFrame frame draw clock).letIn cfg slot = some frame)
    (dmr : DmrUtils) (ts : Timeslot) (shared : Shared) :
    ∃ lock, HbpOutcome dmr cfg frame draw clock shared
      { slot with inCall.lastPkt := clock 0, lock := lock }
      (slotStep dmr cfg ts shared slot (.hbpFrame frame draw clock)) := by
  obtain ⟨blocked, lock, decided, -, received⟩ :=
    hbpFrameReceived_decided dmr cfg frame draw clock shared slot
  have passed : blocked = false := by
    have unblocked : ((hbpLockPacket frame clock).test cfg
        { slot with inCall.lastPkt := clock 0 }).1 = false := by
      simpa [SlotEvent.letIn] using letIn
    exact (congrArg Prod.fst decided).symm.trans unblocked
  refine ⟨lock, ?_⟩
  change HbpOutcome dmr cfg frame draw clock shared _
    (hbpFrameReceived dmr cfg frame draw clock shared slot)
  rw [received, passed]
  exact hbpAdmitted_cases ..

/-- A frame that opens a call records it on the slot as the lock has left it. -/
theorem slotStep_openHbpCall (dmr : DmrUtils) {cfg : Config} (ts : Timeslot) (shared : Shared)
    {slot : Slot} {frame : HbpFrame} {draw : RtpDraw} {clock : Clock}
    (opens : (SlotEvent.hbpFrame frame draw clock).Opens cfg slot) :
    let result := slotStep dmr cfg ts shared slot (.hbpFrame frame draw clock)
    ∃ lc lock, result.1 = (openHbpCall dmr frame lc draw (clock 0) shared
        { slot with inCall.lastPkt := clock 0, lock := lock }).1 ∧
      result.2.1.inCall.Continues (openHbpCall dmr frame lc draw (clock 0) shared
        { slot with inCall.lastPkt := clock 0, lock := lock }).2.inCall := by
  obtain ⟨letIn, way⟩ := opens
  obtain ⟨lock, outcome⟩ := SlotEvent.letIn_outcome letIn dmr ts shared
  generalize slotStep dmr cfg ts shared slot (.hbpFrame frame draw clock) = result at outcome
  have unended : frame.isTerm = false := by
    rcases way with ⟨head, -⟩ | ⟨-, notTerm, -⟩
    · exact HbpFrame.isTerm_of_isHead head
    · exact notTerm
  cases outcome with
  | foreignTerm dropped =>
      exact absurd (unended.symm.trans (legacyHbpStreamDrop_isTerm dropped)) Bool.false_ne_true
  | headMerged head duplicate =>
      rcases way with ⟨-, fresh⟩ | ⟨notHead, -⟩
      · exact absurd (fresh.symm.trans duplicate) Bool.false_ne_true
      · exact absurd (notHead.symm.trans head) Bool.false_ne_true
  | headOpened opened head fresh waits recorded =>
      subst recorded
      exact ⟨_, lock, rfl, .refl _⟩
  | headStarted opened head fresh atOnce recorded =>
      subst recorded
      exact ⟨_, lock, rfl, emitHbpIpscStart_continues ..⟩
  | endedSilent term | ended term => exact absurd (unended.symm.trans term) Bool.false_ne_true
  | voiceIgnored notHead notTerm closed legacy =>
      rcases way with ⟨head, -⟩ | ⟨-, -, -, flow⟩
      · exact absurd (notHead.symm.trans head) Bool.false_ne_true
      · exact absurd (flow.symm.trans legacy) Bool.false_ne_true
  | voiceContinued notHead notTerm opened =>
      rcases way with ⟨head, -⟩ | ⟨-, -, closed, -⟩
      · exact absurd (notHead.symm.trans head) Bool.false_ne_true
      · exact absurd closed (Option.isSome_iff_ne_none.mp opened)
  | voiceOpened opened notHead notTerm closed flow recorded =>
      subst recorded
      exact ⟨_, lock, rfl, continueVoice_continues ..⟩

/-- A frame that opens a call leaves it open under its own stream. -/
theorem slotStep_opens (dmr : DmrUtils) {cfg : Config} (ts : Timeslot) (shared : Shared)
    {slot : Slot} {frame : HbpFrame} {draw : RtpDraw} {clock : Clock}
    (opens : (SlotEvent.hbpFrame frame draw clock).Opens cfg slot) :
    let after := (slotStep dmr cfg ts shared slot (.hbpFrame frame draw clock)).2.1.inCall
    after.lc.isSome = true ∧ after.hbpStream = some frame.stream ∧
      after.serial = slot.inCall.serial + 1 := by
  obtain ⟨lc, lock, -, rtpSeq, rtpTs, started, continued⟩ := slotStep_openHbpCall dmr ts shared opens
  simp only [continued]
  exact ⟨rfl, rfl, rfl⟩

/-- The record of the call is the same, or the call is over. -/
def InCall.KeptOrOver (after before : InCall) : Prop :=
  after.serial = before.serial ∧ (after.lc = none ∨
    (after.lc.isSome = before.lc.isSome ∧ after.hbpStream = before.hbpStream))

theorem InCall.KeptOrOver.of_eq {after before : InCall} (same : after = before) :
    after.KeptOrOver before := by
  subst same
  exact ⟨rfl, .inr ⟨rfl, rfl⟩⟩

/-- A timeout keeps the call or ends it. -/
theorem checkCallTimeouts_keptOrOver (cfg : Config) (timeout : Time) (clock : Clock) (ts : Timeslot)
    (slot : Slot) :
    (checkCallTimeouts cfg timeout clock ts slot).inCall.KeptOrOver slot.inCall := by
  rcases (checkCallTimeouts_frame cfg timeout clock ts slot).2 with same | reset
  · exact .of_eq same
  · rw [reset]
    exact ⟨rfl, .inl rfl⟩

/-- A frame that opens no call takes no stream byte, and keeps the call with its byte or ends it. -/
theorem hbpFrame_unopened (dmr : DmrUtils) {cfg : Config} (ts : Timeslot) (shared : Shared)
    {slot : Slot} {frame : HbpFrame} {draw : RtpDraw} {clock : Clock}
    (opensNot : ¬ (SlotEvent.hbpFrame frame draw clock).Opens cfg slot) :
    let result := slotStep dmr cfg ts shared slot (.hbpFrame frame draw clock)
    result.1 = shared ∧ result.2.1.inCall.KeptOrOver slot.inCall ∧
      (result.2.1.inCall.lc.isSome = true → result.2.1.inCall.streamId = slot.inCall.streamId) := by
  intro result
  by_cases letIn : (SlotEvent.hbpFrame frame draw clock).letIn cfg slot = some frame
  · obtain ⟨lock, outcome⟩ := SlotEvent.letIn_outcome letIn dmr ts shared
    change HbpOutcome dmr cfg frame draw clock shared _ result at outcome
    generalize result = result at outcome ⊢
    cases outcome with
    | foreignTerm | voiceIgnored => exact ⟨rfl, ⟨rfl, .inr ⟨rfl, rfl⟩⟩, fun _ => rfl⟩
    | headMerged head duplicate =>
        unfold duplicateHead at duplicate
        have opened : slot.inCall.lc.isSome = true := (Bool.and_eq_true_iff.mp duplicate).1
        exact ⟨rfl, ⟨rfl, .inr ⟨opened.symm, rfl⟩⟩, fun _ => rfl⟩
    | headOpened opened head fresh | headStarted opened head fresh =>
        exact absurd ⟨letIn, .inl ⟨head, fresh⟩⟩ opensNot
    | endedSilent => exact ⟨rfl, ⟨rfl, .inl rfl⟩, nofun⟩
    | ended =>
        have sent : (sendHbpTerm dmr cfg frame clock shared
            { slot with inCall.lastPkt := clock 0, lock := lock }).1.inCall.serial =
              slot.inCall.serial := by
          unfold sendHbpTerm
          rw [generatePacket_inCall]
          rfl
        exact ⟨rfl, ⟨sent, .inl rfl⟩, nofun⟩
    | voiceContinued notHead notTerm opened =>
        obtain ⟨rtpSeq, rtpTs, started, continued⟩ := continueVoice_continues dmr cfg frame clock
          shared { slot with inCall.lastPkt := clock 0, lock := lock }
        rw [continued]
        exact ⟨rfl, ⟨rfl, .inr ⟨rfl, rfl⟩⟩, fun _ => rfl⟩
    | voiceOpened opened notHead notTerm closed flow =>
        exact absurd ⟨letIn, .inr ⟨notHead, notTerm, closed, flow⟩⟩ opensNot
  · have rejected : (SlotEvent.hbpFrame frame draw clock).Rejected cfg slot := by
      rwa [SlotEvent.letIn_hbpFrame_iff, not_not] at letIn
    obtain ⟨packet, handed, blocked⟩ := rejected
    obtain rfl := Option.some.inj handed
    obtain ⟨answered, lock, decided, -, received⟩ :=
      hbpFrameReceived_decided dmr cfg frame draw clock shared slot
    have answer : answered = true := (congrArg Prod.fst decided).symm.trans blocked
    have left : result = (shared, { slot with inCall.lastPkt := clock 0, lock := lock }, []) := by
      rw [show result = hbpFrameReceived dmr cfg frame draw clock shared slot from rfl, received,
        answer, if_pos rfl]
    rw [left]
    exact ⟨rfl, ⟨rfl, .inr ⟨rfl, rfl⟩⟩, fun _ => rfl⟩

/-- Every step that opens no call takes no stream byte, and keeps the call with its byte or ends it. -/
theorem slotStep_unopened (dmr : DmrUtils) {cfg : Config} (ts : Timeslot) (shared : Shared)
    {slot : Slot} {part : SlotEvent} (opensNot : ¬ part.Opens cfg slot) :
    let result := slotStep dmr cfg ts shared slot part
    result.1.inStreamCtr = shared.inStreamCtr ∧ result.2.1.inCall.KeptOrOver slot.inCall ∧
      (result.2.1.inCall.lc.isSome = true → result.2.1.inCall.streamId = slot.inCall.streamId) := by
  intro result
  have unmoved (counted : result.1.inStreamCtr = shared.inStreamCtr)
      (same : result.2.1.inCall = slot.inCall) :
      result.1.inStreamCtr = shared.inStreamCtr ∧ result.2.1.inCall.KeptOrOver slot.inCall ∧
        (result.2.1.inCall.lc.isSome = true →
          result.2.1.inCall.streamId = slot.inCall.streamId) :=
    ⟨counted, .of_eq same, fun _ => by rw [same]⟩
  cases part with
  | ipscVoice connected data burstType urandom clock =>
      refine unmoved ?_ (ipscVoiceReceived_inbound dmr cfg connected data ts burstType urandom clock
        shared slot).1
      rcases ipscVoiceReceived_shared dmr cfg connected data ts burstType urandom clock shared slot
        with same | ⟨seq, counted⟩
      · exact congrArg Shared.inStreamCtr same
      · refine (congrArg Shared.inStreamCtr counted).trans ?_
        unfold Shared.learn
        split <;> rfl
  | hbpFrame frame draw clock =>
      obtain ⟨same, kept, byte⟩ := hbpFrame_unopened dmr ts shared opensNot
      exact ⟨congrArg Shared.inStreamCtr same, kept, byte⟩
  | drain clock => exact unmoved rfl (drainHbpToIpscQueue_cases cfg clock slot).inCall
  | checkCallTimeouts timeout clock =>
      refine ⟨rfl, checkCallTimeouts_keptOrOver cfg timeout clock ts slot, ?_⟩
      rcases (checkCallTimeouts_frame cfg timeout clock ts slot).2 with same | reset
      · exact fun _ => congrArg InCall.streamId same
      · exact fun _ => (congrArg InCall.streamId reset).trans rfl
  | peerLost | hbpDisconnected => exact ⟨rfl, ⟨rfl, .inl rfl⟩, nofun⟩

/-- Every step that opens no call keeps the call or ends it. -/
theorem slotStep_keptOrOver (dmr : DmrUtils) {cfg : Config} (ts : Timeslot) (shared : Shared)
    {slot : Slot} {part : SlotEvent} (opensNot : ¬ part.Opens cfg slot) :
    (slotStep dmr cfg ts shared slot part).2.1.inCall.KeptOrOver slot.inCall :=
  (slotStep_unopened dmr ts shared opensNot).2.1

/-- What has occurred on a timeslot in a run, as its steps see it. -/
def SlotOccurs (dmr : DmrUtils) (cfg : Config) (ts : Timeslot) (watched : Slot → SlotEvent → Prop)
    (tr : Translator) (events : List Event) : Prop :=
  (translator dmr cfg).Occurs (fun tr event => ∃ part ∈ event.atSlot ts, watched (tr.slot ts) part)
    tr events

/-- A relation that follows what has occurred on a timeslot holds after a run. -/
theorem slot_run_occurs (dmr : DmrUtils) (cfg : Config) (ts : Timeslot)
    (condition watched : Slot → SlotEvent → Prop) (relation : Prop → Slot → Prop)
    (kept : ∀ shared slot part seen, condition slot part → relation seen slot →
      relation (seen ∨ watched slot part) (slotStep dmr cfg ts shared slot part).2.1)
    (tr : Translator) (events : List Event)
    (met : SlotMeets dmr cfg ts (fun _ => condition) tr events) (seen : Prop)
    (start : relation seen (tr.slot ts)) :
    relation (seen ∨ SlotOccurs dmr cfg ts watched tr events)
      (((translator dmr cfg).run tr events).1.slot ts) := by
  refine (translator dmr cfg).run_occurs _ _ (fun seen tr => relation seen (tr.slot ts)) ?_ [] tr
    events met seen start
  intro log tr event seen admitted holds
  cases found : event.atSlot ts with
  | none =>
      rw [show ((translator dmr cfg).step tr event).1.slot ts = tr.slot ts from
        (Translator.step_unseen dmr cfg tr found).1]
      simpa using holds
  | some part =>
      rw [show ((translator dmr cfg).step tr event).1.slot ts =
        (slotStep dmr cfg ts tr.shared (tr.slot ts) part).2.1 from
          (Translator.step_seen dmr cfg tr found).1]
      simpa using kept tr.shared (tr.slot ts) part seen (admitted part found) holds

end Ipsc2Hbp
