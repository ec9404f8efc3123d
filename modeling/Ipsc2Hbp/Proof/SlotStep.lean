import Ipsc2Hbp.Construction.Translator
import Ipsc2Hbp.Proof.Inbound
import Ipsc2Hbp.Proof.Outbound

namespace Ipsc2Hbp
open BigEndian

/-- The callbacks as one timeslot sees them. -/
inductive SlotEvent where
  | ipscVoice (connected : Bool) (data : Bytes) (burstType : UInt8) (urandom : StreamId)
      (clock : Clock)
  | hbpFrame (frame : HbpFrame) (draw : RtpDraw) (clock : Clock)
  | drain (clock : Clock)
  | checkCallTimeouts (timeout : Time) (clock : Clock)
  | peerLost
  | hbpDisconnected

/-- The fields of a frame have their widths. -/
structure HbpFrame.Wide (frame : HbpFrame) : Prop where
  srcSub : frame.srcSub.length = 3
  dstGroup : frame.dstGroup.length = 3
  stream : frame.stream.length = 4
  payload : frame.payload.length = 33

theorem HbpFrame.parse_wide (dmrd : Bytes) (flags : UInt8) (long : dmrdLen ≤ dmrd.length) :
    (HbpFrame.parse dmrd flags).Wide := by
  unfold dmrdLen at long
  constructor <;>
    simp only [parse, extract_length, dmrdSrcOff, dmrdDstOff, dmrdStreamOff, dmrdPayloadOff] <;>
    omega

/-- The frame of a datagram that passes the checks of `hbp_voice_received`. -/
def acceptedFrame (registered : Bool) (dmrd : Bytes) : Option HbpFrame :=
  if registered && dmrdLen ≤ dmrd.length then
    (dmrd[dmrdFlagsOff]?).map (HbpFrame.parse dmrd)
  else none

theorem acceptedFrame_wide {registered : Bool} {dmrd : Bytes} {frame : HbpFrame}
    (accepted : acceptedFrame registered dmrd = some frame) : frame.Wide := by
  unfold acceptedFrame at accepted
  split at accepted
  case isTrue checked =>
    obtain ⟨flags, -, rfl⟩ := Option.map_eq_some_iff.mp accepted
    simp only [Bool.and_eq_true, decide_eq_true_eq] at checked
    exact HbpFrame.parse_wide dmrd flags checked.2
  case isFalse => cases accepted

/-- A datagram either has a frame for one timeslot or changes nothing. -/
theorem hbpVoiceReceived_eq (dmr : DmrUtils) (cfg : Config) (registered : Bool) (dmrd : Bytes)
    (draw : RtpDraw) (clock : Clock) (tr : Translator) :
    hbpVoiceReceived dmr cfg registered dmrd draw clock tr =
      match acceptedFrame registered dmrd with
      | none => (tr, [])
      | some frame => tr.onSlot frame.timeslot (hbpFrameReceived dmr cfg frame draw clock) := by
  unfold hbpVoiceReceived acceptedFrame
  cases registered with
  | false => rfl
  | true =>
      by_cases short : dmrd.length < dmrdLen
      · simp [short, Nat.not_le_of_lt short]
      · have long : dmrdLen ≤ dmrd.length := Nat.le_of_not_lt short
        have inside : dmrdFlagsOff < dmrd.length := lt_of_lt_of_le (by decide) long
        simp [short, long, List.getElem?_eq_getElem inside]

/-- The part of a callback that concerns the timeslot. -/
def Event.atSlot (ts : Timeslot) : Event → Option SlotEvent
  | .ipscVoice connected data other burstType urandom clock =>
      if other = ts then some (.ipscVoice connected data burstType urandom clock) else none
  | .hbpVoice registered dmrd draw clock =>
      match acceptedFrame registered dmrd with
      | none => none
      | some frame => if frame.timeslot = ts then some (.hbpFrame frame draw clock) else none
  | .drain other clock => if other = ts then some (.drain clock) else none
  | .checkCallTimeouts timeout clock => some (.checkCallTimeouts timeout clock)
  | .peerRegistered => none
  | .peerLost => some .peerLost
  | .hbpDisconnected => some .hbpDisconnected

/-- The callbacks that concern the timeslot, each with its part. -/
inductive Event.AtSlot (ts : Timeslot) : Event → SlotEvent → Prop
  | ipscVoice (connected : Bool) (data : Bytes) (burstType : UInt8) (urandom : StreamId)
      (clock : Clock) :
      AtSlot ts (.ipscVoice connected data ts burstType urandom clock)
        (.ipscVoice connected data burstType urandom clock)
  | hbpVoice (registered : Bool) (dmrd : Bytes) (frame : HbpFrame) (draw : RtpDraw) (clock : Clock)
      (accepted : acceptedFrame registered dmrd = some frame) (here : frame.timeslot = ts) :
      AtSlot ts (.hbpVoice registered dmrd draw clock) (.hbpFrame frame draw clock)
  | drain (clock : Clock) : AtSlot ts (.drain ts clock) (.drain clock)
  | checkCallTimeouts (timeout : Time) (clock : Clock) :
      AtSlot ts (.checkCallTimeouts timeout clock) (.checkCallTimeouts timeout clock)
  | peerLost : AtSlot ts .peerLost .peerLost
  | hbpDisconnected : AtSlot ts .hbpDisconnected .hbpDisconnected

theorem Event.atSlot_cases {ts : Timeslot} {event : Event} {part : SlotEvent}
    (seen : event.atSlot ts = some part) : event.AtSlot ts part := by
  cases event with
  | ipscVoice connected data other burstType urandom clock =>
      simp only [atSlot, Option.ite_none_right_eq_some] at seen
      obtain ⟨rfl, rfl⟩ := seen.imp_right Option.some.inj
      exact .ipscVoice connected data burstType urandom clock
  | hbpVoice registered dmrd draw clock =>
      simp only [atSlot] at seen
      split at seen
      case h_1 => cases seen
      case h_2 frame accepted =>
        rw [Option.ite_none_right_eq_some] at seen
        obtain ⟨here, rfl⟩ := seen.imp_right Option.some.inj
        exact .hbpVoice registered dmrd frame draw clock accepted here
  | drain other clock =>
      simp only [atSlot, Option.ite_none_right_eq_some] at seen
      obtain ⟨rfl, rfl⟩ := seen.imp_right Option.some.inj
      exact .drain clock
  | checkCallTimeouts timeout clock =>
      obtain rfl := Option.some.inj seen
      exact .checkCallTimeouts timeout clock
  | peerLost =>
      obtain rfl := Option.some.inj seen
      exact .peerLost
  | hbpDisconnected =>
      obtain rfl := Option.some.inj seen
      exact .hbpDisconnected
  | peerRegistered => cases seen

/-- What the accepted frames of a timeslot have in common. -/
def SlotEvent.Formed (ts : Timeslot) : SlotEvent → Prop
  | .hbpFrame frame _ _ => frame.Wide ∧ frame.timeslot = ts
  | _ => True

theorem Event.atSlot_formed {ts : Timeslot} {event : Event} {part : SlotEvent}
    (seen : event.atSlot ts = some part) : part.Formed ts := by
  cases Event.atSlot_cases seen with
  | hbpVoice registered dmrd frame draw clock accepted here =>
      exact ⟨acceptedFrame_wide accepted, here⟩
  | ipscVoice | drain | checkCallTimeouts | peerLost | hbpDisconnected => trivial

/-- The shared fields after `peer_lost`. -/
def Shared.forgetPeer (shared : Shared) : Shared :=
  { shared with peerCallType := [0x02], peerCallCtrl := [0x00, 0x00, 0x43, 0xe2] }

/-- The callback's work on one timeslot. -/
def slotStep (dmr : DmrUtils) (cfg : Config) (ts : Timeslot) (shared : Shared) (slot : Slot) :
    SlotEvent → Shared × Slot × List Action
  | .ipscVoice connected data burstType urandom clock =>
      ipscVoiceReceived dmr cfg connected data ts burstType urandom clock shared slot
  | .hbpFrame frame draw clock => hbpFrameReceived dmr cfg frame draw clock shared slot
  | .drain clock =>
      let drained := drainHbpToIpscQueue cfg clock slot
      (shared, drained.1, drained.2)
  | .checkCallTimeouts timeout clock => (shared, checkCallTimeouts cfg timeout clock ts slot, [])
  | .peerLost => (shared.forgetPeer, peerLostSlot slot, [])
  | .hbpDisconnected => (shared, disconnectSlot slot, [])

/-- The log of one handler is read back on its own timeslot only. -/
theorem slotActions_map (ts other : Timeslot) (actions : List Action) :
    slotActions ts (actions.map (Output.slot other)) = if other = ts then actions else [] := by
  unfold slotActions
  rw [List.filterMap_map]
  split
  case isTrue here => simp [here]
  case isFalse apart => simp [apart]

@[simp] theorem slotActions_append (ts : Timeslot) (first second : List Output) :
    slotActions ts (first ++ second) = slotActions ts first ++ slotActions ts second :=
  List.filterMap_append

/-- A handler of one timeslot is seen there and nowhere else. -/
theorem Translator.onSlot_at (tr : Translator) (ts other : Timeslot)
    (handler : Shared → Slot → Shared × Slot × List Action) :
    ((tr.onSlot other handler).1.slot ts, slotActions ts (tr.onSlot other handler).2) =
      if other = ts then (handler tr.shared (tr.slot ts)).2 else (tr.slot ts, []) := by
  simp only [onSlot, slotActions_map]
  by_cases here : other = ts
  · subst here
    simp
  · simp [here, Function.update_of_ne (Ne.symm here)]

/-- One step of the translator on a timeslot is the slot's own step, or nothing. -/
theorem Translator.step_at (dmr : DmrUtils) (cfg : Config) (ts : Timeslot) (tr : Translator)
    (event : Event) :
    ((Translator.step dmr cfg tr event).1.slot ts,
        slotActions ts (Translator.step dmr cfg tr event).2) =
      match event.atSlot ts with
      | none => (tr.slot ts, [])
      | some part => (slotStep dmr cfg ts tr.shared (tr.slot ts) part).2 := by
  cases event with
  | ipscVoice connected data other burstType urandom clock =>
      simp only [step, Event.atSlot, onSlot_at]
      by_cases here : other = ts
      · subst here
        simp [slotStep]
      · simp [here]
  | hbpVoice registered dmrd draw clock =>
      simp only [step, Event.atSlot, hbpVoiceReceived_eq]
      cases accepted : acceptedFrame registered dmrd with
      | none => rfl
      | some frame =>
          simp only [onSlot_at]
          by_cases here : frame.timeslot = ts <;> simp [here, slotStep]
  | drain other clock =>
      simp only [step, Event.atSlot, onSlot_at]
      by_cases here : other = ts <;> simp [here, slotStep]
  | checkCallTimeouts timeout clock => rfl
  | peerRegistered =>
      simp only [step, Event.atSlot]
      split <;> rfl
  | peerLost =>
      simp only [step, Event.atSlot, slotStep, mapSlots]
      split <;> rfl
  | hbpDisconnected => rfl

/-- A callback that concerns the timeslot does its work there. -/
theorem Translator.step_seen (dmr : DmrUtils) (cfg : Config) {ts : Timeslot} (tr : Translator)
    {event : Event} {part : SlotEvent} (seen : event.atSlot ts = some part) :
    (Translator.step dmr cfg tr event).1.slot ts =
        (slotStep dmr cfg ts tr.shared (tr.slot ts) part).2.1 ∧
      slotActions ts (Translator.step dmr cfg tr event).2 =
        (slotStep dmr cfg ts tr.shared (tr.slot ts) part).2.2 := by
  have step := Translator.step_at dmr cfg ts tr event
  rw [seen] at step
  exact Prod.mk.inj step

/-- A callback that concerns the timeslot leaves the shared fields that its work there leaves. -/
theorem Translator.step_seen_shared (dmr : DmrUtils) (cfg : Config) {ts : Timeslot} (tr : Translator)
    {event : Event} {part : SlotEvent} (seen : event.atSlot ts = some part) :
    (Translator.step dmr cfg tr event).1.shared =
      (slotStep dmr cfg ts tr.shared (tr.slot ts) part).1 := by
  cases Event.atSlot_cases seen with
  | hbpVoice registered dmrd frame draw clock accepted here =>
      subst here
      simp only [step, hbpVoiceReceived_eq, accepted]
      rfl
  | ipscVoice | drain | checkCallTimeouts | peerLost | hbpDisconnected => rfl

/-- A callback that does not concern the timeslot leaves it alone. -/
theorem Translator.step_unseen (dmr : DmrUtils) (cfg : Config) {ts : Timeslot} (tr : Translator)
    {event : Event} (unseen : event.atSlot ts = none) :
    (Translator.step dmr cfg tr event).1.slot ts = tr.slot ts ∧
      slotActions ts (Translator.step dmr cfg tr event).2 = [] := by
  have step := Translator.step_at dmr cfg ts tr event
  rw [unseen] at step
  exact Prod.mk.inj step

/-- The learned call type and control have the widths of their fields. -/
structure Shared.Wide (shared : Shared) : Prop where
  peerCallType : shared.peerCallType.length = 1
  peerCallCtrl : shared.peerCallCtrl.length = 4

theorem Shared.learn_wide {shared : Shared} (wide : shared.Wide) (data : Bytes) :
    (shared.learn data).Wide := by
  unfold learn
  split
  case isTrue long =>
    constructor <;> simp only [extract_length] <;> omega
  case isFalse => exact wide

/-- Every callback keeps the widths of the shared fields. -/
theorem Translator.step_wide (dmr : DmrUtils) (cfg : Config) (tr : Translator) (event : Event)
    (wide : tr.shared.Wide) : (Translator.step dmr cfg tr event).1.shared.Wide := by
  cases event with
  | ipscVoice connected data ts burstType urandom clock =>
      have learned := tr.shared.learn_wide wide data
      rcases ipscVoiceReceived_shared dmr cfg connected data ts burstType urandom clock tr.shared
        (tr.slot ts) with same | ⟨seq, counted⟩
      · simpa only [step, onSlot, same] using wide
      · simp only [step, onSlot, counted]
        exact ⟨learned.peerCallType, learned.peerCallCtrl⟩
  | hbpVoice registered dmrd draw clock =>
      simp only [step, hbpVoiceReceived_eq]
      cases acceptedFrame registered dmrd with
      | none => exact wide
      | some frame =>
          obtain ⟨counter, counted⟩ := hbpFrameReceived_shared dmr cfg frame draw clock tr.shared
            (tr.slot frame.timeslot)
          simp only [onSlot, counted]
          exact ⟨wide.peerCallType, wide.peerCallCtrl⟩
  | drain | checkCallTimeouts | peerRegistered | hbpDisconnected => exact wide
  | peerLost => exact ⟨rfl, rfl⟩

/-- A timeout keeps or closes each call. -/
theorem checkCallTimeouts_frame (cfg : Config) (timeout : Time) (clock : Clock) (ts : Timeslot)
    (slot : Slot) :
    let after := checkCallTimeouts cfg timeout clock ts slot
    (after.outCall = slot.outCall ∨ after.outCall.streamId = none) ∧
      (after.inCall = slot.inCall ∨ after.inCall = resetHbpToIpscState slot.inCall) := by
  unfold checkCallTimeouts checkInTimeout checkOutTimeout endHbpCall
  constructor
  · split_ifs
    · exact .inr rfl
    · exact .inr rfl
    · exact .inl rfl
    · exact .inl rfl
  · split_ifs
    · exact .inr rfl
    · exact .inl rfl
    · exact .inr rfl
    · exact .inl rfl

/-- A timeout leaves the pacing queue alone. -/
theorem checkCallTimeouts_tx (cfg : Config) (timeout : Time) (clock : Clock) (ts : Timeslot)
    (slot : Slot) : (checkCallTimeouts cfg timeout clock ts slot).tx = slot.tx := by
  unfold checkCallTimeouts checkInTimeout checkOutTimeout endHbpCall
  split_ifs <;> rfl

/-- The shared fields keep their widths in every run. -/
theorem translator_run_wide (dmr : DmrUtils) (cfg : Config) (tr : Translator) (events : List Event)
    (wide : tr.shared.Wide) : ((translator dmr cfg).run tr events).1.shared.Wide :=
  (translator dmr cfg).run_invariant (fun tr => tr.shared.Wide) (Translator.step_wide dmr cfg) tr
    events wide

theorem Translator.initial_wide : Translator.initial.shared.Wide := ⟨rfl, rfl⟩

/-- The steps of a run that concern the timeslot meet the condition, which reads the log of the
timeslot, its state and its part of the callback. -/
def SlotMeets (dmr : DmrUtils) (cfg : Config) (ts : Timeslot)
    (condition : List Action → Slot → SlotEvent → Prop) (tr : Translator) (events : List Event) :
    Prop :=
  (translator dmr cfg).Meets
    (fun log tr event => ∀ part ∈ event.atSlot ts, condition (slotActions ts log) (tr.slot ts) part)
    [] tr events

instance decidableSlotMeets (dmr : DmrUtils) (cfg : Config) (ts : Timeslot)
    (condition : List Action → Slot → SlotEvent → Prop)
    [∀ log slot part, Decidable (condition log slot part)]
    (tr : Translator) (events : List Event) : Decidable (SlotMeets dmr cfg ts condition tr events) :=
  inferInstanceAs (Decidable ((translator dmr cfg).Meets _ [] tr events))

theorem slotMeets_of_forall (dmr : DmrUtils) (cfg : Config) (ts : Timeslot)
    (condition : List Action → Slot → SlotEvent → Prop)
    (always : ∀ log slot part, condition log slot part) (tr : Translator) (events : List Event) :
    SlotMeets dmr cfg ts condition tr events :=
  (translator dmr cfg).meets_of_forall _ (fun _ tr _ part _ => always _ (tr.slot ts) part) [] tr
    events

/-- A condition on the callbacks of a timeslot may be checked along with another. -/
theorem SlotMeets.and_events {dmr : DmrUtils} {cfg : Config} {ts : Timeslot}
    {condition : List Action → Slot → SlotEvent → Prop} {tr : Translator} {events : List Event}
    (met : SlotMeets dmr cfg ts condition tr events) {good : SlotEvent → Prop}
    (all : ∀ event ∈ events, ∀ part ∈ event.atSlot ts, good part) :
    SlotMeets dmr cfg ts (fun log slot part => condition log slot part ∧ good part) tr events :=
  (Mealy.Meets.and_events met all).imp fun _ _ _ both part seen => ⟨both.1 part seen, both.2 part seen⟩

/-- What every admitted step on a timeslot keeps of its log and state, a whole run keeps. -/
theorem slot_run_invariant (dmr : DmrUtils) (cfg : Config) (ts : Timeslot)
    (condition : List Action → Slot → SlotEvent → Prop) (relation : List Action → Slot → Prop)
    (kept : ∀ log shared slot part, shared.Wide → part.Formed ts → condition log slot part →
      relation log slot → relation (log ++ (slotStep dmr cfg ts shared slot part).2.2)
        (slotStep dmr cfg ts shared slot part).2.1)
    (tr : Translator) (events : List Event) (wide : tr.shared.Wide)
    (met : SlotMeets dmr cfg ts condition tr events) (start : relation [] (tr.slot ts)) :
    relation (slotActions ts ((translator dmr cfg).run tr events).2)
      (((translator dmr cfg).run tr events).1.slot ts) := by
  have all := (translator dmr cfg).run_log_invariant _
    (fun log tr => tr.shared.Wide ∧ relation (slotActions ts log) (tr.slot ts)) ?_ [] tr events met
    ⟨wide, start⟩
  · exact all.2
  · rintro log tr event admitted ⟨wide, holds⟩
    refine ⟨Translator.step_wide dmr cfg tr event wide, ?_⟩
    rw [slotActions_append]
    change relation (_ ++ slotActions ts (Translator.step dmr cfg tr event).2)
      ((Translator.step dmr cfg tr event).1.slot ts)
    cases seen : event.atSlot ts with
    | none =>
        obtain ⟨state, silent⟩ := Translator.step_unseen dmr cfg tr seen
        rw [state, silent, List.append_nil]
        exact holds
    | some part =>
        obtain ⟨state, actions⟩ := Translator.step_seen dmr cfg tr seen
        rw [state, actions]
        exact kept _ _ _ _ wide (Event.atSlot_formed seen) (admitted _ seen) holds

/-- What every step on a timeslot keeps of its log and state, a whole run keeps. -/
theorem slot_run_always (dmr : DmrUtils) (cfg : Config) (ts : Timeslot)
    (relation : List Action → Slot → Prop)
    (kept : ∀ log shared slot part, shared.Wide → part.Formed ts → relation log slot →
      relation (log ++ (slotStep dmr cfg ts shared slot part).2.2)
        (slotStep dmr cfg ts shared slot part).2.1)
    (events : List Event) (start : relation [] (Translator.initial.slot ts)) :
    relation (slotActions ts ((translator dmr cfg).run Translator.initial events).2)
      (((translator dmr cfg).run Translator.initial events).1.slot ts) :=
  slot_run_invariant dmr cfg ts (fun _ _ _ => True) relation
    (fun log shared slot part wide formed _ => kept log shared slot part wide formed)
    Translator.initial events Translator.initial_wide
    (slotMeets_of_forall dmr cfg ts _ (fun _ _ _ => trivial) _ events) start

end Ipsc2Hbp
